import TauriPlatform.NativeSessionStore
import TauriPlatform.SessionRuns
import TauriPlatform.ReadingRange

/-!
# Agreement of the two sessions

`UserSessionService` and `NativeSessionStore` each hold a session, and one call of the
service updates both in turn.  Whether they agree after the call depends on where it fails
and on what the two held before.
-/

namespace TauriPlatform

open Async Relational

def Session.Names (session : Session) (principal : NativePrincipal) : Prop :=
  session.userId = principal.userId ∧ session.deviceId = principal.deviceId ∧
    session.organisationId = principal.organisationId

/-- There is a current session exactly when there is a principal, and it is that of the
principal. -/
def SessionPair.Agree (pair : SessionPair) : Prop :=
  match pair.session, pair.store.current with
  | none, none => True
  | some session, some principal => session.Names principal
  | _, _ => False

namespace UserSessionService

/-! ## What an establishment checks -/

def UserTrusted (database : IdentityDatabase) (userId organisationId : String) : Prop :=
  ∃ user ∈ database.users, user.id = userId ∧ user.status = "ACTIVE" ∧
    user.organisationId = organisationId

def DeviceTrusted (database : IdentityDatabase) (deviceId userId : String) : Prop :=
  ∃ device ∈ database.devices, device.deviceId = deviceId ∧
    isApprovedDevice device userId = true

theorem head?_users {database : IdentityDatabase} {userId : String} {user : SessionUserRow} :
    ((database.users.select fun row => row.id = userId).take 1).head? = some user ↔
      user ∈ database.users ∧ user.id = userId := by
  have hhead : (database.users.select fun row => some row.id = some userId).head? = some user ↔
      user ∈ database.users ∧ some user.id = some userId :=
    Table.head?_select_eq_some_iff (fun row : SessionUserRow => some row.id)
      List.mem_cons_self
  simpa [List.head?_take] using hhead

theorem head?_devices {database : IdentityDatabase} {deviceId : String}
    {device : SessionDeviceRow} :
    ((database.devices.select fun row => row.deviceId = deviceId).take 1).head? =
        some device ↔
      device ∈ database.devices ∧ device.deviceId = deviceId := by
  have hhead : (database.devices.select fun row => some row.deviceId = some deviceId).head? =
      some device ↔ device ∈ database.devices ∧ some device.deviceId = some deviceId :=
    Table.head?_select_eq_some_iff (fun row : SessionDeviceRow => some row.deviceId)
      List.mem_cons_self
  simpa [List.head?_take] using hhead

end UserSessionService

namespace SessionEnvironment

open UserSessionService

variable (environment : SessionEnvironment)

def ReadFails (read : Nat) : Prop :=
  ∃ thrown, environment.reads read = .error thrown

/-- The read succeeds, on a database of which `check` holds. -/
def Finds (read : Nat) (check : IdentityDatabase → Prop) : Prop :=
  ∃ database, environment.reads read = .ok database ∧ check database

def Installs (view : NativeSessionView) : Prop :=
  environment.Finds 0 (UserTrusted · view.userId view.organisationId) ∧
    environment.Finds 1 (DeviceTrusted · view.deviceId view.userId) ∧
      ¬ environment.ReadFails 2

def Interrupts (view : NativeSessionView) : Prop :=
  environment.ReadFails 0 ∨
    environment.Finds 0 (UserTrusted · view.userId view.organisationId) ∧
      (environment.ReadFails 1 ∨
        environment.Finds 1 (DeviceTrusted · view.deviceId view.userId) ∧
          environment.ReadFails 2)

variable {environment}

variable {database : IdentityDatabase}

theorem not_readFails {read : Nat} (hread : environment.reads read = .ok database) :
    ¬ environment.ReadFails read := by
  rintro ⟨thrown, hfails⟩
  rw [hread] at hfails
  cases hfails

theorem finds_iff {read : Nat} {check : IdentityDatabase → Prop}
    (hread : environment.reads read = .ok database) :
    environment.Finds read check ↔ check database := by
  constructor
  · rintro ⟨found, hfound, hcheck⟩
    rw [hread] at hfound
    cases hfound
    exact hcheck
  · intro hcheck
    exact ⟨database, hread, hcheck⟩

theorem refuses_of_user {view : NativeSessionView} (hread : environment.reads 0 = .ok database)
    (huser : ¬ UserTrusted database view.userId view.organisationId) :
    ¬ environment.Installs view ∧ ¬ environment.Interrupts view := by
  have hfinds : ¬ environment.Finds 0 (UserTrusted · view.userId view.organisationId) := by
    rwa [finds_iff hread]
  constructor
  · intro hinstalls
    exact hfinds hinstalls.1
  · intro hinterrupts
    cases hinterrupts with
    | inl hfails => exact not_readFails hread hfails
    | inr hlater => exact hfinds hlater.1

theorem refuses_of_device {view : NativeSessionView} {database' : IdentityDatabase}
    (hread : environment.reads 0 = .ok database) (hread' : environment.reads 1 = .ok database')
    (hdevice : ¬ DeviceTrusted database' view.deviceId view.userId) :
    ¬ environment.Installs view ∧ ¬ environment.Interrupts view := by
  have hfinds : ¬ environment.Finds 1 (DeviceTrusted · view.deviceId view.userId) := by
    rwa [finds_iff hread']
  constructor
  · intro hinstalls
    exact hfinds hinstalls.2.1
  · intro hinterrupts
    cases hinterrupts with
    | inl hfails => exact not_readFails hread hfails
    | inr hlater =>
        cases hlater.2 with
        | inl hfails => exact not_readFails hread' hfails
        | inr hroles => exact hfinds hroles.1

end SessionEnvironment

namespace UserSessionService

/-! ## One establishment -/

variable {environment : SessionEnvironment} {run : SessionRun}

section Reads

variable {Row : Type} {statement : Statement IdentityDatabase Row}

theorem query_run_error {read : Nat} {thrown : Thrown} (hcount : run.reads = read)
    (hread : environment.reads read = .error thrown) :
    (query statement).run environment.handler run =
      (.error thrown, { run with reads := run.reads + 1 }) := by
  simp only [query, Program.run_await, SessionEnvironment.handler, hcount, hread]

theorem query_run_ok {read : Nat} {database : IdentityDatabase}
    {rows : IdentityDatabase → List Row} (hcount : run.reads = read)
    (hread : environment.reads read = .ok database)
    (heffect : statement.effect = .read rows) :
    (query statement).run environment.handler run =
      (.ok (rows database), { run with reads := run.reads + 1 }) := by
  simp only [query, Program.run_await, SessionEnvironment.handler, hcount, hread,
    memoryConnection, Statement.run, heffect]

end Reads

theorem rejectSession_run {α : Type} (thrown : Thrown) :
    (rejectSession thrown : Program SessionCall Thrown α).run environment.handler run =
      (.error thrown, { run with pair := { run.pair with session := none } }) := by
  simp only [rejectSession, invalidateSession, Program.run_bind, Program.run_await,
    SessionEnvironment.handler, Program.run_throw]

inductive Established (environment : SessionEnvironment) (view : NativeSessionView)
    (before : Option Session) : Option Session → Prop
  | installed (session : Session) :
      environment.Installs view → session.userId = view.userId →
        session.deviceId = view.deviceId → session.organisationId = view.organisationId →
          session.expiresAt = none → Established environment view before (some session)
  | interrupted : environment.Interrupts view → Established environment view before before
  | refused : ¬ environment.Installs view → ¬ environment.Interrupts view →
      Established environment view before none

theorem userTrusted_iff {database : IdentityDatabase} {userId organisationId : String} :
    UserTrusted database userId organisationId ↔
      ∃ user, (((database.users.select fun row => row.id = userId).take 1).head?.filter
        fun user => user.status = "ACTIVE") = some user ∧
          user.organisationId = organisationId := by
  constructor
  · rintro ⟨user, hmem, hid, hactive, horganisation⟩
    refine ⟨user, ?_, horganisation⟩
    rw [Option.filter_eq_some_iff, head?_users]
    exact ⟨⟨hmem, hid⟩, decide_eq_true hactive⟩
  · rintro ⟨user, huser, horganisation⟩
    rw [Option.filter_eq_some_iff, head?_users] at huser
    obtain ⟨⟨hmem, hid⟩, hactive⟩ := huser
    exact ⟨user, hmem, hid, of_decide_eq_true hactive, horganisation⟩

theorem deviceTrusted_iff {database : IdentityDatabase} {deviceId userId : String} :
    DeviceTrusted database deviceId userId ↔
      ∃ device, (((database.devices.select fun row => row.deviceId = deviceId).take 1).head?.filter
        fun device => isApprovedDevice device userId) = some device := by
  constructor
  · rintro ⟨device, hmem, hid, happroved⟩
    refine ⟨device, ?_⟩
    rw [Option.filter_eq_some_iff, head?_devices]
    exact ⟨⟨hmem, hid⟩, happroved⟩
  · rintro ⟨device, hdevice⟩
    rw [Option.filter_eq_some_iff, head?_devices] at hdevice
    obtain ⟨⟨hmem, hid⟩, happroved⟩ := hdevice
    exact ⟨device, hmem, hid, happroved⟩

theorem establish_cases (sessionId : String) (now : ClockReading) (view : NativeSessionView)
    (hfirst : run.reads = 0) :
    ∃ outcome session reads,
      (establishFromNativeSession sessionId now view).run environment.handler run =
        (outcome, ⟨{ run.pair with session := session }, reads⟩) ∧
          Established environment view run.pair.session session := by
  have hsecond : run.reads + 1 = 1 := congrArg (· + 1) hfirst
  have hthird : run.reads + 1 + 1 = 2 := congrArg (· + 2) hfirst
  unfold establishFromNativeSession
  cases hread : environment.reads 0 with
  | error thrown =>
      rw [Program.run_bind_error _ (query_run_error hfirst hread)]
      exact ⟨_, _, _, rfl, .interrupted (Or.inl ⟨thrown, hread⟩)⟩
  | ok database =>
      rw [Program.run_bind_ok _ (query_run_ok hfirst hread rfl)]
      by_cases huser : UserTrusted database view.userId view.organisationId
      · have hfoundUser :
            environment.Finds 0 (UserTrusted · view.userId view.organisationId) :=
          (SessionEnvironment.finds_iff hread).mpr huser
        obtain ⟨user, hhead, horganisation⟩ := userTrusted_iff.mp huser
        rw [hhead]
        simp only [horganisation, ne_eq, not_true_eq_false, if_false]
        cases hread' : environment.reads 1 with
        | error thrown =>
            rw [Program.run_bind_error _ (query_run_error hsecond hread')]
            exact ⟨_, _, _, rfl, .interrupted (Or.inr ⟨hfoundUser, Or.inl ⟨thrown, hread'⟩⟩)⟩
        | ok database' =>
            rw [Program.run_bind_ok _ (query_run_ok hsecond hread' rfl)]
            by_cases hdevice : DeviceTrusted database' view.deviceId view.userId
            · have hfoundDevice :
                  environment.Finds 1 (DeviceTrusted · view.deviceId view.userId) :=
                (SessionEnvironment.finds_iff hread').mpr hdevice
              obtain ⟨device, hhead'⟩ := deviceTrusted_iff.mp hdevice
              rw [hhead']
              cases hread'' : environment.reads 2 with
              | error thrown =>
                  dsimp only
                  rw [Program.run_bind_error _ (query_run_error hthird hread'')]
                  exact ⟨_, _, _, rfl, .interrupted
                    (Or.inr ⟨hfoundUser, Or.inr ⟨hfoundDevice, thrown, hread''⟩⟩)⟩
              | ok database'' =>
                  dsimp only
                  rw [Program.run_bind_ok _ (query_run_ok hthird hread'' rfl)]
                  have hinstalls : environment.Installs view :=
                    ⟨hfoundUser, hfoundDevice, SessionEnvironment.not_readFails hread''⟩
                  exact ⟨_, _, _, rfl, .installed _ hinstalls rfl rfl rfl rfl⟩
            · have hrefuses := SessionEnvironment.refuses_of_device hread hread' hdevice
              rw [Option.eq_none_iff_forall_ne_some.mpr fun device hhead =>
                hdevice (deviceTrusted_iff.mpr ⟨device, hhead⟩)]
              dsimp only
              rw [rejectSession_run]
              exact ⟨_, _, _, rfl, .refused hrefuses.1 hrefuses.2⟩
      · have hrefuses := SessionEnvironment.refuses_of_user hread huser
        cases hhead : (((database.users.select fun row => row.id = view.userId).take 1).head?.filter
            fun user => user.status = "ACTIVE") with
        | none =>
            dsimp only
            rw [rejectSession_run]
            exact ⟨_, _, _, rfl, .refused hrefuses.1 hrefuses.2⟩
        | some user =>
            have horganisation : user.organisationId ≠ view.organisationId :=
              fun heq => huser (userTrusted_iff.mpr ⟨user, hhead, heq⟩)
            dsimp only
            rw [if_pos horganisation, rejectSession_run]
            exact ⟨_, _, _, rfl, .refused hrefuses.1 hrefuses.2⟩

end UserSessionService

/-! ## One call -/

theorem SessionPair.agree_of_none {pair : SessionPair} (hnone : pair.store.current = none) :
    pair.Agree ↔ pair.session = none := by
  unfold SessionPair.Agree
  rw [hnone]
  cases pair.session with
  | none => simp
  | some session => simp

theorem SessionPair.agree_of_some {pair : SessionPair} {principal : NativePrincipal}
    (hsome : pair.store.current = some principal) :
    pair.Agree ↔ ∃ session, pair.session = some session ∧ session.Names principal := by
  unfold SessionPair.Agree
  rw [hsome]
  cases pair.session with
  | none => simp
  | some session => simp

theorem SessionPair.agree_signedOut {store : NativeSessionStore} :
    SessionPair.Agree ⟨none, store⟩ ↔ store.current = none := by
  unfold SessionPair.Agree
  cases store.current with
  | none => simp
  | some principal => simp

namespace SessionEnvironment

/-- The establishment leaves a session of the principal: it goes through, or it is
interrupted and the session before was already that of the principal. -/
def EstablishesFor (environment : SessionEnvironment) (principal : NativePrincipal)
    (before : Option Session) : Prop :=
  environment.Installs (sessionView principal) ∨
    environment.Interrupts (sessionView principal) ∧
      ∃ session, before = some session ∧ session.Names principal

theorem Interrupts.not_installs {environment : SessionEnvironment} {view : NativeSessionView}
    (hinterrupts : environment.Interrupts view) : ¬ environment.Installs view := by
  intro hinstalls
  obtain ⟨database, hread, -⟩ := hinstalls.1
  obtain ⟨database', hread', -⟩ := hinstalls.2.1
  cases hinterrupts with
  | inl hfails => exact not_readFails hread hfails
  | inr hlater =>
      cases hlater.2 with
      | inl hfails => exact not_readFails hread' hfails
      | inr hroles => exact hinstalls.2.2 hroles.2

end SessionEnvironment

namespace UserSessionService

variable {environment : SessionEnvironment} {run : SessionRun}
  {before session : Option Session} {store : NativeSessionStore} {principal : NativePrincipal}

theorem agree_established (hcurrent : store.current = some principal)
    (hestablished : Established environment (sessionView principal) before session) :
    SessionPair.Agree ⟨session, store⟩ ↔ environment.EstablishesFor principal before := by
  rw [SessionPair.agree_of_some hcurrent]
  cases hestablished with
  | installed session hinstalls huser hdevice horganisation _ =>
      constructor
      · intro _
        exact Or.inl hinstalls
      · intro _
        exact ⟨session, rfl, huser, hdevice, horganisation⟩
  | interrupted hinterrupts =>
      constructor
      · intro hnames
        exact Or.inr ⟨hinterrupts, hnames⟩
      · intro hestablishes
        cases hestablishes with
        | inl hinstalls => exact absurd hinstalls hinterrupts.not_installs
        | inr hkept => exact hkept.2
  | refused hnot hnot' =>
      constructor
      · rintro ⟨session, hsession, -⟩
        cases hsession
      · intro hestablishes
        cases hestablishes with
        | inl hinstalls => exact absurd hinstalls hnot
        | inr hkept => exact absurd hkept.1 hnot'

theorem establish_agree (sessionId : String) (now : ClockReading) (hfirst : run.reads = 0)
    (hcurrent : run.pair.store.current = some principal) :
    ((establishFromNativeSession sessionId now (sessionView principal)).run environment.handler
        run).2.pair.Agree ↔
      environment.EstablishesFor principal run.pair.session := by
  obtain ⟨outcome, session, reads, hrun, hestablished⟩ :=
    establish_cases sessionId now (sessionView principal) hfirst
  rw [hrun]
  exact agree_established hcurrent hestablished

namespace SessionOperation

/-- When a call leaves the two in agreement which agreed before it: the outcome of the
native command and the checks of the establishment, against what is held before. -/
def Meets (environment : SessionEnvironment) (pair : SessionPair) : SessionOperation → Prop
  | .authenticate request _ _ =>
      (request.userId = "" ∨ request.password = "") ∨
        match environment.delivery, environment.authenticateUser request with
        | .answered, .ok principal => environment.EstablishesFor principal pair.session
        | .answerLost _, .ok _ => False
        | _, _ => pair.store.current = none
  | .restoreNativeSession supported _ _ =>
      supported = false ∨
        match environment.delivery, pair.store.current with
        | .answered, some principal => environment.EstablishesFor principal pair.session
        | _, _ => True
  | .logout notifies =>
      match notifies, environment.delivery with
      | true, .answered => True
      | true, .notReached _ => True
      | true, .answerLost _ => pair.session = none
      | false, _ => pair.store.current = none

variable {pair : SessionPair}

variable {request : AuthenticateUserRequest} {sessionId : String} {now : ClockReading}
    {thrown : Thrown} {later : SessionRun}

theorem after_authenticate_error (hpresent : ¬ (request.userId = "" ∨ request.password = ""))
    (hinvoke : environment.invoke ⟨pair, 0⟩
      (NativeSessionStore.authenticate (environment.authenticateUser request)) =
        (.error thrown, later)) :
    (SessionOperation.authenticate request sessionId now).after environment pair =
      { later.pair with session := none } := by
  unfold SessionOperation.after SessionOperation.program UserSessionService.authenticate
  rw [Program.run_bind_pure_state, if_neg hpresent, Program.run_bind, Program.run_tryCatch,
    Program.run_await]
  simp only [SessionEnvironment.handler, hinvoke, rejectSession_run]

theorem after_authenticate_ok {view : NativeSessionView}
    (hpresent : ¬ (request.userId = "" ∨ request.password = ""))
    (hinvoke : environment.invoke ⟨pair, 0⟩
      (NativeSessionStore.authenticate (environment.authenticateUser request)) =
        (.ok view, later)) :
    (SessionOperation.authenticate request sessionId now).after environment pair =
      ((establishFromNativeSession sessionId now view).run environment.handler later).2.pair := by
  unfold SessionOperation.after SessionOperation.program UserSessionService.authenticate
  rw [Program.run_bind_pure_state, if_neg hpresent, Program.run_bind, Program.run_tryCatch,
    Program.run_await]
  simp only [SessionEnvironment.handler, hinvoke]

theorem after_authenticate_missing (hmissing : request.userId = "" ∨ request.password = "") :
    (SessionOperation.authenticate request sessionId now).after environment pair = pair := by
  unfold SessionOperation.after SessionOperation.program UserSessionService.authenticate
  rw [Program.run_bind_pure_state, if_pos hmissing]
  rfl

theorem after_authenticate (request : AuthenticateUserRequest) (sessionId : String)
    (now : ClockReading) (hagree : pair.Agree) :
    ((SessionOperation.authenticate request sessionId now).after environment pair).Agree ↔
      (SessionOperation.authenticate request sessionId now).Meets environment pair := by
  unfold SessionOperation.Meets
  by_cases hmissing : request.userId = "" ∨ request.password = ""
  · rw [after_authenticate_missing hmissing]
    exact iff_of_true hagree (Or.inl hmissing)
  · dsimp only
    rw [or_iff_right hmissing]
    cases hdelivery : environment.delivery with
    | answered =>
        cases hverdict : environment.authenticateUser request with
        | error error =>
            have hcommand := NativeSessionStore.authenticate_error error pair.store
            rw [← hverdict] at hcommand
            have hinvoke : environment.invoke ⟨pair, 0⟩ _ = _ :=
              SessionEnvironment.invoke_error hdelivery hcommand
            rw [after_authenticate_error hmissing hinvoke, SessionPair.agree_signedOut]
        | ok principal =>
            have hcommand := NativeSessionStore.authenticate_ok principal pair.store
            rw [← hverdict] at hcommand
            have hinvoke : environment.invoke ⟨pair, 0⟩ _ = _ :=
              SessionEnvironment.invoke_ok hdelivery hcommand
            rw [after_authenticate_ok hmissing hinvoke]
            exact establish_agree sessionId now rfl rfl
    | notReached thrown =>
        rw [after_authenticate_error hmissing (SessionEnvironment.invoke_notReached hdelivery),
          SessionPair.agree_signedOut]
    | answerLost thrown =>
        rw [after_authenticate_error hmissing (SessionEnvironment.invoke_answerLost hdelivery),
          SessionPair.agree_signedOut]
        cases environment.authenticateUser request with
        | error error => rw [NativeSessionStore.authenticate_error]
        | ok principal =>
            rw [NativeSessionStore.authenticate_ok]
            exact iff_of_false (Option.some_ne_none principal) id

theorem after_restore_error
    (hinvoke : environment.invoke ⟨pair, 0⟩ (fun store => (store.getCurrentSession, store)) =
      (.error thrown, later)) :
    (SessionOperation.restoreNativeSession true sessionId now).after environment pair =
      later.pair := by
  unfold SessionOperation.after SessionOperation.program UserSessionService.restoreNativeSession
  dsimp only
  rw [if_pos rfl, Program.run_bind, Program.run_await]
  simp only [SessionEnvironment.handler, hinvoke]

theorem after_restore_none
    (hinvoke : environment.invoke ⟨pair, 0⟩ (fun store => (store.getCurrentSession, store)) =
      (.ok none, later)) :
    (SessionOperation.restoreNativeSession true sessionId now).after environment pair =
      { later.pair with session := none } := by
  unfold SessionOperation.after SessionOperation.program UserSessionService.restoreNativeSession
  dsimp only
  rw [if_pos rfl, Program.run_bind, Program.run_await]
  simp only [SessionEnvironment.handler, hinvoke, invalidateSession, Program.run_bind,
    Program.run_await, Program.run_pure]

theorem after_restore_ok {view : NativeSessionView}
    (hinvoke : environment.invoke ⟨pair, 0⟩ (fun store => (store.getCurrentSession, store)) =
      (.ok (some view), later)) :
    (SessionOperation.restoreNativeSession true sessionId now).after environment pair =
      ((establishFromNativeSession sessionId now view).run environment.handler later).2.pair := by
  unfold SessionOperation.after SessionOperation.program UserSessionService.restoreNativeSession
  dsimp only
  rw [if_pos rfl, Program.run_bind, Program.run_await]
  simp only [SessionEnvironment.handler, hinvoke]
  rw [Program.run_bind_pure_state]

theorem after_restoreNativeSession (supported : Bool) (sessionId : String)
    (now : ClockReading) (hagree : pair.Agree) :
    ((SessionOperation.restoreNativeSession supported sessionId now).after environment
        pair).Agree ↔
      (SessionOperation.restoreNativeSession supported sessionId now).Meets environment pair := by
  unfold SessionOperation.Meets
  cases supported with
  | false => exact iff_of_true hagree (Or.inl rfl)
  | true =>
      dsimp only
      rw [or_iff_right (by decide)]
      cases hdelivery : environment.delivery with
      | answered =>
          cases hcurrent : pair.store.current with
          | none =>
              have hread := congrArg (·, pair.store)
                (NativeSessionStore.getCurrentSession_of_none hcurrent)
              have hinvoke : environment.invoke ⟨pair, 0⟩
                  (fun store => (store.getCurrentSession, store)) = (.error _, ⟨pair, 0⟩) :=
                SessionEnvironment.invoke_error hdelivery hread
              rw [after_restore_error hinvoke]
              exact iff_of_true hagree trivial
          | some principal =>
              have hread := congrArg (·, pair.store)
                (NativeSessionStore.getCurrentSession_of_some hcurrent)
              have hinvoke : environment.invoke ⟨pair, 0⟩
                  (fun store => (store.getCurrentSession, store)) =
                    (.ok (some (sessionView principal)), ⟨pair, 0⟩) :=
                SessionEnvironment.invoke_ok hdelivery hread
              rw [after_restore_ok hinvoke]
              exact establish_agree sessionId now rfl hcurrent
      | notReached thrown =>
          rw [after_restore_error (SessionEnvironment.invoke_notReached hdelivery)]
          exact iff_of_true hagree trivial
      | answerLost thrown =>
          rw [after_restore_error (SessionEnvironment.invoke_answerLost hdelivery)]
          exact iff_of_true hagree trivial

theorem after_logout_answered (hdelivery : environment.delivery = .answered) :
    (SessionOperation.logout true).after environment pair = ⟨none, pair.store.logout⟩ := by
  unfold SessionOperation.after SessionOperation.program UserSessionService.logout
  simp only [if_true, Program.run_bind, Program.run_await, SessionEnvironment.handler,
    SessionEnvironment.invoke, hdelivery, invalidateSession, Program.run_pure]

theorem after_logout_error
    (hinvoke : environment.invoke ⟨pair, 0⟩ (fun store => (.ok (), store.logout)) =
      (.error thrown, later)) :
    (SessionOperation.logout true).after environment pair = later.pair := by
  unfold SessionOperation.after SessionOperation.program UserSessionService.logout
  simp only [if_true, Program.run_bind, Program.run_await, SessionEnvironment.handler, hinvoke]

theorem after_logout (notifies : Bool) (hagree : pair.Agree) :
    ((SessionOperation.logout notifies).after environment pair).Agree ↔
      (SessionOperation.logout notifies).Meets environment pair := by
  unfold SessionOperation.Meets
  cases notifies with
  | false =>
      have hafter : (SessionOperation.logout false).after environment pair =
          { pair with session := none } := rfl
      rw [hafter, SessionPair.agree_signedOut]
  | true =>
      cases hdelivery : environment.delivery with
      | answered =>
          rw [after_logout_answered hdelivery, SessionPair.agree_signedOut]
          exact iff_of_true rfl trivial
      | notReached thrown =>
          rw [after_logout_error (SessionEnvironment.invoke_notReached hdelivery)]
          exact iff_of_true hagree trivial
      | answerLost thrown =>
          rw [after_logout_error (SessionEnvironment.invoke_answerLost hdelivery)]
          exact SessionPair.agree_of_none rfl

end SessionOperation

inductive SessionLeft (environment : SessionEnvironment) (before : Option Session) :
    Option Session → Prop
  | none : SessionLeft environment before none
  | kept : SessionLeft environment before before
  | installed (view : NativeSessionView) (session : Session) :
      environment.Installs view → session.userId = view.userId →
        session.deviceId = view.deviceId → session.organisationId = view.organisationId →
          session.expiresAt = Option.none → SessionLeft environment before (some session)

theorem establish_leaves (environment : SessionEnvironment) (sessionId : String)
    (now : ClockReading) (view : NativeSessionView) (hfirst : run.reads = 0) :
    SessionLeft environment run.pair.session
      ((establishFromNativeSession sessionId now view).run environment.handler
        run).2.pair.session := by
  obtain ⟨outcome, session, reads, hrun, hestablished⟩ :=
    establish_cases sessionId now view hfirst
  rw [hrun]
  cases hestablished with
  | installed session hinstalls huser hdevice horganisation hexpires =>
      exact .installed view session hinstalls huser hdevice horganisation hexpires
  | interrupted hinterrupts => exact .kept
  | refused hnot hnot' => exact .none

theorem SessionOperation.after_leaves (operation : SessionOperation)
    (environment : SessionEnvironment) (pair : SessionPair) :
    SessionLeft environment pair.session (operation.after environment pair).session := by
  cases operation with
  | authenticate request sessionId now =>
      by_cases hmissing : request.userId = "" ∨ request.password = ""
      · rw [after_authenticate_missing hmissing]
        exact .kept
      · have hsame := environment.invoke_unchanged ⟨pair, 0⟩
          (NativeSessionStore.authenticate (environment.authenticateUser request))
        match hinvoke : environment.invoke ⟨pair, 0⟩
            (NativeSessionStore.authenticate (environment.authenticateUser request)) with
        | (.error thrown, later) =>
            rw [after_authenticate_error hmissing hinvoke]
            exact .none
        | (.ok view, later) =>
            rw [hinvoke] at hsame
            rw [after_authenticate_ok hmissing hinvoke]
            have hleaves := establish_leaves environment sessionId now view hsame.2
            rwa [hsame.1] at hleaves
  | restoreNativeSession supported sessionId now =>
      cases supported with
      | false => exact .kept
      | true =>
          have hsame := environment.invoke_unchanged ⟨pair, 0⟩
            (fun store => (store.getCurrentSession, store))
          match hinvoke : environment.invoke ⟨pair, 0⟩
              (fun store => (store.getCurrentSession, store)) with
          | (.error thrown, later) =>
              rw [hinvoke] at hsame
              rw [after_restore_error hinvoke, hsame.1]
              exact .kept
          | (.ok none, later) =>
              rw [after_restore_none hinvoke]
              exact .none
          | (.ok (some view), later) =>
              rw [hinvoke] at hsame
              rw [after_restore_ok hinvoke]
              have hleaves := establish_leaves environment sessionId now view hsame.2
              rwa [hsame.1] at hleaves
  | logout notifies =>
      cases notifies with
      | false => exact .none
      | true =>
          cases hdelivery : environment.delivery with
          | answered =>
              rw [after_logout_answered hdelivery]
              exact .none
          | notReached thrown =>
              rw [after_logout_error (SessionEnvironment.invoke_notReached hdelivery)]
              exact .kept
          | answerLost thrown =>
              rw [after_logout_error (SessionEnvironment.invoke_answerLost hdelivery)]
              exact .kept

/-! ## Sequences of calls -/

/-- A call of the service which has settled, with what the outside did in its course. -/
structure SettledCall where
  operation : SessionOperation
  environment : SessionEnvironment

namespace SettledCall

def after (call : SettledCall) (pair : SessionPair) : SessionPair :=
  call.operation.after call.environment pair

theorem after_agree_iff (call : SettledCall) {pair : SessionPair} (hagree : pair.Agree) :
    (call.after pair).Agree ↔ call.operation.Meets call.environment pair := by
  obtain ⟨operation, environment⟩ := call
  cases operation with
  | authenticate request sessionId now =>
      exact SessionOperation.after_authenticate request sessionId now hagree
  | restoreNativeSession supported sessionId now =>
      exact SessionOperation.after_restoreNativeSession supported sessionId now hagree
  | logout notifies => exact SessionOperation.after_logout notifies hagree

end SettledCall

def AgreeThroughout : SessionPair → List SettledCall → Prop
  | _, [] => True
  | pair, call :: rest => (call.after pair).Agree ∧ AgreeThroughout (call.after pair) rest

def MeetThroughout : SessionPair → List SettledCall → Prop
  | _, [] => True
  | pair, call :: rest =>
      call.operation.Meets call.environment pair ∧ MeetThroughout (call.after pair) rest

theorem agreeThroughout_iff (calls : List SettledCall) :
    ∀ {pair : SessionPair}, pair.Agree → (AgreeThroughout pair calls ↔ MeetThroughout pair calls) := by
  induction calls with
  | nil =>
      intro pair _
      exact Iff.rfl
  | cons call rest ih =>
      intro pair hagree
      have hstep := call.after_agree_iff hagree
      constructor
      · rintro ⟨hafter, hrest⟩
        exact ⟨hstep.mp hafter, (ih hafter).mp hrest⟩
      · rintro ⟨hmeets, hrest⟩
        have hafter := hstep.mpr hmeets
        exact ⟨hafter, (ih hafter).mpr hrest⟩

/-- From the start on, the two sessions agree after every call exactly when every call
meets its condition. -/
theorem sessions_agree_iff (calls : List SettledCall) :
    AgreeThroughout .initial calls ↔ MeetThroughout .initial calls :=
  agreeThroughout_iff calls trivial

/-! ## A refused login during a session -/

def signedInPrincipal : NativePrincipal where
  userId := "user-1"
  deviceId := "device-1"
  organisationId := "org-1"
  permissions := []

/-- The gateway answers, the native database accepts one password, and every read finds
the user and the device. -/
def signInEnvironment : SessionEnvironment where
  delivery := .answered
  authenticateUser request :=
    if request.password = "secret" then .ok signedInPrincipal
    else .error (.new "AUTHENTICATION_ERROR" "Authentication failed"
      "Authentication failed" "auth_failed")
  reads _ := .ok signInDatabase

def mistypedSignIn : SessionOperation :=
  .authenticate { userId := "user-1", password := "secert" } "sess-2"
    ⟨0, ClockReading.inRange_epoch⟩

/-- The service drops its session, the native store keeps the principal. -/
theorem refused_login_disagrees :
    ¬ ∀ calls : List SettledCall, AgreeThroughout .initial calls := by
  intro hagree
  have hcalls := hagree [⟨signIn, signInEnvironment⟩, ⟨mistypedSignIn, signInEnvironment⟩]
  have hfirst := hcalls.1
  have hmeets := (SettledCall.after_agree_iff _ hfirst).mp hcalls.2.1
  cases hmeets with
  | inl hmissing =>
      revert hmissing
      decide
  | inr hsignedOut =>
      exact Option.some_ne_none signedInPrincipal hsignedOut

end UserSessionService
end TauriPlatform
