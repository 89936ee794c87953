import TauriPlatform.AuthorizationEngine
import TauriPlatform.SessionAgreement

/-!
# Trusted sessions

A session is checked against its user and its device when it is established, and
against its device alone when it is validated.  Between the two the tables of users
and devices may change.
-/

namespace TauriPlatform

open Async Relational

/-- The reading and the setting of `currentSession`, and the calls of the database. -/
inductive ValidationCall : Type → Type 1
  | getCurrentSession : ValidationCall (Option Session)
  | setSession (session : Option Session) : ValidationCall Unit
  | database {α : Type} (call : DbCall IdentityDatabase α) : ValidationCall α

namespace UserSessionService

/-- `findByDeviceId`, with the columns which are looked at. -/
def selectDeviceById (deviceId : String) : Statement IdentityDatabase SessionDeviceRow where
  sql := "SELECT * FROM core_devices WHERE device_id = ? LIMIT 1"
  params := [.string deviceId]
  columns := [⟨"device_id", fun row => .text row.deviceId⟩,
    ⟨"user_id", fun row => .ofText? row.userId⟩,
    ⟨"status", fun row => .text row.status⟩]
  effect := .read fun database =>
    (database.devices.select fun row => row.deviceId = deviceId).take 1

def isTerminated (device : SessionDeviceRow) : Bool :=
  device.status = "REVOKED" || device.status = "SUSPENDED"

def terminateSession (thrown : Thrown) : Program ValidationCall Thrown Session := do
  Program.await (.setSession none)
  throw thrown

/-- `isExpired` compares a time with the clock.  Sessions are compared by value: the
session id of each is generated. -/
def validateCurrentSession (isExpired : String → Bool) :
    Program ValidationCall Thrown Session := do
  match ← Program.await .getCurrentSession with
  | none =>
      throw (authenticationError "No active session found" "Please log in to continue"
        "sess_none")
  | some session => do
      let rows ← Program.await (.database (.query (selectDeviceById session.deviceId)))
      let current ← Program.await .getCurrentSession
      if current ≠ some session then
        throw (authenticationError "Session changed during validation"
          "Your session changed. Please try again." "sess_changed")
      else
        let status := (rows.head?.map SessionDeviceRow.status).getD "UNKNOWN"
        if rows.head?.all isTerminated then
          terminateSession (authorizationError
            s!"Session invalid: device is in state '{status}'"
            "Session terminated because the device status changed" "sess_dev_invalid" none)
        else if session.expiresAt.any fun expires => expires ≠ "" && isExpired expires then
          terminateSession (authenticationError "Session has expired"
            "Your session has expired. Please log in again." "sess_expired")
        else pure session

def getTrustedOperationContext (isExpired : String → Bool) :
    Program ValidationCall Thrown CallContext := do
  let session ← validateCurrentSession isExpired
  pure (.trusted "op" {
    userId := session.userId
    deviceId := session.deviceId
    organisationId := session.organisationId
    roles := session.roles })

/-! ## Runs -/

structure TrustState where
  pair : SessionPair
  database : IdentityDatabase

def validationHandler : Program.Handler ValidationCall Thrown TrustState
  | _, .getCurrentSession, state => (.ok state.pair.session, state)
  | _, .setSession session, state =>
      (.ok (), { state with pair := { state.pair with session := session } })
  | _, .database call, state => ((memoryConnection call state.database).1, state)

/-- A call of the service, which reads the tables as they are unless a read fails; a
change of the tables; or a validation. -/
inductive TrustEvent where
  | settle (operation : SessionOperation) (delivery : Delivery)
      (authenticateUser : AuthenticateUserRequest → Except NativeError NativePrincipal)
      (failures : Nat → Option Thrown)
  | change (database : IdentityDatabase)
  | validate

def environmentOver (database : IdentityDatabase) (delivery : Delivery)
    (authenticateUser : AuthenticateUserRequest → Except NativeError NativePrincipal)
    (failures : Nat → Option Thrown) : SessionEnvironment where
  delivery := delivery
  authenticateUser := authenticateUser
  reads read := match failures read with
    | some thrown => .error thrown
    | none => .ok database

variable (isExpired : String → Bool)

def TrustEvent.after (state : TrustState) : TrustEvent → TrustState
  | .settle operation delivery authenticateUser failures =>
      { state with
        pair := operation.after
          (environmentOver state.database delivery authenticateUser failures) state.pair }
  | .change database => { state with database := database }
  | .validate => ((validateCurrentSession isExpired).run validationHandler state).2

/-- The conditions of an establishment hold for the user, the device and the organisation. -/
structure Trusted (database : IdentityDatabase) (userId deviceId organisationId : String) :
    Prop where
  user : UserTrusted database userId organisationId
  device : DeviceTrusted database deviceId userId

/-- The validation and the trusted context succeed only where the conditions hold. -/
structure ReflectsTrust (state : TrustState) : Prop where
  session : ∀ session later,
    (validateCurrentSession isExpired).run validationHandler state = (.ok session, later) →
      Trusted state.database session.userId session.deviceId session.organisationId
  context : ∀ context later,
    (getTrustedOperationContext isExpired).run validationHandler state = (.ok context, later) →
      ∃ correlationId principal, context = .trusted correlationId principal ∧
        Trusted state.database principal.userId principal.deviceId principal.organisationId

def DeviceTerminated (database : IdentityDatabase) (deviceId : String) : Prop :=
  ∀ device ∈ database.devices, device.deviceId = deviceId → isTerminated device

/-- A change which leaves the device of the current session neither revoked nor suspended
leaves the user and the device as an establishment requires them. -/
def TrustEvent.Meets (state : TrustState) : TrustEvent → Prop
  | .change database => ∀ session, state.pair.session = some session →
      DeviceTerminated database session.deviceId ∨
        Trusted database session.userId session.deviceId session.organisationId
  | _ => True

/-! ## One validation -/

variable {isExpired} {state : TrustState} {session : Session}

theorem all_isTerminated_iff {database : IdentityDatabase} {deviceId : String} :
    (((database.devices.select fun row => row.deviceId = deviceId).take 1).head?.all
        isTerminated) = true ↔ DeviceTerminated database deviceId := by
  rw [Option.all_eq_true]
  constructor
  · intro hall device hmem hid
    exact hall device (head?_devices.mpr ⟨hmem, hid⟩)
  · intro hterminated device hhead
    obtain ⟨hmem, hid⟩ := head?_devices.mp hhead
    exact hterminated device hmem hid

theorem terminateSession_run (thrown : Thrown) :
    (terminateSession thrown).run validationHandler state =
      (.error thrown, { state with pair := { state.pair with session := none } }) := by
  simp only [terminateSession, Program.run_bind, Program.run_await, validationHandler,
    Program.run_throw]

theorem validate_none (isExpired : String → Bool) (hnone : state.pair.session = none) :
    ∃ thrown, (validateCurrentSession isExpired).run validationHandler state =
      (.error thrown, state) := by
  unfold validateCurrentSession
  simp only [Program.run_bind, Program.run_await, validationHandler, hnone, Program.run_throw]
  exact ⟨_, rfl⟩

theorem validate_some (isExpired : String → Bool)
    (hsome : state.pair.session = some session) :
    (∃ thrown, (validateCurrentSession isExpired).run validationHandler state =
        (.error thrown, { state with pair := { state.pair with session := none } }) ∧
          (DeviceTerminated state.database session.deviceId ∨ session.expiresAt ≠ none)) ∨
      (validateCurrentSession isExpired).run validationHandler state = (.ok session, state) ∧
        ¬ DeviceTerminated state.database session.deviceId := by
  unfold validateCurrentSession
  simp only [Program.run_bind, Program.run_await, validationHandler, hsome, memoryConnection,
    Statement.run, selectDeviceById, ne_eq, not_true_eq_false, if_false]
  split_ifs with hterminated hexpired
  · rw [terminateSession_run]
    exact Or.inl ⟨_, rfl, Or.inl (all_isTerminated_iff.mp hterminated)⟩
  · rw [terminateSession_run]
    refine Or.inl ⟨_, rfl, Or.inr ?_⟩
    intro hnone
    rw [hnone] at hexpired
    exact Bool.false_ne_true hexpired
  · exact Or.inr ⟨rfl, mt all_isTerminated_iff.mpr hterminated⟩

theorem validate_eq_ok {later : TrustState}
    (hok : (validateCurrentSession isExpired).run validationHandler state =
      (.ok session, later)) :
    state.pair.session = some session ∧ ¬ DeviceTerminated state.database session.deviceId := by
  cases hcurrent : state.pair.session with
  | none =>
      obtain ⟨thrown, hrun⟩ := validate_none isExpired hcurrent
      rw [hrun] at hok
      cases congrArg Prod.fst hok
  | some current =>
      cases validate_some isExpired hcurrent with
      | inl hrefused =>
          obtain ⟨thrown, hrun, -⟩ := hrefused
          rw [hrun] at hok
          cases congrArg Prod.fst hok
      | inr hreturned =>
          rw [hreturned.1] at hok
          cases hok
          exact ⟨rfl, hreturned.2⟩

theorem validate_leaves (isExpired : String → Bool) (state : TrustState) :
    ((validateCurrentSession isExpired).run validationHandler state).2 = state ∨
      ((validateCurrentSession isExpired).run validationHandler state).2 =
        { state with pair := { state.pair with session := none } } := by
  cases hcurrent : state.pair.session with
  | none =>
      obtain ⟨thrown, hrun⟩ := validate_none isExpired hcurrent
      rw [hrun]
      exact Or.inl rfl
  | some current =>
      cases validate_some isExpired hcurrent with
      | inl hrefused =>
          obtain ⟨thrown, hrun, -⟩ := hrefused
          rw [hrun]
          exact Or.inr rfl
      | inr hreturned =>
          rw [hreturned.1]
          exact Or.inl rfl

theorem validate_succeeds (isExpired : String → Bool)
    (hsome : state.pair.session = some session)
    (hexpires : session.expiresAt = none)
    (hdevice : ¬ DeviceTerminated state.database session.deviceId) :
    (validateCurrentSession isExpired).run validationHandler state = (.ok session, state) := by
  cases validate_some isExpired hsome with
  | inl hrefused =>
      obtain ⟨thrown, -, hreason⟩ := hrefused
      cases hreason with
      | inl hterminated => exact absurd hterminated hdevice
      | inr hsome => exact absurd hexpires hsome
  | inr hreturned => exact hreturned.1

/-! ## Every run -/

/-- The current session does not expire, and its device is terminated or it is trusted. -/
structure SessionSound (state : TrustState) : Prop where
  unexpiring : ∀ session, state.pair.session = some session → session.expiresAt = none
  trusted : ∀ session, state.pair.session = some session →
    DeviceTerminated state.database session.deviceId ∨
      Trusted state.database session.userId session.deviceId session.organisationId

theorem SessionSound.reflectsTrust (hsound : SessionSound state) :
    ReflectsTrust isExpired state := by
  have hsession : ∀ session later,
      (validateCurrentSession isExpired).run validationHandler state = (.ok session, later) →
        Trusted state.database session.userId session.deviceId session.organisationId := by
    intro session later hok
    obtain ⟨hcurrent, hdevice⟩ := validate_eq_ok hok
    exact (hsound.trusted session hcurrent).resolve_left hdevice
  constructor
  · exact hsession
  · intro context later hok
    obtain ⟨session, middle, hvalid, hrest⟩ := Program.run_bind_eq_ok hok
    cases hrest
    exact ⟨_, _, rfl, hsession session _ hvalid⟩

theorem ReflectsTrust.sound (hreflects : ReflectsTrust isExpired state)
    (hunexpiring : ∀ session, state.pair.session = some session → session.expiresAt = none) :
    SessionSound state where
  unexpiring := hunexpiring
  trusted session hcurrent := by
    by_cases hdevice : DeviceTerminated state.database session.deviceId
    · exact Or.inl hdevice
    · have hok := validate_succeeds isExpired hcurrent
        (hunexpiring session hcurrent) hdevice
      exact Or.inr (hreflects.session session state hok)

theorem SessionSound.signedOut (hnone : state.pair.session = none) : SessionSound state where
  unexpiring session hcurrent := by
    rw [hnone] at hcurrent
    cases hcurrent
  trusted session hcurrent := by
    rw [hnone] at hcurrent
    cases hcurrent

namespace TrustEvent

theorem installed_trusted {database : IdentityDatabase} {delivery : Delivery}
    {authenticateUser : AuthenticateUserRequest → Except NativeError NativePrincipal}
    {failures : Nat → Option Thrown} {view : NativeSessionView}
    (hinstalls : (environmentOver database delivery authenticateUser failures).Installs view) :
    Trusted database view.userId view.deviceId view.organisationId := by
  have hread : ∀ read found,
      (environmentOver database delivery authenticateUser failures).reads read = .ok found →
        found = database := by
    intro read found hfound
    simp only [environmentOver] at hfound
    cases hfailure : failures read with
    | some thrown =>
        rw [hfailure] at hfound
        cases hfound
    | none =>
        rw [hfailure] at hfound
        cases hfound
        rfl
  obtain ⟨found, hfirst, huser⟩ := hinstalls.1
  obtain ⟨found', hsecond, hdevice⟩ := hinstalls.2.1
  rw [hread 0 found hfirst] at huser
  rw [hread 1 found' hsecond] at hdevice
  exact ⟨huser, hdevice⟩

theorem sound_settle (hsound : SessionSound state) (operation : SessionOperation)
    (delivery : Delivery)
    (authenticateUser : AuthenticateUserRequest → Except NativeError NativePrincipal)
    (failures : Nat → Option Thrown) :
    SessionSound
      ((TrustEvent.settle operation delivery authenticateUser failures).after isExpired state) := by
  have hleaves := operation.after_leaves
    (environmentOver state.database delivery authenticateUser failures) state.pair
  unfold TrustEvent.after
  dsimp only
  generalize operation.after
    (environmentOver state.database delivery authenticateUser failures) state.pair = pair at *
  obtain ⟨session, store⟩ := pair
  cases hleaves with
  | none => exact .signedOut rfl
  | kept => exact ⟨hsound.unexpiring, hsound.trusted⟩
  | installed view session hinstalls huser hdevice horganisation hexpires =>
      have htrusted := installed_trusted hinstalls
      rw [← huser, ← hdevice, ← horganisation] at htrusted
      constructor
      · intro current hcurrent
        cases hcurrent
        exact hexpires
      · intro current hcurrent
        cases hcurrent
        exact Or.inr htrusted

theorem sound_validate (hsound : SessionSound state) :
    SessionSound (TrustEvent.validate.after isExpired state) := by
  unfold TrustEvent.after
  cases validate_leaves isExpired state with
  | inl hsame =>
      dsimp only
      rwa [hsame]
  | inr hdropped =>
      dsimp only
      rw [hdropped]
      exact .signedOut rfl

/-- After one event the session reflects trust exactly when the event meets its condition,
and then it is sound again. -/
theorem reflectsTrust_after_iff (hsound : SessionSound state) (event : TrustEvent) :
    ReflectsTrust isExpired (event.after isExpired state) ↔ event.Meets state := by
  cases event with
  | settle operation delivery authenticateUser failures =>
      exact iff_of_true (sound_settle hsound operation delivery authenticateUser
        failures).reflectsTrust trivial
  | validate =>
      exact iff_of_true (sound_validate hsound).reflectsTrust trivial
  | change database =>
      constructor
      · intro hreflects
        exact (hreflects.sound hsound.unexpiring).trusted
      · intro hmeets
        have hafter : SessionSound { state with database := database } :=
          ⟨hsound.unexpiring, hmeets⟩
        exact hafter.reflectsTrust

theorem sound_after (hsound : SessionSound state) (event : TrustEvent)
    (hmeets : event.Meets state) : SessionSound (event.after isExpired state) := by
  cases event with
  | settle operation delivery authenticateUser failures =>
      exact sound_settle hsound operation delivery authenticateUser failures
  | validate => exact sound_validate hsound
  | change database => exact ⟨hsound.unexpiring, hmeets⟩

end TrustEvent

def ReflectThroughout (isExpired : String → Bool) : TrustState → List TrustEvent → Prop
  | _, [] => True
  | state, event :: rest =>
      ReflectsTrust isExpired (event.after isExpired state) ∧
        ReflectThroughout isExpired (event.after isExpired state) rest

def ChangesMeet (isExpired : String → Bool) : TrustState → List TrustEvent → Prop
  | _, [] => True
  | state, event :: rest =>
      event.Meets state ∧ ChangesMeet isExpired (event.after isExpired state) rest

theorem reflectThroughout_iff (events : List TrustEvent) :
    ∀ {state : TrustState}, SessionSound state →
      (ReflectThroughout isExpired state events ↔ ChangesMeet isExpired state events) := by
  induction events with
  | nil =>
      intro state _
      exact Iff.rfl
  | cons event rest ih =>
      intro state hsound
      have hstep : ReflectsTrust isExpired (event.after isExpired state) ↔ event.Meets state :=
        TrustEvent.reflectsTrust_after_iff hsound event
      constructor
      · rintro ⟨hreflects, hrest⟩
        have hmeets := hstep.mp hreflects
        exact ⟨hmeets, (ih (TrustEvent.sound_after hsound event hmeets)).mp hrest⟩
      · rintro ⟨hmeets, hrest⟩
        exact ⟨hstep.mpr hmeets, (ih (TrustEvent.sound_after hsound event hmeets)).mpr hrest⟩

def TrustState.initial (database : IdentityDatabase) : TrustState where
  pair := .initial
  database := database

/-- Validations and trusted contexts reflect trust after every event exactly when every
change of the tables leaves the current session's device revoked, suspended or removed, or
the user and the device as at the establishment. -/
theorem sessions_reflect_trust_iff (isExpired : String → Bool) (database : IdentityDatabase)
    (events : List TrustEvent) :
    ReflectThroughout isExpired (.initial database) events ↔
      ChangesMeet isExpired (.initial database) events :=
  reflectThroughout_iff events (.signedOut rfl)

/-! ## A suspended user -/

def suspendedUser : SessionUserRow := { signedInUser with status := "SUSPENDED" }

def suspendedDatabase : IdentityDatabase :=
  { signInDatabase with users := ⟨[suspendedUser], by simp⟩ }

def signInEvent : TrustEvent :=
  .settle signIn .answered (fun _ => .ok signedInPrincipal) fun _ => none

/-- The session of a user who has been suspended still validates. -/
theorem suspended_user_trusted :
    ¬ ∀ isExpired database events,
      ReflectThroughout isExpired (.initial database) events := by
  intro hreflects
  have hevents := hreflects (fun _ => false) signInDatabase
    [signInEvent, .change suspendedDatabase]
  have hsigned : SessionSound
      (signInEvent.after (fun _ => false) (.initial signInDatabase)) :=
    TrustEvent.sound_settle (.signedOut rfl) signIn .answered _ _
  have hmeets := (TrustEvent.reflectsTrust_after_iff hsigned _).mp hevents.2.1
  cases hmeets _ rfl with
  | inl hterminated =>
      have hdevice := hterminated signedInDevice List.mem_cons_self rfl
      revert hdevice
      decide
  | inr htrusted =>
      obtain ⟨user, hmem, -, hactive, -⟩ := htrusted.user
      cases List.mem_singleton.mp hmem
      revert hactive
      decide

end UserSessionService
end TauriPlatform
