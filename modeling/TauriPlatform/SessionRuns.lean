import TauriPlatform.UserSessionService
import TauriPlatform.ReadingRange
import Mathlib.Logic.Relation

/-!
# The session slot after a later operation

An establishment sets the session without asking whether a logout, or a newer
authentication, has completed since it began.  It can do so only if it is still in
flight when the later operation completes.
-/

namespace TauriPlatform
namespace UserSessionService

open Async Relational

/-- Operation `later` is a logout, or an authentication newer than `earlier`. -/
def Outranks (later : Nat) (call : SessionOperation) (earlier : Nat) : Prop :=
  match call with
  | .logout _ => True
  | .authenticate _ _ _ => earlier < later
  | .restoreNativeSession _ _ _ => False

def Outranked (log : List SessionEvent) (earlier : Nat) : Prop :=
  ∃ before after later call establishment,
    log = before ++ .completed later call :: after ∧
      .began earlier establishment ∈ before ∧ establishment.Establishes ∧
        Outranks later call earlier

/-- No establishment installs its session after an operation which outranks it. -/
def LogoutWins (log : List SessionEvent) : Prop :=
  ∀ before after later call earlier establishment,
    log = before ++ .completed later call :: after →
      .began earlier establishment ∈ before → establishment.Establishes →
        Outranks later call earlier → .installed earlier ∉ after

def NoneOutranked (operation : Nat) (call : SessionOperation) (others : List InFlight) :
    Prop :=
  ∀ flight ∈ others, flight.call.Establishes → ¬ Outranks operation call flight.operation

/-! ## Events at the end of a log -/

theorem concat_eq_split {α : Type*} {log before after : List α} {last event : α}
    (heq : log ++ [last] = before ++ event :: after) :
    (log = before ∧ last = event ∧ after = []) ∨
      ∃ rest, log = before ++ event :: rest ∧ after = rest ++ [last] := by
  cases List.eq_nil_or_concat after with
  | inl hnil =>
      subst hnil
      obtain ⟨hlog, hlast⟩ := List.append_inj' heq rfl
      exact Or.inl ⟨hlog, List.singleton_inj.mp hlast, rfl⟩
  | inr hconcat =>
      obtain ⟨rest, final, rfl⟩ := hconcat
      have hassoc : log ++ [last] = (before ++ event :: rest) ++ [final] := by
        rw [heq, List.concat_eq_append, List.append_assoc, List.cons_append]
      obtain ⟨hlog, hlast⟩ := List.append_inj' hassoc rfl
      apply Or.inr
      refine ⟨rest, hlog, ?_⟩
      rw [List.concat_eq_append, List.singleton_inj.mp hlast]

variable {log : List SessionEvent} {operation : Nat} {call : SessionOperation}

theorem Outranked.append {suffix : List SessionEvent} (houtranked : Outranked log operation) :
    Outranked (log ++ suffix) operation := by
  obtain ⟨before, after, later, call, establishment, hlog, hrest⟩ := houtranked
  refine ⟨before, after ++ suffix, later, call, establishment, ?_, hrest⟩
  rw [hlog, List.append_assoc, List.cons_append]

theorem outranked_append_event {event : SessionEvent}
    (hevent : ∀ later call, event ≠ .completed later call) :
    Outranked (log ++ [event]) operation ↔ Outranked log operation := by
  constructor
  · intro houtranked
    obtain ⟨before, after, later, call, establishment, heq, hrest⟩ := houtranked
    cases concat_eq_split heq with
    | inl hlast => exact absurd hlast.2.1 (hevent later call)
    | inr hinside =>
        obtain ⟨rest, hlog, -⟩ := hinside
        exact ⟨before, rest, later, call, establishment, hlog, hrest⟩
  · exact Outranked.append

theorem outranked_append_completed {later : Nat} :
    Outranked (log ++ [.completed later call]) operation ↔
      Outranked log operation ∨
        ∃ establishment, .began operation establishment ∈ log ∧ establishment.Establishes ∧
          Outranks later call operation := by
  constructor
  · intro houtranked
    obtain ⟨before, after, later', call', establishment, heq, hrest⟩ := houtranked
    cases concat_eq_split heq with
    | inl hlast =>
        obtain ⟨rfl, hevent, -⟩ := hlast
        cases hevent
        exact Or.inr ⟨establishment, hrest⟩
    | inr hinside =>
        obtain ⟨rest, hlog, -⟩ := hinside
        exact Or.inl ⟨before, rest, later', call', establishment, hlog, hrest⟩
  · intro h
    cases h with
    | inl houtranked => exact houtranked.append
    | inr hnew =>
        obtain ⟨establishment, hrest⟩ := hnew
        exact ⟨log, [], later, call, establishment, rfl, hrest⟩

theorem Outranked.began (houtranked : Outranked log operation) :
    ∃ establishment, .began operation establishment ∈ log := by
  obtain ⟨before, after, later, call, establishment, hlog, hbegan, -⟩ := houtranked
  refine ⟨establishment, ?_⟩
  rw [hlog]
  exact List.mem_append_left _ hbegan

def InstalledInTime (log : List SessionEvent) : Prop :=
  ∀ before after operation,
    log = before ++ .installed operation :: after → ¬ Outranked before operation

theorem InstalledInTime.append {event : SessionEvent} (hlog : InstalledInTime log)
    (hevent : ∀ operation, event = .installed operation → ¬ Outranked log operation) :
    InstalledInTime (log ++ [event]) := by
  intro before after operation heq
  cases concat_eq_split heq with
  | inl hlast =>
      obtain ⟨rfl, hinstalled, -⟩ := hlast
      exact hevent operation hinstalled
  | inr hinside =>
      obtain ⟨rest, hrest, -⟩ := hinside
      exact hlog before rest operation hrest

theorem InstalledInTime.logoutWins (hlog : InstalledInTime log) : LogoutWins log := by
  intro before after later call earlier establishment heq hbegan hestablishes houtranks
    hinstalled
  obtain ⟨middle, rest, rfl⟩ := List.append_of_mem hinstalled
  have hsplit :
      log = (before ++ .completed later call :: middle) ++ .installed earlier :: rest := by
    rw [heq, List.append_assoc, List.cons_append]
  apply hlog _ rest earlier hsplit
  exact ⟨before, middle, later, call, establishment, rfl, hbegan, hestablishes, houtranks⟩

/-! ## One step -/

structure Fenced (state : SessionState) (flights : List InFlight) : Prop where
  numbered : ∀ operation call, .began operation call ∈ state.log → operation < state.started
  unique : ∀ operation call call', .began operation call ∈ state.log →
    .began operation call' ∈ state.log → call = call'
  begun : ∀ flight ∈ flights, .began flight.operation flight.call ∈ state.log
  current : ∀ flight ∈ flights, ¬ Outranked state.log flight.operation
  inTime : InstalledInTime state.log

variable {state : SessionState} {flights : List InFlight}

theorem Fenced.initial : Fenced .initial [] where
  numbered _ _ hbegan := absurd hbegan List.not_mem_nil
  unique _ _ _ hbegan := absurd hbegan List.not_mem_nil
  begun _ hflight := absurd hflight List.not_mem_nil
  current _ hflight := absurd hflight List.not_mem_nil
  inTime before after operation heq := by
    have hlength := congrArg List.length heq
    simp [SessionState.initial] at hlength

theorem Fenced.of_mem {flights' : List InFlight} (hfenced : Fenced state flights)
    (hsub : ∀ flight ∈ flights', flight ∈ flights) : Fenced state flights' where
  numbered := hfenced.numbered
  unique := hfenced.unique
  begun flight hflight := hfenced.begun flight (hsub flight hflight)
  current flight hflight := hfenced.current flight (hsub flight hflight)
  inTime := hfenced.inTime

theorem Fenced.begin (hfenced : Fenced state flights) (call : SessionOperation)
    (program : Program SessionCall Thrown (Option Session)) :
    Fenced { state with
        log := state.log ++ [.began state.started call]
        started := state.started + 1 }
      (⟨state.started, call, program⟩ :: flights) where
  numbered operation call' hbegan := by
    cases List.mem_append.mp hbegan with
    | inl hold =>
        have hlt := hfenced.numbered operation call' hold
        exact Nat.lt_succ_of_lt hlt
    | inr hnew =>
        cases List.mem_singleton.mp hnew
        exact Nat.lt_succ_self _
  unique operation first second hfirst hsecond := by
    have hfresh : ∀ other, .began state.started other ∉ state.log := by
      intro other hother
      exact Nat.lt_irrefl _ (hfenced.numbered _ _ hother)
    simp only [List.mem_append, List.mem_singleton, SessionEvent.began.injEq] at hfirst hsecond
    cases hfirst with
    | inl hold =>
        cases hsecond with
        | inl hold' => exact hfenced.unique operation first second hold hold'
        | inr hnew' =>
            rw [hnew'.1] at hold
            exact absurd hold (hfresh first)
    | inr hnew =>
        cases hsecond with
        | inl hold' =>
            rw [hnew.1] at hold'
            exact absurd hold' (hfresh second)
        | inr hnew' => rw [hnew.2, hnew'.2]
  begun flight hflight := by
    cases List.mem_cons.mp hflight with
    | inl hnew =>
        rw [hnew]
        exact List.mem_append_right _ List.mem_cons_self
    | inr hold => exact List.mem_append_left _ (hfenced.begun flight hold)
  current flight hflight := by
    rw [outranked_append_event (by intro later call' h; cases h)]
    cases List.mem_cons.mp hflight with
    | inl hnew =>
        intro houtranked
        obtain ⟨establishment, hbegan⟩ := houtranked.began
        rw [hnew] at hbegan
        exact Nat.lt_irrefl _ (hfenced.numbered _ _ hbegan)
    | inr hold => exact hfenced.current flight hold
  inTime := by
    apply hfenced.inTime.append
    intro operation h
    cases h

variable {flight : InFlight}

theorem Fenced.install (hfenced : Fenced state flights) (hflight : flight ∈ flights)
    (session : Option Session) :
    Fenced { state with
        currentSession := session
        log := state.log ++ [.installed flight.operation] } flights where
  numbered operation call hbegan := by
    apply hfenced.numbered operation call
    simpa using hbegan
  unique operation first second hfirst hsecond := by
    apply hfenced.unique operation first second
    · simpa using hfirst
    · simpa using hsecond
  begun other hother := List.mem_append_left _ (hfenced.begun other hother)
  current other hother := by
    rw [outranked_append_event (by intro later call h; cases h)]
    exact hfenced.current other hother
  inTime := by
    apply hfenced.inTime.append
    intro operation h
    cases h
    exact hfenced.current flight hflight

theorem Fenced.setSession (hfenced : Fenced state flights) (session : Option Session) :
    Fenced { state with currentSession := session } flights where
  numbered := hfenced.numbered
  unique := hfenced.unique
  begun := hfenced.begun
  current := hfenced.current
  inTime := hfenced.inTime

theorem Fenced.runEffects {program : Program SessionCall Thrown (Option Session)}
    (hfenced : Fenced state flights) (hflight : flight ∈ flights) :
    Fenced (UserSessionService.runEffects flight.operation program state).2 flights := by
  induction program, state using UserSessionService.runEffects.induct flight.operation with
  | case1 session rest state ih =>
      unfold UserSessionService.runEffects
      exact ih (hfenced.install hflight _)
  | case2 rest state ih =>
      unfold UserSessionService.runEffects
      exact ih (hfenced.setSession _)
  | case3 state program hsome hnone =>
      unfold UserSessionService.runEffects
      split
      · exact absurd rfl (hsome _ _)
      · exact absurd rfl (hnone _)
      · exact hfenced

theorem Fenced.complete {others : List InFlight} (hfenced : Fenced state (flight :: others))
    (hnone : NoneOutranked flight.operation flight.call others) :
    Fenced { state with log := state.log ++ [.completed flight.operation flight.call] }
      others where
  numbered operation call hbegan := by
    apply hfenced.numbered operation call
    simpa using hbegan
  unique operation first second hfirst hsecond := by
    apply hfenced.unique operation first second
    · simpa using hfirst
    · simpa using hsecond
  begun other hother := by
    have hbegun := hfenced.begun other (List.mem_cons_of_mem _ hother)
    exact List.mem_append_left _ hbegun
  current other hother := by
    rw [outranked_append_completed]
    intro h
    cases h with
    | inl hold => exact hfenced.current other (List.mem_cons_of_mem _ hother) hold
    | inr hnew =>
        obtain ⟨establishment, hbegan, hestablishes, houtranks⟩ := hnew
        have hcall : establishment = other.call :=
          hfenced.unique _ _ _ hbegan (hfenced.begun other (List.mem_cons_of_mem _ hother))
        rw [hcall] at hestablishes
        exact hnone other hother hestablishes houtranks
  inTime := by
    apply hfenced.inTime.append
    intro operation h
    cases h

theorem Fenced.proceed {others : List InFlight} (hfenced : Fenced state (flight :: others))
    (program : Program SessionCall Thrown (Option Session)) (hnone :
      (UserSessionService.proceed flight.operation flight.call program state).flights = [] →
        NoneOutranked flight.operation flight.call others) :
    Fenced (UserSessionService.proceed flight.operation flight.call program state).state
      ((UserSessionService.proceed flight.operation flight.call program state).flights ++
        others) := by
  have hran : Fenced (UserSessionService.runEffects flight.operation program state).2
      (flight :: others) := hfenced.runEffects List.mem_cons_self
  unfold UserSessionService.proceed at hnone ⊢
  generalize UserSessionService.runEffects flight.operation program state = ran at *
  obtain ⟨next, later⟩ := ran
  cases next with
  | done outcome => exact hran.complete (hnone rfl)
  | call request rest =>
      refine ⟨hran.numbered, hran.unique, ?_, ?_, hran.inTime⟩
      · intro other hother
        cases List.mem_cons.mp hother with
        | inl hsame =>
            rw [hsame]
            exact hran.begun flight List.mem_cons_self
        | inr hold => exact hran.begun other (List.mem_cons_of_mem _ hold)
      · intro other hother
        cases List.mem_cons.mp hother with
        | inl hsame =>
            rw [hsame]
            exact hran.current flight List.mem_cons_self
        | inr hold => exact hran.current other (List.mem_cons_of_mem _ hold)

theorem Fenced.step {system later : SessionSystem}
    (hfenced : Fenced system.state system.flights)
    (hstep : SessionStep NoneOutranked system later) :
    Fenced later.state later.flights := by
  cases hstep with
  | begin call state flights next hnext hnone =>
      subst hnext
      exact (hfenced.begin call call.program).proceed call.program hnone
  | settle request rest answer operation call state before after next hsettles hnext hnone =>
      subst hnext
      have hfront : Fenced state
          (⟨operation, call, .call request rest⟩ :: (before ++ after)) := by
        apply hfenced.of_mem
        intro flight hflight
        simp only [List.mem_cons, List.mem_append] at hflight ⊢
        tauto
      have hproceed := hfront.proceed (rest answer) hnone
      apply hproceed.of_mem
      intro flight hflight
      simp only [List.mem_append] at hflight ⊢
      tauto

/-! ## Runs -/

theorem SessionReaches.fenced {system : SessionSystem}
    (hreaches : SessionReaches NoneOutranked system) :
    Fenced system.state system.flights := by
  induction hreaches with
  | refl => exact Fenced.initial
  | tail _ hstep ih => exact ih.step hstep

/-- Where no operation completes over an establishment in flight which it outranks, no
establishment installs its session after an operation which outranks it. -/
theorem logout_wins {system : SessionSystem} (hreaches : SessionReaches NoneOutranked system) :
    LogoutWins system.state.log :=
  hreaches.fenced.inTime.logoutWins

variable {Allowed : Nat → SessionOperation → List InFlight → Prop}

theorem SessionReaches.begin (hreaches : SessionReaches Allowed ⟨state, flights⟩)
    (call : SessionOperation) (next : SessionSystem)
    (hnext : next = proceed state.started call call.program { state with
      log := state.log ++ [.began state.started call]
      started := state.started + 1 })
    (hallowed : next.flights = [] → Allowed state.started call flights) :
    SessionReaches Allowed ⟨next.state, next.flights ++ flights⟩ :=
  hreaches.tail (.begin call state flights next hnext hallowed)

theorem SessionReaches.settle {α : Type} {request : SessionCall α}
    {rest : Except Thrown α → Program SessionCall Thrown (Option Session)}
    (hreaches : SessionReaches Allowed ⟨state, ⟨operation, call, .call request rest⟩ :: flights⟩)
    (answer : Except Thrown α) (next : SessionSystem) (hsettles : Settles request answer)
    (hnext : next = proceed operation call (rest answer) state)
    (hallowed : next.flights = [] → Allowed operation call flights) :
    SessionReaches Allowed ⟨next.state, next.flights ++ flights⟩ :=
  hreaches.tail
    (.settle request rest answer operation call state [] flights next hsettles hnext hallowed)

/-! ## A login which is in flight during a logout -/

def signInView : NativeSessionView where
  userId := "user-1"
  deviceId := "device-1"
  organisationId := "org-1"
  permissions := []

def signedInUser : SessionUserRow where
  id := "user-1"
  organisationId := "org-1"
  displayName := "User"
  status := "ACTIVE"

def signedInDevice : SessionDeviceRow where
  deviceId := "device-1"
  userId := some "user-1"
  status := "APPROVED"

def signInDatabase : IdentityDatabase where
  users := ⟨[signedInUser], by simp⟩
  devices := ⟨[signedInDevice], by simp⟩

def signIn : SessionOperation :=
  .authenticate { userId := "user-1", password := "secret" } "sess-1"
    ⟨0, ClockReading.inRange_epoch⟩

theorem SessionReaches.signIn_installs
    (hreaches : SessionReaches Allowed
      ⟨state, ⟨operation, signIn, signIn.program⟩ :: flights⟩)
    (hallowed : Allowed operation signIn flights) :
    ∃ session, SessionReaches Allowed
      ⟨{ currentSession := some session
         log := (state.log ++ [.installed operation]) ++ [.completed operation signIn]
         started := state.started }, flights⟩ := by
  have hnext : ∀ {system : SessionSystem}, system.flights ≠ [] →
      system.flights = [] → Allowed operation signIn flights :=
    fun hne hnil => absurd hnil hne
  have hview := hreaches.settle (.ok signInView) _ trivial rfl
    (hnext (List.cons_ne_nil _ _))
  have huser := SessionReaches.settle hview (.ok [signedInUser]) _
    (Or.inr ⟨signInDatabase, _, rfl, rfl⟩) rfl (hnext (List.cons_ne_nil _ _))
  have hdevice := SessionReaches.settle huser (.ok [signedInDevice]) _
    (Or.inr ⟨signInDatabase, _, rfl, rfl⟩) rfl (hnext (List.cons_ne_nil _ _))
  have hroles := SessionReaches.settle hdevice (.ok []) _
    (Or.inr ⟨signInDatabase, _, rfl, rfl⟩) rfl (fun _ => hallowed)
  exact ⟨_, hroles⟩

theorem SessionReaches.signIn_begun :
    SessionReaches Allowed
      ⟨{ currentSession := none, log := [.began 0 signIn], started := 1 },
        [⟨0, signIn, signIn.program⟩]⟩ := by
  have hinitial : SessionReaches Allowed ⟨.initial, []⟩ := Relation.ReflTransGen.refl
  exact hinitial.begin signIn _ rfl (fun hnil => absurd hnil (List.cons_ne_nil _ _))

/-- A login installs its session after a logout which began after it. -/
theorem login_undoes_logout :
    ¬ ∀ system : SessionSystem, SessionReaches (fun _ _ _ => True) system →
      LogoutWins system.state.log := by
  intro hwins
  have hbegun : SessionReaches (fun _ _ _ => True) ⟨_, _⟩ := SessionReaches.signIn_begun
  have hlogout := SessionReaches.begin hbegun (.logout false) _ rfl (fun _ => trivial)
  obtain ⟨session, hreaches⟩ := SessionReaches.signIn_installs hlogout trivial
  apply hwins _ hreaches [.began 0 signIn, .began 1 (.logout false)]
    [.installed 0, .completed 0 signIn] 1 (.logout false) 0 signIn rfl
  · exact List.mem_cons_self
  · trivial
  · trivial
  · exact List.mem_cons_self

theorem logout_wins_over_settled_login :
    LogoutWins [.began 0 signIn, .installed 0, .completed 0 signIn, .began 1 (.logout false),
      .completed 1 (.logout false)] := by
  have hnone : ∀ id call, NoneOutranked id call [] :=
    fun _ _ _ hflight => absurd hflight List.not_mem_nil
  obtain ⟨session, hreaches⟩ :=
    SessionReaches.signIn_begun.signIn_installs (hnone 0 signIn)
  have hlogout := hreaches.begin (.logout false) _ rfl (fun _ => hnone 1 (.logout false))
  exact logout_wins hlogout

end UserSessionService
end TauriPlatform
