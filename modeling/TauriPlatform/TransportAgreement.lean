import TauriPlatform.IrohSyncTransport

/-!
# The transport and the native endpoint

The call which holds the flag decides what the transport and the native side have: the
invariant is stated by its phase.  A `dispose` forgets the endpoint before the native side
has stopped it, so a `sync_start_endpoint` served in between answers with an endpoint which
is about to be stopped.
-/

namespace TauriPlatform.IrohSyncTransport

/-! ## What holds between the steps -/

def TransportPhase.holds : TransportPhase → Bool
  | .starting | .started _ | .registering | .registered _ => true
  | _ => false

def HeldBy (phases : Nat → TransportPhase) (holder : Option (Nat × TransportPhase)) : Prop :=
  ∀ call phase, phase.holds = true ∧ phases call = phase ↔ holder = some (call, phase)

section Phases

variable {phases : Nat → TransportPhase} {holder : Option (Nat × TransportPhase)} {call : Nat}

theorem HeldBy.update (hheld : HeldBy phases holder)
    (hcall : ∀ other old, holder = some (other, old) → other = call) (phase : TransportPhase) :
    HeldBy (Function.update phases call phase)
      (if phase.holds then some (call, phase) else none) := by
  intro other new
  by_cases heq : other = call
  · subst heq
    rw [Function.update_self]
    constructor
    · rintro ⟨hholds, rfl⟩
      rw [if_pos hholds]
    · intro hsome
      split at hsome
      · next hholds =>
        cases hsome
        exact ⟨hholds, rfl⟩
      · cases hsome
  · rw [Function.update_of_ne heq, hheld other new]
    constructor
    · intro hsome
      exact absurd (hcall other new hsome) heq
    · intro hsome
      split at hsome
      · cases hsome
        exact absurd rfl heq
      · cases hsome

theorem HeldBy.update_of_not_holds (hheld : HeldBy phases holder)
    (hold : (phases call).holds = false) {phase : TransportPhase} (hnew : phase.holds = false) :
    HeldBy (Function.update phases call phase) holder := by
  intro other new
  by_cases heq : other = call
  · subst heq
    rw [Function.update_self, ← hheld other new]
    constructor
    · rintro ⟨hholds, rfl⟩
      exact absurd hholds (by simp [hnew])
    · rintro ⟨hholds, rfl⟩
      exact absurd hholds (by simp [hold])
  · rw [Function.update_of_ne heq]
    exact hheld other new

def Stopping (phases : Nat → TransportPhase) : Prop :=
  ∃ call, phases call = .stopping

theorem Stopping.update (hstopping : Stopping phases) (hold : phases call ≠ .stopping)
    (phase : TransportPhase) : Stopping (Function.update phases call phase) := by
  obtain ⟨other, hother⟩ := hstopping
  have hne : other ≠ call := fun heq => hold (heq ▸ hother)
  exact ⟨other, by rw [Function.update_of_ne hne]; exact hother⟩

theorem not_stopping_update (hrunning : ¬ Stopping phases) {phase : TransportPhase}
    (hnew : phase ≠ .stopping) : ¬ Stopping (Function.update phases call phase) := by
  rintro ⟨other, hother⟩
  by_cases heq : other = call
  · subst heq
    rw [Function.update_self] at hother
    exact hnew hother
  · rw [Function.update_of_ne heq] at hother
    exact hrunning ⟨other, hother⟩

end Phases

/-- The transport has been torn down, up to an endpoint whose stop has been asked for. -/
structure Down (system : TransportSystem) : Prop where
  endpointInfo : system.transport.endpointInfo = none
  unlistenFn : system.transport.unlistenFn = none
  listeners : system.native.listeners = []
  endpoint : system.native.endpoint.isSome → Stopping system.phases

structure Up (info : SyncEndpointInfo) (system : TransportSystem) : Prop where
  endpoint : system.native.endpoint = some info.endpointId
  running : ¬ Stopping system.phases

structure Unheard (info : SyncEndpointInfo) (system : TransportSystem) : Prop
    extends Up info system where
  unlistenFn : system.transport.unlistenFn = none
  listeners : system.native.listeners = []

/-- What the transport and the native side have at a phase of the call which holds the
flag, or while no call does. -/
def Staged (listens : Bool) (system : TransportSystem) : Option (Nat × TransportPhase) → Prop
  | none =>
      match system.transport.endpointInfo with
      | none => Down system
      | some info =>
          Up info system ∧ system.native.listeners = system.transport.unlistenFn.toList ∧
            system.transport.unlistenFn.isSome = (listens && system.lastRegistered)
  | some (call, phase) =>
      match phase with
      | .starting | .started (.error _) => Down system
      | .started (.ok info) => Unheard info system ∧ system.transport.endpointInfo = none
      | .registering | .registered (.error _) =>
          listens = true ∧ ∃ info, system.transport.endpointInfo = some info ∧ Unheard info system
      | .registered (.ok ()) =>
          listens = true ∧ ∃ info, system.transport.endpointInfo = some info ∧ Up info system ∧
            system.transport.unlistenFn = none ∧ system.native.listeners = [call]
      | _ => False

structure Agreed (listens : Bool) (system : TransportSystem)
    (holder : Option (Nat × TransportPhase)) : Prop where
  isInitializing : system.transport.isInitializing = holder.isSome
  held : HeldBy system.phases holder
  lastRegistered : system.lastRegistered = true → listens = true
  answered : ∀ call answer, holder = some (call, .registered answer) →
    system.lastRegistered = answer.isOk
  staged : Staged listens system holder

theorem agreed_initial (listens : Bool) : Agreed listens .initial none where
  isInitializing := rfl
  held := by
    intro call phase
    constructor
    · rintro ⟨hholds, rfl⟩
      cases hholds
    · intro hnone
      cases hnone
  lastRegistered := fun hregistered => nomatch hregistered
  answered := fun _ _ hsome => nomatch hsome
  staged := ⟨rfl, rfl, rfl, fun hsome => nomatch hsome⟩

theorem Down.staged {listens : Bool} {system : TransportSystem} (hdown : Down system) :
    Staged listens system none := by
  simp only [Staged, hdown.endpointInfo]
  exact hdown

theorem Up.staged {listens : Bool} {system : TransportSystem} {info : SyncEndpointInfo}
    (hup : Up info system) (hinfo : system.transport.endpointInfo = some info)
    (hlisteners : system.native.listeners = system.transport.unlistenFn.toList)
    (hlast : system.transport.unlistenFn.isSome = (listens && system.lastRegistered)) :
    Staged listens system none := by
  simp only [Staged, hinfo]
  exact ⟨hup, hlisteners, hlast⟩

section Inert

variable {listens : Bool} {system : TransportSystem} {holder : Option (Nat × TransportPhase)}
  {call : Nat} {phase : TransportPhase} {info : SyncEndpointInfo}

theorem Down.setPhase (hdown : Down system) (hold : system.phases call ≠ .stopping) :
    Down (system.setPhase call phase) where
  endpointInfo := hdown.endpointInfo
  unlistenFn := hdown.unlistenFn
  listeners := hdown.listeners
  endpoint := fun hsome => (hdown.endpoint hsome).update hold phase

theorem Up.setPhase (hup : Up info system) (hnew : phase ≠ .stopping) :
    Up info (system.setPhase call phase) where
  endpoint := hup.endpoint
  running := not_stopping_update hup.running hnew

theorem Unheard.setPhase (hunheard : Unheard info system) (hnew : phase ≠ .stopping) :
    Unheard info (system.setPhase call phase) where
  toUp := hunheard.toUp.setPhase hnew
  unlistenFn := hunheard.unlistenFn
  listeners := hunheard.listeners

theorem Staged.setPhase (hstaged : Staged listens system holder)
    (hold : system.phases call ≠ .stopping) (hnew : phase ≠ .stopping) :
    Staged listens (system.setPhase call phase) holder := by
  match holder with
  | none =>
      simp only [Staged, TransportSystem.setPhase] at hstaged ⊢
      split
      · next hinfo =>
        rw [hinfo] at hstaged
        exact hstaged.setPhase hold
      · next info hinfo =>
        rw [hinfo] at hstaged
        exact ⟨hstaged.1.setPhase hnew, hstaged.2⟩
  | some (_, .starting) => exact Down.setPhase hstaged hold
  | some (_, .started (.error _)) => exact Down.setPhase hstaged hold
  | some (_, .started (.ok info)) => exact ⟨hstaged.1.setPhase hnew, hstaged.2⟩
  | some (_, .registering) =>
      obtain ⟨hlistens, info, hinfo, hunheard⟩ := hstaged
      exact ⟨hlistens, info, hinfo, hunheard.setPhase hnew⟩
  | some (_, .registered (.error _)) =>
      obtain ⟨hlistens, info, hinfo, hunheard⟩ := hstaged
      exact ⟨hlistens, info, hinfo, hunheard.setPhase hnew⟩
  | some (_, .registered (.ok ())) =>
      obtain ⟨hlistens, info, hinfo, hup, hrest⟩ := hstaged
      exact ⟨hlistens, info, hinfo, hup.setPhase hnew, hrest⟩

theorem Staged.setPeers (hstaged : Staged listens system holder)
    (peers : List (String × String)) :
    Staged listens
      { system with transport := { system.transport with connectedPeers := peers } } holder := by
  match holder with
  | none =>
      simp only [Staged] at hstaged ⊢
      split
      · next hinfo =>
        rw [hinfo] at hstaged
        exact ⟨hinfo, hstaged.unlistenFn, hstaged.listeners, hstaged.endpoint⟩
      · next info hinfo =>
        rw [hinfo] at hstaged
        exact ⟨⟨hstaged.1.endpoint, hstaged.1.running⟩, hstaged.2⟩
  | some (_, .starting) =>
      have hdown : Down system := hstaged
      exact ⟨hdown.endpointInfo, hdown.unlistenFn, hdown.listeners, hdown.endpoint⟩
  | some (_, .started (.error _)) =>
      have hdown : Down system := hstaged
      exact ⟨hdown.endpointInfo, hdown.unlistenFn, hdown.listeners, hdown.endpoint⟩
  | some (_, .started (.ok info)) =>
      obtain ⟨hunheard, hinfo⟩ := hstaged
      exact ⟨⟨⟨hunheard.endpoint, hunheard.running⟩, hunheard.unlistenFn, hunheard.listeners⟩,
        hinfo⟩
  | some (_, .registering) =>
      obtain ⟨hlistens, info, hinfo, hunheard⟩ := hstaged
      exact ⟨hlistens, info, hinfo, ⟨hunheard.endpoint, hunheard.running⟩, hunheard.unlistenFn,
        hunheard.listeners⟩
  | some (_, .registered (.error _)) =>
      obtain ⟨hlistens, info, hinfo, hunheard⟩ := hstaged
      exact ⟨hlistens, info, hinfo, ⟨hunheard.endpoint, hunheard.running⟩, hunheard.unlistenFn,
        hunheard.listeners⟩
  | some (_, .registered (.ok ())) =>
      obtain ⟨hlistens, info, hinfo, hup, hrest⟩ := hstaged
      exact ⟨hlistens, info, hinfo, ⟨hup.endpoint, hup.running⟩, hrest⟩

theorem Agreed.setPeers (hagreed : Agreed listens system holder)
    (peers : List (String × String)) :
    Agreed listens
      { system with transport := { system.transport with connectedPeers := peers } } holder where
  isInitializing := hagreed.isInitializing
  held := hagreed.held
  lastRegistered := hagreed.lastRegistered
  answered := hagreed.answered
  staged := hagreed.staged.setPeers peers

theorem Agreed.setPhase (hagreed : Agreed listens system holder)
    (hholds : (system.phases call).holds = false) (hold : system.phases call ≠ .stopping)
    (hnotHolds : phase.holds = false) (hnew : phase ≠ .stopping) :
    Agreed listens (system.setPhase call phase) holder where
  isInitializing := hagreed.isInitializing
  held := hagreed.held.update_of_not_holds hholds hnotHolds
  lastRegistered := hagreed.lastRegistered
  answered := hagreed.answered
  staged := hagreed.staged.setPhase hold hnew

end Inert

/-! ## Steps of the invariant -/

section Steps

variable {listens : Bool} {operation : TransportOperation} {system : TransportSystem}
  {holder : Option (Nat × TransportPhase)} {call : Nat} {info : SyncEndpointInfo}

theorem agreed_initialised (hagreed : Agreed listens system holder)
    (hholds : (system.phases call).holds = false) (hold : system.phases call ≠ .stopping) :
    Agreed listens (initialised operation call system) holder := by
  cases operation with
  | connect peerId peerPublicKeyOrAddr => exact hagreed.setPhase hholds hold rfl (nofun)
  | init => exact hagreed.setPhase hholds hold rfl (nofun)
  | dispose => exact hagreed.setPhase hholds hold rfl (nofun)

theorem agreed_initialised_of_up (hflag : system.transport.isInitializing = false)
    (hheld : HeldBy system.phases holder)
    (hcall : ∀ other old, holder = some (other, old) → other = call)
    (hlast : system.lastRegistered = true → listens = true)
    (hinfo : system.transport.endpointInfo = some info) (hup : Up info system)
    (hlisteners : system.native.listeners = system.transport.unlistenFn.toList)
    (hregistered : system.transport.unlistenFn.isSome = (listens && system.lastRegistered)) :
    Agreed listens (initialised operation call system) none := by
  have hdone : ∀ phase : TransportPhase, phase.holds = false → phase ≠ .stopping →
      Agreed listens (system.setPhase call phase) none := by
    intro phase hholds hnew
    have hnone := hheld.update hcall phase
    rw [hholds] at hnone
    have hlater : Up info (system.setPhase call phase) := hup.setPhase hnew
    exact
      { isInitializing := hflag
        held := hnone
        lastRegistered := hlast
        answered := fun _ _ hsome => nomatch hsome
        staged := hlater.staged hinfo hlisteners hregistered }
  cases operation with
  | connect peerId peerPublicKeyOrAddr => exact hdone _ rfl nofun
  | init => exact hdone _ rfl nofun
  | dispose => exact hdone _ rfl nofun

theorem agreed_listen (hflag : system.transport.isInitializing = true)
    (hheld : HeldBy system.phases holder)
    (hcall : ∀ other old, holder = some (other, old) → other = call)
    (hlast : system.lastRegistered = true → listens = true)
    (hinfo : system.transport.endpointInfo = some info) (hunheard : Unheard info system) :
    ∃ later, Agreed listens (listen listens operation call system) later := by
  unfold listen
  rw [hunheard.unlistenFn]
  cases listens with
  | true =>
      exact ⟨some (call, .registering),
        { isInitializing := hflag
          held := hheld.update hcall .registering
          lastRegistered := hlast
          answered := fun _ _ hsome => nomatch hsome
          staged := ⟨rfl, info, hinfo, hunheard.setPhase nofun⟩ }⟩
  | false =>
      have hup : Up info (system.setInitializing false) :=
        ⟨hunheard.endpoint, hunheard.running⟩
      exact ⟨none, agreed_initialised_of_up rfl hheld hcall hlast hinfo hup
        (hunheard.listeners.trans (congrArg Option.toList hunheard.unlistenFn).symm)
        (congrArg Option.isSome hunheard.unlistenFn)⟩

theorem agreed_enterInit (hagreed : Agreed listens system holder)
    (hholds : (system.phases call).holds = false) (hold : system.phases call ≠ .stopping) :
    ∃ later, Agreed listens (enterInit listens operation call system) later := by
  unfold enterInit
  split
  · exact ⟨holder, agreed_initialised hagreed hholds hold⟩
  · next hcomplete =>
    split
    · exact ⟨holder, hagreed.setPhase hholds hold rfl nofun⟩
    · next hflag =>
      have hnone : holder = none := by
        have hdown := hagreed.isInitializing
        cases holder with
        | none => rfl
        | some _ => exact absurd hdown hflag
      subst hnone
      have hcall : ∀ other old, (none : Option (Nat × TransportPhase)) = some (other, old) →
          other = call := nofun
      have hstaged := hagreed.staged
      cases hinfo : system.transport.endpointInfo with
      | none =>
          simp only [Staged, hinfo] at hstaged
          simp only [initialise, TransportSystem.setInitializing, hinfo]
          have hdown : Down (system.setPhase call .starting) := hstaged.setPhase hold
          exact ⟨some (call, .starting),
            { isInitializing := rfl
              held := hagreed.held.update hcall .starting
              lastRegistered := hagreed.lastRegistered
              answered := fun _ _ hsome => nomatch hsome
              staged := ⟨rfl, hdown.unlistenFn, hdown.listeners, hdown.endpoint⟩ }⟩
      | some info =>
          simp only [Staged, hinfo] at hstaged
          obtain ⟨hup, hlisteners, -⟩ := hstaged
          have hunlisten : system.transport.unlistenFn = none := by
            cases hunlisten : system.transport.unlistenFn with
            | none => rfl
            | some listener => exact absurd (by simp [isComplete, hinfo, hunlisten]) hcomplete
          rw [hunlisten] at hlisteners
          simp only [initialise, TransportSystem.setInitializing, hinfo]
          exact agreed_listen rfl hagreed.held hcall hagreed.lastRegistered rfl
            ⟨⟨hup.endpoint, hup.running⟩, hunlisten, hlisteners⟩

theorem unlisten_eq (hlisteners : system.native.listeners = system.transport.unlistenFn.toList) :
    unlisten system =
      { system with
        transport := { system.transport with unlistenFn := none }
        native := { system.native with listeners := [] } } := by
  unfold unlisten
  split
  · next hunlisten =>
    have hempty : system.native.listeners = [] := by rw [hlisteners, hunlisten]; rfl
    rw [← hunlisten, ← hempty]
  · next listener hunlisten =>
    rw [hunlisten] at hlisteners
    simp only [hlisteners, Option.toList_some, List.erase_cons_head]

theorem agreed_enterDispose (hagreed : Agreed listens system holder)
    (hholds : (system.phases call).holds = false) (hold : system.phases call ≠ .stopping) :
    ∃ later, Agreed listens (enterDispose call system) later := by
  unfold enterDispose
  split
  · exact ⟨holder, hagreed.setPhase hholds hold rfl nofun⟩
  · next hflag =>
    have hnone : holder = none := by
      have hdown := hagreed.isInitializing
      cases holder with
      | none => rfl
      | some _ => exact absurd hdown hflag
    subst hnone
    refine ⟨none, ?_⟩
    have hstaged := hagreed.staged
    cases hinfo : system.transport.endpointInfo with
    | none =>
        simp only [Staged, hinfo] at hstaged
        simp only [unlisten, hstaged.unlistenFn, hinfo]
        exact hagreed.setPhase hholds hold rfl nofun
    | some info =>
        simp only [Staged, hinfo] at hstaged
        obtain ⟨hup, hlisteners, -⟩ := hstaged
        simp only [unlisten_eq hlisteners, hinfo]
        exact
          { isInitializing := hagreed.isInitializing
            held := hagreed.held.update_of_not_holds hholds rfl
            lastRegistered := hagreed.lastRegistered
            answered := fun _ _ hsome => nomatch hsome
            staged := ⟨rfl, rfl, rfl, fun _ => ⟨call, Function.update_self _ _ _⟩⟩ }

theorem agreed_enter (hagreed : Agreed listens system holder)
    (hholds : (system.phases call).holds = false) (hold : system.phases call ≠ .stopping) :
    ∃ later, Agreed listens (enter listens operation call system) later := by
  cases operation with
  | init => exact agreed_enterInit hagreed hholds hold
  | connect peerId peerPublicKeyOrAddr => exact agreed_enterInit hagreed hholds hold
  | dispose => exact agreed_enterDispose hagreed hholds hold

theorem agreed_startEndpoint {answer : Except Thrown SyncEndpointInfo} {endpoint : Option String}
    (hagreed : Agreed listens system holder) (hphase : system.phases call = .starting)
    (hrunning : answer.isOk = true → ¬ Stopping system.phases)
    (hendpoint : startEndpoint answer system.native.endpoint = some endpoint) :
    Agreed listens
      { system with
        native := { system.native with endpoint := endpoint }
        phases := Function.update system.phases call (.started answer) }
      (some (call, .started answer)) := by
  have hholder : holder = some (call, .starting) :=
    (hagreed.held call _).mp ⟨rfl, hphase⟩
  subst hholder
  have hdown : Down system := hagreed.staged
  have hold : system.phases call ≠ .stopping := by simp [hphase]
  have hcall : ∀ other old, some (call, TransportPhase.starting) = some (other, old) →
      other = call := fun other old hsome => by cases hsome; rfl
  refine
    { isInitializing := hagreed.isInitializing
      held := hagreed.held.update hcall (.started answer)
      lastRegistered := hagreed.lastRegistered
      answered := fun _ _ hsome => nomatch hsome
      staged := ?_ }
  cases answer with
  | error error =>
      cases hendpoint
      exact ⟨hdown.endpointInfo, hdown.unlistenFn, hdown.listeners,
        fun hsome => (hdown.endpoint hsome).update hold _⟩
  | ok info =>
      have hnone : system.native.endpoint = none := by
        cases hsome : system.native.endpoint with
        | none => rfl
        | some _ => exact absurd (hdown.endpoint (by rw [hsome]; rfl)) (hrunning rfl)
      rw [hnone] at hendpoint
      cases hendpoint
      have hstill : ¬ Stopping (Function.update system.phases call (.started (.ok info))) :=
        not_stopping_update (hrunning rfl) nofun
      exact ⟨⟨⟨rfl, hstill⟩, hdown.unlistenFn, hdown.listeners⟩, hdown.endpointInfo⟩

theorem agreed_register (answer : Except Thrown Unit)
    (hagreed : Agreed listens system holder) (hphase : system.phases call = .registering) :
    Agreed listens
      { system with
        native := {
          system.native with
          listeners :=
            match answer with
            | .ok () => system.native.listeners ++ [call]
            | .error _ => system.native.listeners }
        phases := Function.update system.phases call (.registered answer)
        lastRegistered := answer.isOk }
      (some (call, .registered answer)) := by
  have hholder : holder = some (call, .registering) :=
    (hagreed.held call _).mp ⟨rfl, hphase⟩
  subst hholder
  obtain ⟨hlistens, info, hinfo, hunheard⟩ := hagreed.staged
  have hold : system.phases call ≠ .stopping := by simp [hphase]
  have hstill : ¬ Stopping (Function.update system.phases call (.registered answer)) :=
    not_stopping_update hunheard.running nofun
  have hcall : ∀ other old, some (call, TransportPhase.registering) = some (other, old) →
      other = call := fun other old hsome => by cases hsome; rfl
  refine
    { isInitializing := hagreed.isInitializing
      held := hagreed.held.update hcall (.registered answer)
      lastRegistered := fun _ => hlistens
      answered := fun other new hsome => by cases hsome; rfl
      staged := ?_ }
  cases answer with
  | error error =>
      exact ⟨hlistens, info, hinfo, ⟨hunheard.endpoint, hstill⟩, hunheard.unlistenFn,
        hunheard.listeners⟩
  | ok registered =>
      exact ⟨hlistens, info, hinfo, ⟨hunheard.endpoint, hstill⟩, hunheard.unlistenFn,
        by simp [hunheard.listeners]⟩

theorem agreed_stopEndpoint (hagreed : Agreed listens system holder)
    (hphase : system.phases call = .stopping) :
    Agreed listens
      { system with
        native := { system.native with endpoint := none }
        phases := Function.update system.phases call (.stopped (.ok ())) }
      holder where
  isInitializing := hagreed.isInitializing
  held := hagreed.held.update_of_not_holds (by rw [hphase]; rfl) rfl
  lastRegistered := hagreed.lastRegistered
  answered := hagreed.answered
  staged := by
    have hstopping : Stopping system.phases := ⟨call, hphase⟩
    have hdown : Down system → Down
        { system with
          native := { system.native with endpoint := none }
          phases := Function.update system.phases call (.stopped (.ok ())) } :=
      fun hdown => ⟨hdown.endpointInfo, hdown.unlistenFn, hdown.listeners,
        fun hsome => nomatch hsome⟩
    have hstaged := hagreed.staged
    match holder with
    | none =>
        simp only [Staged] at hstaged ⊢
        cases hinfo : system.transport.endpointInfo with
        | none =>
            rw [hinfo] at hstaged
            exact hdown hstaged
        | some info =>
            rw [hinfo] at hstaged
            exact absurd hstopping hstaged.1.running
    | some (_, .starting) => exact hdown hstaged
    | some (_, .started (.error _)) => exact hdown hstaged
    | some (_, .started (.ok info)) => exact absurd hstopping hstaged.1.running
    | some (_, .registering) =>
        obtain ⟨-, info, -, hunheard⟩ := hstaged
        exact absurd hstopping hunheard.running
    | some (_, .registered (.error _)) =>
        obtain ⟨-, info, -, hunheard⟩ := hstaged
        exact absurd hstopping hunheard.running
    | some (_, .registered (.ok ())) =>
        obtain ⟨-, info, -, hup, -⟩ := hstaged
        exact absurd hstopping hup.running

theorem agreed_resume {after : TransportSystem} (hagreed : Agreed listens system holder)
    (hresume : resume listens operation call system = some after) :
    ∃ later, Agreed listens after later := by
  cases hphase : system.phases call with
  | started answer =>
      have hholder : holder = some (call, .started answer) :=
        (hagreed.held call _).mp ⟨rfl, hphase⟩
      subst hholder
      have hold : system.phases call ≠ .stopping := by simp [hphase]
      have hcall : ∀ other old, some (call, TransportPhase.started answer) = some (other, old) →
          other = call := fun other old hsome => by cases hsome; rfl
      cases answer with
      | error error =>
          simp only [resume, hphase] at hresume
          cases hresume
          have hdown : Down (system.setPhase call (.settled (.error error))) :=
            Down.setPhase hagreed.staged hold
          have hlater : Down
              ((system.setInitializing false).setPhase call (.settled (.error error))) :=
            ⟨hdown.endpointInfo, hdown.unlistenFn, hdown.listeners, hdown.endpoint⟩
          exact ⟨none,
            { isInitializing := rfl
              held := hagreed.held.update hcall (.settled (.error error))
              lastRegistered := hagreed.lastRegistered
              answered := fun _ _ hsome => nomatch hsome
              staged := hlater.staged }⟩
      | ok info =>
          simp only [resume, hphase] at hresume
          cases hresume
          obtain ⟨hunheard, -⟩ := hagreed.staged
          exact agreed_listen hagreed.isInitializing hagreed.held hcall hagreed.lastRegistered
            rfl ⟨⟨hunheard.endpoint, hunheard.running⟩, hunheard.unlistenFn, hunheard.listeners⟩
  | registered answer =>
      have hholder : holder = some (call, .registered answer) :=
        (hagreed.held call _).mp ⟨rfl, hphase⟩
      subst hholder
      have hcall : ∀ other old, some (call, TransportPhase.registered answer) =
          some (other, old) → other = call := fun other old hsome => by cases hsome; rfl
      have hanswered := hagreed.answered call answer rfl
      cases answer with
      | error error =>
          simp only [resume, hphase] at hresume
          cases hresume
          obtain ⟨hlistens, info, hinfo, hunheard⟩ := hagreed.staged
          have hup : Up info
              ((system.setInitializing false).setPhase call (.settled (.error error))) :=
            ⟨hunheard.endpoint, not_stopping_update hunheard.running nofun⟩
          exact ⟨none,
            { isInitializing := rfl
              held := hagreed.held.update hcall (.settled (.error error))
              lastRegistered := hagreed.lastRegistered
              answered := fun _ _ hsome => nomatch hsome
              staged := hup.staged hinfo
                (hunheard.listeners.trans (congrArg Option.toList hunheard.unlistenFn).symm)
                (by
                  rw [hlistens]
                  exact (congrArg Option.isSome hunheard.unlistenFn).trans hanswered.symm) }⟩
      | ok registered =>
          simp only [resume, hphase] at hresume
          cases hresume
          obtain ⟨hlistens, info, hinfo, hup, -, hlisteners⟩ := hagreed.staged
          have hlater : Up info
              { system with
                transport := {
                  system.transport with unlistenFn := some call, isInitializing := false } } :=
            ⟨hup.endpoint, hup.running⟩
          exact ⟨none, agreed_initialised_of_up rfl hagreed.held hcall hagreed.lastRegistered
            hinfo hlater hlisteners (by rw [hlistens]; exact hanswered.symm)⟩
  | connected answer =>
      have hholds : (system.phases call).holds = false := by rw [hphase]; rfl
      have hold : system.phases call ≠ .stopping := by simp [hphase]
      cases answer with
      | error error =>
          simp only [resume, hphase] at hresume
          cases hresume
          exact ⟨holder, hagreed.setPhase hholds hold rfl nofun⟩
      | ok remoteEndpointId =>
          simp only [resume, hphase] at hresume
          cases hresume
          have hsettled : Agreed listens (system.setPhase call (.settled (.ok none))) holder :=
            hagreed.setPhase hholds hold rfl nofun
          exact ⟨holder, hsettled.setPeers _⟩
  | stopped answer =>
      have hholds : (system.phases call).holds = false := by rw [hphase]; rfl
      have hold : system.phases call ≠ .stopping := by simp [hphase]
      cases answer with
      | error error =>
          simp only [resume, hphase] at hresume
          cases hresume
          exact ⟨holder, hagreed.setPhase hholds hold rfl nofun⟩
      | ok stopped =>
          simp only [resume, hphase] at hresume
          cases hresume
          exact ⟨holder, hagreed.setPhase hholds hold rfl nofun⟩
  | idle => simp [resume, hphase] at hresume
  | waiting => simp [resume, hphase] at hresume
  | starting => simp [resume, hphase] at hresume
  | registering => simp [resume, hphase] at hresume
  | connecting => simp [resume, hphase] at hresume
  | stopping => simp [resume, hphase] at hresume
  | settled answer => simp [resume, hphase] at hresume

end Steps

/-! ## Runs -/

/-- No endpoint is answered while a stop is outstanding, and no stop fails. -/
def Undisturbed (system : TransportSystem) : TransportEvent → Prop
  | .startEndpoint _ answer => answer.isOk = true → ¬ Stopping system.phases
  | .stopEndpoint _ answer => answer = .ok ()
  | _ => True

variable {operations : Nat → TransportOperation} {system : TransportSystem}

theorem agreed_step {listens : Bool} {after : TransportSystem}
    {holder : Option (Nat × TransportPhase)} {event : TransportEvent}
    (hagreed : Agreed listens system holder) (hallowed : Undisturbed system event)
    (hstep : step listens operations system event = some after) :
    ∃ later, Agreed listens after later := by
  cases event with
  | call call =>
      simp only [step] at hstep
      split at hstep
      · next hphase =>
        cases hstep
        exact agreed_enter hagreed (by rw [hphase]; rfl) (by simp [hphase])
      · cases hstep
  | poll call =>
      simp only [step] at hstep
      split at hstep
      · next hphase =>
        split at hstep
        · cases hstep
          exact ⟨holder, hagreed⟩
        · cases hstep
          exact agreed_enter hagreed (by rw [hphase]; rfl) (by simp [hphase])
      · cases hstep
  | startEndpoint call answer =>
      simp only [step] at hstep
      split at hstep
      · next hphase =>
        obtain ⟨endpoint, hendpoint, rfl⟩ := Option.map_eq_some_iff.mp hstep
        exact ⟨_, agreed_startEndpoint hagreed hphase hallowed hendpoint⟩
      · cases hstep
  | register call answer =>
      simp only [step] at hstep
      split at hstep
      · next hphase =>
        cases hstep
        exact ⟨_, agreed_register answer hagreed hphase⟩
      · cases hstep
  | connectPeer call answer =>
      simp only [step] at hstep
      split at hstep
      · next hphase =>
        split at hstep
        · cases hstep
        · cases hstep
          exact ⟨holder, hagreed.setPhase (by rw [hphase]; rfl) (by simp [hphase]) rfl nofun⟩
      · cases hstep
  | stopEndpoint call answer =>
      cases hallowed
      simp only [step] at hstep
      split at hstep
      · next hphase =>
        cases hstep
        exact ⟨holder, agreed_stopEndpoint hagreed hphase⟩
      · cases hstep
  | resume call => exact agreed_resume hagreed hstep

theorem Runs.agreed {listens : Bool} (hruns : Runs listens operations Undisturbed .initial system) :
    ∃ holder, Agreed listens system holder := by
  induction hruns with
  | refl => exact ⟨none, agreed_initial listens⟩
  | tail event _ hallowed hstep ih =>
      obtain ⟨holder, hagreed⟩ := ih
      exact agreed_step hagreed hallowed hstep

/-- The transport has endpoint information exactly when the native side runs that endpoint,
and then a listener exactly when the last registration succeeded. -/
theorem undisturbed_transport_agrees {listens : Bool} {operations : Nat → TransportOperation}
    {system : TransportSystem} (hruns : Runs listens operations Undisturbed .initial system)
    (hquiescent : Quiescent system) :
    system.transport.endpointInfo.map SyncEndpointInfo.endpointId = system.native.endpoint ∧
      system.native.listeners.length =
        if system.transport.endpointInfo.isSome ∧ system.lastRegistered then 1 else 0 := by
  obtain ⟨holder, hagreed⟩ := hruns.agreed
  have hnone : holder = none := by
    cases hholder : holder with
    | none => rfl
    | some held =>
        obtain ⟨hholds, hphase⟩ := (hagreed.held held.1 held.2).mpr hholder
        rcases hquiescent held.1 with hidle | ⟨answer, hsettled⟩
        · rw [← hphase, hidle] at hholds
          cases hholds
        · rw [← hphase, hsettled] at hholds
          cases hholds
  subst hnone
  have hstaged := hagreed.staged
  cases hinfo : system.transport.endpointInfo with
  | none =>
      simp only [Staged, hinfo] at hstaged
      have hendpoint : system.native.endpoint = none := by
        cases hsome : system.native.endpoint with
        | none => rfl
        | some endpointId =>
            obtain ⟨call, hstopping⟩ := hstaged.endpoint (by rw [hsome]; rfl)
            rcases hquiescent call with hidle | ⟨answer, hsettled⟩
            · rw [hidle] at hstopping
              cases hstopping
            · rw [hsettled] at hstopping
              cases hstopping
      exact ⟨hendpoint.symm, by simp [hstaged.listeners]⟩
  | some info =>
      simp only [Staged, hinfo] at hstaged
      obtain ⟨hup, hlisteners, hunlisten⟩ := hstaged
      refine ⟨hup.endpoint.symm, ?_⟩
      rw [hlisteners]
      cases hlast : system.lastRegistered with
      | true =>
          rw [hlast, hagreed.lastRegistered hlast] at hunlisten
          obtain ⟨listener, hlistener⟩ := Option.isSome_iff_exists.mp hunlisten
          simp [hlistener]
      | false =>
          rw [hlast, Bool.and_false] at hunlisten
          have hnone : system.transport.unlistenFn = none := by simpa using hunlisten
          simp [hnone]

def localInfo : SyncEndpointInfo where
  endpointId := "local_node_id"
  addrJson := "{}"

def initialisedOnce : List TransportEvent :=
  [.call 0, .startEndpoint 0 (.ok localInfo), .resume 0, .register 0 (.ok ()), .resume 0]

theorem undisturbed_transport_agrees_once :
    ∃ system, initialisedOnce.foldlM (step true fun _ => .init) .initial = some system ∧
      system.transport.endpointInfo.map SyncEndpointInfo.endpointId = system.native.endpoint ∧
      system.native.listeners.length = 1 := by
  have hidle : Runs true (fun _ => .init) Undisturbed .initial _ :=
    .tail (.call 0) (.refl _) trivial rfl
  have hstarted : Runs true (fun _ => .init) Undisturbed .initial _ :=
    .tail (.startEndpoint 0 (.ok localInfo)) hidle
      (by rintro - ⟨_ | call, hstopping⟩ <;> cases hstopping) rfl
  have hagrees := undisturbed_transport_agrees
    (.tail (.resume 0) (.tail (.register 0 (.ok ())) (.tail (.resume 0) hstarted trivial rfl)
      trivial rfl) trivial rfl) (by
    rintro (_ | call)
    · exact .inr ⟨_, rfl⟩
    · exact .inl rfl)
  exact ⟨_, rfl, hagrees.1, hagrees.2⟩

/-! ## Runs in which they disagree -/

def Agrees (system : TransportSystem) : Prop :=
  system.transport.endpointInfo.isSome = system.native.endpoint.isSome ∧
    system.native.listeners.length = if system.transport.endpointInfo.isSome then 1 else 0

theorem runs_of_foldlM {listens : Bool} (events : List TransportEvent) {after : TransportSystem}
    (hruns : Runs listens operations (fun _ _ => True) .initial system)
    (hrun : events.foldlM (step listens operations) system = some after) :
    Runs listens operations (fun _ _ => True) .initial after := by
  induction events generalizing system with
  | nil =>
      cases hrun
      exact hruns
  | cons event events ih =>
      rw [List.foldlM_cons] at hrun
      obtain ⟨next, hstep, hrest⟩ := Option.bind_eq_some_iff.mp hrun
      exact ih (.tail event hruns trivial hstep) hrest

def failedListener : List TransportEvent :=
  [.call 0, .startEndpoint 0 (.ok localInfo), .resume 0,
    .register 0 (.error (.builtin "Error" "event listener unavailable")), .resume 0]

/-- A start overtakes the stop of a `dispose`. -/
def overtakenStop : List TransportEvent :=
  initialisedOnce ++
    [.call 1, .call 2, .startEndpoint 2 (.ok localInfo), .stopEndpoint 1 (.ok ()), .resume 2,
      .register 2 (.ok ()), .resume 2, .resume 1]

def failedStop : List TransportEvent :=
  initialisedOnce ++
    [.call 1, .stopEndpoint 1 (.error (.builtin "Error" "stop failed")), .resume 1]

def disposeSecond (call : Nat) : TransportOperation :=
  if call = 1 then .dispose else .init

/-- Each of these runs comes to rest with the transport and the native side at odds: without
a listener, without an endpoint, and with an endpoint nobody knows of. -/
theorem transport_disagrees :
    (∃ system, Runs true disposeSecond (fun _ _ => True) .initial system ∧ Quiescent system ∧
      ¬ Agrees system ∧ system.native.listeners = []) ∧
    (∃ system, Runs true disposeSecond (fun _ _ => True) .initial system ∧ Quiescent system ∧
      ¬ Agrees system ∧ system.native.endpoint = none) ∧
    ∃ system, Runs true disposeSecond (fun _ _ => True) .initial system ∧ Quiescent system ∧
      ¬ Agrees system ∧ system.transport.endpointInfo = none := by
  refine ⟨⟨_, runs_of_foldlM failedListener (.refl _) rfl, ?_, ?_, rfl⟩,
    ⟨_, runs_of_foldlM overtakenStop (.refl _) rfl, ?_, ?_, rfl⟩,
    ⟨_, runs_of_foldlM failedStop (.refl _) rfl, ?_, ?_, rfl⟩⟩
  · rintro (_ | call)
    · exact .inr ⟨_, rfl⟩
    · exact .inl rfl
  · exact fun hagrees => absurd hagrees.2 (by decide)
  · rintro (_ | _ | _ | call)
    · exact .inr ⟨_, rfl⟩
    · exact .inr ⟨_, rfl⟩
    · exact .inr ⟨_, rfl⟩
    · exact .inl rfl
  · exact fun hagrees => absurd hagrees.1 (by decide)
  · rintro (_ | _ | call)
    · exact .inr ⟨_, rfl⟩
    · exact .inr ⟨_, rfl⟩
    · exact .inl rfl
  · exact fun hagrees => absurd hagrees.1 (by decide)

end TauriPlatform.IrohSyncTransport
