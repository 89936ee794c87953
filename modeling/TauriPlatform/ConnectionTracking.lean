import Mathlib.Data.List.Nodup
import Mathlib.Logic.Function.Basic

/-!
# The connections of an endpoint

`track_connection` puts a connection into the map under the write lock.  Without the lock
it then closes the connection which was in its place, and spawns a watcher, which waits
until its own connection is closed and removes it from the map if it is still there.
Connections are told apart by their stable ids alone.
-/

namespace TauriPlatform

abbrev EndpointId := String

abbrev StableId := Nat

/-- Where a call of `track_connection` stands once it has written the map. -/
inductive TrackPhase where
  | superseding (previous : Option StableId)
  | spawning
  | watching
  | finished
  deriving DecidableEq

structure TrackCall where
  endpointId : EndpointId
  stableId : StableId
  phase : TrackPhase
  deriving DecidableEq

/-- The map of an endpoint, the connections which are closed, and the calls of
`track_connection` in the order of their writes. -/
structure TrackedConnections where
  connections : EndpointId → Option StableId
  closed : List StableId
  calls : List TrackCall

inductive ConnectionEvent where
  | track (endpointId : EndpointId) (stableId : StableId)
  /-- A peer or the transport closes a connection. -/
  | close (stableId : StableId)
  | disconnect (endpointId : EndpointId)
  | supersede (call : Nat)
  | spawn (call : Nat)
  /-- A watcher finds its connection closed. -/
  | unwatch (call : Nat)
  deriving DecidableEq

namespace TrackedConnections

def initial : TrackedConnections where
  connections := fun _ => none
  closed := []
  calls := []

def setEntry (state : TrackedConnections) (endpointId : EndpointId)
    (entry : Option StableId) : TrackedConnections :=
  { state with connections := Function.update state.connections endpointId entry }

def addCall (state : TrackedConnections) (call : TrackCall) : TrackedConnections :=
  { state with calls := state.calls ++ [call] }

def addClosed (state : TrackedConnections) (stableId : StableId) : TrackedConnections :=
  { state with closed := stableId :: state.closed }

def setPhase (state : TrackedConnections) (index : Nat) (call : TrackCall)
    (phase : TrackPhase) : TrackedConnections :=
  { state with calls := state.calls.set index { call with phase := phase } }

def advance (state : TrackedConnections) (index : Nat) (call : TrackCall) :
    ConnectionEvent → Option TrackedConnections
  | .supersede _ =>
      match call.phase with
      | .superseding previous =>
          let spawning := state.setPhase index call .spawning
          match previous.filter (· ≠ call.stableId) with
          | none => some spawning
          | some previous => some (spawning.addClosed previous)
      | _ => none
  | .spawn _ =>
      if call.phase = .spawning then some (state.setPhase index call .watching) else none
  | .unwatch _ =>
      if call.phase = .watching ∧ call.stableId ∈ state.closed then
        let finished := state.setPhase index call .finished
        if state.connections call.endpointId = some call.stableId then
          some (finished.setEntry call.endpointId none)
        else some finished
      else none
  | _ => none

def step (event : ConnectionEvent) (state : TrackedConnections) : Option TrackedConnections :=
  match event with
  | .track endpointId stableId =>
      -- A connection is tracked once.
      if stableId ∈ state.calls.map TrackCall.stableId then none
      else
        some
          ((state.setEntry endpointId (some stableId)).addCall
            { endpointId := endpointId
              stableId := stableId
              phase := .superseding (state.connections endpointId) })
  | .close stableId => some (state.addClosed stableId)
  | .disconnect endpointId =>
      match state.connections endpointId with
      | none => some state
      | some stableId =>
          some ((state.setEntry endpointId none).addClosed stableId)
  | .supersede index | .spawn index | .unwatch index =>
      (state.calls[index]?).bind fun call => state.advance index call event

def run (events : List ConnectionEvent) (state : TrackedConnections) :
    Option TrackedConnections :=
  events.foldlM (fun state event => step event state) state

def Reachable (state : TrackedConnections) : Prop :=
  ∃ events, run events initial = some state

def Quiescent (state : TrackedConnections) : Prop :=
  ∀ call ∈ state.calls,
    call.phase = .watching ∧ call.stableId ∉ state.closed ∨ call.phase = .finished

instance (state : TrackedConnections) : Decidable state.Quiescent :=
  inferInstanceAs (Decidable (∀ call ∈ state.calls, _))

def entries (state : TrackedConnections) : List (EndpointId × StableId) :=
  state.calls.map fun call => (call.endpointId, call.stableId)

def newest (state : TrackedConnections) (endpointId : EndpointId) : Option StableId :=
  (state.entries.reverse.find? (·.1 = endpointId)).map Prod.snd

/-- An entry of the map is the newest connection of its peer.  A newest connection which is
no entry is closed, and a watcher which has finished has left no entry of its own. -/
structure Consistent (state : TrackedConnections) : Prop where
  distinct : (state.entries.map Prod.snd).Nodup
  newest_of_entry : ∀ endpointId stableId,
    state.connections endpointId = some stableId → state.newest endpointId = some stableId
  closed_of_no_entry : ∀ endpointId stableId, state.newest endpointId = some stableId →
    state.connections endpointId = none → stableId ∈ state.closed
  finished : ∀ call ∈ state.calls, call.phase = .finished →
    state.connections call.endpointId ≠ some call.stableId

theorem consistent_initial : initial.Consistent where
  distinct := List.nodup_nil
  newest_of_entry := fun _ _ hentry => nomatch hentry
  closed_of_no_entry := fun _ _ hnewest => nomatch hnewest
  finished := fun _ hmem => absurd hmem List.not_mem_nil

section Phases

variable {state : TrackedConnections} {index : Nat} {call : TrackCall}

theorem entries_setPhase (hcall : state.calls[index]? = some call) (phase : TrackPhase) :
    (state.setPhase index call phase).entries = state.entries := by
  simp only [entries, setPhase]
  rw [List.map_set]
  apply List.ext_getElem? fun other => ?_
  rw [List.getElem?_set]
  split
  · next hindex =>
    subst hindex
    have hlt : index < state.calls.length := (List.getElem?_eq_some_iff.mp hcall).1
    rw [if_pos (by simpa using hlt), List.getElem?_map, hcall]
    rfl
  · rfl

theorem newest_setPhase (hcall : state.calls[index]? = some call) (phase : TrackPhase) :
    (state.setPhase index call phase).newest = state.newest := by
  funext endpointId
  simp only [newest, entries_setPhase hcall]

theorem Consistent.setPhase (hconsistent : state.Consistent)
    (hcall : state.calls[index]? = some call) {phase : TrackPhase}
    (hphase : phase = .finished → state.connections call.endpointId ≠ some call.stableId) :
    (state.setPhase index call phase).Consistent where
  distinct := by
    rw [entries_setPhase hcall]
    exact hconsistent.distinct
  newest_of_entry := by
    rw [newest_setPhase hcall]
    exact hconsistent.newest_of_entry
  closed_of_no_entry := by
    rw [newest_setPhase hcall]
    exact hconsistent.closed_of_no_entry
  finished := by
    intro other hmem hfinished
    rcases List.mem_or_eq_of_mem_set hmem with hold | rfl
    · exact hconsistent.finished other hold hfinished
    · exact hphase hfinished

end Phases

@[simp] theorem connections_setEntry_self (state : TrackedConnections)
    (endpointId : EndpointId) (entry : Option StableId) :
    (state.setEntry endpointId entry).connections endpointId = entry :=
  Function.update_self _ _ _

variable {endpointId : EndpointId}

theorem connections_setEntry_of_ne {other : EndpointId} (hne : other ≠ endpointId)
    (state : TrackedConnections) (entry : Option StableId) :
    (state.setEntry endpointId entry).connections other = state.connections other :=
  Function.update_of_ne hne _ _

theorem newest_addCall (state : TrackedConnections) (call : TrackCall)
    (endpointId : EndpointId) :
    (state.addCall call).newest endpointId =
      if call.endpointId = endpointId then some call.stableId else state.newest endpointId := by
  simp only [newest, entries, addCall, List.map_append, List.map_cons, List.map_nil,
    List.reverse_append, List.reverse_cons, List.reverse_nil, List.nil_append,
    List.cons_append, List.find?_cons]
  by_cases heq : call.endpointId = endpointId
  · simp [heq]
  · simp [heq]

variable {state : TrackedConnections}

theorem Consistent.addClosed (hconsistent : state.Consistent) (stableId : StableId) :
    (state.addClosed stableId).Consistent where
  distinct := hconsistent.distinct
  newest_of_entry := hconsistent.newest_of_entry
  closed_of_no_entry := fun endpointId newest hnewest hnone =>
    List.mem_cons_of_mem _ (hconsistent.closed_of_no_entry endpointId newest hnewest hnone)
  finished := hconsistent.finished

variable {stableId : StableId}

theorem Consistent.removeEntry (hconsistent : state.Consistent)
    (hentry : state.connections endpointId = some stableId) (hclosed : stableId ∈ state.closed) :
    (state.setEntry endpointId none).Consistent where
  distinct := hconsistent.distinct
  newest_of_entry := by
    intro other entry hother
    by_cases heq : other = endpointId
    · subst heq
      simp at hother
    · rw [connections_setEntry_of_ne heq] at hother
      exact hconsistent.newest_of_entry other entry hother
  closed_of_no_entry := by
    intro other newest hnewest hnone
    by_cases heq : other = endpointId
    · subst heq
      have hsame : some newest = some stableId :=
        hnewest.symm.trans (hconsistent.newest_of_entry other stableId hentry)
      exact Option.some.inj hsame ▸ hclosed
    · rw [connections_setEntry_of_ne heq] at hnone
      exact hconsistent.closed_of_no_entry other newest hnewest hnone
  finished := by
    intro call hmem hfinished hcall
    by_cases heq : call.endpointId = endpointId
    · rw [heq] at hcall
      simp at hcall
    · rw [connections_setEntry_of_ne heq] at hcall
      exact hconsistent.finished call hmem hfinished hcall

theorem Consistent.track (hconsistent : state.Consistent) {previous : Option StableId}
    (hnew : stableId ∉ state.calls.map TrackCall.stableId) :
    ((state.setEntry endpointId (some stableId)).addCall
      ⟨endpointId, stableId, .superseding previous⟩).Consistent where
  distinct := by
    have hdistinct := hconsistent.distinct
    simp only [entries, List.map_map, Function.comp_def] at hdistinct
    simp only [entries, addCall, setEntry, List.map_append, List.map_map, Function.comp_def,
      List.map_cons, List.map_nil]
    exact List.Nodup.append hdistinct (List.pairwise_singleton _ _)
      (List.disjoint_singleton.mpr hnew)
  newest_of_entry := by
    intro other entry hother
    rw [newest_addCall]
    by_cases heq : other = endpointId
    · subst heq
      simpa [addCall] using hother
    · rw [if_neg (Ne.symm heq)]
      exact hconsistent.newest_of_entry other entry
        ((connections_setEntry_of_ne heq state _).symm.trans hother)
  closed_of_no_entry := by
    intro other newest hnewest hnone
    rw [newest_addCall] at hnewest
    by_cases heq : other = endpointId
    · subst heq
      simp [addCall] at hnone
    · rw [if_neg (Ne.symm heq)] at hnewest
      exact hconsistent.closed_of_no_entry other newest hnewest
        ((connections_setEntry_of_ne heq state _).symm.trans hnone)
  finished := by
    intro call hmem hfinished hcall
    rcases List.mem_append.mp hmem with hold | hlast
    · by_cases heq : call.endpointId = endpointId
      · have hsame : some stableId = some call.stableId := by
          rw [← hcall, heq]
          exact (connections_setEntry_self state endpointId (some stableId)).symm
        exact hnew (Option.some.inj hsame ▸ List.mem_map_of_mem hold)
      · exact hconsistent.finished call hold hfinished
          ((connections_setEntry_of_ne heq state _).symm.trans hcall)
    · rw [List.mem_singleton.mp hlast] at hfinished
      cases hfinished

variable {after : TrackedConnections}

theorem Consistent.advance {index : Nat} {call : TrackCall} {event : ConnectionEvent}
    (hconsistent : state.Consistent) (hcall : state.calls[index]? = some call)
    (hadvance : state.advance index call event = some after) : after.Consistent := by
  cases event with
  | supersede _ =>
      simp only [TrackedConnections.advance] at hadvance
      split at hadvance
      · have hspawning : (state.setPhase index call .spawning).Consistent :=
          hconsistent.setPhase hcall (fun hfinished => nomatch hfinished)
        split at hadvance
        · cases hadvance
          exact hspawning
        · cases hadvance
          exact hspawning.addClosed _
      · cases hadvance
  | spawn _ =>
      simp only [TrackedConnections.advance] at hadvance
      split at hadvance
      · cases hadvance
        exact hconsistent.setPhase hcall (fun hfinished => nomatch hfinished)
      · cases hadvance
  | unwatch _ =>
      simp only [TrackedConnections.advance] at hadvance
      split at hadvance
      · next hwatching =>
        split at hadvance
        · next hentry =>
          cases hadvance
          have hremoved := hconsistent.removeEntry hentry hwatching.2
          exact hremoved.setPhase hcall (fun _ => by simp)
        · next hentry =>
          cases hadvance
          exact hconsistent.setPhase hcall (fun _ => hentry)
      · cases hadvance
  | track _ _ => cases hadvance
  | close _ => cases hadvance
  | disconnect _ => cases hadvance

theorem Consistent.step {event : ConnectionEvent} (hconsistent : state.Consistent)
    (hstep : TrackedConnections.step event state = some after) :
    after.Consistent := by
  cases event with
  | track endpointId stableId =>
      simp only [TrackedConnections.step] at hstep
      split at hstep
      · cases hstep
      · next hnew =>
        cases hstep
        exact hconsistent.track hnew
  | close stableId =>
      cases hstep
      exact hconsistent.addClosed stableId
  | disconnect endpointId =>
      simp only [TrackedConnections.step] at hstep
      split at hstep
      · cases hstep
        exact hconsistent
      · next stableId hentry =>
        cases hstep
        exact (hconsistent.addClosed stableId).removeEntry hentry List.mem_cons_self
  | supersede index =>
      obtain ⟨call, hcall, hadvance⟩ := Option.bind_eq_some_iff.mp hstep
      exact hconsistent.advance hcall hadvance
  | spawn index =>
      obtain ⟨call, hcall, hadvance⟩ := Option.bind_eq_some_iff.mp hstep
      exact hconsistent.advance hcall hadvance
  | unwatch index =>
      obtain ⟨call, hcall, hadvance⟩ := Option.bind_eq_some_iff.mp hstep
      exact hconsistent.advance hcall hadvance

theorem Consistent.run {events : List ConnectionEvent} (hconsistent : state.Consistent)
    (hrun : TrackedConnections.run events state = some after) :
    after.Consistent := by
  induction events generalizing state with
  | nil =>
      cases hrun
      exact hconsistent
  | cons event events ih =>
      rw [TrackedConnections.run, List.foldlM_cons] at hrun
      obtain ⟨next, hstep, hrest⟩ := Option.bind_eq_some_iff.mp hrun
      exact ih (hconsistent.step hstep) hrest

theorem Reachable.consistent (hreached : state.Reachable) :
    state.Consistent := by
  obtain ⟨events, hrun⟩ := hreached
  exact consistent_initial.run hrun

theorem exists_call_of_newest (hnewest : state.newest endpointId = some stableId) :
    ∃ call ∈ state.calls, call.endpointId = endpointId ∧ call.stableId = stableId := by
  obtain ⟨entry, hfound, rfl⟩ := Option.map_eq_some_iff.mp hnewest
  have hmem : entry ∈ state.entries := List.mem_reverse.mp (List.mem_of_find?_eq_some hfound)
  obtain ⟨call, hcall, rfl⟩ := List.mem_map.mp hmem
  exact ⟨call, hcall, by simpa using List.find?_some hfound, rfl⟩

theorem Consistent.connections_of_quiescent (hconsistent : state.Consistent)
    (hquiescent : state.Quiescent) (endpointId : EndpointId) :
    state.connections endpointId =
      (state.newest endpointId).filter (· ∉ state.closed) := by
  cases hnewest : state.newest endpointId with
  | none =>
      cases hentry : state.connections endpointId with
      | none => rfl
      | some stableId =>
          have hsome := hconsistent.newest_of_entry endpointId stableId hentry
          rw [hnewest] at hsome
          cases hsome
  | some stableId =>
      by_cases hclosed : stableId ∈ state.closed
      · rw [Option.filter_some_neg (by simpa using hclosed)]
        obtain ⟨call, hmem, rfl, rfl⟩ := exists_call_of_newest hnewest
        rcases hquiescent call hmem with ⟨-, hopen⟩ | hfinished
        · exact absurd hclosed hopen
        · cases hentry : state.connections call.endpointId with
          | none => rfl
          | some other =>
              have hother := hconsistent.newest_of_entry _ _ hentry
              rw [hnewest] at hother
              cases hother
              exact absurd hentry (hconsistent.finished call hmem hfinished)
      · rw [Option.filter_some_pos (by simpa using hclosed)]
        cases hentry : state.connections endpointId with
        | none =>
            exact absurd (hconsistent.closed_of_no_entry _ _ hnewest hentry) hclosed
        | some other =>
            have hother := hconsistent.newest_of_entry _ _ hentry
            rw [← hnewest, hother]

theorem Consistent.unwatch_superseded (hconsistent : state.Consistent) {index : Nat}
    {call : TrackCall} (hcall : state.calls[index]? = some call)
    (hsuperseded : state.newest call.endpointId ≠ some call.stableId)
    (hstep : TrackedConnections.step (.unwatch index) state = some after) :
    after.connections = state.connections := by
  simp only [TrackedConnections.step, hcall, Option.bind_some, TrackedConnections.advance]
    at hstep
  split at hstep
  · split at hstep
    · next hentry => exact absurd (hconsistent.newest_of_entry _ _ hentry) hsuperseded
    · cases hstep
      rfl
  · cases hstep

theorem tracked_connections_newest {state : TrackedConnections} (hreached : state.Reachable) :
    (state.Quiescent → ∀ endpointId, state.connections endpointId =
      (state.newest endpointId).filter (· ∉ state.closed)) ∧
    ∀ index call after, state.calls[index]? = some call →
      state.newest call.endpointId ≠ some call.stableId →
      step (.unwatch index) state = some after → after.connections = state.connections :=
  ⟨hreached.consistent.connections_of_quiescent,
    fun _ _ _ hcall hsuperseded hstep =>
      hreached.consistent.unwatch_superseded hcall hsuperseded hstep⟩

def lateWatcher : List ConnectionEvent :=
  [.track "alice" 0, .supersede 0, .spawn 0, .track "alice" 1, .supersede 1, .spawn 1,
    .unwatch 0]

theorem tracked_connections_newest_lateWatcher :
    ∃ state, run lateWatcher initial = some state ∧
      state.connections "alice" = (state.newest "alice").filter (· ∉ state.closed) ∧
      state.connections "alice" = some 1 :=
  ⟨_, rfl, (tracked_connections_newest ⟨lateWatcher, rfl⟩).1 (by decide) "alice", rfl⟩

end TrackedConnections

end TauriPlatform
