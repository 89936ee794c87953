import Mathlib.Data.List.Pairwise
import TauriPlatform.NativeSessionStore

/-!
# Transitions of the native session

Calls of `authenticate` overlap each other and `logout`.  A call takes its generation,
waits for the database, and commits.  The commit and the logout hold the lock of `current`
from their first access to it to their last, so each of them is one step, which reads or
changes the generation at one moment.

The calls are numbered by the transitions which began them.  A number is its call's
generation modulo `2 ^ 64`, and the numbers of later calls are larger.
-/

namespace TauriPlatform

/-- Where a call of `authenticate` stands between its steps. -/
inductive AuthenticationPhase where
  | verifying
  | verified (principal : NativePrincipal)
  | returned (result : Except NativeError NativeSessionView)

structure AuthenticationCall where
  generation : UInt64
  phase : AuthenticationPhase

/-- The store and the calls of `authenticate`, in the order in which they began. -/
structure SessionCalls where
  store : NativeSessionStore
  calls : List AuthenticationCall

inductive SessionTransition where
  | begin
  | verify (call : Nat) (answer : Except NativeError NativePrincipal)
  | commit (call : Nat)
  | logout

def SessionTransition.isNumbered : SessionTransition → Bool
  | .begin | .logout => true
  | .verify .. | .commit _ => false

namespace SessionCalls

def initial : SessionCalls where
  store := .new
  calls := []

def step : SessionTransition → SessionCalls → Option SessionCalls
  | .begin, state =>
      let generation := state.store.generation + 1
      some
        { store := { state.store with generation := generation }
          calls := state.calls ++ [{ generation := generation, phase := .verifying }] }
  | .verify call answer, state =>
      match state.calls[call]? with
      | some { generation, phase := .verifying } =>
          let phase :=
            match answer with
            | .error error => .returned (.error error)
            | .ok principal => .verified principal
          some
            { state with
              calls := state.calls.set call { generation := generation, phase := phase } }
      | _ => none
  | .commit call, state =>
      match state.calls[call]? with
      | some { generation, phase := .verified principal } =>
          let committed := state.store.commitAuthentication generation principal
          some
            { store := committed.2
              calls := state.calls.set call
                { generation := generation, phase := .returned committed.1 } }
      | _ => none
  | .logout, state => some { state with store := state.store.logout }

def run (steps : List SessionTransition) (state : SessionCalls) : Option SessionCalls :=
  steps.foldlM (fun state transition => step transition state) state

def transitions (steps : List SessionTransition) : Nat :=
  steps.countP SessionTransition.isNumbered

/-! ## Numbers of the calls -/

def generations (state : SessionCalls) : List UInt64 :=
  state.calls.map AuthenticationCall.generation

theorem generations_set {calls : List AuthenticationCall} {index : Nat}
    {call : AuthenticationCall} (hcall : calls[index]? = some call)
    (phase : AuthenticationPhase) :
    (calls.set index { generation := call.generation, phase := phase }).map
        AuthenticationCall.generation =
      calls.map AuthenticationCall.generation := by
  rw [List.map_set]
  apply List.ext_getElem? fun other => ?_
  rw [List.getElem?_set]
  split
  · next hindex =>
    subst hindex
    have hlt : index < calls.length := (List.getElem?_eq_some_iff.mp hcall).1
    rw [if_pos (by simpa using hlt), List.getElem?_map, hcall]
    rfl
  · rfl

/-- The calls are numbered increasingly, and no number is above that of the transitions. -/
structure Numbered (count : Nat) (state : SessionCalls) (numbers : List Nat) : Prop where
  generation : state.store.generation = UInt64.ofNat count
  generations : state.generations = numbers.map UInt64.ofNat
  increasing : numbers.Pairwise (· < ·)
  bounded : ∀ number ∈ numbers, number ≤ count

theorem numbered_initial : initial.Numbered 0 [] where
  generation := rfl
  generations := rfl
  increasing := List.Pairwise.nil
  bounded := fun _ hmem => absurd hmem List.not_mem_nil

theorem commitAuthentication_generation (generation : UInt64) (principal : NativePrincipal)
    (store : NativeSessionStore) :
    (store.commitAuthentication generation principal).2.generation = store.generation := by
  unfold NativeSessionStore.commitAuthentication
  split <;> rfl

variable {state after : SessionCalls}

theorem step_unnumbered {transition : SessionTransition}
    (hstep : step transition state = some after) (hunnumbered : transition.isNumbered = false) :
    after.store.generation = state.store.generation ∧ after.generations = state.generations := by
  cases transition with
  | begin => cases hunnumbered
  | logout => cases hunnumbered
  | verify call answer =>
      simp only [step] at hstep
      split at hstep
      · next generation hcall =>
        cases hstep
        exact ⟨rfl, generations_set hcall _⟩
      · cases hstep
  | commit call =>
      simp only [step] at hstep
      split at hstep
      · next generation principal hcall =>
        cases hstep
        exact ⟨commitAuthentication_generation _ _ _, generations_set hcall _⟩
      · cases hstep

theorem ofNat_succ (count : Nat) : UInt64.ofNat count + 1 = UInt64.ofNat (count + 1) :=
  (UInt64.ofNat_add count 1).symm

variable {count : Nat} {numbers : List Nat}

theorem Numbered.step {transition : SessionTransition} (hnumbered : state.Numbered count numbers)
    (hstep : SessionCalls.step transition state = some after) :
    ∃ more, after.Numbered (count + transitions [transition]) (numbers ++ more) := by
  cases htransition : transition.isNumbered with
  | false =>
      obtain ⟨hgeneration, hgenerations⟩ := step_unnumbered hstep htransition
      have hcount : transitions [transition] = 0 := by simp [transitions, htransition]
      refine ⟨[], ?_, ?_, ?_, ?_⟩
      · rw [hgeneration, hcount]
        exact hnumbered.generation
      · rw [hgenerations, List.append_nil]
        exact hnumbered.generations
      · rw [List.append_nil]
        exact hnumbered.increasing
      · rw [List.append_nil, hcount]
        exact hnumbered.bounded
  | true =>
      have hcount : transitions [transition] = 1 := by simp [transitions, htransition]
      rw [hcount]
      cases transition with
      | begin =>
          cases hstep
          refine ⟨[count + 1], ?_, ?_, ?_, ?_⟩
          · simp only [hnumbered.generation, ofNat_succ]
          · have hgenerations := hnumbered.generations
            simp only [SessionCalls.generations] at hgenerations ⊢
            simp only [List.map_append, hgenerations, List.map_cons, List.map_nil,
              hnumbered.generation, ofNat_succ]
          · refine List.pairwise_append.mpr ⟨hnumbered.increasing, by simp, ?_⟩
            intro number hmem new hnew
            have hle := hnumbered.bounded number hmem
            rw [List.mem_singleton.mp hnew]
            omega
          · intro number hmem
            rcases List.mem_append.mp hmem with hold | hnew
            · have hle := hnumbered.bounded number hold
              omega
            · exact (List.mem_singleton.mp hnew).le
      | logout =>
          cases hstep
          refine ⟨[], ?_, ?_, ?_, ?_⟩
          · simp only [NativeSessionStore.logout, hnumbered.generation, ofNat_succ]
          · rw [List.append_nil]
            exact hnumbered.generations
          · rw [List.append_nil]
            exact hnumbered.increasing
          · intro number hmem
            rw [List.append_nil] at hmem
            have hle := hnumbered.bounded number hmem
            omega
      | verify call answer => cases htransition
      | commit call => cases htransition

theorem Numbered.run {steps : List SessionTransition} (hnumbered : state.Numbered count numbers)
    (hrun : SessionCalls.run steps state = some after) :
    ∃ more, after.Numbered (count + transitions steps) (numbers ++ more) := by
  induction steps generalizing count state numbers with
  | nil =>
      cases hrun
      exact ⟨[], by simpa [transitions] using hnumbered⟩
  | cons transition steps ih =>
      rw [SessionCalls.run, List.foldlM_cons] at hrun
      obtain ⟨next, hstep, hrest⟩ := Option.bind_eq_some_iff.mp hrun
      obtain ⟨more, hnext⟩ := hnumbered.step hstep
      obtain ⟨others, hafter⟩ := ih hnext hrest
      refine ⟨more ++ others, ?_⟩
      have hcount : transitions (transition :: steps) =
          transitions [transition] + transitions steps := by
        simp only [transitions]
        rw [← List.singleton_append, List.countP_append]
      rw [hcount, ← Nat.add_assoc, ← List.append_assoc]
      exact hafter

theorem Numbered.length (hnumbered : state.Numbered count numbers) :
    numbers.length = state.calls.length := by
  have hlength := congrArg List.length hnumbered.generations
  simpa [SessionCalls.generations] using hlength.symm

theorem Numbered.generation_of {number index : Nat} {call : AuthenticationCall}
    (hnumbered : state.Numbered count numbers) (hnumber : numbers[index]? = some number)
    (hcall : state.calls[index]? = some call) :
    call.generation = UInt64.ofNat number := by
  have hgeneration := congrArg (·[index]?) hnumbered.generations
  simpa [SessionCalls.generations, hcall, hnumber] using hgeneration

/-! ## Calls which have been overtaken -/

theorem commit_of_number_lt {call number : Nat} (hnumbered : state.Numbered count numbers)
    (hfew : count < 2 ^ 64) (hnumber : numbers[call]? = some number) (hlt : number < count)
    (hstep : step (.commit call) state = some after) :
    after.store = state.store ∧
      ∃ generation, after.calls[call]? = some
        { generation := generation
          phase := .returned (.error (sessionError "session_superseded"
            "Authentication was superseded by a newer session transition")) } := by
  simp only [step] at hstep
  split at hstep
  · next generation principal hcall =>
    have hgeneration : generation = UInt64.ofNat number := hnumbered.generation_of hnumber hcall
    have hne : state.store.generation ≠ generation := by
      intro heq
      rw [hnumbered.generation, hgeneration] at heq
      have hnat := congrArg UInt64.toNat heq
      rw [UInt64.toNat_ofNat', UInt64.toNat_ofNat'] at hnat
      omega
    have hlength : call < state.calls.length := (List.getElem?_eq_some_iff.mp hcall).1
    cases hstep
    simp only [NativeSessionStore.commitAuthentication, ne_eq, hne, not_false_eq_true, if_true]
    exact ⟨trivial, generation, List.getElem?_set_self hlength⟩
  · cases hstep

/-- An authentication which began before a logout, or before a newer authentication which
has returned since, does not install its principal. -/
theorem overtaken_not_installed {before between after : List SessionTransition} {call : Nat}
    {begun completed later final : SessionCalls}
    (hfew : transitions (before ++ between ++ after) < 2 ^ 64)
    (hbegun : run before initial = some begun) (hcall : call < begun.calls.length)
    (hcompleted : run between begun = some completed)
    (hovertaken : .logout ∈ between ∨
      ∃ newer, call < newer ∧ ∃ generation result,
        completed.calls[newer]? = some { generation := generation, phase := .returned result })
    (hlater : run after completed = some later)
    (hcommit : step (.commit call) later = some final) :
    final.store = later.store ∧
      ∃ generation, final.calls[call]? = some
        { generation := generation
          phase := .returned (.error (sessionError "session_superseded"
            "Authentication was superseded by a newer session transition")) } := by
  obtain ⟨first, hfirst⟩ := numbered_initial.run hbegun
  obtain ⟨second, hsecond⟩ := hfirst.run hcompleted
  obtain ⟨third, hthird⟩ := hsecond.run hlater
  simp only [List.nil_append, Nat.zero_add] at hfirst hsecond hthird
  have hlength := hfirst.length
  have hnumber : first[call]? = some first[call] := List.getElem?_eq_getElem (by omega)
  have hle := hfirst.bounded _ (List.getElem_mem (by omega : call < first.length))
  have hlt : first[call] < transitions before + transitions between := by
    rcases hovertaken with hlogout | ⟨newer, hnewer, generation, result, hreturned⟩
    · have hpos : 0 < transitions between :=
        List.countP_pos_iff.mpr ⟨.logout, hlogout, rfl⟩
      omega
    · have hbound : newer < (first ++ second).length := by
        rw [hsecond.length]
        exact (List.getElem?_eq_some_iff.mp hreturned).1
      have hordered := List.pairwise_iff_getElem.mp hsecond.increasing call newer
        (by simp only [List.length_append]; omega) hbound hnewer
      rw [List.getElem_append_left (by omega)] at hordered
      have hnewest := hsecond.bounded _ (List.getElem_mem hbound)
      omega
  have hfew' : transitions before + transitions between + transitions after < 2 ^ 64 := by
    simpa [transitions, List.countP_append, Nat.add_assoc] using hfew
  have hstill : (first ++ second ++ third)[call]? = some first[call] := by
    rw [List.getElem?_append_left (by simp only [List.length_append]; omega),
      List.getElem?_append_left (by omega)]
    exact hnumber
  exact commit_of_number_lt hthird hfew' hstill (by omega) hcommit

def alicePrincipal : NativePrincipal where
  userId := "user_alice"
  deviceId := "dev_crypto_123"
  organisationId := "org_test"
  permissions := ["widget:read"]

theorem overtaken_not_installed_alice :
    ∃ later final,
      run [.begin, .verify 0 (.ok alicePrincipal), .logout] initial = some later ∧
        step (.commit 0) later = some final ∧ final.store = later.store :=
  ⟨_, _, rfl, rfl,
    (@overtaken_not_installed [.begin, .verify 0 (.ok alicePrincipal)] [.logout] [] 0 _ _ _ _
      (by decide) rfl (by decide) rfl (.inl (List.mem_singleton.mpr rfl)) rfl rfl).1⟩

end SessionCalls

end TauriPlatform
