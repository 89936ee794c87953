import TauriPlatform.AsyncSystem
import Mathlib.Data.Set.Lattice
import Mathlib.Order.CompletePartialOrder

/-!
# Programs which own parts of the state

Programs in flight often write to parts of the shared state which no other program
touches: a stream which it has opened, a message which it has taken from a queue.  A
program owns the parts which it has brought into being, and what it knows of them stays
true whatever the others do.  The module names nothing of a particular program.
-/

namespace Async

universe u v

variable {L : Type v} {Call : Type → Type u} {ε α β σ R : Type}

/-- The parts of a state, and what holds of every part and of the whole from one state to a
later one. -/
structure Division (σ R : Type) where
  Exists : R → σ → Prop
  Same : R → σ → σ → Prop
  Grows : σ → σ → Prop
  same_refl : ∀ part state, Same part state state
  same_trans : ∀ part first second third, Same part first second → Same part second third →
    Same part first third
  grows_refl : ∀ state, Grows state state
  grows_trans : ∀ first second third, Grows first second → Grows second third →
    Grows first third
  exists_of_grows : ∀ part earlier later, Grows earlier later → Exists part earlier →
    Exists part later

namespace Division

variable {division : Division σ R}

def Leaves (division : Division σ R) (owned : Set R) (state now : σ) : Prop :=
  division.Grows state now ∧ ∀ part ∈ owned, division.Same part state now

theorem leaves_refl (owned : Set R) (state : σ) : division.Leaves owned state state :=
  ⟨division.grows_refl state, fun part _ => division.same_refl part state⟩

theorem Leaves.trans {owned : Set R} {first second third : σ}
    (hfirst : division.Leaves owned first second)
    (hsecond : division.Leaves owned second third) :
    division.Leaves owned first third := by
  constructor
  · exact division.grows_trans _ _ _ hfirst.1 hsecond.1
  · intro part hpart
    exact division.same_trans _ _ _ _ (hfirst.2 part hpart) (hsecond.2 part hpart)

/-- What a step of the owner of some parts does: it brings the gained parts into being, and
leaves the parts which it does not own. -/
structure Moves (division : Division σ R) (owned gained : Set R) (now later : σ) : Prop where
  grows : division.Grows now later
  fresh : ∀ part ∈ gained, ¬ division.Exists part now
  gained : ∀ part ∈ gained, division.Exists part later
  others : ∀ part, division.Exists part now → part ∉ owned → division.Same part now later

end Division

/-! ## Safe programs -/

section Safe

variable (environment : Environment Call ε σ) (division : Division σ R) (Inv : σ → Prop)
  (Allowed : σ → Prop)

/-- Every call of the program, made in any state in which the others have left its parts
alone, keeps the invariant and leaves the parts of the others alone; when it settles, `post`
holds. -/
def Program.SafeOwner (post : Except ε α → Set R → σ → Prop) :
    Program Call ε α → Set R → σ → Prop
  | .done outcome, owned, state => post outcome owned state
  | .call request rest, owned, state =>
      ∀ now, division.Leaves owned state now → Inv now → Allowed now →
        ∀ answer later, environment request now answer later →
          Inv later ∧ ∃ gained, division.Moves owned gained now later ∧
            SafeOwner post (rest answer) (owned ∪ gained) later

variable {environment division Inv Allowed}
  {post post' : Except ε α → Set R → σ → Prop} {owned : Set R} {state : σ}

variable {program : Program Call ε α}

theorem Program.SafeOwner.later (hpost : ∀ outcome owned state later, post outcome owned state →
      division.Leaves owned state later → post outcome owned later) {later : σ}
    (hsafe : program.SafeOwner environment division Inv Allowed post owned state)
    (hleaves : division.Leaves owned state later) :
    program.SafeOwner environment division Inv Allowed post owned later := by
  cases program with
  | done outcome => exact hpost _ _ _ _ hsafe hleaves
  | call request rest =>
      intro now hnow
      exact hsafe now (hleaves.trans hnow)

theorem Program.SafeOwner.mono
    (himp : ∀ outcome owned state, post outcome owned state → post' outcome owned state)
    (hsafe : program.SafeOwner environment division Inv Allowed post owned state) :
    program.SafeOwner environment division Inv Allowed post' owned state := by
  induction program generalizing owned state with
  | done outcome => exact himp outcome owned state hsafe
  | call request rest ih =>
      intro now hnow hinv hallowed answer later hanswer
      obtain ⟨hinv', gained, hmoves, hrest⟩ :=
        hsafe now hnow hinv hallowed answer later hanswer
      exact ⟨hinv', gained, hmoves, ih answer hrest⟩

theorem Program.SafeOwner.bind {next : α → Program Call ε β}
    {postNext : Except ε β → Set R → σ → Prop}
    (hsafe : program.SafeOwner environment division Inv Allowed
      (fun outcome owned state =>
        match outcome with
        | .ok value =>
            (next value).SafeOwner environment division Inv Allowed postNext owned state
        | .error error => postNext (.error error) owned state) owned state) :
    (program >>= next).SafeOwner environment division Inv Allowed postNext owned state := by
  change (program.bind next).SafeOwner environment division Inv Allowed postNext owned state
  induction program generalizing owned state with
  | done outcome =>
      cases outcome with
      | ok value => exact hsafe
      | error error => exact hsafe
  | call request rest ih =>
      intro now hnow hinv hallowed answer later hanswer
      obtain ⟨hinv', gained, hmoves, hrest⟩ :=
        hsafe now hnow hinv hallowed answer later hanswer
      exact ⟨hinv', gained, hmoves, ih answer hrest⟩

theorem Program.SafeOwner.tryCatch {recover : ε → Program Call ε α}
    (hsafe : program.SafeOwner environment division Inv Allowed
      (fun outcome owned state =>
        match outcome with
        | .ok value => post (.ok value) owned state
        | .error error =>
            (recover error).SafeOwner environment division Inv Allowed post owned state)
      owned state) :
    (tryCatch program recover).SafeOwner environment division Inv Allowed post owned
      state := by
  change (program.catchError recover).SafeOwner environment division Inv Allowed post owned
    state
  induction program generalizing owned state with
  | done outcome =>
      cases outcome with
      | ok value => exact hsafe
      | error error => exact hsafe
  | call request rest ih =>
      intro now hnow hinv hallowed answer later hanswer
      obtain ⟨hinv', gained, hmoves, hrest⟩ :=
        hsafe now hnow hinv hallowed answer later hanswer
      exact ⟨hinv', gained, hmoves, ih answer hrest⟩

end Safe

/-! ## Invariants of a system -/

def anyOwnerOutcome : Except ε α → Set R → σ → Prop :=
  fun _ _ _ => True

section Invariants

variable {environment : Environment Call ε σ} {start : L → Program Call ε α}
  {Allowed : L → σ → Prop} {Inv : σ → Prop} {division : Division σ R}

def Thread.Owns (environment : Environment Call ε σ) (division : Division σ R)
    (Inv : σ → Prop) (Allowed : L → σ → Prop) (state : σ) (thread : Thread L Call ε α)
    (owned : Set R) : Prop :=
  (∀ part ∈ owned, division.Exists part state) ∧
    thread.program.SafeOwner environment division Inv (Allowed thread.label)
      anyOwnerOutcome owned state

structure System.Owned (environment : Environment Call ε σ) (division : Division σ R)
    (Allowed : L → σ → Prop) (Inv : σ → Prop) (system : System L Call ε α σ) : Prop where
  inv : Inv system.state
  owners : ∃ owners : List (Set R), owners.Pairwise Disjoint ∧
    List.Forall₂ (Thread.Owns environment division Inv Allowed system.state) system.threads
      owners

variable {moved : Set R}

theorem Thread.Owns.later {thread : Thread L Call ε α} {owned gained : Set R} {state later : σ}
    (howns : thread.Owns environment division Inv Allowed state owned)
    (hmoves : division.Moves moved gained state later) (hdisjoint : Disjoint moved owned) :
    thread.Owns environment division Inv Allowed later owned := by
  have hleaves : division.Leaves owned state later := by
    constructor
    · exact hmoves.grows
    · intro part hpart
      apply hmoves.others part (howns.1 part hpart)
      intro hmoved
      exact Set.disjoint_left.mp hdisjoint hmoved hpart
  constructor
  · intro part hpart
    exact division.exists_of_grows _ _ _ hmoves.grows (howns.1 part hpart)
  · exact howns.2.later (fun _ _ _ _ _ _ => trivial) hleaves

theorem Thread.Owns.disjoint_gained {thread : Thread L Call ε α} {owned gained : Set R}
    {state later : σ} (howns : thread.Owns environment division Inv Allowed state owned)
    (hmoves : division.Moves moved gained state later) (hdisjoint : Disjoint moved owned) :
    Disjoint (moved ∪ gained) owned := by
  apply Set.disjoint_union_left.mpr
  constructor
  · exact hdisjoint
  · rw [Set.disjoint_left]
    intro part hgained howned
    exact hmoves.fresh part hgained (howns.1 part howned)

theorem owns_others {threads : List (Thread L Call ε α)} {owners : List (Set R)} {gained : Set R}
    {state later : σ}
    (hthreads : List.Forall₂ (Thread.Owns environment division Inv Allowed state) threads
      owners) (hmoves : division.Moves moved gained state later)
    (hapart : ∀ owned ∈ owners, Disjoint moved owned) :
    List.Forall₂ (Thread.Owns environment division Inv Allowed later) threads owners ∧
      ∀ owned ∈ owners, Disjoint (moved ∪ gained) owned := by
  induction hthreads with
  | nil => exact ⟨.nil, fun _ howned => absurd howned List.not_mem_nil⟩
  | cons howns _ ih =>
      have hfirst := hapart _ List.mem_cons_self
      obtain ⟨hrest, hdisjoint⟩ :=
        ih fun owned howned => hapart owned (List.mem_cons_of_mem _ howned)
      constructor
      · exact .cons (howns.later hmoves hfirst) hrest
      · intro owned howned
        cases List.mem_cons.mp howned with
        | inl hsame =>
            rw [hsame]
            exact howns.disjoint_gained hmoves hfirst
        | inr hlater => exact hdisjoint owned hlater

theorem pairwise_disjoint_replace {front back : List (Set R)} {owned : Set R}
    (hpairwise : (front ++ owned :: back).Pairwise Disjoint)
    (hfront : ∀ other ∈ front, Disjoint moved other)
    (hback : ∀ other ∈ back, Disjoint moved other) :
    (front ++ moved :: back).Pairwise Disjoint := by
  rw [List.pairwise_append, List.pairwise_cons] at hpairwise ⊢
  obtain ⟨hbefore, ⟨-, hafter⟩, hcross⟩ := hpairwise
  refine ⟨hbefore, ⟨hback, hafter⟩, ?_⟩
  intro left hleft right hright
  cases List.mem_cons.mp hright with
  | inl hsame =>
      rw [hsame]
      exact (hfront left hleft).symm
  | inr hlater => exact hcross left hleft right (List.mem_cons_of_mem _ hlater)

theorem System.Owned.step
    (hstart : ∀ label state, Inv state →
      (start label).SafeOwner environment division Inv (Allowed label) anyOwnerOutcome ∅
        state)
    {system later : System L Call ε α σ}
    (howned : system.Owned environment division Allowed Inv)
    (hstep : System.Step environment start Allowed system later) :
    later.Owned environment division Allowed Inv := by
  obtain ⟨hinv, owners, hpairwise, hthreads⟩ := howned
  cases hstep with
  | start label state threads =>
      have hfirst : Thread.Owns environment division Inv Allowed state
          ⟨label, start label⟩ ∅ :=
        ⟨fun _ hpart => absurd hpart (Set.notMem_empty _), hstart label state hinv⟩
      have hpairwise' : (∅ :: owners).Pairwise (Disjoint (α := Set R)) :=
        List.pairwise_cons.mpr ⟨fun _ _ => Set.empty_disjoint _, hpairwise⟩
      exact ⟨hinv, ∅ :: owners, hpairwise', .cons hfirst hthreads⟩
  | advance request rest label state before after answer next hallowed hanswer =>
      obtain ⟨front, owned, back, rfl, hfront, hthread, hback⟩ :=
        forall₂_append_cons hthreads
      obtain ⟨hinv', gained, hmoves, hrest⟩ :=
        hthread.2 state (division.leaves_refl owned state) hinv hallowed answer next hanswer
      have hsplit := List.pairwise_append.mp hpairwise
      have hcons := List.pairwise_cons.mp hsplit.2.1
      have hleft : ∀ other ∈ front, Disjoint owned other := fun other hother =>
        (hsplit.2.2 other hother owned List.mem_cons_self).symm
      obtain ⟨hfrontOwns, hfrontApart⟩ := owns_others hfront hmoves hleft
      obtain ⟨hbackOwns, hbackApart⟩ := owns_others hback hmoves hcons.1
      have hexists : ∀ part ∈ owned ∪ gained, division.Exists part next := by
        intro part hpart
        cases hpart with
        | inl howned => exact division.exists_of_grows _ _ _ hmoves.grows (hthread.1 part howned)
        | inr hgained => exact hmoves.gained part hgained
      exact ⟨hinv', front ++ (owned ∪ gained) :: back,
        pairwise_disjoint_replace hpairwise hfrontApart hbackApart,
        List.rel_append hfrontOwns (.cons ⟨hexists, hrest⟩ hbackOwns)⟩
  | drop thread state before after =>
      obtain ⟨front, owned, back, rfl, hfront, -, hback⟩ := forall₂_append_cons hthreads
      have hpairwise' : (front ++ back).Pairwise Disjoint :=
        hpairwise.sublist (List.Sublist.append_left (List.sublist_cons_self _ _) _)
      exact ⟨hinv, front ++ back, hpairwise', List.rel_append hfront hback⟩

theorem System.Reaches.owned
    (hstart : ∀ label state, Inv state →
      (start label).SafeOwner environment division Inv (Allowed label) anyOwnerOutcome ∅
        state)
    {initial : σ} (hinitial : Inv initial) {system : System L Call ε α σ}
    (hreaches : System.Reaches environment start Allowed initial system) :
    Inv system.state := by
  have howned : system.Owned environment division Allowed Inv := by
    induction hreaches with
    | refl => exact ⟨hinitial, [], .nil, .nil⟩
    | tail _ hstep ih => exact ih.step hstart hstep
  exact howned.inv

end Invariants
end Async
