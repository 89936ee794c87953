import TauriPlatform.DepthFirst
import Mathlib.Logic.Relation

/-!
# Cycles of a depth-first traversal

The frames of the stack are a path, so a visiting successor closes a cycle; and an order in
which every node stands behind its successors has none.  The loop is here also without fuel, as
a relation.  Where the nodes are closed under successors, every run of it ends, with the result
of the loop with fuel.
-/

namespace DepthFirst

variable {α : Type} [DecidableEq α] {successors : α → List α} {nodes : List α}
  {traversal later : Traversal α} {frame : Frame α} {below : List (Frame α)}

def Leads (successors : α → List α) (node next : α) : Prop :=
  next ∈ successors node

def Cyclic (successors : α → List α) (nodes : List α) : Prop :=
  ∃ node ∈ nodes, Relation.TransGen (Leads successors) node node

/-! ## The stack as a path -/

def Linked (successors : α → List α) (stack : List (Frame α)) : Prop :=
  stack.IsChain fun above below => Leads successors below.node above.node

omit [DecidableEq α] in
theorem Linked.reaches (hlinked : Linked successors (frame :: below)) {other : Frame α}
    (hother : other ∈ frame :: below) :
    Relation.ReflTransGen (Leads successors) other.node frame.node := by
  induction below generalizing frame with
  | nil =>
      rw [List.mem_singleton] at hother
      rw [hother]
  | cons next below ih =>
      obtain ⟨hnext, hrest⟩ := List.isChain_cons_cons.mp hlinked
      rcases List.mem_cons.mp hother with hsame | hbelow
      · rw [hsame]
      · exact (ih hrest hbelow).tail hnext

omit [DecidableEq α] in
theorem Linked.replace (hlinked : Linked successors (frame :: below)) {other : Frame α}
    (hnode : other.node = frame.node) : Linked successors (other :: below) := by
  cases below with
  | nil => exact List.isChain_singleton other
  | cons next below =>
      obtain ⟨hnext, hrest⟩ := List.isChain_cons_cons.mp hlinked
      exact List.isChain_cons_cons.mpr ⟨hnode ▸ hnext, hrest⟩

omit [DecidableEq α] in
theorem Sound.leads (hsound : Sound successors nodes traversal)
    (hstack : traversal.stack = frame :: below) {next : α}
    (hnext : frame.successors[frame.nextSuccessor]? = some next) :
    Leads successors frame.node next := by
  have hframe : frame.successors = successors frame.node :=
    hsound.marked.frames frame (by simp [hstack])
  rw [Leads, ← hframe]
  exact List.mem_of_getElem? hnext

theorem Sound.linked_step (hsound : Sound successors nodes traversal)
    (hlinked : Linked successors traversal.stack) (hstack : traversal.stack = frame :: below)
    (hstep : traversal.step successors frame below = .ok later) :
    Linked successors later.stack := by
  rw [hstack] at hlinked
  unfold Traversal.step at hstep
  cases hnext : frame.successors[frame.nextSuccessor]? with
  | none =>
      rw [hnext] at hstep
      cases hstep
      exact hlinked.tail
  | some next =>
      rw [hnext] at hstep
      dsimp only at hstep
      have hadvanced : Linked successors
          ({ frame with nextSuccessor := frame.nextSuccessor + 1 } :: below) :=
        hlinked.replace rfl
      cases hmark : traversal.marks next with
      | none =>
          rw [hmark] at hstep
          cases hstep
          exact List.isChain_cons_cons.mpr ⟨hsound.leads hstack hnext, hadvanced⟩
      | some mark =>
          rw [hmark] at hstep
          cases mark with
          | visiting => cases hstep
          | visited =>
              cases hstep
              exact hadvanced

theorem Sound.cyclic (hsound : Sound successors nodes traversal)
    (hlinked : Linked successors traversal.stack) (hstack : traversal.stack = frame :: below)
    {cycle : List α} (hstep : traversal.step successors frame below = .error cycle) :
    Cyclic successors nodes := by
  unfold Traversal.step at hstep
  cases hnext : frame.successors[frame.nextSuccessor]? with
  | none =>
      rw [hnext] at hstep
      cases hstep
  | some next =>
      rw [hnext] at hstep
      dsimp only at hstep
      cases hmark : traversal.marks next with
      | none =>
          rw [hmark] at hstep
          cases hstep
      | some mark =>
          cases mark with
          | visited =>
              rw [hmark] at hstep
              cases hstep
          | visiting =>
              obtain ⟨other, hother, rfl⟩ :=
                List.mem_map.mp ((hsound.marked.mem_stack next).mpr hmark)
              refine ⟨other.node, hsound.marked.within _ (by simp [hmark]), ?_⟩
              have hleads := hsound.leads hstack hnext
              rw [hstack] at hlinked hother
              exact Relation.TransGen.tail' (hlinked.reaches hother) hleads

/-! ## The loop without fuel -/

inductive Ends (successors : α → List α) :
    Traversal α → Except (List α) (Traversal α) → Prop
  | done {traversal : Traversal α} (hstack : traversal.stack = []) :
      Ends successors traversal (.ok traversal)
  | closes {traversal : Traversal α} {frame : Frame α} {below : List (Frame α)}
      {cycle : List α} (hstack : traversal.stack = frame :: below)
      (hstep : traversal.step successors frame below = .error cycle) :
      Ends successors traversal (.error cycle)
  | round {traversal later : Traversal α} {frame : Frame α} {below : List (Frame α)}
      {result : Except (List α) (Traversal α)} (hstack : traversal.stack = frame :: below)
      (hstep : traversal.step successors frame below = .ok later)
      (hends : Ends successors later result) : Ends successors traversal result

inductive Visits (successors : α → List α) :
    List α → Traversal α → Except (List α) (Traversal α) → Prop
  | nil {traversal : Traversal α} : Visits successors [] traversal (.ok traversal)
  | again {traversal : Traversal α} {root : α} {rest : List α}
      {result : Except (List α) (Traversal α)} (hmarked : (traversal.marks root).isSome)
      (hvisits : Visits successors rest traversal result) :
      Visits successors (root :: rest) traversal result
  | closes {traversal : Traversal α} {root : α} {rest cycle : List α}
      (hnew : ¬ (traversal.marks root).isSome)
      (hends : Ends successors ({ traversal with path := [] }.push successors root)
        (.error cycle)) :
      Visits successors (root :: rest) traversal (.error cycle)
  | root {traversal later : Traversal α} {root : α} {rest : List α}
      {result : Except (List α) (Traversal α)} (hnew : ¬ (traversal.marks root).isSome)
      (hends : Ends successors ({ traversal with path := [] }.push successors root)
        (.ok later))
      (hvisits : Visits successors rest later result) :
      Visits successors (root :: rest) traversal result

def Traverses (successors : α → List α) (nodes : List α)
    (traversed : Except (List α) (List α)) : Prop :=
  ∃ visited, Visits successors nodes .initial visited ∧
    traversed = visited.map Traversal.order

theorem Ends.unique {result other : Except (List α) (Traversal α)}
    (hends : Ends successors traversal result) (hother : Ends successors traversal other) :
    result = other := by
  induction hends with
  | done hstack =>
      cases hother with
      | done _ => rfl
      | closes hstack' _ => cases hstack.symm.trans hstack'
      | round hstack' _ _ => cases hstack.symm.trans hstack'
  | closes hstack hstep =>
      cases hother with
      | done hstack' => cases hstack.symm.trans hstack'
      | closes hstack' hstep' =>
          cases hstack.symm.trans hstack'
          cases hstep.symm.trans hstep'
          rfl
      | round hstack' hstep' _ =>
          cases hstack.symm.trans hstack'
          cases hstep.symm.trans hstep'
  | round hstack hstep _ ih =>
      cases hother with
      | done hstack' => cases hstack.symm.trans hstack'
      | closes hstack' hstep' =>
          cases hstack.symm.trans hstack'
          cases hstep.symm.trans hstep'
      | round hstack' hstep' hends' =>
          cases hstack.symm.trans hstack'
          cases hstep.symm.trans hstep'
          exact ih hends'

theorem Visits.unique {roots : List α} {result other : Except (List α) (Traversal α)}
    (hvisits : Visits successors roots traversal result)
    (hother : Visits successors roots traversal other) : result = other := by
  induction hvisits with
  | nil =>
      cases hother
      rfl
  | again hmarked _ ih =>
      cases hother with
      | again _ hvisits' => exact ih hvisits'
      | closes hnew' _ => exact absurd hmarked hnew'
      | root hnew' _ _ => exact absurd hmarked hnew'
  | closes hnew hends =>
      cases hother with
      | again hmarked' _ => exact absurd hmarked' hnew
      | closes _ hends' =>
          cases hends.unique hends'
          rfl
      | root _ hends' _ => cases hends.unique hends'
  | root hnew hends _ ih =>
      cases hother with
      | again hmarked' _ => exact absurd hmarked' hnew
      | closes _ hends' => cases hends.unique hends'
      | root _ hends' hvisits' =>
          cases hends.unique hends'
          exact ih hvisits'

/-! ## How the loops end -/

theorem Sound.loop_ends (hsound : Sound successors nodes traversal)
    (hlinked : Linked successors traversal.stack)
    (hclosed : ∀ node ∈ nodes, ∀ next ∈ successors node, next ∈ nodes) {fuel : Nat}
    (hfuel : work successors nodes traversal ≤ fuel) :
    Ends successors traversal (traversal.loop successors fuel) ∧
      ∀ cycle, traversal.loop successors fuel = .error cycle → Cyclic successors nodes := by
  induction fuel generalizing traversal with
  | zero =>
      refine ⟨.done ?_, fun _ herror => by cases herror⟩
      cases hstack : traversal.stack with
      | nil => rfl
      | cons frame below =>
          rw [work, hstack, List.map_cons, List.sum_cons] at hfuel
          omega
  | succ fuel ih =>
      rw [Traversal.loop]
      cases hstack : traversal.stack with
      | nil => exact ⟨.done hstack, fun _ herror => by cases herror⟩
      | cons frame below =>
          dsimp only
          cases hstep : traversal.step successors frame below with
          | error cycle =>
              exact ⟨.closes hstack hstep, fun _ _ => hsound.cyclic hlinked hstack hstep⟩
          | ok next =>
              have hwork := hsound.work_step hclosed hstack hstep
              obtain ⟨hends, hcyclic⟩ := ih (hsound.step hclosed hstack hstep)
                (hsound.linked_step hlinked hstack hstep) (by omega)
              exact ⟨.round hstack hstep hends, hcyclic⟩

theorem Sound.visitAll_visits (hsound : Sound successors nodes traversal)
    (hclosed : ∀ node ∈ nodes, ∀ next ∈ successors node, next ∈ nodes)
    (hempty : traversal.stack = []) {roots : List α}
    (hroots : ∀ root ∈ roots, root ∈ nodes) :
    Visits successors roots traversal
        (roots.foldlM (Traversal.visit successors (rounds successors nodes)) traversal) ∧
      ∀ cycle, roots.foldlM (Traversal.visit successors (rounds successors nodes)) traversal =
        .error cycle → Cyclic successors nodes := by
  induction roots generalizing traversal with
  | nil => exact ⟨.nil, fun _ herror => nomatch herror⟩
  | cons root rest ih =>
      obtain ⟨hroot, hrest⟩ := List.forall_mem_cons.mp hroots
      rw [List.foldlM_cons]
      by_cases hmarked : (traversal.marks root).isSome
      · have hvisit : traversal.visit successors (rounds successors nodes) root =
            .ok traversal := if_pos hmarked
        rw [hvisit]
        obtain ⟨hvisits, hcyclic⟩ := ih hsound hempty hrest
        exact ⟨.again hmarked hvisits, hcyclic⟩
      · have hvisit : traversal.visit successors (rounds successors nodes) root =
            ({ traversal with path := [] }.push successors root).loop successors
              (rounds successors nodes) := if_neg hmarked
        obtain ⟨hpushed, hwork⟩ := hsound.pushed hempty hroot hmarked
        have hlinked : Linked successors
            ({ traversal with path := [] }.push successors root).stack := by
          simp [Traversal.push, hempty, Linked]
        obtain ⟨hends, hcyclic⟩ := hpushed.loop_ends hlinked hclosed hwork
        cases hloop : traversal.visit successors (rounds successors nodes) root with
        | error cycle =>
            rw [hvisit] at hloop
            rw [hloop] at hends hcyclic
            exact ⟨.closes hmarked hends, fun _ _ => hcyclic cycle rfl⟩
        | ok next =>
            obtain ⟨hnext, hnextEmpty, -⟩ := hsound.visit hclosed hempty hroot hloop
            obtain ⟨hvisits, hcyclicRest⟩ := ih hnext hnextEmpty hrest
            rw [hvisit] at hloop
            rw [hloop] at hends
            exact ⟨.root hmarked hends hvisits, hcyclicRest⟩

theorem traverses_iff (hclosed : ∀ node ∈ nodes, ∀ next ∈ successors node, next ∈ nodes)
    {traversed : Except (List α) (List α)} :
    Traverses successors nodes traversed ↔ traversed = traverse successors nodes := by
  obtain ⟨hvisits, -⟩ := (sound_initial successors nodes).visitAll_visits hclosed rfl
    (fun _ hmem => hmem)
  have htraverse : traverse successors nodes =
      (nodes.foldlM (Traversal.visit successors (rounds successors nodes))
        Traversal.initial).map Traversal.order := by
    unfold traverse
    cases nodes.foldlM (Traversal.visit successors (rounds successors nodes))
      Traversal.initial with
    | error cycle => rfl
    | ok later => rfl
  rw [htraverse]
  constructor
  · rintro ⟨visited, hvisited, rfl⟩
    rw [hvisited.unique hvisits]
  · intro htraversed
    exact ⟨_, hvisits, htraversed⟩

/-! ## Orders have no cycle -/

theorem Ordered.idxOf_lt {order : List α} (hordered : Ordered successors order)
    (hnodup : order.Nodup) {node next : α} (hmem : node ∈ order)
    (hleads : Leads successors node next) :
    next ∈ order ∧ order.idxOf next < order.idxOf node := by
  obtain ⟨before, after, hsplit⟩ := List.append_of_mem hmem
  have hnext := hordered before node after hsplit next hleads
  have hfresh : node ∉ before := by
    rw [hsplit] at hnodup
    exact fun hbefore => (List.nodup_append.mp hnodup).2.2 node hbefore node
      List.mem_cons_self rfl
  rw [hsplit]
  refine ⟨List.mem_append_left _ hnext, ?_⟩
  rw [List.idxOf_append_of_mem hnext, List.idxOf_append_of_notMem hfresh,
    List.idxOf_cons_self, Nat.add_zero]
  exact List.idxOf_lt_length_of_mem hnext

theorem Ordered.acyclic {order : List α} (hordered : Ordered successors order)
    (hnodup : order.Nodup) {node other : α} (hmem : node ∈ order)
    (hleads : Relation.TransGen (Leads successors) node other) :
    other ∈ order ∧ order.idxOf other < order.idxOf node := by
  induction hleads with
  | single hfirst => exact hordered.idxOf_lt hnodup hmem hfirst
  | tail _ hlast ih =>
      obtain ⟨hnext, hlt⟩ := hordered.idxOf_lt hnodup ih.1 hlast
      exact ⟨hnext, hlt.trans ih.2⟩

theorem exists_traverse_error_iff
    (hclosed : ∀ node ∈ nodes, ∀ next ∈ successors node, next ∈ nodes) :
    (∃ cycle, traverse successors nodes = .error cycle) ↔ Cyclic successors nodes := by
  constructor
  · rintro ⟨cycle, herror⟩
    unfold traverse at herror
    cases hvisit : nodes.foldlM (Traversal.visit successors (rounds successors nodes))
        Traversal.initial with
    | error cycle =>
        exact ((sound_initial successors nodes).visitAll_visits hclosed rfl
          fun _ hmem => hmem).2 cycle hvisit
    | ok later =>
        rw [hvisit] at herror
        cases herror
  · rintro ⟨node, hmem, hcycle⟩
    cases htraverse : traverse successors nodes with
    | error cycle => exact ⟨cycle, rfl⟩
    | ok order =>
        obtain ⟨hnodup, hiff, hordered⟩ := traverse_eq_ok hclosed htraverse
        exact absurd (hordered.acyclic hnodup ((hiff node).mpr hmem) hcycle).2 (lt_irrefl _)

end DepthFirst
