import Mathlib.Tactic

/-!
# Depth-first order with explicit frames

The traversal keeps its stack as a list of frames, the top one first.  A node is appended to
the order when its frame is popped, which is after all of its successors.  The successors are
an arbitrary function on an arbitrary type of nodes.
-/

namespace DepthFirst

variable {α : Type} [DecidableEq α]

inductive Mark where
  | visiting
  | visited
  deriving DecidableEq

structure Frame (α : Type) where
  node : α
  successors : List α
  nextSuccessor : Nat

structure Traversal (α : Type) where
  marks : α → Option Mark
  path : List α
  stack : List (Frame α)
  order : List α

def Traversal.initial : Traversal α :=
  ⟨fun _ => none, [], [], []⟩

def Traversal.push (successors : α → List α) (traversal : Traversal α) (node : α) :
    Traversal α where
  marks := Function.update traversal.marks node (some .visiting)
  path := traversal.path ++ [node]
  stack := ⟨node, successors node, 0⟩ :: traversal.stack
  order := traversal.order

def Traversal.step (successors : α → List α) (traversal : Traversal α) (frame : Frame α)
    (below : List (Frame α)) : Except (List α) (Traversal α) :=
  match frame.successors[frame.nextSuccessor]? with
  | some successor =>
      let advanced :=
        { traversal with
          stack := { frame with nextSuccessor := frame.nextSuccessor + 1 } :: below }
      match traversal.marks successor with
      | some .visiting => .error (traversal.path.dropWhile (· ≠ successor) ++ [successor])
      | some .visited => .ok advanced
      | none => .ok (advanced.push successors successor)
  | none =>
      .ok {
        marks := Function.update traversal.marks frame.node (some .visited)
        path := traversal.path.dropLast
        stack := below
        order := traversal.order ++ [frame.node] }

def Traversal.loop (successors : α → List α) : Nat → Traversal α →
    Except (List α) (Traversal α)
  | 0, traversal => .ok traversal
  | fuel + 1, traversal =>
      match traversal.stack with
      | [] => .ok traversal
      | frame :: below =>
          match traversal.step successors frame below with
          | .error cycle => .error cycle
          | .ok traversal => loop successors fuel traversal

def Traversal.visit (successors : α → List α) (fuel : Nat) (traversal : Traversal α)
    (root : α) : Except (List α) (Traversal α) :=
  if (traversal.marks root).isSome then .ok traversal
  else ({ traversal with path := [] }.push successors root).loop successors fuel

def rounds (successors : α → List α) (nodes : List α) : Nat :=
  (nodes.map fun node => (successors node).length + 1).sum

def traverse (successors : α → List α) (nodes : List α) : Except (List α) (List α) := do
  let traversal ← nodes.foldlM (Traversal.visit successors (rounds successors nodes)) .initial
  return traversal.order

/-! ## Orders -/

variable {successors : α → List α}

def Ordered (successors : α → List α) (order : List α) : Prop :=
  ∀ before node after, order = before ++ node :: after → ∀ next ∈ successors node, next ∈ before

omit [DecidableEq α] in
theorem Ordered.snoc {order : List α} (hordered : Ordered successors order) {node : α}
    (hnext : ∀ next ∈ successors node, next ∈ order) :
    Ordered successors (order ++ [node]) := by
  intro before other after hsplit next hmem
  rcases List.eq_nil_or_concat after with rfl | ⟨after, last, rfl⟩
  · obtain ⟨hbefore, hlast⟩ := List.append_inj' hsplit rfl
    cases hlast
    exact hbefore ▸ hnext next hmem
  · rw [List.concat_eq_append, ← List.cons_append, ← List.append_assoc] at hsplit
    exact hordered before other after (List.append_inj' hsplit rfl).1 next hmem

/-! ## The invariant -/

def Passed (order : List α) : Option α → List (Frame α) → Prop
  | _, [] => True
  | above, frame :: below =>
      (∀ next ∈ frame.successors.take frame.nextSuccessor, next ∈ order ∨ above = some next) ∧
        Passed order (some frame.node) below

omit [DecidableEq α] in
theorem Passed.mono {order order' : List α} (hsub : ∀ node ∈ order, node ∈ order')
    {above : Option α} {stack : List (Frame α)} (hpassed : Passed order above stack) :
    Passed order' above stack := by
  induction stack generalizing above with
  | nil => trivial
  | cons frame below ih =>
      exact ⟨fun next hmem => (hpassed.1 next hmem).imp_left (hsub next), ih hpassed.2⟩

structure Marked (successors : α → List α) (nodes : List α) (traversal : Traversal α) :
    Prop where
  mem_order : ∀ node, node ∈ traversal.order ↔ traversal.marks node = some .visited
  mem_stack : ∀ node,
    node ∈ traversal.stack.map Frame.node ↔ traversal.marks node = some .visiting
  order_nodup : traversal.order.Nodup
  stack_nodup : (traversal.stack.map Frame.node).Nodup
  within : ∀ node, traversal.marks node ≠ none → node ∈ nodes
  frames : ∀ frame ∈ traversal.stack, frame.successors = successors frame.node

structure Sound (successors : α → List α) (nodes : List α) (traversal : Traversal α) :
    Prop where
  marked : Marked successors nodes traversal
  passed : Passed traversal.order none traversal.stack
  ordered : Ordered successors traversal.order

variable {nodes : List α} {traversal later : Traversal α} {frame : Frame α}
  {below : List (Frame α)}

omit [DecidableEq α] in
theorem sound_initial (successors : α → List α) (nodes : List α) :
    Sound successors nodes (Traversal.initial : Traversal α) where
  marked := {
    mem_order := fun _ => by simp [Traversal.initial]
    mem_stack := fun _ => by simp [Traversal.initial]
    order_nodup := List.nodup_nil
    stack_nodup := List.nodup_nil
    within := fun _ hmarked => absurd rfl hmarked
    frames := fun _ hmem => nomatch hmem }
  passed := trivial
  ordered := by
    intro before node after hsplit
    simp [Traversal.initial] at hsplit

namespace Marked

theorem push (hmarked : Marked successors nodes traversal) {node : α} (hmem : node ∈ nodes)
    (hmark : traversal.marks node = none) :
    Marked successors nodes (traversal.push successors node) where
  mem_order other := by
    by_cases hother : other = node
    · subst hother
      simp [Traversal.push, hmarked.mem_order, hmark]
    · simp [Traversal.push, hmarked.mem_order, Function.update_of_ne hother]
  mem_stack other := by
    by_cases hother : other = node
    · subst hother
      simp [Traversal.push]
    · rw [Traversal.push, List.map_cons, List.mem_cons, hmarked.mem_stack]
      simp [hother]
  order_nodup := hmarked.order_nodup
  stack_nodup := by
    refine List.nodup_cons.mpr ⟨?_, hmarked.stack_nodup⟩
    rw [hmarked.mem_stack, hmark]
    exact nofun
  within other hother := by
    by_cases hsame : other = node
    · exact hsame ▸ hmem
    · refine hmarked.within other ?_
      simpa [Traversal.push, Function.update_of_ne hsame] using hother
  frames := List.forall_mem_cons.mpr ⟨rfl, hmarked.frames⟩

omit [DecidableEq α] in
theorem advance (hmarked : Marked successors nodes traversal)
    (hstack : traversal.stack = frame :: below) :
    Marked successors nodes
      { traversal with
        stack := { frame with nextSuccessor := frame.nextSuccessor + 1 } :: below } where
  mem_order := hmarked.mem_order
  mem_stack node := by
    have hmem := hmarked.mem_stack node
    rw [hstack] at hmem
    exact hmem
  order_nodup := hmarked.order_nodup
  stack_nodup := by
    have hnodup := hmarked.stack_nodup
    rw [hstack] at hnodup
    exact hnodup
  within := hmarked.within
  frames := by
    have hframes := hmarked.frames
    rw [hstack] at hframes
    exact List.forall_mem_cons.mpr (List.forall_mem_cons.mp hframes)

theorem pop (hmarked : Marked successors nodes traversal)
    (hstack : traversal.stack = frame :: below) :
    Marked successors nodes
      { marks := Function.update traversal.marks frame.node (some .visited)
        path := traversal.path.dropLast
        stack := below
        order := traversal.order ++ [frame.node] } := by
  have hnodup := hmarked.stack_nodup
  have hstackMem := hmarked.mem_stack
  rw [hstack, List.map_cons] at hnodup hstackMem
  obtain ⟨hfresh, hbelow⟩ := List.nodup_cons.mp hnodup
  have hvisiting := (hstackMem frame.node).mp List.mem_cons_self
  have hnew : frame.node ∉ traversal.order := by
    rw [hmarked.mem_order, hvisiting]
    exact nofun
  constructor
  case mem_order =>
    intro node
    by_cases hnode : node = frame.node
    · subst hnode
      simp
    · simp [hmarked.mem_order, hnode]
  case mem_stack =>
    intro node
    by_cases hnode : node = frame.node
    · subst hnode
      simpa using hfresh
    · have hold := hstackMem node
      rw [List.mem_cons, or_iff_right hnode] at hold
      simpa [Function.update_of_ne hnode] using hold
  case order_nodup =>
    refine List.nodup_append.mpr ⟨hmarked.order_nodup, List.nodup_singleton _, ?_⟩
    intro node hnode other hother hsame
    rw [List.mem_singleton] at hother
    exact hnew (hother ▸ hsame ▸ hnode)
  case stack_nodup => exact hbelow
  case within =>
    intro node hnode
    by_cases hsame : node = frame.node
    · refine hmarked.within node ?_
      rw [hsame, hvisiting]
      exact nofun
    · refine hmarked.within node ?_
      simpa [Function.update_of_ne hsame] using hnode
  case frames =>
    have hframes := hmarked.frames
    rw [hstack] at hframes
    exact (List.forall_mem_cons.mp hframes).2

end Marked

omit [DecidableEq α] in
theorem Sound.advance (hsound : Sound successors nodes traversal)
    (hstack : traversal.stack = frame :: below) {next : α}
    (hnext : frame.successors[frame.nextSuccessor]? = some next) {above : Option α}
    (hdone : next ∈ traversal.order ∨ above = some next) :
    Passed traversal.order above
      ({ frame with nextSuccessor := frame.nextSuccessor + 1 } :: below) := by
  have hpassed := hsound.passed
  rw [hstack] at hpassed
  refine ⟨?_, hpassed.2⟩
  intro other hother
  rw [List.take_add_one, hnext, List.mem_append] at hother
  rcases hother with hold | hnew
  · exact .inl ((hpassed.1 other hold).resolve_right nofun)
  · rw [Option.toList_some, List.mem_singleton] at hnew
    exact hnew ▸ hdone

theorem Sound.pop (hsound : Sound successors nodes traversal)
    (hstack : traversal.stack = frame :: below)
    (hnone : frame.successors[frame.nextSuccessor]? = none) :
    Sound successors nodes
      { marks := Function.update traversal.marks frame.node (some .visited)
        path := traversal.path.dropLast
        stack := below
        order := traversal.order ++ [frame.node] } := by
  have hpassed := hsound.passed
  have hframes := hsound.marked.frames
  rw [hstack] at hpassed hframes
  have hall : ∀ next ∈ successors frame.node, next ∈ traversal.order := by
    intro next hnext
    rw [← hframes frame List.mem_cons_self,
      ← List.take_of_length_le (List.getElem?_eq_none_iff.mp hnone)] at hnext
    exact (hpassed.1 next hnext).resolve_right nofun
  refine ⟨hsound.marked.pop hstack, ?_, hsound.ordered.snoc hall⟩
  have hbelow : ∀ {stack : List (Frame α)}, Passed traversal.order (some frame.node) stack →
      Passed (traversal.order ++ [frame.node]) none stack := by
    intro stack hstackPassed
    cases stack with
    | nil => trivial
    | cons first rest =>
        refine ⟨?_, hstackPassed.2.mono fun node hmem => List.mem_append_left _ hmem⟩
        intro next hnext
        rcases hstackPassed.1 next hnext with hleft | habove
        · exact .inl (List.mem_append_left _ hleft)
        · cases habove
          exact .inl (by simp)
  exact hbelow hpassed.2

theorem Sound.step (hsound : Sound successors nodes traversal)
    (hclosed : ∀ node ∈ nodes, ∀ next ∈ successors node, next ∈ nodes)
    (hstack : traversal.stack = frame :: below)
    (hstep : traversal.step successors frame below = .ok later) :
    Sound successors nodes later := by
  unfold Traversal.step at hstep
  cases hnext : frame.successors[frame.nextSuccessor]? with
  | none =>
      rw [hnext] at hstep
      cases hstep
      exact hsound.pop hstack hnext
  | some next =>
      rw [hnext] at hstep
      dsimp only at hstep
      cases hmark : traversal.marks next with
      | none =>
          rw [hmark] at hstep
          cases hstep
          have hframe : frame ∈ traversal.stack := by
            rw [hstack]
            exact List.mem_cons_self
          have hnode : frame.node ∈ nodes := by
            refine hsound.marked.within _ ?_
            rw [(hsound.marked.mem_stack _).mp (List.mem_map_of_mem hframe)]
            exact nofun
          have hmem : next ∈ nodes := by
            refine hclosed _ hnode next ?_
            rw [← hsound.marked.frames frame hframe]
            exact List.mem_of_getElem? hnext
          exact ⟨(hsound.marked.advance hstack).push hmem hmark,
            ⟨by simp, hsound.advance hstack hnext (.inr rfl)⟩, hsound.ordered⟩
      | some mark =>
          rw [hmark] at hstep
          cases mark with
          | visiting => cases hstep
          | visited =>
              cases hstep
              exact ⟨hsound.marked.advance hstack,
                hsound.advance hstack hnext (.inl ((hsound.marked.mem_order next).mpr hmark)),
                hsound.ordered⟩

/-! ## The rounds of the loop -/

def work (successors : α → List α) (nodes : List α) (traversal : Traversal α) : Nat :=
  rounds successors (nodes.filter fun node => traversal.marks node = none) +
    (traversal.stack.map fun frame => frame.successors.length - frame.nextSuccessor + 1).sum

omit [DecidableEq α] in
theorem rounds_le_of_sublist {some all : List α} (hsub : some.Sublist all) :
    rounds successors some ≤ rounds successors all :=
  (hsub.map _).sum_le_sum fun _ _ => Nat.zero_le _

theorem rounds_unmarked_update (marks : α → Option Mark) (mark : Mark) {node : α}
    (hmem : node ∈ nodes) (hmark : marks node = none) :
    rounds successors
        (nodes.filter fun other => Function.update marks node (some mark) other = none) +
        ((successors node).length + 1) ≤
      rounds successors (nodes.filter fun other => marks other = none) := by
  have hweaker : ∀ other, Function.update marks node (some mark) other = none →
      marks other = none := by
    intro other hother
    by_cases hsame : other = node
    · exact hsame ▸ hmark
    · rwa [Function.update_of_ne hsame] at hother
  induction nodes with
  | nil => cases hmem
  | cons first rest ih =>
      by_cases hfirst : first = node
      · subst hfirst
        have hrest : rounds successors
            (rest.filter fun other => Function.update marks first (some mark) other = none) ≤
              rounds successors (rest.filter fun other => marks other = none) := by
          refine rounds_le_of_sublist (List.monotone_filter_right rest ?_)
          intro other hother
          exact decide_eq_true (hweaker other (of_decide_eq_true hother))
        rw [List.filter_cons_of_neg (by simp), List.filter_cons_of_pos (by simpa using hmark)]
        simp only [rounds, List.map_cons, List.sum_cons] at hrest ⊢
        omega
      · have hlater := ih ((List.mem_cons.mp hmem).resolve_left (Ne.symm hfirst))
        by_cases hkept : marks first = none
        · rw [List.filter_cons_of_pos (by simpa [Function.update_of_ne hfirst] using hkept),
            List.filter_cons_of_pos (by simpa using hkept)]
          simp only [rounds, List.map_cons, List.sum_cons] at hlater ⊢
          omega
        · rw [List.filter_cons_of_neg (by simpa [Function.update_of_ne hfirst] using hkept),
            List.filter_cons_of_neg (by simpa using hkept)]
          exact hlater

theorem work_push {node : α} (hmem : node ∈ nodes) (hmark : traversal.marks node = none) :
    work successors nodes (traversal.push successors node) ≤ work successors nodes traversal := by
  have hrounds : rounds successors (nodes.filter fun other =>
      Function.update traversal.marks node (some .visiting) other = none) +
        ((successors node).length + 1) ≤
      rounds successors (nodes.filter fun other => traversal.marks other = none) :=
    rounds_unmarked_update traversal.marks .visiting hmem hmark
  change rounds successors (nodes.filter fun other =>
      Function.update traversal.marks node (some .visiting) other = none) +
        (((successors node).length + 1) +
          (traversal.stack.map fun frame =>
            frame.successors.length - frame.nextSuccessor + 1).sum) ≤ _
  rw [work]
  omega

theorem Sound.work_step (hsound : Sound successors nodes traversal)
    (hclosed : ∀ node ∈ nodes, ∀ next ∈ successors node, next ∈ nodes)
    (hstack : traversal.stack = frame :: below)
    (hstep : traversal.step successors frame below = .ok later) :
    work successors nodes later < work successors nodes traversal := by
  have hframe : frame ∈ traversal.stack := by
    rw [hstack]
    exact List.mem_cons_self
  have hvisiting := (hsound.marked.mem_stack _).mp (List.mem_map_of_mem hframe)
  have hnode : frame.node ∈ nodes := by
    refine hsound.marked.within _ ?_
    rw [hvisiting]
    exact nofun
  unfold Traversal.step at hstep
  cases hnext : frame.successors[frame.nextSuccessor]? with
  | none =>
      rw [hnext] at hstep
      cases hstep
      have hsame : (nodes.filter fun node =>
          Function.update traversal.marks frame.node (some Mark.visited) node = none) =
            nodes.filter fun node => traversal.marks node = none := by
        apply List.filter_congr
        intro node _
        by_cases hsame : node = frame.node
        · subst hsame
          simp [hvisiting]
        · rw [Function.update_of_ne hsame]
      simp only [work, hsame, hstack, List.map_cons, List.sum_cons]
      omega
  | some next =>
      have hbound := (List.getElem?_eq_some_iff.mp hnext).1
      rw [hnext] at hstep
      dsimp only at hstep
      have hadvance : work successors nodes
          { traversal with
            stack := { frame with nextSuccessor := frame.nextSuccessor + 1 } :: below } <
              work successors nodes traversal := by
        simp only [work, hstack, List.map_cons, List.sum_cons]
        omega
      cases hmark : traversal.marks next with
      | none =>
          rw [hmark] at hstep
          cases hstep
          have hmem : next ∈ nodes := by
            refine hclosed _ hnode next ?_
            rw [← hsound.marked.frames frame hframe]
            exact List.mem_of_getElem? hnext
          exact lt_of_le_of_lt (work_push hmem hmark) hadvance
      | some mark =>
          rw [hmark] at hstep
          cases mark with
          | visiting => cases hstep
          | visited =>
              cases hstep
              exact hadvance

theorem marks_step (hstep : traversal.step successors frame below = .ok later) {node : α}
    (hmark : traversal.marks node ≠ none) : later.marks node ≠ none := by
  have hupdate : ∀ {other : α} {mark : Mark},
      Function.update traversal.marks other (some mark) node ≠ none := by
    intro other mark
    by_cases hsame : node = other
    · simp [hsame]
    · rwa [Function.update_of_ne hsame]
  unfold Traversal.step at hstep
  split at hstep
  · dsimp only at hstep
    split at hstep
    · cases hstep
    · cases hstep
      exact hmark
    · cases hstep
      exact hupdate
  · cases hstep
    exact hupdate

theorem Sound.loop (hsound : Sound successors nodes traversal)
    (hclosed : ∀ node ∈ nodes, ∀ next ∈ successors node, next ∈ nodes) {fuel : Nat}
    (hfuel : work successors nodes traversal ≤ fuel)
    (hloop : traversal.loop successors fuel = .ok later) :
    Sound successors nodes later ∧ later.stack = [] ∧
      ∀ node, traversal.marks node ≠ none → later.marks node ≠ none := by
  induction fuel generalizing traversal with
  | zero =>
      cases hloop
      refine ⟨hsound, ?_, fun _ hmark => hmark⟩
      cases hstack : later.stack with
      | nil => rfl
      | cons frame below =>
          rw [work, hstack, List.map_cons, List.sum_cons] at hfuel
          omega
  | succ fuel ih =>
      rw [Traversal.loop] at hloop
      cases hstack : traversal.stack with
      | nil =>
          rw [hstack] at hloop
          cases hloop
          exact ⟨hsound, hstack, fun _ hmark => hmark⟩
      | cons frame below =>
          rw [hstack] at hloop
          dsimp only at hloop
          cases hstep : traversal.step successors frame below with
          | error cycle =>
              rw [hstep] at hloop
              cases hloop
          | ok next =>
              rw [hstep] at hloop
              have hwork := hsound.work_step hclosed hstack hstep
              obtain ⟨hlater, hempty, hkeeps⟩ :=
                ih (hsound.step hclosed hstack hstep) (by omega) hloop
              exact ⟨hlater, hempty, fun node hmark => hkeeps node (marks_step hstep hmark)⟩

theorem Sound.pushed (hsound : Sound successors nodes traversal)
    (hempty : traversal.stack = []) {root : α} (hroot : root ∈ nodes)
    (hnew : ¬ (traversal.marks root).isSome) :
    Sound successors nodes ({ traversal with path := [] }.push successors root) ∧
      work successors nodes ({ traversal with path := [] }.push successors root) ≤
        rounds successors nodes := by
  have hmark : traversal.marks root = none := by simpa using hnew
  have hmarks := hsound.marked
  have hreset : Marked successors nodes { traversal with path := [] } :=
    ⟨hmarks.mem_order, hmarks.mem_stack, hmarks.order_nodup, hmarks.stack_nodup,
      hmarks.within, hmarks.frames⟩
  refine ⟨⟨hreset.push hroot hmark, ⟨by simp, by simp [hempty, Passed]⟩, hsound.ordered⟩, ?_⟩
  refine (work_push hroot hmark).trans ?_
  simp only [work, hempty, List.map_nil, List.sum_nil, Nat.add_zero]
  exact rounds_le_of_sublist List.filter_sublist

theorem Sound.visit (hsound : Sound successors nodes traversal)
    (hclosed : ∀ node ∈ nodes, ∀ next ∈ successors node, next ∈ nodes)
    (hempty : traversal.stack = []) {root : α} (hroot : root ∈ nodes)
    (hvisit : traversal.visit successors (rounds successors nodes) root = .ok later) :
    Sound successors nodes later ∧ later.stack = [] ∧
      ∀ node, node = root ∨ traversal.marks node ≠ none → later.marks node ≠ none := by
  unfold Traversal.visit at hvisit
  split_ifs at hvisit with hmarked
  · cases hvisit
    refine ⟨hsound, hempty, ?_⟩
    intro node hnode
    rcases hnode with rfl | hmark
    · exact Option.isSome_iff_ne_none.mp hmarked
    · exact hmark
  · obtain ⟨hpushed, hwork⟩ := hsound.pushed hempty hroot hmarked
    obtain ⟨hlater, hdone, hkeeps⟩ := hpushed.loop hclosed hwork hvisit
    refine ⟨hlater, hdone, ?_⟩
    intro node hnode
    refine hkeeps node ?_
    by_cases hsame : node = root
    · simp [Traversal.push, hsame]
    · simpa [Traversal.push, Function.update_of_ne hsame] using hnode.resolve_left hsame

theorem Sound.visitAll (hsound : Sound successors nodes traversal)
    (hclosed : ∀ node ∈ nodes, ∀ next ∈ successors node, next ∈ nodes)
    (hempty : traversal.stack = []) {roots : List α} (hroots : ∀ root ∈ roots, root ∈ nodes)
    (hvisit : roots.foldlM (Traversal.visit successors (rounds successors nodes)) traversal =
      .ok later) :
    Sound successors nodes later ∧ later.stack = [] ∧
      ∀ node, node ∈ roots ∨ traversal.marks node ≠ none → later.marks node ≠ none := by
  induction roots generalizing traversal with
  | nil =>
      cases hvisit
      exact ⟨hsound, hempty, fun node hnode => hnode.resolve_left (by simp)⟩
  | cons root rest ih =>
      rw [List.foldlM_cons] at hvisit
      cases hfirst : traversal.visit successors (rounds successors nodes) root with
      | error cycle =>
          rw [hfirst] at hvisit
          cases hvisit
      | ok next =>
          rw [hfirst] at hvisit
          obtain ⟨hroot, hrest⟩ := List.forall_mem_cons.mp hroots
          obtain ⟨hnext, hnextEmpty, hmarks⟩ := hsound.visit hclosed hempty hroot hfirst
          obtain ⟨hlater, hdone, hkeeps⟩ := ih hnext hnextEmpty hrest hvisit
          refine ⟨hlater, hdone, ?_⟩
          intro node hnode
          rw [List.mem_cons, or_assoc] at hnode
          rcases hnode with hsame | hother | hmark
          · exact hkeeps node (.inr (hmarks node (.inl hsame)))
          · exact hkeeps node (.inl hother)
          · exact hkeeps node (.inr (hmarks node (.inr hmark)))

theorem traverse_eq_ok {order : List α}
    (hclosed : ∀ node ∈ nodes, ∀ next ∈ successors node, next ∈ nodes)
    (htraverse : traverse successors nodes = .ok order) :
    order.Nodup ∧ (∀ node, node ∈ order ↔ node ∈ nodes) ∧ Ordered successors order := by
  unfold traverse at htraverse
  cases hvisit : nodes.foldlM (Traversal.visit successors (rounds successors nodes))
      Traversal.initial with
  | error cycle =>
      rw [hvisit] at htraverse
      cases htraverse
  | ok later =>
      rw [hvisit] at htraverse
      cases htraverse
      obtain ⟨hsound, hempty, hmarks⟩ := (sound_initial successors nodes).visitAll hclosed rfl
        (fun _ hmem => hmem) hvisit
      refine ⟨hsound.marked.order_nodup, ?_, hsound.ordered⟩
      intro node
      rw [hsound.marked.mem_order]
      constructor
      · intro hvisited
        refine hsound.marked.within node ?_
        rw [hvisited]
        exact nofun
      · intro hmem
        have hmark := hmarks node (.inl hmem)
        have hstack := hsound.marked.mem_stack node
        rw [hempty] at hstack
        cases hfound : later.marks node with
        | none => exact absurd hfound hmark
        | some mark =>
            cases mark with
            | visited => rfl
            | visiting => exact absurd (hstack.mpr hfound) (by simp)

end DepthFirst
