import TauriPlatform.AsyncProgram
import Mathlib.Logic.Relation

/-!
# Programs in flight

Several programs share one state.  At each step one of them has its next call
answered, a new one is started, or one is dropped, because it has settled or
because its process died.  An invariant of the shared state is proved by showing
each program safe on its own: every call it makes keeps the invariant, whatever
the others did before it.  The module names nothing of a particular program.
-/

namespace Async

universe u v w

variable {L : Type v} {Call : Type → Type u} {ε α β σ : Type}

/-- A program in flight, under the label of the operation it belongs to. -/
structure Thread (L : Type v) (Call : Type → Type u) (ε α : Type) where
  label : L
  program : Program Call ε α

structure System (L : Type v) (Call : Type → Type u) (ε α σ : Type) where
  state : σ
  threads : List (Thread L Call ε α)

abbrev Environment (Call : Type → Type u) (ε σ : Type) :=
  ∀ ⦃β : Type⦄, Call β → σ → Except ε β → σ → Prop

def Program.Handler.environment (handler : Program.Handler Call ε σ) :
    Environment Call ε σ :=
  fun _ request state answer later => handler request state = (answer, later)

def fallible (handler : Program.Handler Call ε σ) : Environment Call ε σ :=
  fun _ request state answer later =>
    handler request state = (answer, later) ∨ (∃ error, answer = .error error) ∧ later = state

/-- One step of the programs in flight.  `Allowed` restricts the states in which an
operation may have its next call answered. -/
inductive System.Step (environment : Environment Call ε σ)
    (start : L → Program Call ε α) (Allowed : L → σ → Prop) :
    System L Call ε α σ → System L Call ε α σ → Prop
  | start (label : L) (state : σ) (threads : List (Thread L Call ε α)) :
      Step environment start Allowed ⟨state, threads⟩
        ⟨state, ⟨label, start label⟩ :: threads⟩
  | advance {β : Type} (request : Call β) (rest : Except ε β → Program Call ε α)
      (label : L) (state : σ) (before after : List (Thread L Call ε α))
      (answer : Except ε β) (later : σ) :
      Allowed label state → environment request state answer later →
      Step environment start Allowed ⟨state, before ++ ⟨label, .call request rest⟩ :: after⟩
        ⟨later, before ++ ⟨label, rest answer⟩ :: after⟩
  | drop (thread : Thread L Call ε α) (state : σ)
      (before after : List (Thread L Call ε α)) :
      Step environment start Allowed ⟨state, before ++ thread :: after⟩
        ⟨state, before ++ after⟩

def System.Reaches (environment : Environment Call ε σ) (start : L → Program Call ε α)
    (Allowed : L → σ → Prop) (initial : σ) (system : System L Call ε α σ) : Prop :=
  Relation.ReflTransGen (System.Step environment start Allowed) ⟨initial, []⟩ system

/-! ## Safe programs -/

section Safe

variable (environment : Environment Call ε σ) (Inv : σ → Prop) (Grows : σ → σ → Prop)
  (Allowed : σ → Prop)

/-- Every call of the program, made in any state which the others may have brought
about, keeps the invariant and the relation between earlier and later states; when
it settles, `post` holds. -/
def Program.Safe (post : Except ε α → σ → Prop) : Program Call ε α → σ → Prop
  | .done outcome, state => post outcome state
  | .call request rest, state =>
      ∀ now, Grows state now → Inv now → Allowed now →
        ∀ answer later, environment request now answer later →
          Inv later ∧ Grows now later ∧ Safe post (rest answer) later

variable {environment Inv Grows Allowed} {post post' : Except ε α → σ → Prop}

variable {program : Program Call ε α} {state : σ}

theorem Program.Safe.grow (htrans : ∀ a b c, Grows a b → Grows b c → Grows a c)
    (hpost : ∀ outcome state later, post outcome state → Grows state later →
      post outcome later) {later : σ}
    (hsafe : program.Safe environment Inv Grows Allowed post state) (hgrows : Grows state later) :
    program.Safe environment Inv Grows Allowed post later := by
  cases program with
  | done outcome => exact hpost _ _ _ hsafe hgrows
  | call request rest =>
      intro now hnow
      exact hsafe now (htrans _ _ _ hgrows hnow)

theorem Program.Safe.mono (himp : ∀ outcome state, post outcome state → post' outcome state)
    (hsafe : program.Safe environment Inv Grows Allowed post state) :
    program.Safe environment Inv Grows Allowed post' state := by
  induction program generalizing state with
  | done outcome => exact himp outcome state hsafe
  | call request rest ih =>
      intro now hnow hinv hallowed answer later hanswer
      obtain ⟨hinv', hgrows, hrest⟩ := hsafe now hnow hinv hallowed answer later hanswer
      exact ⟨hinv', hgrows, ih answer hrest⟩

/-- A sequence is safe when its first part is, and its second part is in every
state in which the first may have succeeded. -/
theorem Program.Safe.bind {next : α → Program Call ε β} {postNext : Except ε β → σ → Prop}
    (hsafe : program.Safe environment Inv Grows Allowed
      (fun outcome state =>
        match outcome with
        | .ok value => (next value).Safe environment Inv Grows Allowed postNext state
        | .error error => postNext (.error error) state) state) :
    (program >>= next).Safe environment Inv Grows Allowed postNext state := by
  change (program.bind next).Safe environment Inv Grows Allowed postNext state
  induction program generalizing state with
  | done outcome =>
      cases outcome with
      | ok value => exact hsafe
      | error error => exact hsafe
  | call request rest ih =>
      intro now hnow hinv hallowed answer later hanswer
      obtain ⟨hinv', hgrows, hrest⟩ := hsafe now hnow hinv hallowed answer later hanswer
      exact ⟨hinv', hgrows, ih answer hrest⟩

theorem Program.Safe.tryCatch {recover : ε → Program Call ε α}
    (hsafe : program.Safe environment Inv Grows Allowed
      (fun outcome state =>
        match outcome with
        | .ok value => post (.ok value) state
        | .error error => (recover error).Safe environment Inv Grows Allowed post state)
      state) :
    (tryCatch program recover).Safe environment Inv Grows Allowed post state := by
  change (program.catchError recover).Safe environment Inv Grows Allowed post state
  induction program generalizing state with
  | done outcome =>
      cases outcome with
      | ok value => exact hsafe
      | error error => exact hsafe
  | call request rest ih =>
      intro now hnow hinv hallowed answer later hanswer
      obtain ⟨hinv', hgrows, hrest⟩ := hsafe now hnow hinv hallowed answer later hanswer
      exact ⟨hinv', hgrows, ih answer hrest⟩

theorem Program.Every.safe {Good : ∀ ⦃β : Type⦄, Call β → Prop} {post : Except ε α → Prop}
    (hcall : ∀ ⦃β : Type⦄ (request : Call β), Good request → ∀ now answer later, Inv now →
      environment request now answer later → Inv later ∧ Grows now later)
    (hevery : program.Every Good post) (state : σ) :
    program.Safe environment Inv Grows Allowed (fun outcome _ => post outcome) state := by
  induction program generalizing state with
  | done outcome => exact hevery
  | call request rest ih =>
      intro now _ hinv _ answer later hanswer
      obtain ⟨hinv', hgrows⟩ := hcall request hevery.1 now answer later hinv hanswer
      exact ⟨hinv', hgrows, ih answer (hevery.2 answer) later⟩

theorem Program.Safe.since (hrefl : ∀ state, Grows state state)
    (htrans : ∀ a b c, Grows a b → Grows b c → Grows a c)
    (hsafe : program.Safe environment Inv Grows Allowed post state) :
    program.Safe environment Inv Grows Allowed
      (fun outcome later => post outcome later ∧ Grows state later) state := by
  induction program generalizing state with
  | done outcome => exact ⟨hsafe, hrefl state⟩
  | call request rest ih =>
      intro now hnow hinv hallowed answer later hanswer
      obtain ⟨hinv', hgrows, hrest⟩ := hsafe now hnow hinv hallowed answer later hanswer
      refine ⟨hinv', hgrows, (ih answer hrest).mono ?_⟩
      intro outcome final hfinal
      exact ⟨hfinal.1, htrans _ _ _ (htrans _ _ _ hnow hgrows) hfinal.2⟩

theorem Program.Safe.mapCall {Call' : Type → Type w} {τ : Type}
    {environment' : Environment Call' ε τ} {Inv' : τ → Prop} {Grows' : τ → τ → Prop}
    {Allowed' : τ → Prop} {translate : ∀ β, Call β → Call' β} (view : τ → σ)
    (hgrows : ∀ state now, Grows' state now → Grows (view state) (view now))
    (hcall : ∀ ⦃β : Type⦄ (request : Call β) now answer later, Inv' now → Allowed' now →
      environment' (translate β request) now answer later →
      Inv (view now) ∧ Allowed (view now) ∧
        environment request (view now) answer (view later) ∧
        (Inv (view later) → Grows (view now) (view later) → Inv' later ∧ Grows' now later))
    {state : τ} (hsafe : program.Safe environment Inv Grows Allowed post (view state)) :
    (program.mapCall translate).Safe environment' Inv' Grows' Allowed'
      (fun outcome now => post outcome (view now)) state := by
  induction program generalizing state with
  | done outcome => exact hsafe
  | call request rest ih =>
      intro now hnow hinv hallowed answer later hanswer
      obtain ⟨hinv', hallowed', hanswer', hback⟩ :=
        hcall request now answer later hinv hallowed hanswer
      obtain ⟨hlater, hgrows', hrest⟩ :=
        hsafe (view now) (hgrows _ _ hnow) hinv' hallowed' answer (view later) hanswer'
      obtain ⟨hlater', hfollows⟩ := hback hlater hgrows'
      exact ⟨hlater', hfollows, ih answer hrest⟩

end Safe

/-! ## Invariants of a system -/

def anyOutcome : Except ε α → σ → Prop :=
  fun _ _ => True

section Invariants

variable {environment : Environment Call ε σ} {start : L → Program Call ε α}
  {Allowed : L → σ → Prop} {Inv : σ → Prop} {Grows : σ → σ → Prop}

structure System.Sound (environment : Environment Call ε σ) (Allowed : L → σ → Prop)
    (Inv : σ → Prop) (Grows : σ → σ → Prop) (system : System L Call ε α σ) : Prop where
  inv : Inv system.state
  safe : ∀ thread ∈ system.threads,
    thread.program.Safe environment Inv Grows (Allowed thread.label) anyOutcome
      system.state

theorem System.Sound.step (htrans : ∀ a b c, Grows a b → Grows b c → Grows a c)
    (hstart : ∀ label state, Inv state →
      (start label).Safe environment Inv Grows (Allowed label) anyOutcome state)
    (hrefl : ∀ state, Grows state state)
    {system later : System L Call ε α σ}
    (hsound : system.Sound environment Allowed Inv Grows)
    (hstep : System.Step environment start Allowed system later) :
    later.Sound environment Allowed Inv Grows := by
  cases hstep with
  | start label state threads =>
      refine ⟨hsound.inv, fun thread hthread => ?_⟩
      rcases List.mem_cons.mp hthread with rfl | hthread
      · exact hstart label state hsound.inv
      · exact hsound.safe thread hthread
  | advance request rest label state before after answer next hallowed hanswer =>
      have hsafe := hsound.safe ⟨label, .call request rest⟩ (by simp)
      obtain ⟨hinv, hgrows, hrest⟩ :=
        hsafe state (hrefl state) hsound.inv hallowed answer next hanswer
      have hothers : ∀ thread ∈ before ++ after,
          thread.program.Safe environment Inv Grows (Allowed thread.label) anyOutcome
            next := by
        intro thread hthread
        refine (hsound.safe thread ?_).grow htrans (fun _ _ _ _ _ => trivial) hgrows
        rcases List.mem_append.mp hthread with hbefore | hafter
        · exact List.mem_append_left _ hbefore
        · exact List.mem_append_right _ (List.mem_cons_of_mem _ hafter)
      refine ⟨hinv, fun thread hthread => ?_⟩
      rcases List.mem_append.mp hthread with hbefore | hthread
      · exact hothers thread (List.mem_append_left _ hbefore)
      · rcases List.mem_cons.mp hthread with rfl | hafter
        · exact hrest
        · exact hothers thread (List.mem_append_right _ hafter)
  | drop thread state before after =>
      refine ⟨hsound.inv, fun other hother => hsound.safe other ?_⟩
      rcases List.mem_append.mp hother with hbefore | hafter
      · exact List.mem_append_left _ hbefore
      · exact List.mem_append_right _ (List.mem_cons_of_mem _ hafter)

theorem System.Reaches.invariant
    (htrans : ∀ a b c, Grows a b → Grows b c → Grows a c)
    (hrefl : ∀ state, Grows state state)
    (hstart : ∀ label state, Inv state →
      (start label).Safe environment Inv Grows (Allowed label) anyOutcome state)
    {initial : σ} (hinitial : Inv initial) {system : System L Call ε α σ}
    (hreaches : System.Reaches environment start Allowed initial system) :
    Inv system.state := by
  have hsound : system.Sound environment Allowed Inv Grows := by
    induction hreaches with
    | refl => exact ⟨hinitial, fun thread hthread => by cases hthread⟩
    | tail _ hstep ih => exact ih.step htrans hstart hrefl hstep
  exact hsound.inv

/-! ## Runs of one program after another -/

variable {handler : Program.Handler Call ε σ} {initial : σ}

variable {threads : List (Thread L Call ε α)}

theorem System.Reaches.run_front {label : L} {program : Program Call ε α} {state : σ}
    (hreaches : System.Reaches handler.environment start Allowed initial
      ⟨state, ⟨label, program⟩ :: threads⟩)
    (halong : program.Along handler (fun _ _ now => Allowed label now) state) :
    System.Reaches handler.environment start Allowed initial
      ⟨(program.run handler state).2, threads⟩ := by
  induction program generalizing state with
  | done outcome =>
      exact hreaches.tail (.drop ⟨label, .done outcome⟩ state [] threads)
  | call request rest ih =>
      have hstep : System.Step handler.environment start Allowed
          ⟨state, ⟨label, .call request rest⟩ :: threads⟩
          ⟨(handler request state).2,
            ⟨label, rest (handler request state).1⟩ :: threads⟩ :=
        .advance request rest label state [] threads _ _ halong.1 rfl
      exact ih _ (hreaches.tail hstep) halong.2

theorem System.Reaches.run_operation {state : σ}
    (hreaches : System.Reaches handler.environment start Allowed initial ⟨state, threads⟩)
    (label : L) (halong : (start label).Along handler (fun _ _ now => Allowed label now) state) :
    System.Reaches handler.environment start Allowed initial
      ⟨((start label).run handler state).2, threads⟩ :=
  System.Reaches.run_front (hreaches.tail (.start label state threads)) halong

def System.runAll (handler : Program.Handler Call ε σ) (start : L → Program Call ε α)
    (labels : List L) (state : σ) : σ :=
  labels.foldl (fun state label => ((start label).run handler state).2) state

theorem System.Reaches.runAll {state : σ}
    (hreaches : System.Reaches handler.environment start Allowed initial ⟨state, threads⟩)
    (labels : List L) (hallowed : ∀ label ∈ labels, ∀ now, Allowed label now) :
    System.Reaches handler.environment start Allowed initial
      ⟨System.runAll handler start labels state, threads⟩ := by
  induction labels generalizing state with
  | nil => exact hreaches
  | cons label rest ih =>
      have halong : (start label).Along handler (fun _ _ now => Allowed label now)
          state :=
        Program.along_of_forall (fun _ _ now => hallowed label List.mem_cons_self now) _
      exact ih (hreaches.run_operation label halong) fun other hother =>
        hallowed other (List.mem_cons_of_mem _ hother)

/-! ## Runs of one program while the others wait -/

section Advances

variable {environment : Environment Call ε σ} {Allowed : σ → Prop}

inductive Program.Advances (environment : Environment Call ε σ) (Allowed : σ → Prop) :
    Program Call ε α → σ → Program Call ε α → σ → Prop
  | refl (program : Program Call ε α) (state : σ) :
      Advances environment Allowed program state program state
  | step {β : Type} {request : Call β} {rest : Except ε β → Program Call ε α}
      {program : Program Call ε α} {state now later : σ} (answer : Except ε β) :
      Allowed state → environment request state answer now →
      Advances environment Allowed (rest answer) now program later →
      Advances environment Allowed (.call request rest) state program later

variable {program middle final : Program Call ε α} {state now later : σ}

theorem Program.Advances.trans
    (hfirst : program.Advances environment Allowed state middle now)
    (hsecond : middle.Advances environment Allowed now final later) :
    program.Advances environment Allowed state final later := by
  induction hfirst with
  | refl program state => exact hsecond
  | step answer hallowed hanswer _ ih => exact .step answer hallowed hanswer (ih hsecond)

theorem Program.Advances.await {request : Call α} {answer : Except ε α}
    (hallowed : Allowed state) (hanswer : environment request state answer now) :
    (await request).Advances environment Allowed state (ofExcept answer) now :=
  .step answer hallowed hanswer (.refl _ _)

theorem Program.Advances.bind
    (hadvances : program.Advances environment Allowed state middle now)
    (next : α → Program Call ε β) :
    (program >>= next).Advances environment Allowed state (middle >>= next) now := by
  induction hadvances with
  | refl program state => exact .refl _ _
  | step answer hallowed hanswer _ ih => exact .step answer hallowed hanswer ih

theorem Program.Advances.tryCatch
    (hadvances : program.Advances environment Allowed state middle now)
    (recover : ε → Program Call ε α) :
    (tryCatch program recover).Advances environment Allowed state (tryCatch middle recover)
      now := by
  induction hadvances with
  | refl program state => exact .refl _ _
  | step answer hallowed hanswer _ ih => exact .step answer hallowed hanswer ih

theorem System.Reaches.advances {environment : Environment Call ε σ} {Allowed : L → σ → Prop}
    {initial : σ} {label : L} {after : List (Thread L Call ε α)}
    (before : List (Thread L Call ε α))
    (hadvances : program.Advances environment (Allowed label) state middle now)
    (hreaches : System.Reaches environment start Allowed initial
      ⟨state, before ++ ⟨label, program⟩ :: after⟩) :
    System.Reaches environment start Allowed initial
      ⟨now, before ++ ⟨label, middle⟩ :: after⟩ := by
  induction hadvances with
  | refl program state => exact hreaches
  | step answer hallowed hanswer _ ih =>
      exact ih (hreaches.tail (.advance _ _ label _ before after answer _ hallowed hanswer))

end Advances

end Invariants
/-! ## Runs without crashes -/

section Live

variable (environment : Environment Call ε σ) (start : L → Program Call ε α)
  (Allowed : ∀ ⦃β : Type⦄, Call β → σ → Prop)

/-- One step in which nothing is dropped.  `Allowed` restricts the states in which a call
may be answered. -/
inductive System.LiveStep : System L Call ε α σ → System L Call ε α σ → Prop
  | start (label : L) (state : σ) (threads : List (Thread L Call ε α)) :
      LiveStep ⟨state, threads⟩ ⟨state, ⟨label, start label⟩ :: threads⟩
  | advance {β : Type} (request : Call β) (rest : Except ε β → Program Call ε α)
      (label : L) (state : σ) (before after : List (Thread L Call ε α))
      (answer : Except ε β) (later : σ) :
      Allowed request state → environment request state answer later →
      LiveStep ⟨state, before ++ ⟨label, .call request rest⟩ :: after⟩
        ⟨later, before ++ ⟨label, rest answer⟩ :: after⟩

def System.LiveReaches (initial : σ) (system : System L Call ε α σ) : Prop :=
  Relation.ReflTransGen (System.LiveStep environment start Allowed) ⟨initial, []⟩ system

variable {environment start Allowed}

theorem forall₂_append_cons {α β : Type*} {R : α → β → Prop} {x : α} {before after : List α} :
    ∀ {ys : List β}, List.Forall₂ R (before ++ x :: after) ys →
      ∃ front y back, ys = front ++ y :: back ∧ List.Forall₂ R before front ∧ R x y ∧
        List.Forall₂ R after back := by
  induction before with
  | nil =>
      intro ys hall
      cases hall with
      | cons hx hafter => exact ⟨[], _, _, rfl, .nil, hx, hafter⟩
  | cons z before ih =>
      intro ys hall
      cases hall with
      | cons hz hrest =>
          obtain ⟨front, y, back, rfl, hbefore, hx, hafter⟩ := ih hrest
          exact ⟨_ :: front, y, back, rfl, .cons hz hbefore, hx, hafter⟩

/-- Each program in flight stands for a local state; an invariant of the shared state and
the local states which every start and every answer keeps, holds in every run. -/
theorem System.LiveReaches.simulation {Local : Type}
    (Stands : L → Program Call ε α → Local → Prop) (Inv : σ → List Local → Prop)
    (hstart : ∀ label state locals, Inv state locals →
      ∃ first, Stands label (start label) first ∧ Inv state (first :: locals))
    (hadvance : ∀ ⦃β : Type⦄ (request : Call β) rest label state before current after answer
      later, Inv state (before ++ current :: after) →
      Stands label (.call request rest) current → Allowed request state →
      environment request state answer later →
      ∃ next, Stands label (rest answer) next ∧ Inv later (before ++ next :: after))
    {initial : σ} (hinitial : Inv initial []) {system : System L Call ε α σ}
    (hreaches : System.LiveReaches environment start Allowed initial system) :
    ∃ locals, List.Forall₂ (fun thread current => Stands thread.label thread.program current)
      system.threads locals ∧ Inv system.state locals := by
  induction hreaches with
  | refl => exact ⟨[], .nil, hinitial⟩
  | tail _ hstep ih =>
      obtain ⟨locals, hthreads, hinv⟩ := ih
      cases hstep with
      | start label state threads =>
          obtain ⟨first, hfirst, hinv'⟩ := hstart label state locals hinv
          exact ⟨first :: locals, .cons hfirst hthreads, hinv'⟩
      | advance request rest label state before after answer later hallowed hanswer =>
          obtain ⟨front, current, back, rfl, hfront, hcurrent, hback⟩ :=
            forall₂_append_cons hthreads
          obtain ⟨next, hnext, hinv'⟩ := hadvance request rest label state front current back
            answer later hinv hcurrent hallowed hanswer
          exact ⟨front ++ next :: back, List.rel_append hfront (.cons hnext hback), hinv'⟩

end Live
end Async
