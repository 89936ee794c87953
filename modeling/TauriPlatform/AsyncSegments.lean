import TauriPlatform.AsyncSystem

/-!
# Operations which run from one await to the next

Between two awaits an operation is not interrupted: its other calls are answered at once.
A step of such a system starts an operation, or answers the await of one, and runs it to
its next await or to its end.  The module names nothing of a particular program.
-/

namespace Async

universe u v

variable {L : Type v} {Call : Type → Type u} {ε α σ : Type}

abbrev Immediate (Call : Type → Type u) (ε σ : Type) :=
  ∀ ⦃β : Type⦄, Call β → σ → Option (Except ε β × σ)

def Program.toAwait (immediate : Immediate Call ε σ) :
    Program Call ε α → σ → Program Call ε α × σ
  | .done outcome, state => (.done outcome, state)
  | .call request rest, state =>
      match immediate request state with
      | some (answer, later) => toAwait immediate (rest answer) later
      | none => (.call request rest, state)

variable {immediate : Immediate Call ε σ}

theorem Program.toAwait_await {β : Type} {request : Call β} {rest : Except ε β → Program Call ε α}
    {state : σ} (hawait : immediate request state = none) :
    (Program.call request rest).toAwait immediate state = (.call request rest, state) := by
  simp only [toAwait, hawait]

theorem Program.toAwait_immediate {β : Type} {request : Call β}
    {rest : Except ε β → Program Call ε α} {state later : σ} {answer : Except ε β}
    (hanswer : immediate request state = some (answer, later)) :
    (Program.call request rest).toAwait immediate state =
      (rest answer).toAwait immediate later := by
  simp only [toAwait, hanswer]

theorem Program.toAwait_bind_ok {β : Type} {program : Program Call ε β}
    {next : β → Program Call ε α} {state later : σ} {value : β}
    (hrun : program.toAwait immediate state = (.done (.ok value), later)) :
    (program >>= next).toAwait immediate state = (next value).toAwait immediate later := by
  induction program generalizing state with
  | done outcome =>
      cases hrun
      rfl
  | call request rest ih =>
      change (Program.call request fun answer => rest answer >>= next).toAwait immediate state = _
      cases hanswer : immediate request state with
      | none =>
          rw [toAwait_await hanswer] at hrun
          cases hrun
      | some settled =>
          rw [toAwait_immediate hanswer] at hrun ⊢
          exact ih _ hrun

/-- Operations which await an answer, and those which have settled, the first one first. -/
structure Segments (L : Type v) (Call : Type → Type u) (ε α σ : Type) where
  state : σ
  waiting : List (Thread L Call ε α)
  settled : List (L × Except ε α)

namespace Segments

def idle (state : σ) : Segments L Call ε α σ where
  state := state
  waiting := []
  settled := []

def proceed (immediate : Immediate Call ε σ) (label : L) (program : Program Call ε α)
    (system : Segments L Call ε α σ) : Segments L Call ε α σ :=
  match program.toAwait immediate system.state with
  | (.done outcome, later) =>
      { system with state := later, settled := system.settled ++ [(label, outcome)] }
  | (awaiting, later) =>
      { system with state := later, waiting := ⟨label, awaiting⟩ :: system.waiting }

variable {system : Segments L Call ε α σ}

theorem proceed_of_done {immediate : Immediate Call ε σ} {label : L} {program : Program Call ε α}
    {outcome : Except ε α} {later : σ}
    (hrun : program.toAwait immediate system.state = (.done outcome, later)) :
    system.proceed immediate label program =
      { system with state := later, settled := system.settled ++ [(label, outcome)] } := by
  rw [proceed, hrun]

theorem proceed_of_await {immediate : Immediate Call ε σ} {label : L} {program : Program Call ε α}
    {β : Type} {request : Call β} {rest : Except ε β → Program Call ε α} {later : σ}
    (hrun : program.toAwait immediate system.state = (.call request rest, later)) :
    system.proceed immediate label program =
      { system with
        state := later
        waiting := ⟨label, .call request rest⟩ :: system.waiting } := by
  rw [proceed, hrun]

/-- One step.  `Allowed` restricts the states in which an operation may start, `Answers`
what an await may be answered with. -/
inductive Step (immediate : Immediate Call ε σ) (start : L → Program Call ε α)
    (Allowed : L → Segments L Call ε α σ → Prop)
    (Answers : ∀ ⦃β : Type⦄, Call β → Except ε β → Prop) :
    Segments L Call ε α σ → Segments L Call ε α σ → Prop
  | start (label : L) (system : Segments L Call ε α σ) :
      Allowed label system →
      Step immediate start Allowed Answers system
        (system.proceed immediate label (start label))
  | resume {β : Type} (request : Call β) (rest : Except ε β → Program Call ε α) (label : L)
      (answer : Except ε β) (state : σ) (before after : List (Thread L Call ε α))
      (settled : List (L × Except ε α)) :
      Answers request answer →
      Step immediate start Allowed Answers
        ⟨state, before ++ ⟨label, .call request rest⟩ :: after, settled⟩
        (proceed immediate label (rest answer) ⟨state, before ++ after, settled⟩)

def Reaches (immediate : Immediate Call ε σ) (start : L → Program Call ε α)
    (Allowed : L → Segments L Call ε α σ → Prop)
    (Answers : ∀ ⦃β : Type⦄, Call β → Except ε β → Prop) (initial : σ)
    (system : Segments L Call ε α σ) : Prop :=
  Relation.ReflTransGen (Step immediate start Allowed Answers) (.idle initial) system

variable {immediate : Immediate Call ε σ} {start : L → Program Call ε α}
  {Allowed : L → Segments L Call ε α σ → Prop}
  {Answers : ∀ ⦃β : Type⦄, Call β → Except ε β → Prop}

theorem Reaches.invariant (Inv : Segments L Call ε α σ → Prop) {initial : σ}
    (hinitial : Inv (.idle initial)) (hstart : ∀ label system, Inv system → Allowed label system →
      Inv (system.proceed immediate label (start label)))
    (hresume : ∀ ⦃β : Type⦄ (request : Call β) rest label answer state before after settled,
      Inv ⟨state, before ++ ⟨label, .call request rest⟩ :: after, settled⟩ →
      Answers request answer →
      Inv (proceed immediate label (rest answer) ⟨state, before ++ after, settled⟩))
    (hreaches : Reaches immediate start Allowed Answers initial system) : Inv system := by
  induction hreaches with
  | refl => exact hinitial
  | tail _ hstep ih =>
      cases hstep with
      | start label _ hallowed => exact hstart label _ ih hallowed
      | resume request rest label answer state before after settled hanswer =>
          exact hresume request rest label answer state before after settled ih hanswer

end Segments
end Async
