import TauriPlatform.AsyncProgram

/-!
# Programs whose calls are answered by a relation

A relation tells which answers a call may get and which states it may leave.  Several handlers
may answer within one relation, and what holds of all its runs holds of theirs.  The module names
nothing of a particular program.
-/

namespace Async

universe u

variable {Call : Type → Type u} {ε α β σ τ : Type}

abbrev Answering (Call : Type → Type u) (ε σ : Type) :=
  ∀ ⦃β : Type⦄, Call β → σ → Except ε β → σ → Prop

namespace Program

def MayRun (step : Answering Call ε σ) : Program Call ε α → σ → Except ε α → σ → Prop
  | .done settled, state, outcome, later => settled = outcome ∧ state = later
  | .call request rest, state, outcome, later =>
      ∃ answer middle, step request state answer middle ∧
        MayRun step (rest answer) middle outcome later

variable {step : Answering Call ε σ} {state later : σ}

theorem mayRun_await {request : Call α} {outcome : Except ε α} :
    (await request : Program Call ε α).MayRun step state outcome later ↔
      step request state outcome later := by
  constructor
  · rintro ⟨answer, middle, hstep, rfl, rfl⟩
    exact hstep
  · exact fun hstep => ⟨outcome, later, hstep, rfl, rfl⟩

theorem MayRun.of_bind {program : Program Call ε α} {next : α → Program Call ε β} {result : β}
    (hrun : (program >>= next).MayRun step state (.ok result) later) :
    ∃ value middle, program.MayRun step state (.ok value) middle ∧
      (next value).MayRun step middle (.ok result) later := by
  change (program.bind next).MayRun step state (.ok result) later at hrun
  induction program generalizing state with
  | done outcome =>
      cases outcome with
      | ok value => exact ⟨value, state, ⟨rfl, rfl⟩, hrun⟩
      | error error => cases hrun.1
  | call request rest ih =>
      obtain ⟨answer, middle, hstep, hrest⟩ := hrun
      obtain ⟨value, last, hfirst, hnext⟩ := ih answer hrest
      exact ⟨value, last, ⟨answer, middle, hstep, hfirst⟩, hnext⟩

theorem MayRun.keeps {view : σ → τ} {Good : ∀ ⦃β : Type⦄, Call β → Prop}
    (hstep : ∀ ⦃β : Type⦄ (request : Call β) state answer later, Good request →
      step request state answer later → view later = view state)
    {program : Program Call ε α} {outcome : Except ε α} (hmakes : program.Makes Good)
    (hrun : program.MayRun step state outcome later) : view later = view state := by
  induction program generalizing state with
  | done settled => rw [hrun.2]
  | call request rest ih =>
      obtain ⟨answer, middle, hanswer, hrest⟩ := hrun
      rw [ih answer (hmakes.2 answer) hrest, hstep request state answer middle hmakes.1 hanswer]

theorem mayRun_of_run {handler : Handler Call ε τ} {view : τ → σ}
    (hhandler : ∀ ⦃β : Type⦄ (request : Call β) state,
      step request (view state) (handler request state).1 (view (handler request state).2))
    (program : Program Call ε α) (start : τ) :
    program.MayRun step (view start) (program.run handler start).1
      (view (program.run handler start).2) := by
  induction program generalizing start with
  | done outcome => exact ⟨rfl, rfl⟩
  | call request rest ih => exact ⟨_, _, hhandler request start, ih _ _⟩

end Program
end Async
