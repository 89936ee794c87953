import TauriPlatform.AsyncSystem

/-!
# Outcomes of one program

A program runs alone, in an environment which may answer a call in several ways.
-/

namespace Async

universe u

variable {Call : Type → Type u} {ε α β σ : Type}

def Program.Outcome (environment : Environment Call ε σ) :
    Program Call ε α → σ → Except ε α → σ → Prop
  | .done outcome, state, answer, later => answer = outcome ∧ later = state
  | .call request rest, state, answer, later =>
      ∃ reply now, environment request state reply now ∧
        Outcome environment (rest reply) now answer later

namespace Program

variable {environment : Environment Call ε σ} {state later : σ} {answer : Except ε α}

@[simp] theorem outcome_await {request : Call α} :
    (await request : Program Call ε α).Outcome environment state answer later ↔
      environment request state answer later := by
  constructor
  · rintro ⟨reply, now, hreply, rfl, rfl⟩
    exact hreply
  · intro hanswer
    exact ⟨answer, later, hanswer, rfl, rfl⟩

theorem outcome_bind {program : Program Call ε β} {next : β → Program Call ε α} :
    (program >>= next).Outcome environment state answer later ↔
      (∃ value now, program.Outcome environment state (.ok value) now ∧
        (next value).Outcome environment now answer later) ∨
      ∃ error, program.Outcome environment state (.error error) later ∧
        answer = .error error := by
  change (program.bind next).Outcome environment state answer later ↔ _
  induction program generalizing state with
  | done outcome =>
      cases outcome with
      | ok value =>
          constructor
          · intro hnext
            exact .inl ⟨value, state, ⟨rfl, rfl⟩, hnext⟩
          · rintro (⟨value', now, ⟨hvalue, rfl⟩, hnext⟩ | ⟨error, ⟨herror, -⟩, -⟩)
            · cases hvalue
              exact hnext
            · cases herror
      | error error =>
          constructor
          · rintro ⟨rfl, rfl⟩
            exact .inr ⟨error, ⟨rfl, rfl⟩, rfl⟩
          · rintro (⟨value, now, ⟨hvalue, -⟩, -⟩ | ⟨error', ⟨herror, rfl⟩, rfl⟩)
            · cases hvalue
            · cases herror
              exact ⟨rfl, rfl⟩
  | call request rest ih =>
      constructor
      · rintro ⟨reply, now, hreply, hrest⟩
        rcases (ih reply).mp hrest with ⟨value, between, hfirst, hnext⟩ | ⟨error, hfirst, herror⟩
        · exact .inl ⟨value, between, ⟨reply, now, hreply, hfirst⟩, hnext⟩
        · exact .inr ⟨error, ⟨reply, now, hreply, hfirst⟩, herror⟩
      · rintro (⟨value, between, ⟨reply, now, hreply, hfirst⟩, hnext⟩ |
          ⟨error, ⟨reply, now, hreply, hfirst⟩, herror⟩)
        · exact ⟨reply, now, hreply, (ih reply).mpr (.inl ⟨value, between, hfirst, hnext⟩)⟩
        · exact ⟨reply, now, hreply, (ih reply).mpr (.inr ⟨error, hfirst, herror⟩)⟩

theorem outcome_run {handler : Handler Call ε σ}
    (hanswers : ∀ ⦃γ : Type⦄ (request : Call γ) now,
      environment request now (handler request now).1 (handler request now).2)
    (program : Program Call ε α) (state : σ) :
    program.Outcome environment state (program.run handler state).1
      (program.run handler state).2 := by
  induction program generalizing state with
  | done outcome => exact ⟨rfl, rfl⟩
  | call request rest ih => exact ⟨_, _, hanswers request state, ih _ _⟩

theorem Safe.outcome {Inv : σ → Prop} {Grows : σ → σ → Prop} {Allowed : σ → Prop}
    {post : Except ε α → σ → Prop} (hrefl : ∀ state, Grows state state)
    (hallowed : ∀ state, Allowed state) {program : Program Call ε α}
    (hsafe : program.Safe environment Inv Grows Allowed post state) (hinv : Inv state)
    (hrun : program.Outcome environment state answer later) : Inv later ∧ post answer later := by
  induction program generalizing state with
  | done outcome =>
      obtain ⟨rfl, rfl⟩ := hrun
      exact ⟨hinv, hsafe⟩
  | call request rest ih =>
      obtain ⟨reply, now, hreply, hrest⟩ := hrun
      obtain ⟨hnow, -, hsafeRest⟩ :=
        hsafe state (hrefl state) hinv (hallowed state) reply now hreply
      exact ih reply hsafeRest hnow hrest

end Program
end Async
