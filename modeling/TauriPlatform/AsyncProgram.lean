import Mathlib.Tactic

/-!
# Programs which await calls of their environment

An asynchronous function is a tree: it either has settled, or it awaits one
call and continues with the value or the error the call settles with.  A handler
says what each call does to a shared state, and running a program answers its
calls one after another.  The module names nothing of a particular program.
-/

namespace Async

universe u v

variable {Call : Type → Type u} {ε α β γ σ : Type}

/-- A program over the calls `Call`.  Each await gives a value or an error. -/
inductive Program (Call : Type → Type u) (ε α : Type) where
  | done (outcome : Except ε α)
  | call {β : Type} (request : Call β) (next : Except ε β → Program Call ε α)

namespace Program

def await (request : Call α) : Program Call ε α :=
  .call request .done

def ofExcept (outcome : Except ε α) : Program Call ε α :=
  .done outcome

def bind : Program Call ε α → (α → Program Call ε β) → Program Call ε β
  | .done (.ok value), next => next value
  | .done (.error error), _ => .done (.error error)
  | .call request rest, next => .call request fun answer => (rest answer).bind next

/-- `try … catch`: the handler sees the error the program settles with. -/
def catchError : Program Call ε α → (ε → Program Call ε α) → Program Call ε α
  | .done (.ok value), _ => .done (.ok value)
  | .done (.error error), handler => handler error
  | .call request rest, handler =>
      .call request fun answer => (rest answer).catchError handler

instance : Monad (Program Call ε) where
  pure value := .done (.ok value)
  bind := bind

instance : MonadExceptOf ε (Program Call ε) where
  throw error := .done (.error error)
  tryCatch := catchError

theorem bind_pure_self (program : Program Call ε α) :
    program.bind (fun value => .done (.ok value)) = program := by
  induction program with
  | done outcome => cases outcome <;> rfl
  | call request rest ih => simp only [bind, ih]

theorem bind_assoc (program : Program Call ε α) (first : α → Program Call ε β)
    (second : β → Program Call ε γ) :
    (program.bind first).bind second =
      program.bind fun value => (first value).bind second := by
  induction program with
  | done outcome => cases outcome <;> rfl
  | call request rest ih => simp only [bind, ih]

instance : LawfulMonad (Program Call ε) :=
  LawfulMonad.mk' _ bind_pure_self (fun _ _ => rfl) bind_assoc

/-! ## Running a program -/

abbrev Handler (Call : Type → Type u) (ε σ : Type) :=
  ∀ ⦃β : Type⦄, Call β → σ → Except ε β × σ

def run (handler : Handler Call ε σ) : Program Call ε α → σ → Except ε α × σ
  | .done outcome, state => (outcome, state)
  | .call request rest, state =>
      run handler (rest (handler request state).1) (handler request state).2

variable {handler : Handler Call ε σ} {state : σ}

@[simp] theorem run_pure (value : α) :
    (pure value : Program Call ε α).run handler state = (.ok value, state) :=
  rfl

@[simp] theorem run_throw (error : ε) :
    (throw error : Program Call ε α).run handler state = (.error error, state) :=
  rfl

@[simp] theorem run_ofExcept (outcome : Except ε α) :
    (ofExcept outcome : Program Call ε α).run handler state = (outcome, state) :=
  rfl

@[simp] theorem run_await (request : Call α) :
    (await request : Program Call ε α).run handler state = handler request state :=
  rfl

theorem run_bind (program : Program Call ε α) (next : α → Program Call ε β) :
    (program >>= next).run handler state =
      match program.run handler state with
      | (.ok value, later) => (next value).run handler later
      | (.error error, later) => (.error error, later) := by
  change (program.bind next).run handler state = _
  induction program generalizing state with
  | done outcome => cases outcome <;> rfl
  | call request rest ih => exact ih _

variable {program : Program Call ε α}

theorem run_bind_ok {value : α} {later : σ} (next : α → Program Call ε β)
    (hrun : program.run handler state = (.ok value, later)) :
    (program >>= next).run handler state = (next value).run handler later := by
  rw [run_bind, hrun]

theorem run_bind_error {error : ε} {later : σ} (next : α → Program Call ε β)
    (hrun : program.run handler state = (.error error, later)) :
    (program >>= next).run handler state = (.error error, later) := by
  rw [run_bind, hrun]

theorem run_bind_pure_state (program : Program Call ε α) (result : α → β) :
    ((program >>= fun value => pure (result value)).run handler state).2 =
      (program.run handler state).2 := by
  rw [run_bind]
  match program.run handler state with
  | (.ok value, later) => rfl
  | (.error error, later) => rfl

theorem run_bind_eq_ok {next : α → Program Call ε β} {result : β} {final : σ}
    (hrun : (program >>= next).run handler state = (.ok result, final)) :
    ∃ value later, program.run handler state = (.ok value, later) ∧
      (next value).run handler later = (.ok result, final) := by
  rw [run_bind] at hrun
  match hfirst : program.run handler state with
  | (.ok value, later) =>
      rw [hfirst] at hrun
      exact ⟨value, later, rfl, hrun⟩
  | (.error error, later) =>
      rw [hfirst] at hrun
      cases congrArg Prod.fst hrun

theorem run_tryCatch (program : Program Call ε α) (recover : ε → Program Call ε α) :
    (tryCatch program recover).run handler state =
      match program.run handler state with
      | (.ok value, later) => (.ok value, later)
      | (.error error, later) => (recover error).run handler later := by
  change (program.catchError recover).run handler state = _
  induction program generalizing state with
  | done outcome => cases outcome <;> rfl
  | call request rest ih => exact ih _

theorem run_tryCatch_ok {later : σ} {value : α}
    (hrun : program.run handler state = (.ok value, later)) (recover : ε → Program Call ε α) :
    (tryCatch program recover).run handler state = (.ok value, later) := by
  rw [run_tryCatch, hrun]

/-! ## What the calls of a run satisfy -/

/-- Every call which a run makes satisfies `Good` in the state it is made in. -/
def Along (handler : Handler Call ε σ) (Good : ∀ ⦃β : Type⦄, Call β → σ → Prop) :
    Program Call ε α → σ → Prop
  | .done _, _ => True
  | .call request rest, state =>
      Good request state ∧
        Along handler Good (rest (handler request state).1) (handler request state).2

variable {Good : ∀ ⦃β : Type⦄, Call β → σ → Prop}

@[simp] theorem along_pure (value : α) :
    (pure value : Program Call ε α).Along handler Good state ↔ True :=
  Iff.rfl

@[simp] theorem along_ofExcept (outcome : Except ε α) :
    (ofExcept outcome : Program Call ε α).Along handler Good state ↔ True :=
  Iff.rfl

@[simp] theorem along_await (request : Call α) :
    (await request : Program Call ε α).Along handler Good state ↔
      Good request state := by
  simp [await, Along]

theorem along_bind (program : Program Call ε α) (next : α → Program Call ε β) :
    (program >>= next).Along handler Good state ↔
      program.Along handler Good state ∧
        ∀ value later, program.run handler state = (.ok value, later) →
          (next value).Along handler Good later := by
  change (program.bind next).Along handler Good state ↔ _
  induction program generalizing state with
  | done outcome =>
      cases outcome with
      | ok value => simp [bind, Along, run]
      | error error => simp [bind, Along, run]
  | call request rest ih => simp only [bind, Along, run, ih, and_assoc]

theorem along_tryCatch (program : Program Call ε α) (recover : ε → Program Call ε α) :
    (tryCatch program recover).Along handler Good state ↔
      program.Along handler Good state ∧
        ∀ error later, program.run handler state = (.error error, later) →
          (recover error).Along handler Good later := by
  change (program.catchError recover).Along handler Good state ↔ _
  induction program generalizing state with
  | done outcome =>
      cases outcome with
      | ok value => simp [catchError, Along, run]
      | error error => simp [catchError, Along, run]
  | call request rest ih => simp only [catchError, Along, run, ih, and_assoc]

theorem along_of_forall (hgood : ∀ ⦃β : Type⦄ (request : Call β) state, Good request state)
    (program : Program Call ε α) : program.Along handler Good state := by
  induction program generalizing state with
  | done outcome => trivial
  | call request rest ih => exact ⟨hgood request state, ih _⟩

theorem Along.and {Good' : ∀ ⦃β : Type⦄, Call β → σ → Prop}
    (halong : program.Along handler Good state) (halong' : program.Along handler Good' state) :
    program.Along handler (fun _ request now => Good request now ∧ Good' request now)
      state := by
  induction program generalizing state with
  | done outcome => trivial
  | call request rest ih => exact ⟨⟨halong.1, halong'.1⟩, ih _ halong.2 halong'.2⟩

/-! ## What every run satisfies -/

/-- Whatever its calls are answered with, the program only makes calls which satisfy `Good`,
and settles with an outcome which satisfies `post`. -/
def Every (Good : ∀ ⦃β : Type⦄, Call β → Prop) (post : Except ε α → Prop) :
    Program Call ε α → Prop
  | .done outcome => post outcome
  | .call request rest => Good request ∧ ∀ answer, Every Good post (rest answer)

section Every

variable {Good : ∀ ⦃β : Type⦄, Call β → Prop} {post post' : Except ε α → Prop}

variable {program : Program Call ε α}

theorem Every.mono (himp : ∀ outcome, post outcome → post' outcome)
    (hevery : program.Every Good post) :
    program.Every Good post' := by
  induction program with
  | done outcome => exact himp outcome hevery
  | call request rest ih => exact ⟨hevery.1, fun answer => ih answer (hevery.2 answer)⟩

theorem Every.bind {next : α → Program Call ε β} {postNext : Except ε β → Prop}
    (hevery : program.Every Good fun outcome =>
      match outcome with
      | .ok value => (next value).Every Good postNext
      | .error error => postNext (.error error)) :
    (program >>= next).Every Good postNext := by
  change (program.bind next).Every Good postNext
  induction program with
  | done outcome =>
      cases outcome with
      | ok value => exact hevery
      | error error => exact hevery
  | call request rest ih => exact ⟨hevery.1, fun answer => ih answer (hevery.2 answer)⟩

theorem Every.tryCatch {recover : ε → Program Call ε α}
    (hevery : program.Every Good fun outcome =>
      match outcome with
      | .ok value => post (.ok value)
      | .error error => (recover error).Every Good post) :
    (tryCatch program recover).Every Good post := by
  change (program.catchError recover).Every Good post
  induction program with
  | done outcome =>
      cases outcome with
      | ok value => exact hevery
      | error error => exact hevery
  | call request rest ih => exact ⟨hevery.1, fun answer => ih answer (hevery.2 answer)⟩

end Every

/-- Whatever its calls are answered with, the program only makes calls which satisfy `Good`. -/
def Makes (Good : ∀ ⦃β : Type⦄, Call β → Prop) (program : Program Call ε α) : Prop :=
  program.Every Good fun _ => True

section Makes

variable {Good : ∀ ⦃β : Type⦄, Call β → Prop}

theorem makes_done (outcome : Except ε α) : (done outcome : Program Call ε α).Makes Good :=
  trivial

theorem makes_await {request : Call α} (hgood : Good request) :
    (await request : Program Call ε α).Makes Good :=
  ⟨hgood, fun _ => trivial⟩

theorem Makes.bind {program : Program Call ε α} {next : α → Program Call ε β}
    (hprogram : program.Makes Good) (hnext : ∀ value, (next value).Makes Good) :
    (program >>= next).Makes Good := by
  refine Every.bind (Every.mono ?_ hprogram)
  intro outcome _
  cases outcome with
  | ok value => exact hnext value
  | error error => trivial

theorem Makes.tryCatch {program : Program Call ε α} {recover : ε → Program Call ε α}
    (hprogram : program.Makes Good) (hrecover : ∀ error, (recover error).Makes Good) :
    (tryCatch program recover).Makes Good := by
  refine Every.tryCatch (Every.mono ?_ hprogram)
  intro outcome _
  cases outcome with
  | ok value => trivial
  | error error => exact hrecover error

end Makes

/-! ## Calls of another kind -/

def mapCall {Call' : Type → Type v} (translate : ∀ β, Call β → Call' β) :
    Program Call ε α → Program Call' ε α
  | .done outcome => .done outcome
  | .call request rest =>
      .call (translate _ request) fun answer => (rest answer).mapCall translate

theorem mapCall_bind {Call' : Type → Type v} (translate : ∀ β, Call β → Call' β)
    (program : Program Call ε α) (next : α → Program Call ε β) :
    (program >>= next).mapCall translate =
      program.mapCall translate >>= fun value => (next value).mapCall translate := by
  change (program.bind next).mapCall translate =
    (program.mapCall translate).bind fun value => (next value).mapCall translate
  induction program with
  | done outcome => cases outcome <;> rfl
  | call request rest ih => simp only [bind, mapCall, ih]

theorem Every.mapCall {Call' : Type → Type v} {translate : ∀ β, Call β → Call' β}
    {Good : ∀ ⦃β : Type⦄, Call β → Prop} {Good' : ∀ ⦃β : Type⦄, Call' β → Prop}
    {post : Except ε α → Prop}
    (hcall : ∀ ⦃β : Type⦄ (request : Call β), Good request → Good' (translate β request))
    {program : Program Call ε α} (hevery : program.Every Good post) :
    (program.mapCall translate).Every Good' post := by
  induction program with
  | done outcome => exact hevery
  | call request rest ih =>
      exact ⟨hcall request hevery.1, fun answer => ih answer (hevery.2 answer)⟩

/-! ## Two handlers -/

def SameOutcome : Except ε α → Except ε α → Prop
  | .ok left, .ok right => left = right
  | .error _, .error _ => True
  | _, _ => False

@[simp] theorem sameOutcome_ok (left right : α) :
    SameOutcome (.ok left : Except ε α) (.ok right) ↔ left = right :=
  Iff.rfl

@[simp] theorem sameOutcome_error (left right : ε) :
    SameOutcome (.error left : Except ε α) (.error right) ↔ True :=
  Iff.rfl

@[simp] theorem not_sameOutcome_ok_error (value : α) (error : ε) :
    ¬ SameOutcome (.ok value) (.error error) :=
  id

@[simp] theorem not_sameOutcome_error_ok (value : α) (error : ε) :
    ¬ SameOutcome (.error error) (.ok value) :=
  id

theorem SameOutcome.refl (outcome : Except ε α) : SameOutcome outcome outcome := by
  cases outcome <;> simp

theorem SameOutcome.eq_ok {left right : Except ε α} {value : α}
    (hsame : SameOutcome left right) (hleft : left = .ok value) :
    right = .ok value := by
  subst hleft
  cases right with
  | ok other => exact congrArg Except.ok ((sameOutcome_ok _ _).mp hsame).symm
  | error error => exact absurd hsame (not_sameOutcome_ok_error _ _)

/-- Two programs which make the same calls and settle alike, as long as their
calls are answered alike. -/
inductive Alike : Program Call ε α → Program Call ε α → Prop
  | done {left right : Except ε α} :
      SameOutcome left right → Alike (.done left) (.done right)
  | call {β : Type} (request : Call β) {left right : Except ε β → Program Call ε α} :
      (∀ first second, SameOutcome first second → Alike (left first) (right second)) →
        Alike (.call request left) (.call request right)

theorem Alike.pure (value : α) :
    Alike (pure value : Program Call ε α) (pure value) :=
  .done rfl

theorem Alike.throw (left right : ε) :
    Alike (throw left : Program Call ε α) (throw right) :=
  .done trivial

theorem Alike.ofExcept (outcome : Except ε α) :
    Alike (ofExcept outcome : Program Call ε α) (ofExcept outcome) :=
  .done (SameOutcome.refl outcome)

theorem Alike.await (request : Call α) :
    Alike (await request : Program Call ε α) (await request) :=
  .call request fun _ _ hsame => .done hsame

variable {left right : Program Call ε α}

theorem Alike.bind {next next' : α → Program Call ε β} (hfirst : Alike left right)
    (hnext : ∀ value, Alike (next value) (next' value)) :
    Alike (left >>= next) (right >>= next') := by
  change Alike (left.bind next) (right.bind next')
  induction hfirst with
  | @done first second hsame =>
      cases first with
      | ok value =>
          cases hsame.eq_ok rfl
          exact hnext value
      | error error =>
          cases second with
          | ok value => exact absurd hsame (not_sameOutcome_error_ok _ _)
          | error other => exact .done trivial
  | call request _ ih => exact .call request ih

theorem Alike.tryCatch {recover recover' : ε → Program Call ε α} (hfirst : Alike left right)
    (hrecover : ∀ error error', Alike (recover error) (recover' error')) :
    Alike (tryCatch left recover) (tryCatch right recover') := by
  change Alike (left.catchError recover) (right.catchError recover')
  induction hfirst with
  | @done first second hsame =>
      cases first with
      | ok value =>
          cases hsame.eq_ok rfl
          exact .done rfl
      | error error =>
          cases second with
          | ok value => exact absurd hsame (not_sameOutcome_error_ok _ _)
          | error other => exact hrecover error other
  | call request _ ih => exact .call request ih

/-- Handlers which answer every call of a run alike, and leave the same state,
do so for the whole program. -/
theorem Alike.run {first second : Handler Call ε σ}
    (hcall : ∀ ⦃β : Type⦄ (request : Call β) state, Good request state →
      SameOutcome (first request state).1 (second request state).1 ∧
        (first request state).2 = (second request state).2) (halike : Alike left right)
    (hgood : left.Along first Good state) :
    SameOutcome (left.run first state).1 (right.run second state).1 ∧
      (left.run first state).2 = (right.run second state).2 := by
  induction halike generalizing state with
  | done hsame => exact ⟨hsame, rfl⟩
  | call request hnext ih =>
      obtain ⟨hanswer, hstate⟩ := hcall request state hgood.1
      simp only [Program.run, ← hstate]
      exact ih _ _ hanswer hgood.2

end Program
end Async
