import TauriPlatform.DatabaseConnection

/-!
# Parts of a database

A service which knows only some of the tables runs its statements within a database which has
more of them.  A read is answered from the part alone and leaves the state as it is, whichever
executor makes it.
-/

namespace Async.Program

universe u

variable {Call : Type → Type u} {ε α β σ τ : Type} {handler : Handler Call ε σ} {view : σ → τ}

/-- A run leaves what `view` shows of the state. -/
def Keeps (handler : Handler Call ε σ) (view : σ → τ) (program : Program Call ε α) : Prop :=
  ∀ state, view (program.run handler state).2 = view state

theorem keeps_pure (value : α) :
    (Pure.pure value : Program Call ε α).Keeps handler view :=
  fun _ => rfl

theorem keeps_throw (error : ε) :
    (throw error : Program Call ε α).Keeps handler view :=
  fun _ => rfl

variable {program : Program Call ε α}

theorem Keeps.bind {next : α → Program Call ε β} (hprogram : program.Keeps handler view)
    (hnext : ∀ value, (next value).Keeps handler view) :
    (program >>= next).Keeps handler view := by
  intro state
  have hfirst := hprogram state
  rw [run_bind]
  match hrun : program.run handler state with
  | (.ok value, later) =>
      rw [hrun] at hfirst
      exact (hnext value later).trans hfirst
  | (.error error, later) =>
      rw [hrun] at hfirst
      exact hfirst

theorem Keeps.of_id (hprogram : program.Keeps handler id) :
    program.Keeps handler view :=
  fun state => congrArg view (hprogram state)

theorem Keeps.run_eq (hprogram : program.Keeps handler id) {state : σ} {outcome : Except ε α}
    (hrun : (program.run handler state).1 = outcome) :
    program.run handler state = (outcome, state) :=
  Prod.ext hrun (hprogram state)

end Async.Program

namespace TauriPlatform

open Async

/-! ## Parts -/

structure Part (Db Inner : Type) where
  get : Db → Inner
  set : Inner → Db → Db

variable {Db Inner Row : Type} {part : Part Db Inner}

def StatementEffect.within (part : Part Db Inner) :
    StatementEffect Inner Row → StatementEffect Db Row
  | .read rows => .read fun database => rows (part.get database)
  | .write run => .write fun database =>
      (run (part.get database)).map fun result =>
        { database := part.set result.database database
          rows := result.rows
          rowsAffected := result.rowsAffected }

def Statement.within (part : Part Db Inner) (statement : Statement Inner Row) :
    Statement Db Row where
  sql := statement.sql
  params := statement.params
  columns := statement.columns
  effect := statement.effect.within part

@[simp] theorem Statement.readonly_within (statement : Statement Inner Row) :
    (statement.within part).readonly = statement.readonly := by
  cases statement with
  | mk sql params columns effect => cases effect <;> rfl

def Executor.within {Call : Type → Type 1} (part : Part Db Inner) (executor : Executor Db Call) :
    Executor Inner Call where
  query statement := executor.query (statement.within part)
  execute statement := executor.execute (statement.within part)
  executeCounting statement := executor.executeCounting (statement.within part)

/-! ## Reads -/

variable {Call : Type → Type 1} {σ : Type} {handler : Program.Handler Call Thrown σ}
  {executor : Executor Db Call} {state : σ} {database : Db}

structure Executor.AnswersFrom (executor : Executor Db Call)
    (handler : Program.Handler Call Thrown σ) (state : σ) (database : Db) : Prop where
  query : ∀ {Row : Type} {statement : Statement Db Row} {result : StatementResult Db Row},
    statement.readonly = true → statement.run database = .ok result →
      (executor.query statement).run handler state = (.ok result.rows, state)

structure Executor.ReadsOnly (executor : Executor Db Call)
    (handler : Program.Handler Call Thrown σ) : Prop where
  query : ∀ {Row : Type} {statement : Statement Db Row}, statement.readonly = true →
    (executor.query statement).Keeps handler id

theorem answersFrom_connection (database : Db) :
    (connectionExecutor Db).AnswersFrom memoryConnection database database where
  query hreadonly hrun := by
    rw [memory_query_run hrun, Statement.run_database_of_readonly hreadonly hrun]

theorem answersFrom_transaction (database : Db) :
    (transactionExecutor Db).AnswersFrom memoryTransaction database database where
  query hreadonly hrun := by
    rw [transaction_query_run hrun, Statement.run_database_of_readonly hreadonly hrun]

theorem Executor.AnswersFrom.read (hanswers : executor.AnswersFrom handler state database)
    (sql : String) (params : List JsonValue) (columns : List (Column Row))
    (rows : Db → List Row) :
    (executor.query ⟨sql, params, columns, .read rows⟩).run handler state =
      (.ok (rows database), state) := by
  have hrun : (⟨sql, params, columns, .read rows⟩ : Statement Db Row).run database =
      .ok ⟨database, rows database, 0⟩ := rfl
  exact hanswers.query rfl hrun

theorem readsOnly_of_answers
    (hanswers : ∀ state, ∃ database, executor.AnswersFrom handler state database) :
    executor.ReadsOnly handler where
  query {_ statement} hreadonly state := by
    obtain ⟨database, hanswers⟩ := hanswers state
    cases statement with
    | mk sql params columns effect =>
        cases effect with
        | read rows => exact congrArg Prod.snd (hanswers.read sql params columns rows)
        | write run => cases hreadonly

theorem Executor.AnswersFrom.within (hanswers : executor.AnswersFrom handler state database)
    (part : Part Db Inner) :
    (executor.within part).AnswersFrom handler state (part.get database) where
  query {_ statement _} hreadonly hrun := by
    cases statement with
    | mk sql params columns effect =>
        cases effect with
        | read rows =>
            cases hrun
            exact hanswers.read sql params columns fun database => rows (part.get database)
        | write run => cases hreadonly

theorem Executor.ReadsOnly.within (hreads : executor.ReadsOnly handler) (part : Part Db Inner) :
    (executor.within part).ReadsOnly handler where
  query {_ statement} hreadonly :=
    hreads.query ((Statement.readonly_within statement).trans hreadonly)

/-! ## Writes -/

theorem transaction_execute_relates {R : Db → Db → Prop} {statement : Statement Db Row}
    (hrefl : R database database)
    (hstatement : ∀ result, statement.run database = .ok result → R database result.database) :
    R database
      (((transactionExecutor Db).execute statement).run memoryTransaction database).2 := by
  simp only [transactionExecutor, Program.run_bind, Program.run_await, memoryTransaction]
  cases hrun : statement.run database with
  | ok result => exact hstatement result hrun
  | error message => exact hrefl

theorem Statement.run_within_of_write {statement : Statement Inner Row}
    {inner : StatementResult Inner Row} (hwrites : statement.readonly = false)
    (hrun : statement.run (part.get database) = .ok inner) :
    (statement.within part).run database =
      .ok ⟨part.set inner.database database, inner.rows, inner.rowsAffected⟩ := by
  cases statement with
  | mk sql params columns effect =>
      cases effect with
      | read rows => cases hwrites
      | write run => exact congrArg (Except.map _) hrun

theorem Statement.run_within_eq_ok {statement : Statement Inner Row}
    {result : StatementResult Db Row}
    (hrun : (statement.within part).run database = .ok result) :
    ∃ inner, statement.run (part.get database) = .ok inner ∧
      (result.database = part.set inner.database database ∨ result.database = database) := by
  cases statement with
  | mk sql params columns effect =>
      cases effect with
      | read rows =>
          cases hrun
          exact ⟨_, rfl, .inr rfl⟩
      | write run =>
          simp only [Statement.within, StatementEffect.within, Statement.run] at hrun ⊢
          cases hinner : run (part.get database) with
          | error message =>
              rw [hinner] at hrun
              cases hrun
          | ok inner =>
              rw [hinner] at hrun
              cases hrun
              exact ⟨inner, rfl, .inl rfl⟩

end TauriPlatform
