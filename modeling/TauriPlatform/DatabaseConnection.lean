import TauriPlatform.AsyncProgram
import TauriPlatform.JsonValue
import TauriPlatform.PlatformError

/-!
# Database connections

A prepared statement is its text, its bound parameters, the columns of its
result and what it does to a database.  Services are programs over the calls of a
connection or of a transaction client; `memoryConnection` answers these calls as
`MemoryDatabaseConnection` does.
-/

namespace TauriPlatform

open Async

/-! ## Statements -/

inductive SqlValue where
  | null
  | integer (value : Int)
  | real (value : JsonNumber)
  | text (value : String)
  deriving DecidableEq

def SqlValue.ofText? : Option String → SqlValue
  | none => .null
  | some value => .text value

def JsonValue.ofString? : Option String → JsonValue
  | none => .null
  | some value => .string value

structure Column (Row : Type) where
  name : String
  cell : Row → SqlValue

/-- What is left after a statement: the database, the rows it returned and
`sqlite3_changes`. -/
structure StatementResult (Db Row : Type) where
  database : Db
  rows : List Row
  rowsAffected : Nat

inductive StatementEffect (Db Row : Type) where
  | read (rows : Db → List Row)
  | write (run : Db → Except String (StatementResult Db Row))

structure Statement (Db Row : Type) where
  sql : String
  params : List JsonValue
  columns : List (Column Row)
  effect : StatementEffect Db Row

variable {Db Row : Type}

def Statement.readonly (statement : Statement Db Row) : Bool :=
  match statement.effect with
  | .read _ => true
  | .write _ => false

/-- Step a statement to its end; the failure is the text of the SQLite error. -/
def Statement.run (statement : Statement Db Row) (database : Db) :
    Except String (StatementResult Db Row) :=
  match statement.effect with
  | .read rows => .ok { database := database, rows := rows database, rowsAffected := 0 }
  | .write run => run database

theorem Statement.run_database_of_readonly {statement : Statement Db Row}
    (hreadonly : statement.readonly) {database : Db} {result : StatementResult Db Row}
    (hrun : statement.run database = .ok result) :
    result.database = database := by
  unfold Statement.readonly at hreadonly
  unfold Statement.run at hrun
  cases heffect : statement.effect with
  | read rows =>
      rw [heffect] at hrun
      cases hrun
      rfl
  | write run =>
      rw [heffect] at hreadonly
      cases hreadonly

/-! ## Calls -/

/-- The calls of a `TransactionClient`.  A driver which defers execution does not
know the number of affected rows. -/
inductive TransactionCall (Db : Type) : Type → Type 1 where
  | query {Row : Type} (statement : Statement Db Row) : TransactionCall Db (List Row)
  | execute {Row : Type} (statement : Statement Db Row) :
      TransactionCall Db (Option Nat)

/-- The calls of a `DatabaseConnection`. -/
inductive DbCall (Db : Type) : Type → Type 1 where
  | query {Row : Type} (statement : Statement Db Row) : DbCall Db (List Row)
  | execute {Row : Type} (statement : Statement Db Row) : DbCall Db Nat
  | transaction {α : Type} (body : Program (TransactionCall Db) Thrown α) : DbCall Db α

/-- What connections and transaction clients have in common: the `executor` of a
service, `tx ?? this.db`. -/
structure Executor (Db : Type) (Call : Type → Type 1) where
  query : ∀ {Row : Type}, Statement Db Row → Program Call Thrown (List Row)
  execute : ∀ {Row : Type}, Statement Db Row → Program Call Thrown Unit
  /-- `execute`, with its `rowsAffected`. -/
  executeCounting : ∀ {Row : Type}, Statement Db Row → Program Call Thrown (Option Nat)

def connectionExecutor (Db : Type) : Executor Db (DbCall Db) where
  query statement := Program.await (.query statement)
  execute statement := do
    let _ ← Program.await (.execute statement)
    pure ()
  executeCounting statement := do
    let rowsAffected ← Program.await (.execute statement)
    pure (some rowsAffected)

section Along

variable {σ : Type} {handler : Program.Handler (DbCall Db) Thrown σ} {state : σ}
  {Good : ∀ ⦃β : Type⦄, DbCall Db β → σ → Prop}

@[simp] theorem along_query (statement : Statement Db Row) :
    ((connectionExecutor Db).query statement).Along handler Good state ↔
      Good (.query statement) state :=
  Program.along_await _

@[simp] theorem along_execute (statement : Statement Db Row) :
    ((connectionExecutor Db).execute statement).Along handler Good state ↔
      Good (.execute statement) state := by
  simp only [connectionExecutor, Program.along_bind, Program.along_await,
    Program.along_pure, implies_true, and_true]

end Along

def transactionExecutor (Db : Type) : Executor Db (TransactionCall Db) where
  query statement := Program.await (.query statement)
  execute statement := do
    let _ ← Program.await (.execute statement)
    pure ()
  executeCounting statement := Program.await (.execute statement)

/-! ## The in-memory connection -/

def sqliteError (message : String) : Thrown :=
  .builtin "Error" message

/-- The client of `MemoryDatabaseConnection.transaction`: statements run at once. -/
def memoryTransaction : Program.Handler (TransactionCall Db) Thrown Db
  | _, .query statement, database =>
      match statement.run database with
      | .ok result => (.ok result.rows, result.database)
      | .error message => (.error (sqliteError message), database)
  | _, .execute statement, database =>
      match statement.run database with
      | .ok result => (.ok (some result.rowsAffected), result.database)
      | .error message => (.error (sqliteError message), database)

/-- `MemoryDatabaseConnection`: `query` executes any statement, and a transaction
is rolled back when its callback rejects. -/
def memoryConnection : Program.Handler (DbCall Db) Thrown Db
  | _, .query statement, database =>
      match statement.run database with
      | .ok result => (.ok result.rows, result.database)
      | .error message =>
          (.error (databaseError s!"Database query failed: {message}"
            "Failed to retrieve data" "db_query_err" (some s!"SQL: {statement.sql}")),
            database)
  | _, .execute statement, database =>
      match statement.run database with
      | .ok result => (.ok result.rowsAffected, result.database)
      | .error message =>
          (.error (databaseError s!"Database execute failed: {message}"
            "Failed to execute database operation" "db_exec_err"
            (some s!"SQL: {statement.sql}")), database)
  | _, .transaction body, database =>
      match body.run memoryTransaction database with
      | (.ok value, later) => (.ok value, later)
      | (.error error, _) => (.error error, database)

section MemoryRuns

variable {statement : Statement Db Row} {database : Db}
  {result : StatementResult Db Row}

@[simp] theorem memory_query_run (hrun : statement.run database = .ok result) :
    ((connectionExecutor Db).query statement).run memoryConnection database =
      (.ok result.rows, result.database) := by
  simp [connectionExecutor, memoryConnection, hrun]

@[simp] theorem memory_execute_run (hrun : statement.run database = .ok result) :
    ((connectionExecutor Db).execute statement).run memoryConnection database =
      (.ok (), result.database) := by
  simp only [connectionExecutor, Program.run_bind, Program.run_await, memoryConnection,
    hrun, Program.run_pure]

theorem memory_execute_run_error {message : String}
    (hrun : statement.run database = .error message) :
    ∃ error, ((connectionExecutor Db).execute statement).run memoryConnection database =
      (.error error, database) := by
  simp only [connectionExecutor, Program.run_bind, Program.run_await, memoryConnection,
    hrun]
  exact ⟨_, rfl⟩

theorem memory_query_relates {R : Db → Db → Prop} (hrefl : R database database)
    (hstatement : ∀ result, statement.run database = .ok result → R database result.database) :
    R database (memoryConnection (.query statement) database).2 := by
  cases hrun : statement.run database with
  | ok result =>
      simp only [memoryConnection, hrun]
      exact hstatement result hrun
  | error message =>
      simp only [memoryConnection, hrun]
      exact hrefl

theorem memory_execute_relates {R : Db → Db → Prop} (hrefl : R database database)
    (hstatement : ∀ result, statement.run database = .ok result → R database result.database) :
    R database (memoryConnection (.execute statement) database).2 := by
  cases hrun : statement.run database with
  | ok result =>
      simp only [memoryConnection, hrun]
      exact hstatement result hrun
  | error message =>
      simp only [memoryConnection, hrun]
      exact hrefl

theorem transaction_query_run (hrun : statement.run database = .ok result) :
    ((transactionExecutor Db).query statement).run memoryTransaction database =
      (.ok result.rows, result.database) := by
  simp only [transactionExecutor, Program.run_await, memoryTransaction, hrun]

theorem transaction_execute_run (hrun : statement.run database = .ok result) :
    ((transactionExecutor Db).execute statement).run memoryTransaction database =
      (.ok (), result.database) := by
  simp only [transactionExecutor, Program.run_bind, Program.run_await, memoryTransaction,
    hrun, Program.run_pure]

variable {later : Db}

theorem transaction_query_eq_ok {rows : List Row} (hreadonly : statement.readonly)
    (hok : ((transactionExecutor Db).query statement).run memoryTransaction database =
      (.ok rows, later)) :
    later = database ∧ ∃ result, statement.run database = .ok result ∧ rows = result.rows := by
  simp only [transactionExecutor, Program.run_await, memoryTransaction] at hok
  cases hrun : statement.run database with
  | ok result =>
      simp only [hrun, Prod.mk.injEq, Except.ok.injEq] at hok
      rw [← hok.2, Statement.run_database_of_readonly hreadonly hrun]
      exact ⟨rfl, result, rfl, hok.1.symm⟩
  | error message =>
      simp only [hrun, Prod.mk.injEq, reduceCtorEq, false_and] at hok

theorem transaction_execute_eq_ok
    (hok : ((transactionExecutor Db).execute statement).run memoryTransaction database =
      (.ok (), later)) :
    ∃ result, statement.run database = .ok result ∧ later = result.database := by
  simp only [transactionExecutor, Program.run_bind, Program.run_await,
    memoryTransaction] at hok
  cases hrun : statement.run database with
  | ok result =>
      simp only [hrun, Program.run_pure, Prod.mk.injEq, true_and] at hok
      exact ⟨result, rfl, hok.symm⟩
  | error message =>
      simp only [hrun, Prod.mk.injEq, reduceCtorEq, false_and] at hok

theorem memory_transaction_run_ok {α : Type} {body : Program (TransactionCall Db) Thrown α}
    {value : α} (hbody : body.run memoryTransaction database = (.ok value, later)) :
    (Program.await (.transaction body) : Program (DbCall Db) Thrown α).run memoryConnection
      database = (.ok value, later) := by
  simp only [Program.run_await, memoryConnection, hbody]

theorem memory_transaction_run_error {α : Type} {body : Program (TransactionCall Db) Thrown α}
    {error : Thrown} (hbody : body.run memoryTransaction database = (.error error, later)) :
    (Program.await (.transaction body) : Program (DbCall Db) Thrown α).run memoryConnection
      database = (.error error, database) := by
  simp only [Program.run_await, memoryConnection, hbody]

theorem memory_transaction_run_eq_ok {α : Type} {body : Program (TransactionCall Db) Thrown α}
    {value : α} (hok : (Program.await (.transaction body) : Program (DbCall Db) Thrown α).run
      memoryConnection database = (.ok value, later)) :
    body.run memoryTransaction database = (.ok value, later) := by
  match hbody : body.run memoryTransaction database with
  | (.ok value', later') => rw [← hok, memory_transaction_run_ok hbody]
  | (.error error, later') =>
      rw [memory_transaction_run_error hbody] at hok
      cases congrArg Prod.fst hok

end MemoryRuns
end TauriPlatform
