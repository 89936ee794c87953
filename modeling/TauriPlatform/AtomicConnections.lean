import TauriPlatform.AsyncRelations
import TauriPlatform.DurableDatabase

/-!
# Connections which fail

Any call of a connection may fail, and so may the commit of a transaction.  Both connections
then leave the database as it was: a statement runs or fails, and a transaction leaves what its
callback has written or nothing.
-/

namespace TauriPlatform

open Async DurableDatabase

variable {Db σ : Type}

/-! ## Atomic connections -/

/-- A call within a transaction fails without an effect, or it runs its statement; the number of
affected rows need not be known. -/
def AnswersWithin : Answering (TransactionCall Db) Thrown Db
  | _, .query statement, database, answer, later =>
      (∃ error, answer = .error error) ∧ later = database ∨
        ∃ result, statement.run database = .ok result ∧ answer = .ok result.rows ∧
          later = result.database
  | _, .execute statement, database, answer, later =>
      (∃ error, answer = .error error) ∧ later = database ∨
        ∃ result count, statement.run database = .ok result ∧ answer = .ok count ∧
          later = result.database

structure Atomic (connection : Program.Handler (DbCall Db) Thrown σ) (view : σ → Db) : Prop where
  execute : ∀ {Row : Type} (statement : Statement Db Row) (state : σ),
    (∀ result, statement.run (view state) = .ok result → result.rows = []) →
    (∃ error later, connection (.execute statement) state = (.error error, later) ∧
        view later = view state) ∨
      ∃ count later result, connection (.execute statement) state = (.ok count, later) ∧
        statement.run (view state) = .ok result ∧ view later = result.database
  transaction : ∀ {α : Type} (body : Program (TransactionCall Db) Thrown α) (state : σ),
    (∃ error later, connection (.transaction body) state = (.error error, later) ∧
        view later = view state) ∨
      ∃ value later, connection (.transaction body) state = (.ok value, later) ∧
        body.MayRun AnswersWithin (view state) (.ok value) (view later)

/-! ## Failures -/

structure FailingDatabase (Db : Type) where
  database : Db
  faults : Nat → Option Thrown

def FailingDatabase.next (state : FailingDatabase Db) (database : Db) : FailingDatabase Db where
  database := database
  faults call := state.faults (call + 1)

def failing (connection : Program.Handler (DbCall Db) Thrown Db) :
    Program.Handler (DbCall Db) Thrown (FailingDatabase Db)
  | _, request, state =>
      match state.faults 0 with
      | some thrown => (.error thrown, state.next state.database)
      | none =>
          ((connection request state.database).1, state.next (connection request state.database).2)

/-- `memoryTransaction`, each call of which may fail. -/
def failingTransaction : Program.Handler (TransactionCall Db) Thrown (FailingDatabase Db)
  | _, request, state =>
      match state.faults 0 with
      | some thrown => (.error thrown, state.next state.database)
      | none =>
          ((memoryTransaction request state.database).1,
            state.next (memoryTransaction request state.database).2)

/-- `MemoryDatabaseConnection`, where the calls of a callback may fail, and so may the first and
the last statement of a transaction. -/
def failingMemory : Program.Handler (DbCall Db) Thrown (FailingDatabase Db)
  | _, .transaction body, state =>
      match state.faults 0 with
      | some thrown => (.error thrown, state.next state.database)
      | none =>
          match body.run failingTransaction (state.next state.database) with
          | (.error error, later) => (.error error, { later with database := state.database })
          | (.ok value, later) =>
              match later.faults 0 with
              | some thrown => (.error thrown, later.next state.database)
              | none => (.ok value, later.next later.database)
  | _, request, state => failing memoryConnection request state

/-- `NativeDatabaseConnection`, which hands over a transaction as one call. -/
def failingNative : Program.Handler (DbCall Db) Thrown (FailingDatabase Db) :=
  failing nativeConnection

inductive Driver where
  | memory
  | native

def Driver.connection : Driver → Program.Handler (DbCall Db) Thrown (FailingDatabase Db)
  | memory => failingMemory
  | native => failingNative

/-! ## The in-memory connection -/

theorem memoryTransaction_answers ⦃β : Type⦄ (request : TransactionCall Db β) (database : Db) :
    AnswersWithin request database (memoryTransaction request database).1
      (memoryTransaction request database).2 := by
  cases request with
  | query statement =>
      cases hrun : statement.run database with
      | ok result =>
          simp only [memoryTransaction, hrun]
          exact .inr ⟨result, hrun, rfl, rfl⟩
      | error message =>
          simp only [memoryTransaction, hrun]
          exact .inl ⟨⟨_, rfl⟩, rfl⟩
  | execute statement =>
      cases hrun : statement.run database with
      | ok result =>
          simp only [memoryTransaction, hrun]
          exact .inr ⟨result, _, hrun, rfl, rfl⟩
      | error message =>
          simp only [memoryTransaction, hrun]
          exact .inl ⟨⟨_, rfl⟩, rfl⟩

theorem answersWithin_error ⦃β : Type⦄ (request : TransactionCall Db β) (database : Db)
    (error : Thrown) : AnswersWithin request database (.error error) database := by
  cases request with
  | query statement => exact .inl ⟨⟨error, rfl⟩, rfl⟩
  | execute statement => exact .inl ⟨⟨error, rfl⟩, rfl⟩

theorem failingTransaction_answers ⦃β : Type⦄ (request : TransactionCall Db β)
    (state : FailingDatabase Db) :
    AnswersWithin request state.database (failingTransaction request state).1
      (failingTransaction request state).2.database := by
  cases hfault : state.faults 0 with
  | some thrown =>
      simp only [failingTransaction, hfault]
      exact answersWithin_error request state.database thrown
  | none =>
      simp only [failingTransaction, hfault]
      exact memoryTransaction_answers request state.database

section Failing

variable {connection : Program.Handler (DbCall Db) Thrown Db} {state : FailingDatabase Db}

theorem failing_of_fault {β : Type} {thrown : Thrown} (request : DbCall Db β)
    (hfault : state.faults 0 = some thrown) :
    failing connection request state = (.error thrown, state.next state.database) := by
  simp only [failing, hfault]

theorem failing_of_none {β : Type} {request : DbCall Db β} {answer : Except Thrown β} {later : Db}
    (hfault : state.faults 0 = none) (hcall : connection request state.database = (answer, later)) :
    failing connection request state = (answer, state.next later) := by
  simp only [failing, hfault, hcall]

theorem failing_execute {Row : Type} {statement : Statement Db Row}
    (hexecute : (∃ error, connection (.execute statement) state.database =
        (.error error, state.database)) ∨
      ∃ count result, connection (.execute statement) state.database =
        (.ok count, result.database) ∧ statement.run state.database = .ok result) :
    (∃ error later, failing connection (.execute statement) state = (.error error, later) ∧
        later.database = state.database) ∨
      ∃ count later result, failing connection (.execute statement) state = (.ok count, later) ∧
        statement.run state.database = .ok result ∧ later.database = result.database := by
  cases hfault : state.faults 0 with
  | some thrown => exact .inl ⟨thrown, _, failing_of_fault _ hfault, rfl⟩
  | none =>
      rcases hexecute with ⟨error, hcall⟩ | ⟨count, result, hcall, hrun⟩
      · exact .inl ⟨error, _, failing_of_none hfault hcall, rfl⟩
      · exact .inr ⟨count, _, result, failing_of_none hfault hcall, hrun, rfl⟩

end Failing

theorem atomic_memory :
    Atomic (failingMemory : Program.Handler (DbCall Db) Thrown (FailingDatabase Db))
      FailingDatabase.database where
  execute statement state _ := by
    apply failing_execute
    cases hrun : statement.run state.database with
    | ok result =>
        exact .inr ⟨result.rowsAffected, result, by simp only [memoryConnection, hrun], rfl⟩
    | error message =>
        left
        simp only [memoryConnection, hrun]
        exact ⟨_, rfl⟩
  transaction body state := by
    have hmay := Program.mayRun_of_run failingTransaction_answers body (state.next state.database)
    cases hbegin : state.faults 0 with
    | some thrown =>
        left
        simp only [failingMemory, hbegin]
        exact ⟨thrown, _, rfl, rfl⟩
    | none =>
        rcases hbody : body.run failingTransaction (state.next state.database) with
          ⟨error | value, later⟩
        · left
          simp only [failingMemory, hbegin, hbody]
          exact ⟨error, _, rfl, rfl⟩
        · rw [hbody] at hmay
          cases hcommit : later.faults 0 with
          | some thrown =>
              left
              simp only [failingMemory, hbegin, hbody, hcommit]
              exact ⟨thrown, _, rfl, rfl⟩
          | none =>
              right
              simp only [failingMemory, hbegin, hbody, hcommit]
              exact ⟨value, _, rfl, hmay⟩

/-! ## The native connection -/

theorem collected_mayRun {α : Type} {body : Program (TransactionCall Db) Thrown α} {value : α}
    {before collected : List (CollectedOperation Db)}
    (hbody : body.run nativeTransaction before = (.ok value, collected)) :
    ∃ operations, collected = before ++ operations ∧ ∀ database later : Db,
      operations.foldlM (fun database operation => operation.run database) database = .ok later →
        body.MayRun AnswersWithin database (.ok value) later := by
  induction body generalizing before with
  | done outcome =>
      cases hbody
      refine ⟨[], (List.append_nil _).symm, fun database later hlater => ?_⟩
      cases hlater
      exact ⟨rfl, rfl⟩
  | call request rest ih =>
      cases request with
      | query statement =>
          obtain ⟨operations, hcollected, hmay⟩ := ih _ hbody
          refine ⟨operations, hcollected, fun database later hlater => ?_⟩
          exact ⟨_, database, .inl ⟨⟨_, rfl⟩, rfl⟩, hmay database later hlater⟩
      | execute statement =>
          obtain ⟨operations, hcollected, hmay⟩ := ih _ hbody
          refine ⟨collect statement :: operations,
            hcollected.trans (List.append_assoc before [collect statement] operations),
            fun database later hlater => ?_⟩
          obtain ⟨middle, hfirst, hlater⟩ := bind_eq_ok hlater
          obtain ⟨result, hrun, hresult⟩ := bind_eq_ok hfirst
          refine ⟨_, middle, .inr ⟨result, none, hrun, rfl, ?_⟩, hmay middle later hlater⟩
          cases hrows : result.rows with
          | nil =>
              rw [hrows] at hresult
              exact (Except.ok.inj hresult).symm
          | cons row rows =>
              rw [hrows] at hresult
              cases hresult

theorem native_transaction_cases {α : Type} (body : Program (TransactionCall Db) Thrown α)
    (database : Db) :
    (∃ error, nativeConnection (.transaction body) database = (.error error, database)) ∨
      ∃ value later, nativeConnection (.transaction body) database = (.ok value, later) ∧
        body.MayRun AnswersWithin database (.ok value) later := by
  match hbody : body.run nativeTransaction [] with
  | (.error error, later) =>
      left
      simp only [nativeConnection, hbody]
      split_ifs
      · exact ⟨_, rfl⟩
      · exact ⟨_, rfl⟩
  | (.ok value, operations) =>
      obtain ⟨collected, hcollected, hmay⟩ := collected_mayRun hbody
      cases hrun : transactionJson operations database with
      | error message =>
          left
          simp only [nativeConnection, hbody, hrun]
          exact ⟨_, rfl⟩
      | ok later =>
          right
          simp only [nativeConnection, hbody, hrun]
          refine ⟨value, later, rfl, hmay database later ?_⟩
          rw [List.nil_append] at hcollected
          rw [← hcollected]
          unfold transactionJson at hrun
          split_ifs at hrun
          obtain ⟨_, -, hfold⟩ := bind_eq_ok hrun
          exact hfold

theorem native_execute_cases {Row : Type} {statement : Statement Db Row} {database : Db}
    (hnone : ∀ result, statement.run database = .ok result → result.rows = []) :
    (∃ error, nativeConnection (.execute statement) database = (.error error, database)) ∨
      ∃ count result, nativeConnection (.execute statement) database =
        (.ok count, result.database) ∧ statement.run database = .ok result := by
  cases hvalidated : (do
      validateSafeSql statement.sql
      validateSqlRequest statement.sql statement.params) with
  | error message =>
      left
      simp only [nativeConnection, executeJson, hvalidated]
      exact ⟨_, rfl⟩
  | ok requestBytes =>
      cases hrun : statement.run database with
      | error message =>
          left
          simp only [nativeConnection, executeJson, hvalidated, hrun]
          exact ⟨_, rfl⟩
      | ok result =>
          right
          simp only [nativeConnection, executeJson, hvalidated, hrun, hnone result hrun, if_true]
          exact ⟨_, result, rfl, rfl⟩

theorem atomic_native :
    Atomic (failingNative : Program.Handler (DbCall Db) Thrown (FailingDatabase Db))
      FailingDatabase.database where
  execute statement state hnone := by
    exact failing_execute (native_execute_cases hnone)
  transaction body state := by
    cases hfault : state.faults 0 with
    | some thrown => exact .inl ⟨thrown, _, failing_of_fault _ hfault, rfl⟩
    | none =>
        rcases native_transaction_cases body state.database with ⟨error, hcall⟩ |
          ⟨value, later, hcall, hmay⟩
        · exact .inl ⟨error, _, failing_of_none hfault hcall, rfl⟩
        · exact .inr ⟨value, _, failing_of_none hfault hcall, hmay⟩

theorem Driver.atomic (driver : Driver) :
    Atomic (@Driver.connection Db driver) FailingDatabase.database := by
  cases driver with
  | memory => exact atomic_memory
  | native => exact atomic_native

end TauriPlatform
