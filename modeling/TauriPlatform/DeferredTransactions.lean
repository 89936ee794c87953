import TauriPlatform.NativeAgreement

/-!
# Deferred transactions

A transaction callback calls the client it is given and, inside a savepoint, the
client of that savepoint.  The in-memory client executes a statement at once; the
native client collects it, and the batch is executed when the callback has
resolved.  The two agree as long as the callback lets the error of a refused
statement end the transaction, does not look at the number of affected rows, and
calls the client of the innermost savepoint.
-/

namespace TauriPlatform

open Async DurableDatabase

/-- A transaction callback, by the calls it makes and what it does with each
outcome.  Clients are numbered in the order in which they are made. -/
inductive ClientProgram (Db : Type) : Type → Type 1 where
  | done {α : Type} (outcome : Except Thrown α) : ClientProgram Db α
  | query {Row α : Type} (client : Nat) (statement : Statement Db Row)
      (next : Except Thrown (List Row) → ClientProgram Db α) : ClientProgram Db α
  | execute {Row α : Type} (client : Nat) (statement : Statement Db Row)
      (next : Except Thrown (Option Nat) → ClientProgram Db α) : ClientProgram Db α
  | savepoint {β α : Type} (client : Nat) (body : Nat → ClientProgram Db β)
      (next : Except Thrown β → ClientProgram Db α) : ClientProgram Db α

variable {Db : Type}

/-- The error of `assertActive`. -/
def closedClient (correlationId : String) : Thrown :=
  databaseError "Transaction client is no longer active"
    "The database transaction has already completed" correlationId none

/-! ## The in-memory transaction -/

/-- The database inside a transaction, and the number of clients made so far. -/
structure MemoryClients (Db : Type) where
  database : Db
  created : Nat

/-- `ROLLBACK TO SAVEPOINT`. -/
def MemoryClients.rollback (later : MemoryClients Db) (database : Db) :
    MemoryClients Db :=
  { later with database := database }

namespace ClientProgram

/-- The clients of `MemoryDatabaseConnection`; `active` holds those which are not
closed, innermost first. -/
def runMemory {α : Type} : ClientProgram Db α → List Nat → MemoryClients Db →
    Except Thrown α × MemoryClients Db
  | .done outcome, _, state => (outcome, state)
  | .query client statement next, active, state =>
      if client ∈ active then
        match statement.run state.database with
        | .ok result =>
            (next (.ok result.rows)).runMemory active
              { state with database := result.database }
        | .error message =>
            (next (.error (sqliteError message))).runMemory active state
      else (next (.error (closedClient "db_tx_closed"))).runMemory active state
  | .execute client statement next, active, state =>
      if client ∈ active then
        match statement.run state.database with
        | .ok result =>
            (next (.ok (some result.rowsAffected))).runMemory active
              { state with database := result.database }
        | .error message =>
            (next (.error (sqliteError message))).runMemory active state
      else (next (.error (closedClient "db_tx_closed"))).runMemory active state
  | .savepoint client body next, active, state =>
      if client ∈ active then
        match (body state.created).runMemory (state.created :: active)
            { state with created := state.created + 1 } with
        | (.ok value, later) => (next (.ok value)).runMemory active later
        | (.error error, later) =>
            (next (.error error)).runMemory active (later.rollback state.database)
      else (next (.error (closedClient "db_tx_closed"))).runMemory active state

end ClientProgram

/-- `MemoryDatabaseConnection.transaction`: what a callback leaves is committed, or
rolled back when it rejects. -/
def MemoryDatabaseConnection.transaction {α : Type}
    (callback : Nat → ClientProgram Db α) (database : Db) : Except Thrown α × Db :=
  match (callback 0).runMemory [0] { database := database, created := 1 } with
  | (.ok value, later) => (.ok value, later.database)
  | (.error error, _) => (.error error, database)

/-! ## The native transaction -/

/-- The operations which each client has collected, and the number of clients made
so far. -/
structure NativeClients (Db : Type) where
  operations : Nat → List (CollectedOperation Db)
  created : Nat

namespace NativeClients

def push (state : NativeClients Db) (client : Nat)
    (pushed : List (CollectedOperation Db)) : NativeClients Db :=
  { state with
    operations :=
      Function.update state.operations client (state.operations client ++ pushed) }

/-- `createTransactionClient([])`. -/
def createClient (state : NativeClients Db) : NativeClients Db where
  operations := Function.update state.operations state.created []
  created := state.created + 1

end NativeClients

namespace ClientProgram

/-- The clients of `NativeDatabaseConnection`: a query is refused, a statement is
collected, and a savepoint hands its statements over when its callback resolves. -/
def runNative {α : Type} : ClientProgram Db α → List Nat → NativeClients Db →
    Except Thrown α × NativeClients Db
  | .done outcome, _, state => (outcome, state)
  | .query client statement next, active, state =>
      if client ∈ active then
        (next (nativeTransaction (.query statement) (state.operations client)).1).runNative
          active state
      else (next (.error (closedClient "db-tx-closed"))).runNative active state
  | .execute client statement next, active, state =>
      if client ∈ active then
        (next (.ok none)).runNative active (state.push client [collect statement])
      else (next (.error (closedClient "db-tx-closed"))).runNative active state
  | .savepoint client body next, active, state =>
      if client ∈ active then
        match (body state.created).runNative (state.created :: active)
            state.createClient with
        | (.ok value, later) =>
            (next (.ok value)).runNative active
              (later.push client (later.operations state.created))
        | (.error error, later) => (next (.error error)).runNative active later
      else (next (.error (closedClient "db-tx-closed"))).runNative active state

end ClientProgram

namespace NativeDatabaseConnection

def begun : NativeClients Db where
  operations _ := []
  created := 1

def batch {α : Type} (callback : Nat → ClientProgram Db α) :
    List (CollectedOperation Db) :=
  ((callback 0).runNative [0] begun).2.operations 0

/-- `error instanceof DatabaseError ? error : new DatabaseError(…)`. -/
def transactionError (error : Thrown) : Thrown :=
  if error.isDatabaseError then error
  else
    databaseError s!"Database transaction failed: {error.message}"
      "Failed to execute database transaction" "db-tx" none

/-- `NativeDatabaseConnection.transaction`; the batch is sent when the callback has
resolved. -/
def transaction {α : Type} (callback : Nat → ClientProgram Db α) (database : Db) :
    Except Thrown α × Db :=
  match (callback 0).runNative [0] begun with
  | (.error error, _) => (.error (transactionError error), database)
  | (.ok value, later) =>
      match transactionJson (later.operations 0) database with
      | .ok committed => (.ok value, committed)
      | .error message =>
          (.error (transactionError (.value message)), database)

end NativeDatabaseConnection

/-! ## Callbacks without savepoints

Such a callback is a program over the calls of one client, and its transaction is the
`transaction` call of the two connections.
-/

def ClientProgram.ofProgram {α : Type} (client : Nat) :
    Program (TransactionCall Db) Thrown α → ClientProgram Db α
  | .done outcome => .done outcome
  | .call (.query statement) next =>
      .query client statement fun answer => ofProgram client (next answer)
  | .call (.execute statement) next =>
      .execute client statement fun answer => ofProgram client (next answer)

variable {α : Type}

theorem runMemory_ofProgram {client : Nat} {active : List Nat} (hactive : client ∈ active)
    (program : Program (TransactionCall Db) Thrown α) (database : Db) (created : Nat) :
    (ClientProgram.ofProgram client program).runMemory active
        { database := database, created := created } =
      ((program.run memoryTransaction database).1,
        { database := (program.run memoryTransaction database).2, created := created }) := by
  induction program generalizing database with
  | done outcome => rfl
  | call request next ih =>
      cases request with
      | query statement =>
          simp only [ClientProgram.ofProgram, ClientProgram.runMemory, if_pos hactive,
            Program.run, memoryTransaction]
          cases statement.run database with
          | ok result => exact ih _ _
          | error message => exact ih _ _
      | execute statement =>
          simp only [ClientProgram.ofProgram, ClientProgram.runMemory, if_pos hactive,
            Program.run, memoryTransaction]
          cases statement.run database with
          | ok result => exact ih _ _
          | error message => exact ih _ _

theorem runNative_ofProgram {client : Nat} {active : List Nat} (hactive : client ∈ active)
    (program : Program (TransactionCall Db) Thrown α) (state : NativeClients Db) :
    ((ClientProgram.ofProgram client program).runNative active state).1 =
        (program.run nativeTransaction (state.operations client)).1 ∧
      ((ClientProgram.ofProgram client program).runNative active state).2.operations client =
        (program.run nativeTransaction (state.operations client)).2 := by
  induction program generalizing state with
  | done outcome => exact ⟨rfl, rfl⟩
  | call request next ih =>
      cases request with
      | query statement =>
          simp only [ClientProgram.ofProgram, ClientProgram.runNative, if_pos hactive,
            Program.run]
          exact ih _ state
      | execute statement =>
          have hpush : (state.push client [collect statement]).operations client =
              state.operations client ++ [collect statement] := by
            simp [NativeClients.push]
          simp only [ClientProgram.ofProgram, ClientProgram.runNative, if_pos hactive,
            Program.run, nativeTransaction]
          rw [← hpush]
          exact ih _ _

theorem memory_transaction_ofProgram (program : Program (TransactionCall Db) Thrown α)
    (database : Db) :
    MemoryDatabaseConnection.transaction
        (fun client => ClientProgram.ofProgram client program) database =
      memoryConnection (.transaction program) database := by
  rw [MemoryDatabaseConnection.transaction, runMemory_ofProgram List.mem_cons_self,
    memoryConnection]
  cases program.run memoryTransaction database with
  | mk outcome later => cases outcome <;> rfl

theorem native_transaction_ofProgram (program : Program (TransactionCall Db) Thrown α)
    (database : Db) :
    NativeDatabaseConnection.transaction
        (fun client => ClientProgram.ofProgram client program) database =
      nativeConnection (.transaction program) database := by
  obtain ⟨houtcome, hbatch⟩ :=
    runNative_ofProgram (List.mem_cons_self (a := 0) (l := [])) program
      NativeDatabaseConnection.begun
  rw [NativeDatabaseConnection.transaction, nativeConnection]
  cases hrun : (ClientProgram.ofProgram 0 program).runNative [0]
      NativeDatabaseConnection.begun with
  | mk outcome later =>
      rw [hrun] at houtcome hbatch
      cases hprogram : program.run nativeTransaction [] with
      | mk outcome' operations =>
          have hsame : outcome = outcome' := houtcome.trans (congrArg Prod.fst hprogram)
          have hoperations : later.operations 0 = operations :=
            hbatch.trans (congrArg Prod.snd hprogram)
          subst hsame
          cases outcome with
          | ok value =>
              simp only [hoperations]
              cases transactionJson operations database <;> rfl
          | error error =>
              simp only [NativeDatabaseConnection.transactionError]
              split_ifs <;> rfl

/-! ## Callbacks which can be deferred -/

namespace ClientProgram

/-- No query is made, and no call goes through the client of an enclosing savepoint. -/
def UsesInnermost {α : Type} : ClientProgram Db α → List Nat → Prop
  | .done _, _ => True
  | .query _ _ _, _ => False
  | .execute client _ next, active =>
      (client ∈ active → active.head? = some client) ∧
        ∀ answer, (next answer).UsesInnermost active
  | .savepoint client body next, active =>
      (client ∈ active → active.head? = some client) ∧
        (∀ nested, nested ∉ active → (body nested).UsesInnermost (nested :: active)) ∧
          ∀ answer, (next answer).UsesInnermost active

def Rethrows {α β : Type} (next : Except Thrown β → ClientProgram Db α)
    (error : Thrown) : Prop :=
  next (.error error) = .done (.error error)

/-- The steps of the in-memory run: a statement which succeeds is not refused by the
native guard, returns no rows, and its number of affected rows is not looked at; the
error of a refused call ends the transaction.  `guarded` says that the rejection of an
enclosing savepoint may be caught. -/
def Deferrable {α : Type} : ClientProgram Db α → List Nat → MemoryClients Db → Prop → Prop
  | .done _, _, _, _ => True
  | .query _ _ _, _, _, _ => False
  | .execute client statement next, active, state, guarded =>
      if client ∈ active then
        match statement.run state.database with
        | .ok result =>
            validateSafeSql statement.sql = .ok () ∧ result.rows = [] ∧
              next (.ok (some result.rowsAffected)) = next (.ok none) ∧
              (next (.ok (some result.rowsAffected))).Deferrable active
                { state with database := result.database } guarded
        | .error message => ¬ guarded ∧ Rethrows next (sqliteError message)
      else
        ¬ guarded ∧ Rethrows next (closedClient "db_tx_closed") ∧
          Rethrows next (closedClient "db-tx-closed")
  | .savepoint client body next, active, state, guarded =>
      if client ∈ active then
        (body state.created).Deferrable (state.created :: active)
            { state with created := state.created + 1 }
            (guarded ∨ ∃ error, ¬ Rethrows next error) ∧
          match (body state.created).runMemory (state.created :: active)
              { state with created := state.created + 1 } with
          | (.ok value, later) => (next (.ok value)).Deferrable active later guarded
          | (.error error, later) =>
              (next (.error error)).Deferrable active (later.rollback state.database)
                guarded
      else
        ¬ guarded ∧ Rethrows next (closedClient "db_tx_closed") ∧
          Rethrows next (closedClient "db-tx-closed")

end ClientProgram

/-! ## Batches -/

namespace DurableDatabase

def runOperations (operations : List (CollectedOperation Db)) (database : Db) :
    Except String Db :=
  operations.foldlM (fun database operation => operation.run database) database

variable {database : Db}

theorem runOperations_cons_ok {operation : CollectedOperation Db} {later : Db}
    (hrun : operation.run database = .ok later) (operations : List (CollectedOperation Db)) :
    runOperations (operation :: operations) database = runOperations operations later := by
  rw [runOperations, List.foldlM_cons, hrun]
  rfl

theorem runOperations_append_ok {first : List (CollectedOperation Db)} {later : Db}
    (hfirst : runOperations first database = .ok later) (second : List (CollectedOperation Db)) :
    runOperations (first ++ second) database = runOperations second later := by
  rw [runOperations] at hfirst
  rw [runOperations, List.foldlM_append, hfirst]
  rfl

variable {message : String}

theorem runOperations_append_error {first : List (CollectedOperation Db)}
    (hfirst : runOperations first database = .error message)
    (second : List (CollectedOperation Db)) :
    runOperations (first ++ second) database = .error message := by
  rw [runOperations] at hfirst
  rw [runOperations, List.foldlM_append, hfirst]
  rfl

def BatchFits (operations : List (CollectedOperation Db)) : Prop :=
  operations.length ≤ maxSqlTransactionOperations ∧
    ∃ sizes, List.Forall₂ (fun (operation : CollectedOperation Db) size =>
        validateSqlRequest operation.sql operation.params = .ok size) operations sizes ∧
      sizes.sum ≤ maxSqlRequestBytes

variable {operations : List (CollectedOperation Db)}

theorem validateOperations_of_fits {sizes : List Nat} {requestBytes : Nat}
    (hsizes : List.Forall₂ (fun (operation : CollectedOperation Db) size =>
      validateSqlRequest operation.sql operation.params = .ok size) operations sizes)
    (htotal : requestBytes + sizes.sum ≤ maxSqlRequestBytes)
    (hsafe : ∀ operation ∈ operations, validateSafeSql operation.sql = .ok ()) :
    validateOperations operations requestBytes = .ok () := by
  induction hsizes generalizing requestBytes with
  | nil => rfl
  | @cons operation size rest sizes hsize hrest ih =>
      rw [List.sum_cons, ← Nat.add_assoc] at htotal
      have hbytes : ¬ requestBytes + size > maxSqlRequestBytes := by omega
      rw [validateOperations, hsafe operation List.mem_cons_self, hsize]
      refine (if_neg hbytes).trans (ih htotal ?_)
      intro other hother
      exact hsafe other (List.mem_cons_of_mem _ hother)

theorem transactionJson_of_fits (hfits : BatchFits operations)
    (hsafe : ∀ operation ∈ operations, validateSafeSql operation.sql = .ok ()) (database : Db) :
    transactionJson operations database = runOperations operations database := by
  obtain ⟨hcount, sizes, hsizes, htotal⟩ := hfits
  have hvalid : validateOperations operations 0 = .ok () :=
    validateOperations_of_fits hsizes (by omega) hsafe
  rw [transactionJson, if_neg (by omega), hvalid]
  rfl

theorem transactionJson_of_failing (hfails : runOperations operations database = .error message) :
    ∃ message, transactionJson operations database = .error message := by
  rw [transactionJson]
  split_ifs with hcount
  · exact ⟨_, rfl⟩
  · cases validateOperations operations 0 with
    | error refused => exact ⟨refused, rfl⟩
    | ok _ => exact ⟨message, hfails⟩

theorem collect_run_ok {Row : Type} {statement : Statement Db Row}
    {result : StatementResult Db Row} (hrun : statement.run database = .ok result)
    (hrows : result.rows = []) :
    (collect statement).run database = .ok result.database := by
  simp only [collect, hrun, bind, Except.bind, hrows]
  rfl

theorem collect_run_error {Row : Type} {statement : Statement Db Row}
    (hrun : statement.run database = .error message) :
    (collect statement).run database = .error message := by
  simp only [collect, hrun]
  rfl

end DurableDatabase

/-! ## What a callback collects -/

/-- The innermost client has collected operations; the clients around it have not. -/
structure Appends (client : Nat) (before after : NativeClients Db)
    (operations : List (CollectedOperation Db)) : Prop where
  own : after.operations client = before.operations client ++ operations
  others : ∀ other, other ≠ client → other < before.created →
    after.operations other = before.operations other
  created_le : before.created ≤ after.created

namespace Appends

variable {client : Nat} {before middle after : NativeClients Db}
  {first second : List (CollectedOperation Db)}

theorem refl (client : Nat) (state : NativeClients Db) : Appends client state state [] where
  own := (List.append_nil _).symm
  others _ _ _ := rfl
  created_le := le_rfl

theorem push (client : Nat) (state : NativeClients Db)
    (pushed : List (CollectedOperation Db)) :
    Appends client state (state.push client pushed) pushed where
  own := by simp [NativeClients.push]
  others other hother _ := by simp [NativeClients.push, Function.update_of_ne hother]
  created_le := le_rfl

theorem trans (hfirst : Appends client before middle first)
    (hsecond : Appends client middle after second) :
    Appends client before after (first ++ second) where
  own := by rw [hsecond.own, hfirst.own, List.append_assoc]
  others other hother hmade := by
    have hlater : other < middle.created := lt_of_lt_of_le hmade hfirst.created_le
    rw [hsecond.others other hother hlater, hfirst.others other hother hmade]
  created_le := hfirst.created_le.trans hsecond.created_le

theorem of_nested (hclient : client < before.created)
    (hnested : Appends before.created before.createClient after first) :
    Appends client before after [] where
  own := by
    have hsame := hnested.others client (Nat.ne_of_lt hclient)
      (Nat.lt_succ_of_lt hclient)
    rw [hsame, List.append_nil]
    exact Function.update_of_ne (Nat.ne_of_lt hclient) _ _
  others other _ hmade := by
    have hsame := hnested.others other (Nat.ne_of_lt hmade) (Nat.lt_succ_of_lt hmade)
    rw [hsame]
    exact Function.update_of_ne (Nat.ne_of_lt hmade) _ _
  created_le := (Nat.le_succ _).trans hnested.created_le

theorem nested_operations
    (hnested : Appends before.created before.createClient after first) :
    after.operations before.created = first := by
  rw [hnested.own]
  simp [NativeClients.createClient]

end Appends

structure Innermost (client : Nat) (active : List Nat) (created : Nat) : Prop where
  head : active.head? = some client
  made : ∀ other ∈ active, other < created

namespace Innermost

variable {client other created : Nat} {active : List Nat}

theorem mem (hinnermost : Innermost client active created) : client ∈ active :=
  List.mem_of_mem_head? hinnermost.head

theorem lt (hinnermost : Innermost client active created) : client < created :=
  hinnermost.made client hinnermost.mem

theorem eq_of_head (hinnermost : Innermost client active created)
    (hhead : active.head? = some other) : other = client :=
  Option.some.inj (hhead.symm.trans hinnermost.head)

theorem fresh (hinnermost : Innermost client active created) : created ∉ active :=
  fun hmem => absurd (hinnermost.made created hmem) (lt_irrefl _)

theorem mono (hinnermost : Innermost client active created) {later : Nat}
    (hle : created ≤ later) : Innermost client active later :=
  ⟨hinnermost.head, fun other hmem => (hinnermost.made other hmem).trans_le hle⟩

theorem nested (hinnermost : Innermost client active created) :
    Innermost created (created :: active) (created + 1) where
  head := rfl
  made other hmem := by
    rcases List.mem_cons.mp hmem with rfl | hactive
    · exact Nat.lt_succ_self _
    · exact Nat.lt_succ_of_lt (hinnermost.made other hactive)

end Innermost

theorem runNative_appends {α : Type} (program : ClientProgram Db α) {client : Nat}
    {active : List Nat} {state : NativeClients Db}
    (hinnermost : Innermost client active state.created)
    (huses : program.UsesInnermost active) :
    ∃ operations,
      Appends client state (program.runNative active state).2 operations := by
  induction program generalizing client active state with
  | done outcome => exact ⟨[], Appends.refl client state⟩
  | query other statement next ih => exact huses.elim
  | execute other statement next ih =>
      obtain ⟨hhead, hnext⟩ := huses
      rw [ClientProgram.runNative]
      by_cases hactive : other ∈ active
      · cases hinnermost.eq_of_head (hhead hactive)
        rw [if_pos hactive]
        have hpush := Appends.push other state [collect statement]
        obtain ⟨operations, hrest⟩ :=
          ih _ (hinnermost.mono hpush.created_le) (hnext (.ok none))
        exact ⟨_, hpush.trans hrest⟩
      · rw [if_neg hactive]
        exact ih _ hinnermost (hnext _)
  | savepoint other body next ihbody ihnext =>
      obtain ⟨hhead, hbody, hnext⟩ := huses
      rw [ClientProgram.runNative]
      by_cases hactive : other ∈ active
      · cases hinnermost.eq_of_head (hhead hactive)
        rw [if_pos hactive]
        obtain ⟨nested, hnested⟩ :=
          ihbody state.created
            (show Innermost state.created _ state.createClient.created from hinnermost.nested)
            (hbody _ hinnermost.fresh)
        match hrun : (body state.created).runNative (state.created :: active)
            state.createClient with
        | (.ok value, later) =>
            rw [hrun] at hnested
            have hpush := (Appends.of_nested hinnermost.lt hnested).trans
              (Appends.push other later (later.operations state.created))
            obtain ⟨operations, hrest⟩ :=
              ihnext _ (hinnermost.mono hpush.created_le) (hnext (.ok value))
            exact ⟨_, hpush.trans hrest⟩
        | (.error error, later) =>
            rw [hrun] at hnested
            have hdropped := Appends.of_nested hinnermost.lt hnested
            obtain ⟨operations, hrest⟩ :=
              ihnext _ (hinnermost.mono hdropped.created_le) (hnext (.error error))
            exact ⟨_, hdropped.trans hrest⟩
      · rw [if_neg hactive]
        exact ihnext _ hinnermost (hnext _)

/-! ## The simulation -/

/-- How a deferred run stands to the in-memory one: they settle alike and the
operations lead to the same database, or both transactions are bound to reject. -/
inductive Refines {α : Type} (guarded : Prop) (database : Db)
    (operations : List (CollectedOperation Db))
    (memory : Except Thrown α × MemoryClients Db)
    (native : Except Thrown α × NativeClients Db) : Prop where
  | alike (houtcome : native.1 = memory.1) (hcreated : native.2.created = memory.2.created)
      (hexecutes : ∀ value, memory.1 = .ok value →
        (∀ operation ∈ operations, validateSafeSql operation.sql = .ok ()) ∧
          runOperations operations database = .ok memory.2.database)
  | rejects (hunguarded : ¬ guarded) (hmemory : ∃ error, memory.1 = .error error)
      (hnative : (∃ error, native.1 = .error error) ∨
        ∃ message, runOperations operations database = .error message)

namespace Refines

variable {α : Type} {guarded : Prop} {database later : Db}
  {first second : List (CollectedOperation Db)}
  {memory : Except Thrown α × MemoryClients Db}
  {native : Except Thrown α × NativeClients Db}

theorem prepend (hsafe : ∀ operation ∈ first, validateSafeSql operation.sql = .ok ())
    (hfirst : runOperations first database = .ok later)
    (hrest : Refines guarded later second memory native) :
    Refines guarded database (first ++ second) memory native := by
  cases hrest with
  | alike houtcome hcreated hexecutes =>
      refine .alike houtcome hcreated fun value hvalue => ?_
      obtain ⟨hsafeRest, hrun⟩ := hexecutes value hvalue
      refine ⟨fun operation hmem => ?_, (runOperations_append_ok hfirst second).trans hrun⟩
      rcases List.mem_append.mp hmem with hmem | hmem
      · exact hsafe operation hmem
      · exact hsafeRest operation hmem
  | rejects hunguarded hmemory hnative =>
      refine .rejects hunguarded hmemory (hnative.imp_right fun ⟨message, hfails⟩ => ?_)
      exact ⟨message, (runOperations_append_ok hfirst second).trans hfails⟩

theorem of_failing {message : String} (hunguarded : ¬ guarded)
    (hmemory : ∃ error, memory.1 = .error error)
    (hfails : runOperations first database = .error message) :
    Refines guarded database (first ++ second) memory native :=
  .rejects hunguarded hmemory (.inr ⟨message, runOperations_append_error hfails second⟩)

end Refines

section Simulation

variable {α : Type}

theorem refines_of_closed {β : Type} {next : Except Thrown β → ClientProgram Db α}
    {active : List Nat} {guarded : Prop} (hunguarded : ¬ guarded)
    (hmemory : ClientProgram.Rethrows next (closedClient "db_tx_closed"))
    (hnative : ClientProgram.Rethrows next (closedClient "db-tx-closed"))
    (client : Nat) (memory : MemoryClients Db) (native : NativeClients Db) :
    ∃ operations,
      Appends client native
          ((next (.error (closedClient "db-tx-closed"))).runNative active native).2
          operations ∧
        Refines guarded memory.database operations
          ((next (.error (closedClient "db_tx_closed"))).runMemory active memory)
          ((next (.error (closedClient "db-tx-closed"))).runNative active native) := by
  rw [hmemory, hnative]
  exact ⟨[], Appends.refl client native, .rejects hunguarded ⟨_, rfl⟩ (.inl ⟨_, rfl⟩)⟩

theorem runNative_refines (program : ClientProgram Db α) {client : Nat}
    {active : List Nat} {memory : MemoryClients Db} {native : NativeClients Db}
    {guarded : Prop} (hcreated : native.created = memory.created)
    (hinnermost : Innermost client active native.created)
    (huses : program.UsesInnermost active)
    (hdeferrable : program.Deferrable active memory guarded) :
    ∃ operations,
      Appends client native (program.runNative active native).2 operations ∧
        Refines guarded memory.database operations (program.runMemory active memory)
          (program.runNative active native) := by
  induction program generalizing client active memory native guarded with
  | done outcome =>
      refine ⟨[], Appends.refl client native, .alike rfl hcreated fun value hvalue => ?_⟩
      exact ⟨fun operation hmem => absurd hmem List.not_mem_nil, rfl⟩
  | query other statement next ih => exact huses.elim
  | execute other statement next ih =>
      obtain ⟨hhead, hnext⟩ := huses
      rw [ClientProgram.Deferrable] at hdeferrable
      rw [ClientProgram.runNative, ClientProgram.runMemory]
      by_cases hactive : other ∈ active
      · cases hinnermost.eq_of_head (hhead hactive)
        rw [if_pos hactive] at hdeferrable ⊢
        rw [if_pos hactive]
        have hpush := Appends.push other native [collect statement]
        have hinner := hinnermost.mono hpush.created_le
        cases hrun : statement.run memory.database with
        | ok result =>
            rw [hrun] at hdeferrable
            obtain ⟨hsafe, hrows, hblind, hrest⟩ := hdeferrable
            -- The number of affected rows is not looked at.
            simp only [hblind] at hrest ⊢
            obtain ⟨operations, happends, hrefines⟩ :=
              ih (.ok none) (show (native.push other [collect statement]).created =
                ({ memory with database := result.database } : MemoryClients Db).created
                  from hcreated) hinner (hnext (.ok none)) hrest
            refine ⟨[collect statement] ++ operations, hpush.trans happends,
              hrefines.prepend ?_ ?_⟩
            · intro operation hmem
              cases List.mem_singleton.mp hmem
              exact hsafe
            · exact runOperations_cons_ok (collect_run_ok hrun hrows) []
        | error message =>
            rw [hrun] at hdeferrable
            obtain ⟨hunguarded, hrethrows⟩ := hdeferrable
            -- The native callback goes on, with a statement which fails in its batch.
            obtain ⟨operations, happends⟩ :=
              runNative_appends _ hinner (hnext (.ok none))
            refine ⟨[collect statement] ++ operations, hpush.trans happends, ?_⟩
            have hfails : runOperations [collect statement] memory.database = .error message := by
              rw [runOperations, List.foldlM_cons, collect_run_error hrun]
              rfl
            refine Refines.of_failing hunguarded ⟨sqliteError message, ?_⟩ hfails
            change ((next (.error (sqliteError message))).runMemory active memory).1 = _
            rw [hrethrows]
            rfl
      · rw [if_neg hactive] at hdeferrable ⊢
        rw [if_neg hactive]
        obtain ⟨hunguarded, hmemory, hnative⟩ := hdeferrable
        exact refines_of_closed hunguarded hmemory hnative client memory native
  | savepoint other body next ihbody ihnext =>
      obtain ⟨hhead, hbody, hnext⟩ := huses
      rw [ClientProgram.Deferrable] at hdeferrable
      rw [ClientProgram.runNative, ClientProgram.runMemory]
      by_cases hactive : other ∈ active
      · cases hinnermost.eq_of_head (hhead hactive)
        rw [if_pos hactive] at hdeferrable ⊢
        rw [if_pos hactive]
        obtain ⟨hnested, hrest⟩ := hdeferrable
        rw [← hcreated] at hnested hrest ⊢
        obtain ⟨collected, happends, hrefines⟩ :=
          ihbody native.created (show native.createClient.created =
            ({ memory with created := native.created + 1 } : MemoryClients Db).created from rfl)
            hinnermost.nested (hbody _ hinnermost.fresh) hnested
        have hdropped : Appends other native _ [] :=
          Appends.of_nested hinnermost.lt happends
        have hcollected := happends.nested_operations
        match hmemory : (body native.created).runMemory (native.created :: active)
              { memory with created := native.created + 1 },
            hnative : (body native.created).runNative (native.created :: active)
              native.createClient with
        | (outcome, later), (outcome', later') =>
            rw [hmemory, hnative] at hrefines
            rw [hnative] at hdropped hcollected
            change later'.operations native.created = collected at hcollected
            rw [hmemory] at hrest
            cases hrefines with
            | alike houtcome hlater hexecutes =>
                cases (show outcome' = outcome from houtcome)
                cases outcome with
                | ok value =>
                    obtain ⟨hsafe, hexecuted⟩ := hexecutes value rfl
                    have hpush : Appends other native
                        (later'.push other (later'.operations native.created)) collected := by
                      simpa only [List.nil_append, hcollected] using
                        hdropped.trans (Appends.push other later' collected)
                    obtain ⟨operations, hafter, hrefinesRest⟩ :=
                      ihnext (.ok value)
                        (show (later'.push other (later'.operations native.created)).created =
                          later.created from hlater)
                        (hinnermost.mono hpush.created_le) (hnext (.ok value)) hrest
                    exact ⟨collected ++ operations, hpush.trans hafter,
                      hrefinesRest.prepend hsafe hexecuted⟩
                | error error =>
                    -- Both drop what the savepoint did.
                    obtain ⟨operations, hafter, hrefinesRest⟩ :=
                      ihnext (.error error)
                        (show later'.created = (later.rollback memory.database).created
                          from hlater)
                        (hinnermost.mono hdropped.created_le) (hnext (.error error)) hrest
                    exact ⟨operations, hdropped.trans hafter, hrefinesRest⟩
            | rejects hunguarded hrejects hfails =>
                obtain ⟨hopen, hrethrows⟩ := not_or.mp hunguarded
                have hrethrow : ∀ error, ClientProgram.Rethrows next error :=
                  fun error => not_not.mp fun hnot => hrethrows ⟨error, hnot⟩
                obtain ⟨error, herror⟩ := hrejects
                cases (show outcome = .error error from herror)
                dsimp only
                rw [show next (.error error) = .done (.error error) from hrethrow error]
                cases outcome' with
                | ok value =>
                    have hpush : Appends other native
                        (later'.push other (later'.operations native.created)) collected := by
                      simpa only [List.nil_append, hcollected] using
                        hdropped.trans (Appends.push other later' collected)
                    obtain ⟨message, hfailing⟩ :=
                      hfails.resolve_left fun ⟨error', herror'⟩ => by cases herror'
                    obtain ⟨operations, hafter⟩ :=
                      runNative_appends _ (hinnermost.mono hpush.created_le)
                        (hnext (.ok value))
                    exact ⟨collected ++ operations, hpush.trans hafter,
                      Refines.of_failing hopen ⟨error, rfl⟩ hfailing⟩
                | error error' =>
                    dsimp only
                    rw [show next (.error error') = .done (.error error') from
                      hrethrow error']
                    exact ⟨[], hdropped, .rejects hopen ⟨error, rfl⟩ (.inl ⟨error', rfl⟩)⟩
      · rw [if_neg hactive] at hdeferrable ⊢
        rw [if_neg hactive]
        obtain ⟨hunguarded, hmemory, hnative⟩ := hdeferrable
        exact refines_of_closed hunguarded hmemory hnative client memory native

/-- The request which is sent when a callback has resolved is within the bounds. -/
def NativeDatabaseConnection.RequestsFit (callback : Nat → ClientProgram Db α) : Prop :=
  ∀ value, ((callback 0).runNative [0] begun).1 = .ok value → BatchFits (batch callback)

theorem NativeDatabaseConnection.transaction_of_error
    {callback : Nat → ClientProgram Db α} {error : Thrown}
    (herror : ((callback 0).runNative [0] begun).1 = .error error) (database : Db) :
    transaction callback database = (.error (transactionError error), database) := by
  rw [transaction]
  match hrun : (callback 0).runNative [0] begun with
  | (.ok value, later) =>
      rw [hrun] at herror
      cases herror
  | (.error other, later) =>
      rw [hrun] at herror
      cases herror
      rfl

theorem NativeDatabaseConnection.transaction_of_ok
    {callback : Nat → ClientProgram Db α} {value : α}
    (hvalue : ((callback 0).runNative [0] begun).1 = .ok value) (database : Db) :
    transaction callback database =
      match transactionJson (batch callback) database with
      | .ok committed => (.ok value, committed)
      | .error message => (.error (transactionError (.value message)), database) := by
  rw [transaction, batch]
  match hrun : (callback 0).runNative [0] begun with
  | (.ok other, later) =>
      rw [hrun] at hvalue
      cases hvalue
      rfl
  | (.error error, later) =>
      rw [hrun] at hvalue
      cases hvalue

/-- The native transaction refines the in-memory one in every run of a callback whose
steps can be deferred. -/
theorem deferred_transaction_refines (callback : Nat → ClientProgram Db α)
    (database : Db) (huses : (callback 0).UsesInnermost [0])
    (hdeferrable : (callback 0).Deferrable [0] { database := database, created := 1 } False)
    (hfits : NativeDatabaseConnection.RequestsFit callback) :
    Program.SameOutcome (MemoryDatabaseConnection.transaction callback database).1
        (NativeDatabaseConnection.transaction callback database).1 ∧
      (MemoryDatabaseConnection.transaction callback database).2 =
        (NativeDatabaseConnection.transaction callback database).2 := by
  have hinnermost : Innermost 0 [0] 1 :=
    ⟨rfl, fun other hmem => by rw [List.mem_singleton.mp hmem]; exact Nat.one_pos⟩
  obtain ⟨operations, happends, hrefines⟩ :=
    runNative_refines (callback 0)
      (rfl : (NativeDatabaseConnection.begun : NativeClients Db).created = _) hinnermost huses
      hdeferrable
  have hbatch : NativeDatabaseConnection.batch callback = operations := happends.own
  rw [MemoryDatabaseConnection.transaction]
  match hmemory : (callback 0).runMemory [0] { database := database, created := 1 } with
  | (outcome, later) =>
      rw [hmemory] at hrefines
      cases hrefines with
      | alike houtcome hcreated hexecutes =>
          cases outcome with
          | ok value =>
              obtain ⟨hsafe, hexecuted⟩ := hexecutes value rfl
              have hsent : transactionJson operations database = .ok later.database := by
                rw [transactionJson_of_fits (hbatch ▸ hfits value houtcome) hsafe, hexecuted]
              rw [NativeDatabaseConnection.transaction_of_ok houtcome, hbatch, hsent]
              exact ⟨rfl, rfl⟩
          | error error =>
              rw [NativeDatabaseConnection.transaction_of_error houtcome]
              exact ⟨trivial, rfl⟩
      | rejects _ hrejects hnative =>
          obtain ⟨error, herror⟩ := hrejects
          cases (show outcome = .error error from herror)
          cases hvalue : ((callback 0).runNative [0] NativeDatabaseConnection.begun).1 with
          | error other =>
              rw [NativeDatabaseConnection.transaction_of_error hvalue]
              exact ⟨trivial, rfl⟩
          | ok value =>
              obtain ⟨message, hfailing⟩ := hnative.resolve_left fun ⟨other, hother⟩ => by
                cases hvalue.symm.trans hother
              obtain ⟨refused, hsent⟩ := transactionJson_of_failing hfailing
              rw [NativeDatabaseConnection.transaction_of_ok hvalue, hbatch, hsent]
              exact ⟨trivial, rfl⟩

end Simulation

/-! ## A table with one key -/

def insertNote : Statement Bool Unit where
  sql := "INSERT INTO notes (id) VALUES (1)"
  params := []
  columns := []
  effect := .write fun present =>
    if present then .error "UNIQUE constraint failed: notes.id"
    else .ok { database := true, rows := [], rowsAffected := 1 }

def executeOnly (client : Nat) : ClientProgram Bool Unit :=
  .execute client insertNote fun
    | .ok _ => .done (.ok ())
    | .error error => .done (.error error)

theorem insertNote_safe : validateSafeSql insertNote.sql = .ok () :=
  validateSafeSql_of_command "INSERT" (by decide) (by decide)

theorem insertNote_fits :
    validateSqlRequest insertNote.sql insertNote.params = .ok 33 := by
  decide

theorem batchFits_of_insertNote (count : Nat) (hcount : count ≤ maxSqlTransactionOperations) :
    BatchFits (List.replicate count (collect insertNote)) := by
  refine ⟨by simpa using hcount, List.replicate count 33, ?_, ?_⟩
  · induction count with
    | zero => exact .nil
    | succ count ih =>
        exact .cons insertNote_fits (ih (by omega))
  · rw [maxSqlTransactionOperations] at hcount
    rw [List.sum_replicate, smul_eq_mul, maxSqlRequestBytes]
    omega

def retryInsert (client : Nat) : ClientProgram Bool Unit :=
  .savepoint client
    (fun nested => .execute nested insertNote fun _ =>
      (.done (.error (.value "undo")) : ClientProgram Bool Unit))
    fun _ => executeOnly client

theorem deferred_transaction_refines_retry :
    Program.SameOutcome (MemoryDatabaseConnection.transaction retryInsert false).1
        (NativeDatabaseConnection.transaction retryInsert false).1 ∧
      (MemoryDatabaseConnection.transaction retryInsert false).2 =
        (NativeDatabaseConnection.transaction retryInsert false).2 := by
  have hinsert : (executeOnly 0).Deferrable [0]
      { database := false, created := 2 } False :=
    ⟨insertNote_safe, rfl, rfl, trivial⟩
  refine deferred_transaction_refines retryInsert false ?_ ?_ ?_
  · refine ⟨fun _ => rfl, fun nested _ => ⟨fun _ => rfl, fun _ => trivial⟩, fun _ => ?_⟩
    exact ⟨fun _ => rfl, fun answer => by cases answer <;> trivial⟩
  · exact ⟨⟨insertNote_safe, rfl, rfl, trivial⟩, hinsert⟩
  · intro value _
    exact batchFits_of_insertNote 1 (by decide)

def insertTwice (client : Nat) : ClientProgram Bool Unit :=
  .execute client insertNote fun _ => .execute client insertNote fun _ => .done (.ok ())

theorem deferred_transaction_misses_caught_error :
    BatchFits (NativeDatabaseConnection.batch insertTwice) ∧
      MemoryDatabaseConnection.transaction insertTwice false = (.ok (), true) ∧
      ¬ Program.SameOutcome (MemoryDatabaseConnection.transaction insertTwice false).1
          (NativeDatabaseConnection.transaction insertTwice false).1 := by
  have hbatch : NativeDatabaseConnection.batch insertTwice =
      List.replicate 2 (collect insertNote) := rfl
  have hfails : runOperations (List.replicate 2 (collect insertNote)) false =
      .error "UNIQUE constraint failed: notes.id" := rfl
  obtain ⟨message, hsent⟩ := transactionJson_of_failing hfails
  refine ⟨hbatch ▸ batchFits_of_insertNote 2 (by decide), rfl, ?_⟩
  have hvalue : ((insertTwice 0).runNative [0] NativeDatabaseConnection.begun).1 = .ok () :=
    rfl
  rw [NativeDatabaseConnection.transaction_of_ok hvalue, hbatch, hsent]
  exact Program.not_sameOutcome_ok_error () _

end TauriPlatform
