import TauriPlatform.AsyncProgram
import TauriPlatform.JsonValue
import TauriPlatform.PlatformError

/-!
# The native SQL bridge

`NativeDatabaseConnection` hands an argument object to `invoke`; the command of
that name decodes its parameter from it.  The commands take one parameter named
`request`, while the connection puts the fields of the request directly into the
argument object, so no request of the connection is ever decoded.
-/

namespace TauriPlatform

open Async

/-! ## The commands -/

structure DbQueryRequest where
  sql : String
  params : Option (List JsonValue)

structure DbOperation where
  opType : String
  sql : String
  params : Option (List JsonValue)

structure DbTransactionRequest where
  operations : List DbOperation

/-- A field of type `Option<Vec<Value>>`: absent and `null` are both `None`. -/
def deserializeParams? (value : JsonValue) : Option (Option (List JsonValue)) :=
  match value.get? "params" with
  | none => some none
  | some .null => some none
  | some (.array items) => some (some items)
  | some _ => none

def DbQueryRequest.deserialize? (value : JsonValue) : Option DbQueryRequest := do
  let sql ← (← value.get? "sql").string?
  let params ← deserializeParams? value
  return { sql := sql, params := params }

def DbOperation.deserialize? (value : JsonValue) : Option DbOperation := do
  let opType ← (← value.get? "type").string?
  let sql ← (← value.get? "sql").string?
  let params ← deserializeParams? value
  return { opType := opType, sql := sql, params := params }

def DbTransactionRequest.deserialize? (value : JsonValue) :
    Option DbTransactionRequest := do
  match ← value.get? "operations" with
  | .array items => return { operations := ← items.mapM DbOperation.deserialize? }
  | _ => none

inductive ArgumentError where
  | missing (parameter : String)
  | invalid (parameter : String)
  deriving DecidableEq, Repr

/-- A command parameter is read from the entry of the argument object which has
its name; a missing entry is an error. -/
def commandParameter {α : Type} (parameter : String) (deserialize? : JsonValue → Option α)
    (args : JsonValue) : Except ArgumentError α :=
  match args.get? parameter with
  | none => .error (.missing parameter)
  | some value =>
      match deserialize? value with
      | some request => .ok request
      | none => .error (.invalid parameter)

def dbQueryParameter : JsonValue → Except ArgumentError DbQueryRequest :=
  commandParameter "request" DbQueryRequest.deserialize?

def dbExecuteParameter : JsonValue → Except ArgumentError DbQueryRequest :=
  commandParameter "request" DbQueryRequest.deserialize?

def dbTransactionParameter : JsonValue → Except ArgumentError DbTransactionRequest :=
  commandParameter "request" DbTransactionRequest.deserialize?

/-- The success value of `db_query`: its rows, each an object. -/
def queryResponse (rows : List (List (String × JsonValue))) : JsonValue :=
  .object [("rows", .array (rows.map .object))]

/-- The success value of `db_execute`. -/
def executeResponse (rowsAffected : Nat) : JsonValue :=
  .object [("rows_affected", .number (.integer rowsAffected))]

/-- The success value of `db_transaction`, a unit. -/
def transactionResponse : JsonValue :=
  .null

/-! ## The connection -/

namespace NativeDatabaseConnection

/-- A call of the `invoke` function with a command and its argument object. -/
inductive InvokeCall : Type → Type where
  | invoke (command : String) (args : JsonValue) : InvokeCall JsonValue

structure DatabaseHealth where
  healthy : Bool
  dbName : String
  walEnabled : Bool
  foreignKeysEnabled : Bool
  version : String
  integrityCheck : String

def queryArgs (sql : String) (params : List JsonValue) : JsonValue :=
  .object [("sql", .string sql), ("params", .array params)]

def executeArgs (sql : String) (params : List JsonValue) : JsonValue :=
  .object [("sql", .string sql), ("params", .array params)]

/-- One collected operation of a transaction; its type is always `execute`. -/
def operationEntry (operation : String × List JsonValue) : JsonValue :=
  .object [("type", .string "execute"), ("sql", .string operation.1),
    ("params", .array operation.2)]

def transactionArgs (operations : List (String × List JsonValue)) : JsonValue :=
  .object [("operations", .array (operations.map operationEntry))]

/-- `Array.isArray(response.rows) && response.rows.every(isRecord)`. -/
def isQueryResponse (response : JsonValue) : Bool :=
  match response.get? "rows" with
  | some (.array rows) => rows.all JsonValue.isRecord
  | _ => false

/-- `Number.isSafeInteger(response.rows_affected) && response.rows_affected >= 0`. -/
def isExecuteResponse (response : JsonValue) : Bool :=
  ((response.get? "rows_affected").bind JsonValue.safeInteger?).any (0 ≤ ·)

/-- The rows of a response which passed `isQueryResponse`. -/
def responseRows (response : JsonValue) : List JsonValue :=
  match response.get? "rows" with
  | some (.array rows) => rows
  | _ => []

def responseRowsAffected (response : JsonValue) : Nat :=
  (((response.get? "rows_affected").bind JsonValue.safeInteger?).getD 0).toNat

/-- `isNativeHealthResponse` and the health made of such a response. -/
def healthOfResponse? (response : JsonValue) : Option DatabaseHealth := do
  let dbName ← (← response.get? "db_path").string?
  let version ← (← response.get? "sqlite_version").string?
  let journalMode ← (← response.get? "journal_mode").string?
  let integrityCheck ← (← response.get? "integrity_check").string?
  match ← response.get? "foreign_keys_enabled" with
  | .bool foreignKeysEnabled =>
      return {
        healthy := integrityCheck = "ok" && foreignKeysEnabled
        dbName := dbName
        walEnabled := journalMode = "wal"
        foreignKeysEnabled := foreignKeysEnabled
        version := version
        integrityCheck := integrityCheck }
  | _ => none

abbrev BridgeProgram := Program InvokeCall Thrown

def healthCheck : BridgeProgram DatabaseHealth :=
  tryCatch
    (do
      let response ← Program.await (.invoke "get_database_health" (.object []))
      match healthOfResponse? response with
      | some health => pure health
      | none =>
          throw (.builtin "Error" "Native database returned an invalid health response"))
    fun err => pure {
      healthy := false
      dbName := "unknown"
      walEnabled := false
      foreignKeysEnabled := false
      version := "unknown"
      integrityCheck := err.message }

def init (isInitialised : Bool) : BridgeProgram Unit :=
  if isInitialised then pure ()
  else
    tryCatch
      (do
        let health ← healthCheck
        if health.healthy then pure ()
        else
          throw (.builtin "Error"
            s!"Native database health check failed: {health.integrityCheck}"))
      fun err => throw (databaseError
        s!"Failed to initialize native database connection: {err.message}"
        "Failed to connect to local database" "db-init" none)

def query (isInitialised : Bool) (sql : String) (params : List JsonValue) :
    BridgeProgram (List JsonValue) := do
  init isInitialised
  tryCatch
    (do
      let response ← Program.await (.invoke "db_query" (queryArgs sql params))
      if isQueryResponse response then pure (responseRows response)
      else
        throw (.builtin "Error" "Native database returned an invalid query response"))
    fun err => throw (databaseError s!"Database query failed: {err.message}"
      "Failed to retrieve data" "db-query" (some s!"SQL: {sql}"))

def execute (isInitialised : Bool) (sql : String) (params : List JsonValue) :
    BridgeProgram Nat := do
  init isInitialised
  tryCatch
    (do
      let response ← Program.await (.invoke "db_execute" (executeArgs sql params))
      if isExecuteResponse response then pure (responseRowsAffected response)
      else
        throw (.builtin "Error" "Native database returned an invalid execute response"))
    fun err => throw (databaseError s!"Database execute failed: {err.message}"
      "Failed to execute database operation" "db-exec" (some s!"SQL: {sql}"))

/-- The last part of `transaction`: the operations which its callback collected
are handed over. -/
def commitOperations (operations : List (String × List JsonValue)) :
    BridgeProgram Unit :=
  tryCatch
    (do
      let _ ← Program.await (.invoke "db_transaction" (transactionArgs operations))
      pure ())
    fun err =>
      if err.isDatabaseError then throw err
      else
        throw (databaseError s!"Database transaction failed: {err.message}"
          "Failed to execute database transaction" "db-tx" none)

/-! ## Decoding what the connection sends -/

/-- The connection's `query` reaches `db_query` as the same request, and the
success value of the command passes the connection's check. -/
def QueryRoundTrip (sql : String) (params : List JsonValue) : Prop :=
  (∃ request, dbQueryParameter (queryArgs sql params) = .ok request ∧
    request.sql = sql ∧ request.params.getD [] = params) ∧
  ∀ rows, isQueryResponse (queryResponse rows)

def ExecuteRoundTrip (sql : String) (params : List JsonValue) : Prop :=
  (∃ request, dbExecuteParameter (executeArgs sql params) = .ok request ∧
    request.sql = sql ∧ request.params.getD [] = params) ∧
  ∀ rowsAffected, rowsAffected ≤ maxSafeInteger →
    isExecuteResponse (executeResponse rowsAffected)

def DbTransactionRequest.collected (request : DbTransactionRequest) :
    List (String × List JsonValue) :=
  request.operations.map fun operation => (operation.sql, operation.params.getD [])

def TransactionRoundTrip (operations : List (String × List JsonValue)) : Prop :=
  ∃ request, dbTransactionParameter (transactionArgs operations) = .ok request ∧
    DbTransactionRequest.collected request = operations ∧
    ∀ operation ∈ request.operations, operation.opType = "execute"

theorem isQueryResponse_queryResponse (rows : List (List (String × JsonValue))) :
    isQueryResponse (queryResponse rows) := by
  simp [isQueryResponse, queryResponse, JsonValue.get?, JsonValue.isRecord]

theorem isExecuteResponse_executeResponse {rowsAffected : Nat}
    (hsafe : rowsAffected ≤ maxSafeInteger) :
    isExecuteResponse (executeResponse rowsAffected) := by
  simp [isExecuteResponse, executeResponse, JsonValue.get?, JsonValue.safeInteger?,
    JsonNumber.safeInteger?, hsafe]

@[simp] theorem dbQueryParameter_queryArgs (sql : String) (params : List JsonValue) :
    dbQueryParameter (queryArgs sql params) = .error (.missing "request") :=
  rfl

@[simp] theorem dbExecuteParameter_executeArgs (sql : String) (params : List JsonValue) :
    dbExecuteParameter (executeArgs sql params) = .error (.missing "request") :=
  rfl

@[simp] theorem dbTransactionParameter_transactionArgs
    (operations : List (String × List JsonValue)) :
    dbTransactionParameter (transactionArgs operations) =
      .error (.missing "request") :=
  rfl

/-- No request of the connection is decoded by the command it is sent to. -/
theorem bridge_never_round_trips (sql : String) (params : List JsonValue)
    (operations : List (String × List JsonValue)) :
    ¬ QueryRoundTrip sql params ∧ ¬ ExecuteRoundTrip sql params ∧
      ¬ TransactionRoundTrip operations := by
  refine ⟨?_, ?_, ?_⟩
  · intro hround
    obtain ⟨request, hdecoded, -⟩ := hround.1
    simp at hdecoded
  · intro hround
    obtain ⟨request, hdecoded, -⟩ := hround.1
    simp at hdecoded
  · intro hround
    obtain ⟨request, hdecoded, -⟩ := hround
    simp at hdecoded

/-! ## Running the connection against the commands -/

structure NativeCommands (σ : Type) where
  getDatabaseHealth : σ → JsonValue
  queryJson : String → List JsonValue → σ →
    Except String (List (List (String × JsonValue)))
  executeJson : String → List JsonValue → σ → Except String Nat × σ
  transactionJson : List DbOperation → σ → Except String Unit × σ

/-- `invoke`: the named command decodes its parameter and runs. -/
def NativeCommands.dispatch {σ : Type} (commands : NativeCommands σ) :
    Program.Handler InvokeCall Thrown σ
  | _, .invoke command args, database =>
      let undecoded : Except Thrown JsonValue × σ :=
        (.error (.value s!"invalid args for command {command}"), database)
      if command = "get_database_health" then
        (.ok (commands.getDatabaseHealth database), database)
      else if command = "db_query" then
        match dbQueryParameter args with
        | .error _ => undecoded
        | .ok request =>
            match commands.queryJson request.sql (request.params.getD []) database with
            | .ok rows => (.ok (queryResponse rows), database)
            | .error message => (.error (.value message), database)
      else if command = "db_execute" then
        match dbExecuteParameter args with
        | .error _ => undecoded
        | .ok request =>
            match commands.executeJson request.sql (request.params.getD []) database with
            | (.ok rowsAffected, later) => (.ok (executeResponse rowsAffected), later)
            | (.error message, later) => (.error (.value message), later)
      else if command = "db_transaction" then
        match dbTransactionParameter args with
        | .error _ => undecoded
        | .ok request =>
            match commands.transactionJson request.operations database with
            | (.ok _, later) => (.ok transactionResponse, later)
            | (.error message, later) => (.error (.value message), later)
      else (.error (.value s!"Command {command} not found"), database)

variable {σ : Type} (commands : NativeCommands σ) (database : σ)

theorem healthCheck_run :
    ∃ health, healthCheck.run commands.dispatch database = (.ok health, database) := by
  unfold healthCheck
  rw [Program.run_tryCatch, Program.run_bind, Program.run_await]
  simp only [NativeCommands.dispatch, if_true]
  cases healthOfResponse? (commands.getDatabaseHealth database) with
  | some health => exact ⟨health, rfl⟩
  | none => exact ⟨_, rfl⟩

theorem init_run (isInitialised : Bool) :
    ∃ outcome, (init isInitialised).run commands.dispatch database =
      (outcome, database) := by
  cases isInitialised with
  | true => exact ⟨_, rfl⟩
  | false =>
      obtain ⟨health, hhealth⟩ := healthCheck_run commands database
      simp only [init, Bool.false_eq_true, if_false]
      rw [Program.run_tryCatch, Program.run_bind, hhealth]
      cases hhealthy : health.healthy with
      | true => exact ⟨.ok (), by simp [hhealthy]⟩
      | false => exact ⟨_, by simp [hhealthy]; rfl⟩

/-- A program behind `init` which always rejects without a change. -/
theorem init_then_rejects {α : Type} (isInitialised : Bool) {body : BridgeProgram α}
    (hbody : ∃ error, body.run commands.dispatch database = (.error error, database)) :
    ∃ error, (do init isInitialised; body : BridgeProgram α).run commands.dispatch
      database = (.error error, database) := by
  obtain ⟨outcome, hinit⟩ := init_run commands database isInitialised
  obtain ⟨error, hbody⟩ := hbody
  cases outcome with
  | ok value => exact ⟨error, by rw [Program.run_bind, hinit]; exact hbody⟩
  | error failure => exact ⟨failure, by rw [Program.run_bind, hinit]⟩

/-- Whatever the commands do, every `query` of the connection rejects and leaves
the database as it is. -/
theorem query_rejects (isInitialised : Bool) (sql : String) (params : List JsonValue) :
    ∃ error, (query isInitialised sql params).run commands.dispatch database =
      (.error error, database) := by
  apply init_then_rejects
  exact ⟨_, rfl⟩

theorem execute_rejects (isInitialised : Bool) (sql : String)
    (params : List JsonValue) :
    ∃ error, (execute isInitialised sql params).run commands.dispatch database =
      (.error error, database) := by
  apply init_then_rejects
  exact ⟨_, rfl⟩

theorem commitOperations_rejects (operations : List (String × List JsonValue)) :
    ∃ error, (commitOperations operations).run commands.dispatch database =
      (.error error, database) :=
  ⟨_, rfl⟩

/-- Creating a table and reading it back: none of the three calls is decoded. -/
theorem bridge_loses_first_requests :
    dbQueryParameter (queryArgs "SELECT 1" []) = .error (.missing "request") ∧
      dbExecuteParameter (executeArgs "CREATE TABLE t (x)" []) =
        .error (.missing "request") ∧
      dbTransactionParameter
          (transactionArgs [("INSERT INTO t VALUES (?)", [.string "a"])]) =
        .error (.missing "request") ∧
      ¬ QueryRoundTrip "SELECT 1" [] := by
  refine ⟨rfl, rfl, rfl, fun hround => ?_⟩
  obtain ⟨request, hdecoded, -⟩ := hround.1
  cases hdecoded

end NativeDatabaseConnection
end TauriPlatform
