import TauriPlatform.DatabaseConnection
import TauriPlatform.RelationalTable

/-!
# The table of background tasks

The rows of `core_background_tasks` and the statements of `TaskQueueService` on
them.  No update gives a row a new key, so none is ever rejected by an index.
-/

namespace TauriPlatform

open Async Relational

/-! ## The table -/

inductive TaskState where
  | pending
  | running
  | completed
  | failed
  | cancelled
  deriving DecidableEq, Repr

def TaskState.text : TaskState → String
  | .pending => "PENDING"
  | .running => "RUNNING"
  | .completed => "COMPLETED"
  | .failed => "FAILED"
  | .cancelled => "CANCELLED"

/-- `state IN ('PENDING', 'RUNNING')`. -/
def TaskState.isActive (state : TaskState) : Bool :=
  state = .pending || state = .running

/-- A row of `core_background_tasks`. -/
structure TaskRow where
  id : String
  createdAt : String
  updatedAt : String
  taskType : String
  uniqueKey : Option String
  organisationId : String
  userId : Option String
  payloadJson : String
  state : TaskState
  attemptCount : Int
  maxAttempts : Int
  retryDelayMs : JsonNumber
  backoffMultiplier : JsonNumber
  maxRetryDelayMs : JsonNumber
  retryJitter : JsonNumber
  scheduledAt : String
  startedAt : Option String
  completedAt : Option String
  failedAt : Option String
  lastError : Option String
  timeoutMs : Int
  correlationId : String
  deriving DecidableEq

def SqlValue.ofNumber : JsonNumber → SqlValue
  | .integer value => .integer value
  | .fraction significand places reduced => .real (.fraction significand places reduced)

def taskColumns : List (Column TaskRow) :=
  [⟨"id", fun row => .text row.id⟩,
    ⟨"created_at", fun row => .text row.createdAt⟩,
    ⟨"updated_at", fun row => .text row.updatedAt⟩,
    ⟨"task_type", fun row => .text row.taskType⟩,
    ⟨"unique_key", fun row => .ofText? row.uniqueKey⟩,
    ⟨"organisation_id", fun row => .text row.organisationId⟩,
    ⟨"user_id", fun row => .ofText? row.userId⟩,
    ⟨"payload_json", fun row => .text row.payloadJson⟩,
    ⟨"state", fun row => .text row.state.text⟩,
    ⟨"attempt_count", fun row => .integer row.attemptCount⟩,
    ⟨"max_attempts", fun row => .integer row.maxAttempts⟩,
    ⟨"retry_delay_ms", fun row => .ofNumber row.retryDelayMs⟩,
    ⟨"backoff_multiplier", fun row => .real row.backoffMultiplier⟩,
    ⟨"max_retry_delay_ms", fun row => .ofNumber row.maxRetryDelayMs⟩,
    ⟨"scheduled_at", fun row => .text row.scheduledAt⟩,
    ⟨"started_at", fun row => .ofText? row.startedAt⟩,
    ⟨"completed_at", fun row => .ofText? row.completedAt⟩,
    ⟨"failed_at", fun row => .ofText? row.failedAt⟩,
    ⟨"last_error", fun row => .ofText? row.lastError⟩,
    ⟨"timeout_ms", fun row => .integer row.timeoutMs⟩,
    ⟨"correlation_id", fun row => .text row.correlationId⟩,
    ⟨"retry_jitter", fun row => .real row.retryJitter⟩]

/-- The key of a row in the partial unique index: only active tasks are in it. -/
def activeKey (row : TaskRow) : Option String :=
  if row.state.isActive then row.uniqueKey else none

def taskIndexes : List (UniqueIndex TaskRow String) :=
  [fun row => some row.id, activeKey]

abbrev TaskTable := Table TaskRow String taskIndexes

namespace TaskQueueService

/-! ## Statements -/

/-- `SELECT … WHERE`, with the rest of the query as a function of the rows. -/
def selectStatement (sql : String) (params : List JsonValue)
    (condition : TaskRow → Bool) (rest : List TaskRow → List TaskRow) :
    Statement TaskTable TaskRow where
  sql := sql
  params := params
  columns := taskColumns
  effect := .read fun table => rest (table.select condition)

/-- `UPDATE … SET … WHERE`.  The condition may depend on the table, as a subquery
does; `returning` lists what is returned for an updated row. -/
def updateStatement {Row : Type} (sql : String) (params : List JsonValue)
    (columns : List (Column Row)) (condition : TaskTable → TaskRow → Bool)
    (set : TaskRow → TaskRow) (returning : TaskRow → List Row) :
    Statement TaskTable Row where
  sql := sql
  params := params
  columns := columns
  effect := .write fun table =>
    match table.update? (condition table) set with
    | some later =>
        let updated := (table.select (condition table)).map set
        .ok { database := later
              rows := updated.flatMap returning
              rowsAffected := updated.length }
    | none => .error "UNIQUE constraint failed: core_background_tasks"

def selectActive (uniqueKey : String) : Statement TaskTable TaskRow :=
  selectStatement
    "SELECT * FROM core_background_tasks
           WHERE unique_key = ? AND state IN ('PENDING', 'RUNNING')
           LIMIT 1"
    [.string uniqueKey]
    (fun row => row.uniqueKey = some uniqueKey && row.state.isActive)
    (fun rows => rows.take 1)

def selectById (id : String) : Statement TaskTable TaskRow :=
  selectStatement "SELECT * FROM core_background_tasks WHERE id = ?" [.string id]
    (fun row => row.id = id) (fun rows => rows)

def insertStatement (row : TaskRow) : Statement TaskTable Unit where
  sql := "INSERT INTO core_background_tasks (
        id, created_at, updated_at, task_type, unique_key,
        organisation_id, user_id, payload_json, state,
        attempt_count, max_attempts, retry_delay_ms, backoff_multiplier, max_retry_delay_ms,
        retry_jitter, scheduled_at, timeout_ms, correlation_id
      ) VALUES (?, ?, ?, ?, ?, ?, ?, ?, 'PENDING', 0, ?, ?, ?, ?, ?, ?, ?, ?)"
  params := [.string row.id, .string row.createdAt, .string row.updatedAt,
    .string row.taskType, .ofString? row.uniqueKey, .string row.organisationId,
    .ofString? row.userId, .string row.payloadJson, .number (.integer row.maxAttempts),
    .number row.retryDelayMs, .number row.backoffMultiplier,
    .number row.maxRetryDelayMs, .number row.retryJitter, .string row.scheduledAt,
    .number (.integer row.timeoutMs), .string row.correlationId]
  columns := []
  effect := .write fun table =>
    match table.insert? row with
    | some later => .ok { database := later, rows := [], rowsAffected := 1 }
    | none => .error "UNIQUE constraint failed: core_background_tasks"

/-- The rows which `claimNextBatch` may take at a time. -/
def isDue (now : String) (taskTypes : List String) (row : TaskRow) : Bool :=
  row.state = .pending && row.scheduledAt ≤ now &&
    (taskTypes = [] || row.taskType ∈ taskTypes)

/-- The subquery of `claimNextBatch`: the ids of the due rows which are first by
their scheduled time. -/
def dueIds (table : TaskTable) (now : String) (taskTypes : List String)
    (limit : Nat) : List String :=
  ((Table.orderBy (fun left right => left.scheduledAt ≤ right.scheduledAt)
    (table.select (isDue now taskTypes))).take limit).map TaskRow.id

def claimed (now : String) (row : TaskRow) : TaskRow :=
  { row with
    state := .running
    startedAt := some now
    updatedAt := now
    attemptCount := row.attemptCount + 1 }

def claimStatement (now : String) (taskTypes : List String) (limit : Int) :
    Statement TaskTable TaskRow :=
  let typeFilter :=
    if taskTypes = [] then ""
    else "AND task_type IN (" ++ ",".intercalate (taskTypes.map fun _ => "?") ++ ")"
  updateStatement
    ("UPDATE core_background_tasks
         SET state = 'RUNNING',
             started_at = ?,
             updated_at = ?,
             attempt_count = attempt_count + 1
       WHERE id IN (
         SELECT id FROM core_background_tasks
         WHERE state = 'PENDING' AND scheduled_at <= ? " ++ typeFilter ++ "
         ORDER BY scheduled_at ASC
         LIMIT ?
       )
         AND state = 'PENDING'
       RETURNING *")
    ([.string now, .string now, .string now] ++ taskTypes.map .string ++
      [.number (.integer limit)])
    taskColumns
    (fun table row => row.id ∈ dueIds table now taskTypes limit.toNat &&
      row.state = .pending)
    (claimed now) (fun row => [row])

def quarantined (now : String) (row : TaskRow) : TaskRow :=
  { row with
    state := .failed
    failedAt := some now
    lastError := some "Task payload contains malformed JSON"
    updatedAt := now }

def quarantineStatement (now id : String) : Statement TaskTable Unit :=
  updateStatement
    "UPDATE core_background_tasks
             SET state = 'FAILED', failed_at = ?, last_error = ?, updated_at = ?
           WHERE id = ? AND state = 'RUNNING'"
    [.string now, .string "Task payload contains malformed JSON", .string now,
      .string id]
    [] (fun _ row => row.id = id && row.state = .running) (quarantined now)
    (fun _ => [])

def completed (now : String) (row : TaskRow) : TaskRow :=
  { row with state := .completed, completedAt := some now, updatedAt := now }

def completeStatement (now id : String) : Statement TaskTable Unit :=
  updateStatement
    "UPDATE core_background_tasks
         SET state = 'COMPLETED', completed_at = ?, updated_at = ?
       WHERE id = ? AND state = 'RUNNING'"
    [.string now, .string now, .string id]
    [] (fun _ row => row.id = id && row.state = .running) (completed now)
    (fun _ => [])

def rescheduled (nextScheduledAt errorMessage now : String) (row : TaskRow) : TaskRow :=
  { row with
    state := .pending
    scheduledAt := nextScheduledAt
    lastError := some errorMessage
    failedAt := none
    updatedAt := now }

/-- The column of `RETURNING id`. -/
def idColumn : Column String where
  name := "id"
  cell := .text

def rescheduleStatement (nextScheduledAt errorMessage now id : String)
    (attemptCount : Int) : Statement TaskTable String :=
  updateStatement
    "UPDATE core_background_tasks
           SET state = 'PENDING',
               scheduled_at = ?,
               last_error = ?,
               failed_at = NULL,
               updated_at = ?
         WHERE id = ? AND state = 'RUNNING' AND attempt_count = ?
         RETURNING id"
    [.string nextScheduledAt, .string errorMessage, .string now, .string id,
      .number (.integer attemptCount)]
    [idColumn]
    (fun _ row => row.id = id && row.state = .running && row.attemptCount = attemptCount)
    (rescheduled nextScheduledAt errorMessage now) (fun row => [row.id])

def failed (errorMessage now : String) (row : TaskRow) : TaskRow :=
  { row with
    state := .failed
    failedAt := some now
    lastError := some errorMessage
    updatedAt := now }

def failStatement (errorMessage now id : String) (attemptCount : Int) :
    Statement TaskTable String :=
  updateStatement
    "UPDATE core_background_tasks
           SET state = 'FAILED',
               failed_at = ?,
               last_error = ?,
               updated_at = ?
         WHERE id = ? AND state = 'RUNNING' AND attempt_count = ?
         RETURNING id"
    [.string now, .string errorMessage, .string now, .string id,
      .number (.integer attemptCount)]
    [idColumn]
    (fun _ row => row.id = id && row.state = .running && row.attemptCount = attemptCount)
    (failed errorMessage now) (fun row => [row.id])

def cancelled (reason now : String) (row : TaskRow) : TaskRow :=
  { row with state := .cancelled, lastError := some reason, updatedAt := now }

def cancelStatement (reason now id : String) : Statement TaskTable Unit :=
  updateStatement
    "UPDATE core_background_tasks
         SET state = 'CANCELLED', last_error = ?, updated_at = ?
       WHERE id = ? AND state IN ('PENDING', 'RUNNING')"
    [.string reason, .string now, .string id]
    [] (fun _ row => row.id = id && row.state.isActive) (cancelled reason now)
    (fun _ => [])

def recovered (nowIso : String) (row : TaskRow) : TaskRow :=
  { row with
    state := .pending
    startedAt := none
    lastError := some "Recovered after process crash or timeout"
    updatedAt := nowIso
    scheduledAt := nowIso }

/-- The rows which `recoverHangingTasks` resets; a missing start time compares as
unknown. -/
def isHanging (cutoff : String) (row : TaskRow) : Bool :=
  row.state = .running && row.startedAt.any (· ≤ cutoff)

def recoverStatement (nowIso cutoff : String) : Statement TaskTable Unit :=
  updateStatement
    "UPDATE core_background_tasks
         SET state = 'PENDING',
             started_at = NULL,
             last_error = 'Recovered after process crash or timeout',
             updated_at = ?,
             scheduled_at = ?
       WHERE state = 'RUNNING' AND started_at <= ?"
    [.string nowIso, .string nowIso, .string cutoff]
    [] (fun _ => isHanging cutoff) (recovered nowIso) (fun _ => [])

def listStatement (organisationId : String) (state : TaskState) (limit : Int) :
    Statement TaskTable TaskRow :=
  selectStatement
    "SELECT * FROM core_background_tasks
         WHERE organisation_id = ? AND state = ?
         ORDER BY created_at DESC
         LIMIT ?"
    [.string organisationId, .string state.text, .number (.integer limit)]
    (fun row => row.organisationId = organisationId && row.state = state)
    (fun rows =>
      (Table.orderBy (fun left right => right.createdAt ≤ left.createdAt) rows).take
        limit.toNat)

/-! ## What the updates do -/

/-- An update which leaves the id, the key and the number of attempts allowed
alone, and makes no finished task active again. -/
structure KeepsKeys (old new : TaskRow) : Prop where
  id : new.id = old.id
  uniqueKey : new.uniqueKey = old.uniqueKey
  active : new.state.isActive → old.state.isActive

theorem KeepsKeys.index_eq {old new : TaskRow} (hkeys : KeepsKeys old new) :
    ∀ index ∈ taskIndexes, index new = index old ∨ index new = none := by
  intro index hindex
  simp only [taskIndexes, List.mem_cons, List.not_mem_nil, or_false] at hindex
  rcases hindex with rfl | rfl
  · exact .inl (congrArg some hkeys.id)
  · by_cases hactive : new.state.isActive
    · left
      simp [activeKey, hactive, hkeys.active hactive, hkeys.uniqueKey]
    · right
      simp [activeKey, hactive]

theorem updateStatement_run {Row : Type} (sql : String) (params : List JsonValue)
    (columns : List (Column Row)) (condition : TaskTable → TaskRow → Bool)
    (set : TaskRow → TaskRow) (returning : TaskRow → List Row) {table : TaskTable}
    (hkeys : ∀ row ∈ table, condition table row → KeepsKeys row (set row)) :
    ∃ later : TaskTable,
      (updateStatement sql params columns condition set returning).run table = .ok
        { database := later
          rows := ((table.select (condition table)).map set).flatMap returning
          rowsAffected := ((table.select (condition table)).map set).length } ∧
      later.rows = table.rows.map (Table.updateRow (condition table) set) := by
  have hsome : (table.update? (condition table) set).isSome := by
    apply Table.update?_isSome
    intro index hindex row hrow hcondition
    exact (hkeys row hrow hcondition).index_eq index hindex
  obtain ⟨later, hlater⟩ := Option.isSome_iff_exists.mp hsome
  refine ⟨later, ?_, Table.update?_eq_some_iff.mp hlater⟩
  simp only [updateStatement, Statement.run, hlater]

theorem claimed_keepsKeys {now : String} {row : TaskRow} (hpending : row.state = .pending) :
    KeepsKeys row (claimed now row) :=
  ⟨rfl, rfl, fun _ => by simp [hpending, TaskState.isActive]⟩

theorem quarantined_keepsKeys (now : String) (row : TaskRow) :
    KeepsKeys row (quarantined now row) :=
  ⟨rfl, rfl, fun hactive => by simp [quarantined, TaskState.isActive] at hactive⟩

theorem completed_keepsKeys (now : String) (row : TaskRow) :
    KeepsKeys row (completed now row) :=
  ⟨rfl, rfl, fun hactive => by simp [completed, TaskState.isActive] at hactive⟩

theorem rescheduled_keepsKeys {nextScheduledAt errorMessage now : String}
    {row : TaskRow} (hrunning : row.state = .running) :
    KeepsKeys row (rescheduled nextScheduledAt errorMessage now row) :=
  ⟨rfl, rfl, fun _ => by simp [hrunning, TaskState.isActive]⟩

theorem failed_keepsKeys (errorMessage now : String) (row : TaskRow) :
    KeepsKeys row (failed errorMessage now row) :=
  ⟨rfl, rfl, fun hactive => by simp [failed, TaskState.isActive] at hactive⟩

theorem cancelled_keepsKeys (reason now : String) (row : TaskRow) :
    KeepsKeys row (cancelled reason now row) :=
  ⟨rfl, rfl, fun hactive => by simp [cancelled, TaskState.isActive] at hactive⟩

theorem recovered_keepsKeys {nowIso : String} {row : TaskRow}
    (hrunning : row.state = .running) :
    KeepsKeys row (recovered nowIso row) :=
  ⟨rfl, rfl, fun _ => by simp [hrunning, TaskState.isActive]⟩

theorem recoverStatement_run (nowIso cutoff : String) (table : TaskTable) :
    ∃ result, (recoverStatement nowIso cutoff).run table = .ok result ∧
      result.database.rows =
        table.rows.map (Table.updateRow (isHanging cutoff) (recovered nowIso)) := by
  have hkeys : ∀ row ∈ table, isHanging cutoff row → KeepsKeys row (recovered nowIso row) := by
    intro row _ hhanging
    have hrunning : row.state = .running := by
      simpa using (Bool.and_eq_true_iff.mp hhanging).1
    exact recovered_keepsKeys hrunning
  obtain ⟨later, hrun, hlater⟩ :=
    updateStatement_run _ _ _ (fun _ => isHanging cutoff) (recovered nowIso) _ hkeys
  exact ⟨_, hrun, hlater⟩

end TaskQueueService
end TauriPlatform
