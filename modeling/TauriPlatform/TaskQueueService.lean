import TauriPlatform.HybridLogicalClock
import TauriPlatform.JsonParse
import TauriPlatform.TaskRetryCalculator
import TauriPlatform.TaskTable

/-!
# The durable task queue

`TaskQueueService` keeps background tasks in `core_background_tasks`.  Each
operation is a program over the calls of its executor; the clock readings, the
random draw and the generated id of an operation are its parameters.
-/

namespace TauriPlatform

open Async Relational

/-! ## Definitions and records -/

/-- `Partial<TaskRetryPolicy>` with the numbers a caller may pass. -/
structure PartialRetryPolicy where
  maxAttempts : Option NumberValue := none
  initialDelayMs : Option NumberValue := none
  backoffMultiplier : Option NumberValue := none
  maxDelayMs : Option NumberValue := none
  jitter : Option NumberValue := none

/-- A payload by what `JSON.stringify` does with it: it prints a value, answers
`undefined`, or throws. -/
inductive TaskPayload where
  | json (value : JsonValue)
  | undefined (text : String)
  | unserializable (message : String)

structure TaskDefinition where
  taskType : String
  uniqueKey : Option String := none
  payload : TaskPayload
  scheduledAt : Option String := none
  retryPolicy : PartialRetryPolicy := {}
  timeoutMs : Option NumberValue := none
  organisationId : String
  userId : Option String := none
  correlationId : String

structure TaskRecord where
  row : TaskRow
  payload : JsonValue

namespace TaskQueueService

def maxTaskListSize : Int := 100

def rowToRecord (row : TaskRow) : Except Thrown TaskRecord :=
  match parseJson? row.payloadJson with
  | some payload => .ok { row := row, payload := payload }
  | none =>
      .error (databaseError s!"Task '{row.id}' contains malformed persisted payload JSON"
        "A background task contains invalid stored data." row.correlationId none)

/-! ## Enqueueing -/

structure CheckedDefinition where
  policy : TaskRetryPolicy
  timeoutMs : Int
  payloadJson : String

/-- The error of the local function `invalid`. -/
def invalidField (definition : TaskDefinition) (field value : String) : Thrown :=
  validationError s!"Invalid task definition field {field}: {value}"
    "The background task definition is invalid."
    (if definition.correlationId = "" then "task_definition"
      else definition.correlationId)

def checkedPolicy? (given : PartialRetryPolicy) : Option TaskRetryPolicy := do
  let merge (value : Option NumberValue) (default : JsonNumber) : Option JsonNumber :=
    (value.getD (.finite default)).finite?
  let maxAttempts ← (given.maxAttempts.getD
    (.finite (.integer defaultRetryPolicy.maxAttempts))).safeInteger?
  let initialDelayMs ← merge given.initialDelayMs defaultRetryPolicy.initialDelayMs
  let backoffMultiplier ←
    merge given.backoffMultiplier defaultRetryPolicy.backoffMultiplier
  let maxDelayMs ← merge given.maxDelayMs defaultRetryPolicy.maxDelayMs
  let jitter ← merge given.jitter defaultRetryPolicy.jitter
  if 0 < maxAttempts ∧ ¬ initialDelayMs.isNegative ∧
      backoffMultiplier.isPositive ∧ ¬ maxDelayMs.isNegative ∧
      ¬ jitter.isNegative ∧ ¬ jitter.exceedsOne then
    some {
      maxAttempts := maxAttempts
      initialDelayMs := initialDelayMs
      backoffMultiplier := backoffMultiplier
      maxDelayMs := maxDelayMs
      jitter := jitter }
  else none

def checkedTimeout? (timeoutMs : NumberValue) : Option Int :=
  timeoutMs.safeInteger?.filter (0 < ·)

/-- The checks of `enqueue` on its definition, in their order. -/
def checkDefinition (definition : TaskDefinition) : Except Thrown CheckedDefinition :=
  let timeoutMs := definition.timeoutMs.getD (.finite (.integer 30000))
  if isBlank definition.taskType then
    .error (invalidField definition "taskType" definition.taskType)
  else if isBlank definition.organisationId then
    .error (invalidField definition "organisationId" definition.organisationId)
  else if isBlank definition.correlationId then
    .error (invalidField definition "correlationId" definition.correlationId)
  else
    match checkedPolicy? definition.retryPolicy, checkedTimeout? timeoutMs,
        definition.payload with
    | none, _, _ => .error (invalidField definition "retryPolicy" "[object Object]")
    | some _, none, _ => .error (invalidField definition "timeoutMs" timeoutMs.text)
    | some _, some _, .undefined text => .error (invalidField definition "payload" text)
    | some _, some _, .unserializable message =>
        .error (invalidField definition "payload" message)
    | some policy, some timeoutMs, .json payload =>
        .ok {
          policy := policy
          timeoutMs := timeoutMs
          payloadJson := payload.stringify }

/-- The row which `enqueue` inserts. -/
def newRow (id now : String) (definition : TaskDefinition)
    (checked : CheckedDefinition) : TaskRow where
  id := id
  createdAt := now
  updatedAt := now
  taskType := definition.taskType
  uniqueKey := definition.uniqueKey
  organisationId := definition.organisationId
  userId := definition.userId
  payloadJson := checked.payloadJson
  state := .pending
  attemptCount := 0
  maxAttempts := checked.policy.maxAttempts
  retryDelayMs := checked.policy.initialDelayMs
  backoffMultiplier := checked.policy.backoffMultiplier
  maxRetryDelayMs := checked.policy.maxDelayMs
  retryJitter := checked.policy.jitter
  scheduledAt := definition.scheduledAt.getD now
  startedAt := none
  completedAt := none
  failedAt := none
  lastError := none
  timeoutMs := checked.timeoutMs
  correlationId := definition.correlationId

section Operations

variable {Call : Type → Type 1} (executor : Executor TaskTable Call)

def findActive (uniqueKey : Option String) : Program Call Thrown (Option TaskRow) :=
  match uniqueKey.filter (· ≠ "") with
  | none => pure none
  | some key => do
      let rows ← executor.query (selectActive key)
      pure rows.head?

/-- Insert the row.  When the insert is rejected, the active task of the key is
answered instead, if there is one. -/
def insertOrFindWinner (row : TaskRow) : Program Call Thrown (Option TaskRow) :=
  tryCatch
    (do
      executor.execute (insertStatement row)
      pure none)
    fun insertError => do
      match ← findActive executor row.uniqueKey with
      | some winner => pure (some winner)
      | none => throw insertError

/-- `enqueue`; `id` is the generated task id. -/
def enqueue (id : String) (now : ClockReading) (definition : TaskDefinition) :
    Program Call Thrown TaskRecord := do
  let checked ← Program.ofExcept (checkDefinition definition)
  match ← findActive executor definition.uniqueKey with
  | some existing => Program.ofExcept (rowToRecord existing)
  | none =>
      match ← insertOrFindWinner executor (newRow id now.iso definition checked) with
      | some winner => Program.ofExcept (rowToRecord winner)
      | none =>
          match ← executor.query (selectById id) with
          | row :: _ => Program.ofExcept (rowToRecord row)
          | [] =>
              throw (databaseError
                s!"TaskQueueService.enqueue: failed to retrieve task after insert (id={id})"
                "Failed to create background task." definition.correlationId none)

/-! ## Claiming -/

/-- The loop of `claimNextBatch` over the claimed rows.  Rows with a malformed
payload are taken out; `readings` are the clock readings of the rounds. -/
def collectClaimed (readings : Nat → ClockReading) :
    List TaskRow → Program Call Thrown (List TaskRecord)
  | [] => pure []
  | row :: rest =>
      match rowToRecord row with
      | .ok record => do
          let records ← collectClaimed (fun round => readings (round + 1)) rest
          pure (record :: records)
      | .error error =>
          if error.isDatabaseError then do
            executor.execute (quarantineStatement (readings 0).iso row.id)
            collectClaimed (fun round => readings (round + 1)) rest
          else throw error

/-- `claimNextBatch`; no task types mean all of them. -/
def claimNextBatch (collation : Collation) (now : ClockReading)
    (readings : Nat → ClockReading) (limit : NumberValue) (taskTypes : List String) :
    Program Call Thrown (List TaskRecord) :=
  match limit.safeInteger?.filter (0 < ·) with
  | none =>
      throw (validationError
        ("Task batch limit must be a positive safe integer; received " ++ limit.text)
        "The task batch size is invalid." "task_claim_limit")
  | some limit => do
      let rows ← executor.query (claimStatement now.iso taskTypes limit)
      collectClaimed executor readings
        (rows.insertionSort fun left right =>
          collation.localeCompare left.scheduledAt right.scheduledAt ≤ 0)

/-! ## Finishing -/

def markCompleted (now : ClockReading) (taskId : String) : Program Call Thrown Unit :=
  executor.execute (completeStatement now.iso taskId)

def rowPolicy (row : TaskRow) : TaskRetryPolicy where
  maxAttempts := row.maxAttempts
  initialDelayMs := row.retryDelayMs
  backoffMultiplier := row.backoffMultiplier
  maxDelayMs := row.maxRetryDelayMs
  jitter := row.retryJitter

/-- `new Date(Date.now() + delayMs).toISOString()`. -/
def scheduleAfter (reading : ClockReading) : JsNumber → Except Thrown String
  | .finite delayMs =>
      match toIsoString? (reading.millis + ⌊delayMs⌋) with
      | some text => .ok text
      | none => .error (.builtin "RangeError" "Invalid time value")
  | _ => .error (.builtin "RangeError" "Invalid time value")

/-- `markFailed`; the result is `willRetry`.  `later` is the second clock reading
and `random` the draw of the retry calculator. -/
def markFailed (now later : ClockReading) (random : ℚ) (taskId : String)
    (error : Thrown) : Program Call Thrown Bool := do
  match ← executor.query (selectById taskId) with
  | [] => pure false
  | row :: _ =>
      if row.state ≠ .running then pure false
      else
        let decision :=
          TaskRetryCalculator.decide error row.attemptCount (rowPolicy row) random
        match decision.retryable, decision.delayMs with
        | true, some delayMs => do
            let nextScheduledAt ← Program.ofExcept (scheduleAfter later delayMs)
            let updated ← executor.query (rescheduleStatement nextScheduledAt
              error.message now.iso taskId row.attemptCount)
            pure (updated ≠ [])
        | _, _ => do
            let _ ← executor.query
              (failStatement error.message now.iso taskId row.attemptCount)
            pure false

def cancel (now : ClockReading) (taskId reason : String) : Program Call Thrown Unit :=
  executor.execute (cancelStatement reason now.iso taskId)

end Operations

/-! ## Operations on the connection itself -/

/-- `recoverHangingTasks`; the result is the number of recovered tasks. -/
def recoverHangingTasks (now : ClockReading) (timeoutMs : Int) :
    Program (DbCall TaskTable) Thrown Nat := do
  match toIsoString? (now.millis - timeoutMs) with
  | none => throw (.builtin "RangeError" "Invalid time value")
  | some cutoff => Program.await (.execute (recoverStatement now.iso cutoff))

def listByState (organisationId : String) (state : TaskState) (limit : NumberValue) :
    Program (DbCall TaskTable) Thrown (List TaskRecord) :=
  match limit.safeInteger?.filter (fun limit => 0 < limit ∧ limit ≤ maxTaskListSize) with
  | none =>
      throw (validationError
        ("Task list limit must be a positive safe integer no greater than " ++
          s!"{maxTaskListSize}")
        "The task list size is invalid." "task_list_limit")
  | some limit => do
      let rows ← Program.await (.query (listStatement organisationId state limit))
      Program.ofExcept (rows.mapM rowToRecord)

def findById (taskId : String) :
    Program (DbCall TaskTable) Thrown (Option TaskRecord) := do
  match ← Program.await (.query (selectById taskId)) with
  | [] => pure none
  | row :: _ => do
      let record ← Program.ofExcept (rowToRecord row)
      pure (some record)

end TaskQueueService
end TauriPlatform
