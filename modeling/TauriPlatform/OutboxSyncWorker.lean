import TauriPlatform.OutboxService
import TauriPlatform.TaskQueueService

/-!
# The worker which drains the outbox

`OutboxSyncWorker` is the handler of one background task: it loads a bounded batch of the
outbox, dispatches its envelopes one after another and marks every row by how its dispatch
settled.  The worker is given its services; what they call is left open here.
-/

namespace TauriPlatform

open Async OutboxService

namespace OutboxSyncWorker

def outboxSyncTaskType : String :=
  "platform.sync.outbox"

structure Services (Call : Type → Type 1) where
  pendingBatch : String → NumberValue → Program Call Thrown (List OutboxRecord)
  dispatch : (organisationId syncGroupId payloadJson : String) → Program Call Thrown Unit
  markSent : String → Program Call Thrown Unit
  markFailed : String → Program Call Thrown Unit
  upsertCursor : String → Program Call Thrown Unit
  aborted : Program Call Thrown Bool

/-- `batchLimit = 50`; a value which is no number is no safe integer either. -/
def batchLimitOf (payload : JsonValue) : NumberValue :=
  match payload.get? "batchLimit" with
  | none => .finite (.integer 50)
  | some (.number value) => .finite value
  | some _ => .nonFinite "NaN"

section Handler

variable {Call : Type → Type 1} (services : Services Call)

def dispatchEntry (entry : OutboxRecord) : Program Call Thrown Bool :=
  tryCatch
    (do
      services.dispatch entry.row.organisationId entry.row.syncGroupId entry.envelopeJson
      services.markSent entry.row.envelopeId
      pure true)
    fun error => do
      if ← services.aborted then throw error
      else
        services.markFailed entry.row.envelopeId
        pure false

/-- The loop over the batch, with its counters `dispatched` and `failed`. -/
def dispatchAll : List OutboxRecord → (dispatched failed : Nat) →
    Program Call Thrown (Nat × Nat)
  | [], dispatched, failed => pure (dispatched, failed)
  | entry :: entries, dispatched, failed => do
      if ← services.aborted then
        throw (.builtin "Error" "Outbox sync was aborted before the batch completed")
      else if ← dispatchEntry services entry then
        dispatchAll entries (dispatched + 1) failed
      else
        dispatchAll entries dispatched (failed + 1)

def persistCursor (organisationId : String) : Program Call Thrown Unit :=
  tryCatch (services.upsertCursor organisationId) fun _ => pure ()

/-- The rest of `handle`, once a batch has been loaded. -/
def handleBatch (organisationId : String) : List OutboxRecord → Program Call Thrown Unit
  | [] => do
      if ← services.aborted then
        throw (.builtin "Error" "Outbox sync was aborted before completion")
      else persistCursor services organisationId
  | batch@(_ :: _) => do
      let (dispatched, failed) ← dispatchAll services batch 0 0
      if ← services.aborted then
        throw (.builtin "Error" "Outbox sync was aborted before the batch completed")
      else
        persistCursor services organisationId
        if 0 < failed ∧ dispatched = 0 then
          throw (.builtin "Error"
            s!"[OutboxSyncWorker] All {failed} envelopes failed to dispatch.")
        else pure ()

/-- `handle`, in the context of a task of the given organisation. -/
def handle (organisationId : String) (payload : JsonValue) : Program Call Thrown Unit := do
  if (payload.get? "organisationId").bind JsonValue.string? ≠ some organisationId then
    throw (.builtin "Error"
      "Outbox sync organisation does not match the task execution context")
  else if ← services.aborted then
    throw (.builtin "Error" "Outbox sync was aborted before it started")
  else
    let batch ← services.pendingBatch organisationId (batchLimitOf payload)
    handleBatch services organisationId batch

end Handler

/-! ## Scheduling a run -/

def uniqueKeyOf (organisationId : String) : String :=
  s!"sync:outbox:{organisationId}"

def payloadOf (organisationId : String) (batchLimit : NumberValue) : JsonValue :=
  .object [("organisationId", .string organisationId),
    ("batchLimit", match batchLimit with
      | .finite value => .number value
      | .nonFinite _ => .null)]

def definitionOf (organisationId : String) (batchLimit : NumberValue) : TaskDefinition where
  taskType := outboxSyncTaskType
  uniqueKey := some (uniqueKeyOf organisationId)
  payload := .json (payloadOf organisationId batchLimit)
  retryPolicy := {
    maxAttempts := some (.finite (.integer defaultRetryPolicy.maxAttempts))
    initialDelayMs := some (.finite defaultRetryPolicy.initialDelayMs)
    backoffMultiplier := some (.finite defaultRetryPolicy.backoffMultiplier)
    maxDelayMs := some (.finite defaultRetryPolicy.maxDelayMs)
    jitter := some (.finite defaultRetryPolicy.jitter) }
  organisationId := organisationId
  correlationId := "sync-worker"

/-- `enqueueSync`; `id` is the generated task id. -/
def enqueueSync {Call : Type → Type 1} (executor : Executor TaskTable Call) (id : String)
    (now : ClockReading) (organisationId : String) (batchLimit : NumberValue) :
    Program Call Thrown Unit := do
  let _record ← TaskQueueService.enqueue executor id now
    (definitionOf organisationId batchLimit)
  pure ()

end OutboxSyncWorker
end TauriPlatform
