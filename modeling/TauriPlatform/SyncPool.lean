import TauriPlatform.OutboxAccounting
import TauriPlatform.TaskQueueCalls

/-!
# Workers of the outbox and their tasks

Envelopes are enqueued, sync tasks are enqueued under one key an organisation, and workers
claim the tasks and drain the outbox, all in flight on one database.  Beside the outbox and
the tasks the state keeps every dispatch there was.
-/

namespace TauriPlatform.OutboxSyncWorker

open Async Relational TaskQueueService

structure SyncState where
  deliveries : Deliveries
  tasks : TaskTable

inductive SyncCall : Type → Type 1
  | send {β : Type} (request : SendCall β) : SyncCall β
  | tasks {β : Type} (request : DbCall TaskTable β) : SyncCall β

def sending : Environment SendCall Thrown Deliveries
  | _, .database request, state, answer, later =>
      fallible memoryConnection request state.database answer later.database ∧
        later.dispatches = state.dispatches
  | _, request, state, answer, later => delivering request state answer later

def syncing : Environment SyncCall Thrown SyncState
  | _, .send request, state, answer, later =>
      sending request state.deliveries answer later.deliveries ∧ later.tasks = state.tasks
  | _, .tasks request, state, answer, later =>
      fallible memoryConnection request state.tasks answer later.tasks ∧
        later.deliveries = state.deliveries

/-! ## Jobs -/

def settleTask (task : TaskRecord) (run : HandlerRun) (handler : Program SyncCall Thrown Unit) :
    Program SyncCall Thrown Unit :=
  tryCatch
    (do
      handler
      if ← Program.await (.send .aborted) then
        throw (.builtin "Error" s!"Task timed out after {task.row.timeoutMs}ms")
      else
        (markCompleted (connectionExecutor TaskTable) run.completedAt task.row.id).mapCall
          fun _ => .tasks)
    fun error => do
      let _willRetry ← (TaskQueueService.markFailed (connectionExecutor TaskTable) run.failedAt
        run.rescheduledFrom run.random task.row.id error).mapCall fun _ => SyncCall.tasks
      pure ()

/-- `executeTask` of a sync task, whose handler is `handle`. -/
def executeSyncTask (task : TaskRecord) (run : HandlerRun) :
    Program SyncCall Thrown Unit :=
  if run.registered then
    settleTask task run ((handle outboxServices task.row.organisationId task.payload).mapCall
      fun _ => .send)
  else
    (cancel (connectionExecutor TaskTable) run.cancelledAt task.row.id
      s!"No handler registered for \"{task.row.taskType}\".").mapCall fun _ => .tasks

/-- A call of one of the services, or the execution of a claimed task. -/
inductive SyncJob where
  | enqueue (id : String) (now : ClockReading) (envelope : JsonValue)
  | enqueueSync (id : String) (now : ClockReading) (organisationId : String)
      (batchLimit : NumberValue)
  | operation (call : Operation)
  | worker (task : TaskRecord) (run : HandlerRun)

def SyncJob.IsCall : SyncJob → Prop
  | .operation call => ¬ TaskWorker.IsFinish call
  | .worker _ _ => False
  | _ => True

def SyncJob.program (collation : Collation) : SyncJob → Program SyncCall Thrown QueueAnswer
  | .enqueue id now envelope => do
      (DeliveryJob.program (.enqueue id now envelope)).mapCall fun _ => SyncCall.send
      pure .finished
  | .enqueueSync id now organisationId batchLimit => do
      (OutboxSyncWorker.enqueueSync (connectionExecutor TaskTable) id now organisationId
        batchLimit).mapCall fun _ => SyncCall.tasks
      pure .finished
  | .operation call => (call.program collation).mapCall fun _ => .tasks
  | .worker task run => do
      if task.row.taskType = outboxSyncTaskType then executeSyncTask task run
      else (TaskWorker.executeTask task run).mapCall fun _ => SyncCall.tasks
      pure .finished

/-! ## Steps -/

abbrev SyncThread := Thread SyncJob SyncCall Thrown QueueAnswer

abbrev SyncSystem := System SyncJob SyncCall Thrown QueueAnswer SyncState

def workerThread (collation : Collation) (work : TaskRecord × HandlerRun) : SyncThread :=
  ⟨.worker work.1 work.2, (SyncJob.worker work.1 work.2).program collation⟩

/-- One step.  A poll executes the tasks it has claimed, except for those with an id which is
in flight already; a crash takes away some of what is in flight. -/
inductive SyncStep (collation : Collation) : SyncSystem → SyncSystem → Prop
  | start (job : SyncJob) (state : SyncState) (threads : List SyncThread) :
      job.IsCall →
      SyncStep collation ⟨state, threads⟩ ⟨state, ⟨job, job.program collation⟩ :: threads⟩
  | advance {β : Type} (request : SyncCall β)
      (rest : Except Thrown β → Program SyncCall Thrown QueueAnswer) (job : SyncJob)
      (state : SyncState) (before after : List SyncThread) (answer : Except Thrown β)
      (later : SyncState) :
      syncing request state answer later →
      SyncStep collation ⟨state, before ++ ⟨job, .call request rest⟩ :: after⟩
        ⟨later, before ++ ⟨job, rest answer⟩ :: after⟩
  | dispatch (now : ClockReading) (readings : Nat → ClockReading) (limit : NumberValue)
      (taskTypes : List String) (records : List TaskRecord)
      (work : List (TaskRecord × HandlerRun)) (state : SyncState)
      (before after : List SyncThread) :
      (work.map Prod.fst).Sublist records →
      SyncStep collation
        ⟨state, before ++ ⟨.operation (.claimNextBatch now readings limit taskTypes),
          .done (.ok (.records records))⟩ :: after⟩
        ⟨state, before ++ work.map (workerThread collation) ++ after⟩
  | crash (state : SyncState) (threads survivors : List SyncThread) :
      survivors.Sublist threads →
      SyncStep collation ⟨state, threads⟩ ⟨state, survivors⟩

def SyncReaches (collation : Collation) (state : SyncState) (system : SyncSystem) : Prop :=
  Relation.ReflTransGen (SyncStep collation) ⟨state, []⟩ system

end TauriPlatform.OutboxSyncWorker
