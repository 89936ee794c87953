import TauriPlatform.TaskQueueRuns

/-!
# Workers of the task queue

A poll of `TaskWorker` claims tasks and starts a worker for each of them.  When the handler
settles, the worker finishes its task through `markCompleted` or `markFailed`, which know
the id of the task only.  Any number of workers and of callers of the queue are in flight on
one table, and a crash takes away some of them.
-/

namespace TauriPlatform

open Async Relational TaskQueueService

/-! ## Executing a task -/

/-- What the execution of a task meets: whether its type has a handler, how the handler
settles, whether the timeout has passed by then, and the readings made. -/
structure HandlerRun where
  registered : Bool
  outcome : Except Thrown Unit
  aborted : Bool
  completedAt : ClockReading
  failedAt : ClockReading
  rescheduledFrom : ClockReading
  cancelledAt : ClockReading
  random : ℚ

namespace TaskWorker

def executeTask (task : TaskRecord) (run : HandlerRun) :
    Program (DbCall TaskTable) Thrown Unit :=
  if run.registered then
    tryCatch
      (do
        Program.ofExcept run.outcome
        if run.aborted then
          throw (.builtin "Error" s!"Task timed out after {task.row.timeoutMs}ms")
        else
          markCompleted (connectionExecutor TaskTable) run.completedAt task.row.id)
      fun error => do
        let _willRetry ← markFailed (connectionExecutor TaskTable) run.failedAt
          run.rescheduledFrom run.random task.row.id error
        pure ()
  else
    cancel (connectionExecutor TaskTable) run.cancelledAt task.row.id
      s!"No handler registered for \"{task.row.taskType}\"."

/-! ## What is in flight -/

/-- `markCompleted` and `markFailed` are called by workers only. -/
def IsFinish : Operation → Prop
  | .markCompleted _ _ => True
  | .markFailed _ _ _ _ _ => True
  | _ => False

inductive Job where
  | operation (operation : Operation)
  | worker (task : TaskRecord) (run : HandlerRun)

def Job.program (collation : Collation) :
    Job → Program (DbCall TaskTable) Thrown QueueAnswer
  | .operation call => call.program collation
  | .worker task run => do
      executeTask task run
      pure .finished

structure Actor where
  job : Job
  handed : List (String × Int)
  program : Program (DbCall TaskTable) Thrown QueueAnswer

def attemptOf (row : TaskRow) : String × Int :=
  (row.id, row.attemptCount)

def Actor.ofTask (collation : Collation) (work : TaskRecord × HandlerRun) : Actor where
  job := .worker work.1 work.2
  handed := [attemptOf work.1.row]
  program := (Job.worker work.1 work.2).program collation

/-- A row which a worker changed when it finished its task: the attempt which the worker was
handed, and the attempt at which it found the row. -/
structure FinishWrite where
  taskId : String
  handed : Int
  found : Int
  deriving DecidableEq

structure Pool where
  table : TaskTable
  writes : List FinishWrite
  actors : List Actor

def Pool.of (table : TaskTable) : Pool where
  table := table
  writes := []
  actors := []

def handedOut (before after : TaskTable) : List (String × Int) :=
  (after.rows.filter fun row =>
    row.state = .running &&
      !before.rows.any fun old => old.id = row.id && old.state = .running).map attemptOf

def SameOutcome (old new : TaskRow) : Bool :=
  new.id = old.id && new.state = old.state && new.scheduledAt = old.scheduledAt &&
    new.lastError = old.lastError

def finishWrites (job : Job) (before after : TaskTable) : List FinishWrite :=
  match job with
  | .operation _ => []
  | .worker task run =>
      if run.registered then
        (before.rows.filter fun row =>
          row.id = task.row.id && !after.rows.any (SameOutcome row)).map fun row =>
            { taskId := row.id
              handed := task.row.attemptCount
              found := row.attemptCount }
      else []

/-! ## Steps -/

/-- What becomes of a job whose call has been answered.  A poll starts workers for the
claimed tasks, except for those with an id which is in flight already. -/
inductive Continues (collation : Collation) (job : Job) (handed : List (String × Int)) :
    Program (DbCall TaskTable) Thrown QueueAnswer → List Actor → Prop
  | waits {β : Type} (request : DbCall TaskTable β)
      (rest : Except Thrown β → Program (DbCall TaskTable) Thrown QueueAnswer) :
      Continues collation job handed (.call request rest) [⟨job, handed, .call request rest⟩]
  | settles (outcome : Except Thrown QueueAnswer) :
      Continues collation job handed (.done outcome) []
  | dispatches (now : ClockReading) (readings : Nat → ClockReading) (limit : NumberValue)
      (taskTypes : List String) (records : List TaskRecord)
      (work : List (TaskRecord × HandlerRun)) :
      job = .operation (.claimNextBatch now readings limit taskTypes) →
      (work.map Prod.fst).Sublist records →
      Continues collation job handed (.done (.ok (.records records)))
        (work.map (Actor.ofTask collation))

/-- One step.  `Allowed` restricts when a job may have its next call answered, by the table
and by what else is in flight. -/
inductive PoolStep (collation : Collation)
    (Allowed : Job → TaskTable → List Actor → Prop) : Pool → Pool → Prop
  | start (operation : Operation) (table : TaskTable) (writes : List FinishWrite)
      (actors : List Actor) :
      ¬ IsFinish operation →
      PoolStep collation Allowed ⟨table, writes, actors⟩
        ⟨table, writes,
          ⟨.operation operation, [], operation.program collation⟩ :: actors⟩
  | advance {β : Type} (request : DbCall TaskTable β)
      (rest : Except Thrown β → Program (DbCall TaskTable) Thrown QueueAnswer) (job : Job)
      (handed : List (String × Int)) (table later : TaskTable) (answer : Except Thrown β)
      (writes : List FinishWrite) (before continued after : List Actor) :
      memoryConnection request table = (answer, later) →
      Allowed job table (before ++ after) →
      Continues collation job (handed ++ handedOut table later) (rest answer) continued →
      PoolStep collation Allowed
        ⟨table, writes, before ++ ⟨job, handed, .call request rest⟩ :: after⟩
        ⟨later, writes ++ finishWrites job table later, before ++ continued ++ after⟩
  | crash (table : TaskTable) (writes : List FinishWrite) (actors survivors : List Actor) :
      survivors.Sublist actors →
      PoolStep collation Allowed ⟨table, writes, actors⟩ ⟨table, writes, survivors⟩

def PoolReaches (collation : Collation) (Allowed : Job → TaskTable → List Actor → Prop)
    (table : TaskTable) (pool : Pool) : Prop :=
  Relation.ReflTransGen (PoolStep collation Allowed) (Pool.of table) pool

def Fenced (pool : Pool) : Prop :=
  ∀ write ∈ pool.writes, write.found = write.handed

/-- `recoverHangingTasks` only resets tasks whose attempt nothing in flight was handed. -/
def RecoversAbandoned (job : Job) (table : TaskTable) (others : List Actor) : Prop :=
  match job with
  | .operation (.recoverHangingTasks now timeoutMs) =>
      ∀ cutoff, toIsoString? (now.millis - timeoutMs) = some cutoff →
        ∀ row ∈ table, isHanging cutoff row →
          ∀ actor ∈ others, attemptOf row ∉ actor.handed
  | _ => True

end TaskWorker
end TauriPlatform
