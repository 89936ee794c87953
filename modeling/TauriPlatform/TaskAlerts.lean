import TauriPlatform.TaskHolding

/-!
# Alerts of the workers

A worker whose task failed calls `onNonRetryableError` when `markFailed` says that the task is
not retried.  Here an execution makes that call too, on its own and after the statements of
`markFailed`, so that others may come in between.  Apart from the alert it is the execution of
`TaskWorker`.
-/

namespace TauriPlatform.TaskAlerts

open Async Relational TaskQueueService TaskWorker

inductive WorkerCall : Type → Type 1 where
  | database {β : Type} (request : DbCall TaskTable β) : WorkerCall β
  | onNonRetryableError (taskId taskType : String) (error : Thrown) : WorkerCall Unit

abbrev Execution (α : Type) := Program WorkerCall Thrown α

def workerExecutor : Executor TaskTable WorkerCall where
  query statement := Program.await (.database (.query statement))
  execute statement := do
    let _ ← Program.await (.database (.execute statement))
    pure ()
  executeCounting statement := do
    let rowsAffected ← Program.await (.database (.execute statement))
    pure (some rowsAffected)

/-- What `executeTask` does about an error; an error of the callback is only logged. -/
def handleFailure (task : TaskRecord) (run : HandlerRun) (error : Thrown) : Execution Unit := do
  let willRetry ← markFailed workerExecutor run.failedAt run.rescheduledFrom run.random
    task.row.id error
  if willRetry then pure ()
  else
    tryCatch (Program.await (.onNonRetryableError task.row.id task.row.taskType error))
      fun _callbackError => pure ()

def executeTask (task : TaskRecord) (run : HandlerRun) : Execution Unit :=
  if run.registered then
    tryCatch
      (do
        Program.ofExcept run.outcome
        if run.aborted then
          throw (.builtin "Error" s!"Task timed out after {task.row.timeoutMs}ms")
        else
          markCompleted workerExecutor run.completedAt task.row.id)
      (handleFailure task run)
  else
    cancel workerExecutor run.cancelledAt task.row.id
      s!"No handler registered for \"{task.row.taskType}\"."

/-! ## Without the alerts -/

def quiet {α : Type} : Execution α → Program (DbCall TaskTable) Thrown α
  | .done outcome => .done outcome
  | .call (.database request) rest => .call request fun answer => quiet (rest answer)
  | .call (.onNonRetryableError _ _ _) rest => quiet (rest (.ok ()))

section Quiet

variable {α β : Type}

theorem quiet_bind (program : Execution α) (next : α → Execution β) :
    quiet (program >>= next) = quiet program >>= fun value => quiet (next value) := by
  change quiet (program.bind next) = (quiet program).bind _
  induction program with
  | done outcome => cases outcome <;> rfl
  | call request rest ih =>
      cases request with
      | database request =>
          simp only [Program.bind, quiet, ih]
      | onNonRetryableError taskId taskType error =>
          simp only [Program.bind, quiet, ih]

theorem quiet_tryCatch (program : Execution α) (recover : Thrown → Execution α) :
    quiet (tryCatch program recover) =
      tryCatch (quiet program) fun error => quiet (recover error) := by
  change quiet (program.catchError recover) = (quiet program).catchError _
  induction program with
  | done outcome => cases outcome <;> rfl
  | call request rest ih =>
      cases request with
      | database request =>
          simp only [Program.catchError, quiet, ih]
      | onNonRetryableError taskId taskType error =>
          simp only [Program.catchError, quiet, ih]

theorem quiet_query {Row : Type} (statement : Statement TaskTable Row) :
    quiet (workerExecutor.query statement) = (connectionExecutor TaskTable).query statement :=
  rfl

theorem quiet_execute {Row : Type} (statement : Statement TaskTable Row) :
    quiet (workerExecutor.execute statement) =
      (connectionExecutor TaskTable).execute statement := by
  unfold workerExecutor
  rw [quiet_bind]
  rfl

theorem quiet_markFailed (now later : ClockReading) (random : ℚ) (taskId : String)
    (error : Thrown) :
    quiet (markFailed workerExecutor now later random taskId error) =
      markFailed (connectionExecutor TaskTable) now later random taskId error := by
  unfold markFailed
  rw [quiet_bind, quiet_query]
  congr 1
  funext rows
  cases rows with
  | nil => rfl
  | cons row rest =>
      dsimp only
      split_ifs
      · rfl
      · split
        · rw [quiet_bind]
          congr 1
          funext nextScheduledAt
          rw [quiet_bind, quiet_query]
          rfl
        · rw [quiet_bind, quiet_query]
          rfl

theorem quiet_handleFailure (task : TaskRecord) (run : HandlerRun) (error : Thrown) :
    quiet (handleFailure task run error) = (do
      let _willRetry ← markFailed (connectionExecutor TaskTable) run.failedAt
        run.rescheduledFrom run.random task.row.id error
      pure ()) := by
  unfold handleFailure
  rw [quiet_bind, quiet_markFailed]
  congr 1
  funext willRetry
  cases willRetry with
  | true => rfl
  | false => rfl

/-- Apart from the alerts, this is the execution of `TaskWorker`. -/
theorem quiet_executeTask (task : TaskRecord) (run : HandlerRun) :
    quiet (executeTask task run) = TaskWorker.executeTask task run := by
  unfold executeTask TaskWorker.executeTask
  split_ifs
  · rw [quiet_tryCatch]
    congr 1
    · cases run.outcome with
      | error error => rfl
      | ok value => rfl
    · funext error
      exact quiet_handleFailure task run error
  · rw [quiet_tryCatch]
    congr 1
    · cases run.outcome with
      | error error => rfl
      | ok value => exact quiet_execute _
    · funext error
      exact quiet_handleFailure task run error
  · exact quiet_execute _

end Quiet

/-! ## What is in flight -/

/-- A call of `onNonRetryableError`, and the tasks at that time. -/
structure Alert where
  taskId : String
  table : TaskTable

def Alert.Truthful (alert : Alert) : Prop :=
  ∃ row ∈ alert.table, row.id = alert.taskId ∧ row.state = .failed

/-- A job in flight; an operation with the attempts which it was handed. -/
inductive Actor where
  | operation (operation : Operation) (handed : List (String × Int))
      (program : Program (DbCall TaskTable) Thrown QueueAnswer)
  | worker (task : TaskRecord) (run : HandlerRun) (program : Execution Unit)

def Actor.handed : Actor → List (String × Int)
  | .operation _ handed _ => handed
  | .worker task _ _ => [attemptOf task.row]

structure AlertPool where
  table : TaskTable
  alerts : List Alert
  actors : List Actor

def AlertPool.of (table : TaskTable) : AlertPool where
  table := table
  alerts := []
  actors := []

/-- What becomes of an operation whose call has been answered.  A poll starts workers for the
claimed tasks, except for those with an id which is in flight already. -/
inductive Continues (operation : Operation) (handed : List (String × Int)) :
    Program (DbCall TaskTable) Thrown QueueAnswer → List Actor → Prop
  | waits {β : Type} (request : DbCall TaskTable β)
      (rest : Except Thrown β → Program (DbCall TaskTable) Thrown QueueAnswer) :
      Continues operation handed (.call request rest)
        [.operation operation handed (.call request rest)]
  | settles (outcome : Except Thrown QueueAnswer) :
      Continues operation handed (.done outcome) []
  | dispatches (now : ClockReading) (readings : Nat → ClockReading) (limit : NumberValue)
      (taskTypes : List String) (records : List TaskRecord)
      (work : List (TaskRecord × HandlerRun)) :
      operation = .claimNextBatch now readings limit taskTypes →
      (work.map Prod.fst).Sublist records →
      Continues operation handed (.done (.ok (.records records)))
        (work.map fun job => .worker job.1 job.2 (executeTask job.1 job.2))

def goesOn (task : TaskRecord) (run : HandlerRun) : Execution Unit → List Actor
  | .done _ => []
  | program => [.worker task run program]

/-- One step.  A statement may fail without an effect, and the callback may throw.  `Allowed`
restricts when an actor may have its next call answered, by the table and by what else is in
flight. -/
inductive AlertStep (collation : Collation)
    (Allowed : Actor → TaskTable → List Actor → Prop) : AlertPool → AlertPool → Prop
  | start (operation : Operation) (table : TaskTable) (alerts : List Alert)
      (actors : List Actor) :
      ¬ IsFinish operation →
      AlertStep collation Allowed ⟨table, alerts, actors⟩
        ⟨table, alerts, .operation operation [] (operation.program collation) :: actors⟩
  | operate {β : Type} (request : DbCall TaskTable β)
      (rest : Except Thrown β → Program (DbCall TaskTable) Thrown QueueAnswer)
      (operation : Operation) (handed : List (String × Int)) (table later : TaskTable)
      (answer : Except Thrown β) (alerts : List Alert) (before continued after : List Actor) :
      fallible memoryConnection request table answer later →
      Allowed (.operation operation handed (.call request rest)) table (before ++ after) →
      Continues operation (handed ++ handedOut table later) (rest answer) continued →
      AlertStep collation Allowed
        ⟨table, alerts, before ++ .operation operation handed (.call request rest) :: after⟩
        ⟨later, alerts, before ++ continued ++ after⟩
  | work {β : Type} (request : DbCall TaskTable β) (rest : Except Thrown β → Execution Unit)
      (task : TaskRecord) (run : HandlerRun) (table later : TaskTable)
      (answer : Except Thrown β) (alerts : List Alert) (before after : List Actor) :
      fallible memoryConnection request table answer later →
      Allowed (.worker task run (.call (.database request) rest)) table (before ++ after) →
      AlertStep collation Allowed
        ⟨table, alerts, before ++ .worker task run (.call (.database request) rest) :: after⟩
        ⟨later, alerts, before ++ goesOn task run (rest answer) ++ after⟩
  | alert (taskId taskType : String) (error : Thrown)
      (rest : Except Thrown Unit → Execution Unit) (task : TaskRecord) (run : HandlerRun)
      (table : TaskTable) (answer : Except Thrown Unit) (alerts : List Alert)
      (before after : List Actor) :
      AlertStep collation Allowed
        ⟨table, alerts, before ++
          .worker task run (.call (.onNonRetryableError taskId taskType error) rest) :: after⟩
        ⟨table, alerts ++ [⟨taskId, table⟩], before ++ goesOn task run (rest answer) ++ after⟩
  | crash (table : TaskTable) (alerts : List Alert) (actors survivors : List Actor) :
      survivors.Sublist actors →
      AlertStep collation Allowed ⟨table, alerts, actors⟩ ⟨table, alerts, survivors⟩

def AlertReaches (collation : Collation) (Allowed : Actor → TaskTable → List Actor → Prop)
    (table : TaskTable) (pool : AlertPool) : Prop :=
  Relation.ReflTransGen (AlertStep collation Allowed) (AlertPool.of table) pool

def Truthful (pool : AlertPool) : Prop :=
  ∀ alert ∈ pool.alerts, alert.Truthful

/-- `cancel` and `recoverHangingTasks` take no running task away of which something in flight
was handed the attempt. -/
def TakesAbandoned (actor : Actor) (table : TaskTable) (others : List Actor) : Prop :=
  match actor with
  | .operation (.cancel _ taskId _) _ _ =>
      ∀ row ∈ table, row.id = taskId → row.state = .running →
        ∀ other ∈ others, attemptOf row ∉ other.handed
  | .operation (.recoverHangingTasks now timeoutMs) _ _ =>
      ∀ cutoff, toIsoString? (now.millis - timeoutMs) = some cutoff →
        ∀ row ∈ table, isHanging cutoff row →
          ∀ other ∈ others, attemptOf row ∉ other.handed
  | _ => True

end TauriPlatform.TaskAlerts
