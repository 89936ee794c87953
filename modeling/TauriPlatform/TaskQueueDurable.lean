import TauriPlatform.NativeAgreement
import TauriPlatform.TaskQueueBound

/-!
# The task queue on durable storage

The native database accepts a statement which writes only from `execute`, while the
queue claims tasks, and finishes a failed attempt, by `UPDATE … RETURNING` sent to
`query`.  Every other operation behaves as it does on the in-memory database, as
far as its statements are within the bounds of the native one.
-/

namespace TauriPlatform.TaskQueueService

open Async Relational DurableDatabase

/-! ## Statements -/

variable {table : TaskTable} {params : List JsonValue}

theorem select_addressed {sql : String} {condition : TaskRow → Bool}
    {rest : List TaskRow → List TaskRow} (hsafe : validateSafeSql sql = .ok ()) :
    WellAddressed (.query (selectStatement sql params condition rest)) table :=
  ⟨hsafe, rfl, show taskColumns.length ≤ maxQueryResultColumns by decide⟩

/-- An update without a RETURNING clause may be sent to `execute`. -/
theorem update_addressed {Row : Type} {sql : String} {columns : List (Column Row)}
    {condition : TaskTable → TaskRow → Bool} {set : TaskRow → TaskRow}
    (hsafe : validateSafeSql sql = .ok ()) :
    WellAddressed
      (.execute (updateStatement sql params columns condition set fun _ => [])) table := by
  refine ⟨hsafe, fun result hrun => ?_⟩
  simp only [updateStatement, Statement.run] at hrun
  split at hrun
  · cases hrun
    simp
  · cases hrun

section Texts

set_option maxRecDepth 4000

theorem selectActive_addressed (uniqueKey : String) :
    WellAddressed (.query (selectActive uniqueKey)) table :=
  select_addressed (validateSafeSql_of_command "SELECT" (by decide) (by decide))

theorem selectById_addressed (id : String) :
    WellAddressed (.query (selectById id)) table :=
  select_addressed (validateSafeSql_of_command "SELECT" (by decide) (by decide))

theorem listStatement_addressed (organisationId : String) (state : TaskState)
    (limit : Int) :
    WellAddressed (.query (listStatement organisationId state limit)) table :=
  select_addressed (validateSafeSql_of_command "SELECT" (by decide) (by decide))

theorem insertStatement_addressed (row : TaskRow) :
    WellAddressed (.execute (insertStatement row)) table := by
  refine ⟨validateSafeSql_of_command "INSERT" (by decide) (by decide), ?_⟩
  intro result hrun
  simp only [insertStatement, Statement.run] at hrun
  split at hrun <;> cases hrun
  rfl

theorem completeStatement_addressed (now id : String) :
    WellAddressed (.execute (completeStatement now id)) table :=
  update_addressed (validateSafeSql_of_command "UPDATE" (by decide) (by decide))

theorem cancelStatement_addressed (reason now id : String) :
    WellAddressed (.execute (cancelStatement reason now id)) table :=
  update_addressed (validateSafeSql_of_command "UPDATE" (by decide) (by decide))

theorem recoverStatement_addressed (nowIso cutoff : String) :
    WellAddressed (.execute (recoverStatement nowIso cutoff)) table :=
  update_addressed (validateSafeSql_of_command "UPDATE" (by decide) (by decide))

end Texts

/-! ## Operations on either connection -/

variable {Row : Type}

theorem alike_query (statement : Statement TaskTable Row) :
    Program.Alike ((connectionExecutor TaskTable).query statement)
      ((connectionExecutor TaskTable).query statement) :=
  .await _

theorem alike_execute (statement : Statement TaskTable Row) :
    Program.Alike ((connectionExecutor TaskTable).execute statement)
      ((connectionExecutor TaskTable).execute statement) :=
  .bind (.await _) fun _ => .pure _

theorem alike_findActive (uniqueKey : Option String) :
    Program.Alike (findActive (connectionExecutor TaskTable) uniqueKey)
      (findActive (connectionExecutor TaskTable) uniqueKey) := by
  unfold findActive
  cases uniqueKey.filter (· ≠ "") with
  | none => exact .pure _
  | some key => exact .bind (alike_query _) fun rows => .pure _

theorem alike_enqueue (id : String) (now : ClockReading) (definition : TaskDefinition) :
    Program.Alike (enqueue (connectionExecutor TaskTable) id now definition)
      (enqueue (connectionExecutor TaskTable) id now definition) := by
  have hinsert : ∀ row, Program.Alike (insertOrFindWinner (connectionExecutor TaskTable) row)
      (insertOrFindWinner (connectionExecutor TaskTable) row) := by
    intro row
    refine .tryCatch (.bind (alike_execute _) fun _ => .pure _) fun error error' => ?_
    refine .bind (alike_findActive _) fun winner => ?_
    cases winner with
    | none => exact .throw _ _
    | some winner => exact .pure _
  refine .bind (.ofExcept _) fun checked => .bind (alike_findActive _) fun existing => ?_
  cases existing with
  | some existing => exact .ofExcept _
  | none =>
      refine .bind (hinsert _) fun winner => ?_
      cases winner with
      | some winner => exact .ofExcept _
      | none =>
          refine .bind (alike_query _) fun rows => ?_
          cases rows with
          | nil => exact .throw _ _
          | cons row rest => exact .ofExcept _

theorem alike_collectClaimed (rows : List TaskRow) (readings : Nat → ClockReading) :
    Program.Alike (collectClaimed (connectionExecutor TaskTable) readings rows)
      (collectClaimed (connectionExecutor TaskTable) readings rows) := by
  induction rows generalizing readings with
  | nil => exact .pure _
  | cons row rest ih =>
      unfold collectClaimed
      cases rowToRecord row with
      | ok record => exact .bind (ih _) fun records => .pure _
      | error error =>
          simp only
          split_ifs
          · exact .bind (alike_execute _) fun _ => ih _
          · exact .throw _ _

theorem alike_claimNextBatch (collation : Collation) (now : ClockReading)
    (readings : Nat → ClockReading) (limit : NumberValue) (taskTypes : List String) :
    Program.Alike
      (claimNextBatch (connectionExecutor TaskTable) collation now readings limit taskTypes)
      (claimNextBatch (connectionExecutor TaskTable) collation now readings limit
        taskTypes) := by
  unfold claimNextBatch
  cases limit.safeInteger?.filter (0 < ·) with
  | none => exact .throw _ _
  | some limit => exact .bind (alike_query _) fun rows => alike_collectClaimed _ _

theorem alike_markFailed (now later : ClockReading) (random : ℚ) (taskId : String)
    (error : Thrown) :
    Program.Alike (markFailed (connectionExecutor TaskTable) now later random taskId error)
      (markFailed (connectionExecutor TaskTable) now later random taskId error) := by
  refine .bind (alike_query _) fun rows => ?_
  cases rows with
  | nil => exact .pure _
  | cons row rest =>
      simp only
      split_ifs
      · exact .pure _
      · split
        · exact .bind (.ofExcept _) fun _ => .bind (alike_query _) fun _ => .pure _
        · exact .bind (alike_query _) fun _ => .pure _

theorem alike_recoverHangingTasks (now : ClockReading) (timeoutMs : Int) :
    Program.Alike (recoverHangingTasks now timeoutMs) (recoverHangingTasks now timeoutMs) := by
  unfold recoverHangingTasks
  cases toIsoString? (now.millis - timeoutMs) with
  | none => exact .throw _ _
  | some cutoff => exact .await _

theorem alike_listByState (organisationId : String) (state : TaskState)
    (limit : NumberValue) :
    Program.Alike (listByState organisationId state limit)
      (listByState organisationId state limit) := by
  unfold listByState
  cases limit.safeInteger?.filter fun limit => 0 < limit ∧ limit ≤ maxTaskListSize with
  | none => exact .throw _ _
  | some limit => exact .bind (.await _) fun rows => .ofExcept _

theorem alike_findById (taskId : String) :
    Program.Alike (findById taskId) (findById taskId) := by
  refine .bind (.await _) fun rows => ?_
  cases rows with
  | nil => exact .pure _
  | cons row rest => exact .bind (.ofExcept _) fun record => .pure _

theorem Operation.alike (collation : Collation) (operation : Operation) :
    Program.Alike (operation.program collation) (operation.program collation) := by
  cases operation with
  | enqueue id now definition => exact .bind (alike_enqueue _ _ _) fun _ => .pure _
  | claimNextBatch now readings limit taskTypes =>
      exact .bind (alike_claimNextBatch _ _ _ _ _) fun _ => .pure _
  | markCompleted now taskId => exact .bind (alike_execute _) fun _ => .pure _
  | markFailed now later random taskId error =>
      exact .bind (alike_markFailed _ _ _ _ _) fun _ => .pure _
  | cancel now taskId reason => exact .bind (alike_execute _) fun _ => .pure _
  | recoverHangingTasks now timeoutMs =>
      exact .bind (alike_recoverHangingTasks _ _) fun _ => .pure _
  | listByState organisationId state limit =>
      exact .bind (alike_listByState _ _ _) fun _ => .pure _
  | findById taskId => exact .bind (alike_findById _) fun _ => .pure _

/-! ## Operations which write through `query` -/

/-- The operations which the native database rejects: claiming, and failing a task
which is RUNNING, unless the time of its retry cannot be computed. -/
def Operation.WritesThroughQuery : Operation → TaskTable → Prop
  | .claimNextBatch _ _ limit _, _ =>
      ∃ size, limit.safeInteger?.filter (0 < ·) = some size
  | .markFailed _ later random taskId error, table =>
      ∃ row ∈ table, row.id = taskId ∧ row.state = .running ∧
        ∀ delayMs,
          (TaskRetryCalculator.decide error row.attemptCount (rowPolicy row)
            random).delayMs = some delayMs →
          ∃ nextScheduledAt, scheduleAfter later delayMs = .ok nextScheduledAt
  | _, _ => False

theorem findActive_addressed (uniqueKey : Option String) :
    (findActive (connectionExecutor TaskTable) uniqueKey).Along memoryConnection
      WellAddressed table := by
  unfold findActive
  cases uniqueKey.filter (· ≠ "") with
  | none => trivial
  | some key =>
      rw [Program.along_bind, along_query]
      exact ⟨selectActive_addressed key, fun _ _ _ => trivial⟩

theorem enqueue_addressed (id : String) (now : ClockReading)
    (definition : TaskDefinition) :
    (enqueue (connectionExecutor TaskTable) id now definition).Along memoryConnection
      WellAddressed table := by
  have hinsert : ∀ row (table : TaskTable),
      (insertOrFindWinner (connectionExecutor TaskTable) row).Along memoryConnection
        WellAddressed table := by
    intro row table
    rw [insertOrFindWinner, Program.along_tryCatch, Program.along_bind, along_execute]
    refine ⟨⟨insertStatement_addressed row, fun _ _ _ => trivial⟩, fun error later _ => ?_⟩
    rw [Program.along_bind]
    refine ⟨findActive_addressed _, fun winner _ _ => ?_⟩
    cases winner <;> trivial
  rw [enqueue, Program.along_bind]
  refine ⟨trivial, fun checked _ _ => ?_⟩
  rw [Program.along_bind]
  refine ⟨findActive_addressed _, fun existing _ _ => ?_⟩
  cases existing with
  | some existing => trivial
  | none =>
      rw [Program.along_bind]
      refine ⟨hinsert _ _, fun winner _ _ => ?_⟩
      cases winner with
      | some winner => trivial
      | none =>
          rw [Program.along_bind, along_query]
          refine ⟨selectById_addressed id, fun rows _ _ => ?_⟩
          cases rows <;> trivial

theorem markFailed_addressed {now later : ClockReading} {random : ℚ} {taskId : String}
    {error : Thrown}
    (hreads : ¬ (Operation.markFailed now later random taskId error).WritesThroughQuery
      table) :
    (markFailed (connectionExecutor TaskTable) now later random taskId error).Along
      memoryConnection WellAddressed table := by
  rw [markFailed, Program.along_bind, along_query]
  refine ⟨selectById_addressed taskId, fun rows read hread => ?_⟩
  have hrows : rows = table.select fun row => row.id = taskId := by
    cases hread
    rfl
  cases rows with
  | nil => trivial
  | cons row rest =>
      simp only
      split_ifs with hidle
      · trivial
      · have hmem : row ∈ table.select fun row => row.id = taskId := by
          rw [← hrows]
          exact List.mem_cons_self
        obtain ⟨hrow, hselected⟩ := Table.mem_select.mp hmem
        have hunschedulable : ∃ delayMs,
            (TaskRetryCalculator.decide error row.attemptCount (rowPolicy row)
              random).delayMs = some delayMs ∧
            ∀ nextScheduledAt, scheduleAfter later delayMs ≠ .ok nextScheduledAt := by
          by_contra hschedulable
          push Not at hschedulable
          exact hreads ⟨row, hrow, of_decide_eq_true hselected, not_not.mp hidle,
            hschedulable⟩
        obtain ⟨delayMs, hdelay, hschedule⟩ := hunschedulable
        have hretry : (TaskRetryCalculator.decide error row.attemptCount (rowPolicy row)
            random).retryable = true := by
          by_contra hfinal
          rw [TaskRetryCalculator.decide_delayMs_eq_none (by simpa using hfinal)] at hdelay
          cases hdelay
        rw [hretry, hdelay]
        simp only [Program.along_bind, Program.along_ofExcept, Program.run_ofExcept,
          true_and, Prod.mk.injEq, and_imp]
        intro nextScheduledAt _ hok
        exact absurd hok (hschedule nextScheduledAt)

variable {collation : Collation} {operation : Operation}

theorem Operation.addressed (hreads : ¬ operation.WritesThroughQuery table) :
    (operation.program collation).Along memoryConnection WellAddressed table := by
  cases operation with
  | enqueue id now definition =>
      rw [Operation.program, Program.along_bind]
      exact ⟨enqueue_addressed id now definition, fun _ _ _ => trivial⟩
  | claimNextBatch now readings limit taskTypes =>
      have hinvalid : limit.safeInteger?.filter (0 < ·) = none :=
        Option.eq_none_iff_forall_ne_some.mpr fun size hsize => hreads ⟨size, hsize⟩
      rw [Operation.program, Program.along_bind, TaskQueueService.claimNextBatch, hinvalid]
      exact ⟨trivial, fun _ _ _ => trivial⟩
  | markCompleted now taskId =>
      rw [Operation.program, Program.along_bind, TaskQueueService.markCompleted,
        along_execute]
      exact ⟨completeStatement_addressed _ _, fun _ _ _ => trivial⟩
  | markFailed now later random taskId error =>
      rw [Operation.program, Program.along_bind]
      exact ⟨markFailed_addressed hreads, fun _ _ _ => trivial⟩
  | cancel now taskId reason =>
      rw [Operation.program, Program.along_bind, TaskQueueService.cancel, along_execute]
      exact ⟨cancelStatement_addressed _ _ _, fun _ _ _ => trivial⟩
  | recoverHangingTasks now timeoutMs =>
      rw [Operation.program, Program.along_bind, TaskQueueService.recoverHangingTasks]
      refine ⟨?_, fun _ _ _ => trivial⟩
      cases toIsoString? (now.millis - timeoutMs) with
      | none => trivial
      | some cutoff =>
          exact (Program.along_await _).mpr (recoverStatement_addressed now.iso cutoff)
  | listByState organisationId state limit =>
      rw [Operation.program, Program.along_bind, TaskQueueService.listByState]
      refine ⟨?_, fun _ _ _ => trivial⟩
      cases limit.safeInteger?.filter fun limit => 0 < limit ∧ limit ≤ maxTaskListSize with
      | none => trivial
      | some limit =>
          rw [Program.along_bind, Program.along_await]
          exact ⟨listStatement_addressed _ _ _, fun _ _ _ => trivial⟩
  | findById taskId =>
      rw [Operation.program, Program.along_bind, TaskQueueService.findById,
        Program.along_bind, Program.along_await]
      refine ⟨⟨selectById_addressed taskId, fun rows _ _ => ?_⟩, fun _ _ _ => trivial⟩
      cases rows with
      | nil => trivial
      | cons row rest =>
          rw [Program.along_bind]
          exact ⟨trivial, fun _ _ _ => trivial⟩

/-! ## Sequences of operations -/

/-- Run operations one after another, keeping each answer and the table after it. -/
def trace (collation : Collation)
    (connection : Program.Handler (DbCall TaskTable) Thrown TaskTable) :
    List Operation → TaskTable → List (Except Thrown QueueAnswer × TaskTable)
  | [], _ => []
  | operation :: rest, table =>
      let step := (operation.program collation).run connection table
      step :: trace collation connection rest step.2

/-- An operation which succeeds in memory succeeds on durable storage, with the same
answer and the same table. -/
def MatchesDurably (memory native : Except Thrown QueueAnswer × TaskTable) : Prop :=
  ∀ answer, memory.1 = .ok answer → native = (.ok answer, memory.2)

/-- The condition on one step: no statement which writes is sent to `query`, and
every statement is within the bounds of the native database. -/
structure Operation.Durable (collation : Collation) (operation : Operation)
    (table : TaskTable) : Prop where
  reads : ¬ operation.WritesThroughQuery table
  limits : (operation.program collation).Along memoryConnection WithinLimits table

def AllDurable (collation : Collation) : List Operation → TaskTable → Prop
  | [], _ => True
  | operation :: rest, table =>
      operation.Durable collation table ∧
        AllDurable collation rest
          ((operation.program collation).run memoryConnection table).2

theorem Operation.Durable.agrees {table : TaskTable}
    (hdurable : operation.Durable collation table) :
    Program.SameOutcome ((operation.program collation).run memoryConnection table).1
        ((operation.program collation).run nativeConnection table).1 ∧
      ((operation.program collation).run memoryConnection table).2 =
        ((operation.program collation).run nativeConnection table).2 :=
  run_native_of_alike (operation.alike collation) (Operation.addressed hdurable.reads)
    hdurable.limits

theorem nativeConnection_query_of_write {statement : Statement TaskTable Row}
    (hwrites : statement.readonly = false) (table : TaskTable) :
    ∃ error, nativeConnection (.query statement) table = (.error error, table) := by
  obtain ⟨message, hrejected⟩ := queryJson_of_write hwrites table
  simp [nativeConnection, hrejected]

theorem run_query_of_write {α : Type} (statement : Statement TaskTable Row)
    (hwrites : statement.readonly = false) (next : List Row → Program (DbCall TaskTable) Thrown α)
    (table : TaskTable) :
    ∃ error, ((connectionExecutor TaskTable).query statement >>= next).run
      nativeConnection table = (.error error, table) := by
  obtain ⟨error, hrejected⟩ := nativeConnection_query_of_write hwrites table
  exact ⟨error, Program.run_bind_error next hrejected⟩

theorem markFailed_rejected {now later : ClockReading} {random : ℚ} {taskId : String}
    {error : Thrown} {table : TaskTable}
    (hwrites : (Operation.markFailed now later random taskId error).WritesThroughQuery
      table) :
    ∃ failure,
      (markFailed (connectionExecutor TaskTable) now later random taskId error).run
        nativeConnection table = (.error failure, table) := by
  obtain ⟨row, hrow, hid, hrunning, hschedule⟩ := hwrites
  cases hquery : queryJson (selectById taskId) table with
  | error message =>
      have hread : ∃ failure, nativeConnection (.query (selectById taskId)) table =
          (.error failure, table) := by
        simp [nativeConnection, hquery]
      obtain ⟨failure, hfailure⟩ := hread
      exact ⟨failure, Program.run_bind_error _ hfailure⟩
  | ok rows =>
      have hrows : rows = [row] := by
        rw [eq_readRows_of_queryJson hquery]
        have hselect := Table.select_eq_singleton (fun row : TaskRow => some row.id)
          (by simp [taskIndexes]) hrow (congrArg some hid)
        simpa [selectById, selectStatement, readRows] using hselect
      subst hrows
      have hread : ((connectionExecutor TaskTable).query (selectById taskId)).run
          nativeConnection table = (.ok [row], table) := by
        simp [connectionExecutor, nativeConnection, hquery]
      rw [markFailed, Program.run_bind_ok _ hread]
      simp only [hrunning, ne_eq, not_true_eq_false, if_false]
      split
      · rename_i delayMs hretry hdelay
        obtain ⟨nextScheduledAt, hnext⟩ := hschedule delayMs hdelay
        rw [Program.run_bind_ok _ (congrArg (·, table) hnext)]
        exact run_query_of_write _ rfl _ table
      · exact run_query_of_write _ rfl _ table

theorem Operation.rejected {table : TaskTable} (hwrites : operation.WritesThroughQuery table) :
    ∃ error, (operation.program collation).run nativeConnection table =
      (.error error, table) := by
  cases operation with
  | claimNextBatch now readings limit taskTypes =>
      obtain ⟨size, hsize⟩ := hwrites
      obtain ⟨error, hrejected⟩ :=
        run_query_of_write (claimStatement now.iso taskTypes size) rfl _ table
      refine ⟨error, ?_⟩
      rw [Operation.program, TaskQueueService.claimNextBatch, hsize]
      exact Program.run_bind_error _ hrejected
  | markFailed now later random taskId error =>
      obtain ⟨failure, hfailure⟩ := markFailed_rejected hwrites
      exact ⟨failure, Program.run_bind_error _ hfailure⟩
  | enqueue | markCompleted | cancel | recoverHangingTasks | listByState | findById =>
      exact hwrites.elim

/-! ## One task, claimed and cancelled -/

def oneTask : TaskTable :=
  (((Operation.enqueue "t" (readingAfter 0) (taskWithAttempts 3)).program .codePoint).run
    memoryConnection Table.empty).2

theorem oneTask_claimed :
    (((claimAt 0).program .codePoint).run memoryConnection oneTask).1.isOk = true := by
  decide

def lookUpAndCancel : List Operation :=
  [.findById "t", .cancel (readingAfter 1) "t" "stop"]

theorem findRequest_fits : WithinLimits (.query (selectById "t")) oneTask :=
  ⟨by decide +kernel, by decide +kernel⟩

theorem cancelRequest_fits :
    RequestFits (cancelStatement "stop" (readingAfter 1).iso "t") := by
  decide +kernel

theorem lookUpAndCancel_durable : AllDurable .codePoint lookUpAndCancel oneTask := by
  refine ⟨⟨id, ?_⟩, ⟨id, ?_⟩, trivial⟩
  · rw [Operation.program, Program.along_bind, findById, Program.along_bind,
      Program.along_await]
    refine ⟨⟨findRequest_fits, fun rows _ _ => ?_⟩, fun _ _ _ => trivial⟩
    cases rows with
    | nil => trivial
    | cons row rest =>
        rw [Program.along_bind]
        exact ⟨trivial, fun _ _ _ => trivial⟩
  · rw [Operation.program, Program.along_bind, cancel, along_execute]
    exact ⟨cancelRequest_fits, fun _ _ _ => trivial⟩

end TauriPlatform.TaskQueueService
