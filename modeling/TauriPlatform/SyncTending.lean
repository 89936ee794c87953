import TauriPlatform.SyncServing
import TauriPlatform.TaskHolding

/-!
# What a run does to the tasks

No task is lost or leaves its organisation, its type and its payload, and only the worker of a
task completes it.  What a poll hands to a worker is a row of the table.
-/

namespace TauriPlatform.OutboxSyncWorker

open Async Relational TaskQueueService

/-! ## From a moment to a later one -/

/-- A task under the statements of the queue: it stays what it is, and once it has ended it is
never active again. -/
structure TaskKept (task new : TaskRow) : Prop extends KeepsKeys task new where
  taskType : new.taskType = task.taskType
  organisationId : new.organisationId = task.organisationId
  payloadJson : new.payloadJson = task.payloadJson

def TasksKept (before after : TaskTable) : Prop :=
  ∀ task ∈ before, ∃ new ∈ after, TaskKept task new

structure Tended (own : Set String) (before after : TaskTable) : Prop where
  kept : TasksKept before after
  completed : ∀ new ∈ after, new.state = .completed →
    new.id ∈ own ∨ ∃ task ∈ before, task.id = new.id ∧ task.state = .completed

structure SyncFollows (start later : SyncState) : Prop where
  deliveries : Follows start.deliveries later.deliveries
  tasks : TasksKept start.tasks later.tasks

theorem TaskKept.refl (task : TaskRow) : TaskKept task task :=
  ⟨⟨rfl, rfl, fun hactive => hactive⟩, rfl, rfl, rfl⟩

theorem TaskKept.trans {task new last : TaskRow} (hfirst : TaskKept task new)
    (hsecond : TaskKept new last) : TaskKept task last where
  id := hsecond.id.trans hfirst.id
  uniqueKey := hsecond.uniqueKey.trans hfirst.uniqueKey
  active hactive := hfirst.active (hsecond.active hactive)
  taskType := hsecond.taskType.trans hfirst.taskType
  organisationId := hsecond.organisationId.trans hfirst.organisationId
  payloadJson := hsecond.payloadJson.trans hfirst.payloadJson

theorem Tended.refl (own : Set String) (table : TaskTable) : Tended own table table where
  kept task htask := ⟨task, htask, .refl task⟩
  completed new hnew hstate := Or.inr ⟨new, hnew, rfl, hstate⟩

theorem SyncFollows.refl (state : SyncState) : SyncFollows state state :=
  ⟨.refl _, (Tended.refl ∅ _).kept⟩

theorem SyncFollows.trans (first second third : SyncState) (hfirst : SyncFollows first second)
    (hsecond : SyncFollows second third) : SyncFollows first third where
  deliveries := hfirst.deliveries.trans _ _ _ hsecond.deliveries
  tasks task htask := by
    obtain ⟨new, hnew, hkept⟩ := hfirst.tasks task htask
    obtain ⟨last, hlast, hkept'⟩ := hsecond.tasks new hnew
    exact ⟨last, hlast, hkept.trans hkept'⟩

variable {before after : TaskTable}

theorem TasksKept.of_id (hkept : TasksKept before after) {task new : TaskRow}
    (htask : task ∈ before) (hnew : new ∈ after) (hid : new.id = task.id) :
    TaskKept task new := by
  obtain ⟨image, himage, hkeeps⟩ := hkept task htask
  rwa [← TaskQueueService.eq_of_id_eq himage hnew (hkeeps.id.trans hid.symm)]

theorem Tended.update {own : Set String} {condition : TaskRow → Bool} {set : TaskRow → TaskRow}
    (hafter : after.rows = before.rows.map (Table.updateRow condition set))
    (hset : ∀ row ∈ before, condition row → TaskKept row (set row) ∧
      ((set row).state = .completed → row.id ∈ own)) :
    Tended own before after := by
  constructor
  · intro task htask
    refine ⟨Table.updateRow condition set task, ?_, ?_⟩
    · rw [Table.mem_def, hafter]
      exact List.mem_map_of_mem htask
    · unfold Table.updateRow
      split_ifs with hcondition
      · exact (hset task htask hcondition).1
      · exact .refl task
  · intro new hnew hstate
    rw [Table.mem_def, hafter] at hnew
    obtain ⟨task, htask, rfl⟩ := List.mem_map.mp hnew
    unfold Table.updateRow at hstate ⊢
    split_ifs at hstate ⊢ with hcondition
    · obtain ⟨hkept, hown⟩ := hset task htask hcondition
      left
      rw [hkept.id]
      exact hown hstate
    · exact Or.inr ⟨task, htask, rfl, hstate⟩

theorem Tended.insert {own : Set String} {row : TaskRow}
    (hafter : after.rows = before.rows ++ [row]) (hpending : row.state = .pending) :
    Tended own before after := by
  constructor
  · intro task htask
    refine ⟨task, ?_, .refl task⟩
    rw [Table.mem_def, hafter]
    exact List.mem_append_left _ htask
  · intro new hnew hstate
    rw [Table.mem_def, hafter] at hnew
    cases List.mem_append.mp hnew with
    | inl hold => exact Or.inr ⟨new, hold, rfl, hstate⟩
    | inr hlast =>
        rw [List.mem_singleton.mp hlast, hpending] at hstate
        cases hstate

/-! ## Calls -/

def TableTends (own : Set String) ⦃β : Type⦄ (request : DbCall TaskTable β) : Prop :=
  ∀ now answer later, fallible memoryConnection request now answer later → Tended own now later

def Tends (own : Set String) ⦃β : Type⦄ (request : SyncCall β) : Prop :=
  ∀ now answer later, syncing request now answer later →
    SyncFollows now later ∧ Tended own now.tasks later.tasks

section Calls

variable {own : Set String} {β Row : Type}

theorem tends_send {request : SendCall β} (hkeeps : Preserves request) :
    Tends own (.send request) := by
  intro now answer later hanswer
  obtain ⟨hcall, htasks⟩ := hanswer
  have htended : Tended own now.tasks later.tasks := by
    rw [htasks]
    exact .refl own _
  exact ⟨⟨hkeeps _ _ _ hcall, htended.kept⟩, htended⟩

theorem tends_tasks {request : DbCall TaskTable β} (htends : TableTends own request) :
    Tends own (.tasks request) := by
  intro now answer later hanswer
  obtain ⟨hcall, hdeliveries⟩ := hanswer
  have htended := htends _ _ _ hcall
  refine ⟨⟨?_, htended.kept⟩, htended⟩
  rw [hdeliveries]
  exact .refl _

theorem tableTends_of {request : DbCall TaskTable β}
    (htends : ∀ table, Tended own table (memoryConnection request table).2) :
    TableTends own request := by
  intro now answer later hanswer
  cases hanswer with
  | inl hrun =>
      have hafter := htends now
      rwa [hrun] at hafter
  | inr hfailed =>
      rw [hfailed.2]
      exact .refl own _

def StatementTends (own : Set String) (statement : Statement TaskTable Row) : Prop :=
  ∀ table result, statement.run table = .ok result → Tended own table result.database

theorem StatementTends.query {statement : Statement TaskTable Row}
    (htends : StatementTends own statement) : TableTends own (.query statement) :=
  tableTends_of fun table => memory_query_relates (.refl own table) (htends table)

theorem StatementTends.execute {statement : Statement TaskTable Row}
    (htends : StatementTends own statement) : TableTends own (.execute statement) :=
  tableTends_of fun table => memory_execute_relates (.refl own table) (htends table)

theorem tends_update {sql : String} {params : List JsonValue} {columns : List (Column Row)}
    {condition : TaskTable → TaskRow → Bool} {set : TaskRow → TaskRow}
    {returning : TaskRow → List Row}
    (hset : ∀ table row, condition table row → TaskKept row (set row) ∧
      ((set row).state = .completed → row.id ∈ own)) :
    StatementTends own (TaskQueueService.updateStatement sql params columns condition set
      returning) :=
  fun table _ hrun => .update (TaskWorker.update_run_eq_ok hrun).1 fun row _ => hset table row

end Calls

/-- A task which is set to another state than `COMPLETED`. -/
theorem TaskKept.open {own : Set String} {row new : TaskRow} (hkept : TaskKept row new)
    (hopen : new.state ≠ .completed) :
    TaskKept row new ∧ (new.state = .completed → row.id ∈ own) :=
  ⟨hkept, fun hstate => absurd hstate hopen⟩

theorem tends_openStatements (own : Set String) :
    OfOpenStatements (TableTends own) where
  select _ _ _ _ := by
    apply StatementTends.query
    intro table result hrun
    cases hrun
    exact .refl own table
  insert row hpending := by
    apply StatementTends.execute
    intro table result hrun
    simp only [TaskQueueService.insertStatement, Statement.run] at hrun
    split at hrun
    · rename_i later hinsert
      cases hrun
      exact .insert (Table.insert?_eq_some_iff.mp hinsert) hpending
    · cases hrun
  claim now taskTypes limit := by
    apply StatementTends.query
    apply tends_update
    intro table row hcondition
    have hpending : row.state = .pending := by
      simpa using (Bool.and_eq_true_iff.mp hcondition).2
    exact TaskKept.open ⟨claimed_keepsKeys hpending, rfl, rfl, rfl⟩ (by simp [claimed])
  quarantine now id := by
    apply StatementTends.execute
    apply tends_update
    intro table row _
    exact TaskKept.open ⟨quarantined_keepsKeys now row, rfl, rfl, rfl⟩ (by simp [quarantined])
  reschedule nextScheduledAt errorMessage now id attempt := by
    apply StatementTends.query
    apply tends_update
    intro table row hcondition
    have hrunning : row.state = .running := by
      simpa using (Bool.and_eq_true_iff.mp (Bool.and_eq_true_iff.mp hcondition).1).2
    exact TaskKept.open ⟨rescheduled_keepsKeys hrunning, rfl, rfl, rfl⟩ (by simp [rescheduled])
  fail errorMessage now id attempt := by
    apply StatementTends.query
    apply tends_update
    intro table row _
    exact TaskKept.open ⟨failed_keepsKeys errorMessage now row, rfl, rfl, rfl⟩ (by simp [failed])
  cancel reason now id := by
    apply StatementTends.execute
    apply tends_update
    intro table row _
    exact TaskKept.open ⟨cancelled_keepsKeys reason now row, rfl, rfl, rfl⟩ (by simp [cancelled])
  recover nowIso cutoff := by
    apply StatementTends.execute
    apply tends_update
    intro table row hcondition
    have hrunning : row.state = .running := by
      simpa using (Bool.and_eq_true_iff.mp hcondition).1
    exact TaskKept.open ⟨recovered_keepsKeys hrunning, rfl, rfl, rfl⟩ (by simp [recovered])

theorem tends_complete (now id : String) :
    TableTends {id} (.execute (completeStatement now id)) := by
  apply StatementTends.execute
  apply tends_update
  intro table row hcondition
  have hid : row.id = id := by
    simpa using (Bool.and_eq_true_iff.mp hcondition).1
  exact ⟨⟨completed_keepsKeys now row, rfl, rfl, rfl⟩, fun _ => hid⟩

/-! ## Jobs -/

def SyncJob.own : SyncJob → Set String
  | .worker task _ => {task.row.id}
  | _ => ∅

section Jobs

variable {α : Type} {own : Set String}

theorem tends_aborted (own : Set String) : Tends own (.send .aborted) :=
  tends_send preserves_sendCalls.aborted

theorem every_tasks {post : Except Thrown α → Prop}
    {program : Program (DbCall TaskTable) Thrown α}
    (hevery : program.Every (TableTends own) post) :
    (program.mapCall fun _ => SyncCall.tasks).Every (Tends own) post := by
  apply Program.Every.mapCall _ hevery
  exact fun β request htends => tends_tasks htends

theorem makes_tasks {program : Program (DbCall TaskTable) Thrown α}
    (hmakes : program.Makes (TableTends own)) :
    (program.mapCall fun _ => SyncCall.tasks).Makes (Tends own) :=
  every_tasks hmakes

theorem makes_send {program : Program SendCall Thrown α} (hmakes : program.Makes Preserves) :
    (program.mapCall fun _ => SyncCall.send).Makes (Tends own) := by
  apply Program.Every.mapCall _ hmakes
  exact fun β request hkeeps => tends_send hkeeps

theorem markFailed_tends (own : Set String) (now later : ClockReading) (random : ℚ)
    (taskId : String) (error : Thrown) :
    ((TaskQueueService.markFailed (connectionExecutor TaskTable) now later random taskId
      error).mapCall fun _ => SyncCall.tasks).Makes (Tends own) :=
  makes_tasks ((tends_openStatements own).markFailed now later random taskId error)

theorem cancel_tends (own : Set String) (now : ClockReading) (taskId reason : String) :
    ((cancel (connectionExecutor TaskTable) now taskId reason).mapCall fun _ =>
      SyncCall.tasks).Makes (Tends own) :=
  makes_tasks (makes_execute ((tends_openStatements own).cancel _ _ _))

theorem executeSyncTask_tends (task : TaskRecord) (run : HandlerRun) :
    (executeSyncTask task run).Makes (Tends {task.row.id}) := by
  unfold executeSyncTask settleTask
  split_ifs
  · refine Program.Makes.tryCatch ?_ fun error =>
      (markFailed_tends _ _ _ _ _ _).bind fun _ => Program.makes_done _
    refine (makes_send (handle_preserves _ _)).bind fun _ => ?_
    apply Program.Makes.bind (Program.makes_await (tends_aborted _))
    intro aborted
    cases aborted with
    | true => exact Program.makes_done _
    | false => exact makes_tasks (makes_execute (tends_complete _ _))
  · exact cancel_tends _ _ _ _

theorem worker_tends (collation : Collation) (task : TaskRecord) (run : HandlerRun) :
    ((SyncJob.worker task run).program collation).Makes (Tends {task.row.id}) := by
  rw [SyncJob.program]
  split_ifs
  · exact (executeSyncTask_tends task run).bind fun _ => Program.makes_done _
  · have hmakes := (tends_openStatements {task.row.id}).executeTask task run fun now =>
      tends_complete now _
    exact (makes_tasks hmakes).bind fun _ => Program.makes_done _

theorem enqueue_preserves (id : String) (now : ClockReading) (envelope : JsonValue) :
    (DeliveryJob.program (.enqueue id now envelope)).Makes Preserves := by
  refine Program.Makes.bind ?_ fun _ => Program.makes_done _
  unfold OutboxService.enqueue
  split
  · exact Program.makes_done _
  · rename_i validated _
    refine ⟨preserves_insert _, fun answer => ?_⟩
    cases answer with
    | ok _ => trivial
    | error _ => trivial

theorem enqueueSync_tends (own : Set String) (id : String) (now : ClockReading)
    (organisationId : String) (batchLimit : NumberValue) :
    ((OutboxSyncWorker.enqueueSync (connectionExecutor TaskTable) id now organisationId
      batchLimit).mapCall fun _ => SyncCall.tasks).Makes (Tends own) :=
  makes_tasks
    (((tends_openStatements own).queueing.enqueue id now _).bind fun _ => Program.makes_done _)

theorem call_tends (collation : Collation) {job : SyncJob} (hcall : job.IsCall) :
    (job.program collation).Makes (Tends job.own) := by
  cases job with
  | enqueue id now envelope =>
      exact (makes_send (enqueue_preserves id now envelope)).bind fun _ => Program.makes_done _
  | enqueueSync id now organisationId batchLimit =>
      exact (enqueueSync_tends _ id now organisationId batchLimit).bind
        fun _ => Program.makes_done _
  | operation call => exact makes_tasks ((tends_openStatements _).operation collation hcall)
  | worker task run => exact absurd hcall id

end Jobs

/-! ## What a poll hands out -/

structure Matches (record : TaskRecord) (table : TaskTable) : Prop where
  payload : parseJson? record.row.payloadJson = some record.payload
  task : ∃ task ∈ table, TaskKept record.row task

theorem Matches.later {record : TaskRecord} {table after : TaskTable}
    (hmatches : Matches record table) (hkept : TasksKept table after) : Matches record after := by
  obtain ⟨task, htask, hfirst⟩ := hmatches.task
  obtain ⟨new, hnew, hsecond⟩ := hkept task htask
  exact ⟨hmatches.payload, new, hnew, hfirst.trans hsecond⟩

abbrev SyncSafe {α : Type} (post : Except Thrown α → SyncState → Prop)
    (program : Program SyncCall Thrown α) (state : SyncState) : Prop :=
  program.Safe syncing (fun _ => True) SyncFollows (fun _ => True) post state

theorem syncSafe_of_every {α : Type} {own : Set String} {post : Except Thrown α → Prop}
    {program : Program SyncCall Thrown α} (hevery : program.Every (Tends own) post)
    (state : SyncState) : SyncSafe (fun outcome later => post outcome ∧ SyncFollows state later)
      program state :=
  (hevery.safe (fun _ _ htends now answer later _ hanswer =>
    ⟨trivial, (htends now answer later hanswer).1⟩) state).since SyncFollows.refl SyncFollows.trans

def Hands (job : SyncJob) (outcome : Except Thrown QueueAnswer) (state : SyncState) : Prop :=
  match job with
  | .operation (.claimNextBatch _ _ _ _) =>
      ∀ records, outcome = .ok (.records records) →
        ∀ record ∈ records, Matches record state.tasks
  | _ => True

theorem Hands.later {job : SyncJob} {outcome : Except Thrown QueueAnswer}
    {state later : SyncState} (hhands : Hands job outcome state)
    (hfollows : SyncFollows state later) : Hands job outcome later := by
  unfold Hands at hhands ⊢
  split
  · exact fun records hrecords record hrecord =>
      (hhands records hrecords record hrecord).later hfollows.tasks
  · trivial

theorem update_returns {sql : String} {params : List JsonValue} {columns : List (Column TaskRow)}
    {condition : TaskTable → TaskRow → Bool} {set : TaskRow → TaskRow} {table : TaskTable}
    {result : StatementResult TaskTable TaskRow}
    (hrun : (TaskQueueService.updateStatement sql params columns condition set
      fun row => [row]).run table = .ok result) :
    ∀ row ∈ result.rows, row ∈ result.database := by
  obtain ⟨hdatabase, hrows⟩ := TaskWorker.update_run_eq_ok hrun
  intro row hrow
  rw [hrows, List.flatMap_singleton'] at hrow
  obtain ⟨old, hold, rfl⟩ := List.mem_map.mp hrow
  obtain ⟨hmem, hcondition⟩ := Table.mem_select.mp hold
  rw [Table.mem_def, hdatabase]
  refine List.mem_map.mpr ⟨old, hmem, ?_⟩
  rw [Table.updateRow, if_pos hcondition]

theorem payload_of_rowToRecord {row : TaskRow} {record : TaskRecord}
    (hread : rowToRecord row = .ok record) : parseJson? row.payloadJson = some record.payload := by
  unfold rowToRecord at hread
  split at hread
  · rename_i payload hpayload
    cases hread
    exact hpayload
  · cases hread

theorem hands_claim (collation : Collation) (now : ClockReading) (readings : Nat → ClockReading)
    (limit : NumberValue) (taskTypes : List String) (state : SyncState) :
    SyncSafe (Hands (.operation (.claimNextBatch now readings limit taskTypes)))
      ((SyncJob.operation (.claimNextBatch now readings limit taskTypes)).program collation)
      state := by
  rw [SyncJob.program, Operation.program]
  unfold claimNextBatch
  cases limit.safeInteger?.filter (0 < ·) with
  | none => exact fun records hrecords => nomatch hrecords
  | some size =>
      intro now' _ _ _ answer later hanswer
      have hfollows := (tends_tasks ((tends_openStatements ∅).claim now.iso taskTypes size) _ _ _
        hanswer).1
      refine ⟨trivial, hfollows, ?_⟩
      obtain ⟨hcall, -⟩ := hanswer
      cases answer with
      | error error => exact fun records hrecords => nomatch hrecords
      | ok rows =>
          have hrows : ∀ row ∈ rows, row ∈ later.tasks := by
            cases hcall with
            | inl hrun =>
                cases hclaim : (claimStatement now.iso taskTypes size).run now'.tasks with
                | error message =>
                    simp only [memoryConnection, hclaim] at hrun
                    cases hrun
                | ok result =>
                    simp only [memoryConnection, hclaim, Prod.mk.injEq] at hrun
                    obtain ⟨hsame, hdatabase⟩ := hrun
                    cases hsame
                    rw [← hdatabase]
                    exact update_returns hclaim
            | inr hfailed =>
                obtain ⟨error, herror⟩ := hfailed.1
                cases herror
          have hsorted := List.perm_insertionSort (fun left right : TaskRow =>
            collation.localeCompare left.scheduledAt right.scheduledAt ≤ 0) rows
          have hcollected : ((collectClaimed (connectionExecutor TaskTable) readings
              (rows.insertionSort fun left right =>
                collation.localeCompare left.scheduledAt right.scheduledAt ≤ 0)) >>=
              fun records => pure (QueueAnswer.records records)).Every (TableTends ∅)
              fun outcome => ∀ records, outcome = .ok (.records records) →
                ∀ record ∈ records, record.row ∈ rows ∧ rowToRecord record.row = .ok record := by
            apply Program.Every.bind
            apply Program.Every.mono _ (OfOpenStatements.every_collectClaimed
              (tends_openStatements ∅).quarantine readings _)
            intro outcome hrecords
            cases outcome with
            | error error => exact fun records hnone => nomatch hnone
            | ok collected =>
                intro records hsame record hrecord
                cases hsame
                obtain ⟨hsublist, hread⟩ := hrecords collected rfl
                refine ⟨?_, hread record hrecord⟩
                exact hsorted.mem_iff.mp (hsublist.subset (List.mem_map_of_mem hrecord))
          have hmapped := every_tasks hcollected
          apply Program.Safe.mono _ (syncSafe_of_every hmapped later)
          intro outcome final hfinal records hrecords record hrecord
          obtain ⟨hmem, hread⟩ := hfinal.1 records hrecords record hrecord
          have hmatches : Matches record later.tasks := by
            refine ⟨?_, record.row, hrows _ hmem, .refl _⟩
            exact payload_of_rowToRecord hread
          exact hmatches.later hfinal.2.tasks

end TauriPlatform.OutboxSyncWorker
