import TauriPlatform.SyncSupervision
import TauriPlatform.TaskTenancy
import TauriPlatform.SyncLoss
import TauriPlatform.TaskClaims

/-!
# Runs of a sync in which nothing fails

One thread after the other runs to its end, or up to some point, while every call is answered
as it should be.  A request inserts or finds the task of its organisation, a poll claims it
and its worker completes it.
-/

namespace TauriPlatform.OutboxSyncWorker

open Async Relational TaskQueueService

/-! ## Runs in which nothing fails -/

def delivers : Program.Handler SendCall Thrown Deliveries
  | _, .database request, state =>
      ((memoryConnection request state.database).1,
        { state with database := (memoryConnection request state.database).2 })
  | _, .dispatch _ _ payloadJson, state =>
      (.ok (), { state with dispatches := state.dispatches ++ [⟨payloadJson, true⟩] })
  | _, .upsertCursor _, state => (.ok (), state)
  | _, .aborted, state => (.ok false, state)
  | _, .readClock, state => (.ok midnight, state)

def serving : Program.Handler SyncCall Thrown SyncState
  | _, .send request, state =>
      ((delivers request state.deliveries).1,
        { state with deliveries := (delivers request state.deliveries).2 })
  | _, .tasks request, state =>
      ((memoryConnection request state.tasks).1,
        { state with tasks := (memoryConnection request state.tasks).2 })

theorem syncing_serving {β : Type} (request : SyncCall β) (state : SyncState) :
    syncing request state (serving request state).1 (serving request state).2 := by
  cases request with
  | tasks request => exact ⟨Or.inl rfl, rfl⟩
  | send request =>
      refine ⟨?_, rfl⟩
      cases request with
      | database request => exact ⟨Or.inl rfl, rfl⟩
      | dispatch organisationId syncGroupId payloadJson => rfl
      | upsertCursor organisationId => rfl
      | aborted => exact ⟨⟨false, rfl⟩, rfl⟩
      | readClock => exact ⟨⟨midnight, rfl⟩, rfl⟩

theorem run_tasks {α : Type} (program : Program (DbCall TaskTable) Thrown α) (state : SyncState) :
    (program.mapCall fun _ => SyncCall.tasks).run serving state =
      ((program.run memoryConnection state.tasks).1,
        { state with tasks := (program.run memoryConnection state.tasks).2 }) := by
  induction program generalizing state with
  | done outcome => rfl
  | call request rest ih => exact ih _ _

theorem run_send {α : Type} (program : Program SendCall Thrown α) (state : SyncState) :
    (program.mapCall fun _ => SyncCall.send).run serving state =
      ((program.run delivers state.deliveries).1,
        { state with deliveries := (program.run delivers state.deliveries).2 }) := by
  induction program generalizing state with
  | done outcome => rfl
  | call request rest ih => exact ih _ _

theorem run_database {α : Type} (program : Program (DbCall OutboxDatabase) Thrown α)
    (state : Deliveries) :
    (program.mapCall fun _ => SendCall.database).run delivers state =
      ((program.run memoryConnection state.database).1,
        { state with database := (program.run memoryConnection state.database).2 }) := by
  induction program generalizing state with
  | done outcome => rfl
  | call request rest ih => exact ih _ _

section Alone

variable (collation : Collation)

theorem steps_alone (job : SyncJob) (program : Program SyncCall Thrown QueueAnswer)
    (state : SyncState) (before after : List SyncThread) :
    Relation.ReflTransGen (SyncStep collation) ⟨state, before ++ ⟨job, program⟩ :: after⟩
      ⟨(program.run serving state).2,
        before ++ ⟨job, .done (program.run serving state).1⟩ :: after⟩ := by
  induction program generalizing state with
  | done outcome => exact .refl
  | call request rest ih =>
      exact .head (.advance request rest job state before after _ _
        (syncing_serving request state)) (ih _ _)

theorem beside_alone {α : Type} (program : Program SyncCall Thrown α) (state : SyncState)
    (threads : List SyncThread) :
    Beside collation program ⟨state, threads⟩ (.done (program.run serving state).1)
      ⟨(program.run serving state).2, threads⟩ := by
  induction program generalizing state with
  | done outcome => exact .refl _ _
  | call request rest ih => exact .answered _ _ (syncing_serving request state) (ih _ _)

theorem steps_call (job : SyncJob) (hcall : job.IsCall) (state : SyncState)
    (threads : List SyncThread) :
    Relation.ReflTransGen (SyncStep collation) ⟨state, threads⟩
      ⟨((job.program collation).run serving state).2, threads⟩ :=
  .head (.start job state threads hcall)
    ((steps_alone collation job (job.program collation) state [] threads).tail
      (.crash _ _ threads (List.sublist_cons_self _ _)))

theorem steps_poll {now : ClockReading} {readings : Nat → ClockReading} {limit : NumberValue}
    {taskTypes : List String} {state later : SyncState} {record : TaskRecord}
    (hrun : ((SyncJob.operation (.claimNextBatch now readings limit taskTypes)).program
      collation).run serving state = (.ok (.records [record]), later))
    (run : HandlerRun) (threads : List SyncThread) :
    Relation.ReflTransGen (SyncStep collation) ⟨state, threads⟩
      ⟨later, workerThread collation (record, run) :: threads⟩ := by
  have hstart : SyncStep collation ⟨state, threads⟩ _ :=
    .start (.operation (.claimNextBatch now readings limit taskTypes)) state threads id
  have halone := steps_alone collation (.operation (.claimNextBatch now readings limit taskTypes))
    ((SyncJob.operation (.claimNextBatch now readings limit taskTypes)).program collation) state []
    threads
  rw [hrun] at halone
  have hdispatch : SyncStep collation _ ⟨later, [] ++ [(record, run)].map (workerThread collation) ++
      threads⟩ :=
    .dispatch now readings limit taskTypes [record] [(record, run)] later [] threads
      (List.Sublist.refl _)
  exact (Relation.ReflTransGen.head hstart halone).tail hdispatch

end Alone

/-! ### The task of one organisation -/

def syncPayload (batchLimit : Int) : JsonValue :=
  payloadOf "org" (.finite (.integer batchLimit))

def checkedSync (batchLimit : Int) : CheckedDefinition where
  policy := defaultRetryPolicy
  timeoutMs := 30000
  payloadJson := (syncPayload batchLimit).stringify

def waitingSync (batchLimit : Int) : TaskRow :=
  newRow "task-1" midnight.iso (definitionOf "org" (.finite (.integer batchLimit)))
    (checkedSync batchLimit)

def runningSync (batchLimit : Int) : TaskRow :=
  claimed midnight.iso (waitingSync batchLimit)

def syncRecord (batchLimit : Int) : TaskRecord where
  row := runningSync batchLimit
  payload := syncPayload batchLimit

theorem checkDefinition_sync (batchLimit : Int) :
    checkDefinition (definitionOf "org" (.finite (.integer batchLimit))) =
      .ok (checkedSync batchLimit) := by
  have htype : ¬ isBlank outboxSyncTaskType := by decide
  have horganisation : ¬ isBlank "org" := by decide
  have hcorrelation : ¬ isBlank "sync-worker" := by decide
  exact (if_neg htype).trans ((if_neg horganisation).trans ((if_neg hcorrelation).trans rfl))

theorem parseJson?_syncPayload (batchLimit : Int) :
    parseJson? (syncPayload batchLimit).stringify = some (syncPayload batchLimit) := by
  apply parseJson?_stringify
  apply JsonValue.IsEnumerated.object
  · apply spread_append
    · change ["organisationId", "batchLimit"].Nodup
      decide
    · change ∀ key ∈ ["organisationId", "batchLimit"], arrayIndex? key = none
      decide
  · simp only [List.forall_mem_cons]
    exact ⟨.string _, .number _, fun _ hmem => absurd hmem List.not_mem_nil⟩

theorem rowToRecord_sync {batchLimit : Int} (row : TaskRow)
    (hpayload : row.payloadJson = (syncPayload batchLimit).stringify) :
    rowToRecord row = .ok { row := row, payload := syncPayload batchLimit } := by
  rw [rowToRecord, hpayload, parseJson?_syncPayload]

theorem uniqueKeyOf_ne (organisationId : String) : uniqueKeyOf organisationId ≠ "" := by
  intro hempty
  have hlength := congrArg String.length hempty
  simp only [uniqueKeyOf, String.length_append, String.length_empty, Nat.add_eq_zero_iff] at hlength
  exact absurd hlength.1 (by decide)

section Tables

variable {table : TaskTable} {batchLimit : Int}

theorem enqueueSync_run_inserts (batchLimit : Int) (hrows : table.rows = []) :
    ∃ later, (enqueueSync (connectionExecutor TaskTable) "task-1" midnight "org"
        (.finite (.integer batchLimit))).run memoryConnection table = (.ok (), later) ∧
      later.rows = [waitingSync batchLimit] := by
  have hinsert : (table.insert? (waitingSync batchLimit)).isSome := by
    apply Table.insert?_isSome
    intro _ _ _ _ other hother
    rw [Table.mem_def, hrows] at hother
    cases hother
  obtain ⟨later, hlater⟩ := Option.isSome_iff_exists.mp hinsert
  have hlaterRows : later.rows = [waitingSync batchLimit] := by
    rw [Table.insert?_eq_some_iff.mp hlater, hrows, List.nil_append]
  have hactive : activeTask (some (uniqueKeyOf "org")) table = none := by
    cases hfound : activeTask (some (uniqueKeyOf "org")) table with
    | none => rfl
    | some row =>
        obtain ⟨-, -, hrow, -⟩ := activeTask_eq_some hfound
        rw [Table.mem_def, hrows] at hrow
        cases hrow
  have hselect : (selectById "task-1").run later = .ok {
      database := later
      rows := [waitingSync batchLimit]
      rowsAffected := 0 } := by
    have hfound := selectById_inserted hlater
    simp only [selectById, selectStatement, Statement.run]
    rw [← hfound]
    rfl
  refine ⟨later, ?_, hlaterRows⟩
  have hfind := findActive_run (definitionOf "org" (.finite (.integer batchLimit))).uniqueKey table
  have hnone : activeTask (definitionOf "org" (.finite (.integer batchLimit))).uniqueKey table =
      none := hactive
  rw [hnone] at hfind
  have hinserted : (insertOrFindWinner (connectionExecutor TaskTable) (newRow "task-1" midnight.iso
      (definitionOf "org" (.finite (.integer batchLimit))) (checkedSync batchLimit))).run
        memoryConnection table = (.ok none, later) :=
    insertOrFindWinner_run_inserted hlater
  have henqueue : (enqueue (connectionExecutor TaskTable) "task-1" midnight
      (definitionOf "org" (.finite (.integer batchLimit)))).run memoryConnection table =
      (.ok { row := waitingSync batchLimit, payload := syncPayload batchLimit }, later) := by
    unfold enqueue
    rw [Program.run_bind_ok _ (by rw [Program.run_ofExcept, checkDefinition_sync]),
      Program.run_bind_ok _ hfind]
    simp only
    rw [Program.run_bind_ok _ hinserted]
    simp only
    rw [Program.run_bind_ok _ (memory_query_run hselect)]
    simp only [Program.run_ofExcept, rowToRecord_sync (waitingSync batchLimit) rfl]
  unfold enqueueSync
  rw [Program.run_bind_ok _ henqueue]
  rfl

theorem enqueueSync_run_finds (hrows : table.rows = [runningSync batchLimit]) (id : String)
    (limit : Int) :
    (enqueueSync (connectionExecutor TaskTable) id midnight "org"
      (.finite (.integer limit))).run memoryConnection table = (.ok (), table) := by
  have hmem : runningSync batchLimit ∈ table := by
    rw [Table.mem_def, hrows]
    exact List.mem_cons_self
  have hkey : (definitionOf "org" (.finite (.integer limit))).uniqueKey.filter (· ≠ "") =
      some (uniqueKeyOf "org") := by
    change (some (uniqueKeyOf "org")).filter (· ≠ "") = some (uniqueKeyOf "org")
    simp [uniqueKeyOf_ne]
  have hfind := findActive_run (definitionOf "org" (.finite (.integer limit))).uniqueKey table
  rw [activeTask_of_mem hkey hmem rfl] at hfind
  have henqueue : (enqueue (connectionExecutor TaskTable) id midnight
      (definitionOf "org" (.finite (.integer limit)))).run memoryConnection table =
      (.ok (syncRecord batchLimit), table) := by
    unfold enqueue
    rw [Program.run_bind_ok _ (by rw [Program.run_ofExcept, checkDefinition_sync]),
      Program.run_bind_ok _ hfind]
    simp only [Program.run_ofExcept, rowToRecord_sync (runningSync batchLimit) rfl]
    rfl
  unfold enqueueSync
  rw [Program.run_bind_ok _ henqueue]
  rfl

theorem claimNextBatch_run (collation : Collation) (readings : Nat → ClockReading)
    (hrows : table.rows = [waitingSync batchLimit]) :
    ∃ later, (claimNextBatch (connectionExecutor TaskTable) collation midnight readings
        (.finite (.integer 1)) []).run memoryConnection table =
        (.ok [syncRecord batchLimit], later) ∧
      later.rows = [runningSync batchLimit] := by
  have hdue : dueIds table midnight.iso [] 1 = ["task-1"] := by
    have hselect : table.select (isDue midnight.iso []) = [waitingSync batchLimit] := by
      rw [Table.select, hrows, List.filter_singleton]
      have hwaits : isDue midnight.iso [] (waitingSync batchLimit) := by
        simp [isDue, waitingSync, newRow, definitionOf]
      rw [hwaits]
      rfl
    rw [dueIds, hselect]
    rfl
  obtain ⟨result, hrun, -⟩ := claimStatement_claims midnight.iso [] 1 table
  obtain ⟨hdatabase, hreturned⟩ := TaskWorker.update_run_eq_ok hrun
  have hclaims : (decide ((waitingSync batchLimit).id ∈ dueIds table midnight.iso [] (1 : Int).toNat) &&
      decide ((waitingSync batchLimit).state = .pending)) = true := by
    change (decide ("task-1" ∈ dueIds table midnight.iso [] 1) && true) = true
    rw [hdue]
    decide
  rw [hrows, List.map_singleton, Table.updateRow, if_pos hclaims] at hdatabase
  rw [Table.select, hrows, List.filter_singleton, hclaims] at hreturned
  refine ⟨result.database, ?_, hdatabase⟩
  have hlimit : (NumberValue.finite (.integer 1)).safeInteger?.filter (0 < ·) = some 1 := by decide
  simp only [claimNextBatch, hlimit]
  rw [Program.run_bind_ok _ (memory_query_run hrun), hreturned]
  have hrecord : rowToRecord (claimed midnight.iso (waitingSync batchLimit)) =
      .ok (syncRecord batchLimit) := rowToRecord_sync _ rfl
  change (collectClaimed (connectionExecutor TaskTable) readings
    [claimed midnight.iso (waitingSync batchLimit)]).run memoryConnection result.database = _
  rw [collectClaimed, hrecord]
  rfl

theorem markCompleted_run (hrows : table.rows = [runningSync batchLimit]) :
    ∃ later, (markCompleted (connectionExecutor TaskTable) midnight "task-1").run
        memoryConnection table = (.ok (), later) ∧
      later.rows = [completed midnight.iso (runningSync batchLimit)] := by
  have hkeys : ∀ row ∈ table, (decide (row.id = "task-1") && decide (row.state = .running)) →
      KeepsKeys row (completed midnight.iso row) :=
    fun row _ _ => completed_keepsKeys midnight.iso row
  obtain ⟨later, hrun, hlater⟩ := updateStatement_run (completeStatement midnight.iso "task-1").sql
    (completeStatement midnight.iso "task-1").params [] (fun _ row =>
      row.id = "task-1" && row.state = .running) (completed midnight.iso) (fun _ => []) hkeys
  refine ⟨later, ?_, ?_⟩
  · exact memory_execute_run hrun
  · rw [hlater, hrows]
    rfl

end Tables

/-! ### The worker of the task -/

def syncRun : HandlerRun where
  registered := true
  outcome := .ok ()
  aborted := false
  completedAt := midnight
  failedAt := midnight
  rescheduledFrom := midnight
  cancelledAt := midnight
  random := 0

def syncWorker (batchLimit : Int) (handler : Program SendCall Thrown Unit) :
    Program SyncCall Thrown QueueAnswer := do
  settleTask (syncRecord batchLimit) syncRun (handler.mapCall fun _ => .send)
  pure .finished

theorem worker_program (collation : Collation) (batchLimit : Int) :
    (SyncJob.worker (syncRecord batchLimit) syncRun).program collation =
      syncWorker batchLimit (handle outboxServices "org" (syncPayload batchLimit)) := by
  have htype : (syncRecord batchLimit).row.taskType = outboxSyncTaskType := rfl
  have hregistered : syncRun.registered = true := rfl
  rw [SyncJob.program, if_pos htype, executeSyncTask, if_pos hregistered]
  rfl

theorem syncWorker_run {batchLimit : Int} (handler : Program SendCall Thrown Unit)
    (state : SyncState) {deliveries : Deliveries}
    (hhandler : handler.run delivers state.deliveries = (.ok (), deliveries))
    (hrows : state.tasks.rows = [runningSync batchLimit]) :
    ∃ tasks, (syncWorker batchLimit handler).run serving state =
        (.ok .finished, ⟨deliveries, tasks⟩) ∧
      tasks.rows = [completed midnight.iso (runningSync batchLimit)] := by
  obtain ⟨tasks, hcompleted, htasks⟩ := markCompleted_run hrows
  refine ⟨tasks, ?_, htasks⟩
  have hsent := run_send handler state
  rw [hhandler] at hsent
  have hfinished := run_tasks (markCompleted (connectionExecutor TaskTable) midnight "task-1")
    ⟨deliveries, state.tasks⟩
  rw [hcompleted] at hfinished
  have hsettled : (settleTask (syncRecord batchLimit) syncRun
      (handler.mapCall fun _ => SyncCall.send)).run serving state =
      (.ok (), ⟨deliveries, tasks⟩) := by
    refine Program.run_tryCatch_ok ?_ _
    rw [Program.run_bind_ok _ hsent]
    exact hfinished
  rw [syncWorker, Program.run_bind_ok _ hsettled]
  rfl

theorem syncWorker_advances {batchLimit size : Int} (state : SyncState)
    (hsize : OutboxService.admittedLimit? (batchLimitOf (syncPayload batchLimit)) = some size)
    (hrows : state.deliveries.database.outbox.rows = []) :
    (syncWorker batchLimit (handle outboxServices "org" (syncPayload batchLimit))).Advances syncing
      (fun _ => True) state (syncWorker batchLimit (handleBatch outboxServices "org" [])) state := by
  have hbatch : OutboxService.pendingBatch "org" (batchLimitOf (syncPayload batchLimit)) = (do
      let rows ← (connectionExecutor OutboxDatabase).query
        (OutboxService.pendingStatement "org" size)
      Program.ofExcept (rows.mapM OutboxService.readRecord)) := by
    have hblank : isBlank "org" = false := by decide
    simp only [OutboxService.pendingBatch, hblank, Bool.false_eq_true, if_false, hsize]
  have hhandle : ((handle outboxServices "org" (syncPayload batchLimit)).mapCall fun _ =>
      SyncCall.send).Advances syncing (fun _ => True) state
      ((handleBatch outboxServices "org" []).mapCall fun _ => SyncCall.send) state := by
    have hnamed : ((syncPayload batchLimit).get? "organisationId").bind JsonValue.string? =
        some "org" := rfl
    have hread : outboxServices.pendingBatch "org" (batchLimitOf (syncPayload batchLimit)) =
        (OutboxService.pendingBatch "org" (batchLimitOf (syncPayload batchLimit))).mapCall
          fun _ => .database := rfl
    rw [handle, if_neg (not_not.mpr hnamed), hread, hbatch]
    refine .step (.ok false) trivial ⟨⟨⟨false, rfl⟩, rfl⟩, rfl⟩ ?_
    refine .step (.ok []) trivial ⟨⟨Or.inl ?_, rfl⟩, rfl⟩ (.refl _ _)
    have hpending : OutboxService.pendingRows "org" state.deliveries.database.outbox = [] := by
      rw [OutboxService.pendingRows, Table.select, hrows]
      rfl
    have hrun : (OutboxService.pendingStatement "org" size).run state.deliveries.database = .ok {
        database := state.deliveries.database
        rows := []
        rowsAffected := 0 } := by
      simp only [OutboxService.pendingStatement, Statement.run, hpending, List.take_nil]
    simp only [memoryConnection, hrun]
  exact ((hhandle.bind _).tryCatch _).bind _

theorem steps_advances (collation : Collation) (job : SyncJob)
    {program middle : Program SyncCall Thrown QueueAnswer} {state now : SyncState}
    (hadvances : program.Advances syncing (fun _ => True) state middle now)
    (before after : List SyncThread) :
    Relation.ReflTransGen (SyncStep collation) ⟨state, before ++ ⟨job, program⟩ :: after⟩
      ⟨now, before ++ ⟨job, middle⟩ :: after⟩ := by
  induction hadvances with
  | refl program state => exact .refl
  | step answer _ hanswer _ ih =>
      exact .head (.advance _ _ job _ before after answer _ hanswer) ih

def enqueuedNote : OutboxRow :=
  OutboxService.newRow "op-1" midnight.iso
    (OutboxService.noteEnvelopeJson "op-1" (.string "text"))
    (OutboxService.noteEnvelope "op-1" (.string "text"))

theorem enqueue_note_run (state : SyncState)
    (houtbox : state.deliveries.database = OutboxService.emptyOutbox ["group"]) :
    ∃ database, ((SyncJob.enqueue "op-1" midnight
        (OutboxService.noteEnvelopeJson "op-1" (.string "text"))).program .codePoint).run serving
          state = (.ok .finished,
            { state with deliveries := { state.deliveries with database := database } }) ∧
      database.outbox.rows = [enqueuedNote] := by
  have hid : "op-1" ∈ OutboxService.noteIds := by decide
  have hsize : utf8Length (OutboxService.noteEnvelopeJson "op-1" (.string "text")).serialize ≤
      maxSyncEnvelopeSizeBytes := by
    rw [OutboxService.utf8Length_noteEnvelope hid]
    decide
  have hvalid := OutboxService.validateEnvelope_note hid hsize
  have hinsert : ((OutboxService.emptyOutbox ["group"]).outbox.insert? enqueuedNote).isSome :=
    Table.insert?_isSome fun _ _ _ _ other hother => absurd hother List.not_mem_nil
  obtain ⟨table, htable⟩ := Option.isSome_iff_exists.mp hinsert
  have hgroup : enqueuedNote.syncGroupId ∈
      (OutboxService.emptyOutbox ["group"]).syncGroupIds := List.mem_cons_self
  have hstored : (OutboxService.insertStatement enqueuedNote).run
      (OutboxService.emptyOutbox ["group"]) = .ok {
        database := { OutboxService.emptyOutbox ["group"] with outbox := table }
        rows := []
        rowsAffected := 1 } := by
    simp only [OutboxService.insertStatement, Statement.run, htable, if_pos hgroup]
  have henqueue : (OutboxService.enqueue (connectionExecutor OutboxDatabase) "op-1" midnight.iso
      (OutboxService.noteEnvelopeJson "op-1" (.string "text"))).run memoryConnection
        state.deliveries.database = (.ok enqueuedNote,
          { OutboxService.emptyOutbox ["group"] with outbox := table }) := by
    rw [houtbox]
    simp only [OutboxService.enqueue, hvalid]
    exact Program.run_bind_ok _ (memory_execute_run hstored)
  have hdatabase := run_database (OutboxService.enqueue (connectionExecutor OutboxDatabase) "op-1"
    midnight.iso (OutboxService.noteEnvelopeJson "op-1" (.string "text"))) state.deliveries
  rw [henqueue] at hdatabase
  have hjob : (DeliveryJob.program (.enqueue "op-1" midnight
      (OutboxService.noteEnvelopeJson "op-1" (.string "text")))).run delivers state.deliveries =
      (.ok (), { state.deliveries with
        database := { OutboxService.emptyOutbox ["group"] with outbox := table } }) :=
    Program.run_bind_ok _ hdatabase
  have hsent := run_send (DeliveryJob.program (.enqueue "op-1" midnight
    (OutboxService.noteEnvelopeJson "op-1" (.string "text")))) state
  rw [hjob] at hsent
  refine ⟨_, Program.run_bind_ok _ hsent, ?_⟩
  rw [Table.insert?_eq_some_iff.mp htable]
  rfl

end TauriPlatform.OutboxSyncWorker
