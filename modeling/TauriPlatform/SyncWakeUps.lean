import TauriPlatform.SyncRuns

/-!
# What a request for a sync wakes up

A request finds the active sync task of its organisation, or inserts one.  When this task has
been completed by a run which had not begun before the request, that run has served every row
which the request was made for.  A run which was under way may have read its batch before, and
then the request is lost on it.
-/

namespace TauriPlatform.OutboxSyncWorker

open Async Relational TaskQueueService

/-! ## The request -/

section Requests

variable {start table : TaskTable} {key : String}

abbrev TableSafe {α : Type} (post : Except Thrown α → TaskTable → Prop)
    (program : Program (DbCall TaskTable) Thrown α) (table : TaskTable) : Prop :=
  program.Safe (fallible memoryConnection) (fun _ => True) TasksKept (fun _ => True) post table

def OpenSince (start : TaskTable) (task : TaskRow) : Prop :=
  ∀ row ∈ start, row.id = task.id → row.state.isActive

def Awaits (start : TaskTable) (key : String) (table : TaskTable) : Prop :=
  ∃ task ∈ table, task.uniqueKey = some key ∧ OpenSince start task

theorem TasksKept.refl (table : TaskTable) : TasksKept table table :=
  (Tended.refl ∅ table).kept

theorem TasksKept.trans (first second third : TaskTable) (hfirst : TasksKept first second)
    (hsecond : TasksKept second third) : TasksKept first third := by
  intro task htask
  obtain ⟨new, hnew, hkept⟩ := hfirst task htask
  obtain ⟨last, hlast, hkept'⟩ := hsecond new hnew
  exact ⟨last, hlast, hkept.trans hkept'⟩

theorem awaits_of_active (hstart : TasksKept start table) {task : TaskRow} (htask : task ∈ table)
    (hkey : task.uniqueKey = some key) (hactive : task.state.isActive) :
    Awaits start key table :=
  ⟨task, htask, hkey, fun _ hrow hid => (hstart.of_id hrow htask hid.symm).active hactive⟩

theorem Awaits.later {later : TaskTable} (hawaits : Awaits start key table)
    (hkept : TasksKept table later) : Awaits start key later := by
  obtain ⟨task, htask, hkey, hopen⟩ := hawaits
  obtain ⟨new, hnew, hkeeps⟩ := hkept task htask
  exact ⟨new, hnew, hkeeps.uniqueKey.trans hkey, fun row hrow hid =>
    hopen row hrow (hid.trans hkeeps.id)⟩

theorem tableSafe_of_makes {α : Type} {program : Program (DbCall TaskTable) Thrown α}
    (hmakes : program.Makes (TableTends ∅)) (table : TaskTable) :
    TableSafe (fun _ later => TasksKept table later) program table := by
  have hsafe : TableSafe (fun _ _ => True) program table :=
    hmakes.safe (fun _ _ htends now answer later _ hanswer =>
      ⟨trivial, (htends now answer later hanswer).kept⟩) table
  exact (hsafe.since TasksKept.refl TasksKept.trans).mono fun _ _ hpost => hpost.2

theorem awaits_findActive (hkey : key ≠ "") (hstart : TasksKept start table) :
    TableSafe (fun outcome later => TasksKept table later ∧
        ∀ found, outcome = .ok (some found) → Awaits start key later)
      (findActive (connectionExecutor TaskTable) (some key)) table := by
  have hfilter : (some key).filter (· ≠ "") = some key := by simp [hkey]
  simp only [findActive, hfilter]
  intro now hnow _ _ answer later hanswer
  have hkept := ((tends_openStatements ∅).select _ _ _ _ now answer later hanswer).kept
  refine ⟨trivial, hkept, ?_⟩
  cases hanswer with
  | inr hfailed =>
      obtain ⟨error, rfl⟩ := hfailed.1
      exact ⟨hnow.trans _ _ _ hkept, fun found hfound => nomatch hfound⟩
  | inl hrun =>
      have hselect := selectActive_run key now
      simp only [memoryConnection, hselect, Prod.mk.injEq] at hrun
      obtain ⟨rfl, rfl⟩ := hrun
      refine ⟨hnow, fun found hfound => ?_⟩
      have hhead : ((now.select fun row => activeKey row = some key).take 1).head? = some found :=
        Except.ok.inj hfound
      have hmem := List.mem_of_mem_take (List.mem_of_mem_head? hhead)
      obtain ⟨hrow, hactive⟩ := Table.mem_select.mp hmem
      have hactiveKey : activeKey found = some key := of_decide_eq_true hactive
      unfold activeKey at hactiveKey
      split_ifs at hactiveKey with hstate
      exact awaits_of_active (hstart.trans _ _ _ hnow) hrow hactiveKey hstate

theorem awaits_insertOrFindWinner {row : TaskRow} (hkey : key ≠ "")
    (hrowKey : row.uniqueKey = some key) (hpending : row.state = .pending)
    (hstart : TasksKept start table) :
    TableSafe (fun outcome later => TasksKept table later ∧
        ∀ result, outcome = .ok result → Awaits start key later)
      (insertOrFindWinner (connectionExecutor TaskTable) row) table := by
  unfold insertOrFindWinner
  apply Program.Safe.tryCatch
  intro now hnow _ _ answer later hanswer
  have hkept := ((tends_openStatements ∅).insert row hpending now answer later hanswer).kept
  have hsince := hnow.trans _ _ _ hkept
  refine ⟨trivial, hkept, ?_⟩
  cases answer with
  | error error =>
      change TableSafe _ (findActive (connectionExecutor TaskTable) row.uniqueKey >>= _) later
      rw [hrowKey]
      apply Program.Safe.bind
      apply Program.Safe.mono _ (awaits_findActive hkey (hstart.trans _ _ _ hsince))
      intro outcome last hlast
      obtain ⟨hstill, hfound⟩ := hlast
      have hkeptSince := hsince.trans _ _ _ hstill
      cases outcome with
      | error error => exact ⟨hkeptSince, fun result hresult => by cases hresult⟩
      | ok found =>
          cases found with
          | none => exact ⟨hkeptSince, fun result hresult => by cases hresult⟩
          | some winner => exact ⟨hkeptSince, fun _ _ => hfound winner rfl⟩
  | ok count =>
      refine ⟨hsince, fun _ _ => ?_⟩
      cases hanswer with
      | inr hfailed =>
          obtain ⟨error, herror⟩ := hfailed.1
          cases herror
      | inl hrun =>
          cases hinsert : (TaskQueueService.insertStatement row).run now with
          | error message =>
              simp only [memoryConnection, hinsert] at hrun
              cases hrun
          | ok result =>
              simp only [memoryConnection, hinsert, Prod.mk.injEq] at hrun
              obtain ⟨-, rfl⟩ := hrun
              have hrow : row ∈ result.database := by
                simp only [TaskQueueService.insertStatement, Statement.run] at hinsert
                split at hinsert
                · rename_i inserted htable
                  cases hinsert
                  rw [Table.mem_def, Table.insert?_eq_some_iff.mp htable]
                  exact List.mem_append_right _ List.mem_cons_self
                · cases hinsert
              exact awaits_of_active (hstart.trans _ _ _ hsince) hrow hrowKey
                (by simp [hpending, TaskState.isActive])

theorem awaits_enqueue {definition : TaskDefinition} (hkey : key ≠ "")
    (hdefinition : definition.uniqueKey = some key) (hstart : TasksKept start table)
    (id : String) (now : ClockReading) :
    TableSafe (fun outcome later => ∀ record, outcome = .ok record → Awaits start key later)
      (enqueue (connectionExecutor TaskTable) id now definition) table := by
  unfold enqueue
  apply Program.Safe.bind
  cases checkDefinition definition with
  | error error => exact fun record hrecord => nomatch hrecord
  | ok checked =>
      rw [hdefinition]
      apply Program.Safe.bind
      apply Program.Safe.mono _ (awaits_findActive hkey hstart)
      intro outcome before hbefore
      obtain ⟨hkept, hfound⟩ := hbefore
      cases outcome with
      | error error => exact fun record hrecord => nomatch hrecord
      | ok found =>
          cases found with
          | some existing => exact fun record _ => hfound existing rfl
          | none =>
              apply Program.Safe.bind
              apply Program.Safe.mono _ (awaits_insertOrFindWinner hkey hdefinition rfl
                (hstart.trans _ _ _ hkept))
              intro outcome inserted hinserted
              cases outcome with
              | error error => exact fun record hrecord => nomatch hrecord
              | ok result =>
                  have hawaits := hinserted.2 result rfl
                  cases result with
                  | some winner => exact fun record _ => hawaits
                  | none =>
                      refine (tableSafe_of_makes ?_ inserted).mono ?_
                      · refine (makes_query ((tends_openStatements ∅).select _ _ _ _)).bind ?_
                        intro rows
                        cases rows with
                        | nil => exact Program.makes_done _
                        | cons row rest => exact Program.makes_done _
                      · exact fun outcome later hlater record _ => hawaits.later hlater

theorem awaits_enqueueSync {start state : SyncState} (hstart : SyncFollows start state)
    (id : String) (now : ClockReading) (organisationId : String) (batchLimit : NumberValue) :
    SyncSafe (fun outcome later => outcome = .ok () →
        Awaits start.tasks (uniqueKeyOf organisationId) later.tasks)
      ((enqueueSync (connectionExecutor TaskTable) id now organisationId batchLimit).mapCall
        fun _ => SyncCall.tasks) state := by
  have htable : TableSafe (fun outcome later => outcome = .ok () →
        Awaits start.tasks (uniqueKeyOf organisationId) later)
      (enqueueSync (connectionExecutor TaskTable) id now organisationId batchLimit)
      state.tasks := by
    apply Program.Safe.bind
    apply Program.Safe.mono _ (awaits_enqueue (uniqueKeyOf_ne organisationId) rfl hstart.tasks id
      now)
    intro outcome later hawaits
    cases outcome with
    | error error => exact fun hok => nomatch hok
    | ok record => exact fun _ => hawaits record rfl
  refine Program.Safe.mapCall SyncState.tasks (fun _ _ hfollows => hfollows.tasks) ?_ htable
  intro β request now later answer _ _ hanswer
  refine ⟨trivial, trivial, hanswer.1, fun _ hkept => ⟨trivial, ?_, hkept⟩⟩
  rw [hanswer.2]
  exact .refl _

end Requests

/-! ## What is served -/

def NothingMissed (organisationId : String) (asked later : SyncSystem) : Prop :=
  (∀ task ∈ later.state.tasks, task.taskType = outboxSyncTaskType →
    task.organisationId = organisationId → ¬ task.state.isActive) →
  ∀ row ∈ asked.state.deliveries.database.outbox, row.organisationId = organisationId →
    ∀ new ∈ later.state.deliveries.database.outbox, new.id = row.id → new.status = .pending →
      ∃ dispatched ∈ later.state.deliveries.dispatches,
        envelopeIdOf? dispatched.payloadJson = some row.envelopeId

def emptyPool : SyncState where
  deliveries := ⟨OutboxService.emptyOutbox ["group"], []⟩
  tasks := Table.empty

theorem poll_run (state : SyncState) {batchLimit : Int}
    (hrows : state.tasks.rows = [waitingSync batchLimit]) :
    ∃ tasks, ((SyncJob.operation (.claimNextBatch midnight (fun _ => midnight)
        (.finite (.integer 1)) [])).program .codePoint).run serving state =
          (.ok (.records [syncRecord batchLimit]), { state with tasks := tasks }) ∧
      tasks.rows = [runningSync batchLimit] := by
  obtain ⟨tasks, hrun, htasks⟩ := claimNextBatch_run .codePoint (fun _ => midnight) hrows
  have hcall : (Operation.program .codePoint (.claimNextBatch midnight (fun _ => midnight)
      (.finite (.integer 1)) [])).run memoryConnection state.tasks =
      (.ok (.records [syncRecord batchLimit]), tasks) := Program.run_bind_ok _ hrun
  refine ⟨tasks, ?_, htasks⟩
  rw [SyncJob.program, run_tasks, hcall]

theorem request_run (state : SyncState) (batchLimit : Int) (hrows : state.tasks.rows = []) :
    ∃ tasks, ((enqueueSync (connectionExecutor TaskTable) "task-1" midnight "org"
        (.finite (.integer batchLimit))).mapCall fun _ => SyncCall.tasks).run serving state =
          (.ok (), { state with tasks := tasks }) ∧
      tasks.rows = [waitingSync batchLimit] := by
  obtain ⟨tasks, hrun, htasks⟩ := enqueueSync_run_inserts batchLimit hrows
  refine ⟨tasks, ?_, htasks⟩
  rw [run_tasks, hrun]

def twoNotes : OutboxDatabase where
  syncGroupIds := ["group"]
  outbox := {
    rows := [OutboxService.noteRow "op-1" "text", OutboxService.noteRow "op-2" "text"]
    unique := by
      have hdistinct : ["op-1", "op-2"].Nodup := by decide
      intro index hindex
      rw [outboxIndexes, List.mem_cons, List.mem_singleton] at hindex
      cases hindex with
      | inl hid =>
          rw [hid]
          exact hdistinct
      | inr henvelopeId =>
          rw [henvelopeId]
          exact hdistinct }

theorem pendingBatch_twoNotes :
    (OutboxService.pendingBatch "org" (batchLimitOf (syncPayload 1))).run memoryConnection
      twoNotes = (.ok [SyncEndpoint.noteRecord], twoNotes) := by
  have hlimit : OutboxService.admittedLimit? (batchLimitOf (syncPayload 1)) = some 1 := by decide
  have hblank : isBlank "org" = false := by decide
  have hpending : OutboxService.pendingRows "org" twoNotes.outbox =
      [OutboxService.noteRow "op-1" "text", OutboxService.noteRow "op-2" "text"] := by
    have hsorted : [OutboxService.noteRow "op-1" "text",
        OutboxService.noteRow "op-2" "text"].Pairwise
          fun left right => left.createdAt ≤ right.createdAt := by
      rw [List.pairwise_pair]
      exact le_rfl
    exact hsorted.insertionSort_eq
  have hquery : (OutboxService.pendingStatement "org" 1).run twoNotes = .ok {
      database := twoNotes
      rows := [OutboxService.noteRow "op-1" "text"]
      rowsAffected := 0 } := by
    simp only [OutboxService.pendingStatement, Statement.run, hpending]
    rfl
  have hrecords : [OutboxService.noteRow "op-1" "text"].mapM OutboxService.readRecord =
      .ok [SyncEndpoint.noteRecord] := by
    rw [List.mapM_cons, SyncEndpoint.readRecord_note]
    rfl
  simp only [OutboxService.pendingBatch, hblank, Bool.false_eq_true, if_false, hlimit]
  rw [Program.run_bind_ok _ (memory_query_run hquery), Program.run_ofExcept, hrecords]

theorem handle_twoNotes :
    ∃ database, (handle outboxServices "org" (syncPayload 1)).run delivers ⟨twoNotes, []⟩ =
        (.ok (), ⟨database, [⟨SyncEndpoint.noteText, true⟩]⟩) ∧
      OutboxService.noteRow "op-2" "text" ∈ database.outbox := by
  have hid : ∀ row, (OutboxService.sent midnight.iso row).id = row.id := fun _ => rfl
  obtain ⟨result, hrun, -, hrows⟩ := updateStatement_run_ok
    (OutboxService.sentStatement midnight.iso "op-1").sql
    (OutboxService.sentStatement midnight.iso "op-1").params "op-1" hid (fun _ => rfl) twoNotes
  have hmarked : (OutboxService.markSent midnight "op-1").run memoryConnection twoNotes =
      (.ok (), result.database) := memory_execute_run hrun
  have hbatch := run_database (OutboxService.pendingBatch "org" (batchLimitOf (syncPayload 1)))
    ⟨twoNotes, []⟩
  rw [pendingBatch_twoNotes] at hbatch
  have hsent := run_database (OutboxService.markSent midnight "op-1")
    ⟨twoNotes, [⟨SyncEndpoint.noteText, true⟩]⟩
  rw [hmarked] at hsent
  have hentry : (dispatchEntry outboxServices SyncEndpoint.noteRecord).run delivers ⟨twoNotes, []⟩ =
      (.ok true, ⟨result.database, [⟨SyncEndpoint.noteText, true⟩]⟩) := by
    refine Program.run_tryCatch_ok ?_ _
    exact Program.run_bind_ok _ hsent
  have hall : (dispatchAll outboxServices [SyncEndpoint.noteRecord] 0 0).run delivers
      ⟨twoNotes, []⟩ = (.ok (1, 0), ⟨result.database, [⟨SyncEndpoint.noteText, true⟩]⟩) :=
    Program.run_bind_ok _ hentry
  have hhandled : (handleBatch outboxServices "org" [SyncEndpoint.noteRecord]).run delivers
      ⟨twoNotes, []⟩ = (.ok (), ⟨result.database, [⟨SyncEndpoint.noteText, true⟩]⟩) :=
    Program.run_bind_ok _ hall
  refine ⟨result.database, ?_, ?_⟩
  · have hnamed : ((syncPayload 1).get? "organisationId").bind JsonValue.string? =
        some "org" := rfl
    have haborted : outboxServices.aborted.run delivers ⟨twoNotes, []⟩ =
        (.ok false, ⟨twoNotes, []⟩) := rfl
    have hread : outboxServices.pendingBatch "org" (batchLimitOf (syncPayload 1)) =
        (OutboxService.pendingBatch "org" (batchLimitOf (syncPayload 1))).mapCall
          fun _ => .database := rfl
    rw [handle, if_neg (not_not.mpr hnamed), Program.run_bind_ok _ haborted, hread,
      if_neg Bool.false_ne_true, Program.run_bind_ok _ hbatch, hhandled]
  · rw [Table.mem_def, hrows]
    exact List.mem_cons_of_mem _ List.mem_cons_self

/-- Whoever asks for a sync gets an active task of the organisation.  Once it is completed,
every row which waited then and waits still has been dispatched since, or a full batch of rows
which are no newer has, unless a run of the task was under way already. -/
theorem enqueueSync_wakes {collation : Collation} {initial : SyncState}
    {asked answered later : SyncSystem} {id : String} {now : ClockReading}
    {organisationId : String} {batchLimit : NumberValue}
    (hasked : SyncReaches collation initial asked)
    (hcall : Beside collation ((enqueueSync (connectionExecutor TaskTable) id now organisationId
      batchLimit).mapCall fun _ => SyncCall.tasks) asked (.done (.ok ())) answered)
    (hlater : Relation.ReflTransGen (SyncStep collation) answered later) :
    (∃ task ∈ later.state.tasks, task.uniqueKey = some (uniqueKeyOf organisationId) ∧
      OpenSince asked.state.tasks task) ∧
    ∀ task ∈ later.state.tasks, task.taskType = outboxSyncTaskType →
      task.organisationId = organisationId → OpenSince asked.state.tasks task →
      task.state = .completed →
      (∀ thread ∈ asked.threads, Executes task.id thread →
        thread.program = thread.label.program collation) →
      ∃ payload size, parseJson? task.payloadJson = some payload ∧
        OutboxService.admittedLimit? (batchLimitOf payload) = some size ∧
        ∀ row ∈ asked.state.deliveries.database.outbox, row.organisationId = organisationId →
          ∀ new ∈ later.state.deliveries.database.outbox, new.id = row.id →
            new.status = .pending →
            ServedSince organisationId size asked.state.deliveries later.state.deliveries row := by
  have htracked : AllHold (fun _ => True) Tracked asked :=
    ((tracked_invariant collation).run ⟨trivial, fun _ hnone => absurd hnone List.not_mem_nil⟩ hasked).1
  constructor
  · obtain ⟨hall, -, hawaits⟩ := (tracked_invariant collation).beside
      (fun _ _ _ hpost hfollows hok => (hpost hok).later hfollows.tasks) hcall htracked
      (awaits_enqueueSync (.refl asked.state) id now organisationId batchLimit)
    exact (hawaits rfl).later ((tracked_invariant collation).run hall hlater).2.tasks
  · intro task htask htype horganisation hopen hcompleted hfresh
    have hhonest : Honest asked.state task.id asked.state := by
      refine ⟨.refl _, fun row hrow hid _ hstate => ?_⟩
      have hactive := hopen row hrow hid
      rw [hstate] at hactive
      cases hactive
    have hsupervised : AllHold (Honest asked.state task.id) (Supervised asked.state task.id)
        asked := by
      refine ⟨hhonest, fun thread hthread => ⟨htracked.2 thread hthread, fun hexecutes => ?_⟩⟩
      have hsame := hexecutes
      obtain ⟨record, run, hlabel, -⟩ := hsame
      have hworker : thread = workerThread collation (record, run) := by
        have hprogram := hfresh thread hthread hexecutes
        rw [hlabel] at hprogram
        cases thread
        cases hlabel
        cases hprogram
        rfl
      rw [hworker] at hthread hexecutes ⊢
      exact (supervised_worker collation (record, run) (.refl _)
        (htracked.2 _ hthread)).run hexecutes
    have hinvariant := supervised_invariant collation asked.state task.id
    obtain ⟨hall, -, -⟩ := hinvariant.beside (fun _ _ _ _ _ => trivial) hcall hsupervised
      (safe_of_tends (enqueueSync_tends ∅ id now organisationId batchLimit) asked.state)
    obtain ⟨payload, hpayload, size, hsize, hserves⟩ :=
      (hinvariant.run hall hlater).1.1.served task htask rfl htype hcompleted
    rw [horganisation] at hserves
    refine ⟨payload, size, hpayload, hsize, fun row hrow hsame new hnew hid hpending => ?_⟩
    obtain ⟨last, hlast, hkept, hserved⟩ := hserves row hrow hsame
    have hnewLast : last = new := eq_of_id_eq hlast hnew (hkept.id.trans hid.symm)
    rw [hnewLast] at hserved
    exact hserved hpending

theorem request_lost :
    ¬ ∀ (collation : Collation) (initial : SyncState) (asked answered later : SyncSystem)
        (id : String) (now : ClockReading) (organisationId : String) (batchLimit : NumberValue),
      SyncReaches collation initial asked →
      Beside collation ((enqueueSync (connectionExecutor TaskTable) id now organisationId
        batchLimit).mapCall fun _ => SyncCall.tasks) asked (.done (.ok ())) answered →
      Relation.ReflTransGen (SyncStep collation) answered later →
      NothingMissed organisationId asked later := by
  intro hall
  -- the first request inserts the task, and a poll claims it
  obtain ⟨waiting, hrequest, hwaiting⟩ := request_run emptyPool 50 rfl
  have hcall := steps_call .codePoint (.enqueueSync "task-1" midnight "org"
    (.finite (.integer 50))) trivial emptyPool []
  rw [SyncJob.program, Program.run_bind_ok _ hrequest] at hcall
  obtain ⟨running, hpoll, hrunning⟩ := poll_run { emptyPool with tasks := waiting }
    hwaiting
  have hpolled := hcall.trans (steps_poll .codePoint hpoll syncRun [])
  -- its worker finds the outbox empty
  have hsize : OutboxService.admittedLimit? (batchLimitOf (syncPayload 50)) = some 50 := by decide
  have hread := steps_advances .codePoint (.worker (syncRecord 50) syncRun)
    (syncWorker_advances { emptyPool with tasks := running } hsize rfl) [] []
  rw [← worker_program .codePoint] at hread
  -- an envelope is enqueued
  obtain ⟨database, henqueue, hdatabase⟩ :=
    enqueue_note_run { emptyPool with tasks := running } rfl
  have hnote := steps_call .codePoint (.enqueue "op-1" midnight
    (OutboxService.noteEnvelopeJson "op-1" (.string "text"))) trivial
    { emptyPool with tasks := running }
    [⟨.worker (syncRecord 50) syncRun, syncWorker 50 (handleBatch outboxServices "org" [])⟩]
  rw [henqueue] at hnote
  have hasked := (hpolled.trans hread).trans hnote
  -- the second request finds the task running, and then the worker completes it
  let asked : SyncState := ⟨⟨database, []⟩, running⟩
  have hfound := run_tasks (enqueueSync (connectionExecutor TaskTable) "task-2" midnight "org"
    (.finite (.integer 50))) asked
  rw [enqueueSync_run_finds hrunning "task-2" 50] at hfound
  have hbeside := beside_alone .codePoint ((enqueueSync (connectionExecutor TaskTable) "task-2"
    midnight "org" (.finite (.integer 50))).mapCall fun _ => SyncCall.tasks) asked
    [⟨.worker (syncRecord 50) syncRun, syncWorker 50 (handleBatch outboxServices "org" [])⟩]
  rw [hfound] at hbeside
  obtain ⟨ended, hworker, hended⟩ := syncWorker_run (handleBatch outboxServices "org" [])
    asked rfl hrunning
  have hlater := steps_alone .codePoint (.worker (syncRecord 50) syncRun)
    (syncWorker 50 (handleBatch outboxServices "org" [])) asked [] []
  rw [hworker] at hlater
  have hmissed := hall .codePoint emptyPool _ _ _ "task-2" midnight "org" (.finite (.integer 50))
    hasked hbeside hlater
  have hnone : ∀ task ∈ ended, task.taskType = outboxSyncTaskType → task.organisationId = "org" →
      ¬ task.state.isActive := by
    intro task htask _ _
    rw [Table.mem_def, hended] at htask
    rw [List.mem_singleton.mp htask]
    exact Bool.false_ne_true
  have hrow : enqueuedNote ∈ database.outbox := by
    rw [Table.mem_def, hdatabase]
    exact List.mem_cons_self
  obtain ⟨dispatched, hdispatched, -⟩ := hmissed hnone enqueuedNote hrow rfl enqueuedNote hrow rfl
    rfl
  exact absurd hdispatched List.not_mem_nil

theorem second_note_waits :
    ∃ later : SyncState, OutboxService.noteRow "op-2" "text" ∈ later.deliveries.database.outbox ∧
      ServedSince "org" 1 ⟨twoNotes, []⟩ later.deliveries (OutboxService.noteRow "op-2" "text") := by
  let initial : SyncState := ⟨⟨twoNotes, []⟩, Table.empty⟩
  obtain ⟨waiting, hrequest, hwaiting⟩ := request_run initial 1 rfl
  have hbeside := beside_alone .codePoint ((enqueueSync (connectionExecutor TaskTable) "task-1"
    midnight "org" (.finite (.integer 1))).mapCall fun _ => SyncCall.tasks) initial []
  rw [hrequest] at hbeside
  obtain ⟨running, hpoll, hrunning⟩ := poll_run { initial with tasks := waiting } hwaiting
  have hpolled := steps_poll .codePoint hpoll syncRun []
  obtain ⟨database, hhandle, hnote⟩ := handle_twoNotes
  obtain ⟨ended, hworker, hended⟩ := syncWorker_run _ { initial with tasks := running } hhandle
    hrunning
  rw [← worker_program .codePoint] at hworker
  have hended' := steps_alone .codePoint (.worker (syncRecord 1) syncRun)
    ((SyncJob.worker (syncRecord 1) syncRun).program .codePoint) { initial with tasks := running }
    [] []
  rw [hworker] at hended'
  have htask : completed midnight.iso (runningSync 1) ∈ ended := by
    rw [Table.mem_def, hended]
    exact List.mem_cons_self
  have hasked : SyncReaches .codePoint initial ⟨initial, []⟩ := .refl
  obtain ⟨-, hserved⟩ := enqueueSync_wakes hasked hbeside (hpolled.trans hended')
  obtain ⟨payload, size, hpayload, hsize, hall⟩ := hserved _ htask rfl rfl
    (fun _ hnone => absurd hnone List.not_mem_nil) rfl
    (fun _ hnone => absurd hnone List.not_mem_nil)
  have hsame : payload = syncPayload 1 :=
    Option.some.inj (hpayload.symm.trans (parseJson?_syncPayload 1))
  have hone : size = 1 := by
    have hlimit : OutboxService.admittedLimit? (batchLimitOf (syncPayload 1)) = some 1 := by decide
    rw [hsame, hlimit] at hsize
    exact (Option.some.inj hsize).symm
  rw [hone] at hall
  exact ⟨⟨_, ended⟩, hnote, hall (OutboxService.noteRow "op-2" "text")
    (List.mem_cons_of_mem _ List.mem_cons_self) rfl _ hnote rfl rfl⟩

end TauriPlatform.OutboxSyncWorker
