import TauriPlatform.SyncTending

/-!
# The runs of one task

Whatever else is in flight, a sync task is only completed by a run which has served what waited
when the run began.
-/

namespace TauriPlatform.OutboxSyncWorker

open Async Relational TaskQueueService

/-! ## Invariants of a run -/

/-- An invariant of the state, with what holds of each thread in flight. -/
structure ThreadInvariant (collation : Collation) (Inv : SyncState → Prop)
    (Holds : SyncThread → SyncState → Prop) : Prop where
  later : ∀ thread state later, Holds thread state → SyncFollows state later →
    Holds thread later
  call : ∀ job state, job.IsCall → Inv state → Holds ⟨job, job.program collation⟩ state
  answered : ∀ (β : Type) (request : SyncCall β) rest job state answer later, Inv state →
    Holds ⟨job, .call request rest⟩ state → syncing request state answer later →
    Inv later ∧ SyncFollows state later ∧ Holds ⟨job, rest answer⟩ later
  claimed : ∀ now readings limit taskTypes records state, Inv state →
    Holds ⟨.operation (.claimNextBatch now readings limit taskTypes),
      .done (.ok (.records records))⟩ state →
    ∀ work : TaskRecord × HandlerRun, work.1 ∈ records → Holds (workerThread collation work) state

def AllHold (Inv : SyncState → Prop) (Holds : SyncThread → SyncState → Prop)
    (system : SyncSystem) : Prop :=
  Inv system.state ∧ ∀ thread ∈ system.threads, Holds thread system.state

section Invariants

variable {collation : Collation} {Inv : SyncState → Prop} {Holds : SyncThread → SyncState → Prop}
  {system next : SyncSystem}

theorem ThreadInvariant.step (hinvariant : ThreadInvariant collation Inv Holds)
    (hall : AllHold Inv Holds system) (hstep : SyncStep collation system next) :
    AllHold Inv Holds next ∧ SyncFollows system.state next.state := by
  obtain ⟨hinv, hthreads⟩ := hall
  cases hstep with
  | start job state threads hcall =>
      refine ⟨⟨hinv, List.forall_mem_cons.mpr ⟨?_, hthreads⟩⟩, .refl state⟩
      exact hinvariant.call job state hcall hinv
  | advance request rest job state before after answer later hanswer =>
      obtain ⟨hlater, hfollows, hrest⟩ := hinvariant.answered _ request rest job state answer later
        hinv (hthreads _ (by simp)) hanswer
      refine ⟨⟨hlater, fun thread hthread => ?_⟩, hfollows⟩
      rcases List.mem_append.mp hthread with hbefore | hthread
      · exact hinvariant.later _ _ _ (hthreads thread (List.mem_append_left _ hbefore)) hfollows
      · cases List.mem_cons.mp hthread with
        | inl hsame =>
            rw [hsame]
            exact hrest
        | inr hafter =>
            have hmem : thread ∈ before ++ ⟨job, .call request rest⟩ :: after :=
              List.mem_append_right _ (List.mem_cons_of_mem _ hafter)
            exact hinvariant.later _ _ _ (hthreads thread hmem) hfollows
  | dispatch now readings limit taskTypes records work state before after hwork =>
      refine ⟨⟨hinv, fun thread hthread => ?_⟩, .refl state⟩
      rcases List.mem_append.mp hthread with hthread | hafter
      · cases List.mem_append.mp hthread with
        | inl hbefore => exact hthreads thread (List.mem_append_left _ hbefore)
        | inr hnew =>
            obtain ⟨item, hitem, rfl⟩ := List.mem_map.mp hnew
            exact hinvariant.claimed now readings limit taskTypes records state hinv
              (hthreads _ (by simp)) item (hwork.subset (List.mem_map_of_mem hitem))
      · exact hthreads thread (List.mem_append_right _ (List.mem_cons_of_mem _ hafter))
  | crash state threads survivors hsurvivors =>
      exact ⟨⟨hinv, fun thread hthread => hthreads thread (hsurvivors.subset hthread)⟩, .refl state⟩

theorem ThreadInvariant.run (hinvariant : ThreadInvariant collation Inv Holds)
    (hall : AllHold Inv Holds system)
    (hsteps : Relation.ReflTransGen (SyncStep collation) system next) :
    AllHold Inv Holds next ∧ SyncFollows system.state next.state := by
  induction hsteps with
  | refl => exact ⟨hall, .refl _⟩
  | tail _ hstep ih =>
      obtain ⟨hnow, hfollows⟩ := ih
      obtain ⟨hnext, hfollows'⟩ := hinvariant.step hnow hstep
      exact ⟨hnext, hfollows.trans _ _ _ hfollows'⟩

end Invariants

/-! ## A call beside what is in flight -/

/-- The calls of one program are answered between the steps of what is in flight. -/
inductive Beside (collation : Collation) {α : Type} :
    Program SyncCall Thrown α → SyncSystem → Program SyncCall Thrown α → SyncSystem → Prop
  | refl (program : Program SyncCall Thrown α) (system : SyncSystem) :
      Beside collation program system program system
  | others {program final : Program SyncCall Thrown α} {system next later : SyncSystem} :
      SyncStep collation system next → Beside collation program next final later →
      Beside collation program system final later
  | answered {β : Type} {request : SyncCall β}
      {rest : Except Thrown β → Program SyncCall Thrown α} {final : Program SyncCall Thrown α}
      {system later : SyncSystem} (answer : Except Thrown β) (state : SyncState) :
      syncing request system.state answer state →
      Beside collation (rest answer) ⟨state, system.threads⟩ final later →
      Beside collation (.call request rest) system final later

theorem ThreadInvariant.beside {collation : Collation} {Inv : SyncState → Prop}
    {Holds : SyncThread → SyncState → Prop} {α : Type}
    {post : Except Thrown α → SyncState → Prop}
    (hinvariant : ThreadInvariant collation Inv Holds)
    (hpost : ∀ outcome state later, post outcome state → SyncFollows state later →
      post outcome later)
    {program final : Program SyncCall Thrown α} {system later : SyncSystem}
    (hbeside : Beside collation program system final later)
    (hall : AllHold Inv Holds system)
    (hsafe : program.Safe syncing Inv SyncFollows (fun _ => True) post system.state) :
    AllHold Inv Holds later ∧ SyncFollows system.state later.state ∧
      final.Safe syncing Inv SyncFollows (fun _ => True) post later.state := by
  induction hbeside with
  | refl program system => exact ⟨hall, .refl _, hsafe⟩
  | others hstep _ ih =>
      obtain ⟨hnext, hfollows⟩ := hinvariant.step hall hstep
      obtain ⟨hlater, hfollows', hfinal⟩ := ih hnext (hsafe.grow SyncFollows.trans hpost hfollows)
      exact ⟨hlater, hfollows.trans _ _ _ hfollows', hfinal⟩
  | @answered β request rest final system later answer state hanswer _ ih =>
      obtain ⟨hinv, hfollows, hrest⟩ := hsafe system.state (.refl _) hall.1 trivial answer state
        hanswer
      have hothers : AllHold Inv Holds ⟨state, system.threads⟩ :=
        ⟨hinv, fun thread hthread => hinvariant.later _ _ _ (hall.2 thread hthread) hfollows⟩
      obtain ⟨hlater, hfollows', hfinal⟩ := ih hothers hrest
      exact ⟨hlater, hfollows.trans _ _ _ hfollows', hfinal⟩

/-! ## Everything in flight -/

structure Tracked (thread : SyncThread) (state : SyncState) : Prop where
  tends : thread.program.Makes (Tends thread.label.own)
  hands : SyncSafe (Hands thread.label) thread.program state
  task : ∀ task run, thread.label = .worker task run → Matches task state.tasks

theorem Tracked.later (thread : SyncThread) (state later : SyncState)
    (htracked : Tracked thread state) (hfollows : SyncFollows state later) :
    Tracked thread later where
  tends := htracked.tends
  hands := htracked.hands.grow SyncFollows.trans (fun _ _ _ hhands => hhands.later) hfollows
  task task run hlabel := (htracked.task task run hlabel).later hfollows.tasks

theorem tracked_call (collation : Collation) {job : SyncJob} (hcall : job.IsCall)
    (state : SyncState) : Tracked ⟨job, job.program collation⟩ state where
  tends := call_tends collation hcall
  hands := by
    have hany : SyncSafe (fun _ _ => True) (job.program collation) state :=
      (syncSafe_of_every (call_tends collation hcall) state).mono fun _ _ _ => trivial
    cases job with
    | operation call =>
        cases call with
        | claimNextBatch now readings limit taskTypes =>
            exact hands_claim collation now readings limit taskTypes state
        | _ => exact hany
    | _ => exact hany
  task task run hlabel := by
    cases hlabel
    exact absurd hcall id

theorem tracked_worker (collation : Collation) (work : TaskRecord × HandlerRun)
    {state : SyncState} (hmatches : Matches work.1 state.tasks) :
    Tracked (workerThread collation work) state where
  tends := worker_tends collation work.1 work.2
  hands := (syncSafe_of_every (worker_tends collation work.1 work.2) state).mono
    fun _ _ _ => trivial
  task task run hlabel := by
    cases hlabel
    exact hmatches

theorem Tracked.answered {β : Type} {request : SyncCall β}
    {rest : Except Thrown β → Program SyncCall Thrown QueueAnswer} {job : SyncJob}
    {state later : SyncState} {answer : Except Thrown β}
    (htracked : Tracked ⟨job, .call request rest⟩ state)
    (hanswer : syncing request state answer later) :
    SyncFollows state later ∧ Tended job.own state.tasks later.tasks ∧
      Tracked ⟨job, rest answer⟩ later := by
  obtain ⟨hfollows, htended⟩ := htracked.tends.1 state answer later hanswer
  refine ⟨hfollows, htended, ⟨htracked.tends.2 answer, ?_, ?_⟩⟩
  · exact (htracked.hands state (.refl _) trivial trivial answer later hanswer).2.2
  · exact fun task run hlabel => (htracked.task task run hlabel).later hfollows.tasks

theorem tracked_invariant (collation : Collation) :
    ThreadInvariant collation (fun _ => True) Tracked where
  later := Tracked.later
  call _ state hcall _ := tracked_call collation hcall state
  answered _ _ _ _ _ _ _ _ htracked hanswer := by
    obtain ⟨hfollows, -, hrest⟩ := htracked.answered hanswer
    exact ⟨trivial, hfollows, hrest⟩
  claimed _ _ _ _ records _ _ htracked work hwork :=
    tracked_worker collation work (htracked.hands records rfl work.1 hwork)

/-! ## The runs of one task -/

/-- Since the start, the task has only been completed by a run which served what waited. -/
structure Honest (start : SyncState) (id : String) (state : SyncState) : Prop where
  follows : SyncFollows start state
  served : ∀ task ∈ state.tasks, task.id = id → task.taskType = outboxSyncTaskType →
    task.state = .completed → ∃ payload, parseJson? task.payloadJson = some payload ∧
      ServesSince task.organisationId payload start.deliveries state.deliveries

def Executes (id : String) (thread : SyncThread) : Prop :=
  ∃ task run, thread.label = .worker task run ∧ task.row.id = id ∧
    task.row.taskType = outboxSyncTaskType

structure Supervised (start : SyncState) (id : String) (thread : SyncThread)
    (state : SyncState) : Prop where
  tracked : Tracked thread state
  run : Executes id thread →
    thread.program.Safe syncing (Honest start id) SyncFollows (fun _ => True) anyOutcome state

section Runs

variable {start state later : SyncState} {id : String}

theorem Honest.tended {own : Set String} (hhonest : Honest start id state)
    (hfollows : SyncFollows state later) (htended : Tended own state.tasks later.tasks)
    (hown : ∀ task ∈ later.tasks, task.id = id → task.taskType = outboxSyncTaskType →
      task.id ∉ own) : Honest start id later := by
  refine ⟨hhonest.follows.trans _ _ _ hfollows, fun task htask hid htype hstate => ?_⟩
  rcases htended.completed task htask hstate with howned | ⟨old, hold, hsame, hcompleted⟩
  · exact absurd howned (hown task htask hid htype)
  · have hkept := htended.kept.of_id hold htask hsame.symm
    obtain ⟨payload, hpayload, hserves⟩ := hhonest.served old hold (hsame.trans hid)
      (hkept.taskType.symm.trans htype) hcompleted
    rw [hkept.payloadJson, hkept.organisationId]
    exact ⟨payload, hpayload, hserves.grow hfollows.deliveries⟩

theorem safe_of_tends {α : Type} {program : Program SyncCall Thrown α}
    (htends : program.Makes (Tends ∅)) (state : SyncState) :
    program.Safe syncing (Honest start id) SyncFollows (fun _ => True) (fun _ _ => True) state := by
  refine (Program.Every.safe ?_ htends state)
  intro β request hrequest now answer later hhonest hanswer
  obtain ⟨hfollows, htended⟩ := hrequest now answer later hanswer
  exact ⟨hhonest.tended hfollows htended fun _ _ _ _ => Set.notMem_empty _, hfollows⟩

theorem safe_executeSyncTask {task : TaskRecord} (hstart : SyncFollows start state)
    (hmatches : Matches task state.tasks) (run : HandlerRun) :
    (executeSyncTask task run).Safe syncing (Honest start task.row.id) SyncFollows
      (fun _ => True) (fun _ _ => True) state := by
  unfold executeSyncTask settleTask
  split_ifs
  · apply Program.Safe.tryCatch
    have hrecover : ∀ (error : Thrown) (now : SyncState),
        (do
          let _willRetry ← (TaskQueueService.markFailed (connectionExecutor TaskTable) run.failedAt
            run.rescheduledFrom run.random task.row.id error).mapCall fun _ => SyncCall.tasks
          pure () : Program SyncCall Thrown Unit).Safe syncing (Honest start task.row.id)
            SyncFollows (fun _ => True) (fun _ _ => True) now :=
      fun error now => safe_of_tends ((markFailed_tends _ _ _ _ _ _).bind
        fun _ => Program.makes_done _) now
    have hhandle : ((handle outboxServices task.row.organisationId task.payload).mapCall fun _ =>
        SyncCall.send).Safe syncing (Honest start task.row.id) SyncFollows (fun _ => True)
          (fun outcome now => outcome = .ok () → ServesSince task.row.organisationId task.payload
            start.deliveries now.deliveries) state := by
      refine Program.Safe.mapCall SyncState.deliveries (fun _ _ hfollows => hfollows.deliveries) ?_
        (sends_handle hstart.deliveries task.row.organisationId task.payload)
      intro β request now answer later hhonest _ hanswer
      refine ⟨trivial, trivial, hanswer.1, fun _ hfollows => ?_⟩
      have htended : Tended ∅ now.tasks later.tasks := by
        rw [hanswer.2]
        exact .refl ∅ _
      have hlater : SyncFollows now later := ⟨hfollows, htended.kept⟩
      exact ⟨hhonest.tended hlater htended fun _ _ _ _ => Set.notMem_empty _, hlater⟩
    apply Program.Safe.bind
    apply Program.Safe.mono _ (hhandle.since SyncFollows.refl SyncFollows.trans)
    intro outcome served hserved
    obtain ⟨hserves, hfollows⟩ := hserved
    cases outcome with
    | error error => exact hrecover error served
    | ok _ =>
        apply Program.Safe.bind
        intro now hnow hhonest _ answer later hanswer
        obtain ⟨hlater, htended⟩ := tends_aborted ∅ now answer later hanswer
        refine ⟨hhonest.tended hlater htended fun _ _ _ _ => Set.notMem_empty _, hlater, ?_⟩
        cases answer with
        | error error => exact hrecover error later
        | ok aborted =>
            cases aborted with
            | true => exact hrecover _ later
            | false =>
                intro before hbefore hhonest' _ answer after hanswer'
                obtain ⟨hafter, htended'⟩ := tends_tasks (tends_complete _ _) _ _ _ hanswer'
                have hsince : SyncFollows served after :=
                  hnow.trans _ _ _ (hlater.trans _ _ _ (hbefore.trans _ _ _ hafter))
                refine ⟨⟨hhonest'.follows.trans _ _ _ hafter, ?_⟩, hafter, ?_⟩
                · intro completed hcompleted hid _ _
                  obtain ⟨image, himage, hkept⟩ :=
                    (hmatches.later (hfollows.trans _ _ _ hsince).tasks).task
                  have hsame : image = completed :=
                    TaskQueueService.eq_of_id_eq himage hcompleted (hkept.id.trans hid.symm)
                  rw [← hsame, hkept.payloadJson, hkept.organisationId]
                  exact ⟨task.payload, hmatches.payload,
                    (hserves rfl).grow hsince.deliveries⟩
                · cases answer with
                  | ok _ => trivial
                  | error error => exact hrecover error after
  · exact safe_of_tends (cancel_tends _ _ _ _) state

theorem supervised_worker (collation : Collation) (work : TaskRecord × HandlerRun)
    (hstart : SyncFollows start state) (htracked : Tracked (workerThread collation work) state) :
    Supervised start id (workerThread collation work) state where
  tracked := htracked
  run hexecutes := by
    obtain ⟨task, run, hlabel, rfl, htype⟩ := hexecutes
    cases hlabel
    rw [workerThread, SyncJob.program, if_pos htype]
    apply Program.Safe.bind
    apply Program.Safe.mono _ (safe_executeSyncTask hstart (htracked.task _ _ rfl) work.2)
    intro outcome later _
    cases outcome with
    | ok _ => trivial
    | error _ => trivial

theorem supervised_invariant (collation : Collation) (start : SyncState) (id : String) :
    ThreadInvariant collation (Honest start id) (Supervised start id) where
  later thread state later hsupervised hfollows :=
    ⟨hsupervised.tracked.later _ _ _ hfollows, fun hexecutes =>
      (hsupervised.run hexecutes).grow SyncFollows.trans (fun _ _ _ _ _ => trivial) hfollows⟩
  call job state hcall _ := by
    refine ⟨tracked_call collation hcall state, fun hexecutes => ?_⟩
    obtain ⟨task, run, hlabel, -⟩ := hexecutes
    cases hlabel
    exact hcall.elim
  answered β request rest job state answer later hhonest hsupervised hanswer := by
    obtain ⟨hfollows, htended, htracked⟩ := hsupervised.tracked.answered hanswer
    by_cases hexecutes : Executes id ⟨job, .call request rest⟩
    · obtain ⟨hlater, -, hrest⟩ :=
        hsupervised.run hexecutes state (.refl _) hhonest trivial answer later hanswer
      exact ⟨hlater, hfollows, htracked, fun _ => hrest⟩
    · refine ⟨hhonest.tended hfollows htended ?_, hfollows, htracked,
        fun hother => absurd hother hexecutes⟩
      intro task htask hid htype howned
      cases job with
      | worker record run =>
          have hsame : task.id = record.row.id := howned
          obtain ⟨image, himage, hkept⟩ := (htracked.task record run rfl).task
          have himageId : image = task :=
            TaskQueueService.eq_of_id_eq himage htask (hkept.id.trans hsame.symm)
          refine hexecutes ⟨record, run, rfl, hsame.symm.trans hid, ?_⟩
          rw [← hkept.taskType, himageId, htype]
      | _ => exact absurd howned (Set.notMem_empty _)
  claimed now readings limit taskTypes records state hhonest hsupervised work hwork :=
    supervised_worker collation work hhonest.follows
      ((tracked_invariant collation).claimed now readings limit taskTypes records state trivial
        hsupervised.tracked work hwork)

end Runs

end TauriPlatform.OutboxSyncWorker
