import TauriPlatform.TaskQueueRuns

/-!
# How often a task is handed out

Every operation of the queue but one is safe for the bound on attempts: it gives
a row back to the queue only while an attempt is left.  `recoverHangingTasks`
gives back whatever was abandoned, also a row whose attempts are used up.
-/

namespace TauriPlatform.TaskQueueService

open Async Relational

section Safety

variable {Allowed : QueueHistory → Prop} {history : QueueHistory}

abbrev QueueSafe {α : Type} (Allowed : QueueHistory → Prop)
    (program : Program (DbCall TaskTable) Thrown α)
    (post : Except Thrown α → QueueHistory → Prop) (history : QueueHistory) : Prop :=
  program.Safe recordingConnection.environment Bounded Grows Allowed post history

/-! ## Statements -/

theorem safe_select {sql : String} {params : List JsonValue}
    {condition : TaskRow → Bool} {rest : List TaskRow → List TaskRow}
    {post : Except Thrown (List TaskRow) → QueueHistory → Prop}
    (hpost : ∀ now, Grows history now → Bounded now →
      post (.ok (rest (now.table.select condition))) now) :
    QueueSafe Allowed
      ((connectionExecutor TaskTable).query (selectStatement sql params condition rest))
      post history := by
  intro now hgrows hbounded _ answer later hanswer
  have hrun : (selectStatement sql params condition rest).run now.table = .ok
      { database := now.table
        rows := rest (now.table.select condition)
        rowsAffected := 0 } := rfl
  cases (recordingConnection_query hrun).symm.trans hanswer
  rw [QueueHistory.record_self]
  exact ⟨hbounded, .refl _, hpost now hgrows hbounded⟩

def UpdateSteps (Allowed : QueueHistory → Prop) (history : QueueHistory)
    (condition : TaskTable → TaskRow → Bool) (set : TaskRow → TaskRow) : Prop :=
  ∀ now, Grows history now → Bounded now → Allowed now →
    ∀ row ∈ now.table, condition now.table row →
      KeepsKeys row (set row) ∧ RowStep row (set row)

section Updates

variable {Row : Type} {sql : String} {params : List JsonValue}
  {columns : List (Column Row)} {condition : TaskTable → TaskRow → Bool}
  {set : TaskRow → TaskRow} {returning : TaskRow → List Row}

theorem UpdateSteps.run (hsteps : UpdateSteps Allowed history condition set)
    {now : QueueHistory} (hgrows : Grows history now) (hbounded : Bounded now)
    (hallowed : Allowed now) :
    ∃ result : StatementResult TaskTable Row,
      (updateStatement sql params columns condition set returning).run now.table =
        .ok result ∧
      Bounded (now.record result.database) ∧ Grows now (now.record result.database) := by
  have hrows := hsteps now hgrows hbounded hallowed
  obtain ⟨table, hrun, htable⟩ := updateStatement_run sql params columns condition set
    returning fun row hrow hcondition => (hrows row hrow hcondition).1
  exact ⟨_, hrun, hbounded.update htable fun row hrow hcondition =>
    (hrows row hrow hcondition).2⟩

theorem safe_update_query {post : Except Thrown (List Row) → QueueHistory → Prop}
    (hsteps : UpdateSteps Allowed history condition set)
    (hpost : ∀ outcome later, post outcome later) :
    QueueSafe Allowed
      ((connectionExecutor TaskTable).query
        (updateStatement sql params columns condition set returning))
      post history := by
  intro now hgrows hbounded hallowed answer later hanswer
  obtain ⟨result, hrun, hbounded', hgrows'⟩ := hsteps.run hgrows hbounded hallowed
  cases (recordingConnection_query hrun).symm.trans hanswer
  exact ⟨hbounded', hgrows', hpost _ _⟩

theorem safe_update_await {post : Except Thrown Nat → QueueHistory → Prop}
    (hsteps : UpdateSteps Allowed history condition set)
    (hpost : ∀ outcome later, post outcome later) :
    QueueSafe Allowed
      (Program.await (.execute
        (updateStatement sql params columns condition set returning)))
      post history := by
  intro now hgrows hbounded hallowed answer later hanswer
  obtain ⟨result, hrun, hbounded', hgrows'⟩ := hsteps.run hgrows hbounded hallowed
  cases (recordingConnection_execute hrun).symm.trans hanswer
  exact ⟨hbounded', hgrows', hpost _ _⟩

theorem safe_update_execute {post : Except Thrown Unit → QueueHistory → Prop}
    (hsteps : UpdateSteps Allowed history condition set)
    (hpost : ∀ outcome later, post outcome later) :
    QueueSafe Allowed
      ((connectionExecutor TaskTable).execute
        (updateStatement sql params columns condition set returning))
      post history := by
  refine Program.Safe.bind (safe_update_await hsteps fun outcome later => ?_)
  cases outcome with
  | ok value => exact hpost _ _
  | error error => exact hpost _ _

end Updates

theorem safe_insert {row : TaskRow} {post : Except Thrown Unit → QueueHistory → Prop}
    (hpending : row.state = .pending) (hattempts : row.attemptCount = 0)
    (hmax : 0 < row.maxAttempts) (hpost : ∀ outcome later, post outcome later) :
    QueueSafe Allowed ((connectionExecutor TaskTable).execute (insertStatement row)) post
      history := by
  refine Program.Safe.bind ?_
  intro now hgrows hbounded _ answer later hanswer
  cases hinsert : now.table.insert? row with
  | none =>
      have hrun : (insertStatement row).run now.table =
          .error "UNIQUE constraint failed: core_background_tasks" := by
        simp [insertStatement, Statement.run, hinsert]
      obtain ⟨error, herror⟩ := recordingConnection_execute_error hrun
      cases herror.symm.trans hanswer
      exact ⟨hbounded, .refl _, hpost _ _⟩
  | some table =>
      have hrun : (insertStatement row).run now.table =
          .ok { database := table, rows := [], rowsAffected := 1 } := by
        simp [insertStatement, Statement.run, hinsert]
      have htable : table.rows = now.table.rows ++ [row] :=
        Table.insert?_eq_some_iff.mp hinsert
      cases (recordingConnection_execute hrun).symm.trans hanswer
      refine ⟨hbounded.insert htable hpending hattempts hmax, ?_, hpost _ _⟩
      intro old hold
      refine ⟨old, ?_, rfl, rfl⟩
      change old ∈ table.rows
      rw [htable]
      exact List.mem_append_left _ hold

/-! ## Operations -/

theorem safe_markCompleted (now : ClockReading) (taskId : String) :
    QueueSafe Allowed (markCompleted (connectionExecutor TaskTable) now taskId) anyOutcome
      history := by
  refine safe_update_execute ?_ fun _ _ => trivial
  intro later _ hbounded _ row hrow _
  exact ⟨completed_keepsKeys _ _, .finish rfl rfl rfl rfl (hbounded.rows row hrow)⟩

theorem safe_cancel (now : ClockReading) (taskId reason : String) :
    QueueSafe Allowed (cancel (connectionExecutor TaskTable) now taskId reason) anyOutcome
      history := by
  refine safe_update_execute ?_ fun _ _ => trivial
  intro later _ hbounded _ row hrow _
  exact ⟨cancelled_keepsKeys _ _ _, .finish rfl rfl rfl rfl (hbounded.rows row hrow)⟩

theorem safe_collectClaimed (rows : List TaskRow) (readings : Nat → ClockReading) :
    QueueSafe Allowed (collectClaimed (connectionExecutor TaskTable) readings rows)
      anyOutcome history := by
  induction rows generalizing history readings with
  | nil => trivial
  | cons row rest ih =>
      unfold collectClaimed
      cases rowToRecord row with
      | ok record =>
          refine Program.Safe.bind ((ih _).mono fun outcome state _ => ?_)
          cases outcome <;> trivial
      | error error =>
          simp only
          split_ifs
          · refine Program.Safe.bind (safe_update_execute ?_ fun outcome state => ?_)
            · intro later _ hbounded _ row hrow _
              exact ⟨quarantined_keepsKeys _ _,
                .finish rfl rfl rfl rfl (hbounded.rows row hrow)⟩
            · cases outcome with
              | ok value => exact ih _
              | error error => trivial
          · trivial

theorem safe_claimNextBatch (collation : Collation) (now : ClockReading)
    (readings : Nat → ClockReading) (limit : NumberValue) (taskTypes : List String) :
    QueueSafe Allowed
      (claimNextBatch (connectionExecutor TaskTable) collation now readings limit taskTypes)
      anyOutcome history := by
  unfold claimNextBatch
  cases limit.safeInteger?.filter (0 < ·) with
  | none => trivial
  | some limit =>
      refine Program.Safe.bind (safe_update_query ?_ fun outcome state => ?_)
      · intro later _ hbounded _ row hrow hcondition
        have hpending : row.state = .pending := by
          simpa using (Bool.and_eq_true_iff.mp hcondition).2
        exact ⟨claimed_keepsKeys hpending, .claimed hpending (hbounded.rows row hrow)⟩
      · cases outcome with
        | ok rows => exact safe_collectClaimed _ _
        | error error => trivial

theorem safe_markFailed (now later : ClockReading) (random : ℚ) (taskId : String)
    (error : Thrown) :
    QueueSafe Allowed
      (markFailed (connectionExecutor TaskTable) now later random taskId error)
      anyOutcome history := by
  refine Program.Safe.bind (safe_select fun read _ _ => ?_)
  cases hrows : read.table.select fun row => row.id = taskId with
  | nil => trivial
  | cons row rest =>
      have hmem : row ∈ read.table.select fun row => row.id = taskId := by
        rw [hrows]
        exact List.mem_cons_self
      obtain ⟨hrow, hselected⟩ := Table.mem_select.mp hmem
      have hid : row.id = taskId := of_decide_eq_true hselected
      simp only
      split_ifs
      · trivial
      · split
        · rename_i delayMs hretry hdelay
          refine Program.Safe.bind ?_
          cases scheduleAfter later delayMs with
          | error error => trivial
          | ok nextScheduledAt =>
              refine Program.Safe.bind (safe_update_query ?_ fun outcome state => ?_)
              · intro current hgrows hbounded _ row' hrow' hcondition
                obtain ⟨⟨hid', hrunning⟩, hattempts⟩ :
                    (row'.id = taskId ∧ row'.state = .running) ∧
                      row'.attemptCount = row.attemptCount := by
                  simpa using hcondition
                have hmax : row'.maxAttempts = row.maxAttempts := by
                  obtain ⟨kept, hkept, hkeptId, hkeptMax⟩ := hgrows row hrow
                  have hsame : kept = row' :=
                    eq_of_id_eq hkept hrow' (by rw [hkeptId, hid, hid'])
                  rw [← hsame, hkeptMax]
                have hattempt : row.attemptCount < row.maxAttempts :=
                  TaskRetryCalculator.attempt_lt_of_retryable hretry
                exact ⟨rescheduled_keepsKeys hrunning, .release rfl rfl rfl
                  (by simp [rescheduled]) (hbounded.rows row' hrow') fun _ => by omega⟩
              · cases outcome <;> trivial
        · refine Program.Safe.bind (safe_update_query ?_ fun outcome state => ?_)
          · intro current _ hbounded _ row' hrow' _
            exact ⟨failed_keepsKeys _ _ _,
              .finish rfl rfl rfl rfl (hbounded.rows row' hrow')⟩
          · cases outcome <;> trivial

theorem safe_recoverHangingTasks {now : ClockReading} {timeoutMs : Int}
    (hallowed : ∀ later, Allowed later → ∀ cutoff,
      toIsoString? (now.millis - timeoutMs) = some cutoff →
      ∀ row ∈ later.table, isHanging cutoff row → row.attemptCount < row.maxAttempts) :
    QueueSafe Allowed (recoverHangingTasks now timeoutMs) anyOutcome history := by
  unfold recoverHangingTasks
  cases hcutoff : toIsoString? (now.millis - timeoutMs) with
  | none => trivial
  | some cutoff =>
      refine safe_update_await ?_ fun _ _ => trivial
      intro later _ hbounded hnow row hrow hcondition
      have hrunning : row.state = .running := by
        simpa using (Bool.and_eq_true_iff.mp hcondition).1
      have hattempt := hallowed later hnow cutoff hcutoff row hrow hcondition
      exact ⟨recovered_keepsKeys hrunning, .release rfl rfl rfl (by simp [recovered])
        (hbounded.rows row hrow) fun _ => hattempt⟩

theorem checkedPolicy?_maxAttempts {given : PartialRetryPolicy} {policy : TaskRetryPolicy}
    (hpolicy : checkedPolicy? given = some policy) : 0 < policy.maxAttempts := by
  simp only [checkedPolicy?, Option.bind_eq_bind, Option.bind_eq_some_iff] at hpolicy
  obtain ⟨maxAttempts, -, initialDelayMs, -, multiplier, -, maxDelayMs, -, jitter, -,
    hpolicy⟩ := hpolicy
  split_ifs at hpolicy with hbounds
  cases hpolicy
  exact hbounds.1

theorem safe_findActive {uniqueKey : Option String}
    {post : Except Thrown (Option TaskRow) → QueueHistory → Prop}
    (hpost : ∀ outcome later, post outcome later) :
    QueueSafe Allowed (findActive (connectionExecutor TaskTable) uniqueKey) post
      history := by
  unfold findActive
  cases uniqueKey.filter (· ≠ "") with
  | none => exact hpost _ _
  | some key =>
      refine Program.Safe.bind (safe_select fun now _ _ => ?_)
      exact hpost _ _

theorem safe_insertOrFindWinner {row : TaskRow}
    {post : Except Thrown (Option TaskRow) → QueueHistory → Prop}
    (hpending : row.state = .pending) (hattempts : row.attemptCount = 0)
    (hmax : 0 < row.maxAttempts) (hpost : ∀ outcome later, post outcome later) :
    QueueSafe Allowed (insertOrFindWinner (connectionExecutor TaskTable) row) post
      history := by
  refine Program.Safe.tryCatch (Program.Safe.bind
    (safe_insert hpending hattempts hmax fun outcome state => ?_))
  cases outcome with
  | ok value => exact hpost _ _
  | error error =>
      refine Program.Safe.bind (safe_findActive fun outcome state => ?_)
      match outcome with
      | .error _ => exact hpost _ _
      | .ok (some winner) => exact hpost _ _
      | .ok none => exact hpost _ _

theorem checkDefinition_policy {definition : TaskDefinition} {checked : CheckedDefinition}
    (hchecked : checkDefinition definition = .ok checked) :
    0 < checked.policy.maxAttempts := by
  unfold checkDefinition at hchecked
  simp only at hchecked
  split_ifs at hchecked
  split at hchecked <;> cases hchecked
  exact checkedPolicy?_maxAttempts ‹_›

theorem safe_enqueue (id : String) (now : ClockReading) (definition : TaskDefinition) :
    QueueSafe Allowed (enqueue (connectionExecutor TaskTable) id now definition) anyOutcome
      history := by
  refine Program.Safe.bind ?_
  cases hchecked : checkDefinition definition with
  | error error => trivial
  | ok checked =>
      have hmax := checkDefinition_policy hchecked
      refine Program.Safe.bind (safe_findActive fun outcome state => ?_)
      match outcome with
      | .error error => trivial
      | .ok (some existing) => trivial
      | .ok none =>
          refine Program.Safe.bind (safe_insertOrFindWinner rfl rfl hmax
            fun outcome state => ?_)
          match outcome with
          | .error error => trivial
          | .ok (some winner) => trivial
          | .ok none =>
              refine Program.Safe.bind (safe_select fun read _ _ => ?_)
              cases read.table.select fun row => row.id = id with
              | nil => trivial
              | cons row rest => trivial

theorem safe_listByState (organisationId : String) (state : TaskState)
    (limit : NumberValue) :
    QueueSafe Allowed (listByState organisationId state limit) anyOutcome history := by
  unfold listByState
  cases limit.safeInteger?.filter fun limit => 0 < limit ∧ limit ≤ maxTaskListSize with
  | none => trivial
  | some limit => exact Program.Safe.bind (safe_select fun _ _ _ => trivial)

theorem safe_findById (taskId : String) :
    QueueSafe Allowed (findById taskId) anyOutcome history := by
  refine Program.Safe.bind (safe_select fun read _ _ => ?_)
  cases read.table.select fun row => row.id = taskId with
  | nil => trivial
  | cons row rest =>
      refine Program.Safe.bind ?_
      cases rowToRecord row <;> trivial

end Safety

/-! ## The bound in every run -/

/-- `recoverHangingTasks` only meets abandoned tasks which have an attempt left. -/
def Operation.SparesExhausted : Operation → QueueHistory → Prop
  | .recoverHangingTasks now timeoutMs, history =>
      ∀ cutoff, toIsoString? (now.millis - timeoutMs) = some cutoff →
        ∀ row ∈ history.table, isHanging cutoff row →
          row.attemptCount < row.maxAttempts
  | _, _ => True

theorem QueueSafe.map {Allowed : QueueHistory → Prop} {α β : Type}
    {program : Program (DbCall TaskTable) Thrown α} {history : QueueHistory}
    (hsafe : QueueSafe Allowed program anyOutcome history) (f : α → β) :
    QueueSafe Allowed (program >>= fun value => pure (f value)) anyOutcome history := by
  refine Program.Safe.bind (hsafe.mono fun outcome _ _ => ?_)
  cases outcome <;> trivial

theorem Operation.safe (collation : Collation) (operation : Operation)
    (history : QueueHistory) :
    QueueSafe operation.SparesExhausted (operation.program collation) anyOutcome
      history := by
  cases operation with
  | enqueue id now definition => exact (safe_enqueue id now definition).map _
  | claimNextBatch now readings limit taskTypes =>
      exact (safe_claimNextBatch collation now readings limit taskTypes).map _
  | markCompleted now taskId => exact (safe_markCompleted now taskId).map _
  | markFailed now later random taskId error =>
      exact (safe_markFailed now later random taskId error).map _
  | cancel now taskId reason => exact (safe_cancel now taskId reason).map _
  | recoverHangingTasks now timeoutMs =>
      have hsafe : QueueSafe (Operation.recoverHangingTasks now timeoutMs).SparesExhausted
          (TaskQueueService.recoverHangingTasks now timeoutMs) anyOutcome history :=
        safe_recoverHangingTasks fun _ hlater => hlater
      exact hsafe.map _
  | listByState organisationId state limit =>
      exact (safe_listByState organisationId state limit).map _
  | findById taskId => exact (safe_findById taskId).map _

abbrev QueueReaches (collation : Collation) (Allowed : Operation → QueueHistory → Prop)
    (system : System Operation (DbCall TaskTable) Thrown QueueAnswer QueueHistory) : Prop :=
  System.Reaches recordingConnection.environment (Operation.program collation) Allowed
    QueueHistory.empty system

theorem Bounded.empty : Bounded QueueHistory.empty where
  rows row hrow := by cases hrow
  handed row hrow := by cases hrow
  known id hid := by cases hid

/-- Unless a run recovers a task whose attempts are used up, no task exceeds its
attempts, nor is it handed out more often. -/
theorem attempts_bounded {collation : Collation}
    {system : System Operation (DbCall TaskTable) Thrown QueueAnswer QueueHistory}
    (hreaches : QueueReaches collation Operation.SparesExhausted system) :
    ∀ row ∈ system.state.table, row.attemptCount ≤ row.maxAttempts ∧
      (system.state.handed.count row.id : Int) ≤ row.maxAttempts := by
  have htrans : ∀ first second third, Grows first second → Grows second third →
      Grows first third := fun _ _ _ => Grows.trans
  have hbounded : Bounded system.state :=
    System.Reaches.invariant htrans Grows.refl
      (fun operation history _ => operation.safe collation history) .empty hreaches
  intro row hrow
  have hbound := (hbounded.rows row hrow).bound
  exact ⟨hbound, (hbounded.handed row hrow).trans hbound⟩

/-! ## A task which crashes its worker -/

scoped instance neZero_seconds : NeZero 1000 := ⟨by decide⟩

def readingAfter (seconds : Fin 1000) : ClockReading where
  millis := 1767225600000 + seconds * 1000
  inRange := by
    have hseconds := seconds.isLt
    unfold maxTimeValue
    omega

/-- A task which may be attempted `maxAttempts` times. -/
def taskWithAttempts (maxAttempts : Int) : TaskDefinition where
  taskType := "export"
  payload := .json .null
  retryPolicy := { maxAttempts := some (.finite (.integer maxAttempts)) }
  organisationId := "org"
  correlationId := "c"

def claimAt (seconds : Fin 1000) : Operation :=
  .claimNextBatch (readingAfter seconds) (fun _ => readingAfter seconds)
    (.finite (.integer 1)) []

def crashedOnLastAttempt : List Operation :=
  [.enqueue "t" (readingAfter 0) (taskWithAttempts 1), claimAt 0,
    .recoverHangingTasks (readingAfter 60) 60000, claimAt 60]

def afterCrash : QueueHistory :=
  System.runAll recordingConnection (Operation.program .codePoint) crashedOnLastAttempt
    .empty

theorem afterCrash_exceeds :
    ∃ row ∈ afterCrash.table.rows, row.maxAttempts < row.attemptCount ∧
      row.maxAttempts < afterCrash.handed.count row.id := by
  decide +kernel

theorem afterCrash_reached :
    QueueReaches .codePoint (fun _ _ => True) ⟨afterCrash, []⟩ :=
  System.Reaches.runAll .refl crashedOnLastAttempt fun _ _ _ => trivial

/-- Recovery hands a task out more often than it may be attempted. -/
theorem attempts_exceeded :
    ¬ ∀ system, QueueReaches .codePoint (fun _ _ => True) system →
      ∀ row ∈ system.state.table, row.attemptCount ≤ row.maxAttempts := by
  intro hbound
  obtain ⟨row, hrow, hexceeds, -⟩ := afterCrash_exceeds
  exact absurd (hbound _ afterCrash_reached row hrow) (not_le.mpr hexceeds)

def crashedOnFirstAttempt : QueueHistory :=
  System.runAll recordingConnection (Operation.program .codePoint)
    [.enqueue "t" (readingAfter 0) (taskWithAttempts 2), claimAt 0] .empty

theorem crashedOnFirstAttempt_spared :
    ∀ row ∈ crashedOnFirstAttempt.table.rows, row.attemptCount < row.maxAttempts := by
  decide +kernel

theorem crashedOnFirstAttempt_reached :
    QueueReaches .codePoint Operation.SparesExhausted ⟨crashedOnFirstAttempt, []⟩ :=
  System.Reaches.runAll .refl [_, _] fun operation hoperation _ => by
    rcases List.mem_pair.mp hoperation with rfl | rfl <;> trivial

def afterRecovery : QueueHistory :=
  (((Operation.recoverHangingTasks (readingAfter 60) 60000).program .codePoint).run
    recordingConnection crashedOnFirstAttempt).2

theorem afterRecovery_reached :
    QueueReaches .codePoint Operation.SparesExhausted ⟨afterRecovery, []⟩ := by
  apply crashedOnFirstAttempt_reached.run_operation
  have hspared : (Operation.recoverHangingTasks (readingAfter 60) 60000).SparesExhausted
      crashedOnFirstAttempt :=
    fun _ _ row hrow _ => crashedOnFirstAttempt_spared row hrow
  simp only [Operation.program, Program.along_bind, Program.along_pure, implies_true,
    and_true, recoverHangingTasks]
  split
  · trivial
  · exact (Program.along_await _).mpr hspared

theorem afterRecovery_ids : afterRecovery.table.rows.map TaskRow.id = ["t"] := by
  decide +kernel

theorem afterRecovery_bounded :
    ∃ row ∈ afterRecovery.table, row.id = "t" ∧ row.attemptCount ≤ row.maxAttempts ∧
      (afterRecovery.handed.count row.id : Int) ≤ row.maxAttempts := by
  have hmem : "t" ∈ afterRecovery.table.rows.map TaskRow.id := by
    rw [afterRecovery_ids]
    exact List.mem_singleton_self "t"
  obtain ⟨row, hrow, hid⟩ := List.mem_map.mp hmem
  exact ⟨row, hrow, hid, attempts_bounded afterRecovery_reached row hrow⟩

end TauriPlatform.TaskQueueService
