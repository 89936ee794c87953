import TauriPlatform.TaskQueueCalls

/-!
# What jobs in flight hold

A job holds the attempts it was handed: the row is at the attempt, and does not wait.  Every
statement but the reset of hanging tasks, and the last one of a worker, keeps this.
-/

namespace TauriPlatform
namespace TaskWorker

open Async Relational TaskQueueService

/-! ## What statements spare -/

structure RowSpared (old new : TaskRow) : Prop where
  id : new.id = old.id
  kept : old.state ≠ .pending → new.attemptCount = old.attemptCount ∧ new.state ≠ .pending ∧
    (new.state = .running → old.state = .running)

structure Spared (before after : TaskTable) : Prop where
  rows : ∀ old ∈ before, ∃ new ∈ after, RowSpared old new
  running : ∀ new ∈ after, new.state = .running → ∃ old ∈ before, RowSpared old new

theorem RowSpared.refl (row : TaskRow) : RowSpared row row :=
  ⟨rfl, fun hwaits => ⟨rfl, hwaits, fun hrunning => hrunning⟩⟩

theorem Spared.refl (table : TaskTable) : Spared table table where
  rows row hrow := ⟨row, hrow, .refl row⟩
  running row hrow _ := ⟨row, hrow, .refl row⟩

theorem Spared.update {before after : TaskTable} {condition : TaskRow → Bool}
    {set : TaskRow → TaskRow} (hafter : after.rows = before.rows.map
      (Table.updateRow condition set))
    (hset : ∀ row ∈ before, condition row → RowSpared row (set row)) :
    Spared before after := by
  have hrow : ∀ row ∈ before, RowSpared row (Table.updateRow condition set row) := by
    intro row hmem
    unfold Table.updateRow
    split_ifs with hcondition
    · exact hset row hmem hcondition
    · exact .refl row
  constructor
  · intro old hold
    refine ⟨Table.updateRow condition set old, ?_, hrow old hold⟩
    rw [Table.mem_def, hafter]
    exact List.mem_map_of_mem hold
  · intro new hnew _
    rw [Table.mem_def, hafter] at hnew
    obtain ⟨old, hold, rfl⟩ := List.mem_map.mp hnew
    exact ⟨old, hold, hrow old hold⟩

theorem Spared.insert {before after : TaskTable} {row : TaskRow}
    (hafter : after.rows = before.rows ++ [row]) (hpending : row.state = .pending) :
    Spared before after := by
  constructor
  · intro old hold
    refine ⟨old, ?_, .refl old⟩
    rw [Table.mem_def, hafter]
    exact List.mem_append_left _ hold
  · intro new hnew hrunning
    rw [Table.mem_def, hafter] at hnew
    cases List.mem_append.mp hnew with
    | inl hold => exact ⟨new, hold, .refl new⟩
    | inr hlast =>
        rw [List.mem_singleton.mp hlast, hpending] at hrunning
        cases hrunning

def StatementSpares {Row : Type} (statement : Statement TaskTable Row) : Prop :=
  ∀ table result, statement.run table = .ok result → Spared table result.database

def SparingCall : ∀ ⦃β : Type⦄, DbCall TaskTable β → Prop :=
  fun _ request => ∀ table, Spared table (memoryConnection request table).2

section Statements

variable {Row : Type} {statement : Statement TaskTable Row}

theorem StatementSpares.query (hspares : StatementSpares statement) :
    SparingCall (.query statement) := by
  intro table
  exact memory_query_relates (.refl table) (hspares table)

theorem StatementSpares.execute (hspares : StatementSpares statement) :
    SparingCall (.execute statement) := by
  intro table
  exact memory_execute_relates (.refl table) (hspares table)

variable {params : List JsonValue}

theorem spares_select {sql : String} {condition : TaskRow → Bool}
    {rest : List TaskRow → List TaskRow} :
    StatementSpares (selectStatement sql params condition rest) := by
  intro table result hrun
  cases hrun
  exact .refl table

theorem update_run_eq_ok {sql : String} {columns : List (Column Row)}
    {condition : TaskTable → TaskRow → Bool} {set : TaskRow → TaskRow}
    {returning : TaskRow → List Row} {table : TaskTable} {result : StatementResult TaskTable Row}
    (hrun : (updateStatement sql params columns condition set returning).run table =
      .ok result) :
    result.database.rows = table.rows.map (Table.updateRow (condition table) set) ∧
      result.rows = ((table.select (condition table)).map set).flatMap returning := by
  simp only [updateStatement, Statement.run] at hrun
  cases hupdate : table.update? (condition table) set with
  | none =>
      rw [hupdate] at hrun
      cases hrun
  | some later =>
      rw [hupdate] at hrun
      cases hrun
      exact ⟨Table.update?_eq_some_iff.mp hupdate, rfl⟩

theorem spares_update {sql : String} {columns : List (Column Row)}
    {condition : TaskTable → TaskRow → Bool} {set : TaskRow → TaskRow}
    {returning : TaskRow → List Row}
    (hset : ∀ table row, condition table row → RowSpared row (set row)) :
    StatementSpares (updateStatement sql params columns condition set returning) := by
  intro table result hrun
  exact .update (update_run_eq_ok hrun).1 fun row _ => hset table row

theorem spares_insert {row : TaskRow} (hpending : row.state = .pending) :
    StatementSpares (insertStatement row) := by
  intro table result hrun
  simp only [insertStatement, Statement.run] at hrun
  cases hinsert : table.insert? row with
  | none =>
      rw [hinsert] at hrun
      cases hrun
  | some later =>
      rw [hinsert] at hrun
      cases hrun
      exact .insert (Table.insert?_eq_some_iff.mp hinsert) hpending

end Statements

theorem spares_claim (now : String) (taskTypes : List String) (limit : Int) :
    StatementSpares (claimStatement now taskTypes limit) := by
  apply spares_update
  intro table row hcondition
  have hpending : row.state = .pending := by
    simpa using (Bool.and_eq_true_iff.mp hcondition).2
  exact ⟨rfl, fun hwaits => absurd hpending hwaits⟩

theorem spares_quarantine (now id : String) : StatementSpares (quarantineStatement now id) := by
  apply spares_update
  intro table row _
  exact ⟨rfl, fun _ => ⟨rfl, by simp [quarantined], by simp [quarantined]⟩⟩

theorem spares_cancel (reason now id : String) :
    StatementSpares (cancelStatement reason now id) := by
  apply spares_update
  intro table row _
  exact ⟨rfl, fun _ => ⟨rfl, by simp [cancelled], by simp [cancelled]⟩⟩

/-! ## Operations which spare -/

theorem spares_queueing : OfQueueing SparingCall where
  select _ _ _ _ := spares_select.query
  insert _ hpending := (spares_insert hpending).execute
  claim now taskTypes limit := (spares_claim now taskTypes limit).query
  quarantine now id := (spares_quarantine now id).execute

/-! ## What is held -/

def HeldAt (table : TaskTable) (held : String × Int) : Prop :=
  ∃ row ∈ table, attemptOf row = held ∧ row.state ≠ .pending

variable {table later : TaskTable} {held : String × Int}

theorem Spared.heldAt (hspared : Spared table later) (hheld : HeldAt table held) :
    HeldAt later held := by
  obtain ⟨row, hrow, rfl, hwaits⟩ := hheld
  obtain ⟨new, hnew, hrow'⟩ := hspared.rows row hrow
  obtain ⟨hattempt, hwaits', -⟩ := hrow'.kept hwaits
  exact ⟨new, hnew, Prod.ext hrow'.id hattempt, hwaits'⟩

theorem mem_handedOut :
    held ∈ handedOut table later ↔
      ∃ row ∈ later, attemptOf row = held ∧ row.state = .running ∧
        ∀ old ∈ table, old.id = row.id → old.state ≠ .running := by
  simp only [handedOut, List.mem_map, List.mem_filter, Bool.and_eq_true, decide_eq_true_eq,
    Bool.not_eq_true', List.any_eq_false, not_and]
  constructor
  · rintro ⟨row, ⟨hrow, hrunning, hold⟩, rfl⟩
    exact ⟨row, hrow, rfl, hrunning, hold⟩
  · rintro ⟨row, hrow, rfl, hrunning, hold⟩
    exact ⟨row, ⟨hrow, hrunning, hold⟩, rfl⟩

theorem heldAt_of_handedOut (hhanded : held ∈ handedOut table later) : HeldAt later held := by
  obtain ⟨row, hrow, hattempt, hrunning, -⟩ := mem_handedOut.mp hhanded
  exact ⟨row, hrow, hattempt, by simp [hrunning]⟩

theorem handedOut_nodup (table later : TaskTable) :
    ((handedOut table later).map Prod.fst).Nodup := by
  have hids : (later.rows.map TaskRow.id).Nodup := by
    have hunique := later.unique (fun row => some row.id) (by simp [taskIndexes])
    rwa [List.filterMap_eq_map'] at hunique
  unfold handedOut
  rw [List.map_map]
  exact hids.sublist (List.filter_sublist.map _)

theorem Spared.fresh (hspared : Spared table later) {new : String × Int}
    (hnew : new ∈ handedOut table later) (hheld : HeldAt table held) : new.1 ≠ held.1 := by
  obtain ⟨row, hrow, rfl, hrunning, hidle⟩ := mem_handedOut.mp hnew
  obtain ⟨old, hold, hstep⟩ := hspared.running row hrow hrunning
  obtain ⟨other, hother, rfl, hwaits⟩ := hheld
  intro hid
  have hsame : other = old := eq_of_id_eq hother hold (hid.symm.trans hstep.id)
  subst hsame
  have hran := (hstep.kept hwaits).2.2 hrunning
  exact hidle other hold hstep.id.symm hran

theorem handedOut_eq_nil (hrunning : ∀ new ∈ later, new.state = .running → new ∈ table) :
    handedOut table later = [] := by
  rw [List.eq_nil_iff_forall_not_mem]
  intro held hheld
  obtain ⟨row, hrow, -, hstate, hidle⟩ := mem_handedOut.mp hheld
  exact hidle row (hrunning row hrow hstate) rfl hstate

/-! ## A worker which finishes its task -/

structure TouchesOnly (id : String) (table later : TaskTable) : Prop where
  others : ∀ row ∈ table, row.id ≠ id → row ∈ later
  running : ∀ row ∈ later, row.state = .running → row ∈ table

/-- While the task is held at the attempt, the worker touches only its row, and as long as
it has not settled it leaves the task held. -/
def Finishing (held : String × Int) : Program (DbCall TaskTable) Thrown QueueAnswer → Prop
  | .done _ => True
  | .call request rest =>
      ∀ table, HeldAt table held →
        TouchesOnly held.1 table (memoryConnection request table).2 ∧
          Finishing held (rest (memoryConnection request table).1) ∧
          (HeldAt (memoryConnection request table).2 held ∨
            ∃ outcome, rest (memoryConnection request table).1 = .done outcome)

theorem TouchesOnly.refl (id : String) (table : TaskTable) : TouchesOnly id table table :=
  ⟨fun _ hrow _ => hrow, fun _ hrow _ => hrow⟩

theorem TouchesOnly.update {condition : TaskRow → Bool} {set : TaskRow → TaskRow}
    {id : String} (hlater : later.rows = table.rows.map (Table.updateRow condition set))
    (hcondition : ∀ row, condition row → row.id = id)
    (hset : ∀ row, (set row).state ≠ .running) : TouchesOnly id table later := by
  constructor
  · intro row hrow hid
    rw [Table.mem_def, hlater]
    refine List.mem_map.mpr ⟨row, hrow, ?_⟩
    unfold Table.updateRow
    rw [if_neg fun hmet => hid (hcondition row hmet)]
  · intro row hrow hrunning
    rw [Table.mem_def, hlater] at hrow
    obtain ⟨old, hold, rfl⟩ := List.mem_map.mp hrow
    unfold Table.updateRow at hrunning ⊢
    split_ifs at hrunning ⊢ with hmet
    · exact absurd hrunning (hset old)
    · exact hold

def TouchingCall (id : String) {β : Type} (request : DbCall TaskTable β) : Prop :=
  ∀ table, TouchesOnly id table (memoryConnection request table).2

section Touching

variable {Row : Type} {statement : Statement TaskTable Row} {id : String}

def StatementTouches (id : String) (statement : Statement TaskTable Row) : Prop :=
  ∀ table result, statement.run table = .ok result → TouchesOnly id table result.database

theorem StatementTouches.query (htouches : StatementTouches id statement) :
    TouchingCall id (.query statement) := by
  intro table
  cases hrun : statement.run table with
  | ok result =>
      simp only [memoryConnection, hrun]
      exact htouches table result hrun
  | error message =>
      simp only [memoryConnection, hrun]
      exact .refl id table

theorem StatementTouches.execute (htouches : StatementTouches id statement) :
    TouchingCall id (.execute statement) := by
  intro table
  cases hrun : statement.run table with
  | ok result =>
      simp only [memoryConnection, hrun]
      exact htouches table result hrun
  | error message =>
      simp only [memoryConnection, hrun]
      exact .refl id table

theorem touches_update {sql : String} {params : List JsonValue}
    {columns : List (Column Row)} {condition : TaskTable → TaskRow → Bool}
    {set : TaskRow → TaskRow} {returning : TaskRow → List Row}
    (hcondition : ∀ table row, condition table row → row.id = id)
    (hset : ∀ row, (set row).state ≠ .running) :
    StatementTouches id (updateStatement sql params columns condition set returning) := by
  intro table result hrun
  exact .update (update_run_eq_ok hrun).1 (hcondition table) hset

end Touching

theorem touches_selectById (id taskId : String) : StatementTouches id (selectById taskId) := by
  intro table result hrun
  cases hrun
  exact .refl id table

theorem touches_complete (now id : String) : StatementTouches id (completeStatement now id) := by
  apply touches_update
  · intro table row hcondition
    simp only [Bool.and_eq_true, decide_eq_true_eq] at hcondition
    exact hcondition.1
  · simp [completed]

theorem touches_cancel (reason now id : String) :
    StatementTouches id (cancelStatement reason now id) := by
  apply touches_update
  · intro table row hcondition
    simp only [Bool.and_eq_true, decide_eq_true_eq] at hcondition
    exact hcondition.1
  · simp [cancelled]

theorem touches_reschedule (nextScheduledAt errorMessage now id : String) (attempt : Int) :
    StatementTouches id
      (rescheduleStatement nextScheduledAt errorMessage now id attempt) := by
  apply touches_update
  · intro table row hcondition
    simp only [Bool.and_eq_true, decide_eq_true_eq] at hcondition
    exact hcondition.1.1
  · simp [rescheduled]

theorem touches_fail (errorMessage now id : String) (attempt : Int) :
    StatementTouches id (failStatement errorMessage now id attempt) := by
  apply touches_update
  · intro table row hcondition
    simp only [Bool.and_eq_true, decide_eq_true_eq] at hcondition
    exact hcondition.1.1
  · simp [failed]

theorem spares_complete (now id : String) : StatementSpares (completeStatement now id) := by
  apply spares_update
  intro table row _
  exact ⟨rfl, fun _ => ⟨rfl, by simp [completed], by simp [completed]⟩⟩

theorem spares_selectById (id : String) : StatementSpares (selectById id) :=
  spares_select

section Finish

variable {β : Type} {request : DbCall TaskTable β}
  {rest : Except Thrown β → Program (DbCall TaskTable) Thrown QueueAnswer}

theorem finishing_call (htouches : TouchingCall held.1 request) (hspares : SparingCall request)
    (hrest : ∀ answer, Finishing held (rest answer)) :
    Finishing held (.call request rest) := by
  intro table hheld
  exact ⟨htouches table, hrest _, Or.inl ((hspares table).heldAt hheld)⟩

theorem finishing_last (htouches : TouchingCall held.1 request)
    (hdone : ∀ answer, ∃ outcome, rest answer = .done outcome) :
    Finishing held (.call request rest) := by
  intro table _
  obtain ⟨outcome, houtcome⟩ := hdone (memoryConnection request table).1
  refine ⟨htouches table, ?_, Or.inr ⟨outcome, houtcome⟩⟩
  rw [houtcome]
  trivial

end Finish

/-- `markFailed`, with what the worker goes on to. -/
theorem finishing_markFailed (now rescheduledFrom : ClockReading) (random : ℚ)
    (error : Thrown) :
    Finishing held (do
      let _willRetry ← markFailed (connectionExecutor TaskTable) now rescheduledFrom random
        held.1 error
      pure .finished) := by
  refine finishing_call (touches_selectById held.1 held.1).query
    (spares_selectById held.1).query ?_
  intro answer
  match answer with
  | .error thrown => trivial
  | .ok [] => trivial
  | .ok (row :: rows) =>
      simp only [bind, Program.bind]
      split_ifs
      · trivial
      · split
        · rename_i delayMs _ _
          cases scheduleAfter rescheduledFrom delayMs with
          | error thrown => trivial
          | ok nextScheduledAt =>
              refine finishing_last
                (touches_reschedule nextScheduledAt error.message now.iso held.1
                  row.attemptCount).query ?_
              intro answer
              cases answer with
              | ok updated => exact ⟨_, rfl⟩
              | error thrown => exact ⟨_, rfl⟩
        · refine finishing_last
            (touches_fail error.message now.iso held.1 row.attemptCount).query ?_
          intro answer
          cases answer with
          | ok updated => exact ⟨_, rfl⟩
          | error thrown => exact ⟨_, rfl⟩

theorem finishing_worker (collation : Collation) (task : TaskRecord) (run : HandlerRun) :
    Finishing (attemptOf task.row) ((Job.worker task run).program collation) := by
  let retry (error : Thrown) : Program (DbCall TaskTable) Thrown Unit := do
    let _willRetry ← markFailed (connectionExecutor TaskTable) run.failedAt
      run.rescheduledFrom run.random task.row.id error
    pure ()
  have hfailed : ∀ error, Finishing (attemptOf task.row)
      (retry error >>= fun _ => pure QueueAnswer.finished) := by
    intro error
    simp only [retry, bind_assoc, pure_bind]
    exact finishing_markFailed run.failedAt run.rescheduledFrom run.random error
  change Finishing _ (executeTask task run >>= fun _ => pure QueueAnswer.finished)
  unfold executeTask
  split_ifs
  · cases houtcome : run.outcome with
    | error error => exact hfailed error
    | ok value =>
        exact hfailed (.builtin "Error" s!"Task timed out after {task.row.timeoutMs}ms")
  · cases houtcome : run.outcome with
    | error error => exact hfailed error
    | ok value =>
        refine finishing_call (touches_complete run.completedAt.iso task.row.id).execute
          (spares_complete run.completedAt.iso task.row.id).execute ?_
        intro answer
        cases answer with
        | ok count => trivial
        | error error => exact hfailed error
  · refine finishing_last
      (touches_cancel _ run.cancelledAt.iso task.row.id).execute ?_
    intro answer
    cases answer with
    | ok count => exact ⟨_, rfl⟩
    | error error => exact ⟨_, rfl⟩

/-! ## What is in flight -/

def Dispatchable (handed : List (String × Int)) (outcome : Except Thrown QueueAnswer) : Prop :=
  ∀ records, outcome = .ok (.records records) →
    (∀ record ∈ records, attemptOf record.row ∈ handed) ∧
      (records.map fun record => record.row.id).Nodup

def Actor.Sound (collation : Collation) (actor : Actor) : Prop :=
  match actor.job with
  | .operation (.claimNextBatch now readings limit taskTypes) =>
      (actor.handed = [] ∧ actor.program =
        (Operation.claimNextBatch now readings limit taskTypes).program collation) ∨
      actor.program.Every SparingCall (Dispatchable actor.handed)
  | .operation (.recoverHangingTasks now timeoutMs) =>
      actor.handed = [] ∧
        (actor.program = (Operation.recoverHangingTasks now timeoutMs).program collation ∨
          ∃ outcome, actor.program = .done outcome)
  | .operation _ => actor.program.Every SparingCall fun _ => True
  | .worker task _ =>
      actor.handed = [attemptOf task.row] ∧ Finishing (attemptOf task.row) actor.program

theorem sound_start (collation : Collation) {operation : Operation}
    (hoperation : ¬ IsFinish operation) :
    Actor.Sound collation ⟨.operation operation, [], operation.program collation⟩ := by
  cases operation with
  | enqueue id now definition =>
      exact (spares_queueing.enqueue id now definition).bind fun _ => Program.makes_done _
  | claimNextBatch now readings limit taskTypes => exact Or.inl ⟨rfl, rfl⟩
  | markCompleted now taskId => exact absurd trivial hoperation
  | markFailed now later random taskId error => exact absurd trivial hoperation
  | cancel now taskId reason =>
      exact (makes_execute (spares_cancel _ _ _).execute).bind fun _ => Program.makes_done _
  | recoverHangingTasks now timeoutMs => exact ⟨rfl, Or.inl rfl⟩
  | listByState organisationId state limit =>
      exact (spares_queueing.listByState organisationId state limit).bind
        fun _ => Program.makes_done _
  | findById taskId =>
      exact (spares_queueing.findById taskId).bind fun _ => Program.makes_done _

theorem claim_dispatchable {now : String} {taskTypes : List String} {limit : Int}
    {table : TaskTable} {result : StatementResult TaskTable TaskRow}
    (hrun : (claimStatement now taskTypes limit).run table = .ok result) :
    ∀ row ∈ result.rows, attemptOf row ∈ handedOut table result.database := by
  obtain ⟨hdatabase, hrows⟩ := update_run_eq_ok hrun
  intro row hrow
  rw [hrows, List.mem_flatMap] at hrow
  obtain ⟨updated, hupdated, hrow⟩ := hrow
  cases List.mem_singleton.mp hrow
  obtain ⟨old, hold, rfl⟩ := List.mem_map.mp hupdated
  obtain ⟨hmem, hcondition⟩ := Table.mem_select.mp hold
  have hpending : old.state = .pending := by
    simpa using (Bool.and_eq_true_iff.mp hcondition).2
  apply mem_handedOut.mpr
  refine ⟨claimed now old, ?_, rfl, rfl, ?_⟩
  · rw [Table.mem_def, hdatabase]
    refine List.mem_map.mpr ⟨old, hmem, ?_⟩
    unfold Table.updateRow
    rw [if_pos hcondition]
  · intro other hother hid hrunning
    have hsame : other = old := eq_of_id_eq hother hmem hid
    rw [hsame, hpending] at hrunning
    cases hrunning

theorem claim_rows_nodup {now : String} {taskTypes : List String} {limit : Int}
    {table : TaskTable} {result : StatementResult TaskTable TaskRow}
    (hrun : (claimStatement now taskTypes limit).run table = .ok result) :
    (result.rows.map TaskRow.id).Nodup := by
  obtain ⟨-, hrows⟩ := update_run_eq_ok hrun
  have hids : (table.rows.map TaskRow.id).Nodup := by
    have hunique := table.unique (fun row => some row.id) (by simp [taskIndexes])
    rwa [List.filterMap_eq_map'] at hunique
  rw [hrows, List.flatMap_singleton', List.map_map]
  exact hids.sublist (List.filter_sublist.map _)

section Claim

variable {collation : Collation} {now : ClockReading} {readings : Nat → ClockReading}
  {limit : NumberValue} {taskTypes : List String} {β : Type} {request : DbCall TaskTable β}
  {rest : Except Thrown β → Program (DbCall TaskTable) Thrown QueueAnswer}
  {answer : Except Thrown β} {Good : ∀ ⦃β : Type⦄, DbCall TaskTable β → Prop}

theorem claim_answered
    (hquarantine : ∀ now id : String, Good (.execute (quarantineStatement now id)))
    (hprogram : (Operation.claimNextBatch now readings limit taskTypes).program collation =
      .call request rest)
    (hanswer : memoryConnection request table = (answer, later)) :
    (rest answer).Every Good (Dispatchable (handedOut table later)) := by
  unfold Operation.program claimNextBatch at hprogram
  cases hlimit : limit.safeInteger?.filter (0 < ·) with
  | none =>
      simp only [hlimit] at hprogram
      cases hprogram
  | some limit =>
      simp only [hlimit] at hprogram
      cases hprogram
      cases hrun : (claimStatement now.iso taskTypes limit).run table with
      | error message =>
          simp only [memoryConnection, hrun] at hanswer
          cases hanswer
          intro records hrecords
          cases hrecords
      | ok result =>
          simp only [memoryConnection, hrun] at hanswer
          cases hanswer
          have hperm := List.perm_insertionSort (fun left right : TaskRow =>
            collation.localeCompare left.scheduledAt right.scheduledAt ≤ 0) result.rows
          apply Program.Every.bind
          apply (OfOpenStatements.every_collectClaimed hquarantine readings _).mono
          intro outcome hcollected
          cases outcome with
          | error error =>
              intro records hrecords
              cases hrecords
          | ok collected =>
              intro records hrecords
              cases hrecords
              have hrows := (hcollected collected rfl).1
              constructor
              · intro record hrecord
                apply claim_dispatchable hrun
                apply hperm.mem_iff.mp
                exact hrows.subset (List.mem_map_of_mem hrecord)
              · have hnodup := (hperm.map TaskRow.id).nodup_iff.mpr (claim_rows_nodup hrun)
                have hids := hnodup.sublist (hrows.map TaskRow.id)
                rwa [List.map_map] at hids

theorem claim_calls (hgood : OfQueueing Good)
    (hprogram : (Operation.claimNextBatch now readings limit taskTypes).program collation =
      .call request rest) : Good request := by
  unfold Operation.program claimNextBatch at hprogram
  cases hlimit : limit.safeInteger?.filter (0 < ·) with
  | none =>
      simp only [hlimit] at hprogram
      cases hprogram
  | some limit =>
      simp only [hlimit] at hprogram
      cases hprogram
      exact hgood.claim now.iso taskTypes limit

theorem claim_refused
    (hprogram : (Operation.claimNextBatch now readings limit taskTypes).program collation =
      .call request rest) (error : Thrown) :
    (rest (.error error)).Every Good (Dispatchable []) := by
  unfold Operation.program claimNextBatch at hprogram
  cases hlimit : limit.safeInteger?.filter (0 < ·) with
  | none =>
      simp only [hlimit] at hprogram
      cases hprogram
  | some limit =>
      simp only [hlimit] at hprogram
      cases hprogram
      intro records hrecords
      cases hrecords

theorem sound_claim
    (hprogram : (Operation.claimNextBatch now readings limit taskTypes).program collation =
      .call request rest)
    (hanswer : memoryConnection request table = (answer, later)) :
    Spared table later ∧
      (rest answer).Every SparingCall (Dispatchable (handedOut table later)) := by
  have hspared := claim_calls spares_queueing hprogram table
  rw [hanswer] at hspared
  exact ⟨hspared, claim_answered spares_queueing.quarantine hprogram hanswer⟩

end Claim

end TaskWorker
end TauriPlatform
