import TauriPlatform.AsyncSystem
import TauriPlatform.TaskQueueService

/-!
# Runs of the task queue

Any number of queue operations are in flight on one table, each advancing one
statement at a time, and any of them may be cut short by a crash.  The history
keeps, beside the table, the ids of the tasks in the order in which they were
handed out, that is, in which their rows became RUNNING.
-/

namespace TauriPlatform.TaskQueueService

open Async Relational

/-! ## Operations -/

/-- A call of the service on its connection, with the readings it makes. -/
inductive Operation where
  | enqueue (id : String) (now : ClockReading) (definition : TaskDefinition)
  | claimNextBatch (now : ClockReading) (readings : Nat → ClockReading)
      (limit : NumberValue) (taskTypes : List String)
  | markCompleted (now : ClockReading) (taskId : String)
  | markFailed (now later : ClockReading) (random : ℚ) (taskId : String) (error : Thrown)
  | cancel (now : ClockReading) (taskId reason : String)
  | recoverHangingTasks (now : ClockReading) (timeoutMs : Int)
  | listByState (organisationId : String) (state : TaskState) (limit : NumberValue)
  | findById (taskId : String)

inductive QueueAnswer where
  | enqueued (record : TaskRecord)
  | records (records : List TaskRecord)
  | finished
  | willRetry (retry : Bool)
  | recovered (count : Nat)
  | found (record : Option TaskRecord)

def Operation.program (collation : Collation) :
    Operation → Program (DbCall TaskTable) Thrown QueueAnswer
  | .enqueue id now definition => do
      let record ← TaskQueueService.enqueue (connectionExecutor TaskTable) id now definition
      pure (.enqueued record)
  | .claimNextBatch now readings limit taskTypes => do
      let records ← TaskQueueService.claimNextBatch (connectionExecutor TaskTable) collation
        now readings limit taskTypes
      pure (.records records)
  | .markCompleted now taskId => do
      TaskQueueService.markCompleted (connectionExecutor TaskTable) now taskId
      pure .finished
  | .markFailed now later random taskId error => do
      let retry ← TaskQueueService.markFailed (connectionExecutor TaskTable) now later random
        taskId error
      pure (.willRetry retry)
  | .cancel now taskId reason => do
      TaskQueueService.cancel (connectionExecutor TaskTable) now taskId reason
      pure .finished
  | .recoverHangingTasks now timeoutMs => do
      let count ← TaskQueueService.recoverHangingTasks now timeoutMs
      pure (.recovered count)
  | .listByState organisationId state limit => do
      let records ← TaskQueueService.listByState organisationId state limit
      pure (.records records)
  | .findById taskId => do
      let record ← TaskQueueService.findById taskId
      pure (.found record)

/-! ## Histories -/

structure QueueHistory where
  table : TaskTable
  handed : List String

def QueueHistory.empty : QueueHistory where
  table := Table.empty
  handed := []

def newlyRunning (before after : TaskTable) : List String :=
  (after.rows.filter fun row =>
    row.state = .running &&
      !before.rows.any fun old => old.id = row.id && old.state = .running).map TaskRow.id

def QueueHistory.record (history : QueueHistory) (later : TaskTable) : QueueHistory where
  table := later
  handed := history.handed ++ newlyRunning history.table later

def recordingConnection : Program.Handler (DbCall TaskTable) Thrown QueueHistory :=
  fun _ call history =>
    let (answer, later) := memoryConnection call history.table
    (answer, history.record later)

theorem mem_newlyRunning {before after : TaskTable} {id : String} :
    id ∈ newlyRunning before after ↔
      ∃ row ∈ after, row.id = id ∧ row.state = .running ∧
        ∀ old ∈ before, old.id = id → old.state ≠ .running := by
  simp only [newlyRunning, List.mem_map, List.mem_filter, Bool.and_eq_true,
    decide_eq_true_eq, Bool.not_eq_true', List.any_eq_false, not_and]
  constructor
  · rintro ⟨row, ⟨hrow, hrunning, hold⟩, rfl⟩
    exact ⟨row, hrow, rfl, hrunning, hold⟩
  · rintro ⟨row, hrow, rfl, hrunning, hold⟩
    exact ⟨row, ⟨hrow, hrunning, hold⟩, rfl⟩

@[simp] theorem newlyRunning_self (table : TaskTable) : newlyRunning table table = [] := by
  rw [List.eq_nil_iff_forall_not_mem]
  intro id hid
  obtain ⟨row, hrow, rfl, hrunning, hold⟩ := mem_newlyRunning.mp hid
  exact hold row hrow rfl hrunning

theorem newlyRunning_nodup (before after : TaskTable) :
    (newlyRunning before after).Nodup := by
  have hids : (after.rows.map TaskRow.id).Nodup := by
    have hunique := after.unique (fun row => some row.id) (by simp [taskIndexes])
    rwa [List.filterMap_eq_map'] at hunique
  exact hids.sublist (List.filter_sublist.map _)

theorem eq_of_id_eq {table : TaskTable} {left right : TaskRow} (hleft : left ∈ table)
    (hright : right ∈ table) (hid : left.id = right.id) : left = right :=
  Table.eq_of_key_eq (fun row : TaskRow => some row.id) (by simp [taskIndexes]) hleft
    hright (congrArg some hid) rfl

@[simp] theorem QueueHistory.record_self (history : QueueHistory) :
    history.record history.table = history := by
  simp [QueueHistory.record]

section Recording

variable {Row : Type} {statement : Statement TaskTable Row} {history : QueueHistory}
  {result : StatementResult TaskTable Row}

theorem recordingConnection_query (hrun : statement.run history.table = .ok result) :
    recordingConnection (.query statement) history =
      (.ok result.rows, history.record result.database) := by
  simp [recordingConnection, memoryConnection, hrun]

theorem recordingConnection_execute (hrun : statement.run history.table = .ok result) :
    recordingConnection (.execute statement) history =
      (.ok result.rowsAffected, history.record result.database) := by
  simp [recordingConnection, memoryConnection, hrun]

theorem recordingConnection_execute_error {message : String}
    (hrun : statement.run history.table = .error message) :
    ∃ error, recordingConnection (.execute statement) history = (.error error, history) := by
  simp [recordingConnection, memoryConnection, hrun]

end Recording

/-! ## The bound on attempts -/

/-- What holds of a row at every moment: it has not exceeded its attempts, and has
one left when it waits for a worker. -/
structure WithinAttempts (row : TaskRow) : Prop where
  bound : row.attemptCount ≤ row.maxAttempts
  waiting : row.state = .pending → row.attemptCount < row.maxAttempts

/-- The invariant of a history.  A task is handed out at most once an attempt. -/
structure Bounded (history : QueueHistory) : Prop where
  rows : ∀ row ∈ history.table, WithinAttempts row
  handed : ∀ row ∈ history.table,
    (history.handed.count row.id : Int) ≤ row.attemptCount
  known : ∀ id ∈ history.handed, ∃ row ∈ history.table, row.id = id

/-- How one statement may change a row: a row which becomes RUNNING has been given
a further attempt. -/
structure RowStep (old new : TaskRow) : Prop where
  id : new.id = old.id
  maxAttempts : new.maxAttempts = old.maxAttempts
  attempts : old.attemptCount ≤ new.attemptCount
  within : WithinAttempts new
  handed : new.state = .running → old.state = .running ∨
    old.attemptCount + 1 ≤ new.attemptCount

def Grows (earlier later : QueueHistory) : Prop :=
  ∀ row ∈ earlier.table, ∃ row' ∈ later.table,
    row'.id = row.id ∧ row'.maxAttempts = row.maxAttempts

theorem Grows.refl (history : QueueHistory) : Grows history history :=
  fun row hrow => ⟨row, hrow, rfl, rfl⟩

theorem Grows.trans {first second third : QueueHistory} (hfirst : Grows first second)
    (hsecond : Grows second third) : Grows first third := by
  intro row hrow
  obtain ⟨row', hrow', hid, hmax⟩ := hfirst row hrow
  obtain ⟨row'', hrow'', hid', hmax'⟩ := hsecond row' hrow'
  exact ⟨row'', hrow'', hid'.trans hid, hmax'.trans hmax⟩

variable {history : QueueHistory} {later : TaskTable}

theorem count_handed_le (hbounded : Bounded history) {old new : TaskRow}
    (hold : old ∈ history.table) (hnew : new ∈ later) (hstep : RowStep old new) :
    ((history.handed ++ newlyRunning history.table later).count new.id : Int) ≤
      new.attemptCount := by
  have hbefore := hbounded.handed old hold
  rw [List.count_append, hstep.id]
  by_cases hmem : old.id ∈ newlyRunning history.table later
  · have hcount : (newlyRunning history.table later).count old.id = 1 :=
      List.count_eq_one_of_mem (newlyRunning_nodup _ _) hmem
    obtain ⟨row, hrow, hid, hrunning, hidle⟩ := mem_newlyRunning.mp hmem
    have hsame : row = new := eq_of_id_eq hrow hnew (hid.trans hstep.id.symm)
    subst hsame
    rcases hstep.handed hrunning with hran | hattempt
    · exact absurd hran (hidle old hold rfl)
    · rw [hcount]
      push_cast
      omega
  · have hcount : (newlyRunning history.table later).count old.id = 0 :=
      List.count_eq_zero_of_not_mem hmem
    have hattempts := hstep.attempts
    rw [hcount]
    push_cast
    omega

theorem Bounded.of_rowSteps (hbounded : Bounded history)
    (hrows : ∀ new ∈ later, ∃ old ∈ history.table, RowStep old new)
    (hkept : ∀ old ∈ history.table, ∃ new ∈ later, RowStep old new) :
    Bounded (history.record later) where
  rows new hnew := by
    obtain ⟨old, _, hstep⟩ := hrows new hnew
    exact hstep.within
  handed new hnew := by
    obtain ⟨old, hold, hstep⟩ := hrows new hnew
    exact count_handed_le hbounded hold hnew hstep
  known id hid := by
    rcases List.mem_append.mp hid with hbefore | hnow
    · obtain ⟨old, hold, rfl⟩ := hbounded.known id hbefore
      obtain ⟨new, hnew, hstep⟩ := hkept old hold
      exact ⟨new, hnew, hstep.id⟩
    · obtain ⟨row, hrow, hid, -⟩ := mem_newlyRunning.mp hnow
      exact ⟨row, hrow, hid⟩

theorem RowStep.refl {row : TaskRow} (hwithin : WithinAttempts row) : RowStep row row :=
  ⟨rfl, rfl, le_rfl, hwithin, .inl⟩

theorem RowStep.release {old new : TaskRow} (hid : new.id = old.id)
    (hmax : new.maxAttempts = old.maxAttempts)
    (hattempts : new.attemptCount = old.attemptCount) (hidle : new.state ≠ .running)
    (hwithin : WithinAttempts old)
    (hwaiting : new.state = .pending → old.attemptCount < old.maxAttempts) :
    RowStep old new where
  id := hid
  maxAttempts := hmax
  attempts := hattempts.ge
  within := ⟨by rw [hmax, hattempts]; exact hwithin.bound,
    by rw [hmax, hattempts]; exact hwaiting⟩
  handed hrunning := absurd hrunning hidle

theorem RowStep.finish {old new : TaskRow} (hid : new.id = old.id)
    (hmax : new.maxAttempts = old.maxAttempts)
    (hattempts : new.attemptCount = old.attemptCount)
    (hfinished : new.state.isActive = false) (hwithin : WithinAttempts old) :
    RowStep old new := by
  have hstates : new.state ≠ .running ∧ new.state ≠ .pending := by
    simpa [TaskState.isActive, and_comm] using hfinished
  exact .release hid hmax hattempts hstates.1 hwithin fun hpending =>
    absurd hpending hstates.2

theorem RowStep.claimed {row : TaskRow} {now : String} (hpending : row.state = .pending)
    (hwithin : WithinAttempts row) : RowStep row (claimed now row) where
  id := rfl
  maxAttempts := rfl
  attempts := Int.le_add_of_nonneg_right (by decide)
  within := ⟨Int.add_one_le_of_lt (hwithin.waiting hpending), fun hwaiting => by cases hwaiting⟩
  handed _ := .inr le_rfl

theorem Bounded.update (hbounded : Bounded history) {condition : TaskRow → Bool}
    {set : TaskRow → TaskRow}
    (hlater : later.rows = history.table.rows.map (Table.updateRow condition set))
    (hsteps : ∀ row ∈ history.table, condition row → RowStep row (set row)) :
    Bounded (history.record later) ∧ Grows history (history.record later) := by
  have hstep : ∀ row ∈ history.table,
      Table.updateRow condition set row ∈ later ∧
        RowStep row (Table.updateRow condition set row) := by
    intro row hrow
    refine ⟨?_, ?_⟩
    · rw [Table.mem_def, hlater]
      exact List.mem_map_of_mem hrow
    · unfold Table.updateRow
      split_ifs with hcondition
      · exact hsteps row hrow hcondition
      · exact .refl (hbounded.rows row hrow)
  refine ⟨hbounded.of_rowSteps ?_ ?_, ?_⟩
  · intro new hnew
    rw [Table.mem_def, hlater] at hnew
    obtain ⟨old, hold, rfl⟩ := List.mem_map.mp hnew
    exact ⟨old, hold, (hstep old hold).2⟩
  · intro old hold
    exact ⟨_, hstep old hold⟩
  · intro old hold
    obtain ⟨hmem, hrow⟩ := hstep old hold
    exact ⟨_, hmem, hrow.id, hrow.maxAttempts⟩

theorem Bounded.insert (hbounded : Bounded history) {row : TaskRow}
    (hlater : later.rows = history.table.rows ++ [row]) (hpending : row.state = .pending)
    (hattempts : row.attemptCount = 0) (hmax : 0 < row.maxAttempts) :
    Bounded (history.record later) := by
  have hmem : ∀ other, other ∈ later ↔ other ∈ history.table ∨ other = row := by
    intro other
    rw [Table.mem_def, hlater, List.mem_append, List.mem_singleton]
    rfl
  have hnone : newlyRunning history.table later = [] := by
    rw [List.eq_nil_iff_forall_not_mem]
    intro id hid
    obtain ⟨other, hother, rfl, hrunning, hidle⟩ := mem_newlyRunning.mp hid
    rcases (hmem other).mp hother with hold | rfl
    · exact hidle other hold rfl hrunning
    · rw [hpending] at hrunning
      cases hrunning
  have hfresh : ∀ other ∈ history.table, other.id ≠ row.id := by
    intro other hother hid
    have hnodup := later.unique (fun row => some row.id) (by simp [taskIndexes])
    rw [hlater, List.filterMap_append, List.nodup_append'] at hnodup
    exact hnodup.2.2 (List.mem_filterMap.mpr ⟨other, hother, rfl⟩)
      (by simp [hid])
  have hunknown : history.handed.count row.id = 0 := by
    rw [List.count_eq_zero]
    intro hid
    obtain ⟨other, hother, hsame⟩ := hbounded.known row.id hid
    exact hfresh other hother hsame
  unfold QueueHistory.record
  rw [hnone, List.append_nil]
  refine ⟨fun other hother => ?_, fun other hother => ?_, fun id hid => ?_⟩
  · rcases (hmem other).mp hother with hold | rfl
    · exact hbounded.rows other hold
    · exact ⟨by omega, fun _ => by omega⟩
  · rcases (hmem other).mp hother with hold | rfl
    · exact hbounded.handed other hold
    · rw [hunknown, hattempts]
      decide
  · obtain ⟨other, hother, hsame⟩ := hbounded.known id hid
    exact ⟨other, (hmem other).mpr (.inl hother), hsame⟩

end TauriPlatform.TaskQueueService
