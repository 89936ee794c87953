import TauriPlatform.TaskAlerts
import TauriPlatform.TaskFencing

/-!
# Tasks which stand

A task stands at an attempt while it runs, and once it has failed.  While no one takes it away
from its worker, the task stands until the worker is done with it, and the worker is about to
alert only after the task has failed.
-/

namespace TauriPlatform.TaskAlerts

open Async Relational TaskQueueService TaskWorker

variable {table later : TaskTable} {held : String × Int}

/-! ## What stays -/

def At (P : TaskRow → Prop) (table : TaskTable) (held : String × Int) : Prop :=
  ∃ row ∈ table, attemptOf row = held ∧ P row

def Standing (row : TaskRow) : Prop :=
  row.state = .running ∨ row.state = .failed

def HasFailed (row : TaskRow) : Prop :=
  row.state = .failed

def Persists (P : TaskRow → Prop) (table later : TaskTable) : Prop :=
  ∀ row ∈ table, P row → At P later (attemptOf row)

def PersistingCall (P : TaskRow → Prop) : ∀ ⦃β : Type⦄, DbCall TaskTable β → Prop :=
  fun _ request => ∀ table, Persists P table (memoryConnection request table).2

section Persists

variable {P : TaskRow → Prop}

theorem Persists.refl (table : TaskTable) : Persists P table table :=
  fun row hrow hP => ⟨row, hrow, rfl, hP⟩

theorem Persists.at (hpersists : Persists P table later) (hat : At P table held) :
    At P later held := by
  obtain ⟨row, hrow, rfl, hP⟩ := hat
  exact hpersists row hrow hP

theorem Persists.update {condition : TaskRow → Bool} {set : TaskRow → TaskRow}
    (hlater : later.rows = table.rows.map (Table.updateRow condition set))
    (hset : ∀ row ∈ table, condition row → P row → attemptOf (set row) = attemptOf row ∧
      P (set row)) : Persists P table later := by
  intro row hrow hP
  refine ⟨Table.updateRow condition set row, ?_, ?_⟩
  · rw [Table.mem_def, hlater]
    exact List.mem_map_of_mem hrow
  · unfold Table.updateRow
    split_ifs with hcondition
    · exact hset row hrow hcondition hP
    · exact ⟨rfl, hP⟩

theorem persists_statement {Row : Type} {statement : Statement TaskTable Row}
    (hstatement : ∀ table result, statement.run table = .ok result →
      Persists P table result.database) :
    PersistingCall P (.query statement) ∧ PersistingCall P (.execute statement) :=
  ⟨fun table => memory_query_relates (.refl table) (hstatement table),
    fun table => memory_execute_relates (.refl table) (hstatement table)⟩

theorem persists_update {Row : Type} {sql : String} {params : List JsonValue}
    {columns : List (Column Row)} {condition : TaskTable → TaskRow → Bool}
    {set : TaskRow → TaskRow} {returning : TaskRow → List Row}
    (hset : ∀ table row, condition table row → P row → attemptOf (set row) = attemptOf row ∧
      P (set row)) :
    PersistingCall P (.query (updateStatement sql params columns condition set returning)) ∧
      PersistingCall P (.execute (updateStatement sql params columns condition set returning)) :=
  persists_statement fun table _ hrun =>
    .update (update_run_eq_ok hrun).1 fun row _ => hset table row

/-- What is no property of pending rows, and is kept by quarantine, persists when tasks are
read, enqueued and claimed. -/
theorem persists_queueing (hpending : ∀ row : TaskRow, row.state = .pending → ¬ P row)
    (hquarantine : ∀ now row, P row → P (quarantined now row)) :
    OfQueueing (PersistingCall P) where
  select sql params condition rest := by
    refine (persists_statement ?_).1
    intro table result hrun
    cases hrun
    exact .refl table
  insert row _ := by
    refine (persists_statement ?_).2
    intro table result hrun
    simp only [insertStatement, Statement.run] at hrun
    cases hinsert : table.insert? row with
    | none =>
        rw [hinsert] at hrun
        cases hrun
    | some later =>
        rw [hinsert] at hrun
        cases hrun
        intro old hold hP
        refine ⟨old, ?_, rfl, hP⟩
        rw [Table.mem_def, Table.insert?_eq_some_iff.mp hinsert]
        exact List.mem_append_left _ hold
  claim now taskTypes limit := by
    refine (persists_update ?_).1
    intro table row hcondition hP
    have hstate : row.state = .pending := by
      simpa using (Bool.and_eq_true_iff.mp hcondition).2
    exact absurd hP (hpending row hstate)
  quarantine now id := by
    refine (persists_update ?_).2
    intro table row _ hP
    exact ⟨rfl, hquarantine now row hP⟩

end Persists

theorem standing_queueing : OfQueueing (PersistingCall Standing) :=
  persists_queueing (fun _ hpending => by simp [Standing, hpending])
    fun _ _ _ => Or.inr rfl

theorem failed_queueing : OfQueueing (PersistingCall HasFailed) :=
  persists_queueing (fun _ hpending => by simp [HasFailed, hpending]) fun _ _ _ => rfl

structure Kept (table later : TaskTable) : Prop where
  spares : Spared table later
  standing : Persists Standing table later
  failed : Persists HasFailed table later

structure KeepingCall ⦃β : Type⦄ (request : DbCall TaskTable β) : Prop where
  spares : SparingCall request
  standing : PersistingCall Standing request
  failed : PersistingCall HasFailed request

theorem keeping_queueing : OfQueueing KeepingCall where
  select sql params condition rest :=
    ⟨spares_queueing.select sql params condition rest,
      standing_queueing.select sql params condition rest,
      failed_queueing.select sql params condition rest⟩
  insert row hpending :=
    ⟨spares_queueing.insert row hpending, standing_queueing.insert row hpending,
      failed_queueing.insert row hpending⟩
  claim now taskTypes limit :=
    ⟨spares_queueing.claim now taskTypes limit, standing_queueing.claim now taskTypes limit,
      failed_queueing.claim now taskTypes limit⟩
  quarantine now id :=
    ⟨spares_queueing.quarantine now id, standing_queueing.quarantine now id,
      failed_queueing.quarantine now id⟩

theorem At.standing (hfailed : At HasFailed table held) : At Standing table held := by
  obtain ⟨row, hrow, hattempt, hstate⟩ := hfailed
  exact ⟨row, hrow, hattempt, Or.inr hstate⟩

theorem At.heldAt (hstanding : At Standing table held) : HeldAt table held := by
  obtain ⟨row, hrow, hattempt, hstate⟩ := hstanding
  refine ⟨row, hrow, hattempt, ?_⟩
  cases hstate with
  | inl hrunning => simp [hrunning]
  | inr hfailed => simp [hfailed]

theorem At.eq {P : TaskRow → Prop} (hat : At P table held) {row : TaskRow}
    (hrow : row ∈ table) (hid : row.id = held.1) : attemptOf row = held ∧ P row := by
  obtain ⟨other, hother, rfl, hP⟩ := hat
  have hsame : row = other := eq_of_id_eq hrow hother hid
  rw [hsame]
  exact ⟨rfl, hP⟩

theorem at_of_touchesOnly {P : TaskRow → Prop} {id : String} (htouches : TouchesOnly id table later)
    (hid : held.1 ≠ id) (hat : At P table held) : At P later held := by
  obtain ⟨row, hrow, rfl, hP⟩ := hat
  exact ⟨row, htouches.others row hrow hid, rfl, hP⟩

/-! ## A worker which is about to alert -/

/-- While the task stands at the attempt, the worker touches only its row, and leaves the task
standing as long as it goes on; it is about to alert only if the task has failed. -/
def Handling (held : String × Int) : Execution Unit → TaskTable → Prop
  | .done _, _ => True
  | .call (.database request) rest, _ =>
      ∀ now answer later, At Standing now held →
        fallible memoryConnection request now answer later →
          TouchesOnly held.1 now later ∧ Handling held (rest answer) later ∧
            (At Standing later held ∨ ∃ outcome, rest answer = .done outcome)
  | .call (.onNonRetryableError taskId _ _) rest, table =>
      taskId = held.1 ∧ At HasFailed table held ∧
        ∀ answer, ∃ outcome, rest answer = .done outcome

theorem Handling.persists {program : Execution Unit} (hhandling : Handling held program table)
    (hfailed : At HasFailed table held → At HasFailed later held) :
    Handling held program later := by
  cases program with
  | done outcome => trivial
  | call request rest =>
      cases request with
      | database request => exact hhandling
      | onNonRetryableError taskId taskType error =>
          obtain ⟨hid, hat, hrest⟩ := hhandling
          exact ⟨hid, hfailed hat, hrest⟩

section Worker

variable {β : Type} {request : DbCall TaskTable β} {rest : Except Thrown β → Execution Unit}

theorem handling_call (htouches : TouchingCall held.1 request)
    (hrest : ∀ now answer later, At Standing now held →
      fallible memoryConnection request now answer later →
        Handling held (rest answer) later ∧
          (At Standing later held ∨ ∃ outcome, rest answer = .done outcome)) :
    Handling held (.call (.database request) rest) table := by
  intro now answer later hstanding hanswer
  refine ⟨?_, hrest now answer later hstanding hanswer⟩
  cases hanswer with
  | inl hanswered =>
      have htouched := htouches now
      rwa [hanswered] at htouched
  | inr hfailed =>
      rw [hfailed.2]
      exact .refl held.1 now

/-- What `handleFailure` does once `markFailed` has answered. -/
def alertUnless (task : TaskRecord) (error : Thrown) (willRetry : Bool) : Execution Unit :=
  if willRetry then pure ()
  else
    tryCatch (Program.await (.onNonRetryableError task.row.id task.row.taskType error))
      fun _callbackError => pure ()

theorem handling_alert (task : TaskRecord) (error : Thrown)
    (hfailed : At HasFailed table (attemptOf task.row)) :
    Handling (attemptOf task.row) (alertUnless task error false) table := by
  refine ⟨rfl, hfailed, ?_⟩
  intro answer
  cases answer with
  | ok value => exact ⟨_, rfl⟩
  | error callbackError => exact ⟨_, rfl⟩

end Worker

section Answered

variable {β Row : Type}

theorem fallible_relates {R : TaskTable → TaskTable → Prop} {request : DbCall TaskTable β}
    {answer : Except Thrown β} (hrefl : ∀ table, R table table)
    (hcall : R table (memoryConnection request table).2)
    (hanswer : fallible memoryConnection request table answer later) : R table later := by
  cases hanswer with
  | inl hanswered => rwa [hanswered] at hcall
  | inr hfailed =>
      rw [hfailed.2]
      exact hrefl table

theorem KeepingCall.kept {request : DbCall TaskTable β} {answer : Except Thrown β}
    (hkeeps : KeepingCall request)
    (hanswer : fallible memoryConnection request table answer later) : Kept table later where
  spares := fallible_relates .refl (hkeeps.spares table) hanswer
  standing := fallible_relates .refl (hkeeps.standing table) hanswer
  failed := fallible_relates .refl (hkeeps.failed table) hanswer

theorem query_eq_ok {statement : Statement TaskTable Row} {rows : List Row}
    (hanswer : fallible memoryConnection (.query statement) table (.ok rows) later) :
    ∃ result, statement.run table = .ok result ∧ result.rows = rows ∧
      result.database = later := by
  cases hanswer with
  | inl hanswered =>
      cases hrun : statement.run table with
      | ok result =>
          simp only [memoryConnection, hrun, Prod.mk.injEq, Except.ok.injEq] at hanswered
          exact ⟨result, rfl, hanswered.1, hanswered.2⟩
      | error message =>
          simp only [memoryConnection, hrun, Prod.mk.injEq, reduceCtorEq, false_and] at hanswered
  | inr hfailed =>
      obtain ⟨⟨error, herror⟩, -⟩ := hfailed
      cases herror

theorem execute_failed {statement : Statement TaskTable Row} {error : Thrown}
    (hanswer : fallible memoryConnection (.execute statement) table (.error error) later) :
    table = later := by
  cases hanswer with
  | inl hanswered =>
      cases hrun : statement.run table with
      | ok result =>
          simp only [memoryConnection, hrun, Prod.mk.injEq, reduceCtorEq, false_and] at hanswered
      | error message =>
          simp only [memoryConnection, hrun, Prod.mk.injEq] at hanswered
          exact hanswered.2
  | inr hfailed => exact hfailed.2.symm

variable {sql : String} {params : List JsonValue} {columns : List (Column Row)}
  {set : TaskRow → TaskRow} {returning : TaskRow → List Row}
  {result : StatementResult TaskTable Row} {row : TaskRow}

abbrev attemptStatement (sql : String) (params : List JsonValue) (columns : List (Column Row))
    (held : String × Int) (set : TaskRow → TaskRow) (returning : TaskRow → List Row) :
    Statement TaskTable Row :=
  updateStatement sql params columns
    (fun _ row => row.id = held.1 && row.state = .running && row.attemptCount = held.2)
    set returning

theorem attempt_running
    (hrun : (attemptStatement sql params columns (attemptOf row) set returning).run table =
      .ok result)
    (hrow : row ∈ table) (hrunning : row.state = .running) :
    set row ∈ result.database ∧ returning (set row) ⊆ result.rows := by
  obtain ⟨hdatabase, hrows⟩ := update_run_eq_ok hrun
  have hcondition : (row.id = (attemptOf row).1 && row.state = .running &&
      row.attemptCount = (attemptOf row).2 : Bool) := by
    simp [attemptOf, hrunning]
  constructor
  · rw [Table.mem_def, hdatabase]
    refine List.mem_map.mpr ⟨row, hrow, ?_⟩
    unfold Table.updateRow
    rw [if_pos hcondition]
  · rw [hrows]
    intro returned hreturned
    refine List.mem_flatMap.mpr ⟨set row, ?_, hreturned⟩
    exact List.mem_map_of_mem (Table.mem_select.mpr ⟨hrow, hcondition⟩)

theorem attempt_idle
    (hrun : (attemptStatement sql params columns held set returning).run table = .ok result)
    (hrow : row ∈ table) (hidle : row.state ≠ .running) : row ∈ result.database := by
  obtain ⟨hdatabase, -⟩ := update_run_eq_ok hrun
  rw [Table.mem_def, hdatabase]
  refine List.mem_map.mpr ⟨row, hrow, ?_⟩
  unfold Table.updateRow
  rw [if_neg]
  simp [hidle]

end Answered

/-- The second statement of `markFailed` puts the task back, or the task has failed. -/
theorem rescheduled_or_failed {nextScheduledAt errorMessage now : String} {rows : List String}
    (hstanding : At Standing table held)
    (hanswer : fallible memoryConnection
      (.query (rescheduleStatement nextScheduledAt errorMessage now held.1 held.2)) table
      (.ok rows) later) : rows ≠ [] ∨ At HasFailed later held := by
  obtain ⟨result, hrun, rfl, rfl⟩ := query_eq_ok hanswer
  obtain ⟨row, hrow, rfl, hstate⟩ := hstanding
  cases hstate with
  | inl hrunning =>
      have hreturned := (attempt_running hrun hrow hrunning).2
      exact Or.inl (List.ne_nil_of_mem (hreturned List.mem_cons_self))
  | inr hfailed =>
      have hkept := attempt_idle hrun hrow (by simp [hfailed])
      exact Or.inr ⟨row, hkept, rfl, hfailed⟩

theorem failed_of_fail {errorMessage now : String} {rows : List String}
    (hstanding : At Standing table held)
    (hanswer : fallible memoryConnection
      (.query (failStatement errorMessage now held.1 held.2)) table (.ok rows) later) :
    At HasFailed later held := by
  obtain ⟨result, hrun, rfl, rfl⟩ := query_eq_ok hanswer
  obtain ⟨row, hrow, rfl, hstate⟩ := hstanding
  cases hstate with
  | inl hrunning => exact ⟨_, (attempt_running hrun hrow hrunning).1, rfl, rfl⟩
  | inr hfailed => exact ⟨row, attempt_idle hrun hrow (by simp [hfailed]), rfl, hfailed⟩

/-- The first statement of `markFailed` finds the task where it stands. -/
theorem found_standing {rows : List TaskRow} (hstanding : At Standing table held)
    (hanswer : fallible memoryConnection (.query (selectById held.1)) table (.ok rows) later) :
    later = table ∧ ∃ row rest, rows = row :: rest ∧ attemptOf row = held ∧ Standing row ∧
      row ∈ table := by
  obtain ⟨result, hrun, rfl, rfl⟩ := query_eq_ok hanswer
  cases hrun
  refine ⟨rfl, ?_⟩
  cases hrows : table.select fun row => row.id = held.1 with
  | nil =>
      obtain ⟨row, hrow, rfl, -⟩ := hstanding
      have hfound : row ∈ table.select fun other => other.id = (attemptOf row).1 :=
        Table.mem_select.mpr ⟨hrow, by simp [attemptOf]⟩
      rw [hrows] at hfound
      exact absurd hfound List.not_mem_nil
  | cons row rest =>
      have hfound : row ∈ table.select fun other => other.id = held.1 := by
        rw [hrows]
        exact List.mem_cons_self
      obtain ⟨hrow, hid⟩ := Table.mem_select.mp hfound
      obtain ⟨hattempt, hstate⟩ := hstanding.eq hrow (of_decide_eq_true hid)
      exact ⟨row, rest, hrows, hattempt, hstate, hrow⟩

theorem handling_handleFailure (task : TaskRecord) (run : HandlerRun) (error : Thrown)
    (table : TaskTable) :
    Handling (attemptOf task.row) (handleFailure task run error) table := by
  refine handling_call (touches_selectById task.row.id task.row.id).query ?_
  intro now answer later hstanding hanswer
  cases answer with
  | error thrown => exact ⟨trivial, Or.inr ⟨_, rfl⟩⟩
  | ok rows =>
      obtain ⟨rfl, row, rest, rfl, hattempt, hstate, hrow⟩ := found_standing hstanding hanswer
      refine ⟨?_, Or.inl hstanding⟩
      simp only [bind, Program.bind]
      split_ifs with hrunning
      · -- the task does not run, so it has failed already
        have hfailed : row.state = .failed := hstate.resolve_left hrunning
        exact handling_alert task error ⟨row, hrow, hattempt, hfailed⟩
      · have hcount : row.attemptCount = (attemptOf task.row).2 := congrArg Prod.snd hattempt
        rw [hcount]
        split
        · rename_i delayMs _ _
          cases scheduleAfter run.rescheduledFrom delayMs with
          | error thrown => trivial
          | ok nextScheduledAt =>
              refine handling_call (touches_reschedule _ _ _ _ _).query ?_
              intro now answer later hstanding hanswer
              cases answer with
              | error thrown => exact ⟨trivial, Or.inr ⟨_, rfl⟩⟩
              | ok updated =>
                  change Handling _ (alertUnless task error (decide (updated ≠ []))) later ∧
                    (_ ∨ ∃ outcome,
                      alertUnless task error (decide (updated ≠ [])) = .done outcome)
                  by_cases hupdated : updated ≠ []
                  · rw [decide_eq_true hupdated]
                    exact ⟨trivial, Or.inr ⟨_, rfl⟩⟩
                  · have hfailed : At HasFailed later (attemptOf task.row) :=
                      (rescheduled_or_failed hstanding hanswer).resolve_left hupdated
                    rw [decide_eq_false hupdated]
                    exact ⟨handling_alert task error hfailed, Or.inl hfailed.standing⟩
        · refine handling_call (touches_fail _ _ _ _).query ?_
          intro now answer later hstanding hanswer
          cases answer with
          | error thrown => exact ⟨trivial, Or.inr ⟨_, rfl⟩⟩
          | ok updated =>
              have hfailed : At HasFailed later (attemptOf task.row) :=
                failed_of_fail hstanding hanswer
              exact ⟨handling_alert task error hfailed, Or.inl hfailed.standing⟩

theorem handling_worker (task : TaskRecord) (run : HandlerRun) (table : TaskTable) :
    Handling (attemptOf task.row) (executeTask task run) table := by
  unfold executeTask
  split_ifs
  · cases houtcome : run.outcome with
    | error error => exact handling_handleFailure task run error table
    | ok value =>
        exact handling_handleFailure task run
          (.builtin "Error" s!"Task timed out after {task.row.timeoutMs}ms") table
  · cases houtcome : run.outcome with
    | error error => exact handling_handleFailure task run error table
    | ok value =>
        refine handling_call (touches_complete run.completedAt.iso task.row.id).execute ?_
        intro now answer later hstanding hanswer
        cases answer with
        | ok count => exact ⟨trivial, Or.inr ⟨_, rfl⟩⟩
        | error error =>
            obtain rfl := execute_failed hanswer
            exact ⟨handling_handleFailure task run error _, Or.inl hstanding⟩
  · refine handling_call (touches_cancel _ run.cancelledAt.iso task.row.id).execute ?_
    intro now answer later hstanding hanswer
    cases answer with
    | ok count => exact ⟨trivial, Or.inr ⟨_, rfl⟩⟩
    | error error => exact ⟨trivial, Or.inr ⟨_, rfl⟩⟩

end TauriPlatform.TaskAlerts
