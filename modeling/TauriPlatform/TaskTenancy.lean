import TauriPlatform.AsyncSystem
import TauriPlatform.JsonRoundTrip
import TauriPlatform.TaskQueueService
import TauriPlatform.ReadingRange

/-!
# Tasks and tenants

`enqueue` looks an active task up by its unique key alone, and so does the unique index
of the table.  A task is enqueued for its own organisation unless the key is held by an
active task of another organisation or of another type.
-/

namespace TauriPlatform.TaskQueueService

open Async Relational

/-- The task belongs to the organisation of the definition and is of its type. -/
def IsBoundTo (definition : TaskDefinition) (row : TaskRow) : Prop :=
  row.organisationId = definition.organisationId ∧ row.taskType = definition.taskType

/-- An active task which has the key of the definition is bound to it, as far as its
payload can be read. -/
def KeyIsolated (definition : TaskDefinition) (table : TaskTable) : Prop :=
  ∀ key, definition.uniqueKey.filter (· ≠ "") = some key →
    ∀ row ∈ table, activeKey row = some key →
      (∃ record, rowToRecord row = .ok record) → IsBoundTo definition row

theorem rowToRecord_row {row : TaskRow} {record : TaskRecord}
    (hrecord : rowToRecord row = .ok record) : record.row = row := by
  unfold rowToRecord at hrecord
  split at hrecord
  · cases hrecord
    rfl
  · cases hrecord

theorem newRow_isBoundTo (id now : String) (definition : TaskDefinition)
    (checked : CheckedDefinition) :
    IsBoundTo definition (newRow id now definition checked) :=
  ⟨rfl, rfl⟩

/-! ## Looking up -/

/-- The active task which `findActive` answers with. -/
def activeTask (uniqueKey : Option String) (table : TaskTable) : Option TaskRow :=
  (uniqueKey.filter (· ≠ "")).bind fun key =>
    (table.select fun row => activeKey row = some key).head?

theorem activeTask_eq_some {uniqueKey : Option String} {table : TaskTable} {row : TaskRow}
    (hactive : activeTask uniqueKey table = some row) :
    ∃ key, uniqueKey.filter (· ≠ "") = some key ∧ row ∈ table ∧ activeKey row = some key := by
  obtain ⟨key, hkey, hhead⟩ := Option.bind_eq_some_iff.mp hactive
  exact ⟨key, hkey, (Table.head?_select_eq_some_iff activeKey (by simp [taskIndexes])).mp hhead⟩

theorem activeTask_of_mem {uniqueKey : Option String} {table : TaskTable} {row : TaskRow}
    {key : String} (hkey : uniqueKey.filter (· ≠ "") = some key) (hrow : row ∈ table)
    (hactive : activeKey row = some key) : activeTask uniqueKey table = some row := by
  rw [activeTask, hkey]
  exact (Table.head?_select_eq_some_iff activeKey (by simp [taskIndexes])).mpr
    ⟨hrow, hactive⟩

theorem selectActive_run (key : String) (table : TaskTable) :
    (selectActive key).run table = .ok {
      database := table
      rows := (table.select fun row => activeKey row = some key).take 1
      rowsAffected := 0 } := by
  have hcondition : ∀ row : TaskRow,
      (decide (row.uniqueKey = some key) && row.state.isActive) =
        decide (activeKey row = some key) := by
    intro row
    unfold activeKey
    cases row.state.isActive <;> simp
  simp only [selectActive, selectStatement, Statement.run, hcondition]

theorem findActive_run (uniqueKey : Option String) (table : TaskTable) :
    (findActive (connectionExecutor TaskTable) uniqueKey).run memoryConnection table =
      (.ok (activeTask uniqueKey table), table) := by
  unfold findActive activeTask
  cases uniqueKey.filter (· ≠ "") with
  | none => rfl
  | some key =>
      rw [Option.bind_some,
        Program.run_bind_ok _ (memory_query_run (selectActive_run key table))]
      cases table.select fun row => activeKey row = some key <;> rfl

/-! ## Inserting -/

variable {row : TaskRow} {table later : TaskTable}

theorem insertOrFindWinner_run_inserted (hinsert : table.insert? row = some later) :
    (insertOrFindWinner (connectionExecutor TaskTable) row).run memoryConnection table =
      (.ok none, later) := by
  have hrun : (insertStatement row).run table =
      .ok { database := later, rows := [], rowsAffected := 1 } := by
    simp [insertStatement, Statement.run, hinsert]
  rw [insertOrFindWinner, Program.run_tryCatch,
    Program.run_bind_ok _ (memory_execute_run hrun)]
  rfl

theorem insertOrFindWinner_run_rejected (hinsert : table.insert? row = none) :
    ∃ insertError,
      (insertOrFindWinner (connectionExecutor TaskTable) row).run memoryConnection table =
        match activeTask row.uniqueKey table with
        | some winner => (.ok (some winner), table)
        | none => (.error insertError, table) := by
  have hrun : (insertStatement row).run table =
      .error "UNIQUE constraint failed: core_background_tasks" := by
    simp [insertStatement, Statement.run, hinsert]
  obtain ⟨insertError, herror⟩ := memory_execute_run_error hrun
  refine ⟨insertError, ?_⟩
  rw [insertOrFindWinner, Program.run_tryCatch, Program.run_bind_error _ herror]
  simp only [Program.run_bind_ok _ (findActive_run row.uniqueKey table)]
  cases activeTask row.uniqueKey table <;> rfl

theorem selectById_inserted (hinsert : table.insert? row = some later) :
    later.select (fun other => other.id = row.id) = [row] := by
  have hmem : row ∈ later := by
    rw [Table.mem_def, Table.insert?_eq_some_iff.mp hinsert]
    exact List.mem_append_right _ List.mem_cons_self
  have hselect := Table.select_eq_singleton (fun row : TaskRow => some row.id)
    (by simp [taskIndexes]) hmem rfl
  simpa only [Option.some.injEq] using hselect

/-! ## Enqueueing -/

section Enqueue

variable {id : String} {now : ClockReading} {definition : TaskDefinition}
  {checked : CheckedDefinition}

theorem enqueue_run_existing (hvalid : checkDefinition definition = .ok checked)
    {existing : TaskRow} (hactive : activeTask definition.uniqueKey table = some existing) :
    ((enqueue (connectionExecutor TaskTable) id now definition).run memoryConnection
      table).1 = rowToRecord existing := by
  unfold enqueue
  rw [Program.run_bind_ok _ (by rw [Program.run_ofExcept, hvalid]),
    Program.run_bind_ok _ (findActive_run definition.uniqueKey table)]
  simp only [hactive, Program.run_ofExcept]

theorem enqueue_run_new (hvalid : checkDefinition definition = .ok checked)
    (hactive : activeTask definition.uniqueKey table = none) {record : TaskRecord}
    (hrun : ((enqueue (connectionExecutor TaskTable) id now definition).run memoryConnection
      table).1 = .ok record) :
    record.row = newRow id now.iso definition checked := by
  unfold enqueue at hrun
  rw [Program.run_bind_ok _ (by rw [Program.run_ofExcept, hvalid]),
    Program.run_bind_ok _ (findActive_run definition.uniqueKey table)] at hrun
  simp only [hactive] at hrun
  cases hinsert : table.insert? (newRow id now.iso definition checked) with
  | none =>
      obtain ⟨insertError, hrejected⟩ := insertOrFindWinner_run_rejected hinsert
      have hsame : activeTask (newRow id now.iso definition checked).uniqueKey table = none :=
        hactive
      rw [hsame] at hrejected
      rw [Program.run_bind_error _ hrejected] at hrun
      cases hrun
  | some later =>
      rw [Program.run_bind_ok _ (insertOrFindWinner_run_inserted hinsert)] at hrun
      have hselect : (selectById id).run later = .ok {
          database := later
          rows := [newRow id now.iso definition checked]
          rowsAffected := 0 } := by
        have hrows := selectById_inserted hinsert
        simp only [selectById, selectStatement, Statement.run]
        rw [← hrows]
        rfl
      simp only at hrun
      rw [Program.run_bind_ok _ (memory_query_run hselect)] at hrun
      exact rowToRecord_row hrun

/-- A valid definition is never answered with a task of another organisation or type,
exactly as long as no such task holds its key. -/
theorem enqueue_isolated_iff (id : String) (now : ClockReading) (definition : TaskDefinition)
    (table : TaskTable) {checked : CheckedDefinition}
    (hvalid : checkDefinition definition = .ok checked) :
    (∀ record, ((enqueue (connectionExecutor TaskTable) id now definition).run
        memoryConnection table).1 = .ok record → IsBoundTo definition record.row) ↔
      KeyIsolated definition table := by
  cases hactive : activeTask definition.uniqueKey table with
  | none =>
      constructor
      · intro _ key hkey row hrow hrowKey
        cases hactive.symm.trans (activeTask_of_mem hkey hrow hrowKey)
      · intro _ record hrun
        rw [enqueue_run_new hvalid hactive hrun]
        exact newRow_isBoundTo id now.iso definition checked
  | some existing =>
      obtain ⟨key, hkey, hexisting, hexistingKey⟩ := activeTask_eq_some hactive
      rw [enqueue_run_existing hvalid hactive]
      constructor
      · rintro hanswer key' hkey' row hrow hrowKey ⟨record, hrecord⟩
        cases hactive.symm.trans (activeTask_of_mem hkey' hrow hrowKey)
        have hbound := hanswer record hrecord
        rwa [rowToRecord_row hrecord] at hbound
      · intro hisolated record hrecord
        rw [rowToRecord_row hrecord]
        exact hisolated key hkey existing hexisting hexistingKey ⟨record, hrecord⟩

/-! ## Among other operations -/

def KeepsTenants (before after : TaskTable) : Prop :=
  ∀ row ∈ before, ∃ kept ∈ after, kept.id = row.id ∧
    kept.organisationId = row.organisationId ∧ kept.taskType = row.taskType

def AnswersBound (definition : TaskDefinition) (outcome : Except Thrown TaskRecord)
    (_ : TaskTable) : Prop :=
  ∀ record, outcome = .ok record → IsBoundTo definition record.row

theorem rowToRecord_answersBound {definition : TaskDefinition} {row : TaskRow}
    (hbound : (∃ record, rowToRecord row = .ok record) → IsBoundTo definition row)
    (table : TaskTable) : AnswersBound definition (rowToRecord row) table := by
  intro record hrecord
  rw [rowToRecord_row hrecord]
  exact hbound ⟨record, hrecord⟩

abbrev IsolatedSafe {α : Type} (definition : TaskDefinition)
    (program : Program (DbCall TaskTable) Thrown α)
    (post : Except Thrown α → TaskTable → Prop) (table : TaskTable) : Prop :=
  program.Safe memoryConnection.environment (fun _ => True) KeepsTenants
    (KeyIsolated definition) post table

theorem KeepsTenants.refl (table : TaskTable) : KeepsTenants table table :=
  fun row hrow => ⟨row, hrow, rfl, rfl, rfl⟩

theorem KeepsTenants.inserted (hinsert : table.insert? row = some later) :
    KeepsTenants table later := by
  intro old hold
  refine ⟨old, ?_, rfl, rfl, rfl⟩
  rw [Table.mem_def, Table.insert?_eq_some_iff.mp hinsert]
  exact List.mem_append_left _ hold

theorem safe_findActive_isolated {definition : TaskDefinition}
    {post : Except Thrown (Option TaskRow) → TaskTable → Prop}
    (hnone : ∀ now, KeepsTenants table now → post (.ok none) now)
    (hsome : ∀ now existing, ((∃ record, rowToRecord existing = .ok record) →
      IsBoundTo definition existing) → post (.ok (some existing)) now) :
    IsolatedSafe definition
      (findActive (connectionExecutor TaskTable) definition.uniqueKey) post table := by
  unfold findActive
  cases hkey : definition.uniqueKey.filter (· ≠ "") with
  | none => exact hnone table (.refl table)
  | some key =>
      refine Program.Safe.bind ?_
      intro now hkeeps _ hisolated answer later hanswer
      have hrun := selectActive_run key now
      simp only [Program.Handler.environment, memoryConnection, hrun,
        Prod.mk.injEq] at hanswer
      obtain ⟨rfl, rfl⟩ := hanswer
      refine ⟨trivial, .refl now, ?_⟩
      change post (.ok (((now.select fun row => activeKey row = some key).take 1).head?)) now
      cases hrows : now.select fun row => activeKey row = some key with
      | nil => exact hnone now hkeeps
      | cons row rest =>
          have hrow : row ∈ now.select fun row => activeKey row = some key := by
            rw [hrows]
            exact List.mem_cons_self
          obtain ⟨hmem, hactive⟩ := Table.mem_select.mp hrow
          exact hsome now row (hisolated key hkey row hmem (of_decide_eq_true hactive))

/-- Also between the lookup and the insert, and when a competing insert wins, a valid
definition is answered with a task of its own organisation and type. -/
theorem enqueue_isolated_among_others (id : String) (now : ClockReading)
    (definition : TaskDefinition) (table : TaskTable) :
    IsolatedSafe definition (enqueue (connectionExecutor TaskTable) id now definition)
      (AnswersBound definition) table := by
  unfold enqueue
  refine Program.Safe.bind ?_
  cases checkDefinition definition with
  | error error =>
      intro record hrecord
      cases hrecord
  | ok checked =>
      refine Program.Safe.bind (safe_findActive_isolated (fun before _ => ?_)
        fun before existing hbound => rowToRecord_answersBound hbound before)
      refine Program.Safe.bind (Program.Safe.tryCatch (Program.Safe.bind
        (Program.Safe.bind ?_)))
      intro current _ _ _ answer later hanswer
      cases hinsert : current.insert? (newRow id now.iso definition checked) with
      | none =>
          have hrun : (insertStatement (newRow id now.iso definition checked)).run current =
              .error "UNIQUE constraint failed: core_background_tasks" := by
            simp [insertStatement, Statement.run, hinsert]
          simp only [Program.Handler.environment, memoryConnection, hrun,
            Prod.mk.injEq] at hanswer
          obtain ⟨rfl, rfl⟩ := hanswer
          refine ⟨trivial, .refl current, ?_⟩
          -- The winner of the competing insert.
          refine Program.Safe.bind (safe_findActive_isolated (fun after _ => ?_)
            fun after winner hbound => rowToRecord_answersBound hbound after)
          intro record hrecord
          cases hrecord
      | some inserted =>
          have hrun : (insertStatement (newRow id now.iso definition checked)).run current =
              .ok { database := inserted, rows := [], rowsAffected := 1 } := by
            simp [insertStatement, Statement.run, hinsert]
          simp only [Program.Handler.environment, memoryConnection, hrun,
            Prod.mk.injEq] at hanswer
          obtain ⟨rfl, rfl⟩ := hanswer
          refine ⟨trivial, .inserted hinsert, ?_⟩
          refine Program.Safe.bind ?_
          intro after hkeeps _ _ answer final hfinal
          simp only [Program.Handler.environment, memoryConnection, selectById,
            selectStatement, Statement.run, Prod.mk.injEq] at hfinal
          obtain ⟨rfl, rfl⟩ := hfinal
          refine ⟨trivial, .refl after, ?_⟩
          have hown : newRow id now.iso definition checked ∈ inserted := by
            rw [Table.mem_def, Table.insert?_eq_some_iff.mp hinsert]
            exact List.mem_append_right _ List.mem_cons_self
          obtain ⟨kept, hkept, hid, horganisation, htype⟩ := hkeeps _ hown
          have hkey : some kept.id = some id := congrArg some hid
          have hselect : after.select (fun other => decide (other.id = id)) = [kept] := by
            simpa only [Option.some.injEq] using
              Table.select_eq_singleton (fun row : TaskRow => some row.id)
                (by simp [taskIndexes]) hkept hkey
          simp only [hselect]
          exact rowToRecord_answersBound (fun _ => ⟨horganisation, htype⟩) after

/-! ## A key which two tenants chose -/

def nightlyTask (organisationId : String) : TaskDefinition where
  taskType := "report"
  uniqueKey := some "nightly"
  payload := .json .null
  organisationId := organisationId
  correlationId := "corr"

def checkedNightly : CheckedDefinition where
  policy := defaultRetryPolicy
  timeoutMs := 30000
  payloadJson := "null"

theorem nightlyTask_valid (organisationId : String) (horganisation : ¬ isBlank organisationId) :
    checkDefinition (nightlyTask organisationId) = .ok checkedNightly := by
  have htype : ¬ isBlank "report" := by decide
  have hcorrelation : ¬ isBlank "corr" := by decide
  exact (if_neg htype).trans ((if_neg horganisation).trans ((if_neg hcorrelation).trans rfl))

def nightlyTable : TaskTable where
  rows := [newRow "t1" "2024-01-01T00:00:00.000Z" (nightlyTask "first") checkedNightly]
  unique := by decide

def midnight : ClockReading where
  millis := 0
  inRange := ClockReading.inRange_epoch

theorem enqueue_nightly {organisationId : String} (horganisation : ¬ isBlank organisationId) :
    ∃ record, ((enqueue (connectionExecutor TaskTable) "t2" midnight
      (nightlyTask organisationId)).run memoryConnection nightlyTable).1 = .ok record ∧
        record.row.organisationId = "first" := by
  have hactive : activeTask (nightlyTask organisationId).uniqueKey nightlyTable =
      some (newRow "t1" "2024-01-01T00:00:00.000Z" (nightlyTask "first") checkedNightly) :=
    activeTask_of_mem rfl List.mem_cons_self rfl
  have hpayload : parseJson? "null" = some .null := parseJson?_stringify .null
  have hrecord : rowToRecord
        (newRow "t1" "2024-01-01T00:00:00.000Z" (nightlyTask "first") checkedNightly) =
      .ok {
        row := newRow "t1" "2024-01-01T00:00:00.000Z" (nightlyTask "first") checkedNightly
        payload := .null } := by
    unfold rowToRecord
    dsimp only [newRow, checkedNightly]
    rw [hpayload]
  have hanswer : ((enqueue (connectionExecutor TaskTable) "t2" midnight
      (nightlyTask organisationId)).run memoryConnection nightlyTable).1 = rowToRecord _ :=
    enqueue_run_existing (nightlyTask_valid organisationId horganisation) hactive
  exact ⟨_, hanswer.trans hrecord, rfl⟩

theorem enqueue_isolated_within_tenant :
    ∃ record, ((enqueue (connectionExecutor TaskTable) "t2" midnight
      (nightlyTask "first")).run memoryConnection nightlyTable).1 = .ok record ∧
        IsBoundTo (nightlyTask "first") record.row := by
  obtain ⟨record, hrecord, -⟩ := enqueue_nightly (by decide : ¬ isBlank "first")
  refine ⟨record, hrecord, (enqueue_isolated_iff "t2" midnight (nightlyTask "first")
    nightlyTable (nightlyTask_valid "first" (by decide))).mpr ?_ record hrecord⟩
  intro key _ row hrow _ _
  rw [List.mem_singleton.mp hrow]
  exact newRow_isBoundTo _ _ _ _

/-- The second organisation is answered with the task of the first. -/
theorem enqueue_answers_other_tenant :
    checkDefinition (nightlyTask "second") = .ok checkedNightly ∧
      ∃ record, ((enqueue (connectionExecutor TaskTable) "t2" midnight
        (nightlyTask "second")).run memoryConnection nightlyTable).1 = .ok record ∧
          record.row.organisationId = "first" :=
  ⟨nightlyTask_valid "second" (by decide), enqueue_nightly (by decide)⟩

end Enqueue
end TauriPlatform.TaskQueueService
