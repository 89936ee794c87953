import TauriPlatform.AsyncMoments
import TauriPlatform.TaskHolding
import TauriPlatform.ReadingRange

/-!
# Deduplication under interleaving

`enqueue` looks for an active task of its key, inserts, and looks again when the insert is
rejected.  The partial unique index keeps two active tasks of one key apart; the task which
a call answers has been active at a moment since the call was made.
-/

namespace TauriPlatform.TaskQueueService

open Async Relational

def ActiveAt (key id : String) (moments : List TaskTable) : Prop :=
  ∃ table ∈ moments, ∃ row ∈ table,
    row.id = id ∧ row.uniqueKey = some key ∧ row.state.isActive

theorem ActiveAt.later {key id : String} {earlier later : List TaskTable}
    (hactive : ActiveAt key id earlier) (hgrows : earlier <+: later) :
    ActiveAt key id later := by
  obtain ⟨table, htable, hrow⟩ := hactive
  exact ⟨table, hgrows.subset htable, hrow⟩

def AnswersActive (uniqueKey : Option String) (outcome : Except Thrown TaskRecord)
    (moments : List TaskTable) : Prop :=
  ∀ record, outcome = .ok record → ∀ key, uniqueKey = some key →
    ActiveAt key record.row.id moments

/-! ## One statement -/

section Calls

variable {α : Type} {post : Except Thrown α → List TaskTable → Prop} {moments : List TaskTable}

abbrev Settles (post : Except Thrown α → List TaskTable → Prop)
    (program : Program (DbCall TaskTable) Thrown α) (moments : List TaskTable) : Prop :=
  program.SettlesWithin (fallible memoryConnection) post moments

theorem settles_select {sql : String} {params : List JsonValue} {condition : TaskRow → Bool}
    {rest : List TaskRow → List TaskRow}
    {post : Except Thrown (List TaskRow) → List TaskTable → Prop}
    (hrows : ∀ (later : List TaskTable) (table : TaskTable), moments <+: later →
      table ∈ later → post (.ok (rest (table.select condition))) later)
    (herror : ∀ later error, moments <+: later → post (.error error) later) :
    Settles post ((connectionExecutor TaskTable).query
      (selectStatement sql params condition rest)) moments := by
  intro now hnow _ _ answer later hanswer
  obtain ⟨table, next, hlast, hcall, rfl⟩ := hanswer
  have hgrows : moments <+: now ++ [next] := hnow.trans (List.prefix_append _ _)
  refine ⟨trivial, List.prefix_append _ _, ?_⟩
  rcases hcall with hrun | ⟨⟨error, rfl⟩, -⟩
  · cases hrun
    exact hrows _ _ hgrows (List.mem_append_right _ (List.mem_singleton.mpr rfl))
  · exact herror _ error hgrows

theorem settles_insert {row : TaskRow} {post : Except Thrown Unit → List TaskTable → Prop}
    (hinserted : ∀ (later : List TaskTable) (table : TaskTable), moments <+: later →
      table ∈ later → row ∈ table → post (.ok ()) later)
    (herror : ∀ later error, moments <+: later → post (.error error) later) :
    Settles post ((connectionExecutor TaskTable).execute (insertStatement row)) moments := by
  intro now hnow _ _ answer later hanswer
  obtain ⟨table, next, hlast, hcall, rfl⟩ := hanswer
  have hgrows : moments <+: now ++ [next] := hnow.trans (List.prefix_append _ _)
  refine ⟨trivial, List.prefix_append _ _, ?_⟩
  rcases hcall with hrun | ⟨⟨error, rfl⟩, -⟩
  · cases hinsert : table.insert? row with
    | some inserted =>
        simp only [memoryConnection, insertStatement, Statement.run, hinsert,
          Prod.mk.injEq] at hrun
        obtain ⟨rfl, rfl⟩ := hrun
        refine hinserted _ inserted hgrows (List.mem_append_right _ List.mem_cons_self) ?_
        rw [Table.mem_def, Table.insert?_eq_some_iff.mp hinsert]
        exact List.mem_append_right _ List.mem_cons_self
    | none =>
        simp only [memoryConnection, insertStatement, Statement.run, hinsert,
          Prod.mk.injEq] at hrun
        obtain ⟨rfl, rfl⟩ := hrun
        exact herror _ _ hgrows
  · exact herror _ error hgrows

theorem settles_any (program : Program (DbCall TaskTable) Thrown α) :
    Settles (fun _ _ => True) program moments := by
  induction program generalizing moments with
  | done outcome => trivial
  | call request rest ih =>
      intro now _ _ _ answer later hanswer
      obtain ⟨_, _, _, _, rfl⟩ := hanswer
      exact ⟨trivial, List.prefix_append _ _, ih answer⟩

end Calls

/-! ## Enqueueing -/

section Enqueue

variable {moments : List TaskTable}

theorem settles_findActive (uniqueKey : Option String) :
    Settles (fun outcome later => moments <+: later ∧ ∀ row, outcome = .ok (some row) →
        ∀ key, uniqueKey = some key → ActiveAt key row.id later)
      (findActive (connectionExecutor TaskTable) uniqueKey) moments := by
  unfold findActive
  cases hkey : uniqueKey.filter (· ≠ "") with
  | none => exact ⟨List.prefix_rfl, fun row hrow => nomatch hrow⟩
  | some key =>
      obtain ⟨rfl, -⟩ := Option.filter_eq_some_iff.mp hkey
      refine Program.Safe.bind (settles_select ?_ ?_)
      · intro later table hgrows htable
        refine ⟨hgrows, fun row hrow key' hsame => ?_⟩
        have hhead : (List.take 1 (table.select fun row =>
            row.uniqueKey = some key && row.state.isActive)).head? = some row :=
          Except.ok.inj hrow
        have hmem := List.mem_of_mem_take (List.mem_of_mem_head? hhead)
        obtain ⟨hrow', hcondition⟩ := Table.mem_select.mp hmem
        rw [Bool.and_eq_true, decide_eq_true_eq] at hcondition
        exact ⟨table, htable, row, hrow', rfl, hcondition.1.trans hsame, hcondition.2⟩
      · intro later error hgrows
        exact ⟨hgrows, fun row hrow => nomatch hrow⟩

theorem settles_insertOrFindWinner {row : TaskRow} (hpending : row.state = .pending) :
    Settles (fun outcome later => ∀ key, row.uniqueKey = some key →
        (outcome = .ok none → ActiveAt key row.id later) ∧
          ∀ winner, outcome = .ok (some winner) → ActiveAt key winner.id later)
      (insertOrFindWinner (connectionExecutor TaskTable) row) moments := by
  unfold insertOrFindWinner
  refine Program.Safe.tryCatch (Program.Safe.bind (settles_insert ?_ ?_))
  · intro later table _ htable hrow key hkey
    refine ⟨fun _ => ⟨table, htable, row, hrow, rfl, hkey, ?_⟩, fun winner hwinner => ?_⟩
    · simp [TaskState.isActive, hpending]
    · cases hwinner
  · intro later error _
    refine Program.Safe.bind (Program.Safe.mono ?_ (settles_findActive row.uniqueKey))
    rintro outcome now ⟨-, hfound⟩
    rcases outcome with error | _ | winner
    · exact fun key hkey => ⟨fun hnone => (by cases hnone), fun other hother => by cases hother⟩
    · exact fun key hkey => ⟨fun hnone => (by cases hnone), fun other hother => by cases hother⟩
    · intro key hkey
      exact ⟨fun hnone => (by cases hnone), fun other hother =>
        Option.some.inj (Except.ok.inj hother) ▸ hfound winner rfl key hkey⟩

theorem answersActive_rowToRecord {uniqueKey : Option String} {row : TaskRow}
    (hactive : ∀ key, uniqueKey = some key → ActiveAt key row.id moments) :
    AnswersActive uniqueKey (rowToRecord row) moments := by
  intro record hrecord key hkey
  unfold rowToRecord at hrecord
  split at hrecord
  · cases hrecord
    exact hactive key hkey
  · cases hrecord

theorem settles_enqueue (id : String) (now : ClockReading) (definition : TaskDefinition) :
    Settles (AnswersActive definition.uniqueKey)
      (enqueue (connectionExecutor TaskTable) id now definition) moments := by
  have hfails : ∀ (error : Thrown) (later : List TaskTable),
      AnswersActive definition.uniqueKey (.error error) later :=
    fun _ _ _ hrecord => nomatch hrecord
  unfold enqueue
  refine Program.Safe.bind ?_
  cases checkDefinition definition with
  | error error => exact hfails error moments
  | ok checked =>
      refine Program.Safe.bind (Program.Safe.mono ?_ (settles_findActive definition.uniqueKey))
      rintro outcome found ⟨-, hfound⟩
      match outcome with
      | .error error => exact hfails error found
      | .ok (some existing) => exact answersActive_rowToRecord (hfound existing rfl)
      | .ok none =>
          refine Program.Safe.bind (Program.Safe.mono ?_ (settles_insertOrFindWinner
            (show (newRow id now.iso definition checked).state = .pending from rfl)))
          intro outcome inserted hinserted
          match outcome with
          | .error error => exact hfails error inserted
          | .ok (some winner) =>
              exact answersActive_rowToRecord fun key hkey => (hinserted key hkey).2 winner rfl
          | .ok none =>
              refine Program.Safe.bind (settles_select ?_ fun later error _ => hfails error later)
              intro later table hgrows _
              cases hrows : table.select fun row => row.id = id with
              | nil => exact hfails _ later
              | cons row rest =>
                  have hrow : row ∈ table.select fun row => row.id = id := by
                    rw [hrows]
                    exact List.mem_cons_self
                  have hid : row.id = id := of_decide_eq_true (Table.mem_select.mp hrow).2
                  refine answersActive_rowToRecord fun key hkey => ?_
                  rw [hid]
                  exact ((hinserted key hkey).1 rfl).later hgrows

end Enqueue

/-! ## Every run -/

/-- What is asked of a call: one which enqueues under a key answers a task of the key which
has been active since the call was made. -/
def ResolvesActive : Operation → Except Thrown QueueAnswer → List TaskTable → Prop
  | .enqueue _ _ definition, outcome, moments =>
      ∀ record, outcome = .ok (.enqueued record) → ∀ key, definition.uniqueKey = some key →
        ActiveAt key record.row.id moments
  | _, _, _ => True

theorem settles_operation (collation : Collation) (operation : Operation) (table : TaskTable) :
    Settles (ResolvesActive operation) (operation.program collation) [table] := by
  cases operation with
  | enqueue id now definition =>
      refine Program.Safe.bind (Program.Safe.mono ?_ (settles_enqueue id now definition))
      intro outcome moments hanswers
      match outcome with
      | .error error => exact fun record hrecord => nomatch hrecord
      | .ok record =>
          intro answered hanswered
          rw [← QueueAnswer.enqueued.inj (Except.ok.inj hanswered)]
          exact hanswers record rfl
  | claimNextBatch now readings limit taskTypes => exact settles_any _
  | markCompleted now taskId => exact settles_any _
  | markFailed now later random taskId error => exact settles_any _
  | cancel now taskId reason => exact settles_any _
  | recoverHangingTasks now timeoutMs => exact settles_any _
  | listByState organisationId state limit => exact settles_any _
  | findById taskId => exact settles_any _

theorem select_active_length_le (table : TaskTable) (key : String) :
    (table.select fun row => row.uniqueKey = some key && row.state.isActive).length ≤ 1 := by
  have hcondition : (fun row : TaskRow => row.uniqueKey = some key && row.state.isActive) =
      fun row => decide (activeKey row = some key) := by
    funext row
    unfold activeKey
    cases row.state.isActive <;> simp
  rw [hcondition]
  cases hrows : table.select fun row => activeKey row = some key with
  | nil => exact Nat.zero_le 1
  | cons row rest =>
      have hrow : row ∈ table.select fun row => activeKey row = some key := by
        rw [hrows]
        exact List.mem_cons_self
      obtain ⟨hmem, hkey⟩ := Table.mem_select.mp hrow
      rw [← hrows, Table.select_eq_singleton activeKey (by simp [taskIndexes]) hmem
        (of_decide_eq_true hkey)]
      exact le_rfl

/-- Whatever is in flight beside them, calls which enqueue under one key share its one
active task. -/
theorem enqueue_deduplicates {collation : Collation} {initial : TaskTable}
    {system : Watching Operation (DbCall TaskTable) Thrown QueueAnswer TaskTable}
    (hreaches : Watching.Reaches (fallible memoryConnection) (Operation.program collation)
      initial system) (key : String) :
    (system.state.select fun row =>
        row.uniqueKey = some key && row.state.isActive).length ≤ 1 ∧
      ∀ thread ∈ system.threads, ∀ id now definition,
        thread.label = .enqueue id now definition → definition.uniqueKey = some key →
        ∀ record, thread.program = .done (.ok (.enqueued record)) →
          ActiveAt key record.row.id thread.moments := by
  refine ⟨select_active_length_le system.state key, ?_⟩
  intro thread hthread id now definition hlabel hkey record hsettled
  have hpost := hreaches.settled (settles_operation collation) hthread hsettled
  rw [hlabel] at hpost
  exact hpost record rfl key hkey

/-! ### Two calls under one key -/

def nightlyExport : TaskDefinition where
  taskType := "export"
  uniqueKey := some "nightly"
  payload := .json .null
  organisationId := "org"
  correlationId := "c"

def enqueueNightly (id : String) : Operation :=
  .enqueue id ⟨1767225600000, ClockReading.inRange_newYear⟩ nightlyExport

def racedEnqueue : Watching Operation (DbCall TaskTable) Thrown QueueAnswer TaskTable :=
  [0, 1, 0, 1, 1].foldl (Watching.serve memoryConnection)
    ⟨Table.empty, [⟨enqueueNightly "a", [Table.empty], (enqueueNightly "a").program .codePoint⟩,
      ⟨enqueueNightly "b", [Table.empty], (enqueueNightly "b").program .codePoint⟩]⟩

theorem racedEnqueue_deduplicates :
    (racedEnqueue.state.select fun row =>
        row.uniqueKey = some "nightly" && row.state.isActive).length ≤ 1 ∧
      ∀ thread ∈ racedEnqueue.threads, ∀ id now definition,
        thread.label = .enqueue id now definition → definition.uniqueKey = some "nightly" →
        ∀ record, thread.program = .done (.ok (.enqueued record)) →
          ActiveAt "nightly" record.row.id thread.moments := by
  have hserve : ∀ {system : Watching Operation (DbCall TaskTable) Thrown QueueAnswer TaskTable},
      Watching.Reaches (fallible memoryConnection) (Operation.program .codePoint) Table.empty
        system → ∀ index, Watching.Reaches (fallible memoryConnection)
          (Operation.program .codePoint) Table.empty (system.serve memoryConnection index) :=
    fun hreaches => hreaches.serve fun _ _ _ => .inl rfl
  have hstart : Watching.Reaches (fallible memoryConnection) (Operation.program .codePoint)
      Table.empty ⟨Table.empty,
        [⟨enqueueNightly "a", [Table.empty], (enqueueNightly "a").program .codePoint⟩,
          ⟨enqueueNightly "b", [Table.empty], (enqueueNightly "b").program .codePoint⟩]⟩ :=
    (Relation.ReflTransGen.refl.tail (.start (enqueueNightly "b") _ _)).tail
      (.start (enqueueNightly "a") _ _)
  exact enqueue_deduplicates
    (hserve (hserve (hserve (hserve (hserve hstart 0) 1) 0) 1) 1) "nightly"

example : racedEnqueue.threads.map (fun thread =>
    match thread.program with
    | .done (.ok (.enqueued record)) => some record.row.id
    | _ => none) = [none, some "a"] := by
  decide

end TauriPlatform.TaskQueueService
