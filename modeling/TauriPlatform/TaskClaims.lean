import TauriPlatform.TaskHolding
import TauriPlatform.ReadingRange

/-!
# Claims which race

Any number of calls of `claimNextBatch` are in flight on one table, each advancing one
statement at a time.  A call keeps the rows which its statements have moved from PENDING to
RUNNING, as they were before.
-/

namespace TauriPlatform.TaskQueueService

open Async Relational

/-! ## Calls in flight -/

structure ClaimCall where
  now : ClockReading
  limit : NumberValue
  taskTypes : List String
  moved : List TaskRow
  program : Program (DbCall TaskTable) Thrown (List TaskRecord)

def ClaimCall.made (collation : Collation) (now : ClockReading) (readings : Nat → ClockReading)
    (limit : NumberValue) (taskTypes : List String) : ClaimCall where
  now := now
  limit := limit
  taskTypes := taskTypes
  moved := []
  program := claimNextBatch (connectionExecutor TaskTable) collation now readings limit taskTypes

def movedRows (before after : TaskTable) : List TaskRow :=
  before.rows.filter fun row =>
    row.state = .pending && after.rows.any fun new => new.id = row.id && new.state = .running

def ClaimCall.continued (call : ClaimCall) (before after : TaskTable)
    (program : Program (DbCall TaskTable) Thrown (List TaskRecord)) : ClaimCall :=
  { call with moved := call.moved ++ movedRows before after, program := program }

structure Claiming where
  table : TaskTable
  calls : List ClaimCall

inductive ClaimStep (collation : Collation) : Claiming → Claiming → Prop
  | make (now : ClockReading) (readings : Nat → ClockReading) (limit : NumberValue)
      (taskTypes : List String) (table : TaskTable) (calls : List ClaimCall) :
      taskTypes ≠ [] →
      ClaimStep collation ⟨table, calls⟩
        ⟨table, calls ++ [.made collation now readings limit taskTypes]⟩
  | advance {β : Type} (request : DbCall TaskTable β)
      (rest : Except Thrown β → Program (DbCall TaskTable) Thrown (List TaskRecord))
      (call : ClaimCall) (before after : List ClaimCall) (table later : TaskTable)
      (answer : Except Thrown β) :
      call.program = .call request rest → memoryConnection request table = (answer, later) →
      ClaimStep collation ⟨table, before ++ call :: after⟩
        ⟨later, before ++ call.continued table later (rest answer) :: after⟩

def ClaimReaches (collation : Collation) (initial : TaskTable) (claiming : Claiming) : Prop :=
  Relation.ReflTransGen (ClaimStep collation) ⟨initial, []⟩ claiming

/-! ## The statements -/

section Statements

variable {table later : TaskTable} {row : TaskRow}

theorem mem_movedRows :
    row ∈ movedRows table later ↔ row ∈ table ∧ row.state = .pending ∧
      ∃ new ∈ later, new.id = row.id ∧ new.state = .running := by
  simp [movedRows, Table.mem_def]

theorem movedRows_update {condition : TaskRow → Bool} {set : TaskRow → TaskRow}
    (hlater : later.rows = table.rows.map (Table.updateRow condition set))
    (hid : ∀ row, (set row).id = row.id) :
    row ∈ movedRows table later ↔
      row ∈ table ∧ row.state = .pending ∧ condition row ∧ (set row).state = .running := by
  rw [mem_movedRows]
  constructor
  · rintro ⟨hrow, hpending, new, hnew, hnewId, hrunning⟩
    rw [Table.mem_def, hlater] at hnew
    obtain ⟨old, hold, rfl⟩ := List.mem_map.mp hnew
    unfold Table.updateRow at hnewId hrunning
    split_ifs at hnewId hrunning with hcondition
    · obtain rfl := eq_of_id_eq hold hrow ((hid old).symm.trans hnewId)
      exact ⟨hrow, hpending, hcondition, hrunning⟩
    · obtain rfl := eq_of_id_eq hold hrow hnewId
      rw [hpending] at hrunning
      cases hrunning
  · rintro ⟨hrow, hpending, hcondition, hrunning⟩
    refine ⟨hrow, hpending, set row, ?_, hid row, hrunning⟩
    rw [Table.mem_def, hlater]
    refine List.mem_map.mpr ⟨row, hrow, ?_⟩
    rw [Table.updateRow, if_pos hcondition]

theorem isDue_of_mem_dueIds {now : String} {taskTypes : List String} {limit : Nat}
    (hrow : row ∈ table) (hid : row.id ∈ dueIds table now taskTypes limit) :
    isDue now taskTypes row := by
  obtain ⟨due, hdue, hsame⟩ := List.mem_map.mp hid
  have hselected := Table.mem_orderBy.mp (List.mem_of_mem_take hdue)
  obtain ⟨hmem, hcondition⟩ := Table.mem_select.mp hselected
  rwa [eq_of_id_eq hrow hmem hsame.symm]

theorem ids_nodup (table : TaskTable) : (table.rows.map TaskRow.id).Nodup := by
  have hunique := table.unique (fun row => some row.id) (by simp [taskIndexes])
  rwa [List.filterMap_eq_map'] at hunique

structure Claims (now : String) (taskTypes : List String) (limit : Int)
    (table later : TaskTable) (rows : List TaskRow) : Prop where
  rows_eq : rows = (movedRows table later).map (claimed now)
  running : ∀ row ∈ movedRows table later, claimed now row ∈ later
  others : ∀ row ∈ table, row ∉ movedRows table later → row ∈ later
  pending : ∀ row ∈ later, row.state = .pending →
    row ∈ table ∧ row ∉ movedRows table later
  back : ∀ new ∈ later, new ∈ table ∨ ∃ row ∈ movedRows table later, new = claimed now row
  requested : ∀ row ∈ movedRows table later, taskTypes ≠ [] → row.taskType ∈ taskTypes
  limited : (movedRows table later).length ≤ limit.toNat

theorem claimStatement_claims (now : String) (taskTypes : List String) (limit : Int)
    (table : TaskTable) :
    ∃ result, (claimStatement now taskTypes limit).run table = .ok result ∧
      Claims now taskTypes limit table result.database result.rows := by
  have hkeys : ∀ row ∈ table, (row.id ∈ dueIds table now taskTypes limit.toNat &&
      row.state = .pending) → KeepsKeys row (claimed now row) := by
    intro row _ hcondition
    exact claimed_keepsKeys (by simpa using (Bool.and_eq_true_iff.mp hcondition).2)
  obtain ⟨later, hrun, hlater⟩ := updateStatement_run _ _ _
    (fun (table : TaskTable) row => row.id ∈ dueIds table now taskTypes limit.toNat &&
      row.state = .pending) (claimed now) (fun row => [row]) hkeys
  refine ⟨_, hrun, ?_⟩
  have hmoved : movedRows table later = table.select fun row =>
      row.id ∈ dueIds table now taskTypes limit.toNat && row.state = .pending := by
    refine List.filter_congr fun row hrow => ?_
    have hiff : row ∈ movedRows table later ↔ _ := movedRows_update hlater fun _ => rfl
    simp only [movedRows, List.mem_filter] at hiff
    have hmem : row ∈ table := hrow
    simp only [hmem, hrow, true_and] at hiff
    rw [Bool.eq_iff_iff, hiff]
    simp only [claimed, and_true, Bool.and_eq_true, decide_eq_true_eq]
    constructor
    · exact fun hboth => hboth.2
    · exact fun hboth => ⟨hboth.2, hboth⟩
  have hmem : ∀ row, row ∈ movedRows table later ↔ row ∈ table ∧
      row.id ∈ dueIds table now taskTypes limit.toNat ∧ row.state = .pending := by
    intro row
    rw [hmoved, Table.mem_select]
    simp
  constructor
  · dsimp only
    rw [hmoved, List.flatMap_singleton']
  · intro row hrow
    obtain ⟨htable, hid, hpending⟩ := (hmem row).mp hrow
    rw [Table.mem_def, hlater]
    refine List.mem_map.mpr ⟨row, htable, ?_⟩
    rw [Table.updateRow, if_pos (by simp [hid, hpending])]
  · intro row hrow hnot
    rw [Table.mem_def, hlater]
    refine List.mem_map.mpr ⟨row, hrow, ?_⟩
    rw [hmem] at hnot
    rw [Table.updateRow, if_neg]
    intro hcondition
    simp only [Bool.and_eq_true, decide_eq_true_eq] at hcondition
    exact hnot ⟨hrow, hcondition⟩
  · intro row hrow hpending
    rw [Table.mem_def, hlater] at hrow
    obtain ⟨old, hold, rfl⟩ := List.mem_map.mp hrow
    unfold Table.updateRow at hpending ⊢
    split_ifs at hpending ⊢ with hcondition
    · cases hpending
    · refine ⟨hold, fun hmoved => hcondition ?_⟩
      simpa using ((hmem old).mp hmoved).2
  · intro new hnew
    rw [Table.mem_def, hlater] at hnew
    obtain ⟨old, hold, rfl⟩ := List.mem_map.mp hnew
    unfold Table.updateRow
    split_ifs with hcondition
    · exact .inr ⟨old, (hmem old).mpr ⟨hold, by simpa using hcondition⟩, rfl⟩
    · exact .inl hold
  · intro row hrow htypes
    obtain ⟨htable, hid, -⟩ := (hmem row).mp hrow
    have hdue := isDue_of_mem_dueIds htable hid
    simp only [isDue, Bool.and_eq_true, Bool.or_eq_true, decide_eq_true_eq] at hdue
    exact hdue.2.resolve_left htypes
  · have hids : ((movedRows table later).map TaskRow.id).Nodup :=
      (ids_nodup table).sublist (List.filter_sublist.map _)
    have hsubset : (movedRows table later).map TaskRow.id ⊆
        dueIds table now taskTypes limit.toNat := by
      intro id hid
      obtain ⟨row, hrow, rfl⟩ := List.mem_map.mp hid
      exact ((hmem row).mp hrow).2.1
    have hlength := (hids.subperm hsubset).length_le
    rw [List.length_map] at hlength
    refine hlength.trans ?_
    rw [dueIds, List.length_map]
    exact List.length_take_le _ _

structure Quarantines (now : String) (row : TaskRow) (table later : TaskTable) : Prop where
  failed : quarantined now row ∈ later
  others : ∀ other ∈ table, other.id ≠ row.id → other ∈ later
  back : ∀ new ∈ later, new ∈ table ∨ new.state = .failed

theorem quarantineStatement_quarantines (now : String) (hrow : row ∈ table)
    (hrunning : row.state = .running) :
    ∃ result, (quarantineStatement now row.id).run table = .ok result ∧
      Quarantines now row table result.database := by
  obtain ⟨later, hrun, hlater⟩ := updateStatement_run
    "UPDATE core_background_tasks
             SET state = 'FAILED', failed_at = ?, last_error = ?, updated_at = ?
           WHERE id = ? AND state = 'RUNNING'"
    [.string now, .string "Task payload contains malformed JSON", .string now, .string row.id]
    ([] : List (Column Unit))
    (fun _ other => other.id = row.id && other.state = .running) (quarantined now)
    (fun _ => []) (fun other (_ : other ∈ table) _ => quarantined_keepsKeys now other)
  refine ⟨_, hrun, ?_⟩
  constructor
  · rw [Table.mem_def, hlater]
    refine List.mem_map.mpr ⟨row, hrow, ?_⟩
    rw [Table.updateRow, if_pos (by simp [hrunning])]
  · intro other hother hid
    rw [Table.mem_def, hlater]
    refine List.mem_map.mpr ⟨other, hother, ?_⟩
    rw [Table.updateRow, if_neg (by simp [hid])]
  · intro new hnew
    rw [Table.mem_def, hlater] at hnew
    obtain ⟨old, hold, rfl⟩ := List.mem_map.mp hnew
    unfold Table.updateRow
    split_ifs
    · exact .inr rfl
    · exact .inl hold

theorem Quarantines.movedRows_eq {now : String} (hquarantines : Quarantines now row table later) :
    movedRows table later = [] := by
  rw [List.eq_nil_iff_forall_not_mem]
  intro old hold
  obtain ⟨hmem, hpending, new, hnew, hid, hrunning⟩ := mem_movedRows.mp hold
  rcases hquarantines.back new hnew with hsame | hfailed
  · rw [eq_of_id_eq hsame hmem hid, hpending] at hrunning
    cases hrunning
  · rw [hfailed] at hrunning
    cases hrunning

end Statements

/-! ## What a call answers -/

def recordOf (row : TaskRow) : Option TaskRecord :=
  (parseJson? row.payloadJson).map (TaskRecord.mk row)

theorem rowToRecord_of_some {row : TaskRow} {record : TaskRecord}
    (hrecord : recordOf row = some record) : rowToRecord row = .ok record := by
  obtain ⟨payload, hpayload, rfl⟩ := Option.map_eq_some_iff.mp hrecord
  rw [rowToRecord, hpayload]

theorem rowToRecord_of_none {row : TaskRow} (hrecord : recordOf row = none) :
    ∃ error, rowToRecord row = .error error ∧ error.isDatabaseError := by
  rw [rowToRecord, Option.map_eq_none_iff.mp hrecord]
  exact ⟨_, rfl, rfl⟩

theorem row_of_recordOf {row : TaskRow} {record : TaskRecord}
    (hrecord : recordOf row = some record) : record.row = row := by
  obtain ⟨payload, -, rfl⟩ := Option.map_eq_some_iff.mp hrecord
  rfl

inductive Collects : List TaskRow → List TaskRecord →
    Program (DbCall TaskTable) Thrown (List TaskRecord) → Prop
  | answers (records : List TaskRecord) : Collects [] records (.done (.ok records))
  | takesOut (now : String) (row : TaskRow) (left : List TaskRow) (records : List TaskRecord)
      (rest : Except Thrown Nat → Program (DbCall TaskTable) Thrown (List TaskRecord)) :
      (∀ count, Collects left records (rest (.ok count))) →
      (∀ error, rest (.error error) = .done (.error error)) →
      Collects (row :: left) records (.call (.execute (quarantineStatement now row.id)) rest)

theorem Collects.cons {left : List TaskRow} {records : List TaskRecord}
    {program : Program (DbCall TaskTable) Thrown (List TaskRecord)}
    (hcollects : Collects left records program) (record : TaskRecord) :
    Collects left (record :: records)
      (program >>= fun records => pure (record :: records)) := by
  induction hcollects with
  | answers records => exact .answers _
  | takesOut now row left records rest _ herror ih =>
      refine .takesOut now row left _ _ ih fun error => ?_
      rw [herror]
      rfl

theorem collectClaimed_collects (readings : Nat → ClockReading) (rows : List TaskRow) :
    Collects (rows.filter fun row => (recordOf row).isNone) (rows.filterMap recordOf)
      (collectClaimed (connectionExecutor TaskTable) readings rows) := by
  induction rows generalizing readings with
  | nil => exact .answers []
  | cons row rest ih =>
      rw [collectClaimed]
      cases hrecord : recordOf row with
      | some record =>
          rw [rowToRecord_of_some hrecord, List.filterMap_cons_some hrecord,
            List.filter_cons_of_neg (by simp [hrecord])]
          exact (ih _).cons record
      | none =>
          obtain ⟨error, herror, hdatabase⟩ := rowToRecord_of_none hrecord
          rw [herror, List.filterMap_cons_none hrecord,
            List.filter_cons_of_pos (by simp [hrecord])]
          dsimp only
          rw [if_pos hdatabase]
          exact .takesOut _ row _ _ _ (fun count => ih _) fun _ => rfl

/-! ## How far a call is -/

structure ClaimCall.Collecting (table : TaskTable) (call : ClaimCall) (left : List TaskRow)
    (records : List TaskRecord) : Prop where
  collects : Collects left records call.program
  left_nodup : (left.map TaskRow.id).Nodup
  waiting : ∀ row ∈ left, row ∈ table ∧ row.state = .running ∧
    ∃ old ∈ call.moved, row = claimed call.now.iso old ∧ recordOf row = none
  returned : ∀ old ∈ call.moved, ∀ record, recordOf (claimed call.now.iso old) = some record →
    record ∈ records ∧ claimed call.now.iso old ∈ table
  takenOut : ∀ old ∈ call.moved, recordOf (claimed call.now.iso old) = none →
    claimed call.now.iso old ∈ left ∨
      ∃ failedAt, quarantined failedAt (claimed call.now.iso old) ∈ table
  only : ∀ record ∈ records, ∃ old ∈ call.moved,
    recordOf (claimed call.now.iso old) = some record
  limited : ∃ limit, call.limit.safeInteger? = some limit ∧
    (call.moved.length : Int) ≤ limit

structure ClaimCall.Idle (collation : Collation) (call : ClaimCall) : Prop where
  moved : call.moved = []
  program : (∃ readings, call.program = claimNextBatch (connectionExecutor TaskTable) collation
      call.now readings call.limit call.taskTypes) ∨ ∃ error, call.program = .done (.error error)

def ClaimCall.Sound (collation : Collation) (table : TaskTable) (call : ClaimCall) : Prop :=
  call.Idle collation ∨ ∃ left records, call.Collecting table left records

theorem ClaimCall.Sound.later {collation : Collation} {table later : TaskTable}
    {call : ClaimCall} (hsound : call.Sound collation table)
    (hkeeps : ∀ row ∈ table, row.state ≠ .pending → (∃ old ∈ call.moved, old.id = row.id) →
      row ∈ later) : call.Sound collation later := by
  rcases hsound with hidle | ⟨left, records, hcollecting⟩
  · exact .inl hidle
  · refine .inr ⟨left, records, { hcollecting with waiting := ?_, returned := ?_, takenOut := ?_ }⟩
    · intro row hrow
      obtain ⟨hmem, hrunning, old, hold, hrow, hrecord⟩ := hcollecting.waiting row hrow
      refine ⟨hkeeps row hmem (by simp [hrunning]) ⟨old, hold, ?_⟩, hrunning, old, hold, hrow,
        hrecord⟩
      rw [hrow]
      rfl
    · intro old hold record hrecord
      obtain ⟨hmem, hrow⟩ := hcollecting.returned old hold record hrecord
      exact ⟨hmem, hkeeps _ hrow (by simp [claimed]) ⟨old, hold, rfl⟩⟩
    · intro old hold hrecord
      refine (hcollecting.takenOut old hold hrecord).imp_right ?_
      intro ⟨failedAt, hrow⟩
      exact ⟨failedAt, hkeeps _ hrow (by simp [quarantined]) ⟨old, hold, rfl⟩⟩

/-! ## The invariant -/

structure Apportioned (collation : Collation) (initial : TaskTable) (claiming : Claiming) :
    Prop where
  once : ((claiming.calls.flatMap ClaimCall.moved).map TaskRow.id).Nodup
  eligible : ∀ call ∈ claiming.calls, ∀ row ∈ call.moved,
    row ∈ initial ∧ row.state = .pending ∧ row.taskType ∈ call.taskTypes
  every : ∀ row ∈ initial, row ∈ claiming.table ∨ row ∈ claiming.calls.flatMap ClaimCall.moved
  pending : ∀ row ∈ claiming.table, row.state = .pending →
    row ∈ initial ∧ row ∉ claiming.calls.flatMap ClaimCall.moved
  typed : ∀ call ∈ claiming.calls, call.taskTypes ≠ []
  calls : ∀ call ∈ claiming.calls, call.Sound collation claiming.table

section Invariant

variable {collation : Collation} {initial table later : TaskTable} {call : ClaimCall}
  {before after : List ClaimCall}

theorem Apportioned.initially (collation : Collation) (initial : TaskTable) :
    Apportioned collation initial ⟨initial, []⟩ where
  once := List.nodup_nil
  eligible _ hcall := nomatch hcall
  every _ hrow := .inl hrow
  pending _ hrow _ := ⟨hrow, List.not_mem_nil⟩
  typed _ hcall := nomatch hcall
  calls _ hcall := nomatch hcall

theorem Apportioned.hasMade {calls : List ClaimCall}
    (happortioned : Apportioned collation initial ⟨table, calls⟩) (now : ClockReading)
    (readings : Nat → ClockReading) (limit : NumberValue) {taskTypes : List String}
    (htypes : taskTypes ≠ []) :
    Apportioned collation initial
      ⟨table, calls ++ [.made collation now readings limit taskTypes]⟩ := by
  have hmoved : (calls ++ [ClaimCall.made collation now readings limit taskTypes]).flatMap
      ClaimCall.moved = calls.flatMap ClaimCall.moved := by
    simp [ClaimCall.made]
  have hcases : ∀ {call}, call ∈ calls ++ [ClaimCall.made collation now readings limit taskTypes] →
      call ∈ calls ∨ call = .made collation now readings limit taskTypes := by
    intro call hcall
    exact (List.mem_append.mp hcall).imp_right List.mem_singleton.mp
  constructor
  · rw [hmoved]
    exact happortioned.once
  · intro call hcall row hrow
    rcases hcases hcall with hold | rfl
    · exact happortioned.eligible call hold row hrow
    · cases hrow
  · rw [hmoved]
    exact happortioned.every
  · rw [hmoved]
    exact happortioned.pending
  · intro call hcall
    rcases hcases hcall with hold | rfl
    · exact happortioned.typed call hold
    · exact htypes
  · intro call hcall
    rcases hcases hcall with hold | rfl
    · exact happortioned.calls call hold
    · exact .inl ⟨rfl, .inl ⟨readings, rfl⟩⟩

theorem Apportioned.apart (happortioned : Apportioned collation initial
    ⟨table, before ++ call :: after⟩) {old row : TaskRow} (hold : old ∈ call.moved)
    {other : ClaimCall} (hother : other ∈ before ++ after) (hrow : row ∈ other.moved) :
    row.id ≠ old.id := by
  have honce := happortioned.once
  rw [List.flatMap_append, List.flatMap_cons, List.map_append, List.map_append] at honce
  intro hsame
  have hmem : old.id ∈ call.moved.map TaskRow.id := List.mem_map_of_mem hold
  have hdisjoint := List.nodup_append'.mp honce
  rcases List.mem_append.mp hother with hbefore | hafter
  · have hrowId : row.id ∈ (before.flatMap ClaimCall.moved).map TaskRow.id :=
      List.mem_map_of_mem (List.mem_flatMap.mpr ⟨other, hbefore, hrow⟩)
    exact hdisjoint.2.2 hrowId (List.mem_append_left _ (hsame ▸ hmem))
  · have hrowId : row.id ∈ (after.flatMap ClaimCall.moved).map TaskRow.id :=
      List.mem_map_of_mem (List.mem_flatMap.mpr ⟨other, hafter, hrow⟩)
    exact (List.nodup_append'.mp hdisjoint.2.1).2.2 (hsame ▸ hmem) hrowId

theorem Apportioned.moved_nodup (happortioned : Apportioned collation initial
    ⟨table, before ++ call :: after⟩) : (call.moved.map TaskRow.id).Nodup := by
  have honce := happortioned.once
  rw [List.flatMap_append, List.flatMap_cons, List.map_append, List.map_append] at honce
  exact (List.nodup_append'.mp (List.nodup_append'.mp honce).2.1).1

variable {program : Program (DbCall TaskTable) Thrown (List TaskRecord)}

theorem mem_moved_continued {row : TaskRow} :
    row ∈ (before ++ call.continued table later program :: after).flatMap ClaimCall.moved ↔
      row ∈ (before ++ call :: after).flatMap ClaimCall.moved ∨ row ∈ movedRows table later := by
  simp only [List.flatMap_append, List.flatMap_cons, List.mem_append, ClaimCall.continued]
  tauto

theorem Apportioned.advanced
    (happortioned : Apportioned collation initial ⟨table, before ++ call :: after⟩)
    (hrequested : ∀ row ∈ movedRows table later, row.taskType ∈ call.taskTypes)
    (hrows : ∀ row ∈ initial, row ∈ table → row ∈ later ∨
      row ∈ (before ++ call.continued table later program :: after).flatMap ClaimCall.moved)
    (hpending : ∀ row ∈ later, row.state = .pending →
      row ∈ table ∧ row ∉ movedRows table later) (hothers : ∀ row ∈ table, row.state ≠ .pending →
      (∃ other ∈ before ++ after, ∃ old ∈ other.moved, old.id = row.id) → row ∈ later)
    (hcall : (call.continued table later program).Sound collation later) :
    Apportioned collation initial
      ⟨later, before ++ call.continued table later program :: after⟩ := by
  have hnew : ∀ row ∈ movedRows table later, row ∈ initial ∧ row.state = .pending ∧
      row ∉ (before ++ call :: after).flatMap ClaimCall.moved := by
    intro row hrow
    obtain ⟨htable, hstate, -⟩ := mem_movedRows.mp hrow
    obtain ⟨hinitial, hunmoved⟩ := happortioned.pending row htable hstate
    exact ⟨hinitial, hstate, hunmoved⟩
  have hcases : ∀ {other}, other ∈ before ++ call.continued table later program :: after →
      other ∈ before ++ after ∨ other = call.continued table later program := by
    intro other hother
    simp only [List.mem_append, List.mem_cons] at hother ⊢
    tauto
  have hold : ∀ {other}, other ∈ before ++ after → other ∈ before ++ call :: after := by
    intro other hother
    simp only [List.mem_append, List.mem_cons] at hother ⊢
    tauto
  have hself : call ∈ before ++ call :: after :=
    List.mem_append_right _ List.mem_cons_self
  constructor
  · have hperm : ((before ++ call.continued table later program :: after).flatMap
        ClaimCall.moved).Perm
          (movedRows table later ++ (before ++ call :: after).flatMap ClaimCall.moved) := by
      simp only [List.flatMap_append, List.flatMap_cons, ClaimCall.continued, List.append_assoc]
      rw [← List.append_assoc, ← List.append_assoc (before.flatMap ClaimCall.moved)]
      exact List.perm_append_comm_assoc _ _ _
    rw [(hperm.map TaskRow.id).nodup_iff, List.map_append, List.nodup_append']
    refine ⟨(ids_nodup table).sublist (List.filter_sublist.map _), happortioned.once, ?_⟩
    intro id hleft hright
    obtain ⟨row, hrow, rfl⟩ := List.mem_map.mp hleft
    obtain ⟨other, hother, hid⟩ := List.mem_map.mp hright
    obtain ⟨hinitial, -, hunmoved⟩ := hnew row hrow
    obtain ⟨owner, howner, hmoved⟩ := List.mem_flatMap.mp hother
    have hotherInitial := (happortioned.eligible owner howner other hmoved).1
    exact hunmoved (eq_of_id_eq hotherInitial hinitial hid ▸ hother)
  · intro other hother row hrow
    rcases hcases hother with hmem | rfl
    · exact happortioned.eligible other (hold hmem) row hrow
    · rcases List.mem_append.mp hrow with hbefore | hmoved
      · exact happortioned.eligible call hself row hbefore
      · obtain ⟨hinitial, hstate, -⟩ := hnew row hmoved
        exact ⟨hinitial, hstate, hrequested row hmoved⟩
  · intro row hrow
    rcases happortioned.every row hrow with htable | hmoved
    · exact hrows row hrow htable
    · exact .inr (mem_moved_continued.mpr (.inl hmoved))
  · intro row hrow hstate
    obtain ⟨htable, hunmoved⟩ := hpending row hrow hstate
    obtain ⟨hinitial, hnot⟩ := happortioned.pending row htable hstate
    refine ⟨hinitial, fun hmem => ?_⟩
    rcases mem_moved_continued.mp hmem with hmoved | hmoved
    · exact hnot hmoved
    · exact hunmoved hmoved
  · intro other hother
    rcases hcases hother with hmem | rfl
    · exact happortioned.typed other (hold hmem)
    · exact happortioned.typed call hself
  · intro other hother
    rcases hcases hother with hmem | rfl
    · refine (happortioned.calls other (hold hmem)).later ?_
      intro row hrow hstate hid
      exact hothers row hrow hstate ⟨other, hmem, hid⟩
    · exact hcall

theorem Apportioned.hasClaimed {limit : Int} {rows sorted : List TaskRow}
    (happortioned : Apportioned collation initial ⟨table, before ++ call :: after⟩)
    (hmoved : call.moved = []) (hlimit : call.limit.safeInteger? = some limit)
    (hpositive : 0 < limit)
    (hclaims : Claims call.now.iso call.taskTypes limit table later rows)
    (hsorted : sorted.Perm rows) (readings : Nat → ClockReading) :
    Apportioned collation initial ⟨later, before ++ call.continued table later
      (collectClaimed (connectionExecutor TaskTable) readings sorted) :: after⟩ := by
  have hself : call ∈ before ++ call :: after :=
    List.mem_append_right _ List.mem_cons_self
  have hmem : ∀ {row}, row ∈ sorted ↔ ∃ old ∈ movedRows table later,
      claimed call.now.iso old = row := by
    intro row
    rw [hsorted.mem_iff, hclaims.rows_eq, List.mem_map]
  have hcontinued : ∀ program, (call.continued table later program).moved =
      movedRows table later := by
    intro program
    rw [ClaimCall.continued, hmoved]
    rfl
  refine happortioned.advanced
    (fun row hrow => hclaims.requested row hrow (happortioned.typed call hself)) ?_
    hclaims.pending ?_ ?_
  · intro row _ htable
    by_cases hrow : row ∈ movedRows table later
    · exact .inr (mem_moved_continued.mpr (.inr hrow))
    · exact .inl (hclaims.others row htable hrow)
  · intro row htable hstate _
    refine hclaims.others row htable fun hrow => hstate ?_
    exact (mem_movedRows.mp hrow).2.1
  · refine .inr ⟨_, _, collectClaimed_collects readings sorted, ?_, ?_, ?_, ?_, ?_, ?_⟩
    · have hids : (sorted.map TaskRow.id).Nodup := by
        rw [(hsorted.map TaskRow.id).nodup_iff, hclaims.rows_eq, List.map_map]
        exact (ids_nodup table).sublist (List.filter_sublist.map _)
      exact hids.sublist (List.filter_sublist.map _)
    · intro row hrow
      obtain ⟨hsortedRow, hnone⟩ := List.mem_filter.mp hrow
      obtain ⟨old, hold, rfl⟩ := hmem.mp hsortedRow
      refine ⟨hclaims.running old hold, rfl, old, ?_, rfl, Option.isNone_iff_eq_none.mp hnone⟩
      rw [hcontinued]
      exact hold
    · intro old hold record hrecord
      rw [hcontinued] at hold
      exact ⟨List.mem_filterMap.mpr ⟨_, hmem.mpr ⟨old, hold, rfl⟩, hrecord⟩,
        hclaims.running old hold⟩
    · intro old hold hrecord
      rw [hcontinued] at hold
      exact .inl (List.mem_filter.mpr ⟨hmem.mpr ⟨old, hold, rfl⟩, by
        rw [Option.isNone_iff_eq_none]
        exact hrecord⟩)
    · intro record hrecord
      obtain ⟨row, hrow, hrecordOf⟩ := List.mem_filterMap.mp hrecord
      obtain ⟨old, hold, rfl⟩ := hmem.mp hrow
      refine ⟨old, ?_, hrecordOf⟩
      rw [hcontinued]
      exact hold
    · refine ⟨limit, hlimit, ?_⟩
      rw [hcontinued]
      have hlength := hclaims.limited
      omega

theorem Apportioned.hasTakenOut {now : String} {row : TaskRow} {left : List TaskRow}
    {records : List TaskRecord}
    (happortioned : Apportioned collation initial ⟨table, before ++ call :: after⟩)
    (hcollecting : call.Collecting table (row :: left) records)
    (hcollects : Collects left records program) (hquarantines : Quarantines now row table later) :
    Apportioned collation initial
      ⟨later, before ++ call.continued table later program :: after⟩ := by
  have hnone := hquarantines.movedRows_eq
  have hself : call ∈ before ++ call :: after :=
    List.mem_append_right _ List.mem_cons_self
  obtain ⟨-, hrunning, source, hsource, hrow, hmalformed⟩ :=
    hcollecting.waiting row List.mem_cons_self
  have hid : row.id = source.id := by
    rw [hrow]
    rfl
  have hcontinued : (call.continued table later program).moved = call.moved := by
    rw [ClaimCall.continued, hnone]
    exact List.append_nil _
  -- the rows of the call itself, but for the one which is taken out
  have hkeeps : ∀ old ∈ call.moved, old ≠ source → ∀ other ∈ table, other.id = old.id →
      other ∈ later := by
    intro old hold hne other hother hotherId
    refine hquarantines.others other hother fun hsame => hne ?_
    refine List.inj_on_of_nodup_map happortioned.moved_nodup hold hsource ?_
    rw [← hotherId, hsame, hid]
  refine happortioned.advanced (fun other hother => ?_) ?_ ?_ ?_ ?_
  · rw [hnone] at hother
    cases hother
  · intro other hinitial htable
    by_cases hsame : other.id = row.id
    · refine .inr (mem_moved_continued.mpr (.inl ?_))
      have hsourceInitial := (happortioned.eligible call hself source hsource).1
      rw [eq_of_id_eq hinitial hsourceInitial (hsame.trans hid)]
      exact List.mem_flatMap.mpr ⟨call, hself, hsource⟩
    · exact .inl (hquarantines.others other htable hsame)
  · intro new hnew hstate
    rw [hnone]
    refine ⟨(hquarantines.back new hnew).resolve_right ?_, List.not_mem_nil⟩
    rw [hstate]
    exact fun hfailed => nomatch hfailed
  · intro other htable _ howned
    obtain ⟨owner, howner, old, hold, holdId⟩ := howned
    refine hquarantines.others other htable fun hsame => ?_
    exact happortioned.apart hsource howner hold (holdId.trans (hsame.trans hid))
  · have hleft := List.nodup_cons.mp hcollecting.left_nodup
    refine .inr ⟨left, records, hcollects, hleft.2, ?_, ?_, ?_, ?_, ?_⟩
    · intro other hother
      obtain ⟨htable, hotherRunning, old, hold, hotherRow, hotherRecord⟩ :=
        hcollecting.waiting other (List.mem_cons_of_mem _ hother)
      refine ⟨hquarantines.others other htable fun hsame => hleft.1 ?_, hotherRunning, old, ?_,
        hotherRow, hotherRecord⟩
      · exact hsame ▸ List.mem_map_of_mem hother
      · rw [hcontinued]
        exact hold
    · intro old hold record hrecord
      rw [hcontinued] at hold
      obtain ⟨hmem, htable⟩ := hcollecting.returned old hold record hrecord
      refine ⟨hmem, hkeeps old hold ?_ _ htable rfl⟩
      rintro rfl
      have hnotJson : recordOf (claimed call.now.iso old) = none :=
        hrow ▸ hmalformed
      cases hnotJson.symm.trans hrecord
    · intro old hold hrecord
      rw [hcontinued] at hold
      by_cases hsame : old = source
      · refine .inr ⟨now, ?_⟩
        rw [hsame]
        exact hrow ▸ hquarantines.failed
      · rcases hcollecting.takenOut old hold hrecord with hwaiting | ⟨failedAt, htable⟩
        · refine .inl ((List.mem_cons.mp hwaiting).resolve_left fun heq => hsame ?_)
          refine List.inj_on_of_nodup_map happortioned.moved_nodup hold hsource ?_
          rw [← hid, ← heq]
          rfl
        · exact .inr ⟨failedAt, hkeeps old hold hsame _ htable rfl⟩
    · intro record hrecord
      obtain ⟨old, hold, hrecordOf⟩ := hcollecting.only record hrecord
      refine ⟨old, ?_, hrecordOf⟩
      rw [hcontinued]
      exact hold
    · rw [hcontinued]
      exact hcollecting.limited

theorem Apportioned.step {claiming next : Claiming}
    (happortioned : Apportioned collation initial claiming)
    (hstep : ClaimStep collation claiming next) : Apportioned collation initial next := by
  cases hstep with
  | make now readings limit taskTypes table calls htypes =>
      exact happortioned.hasMade now readings limit htypes
  | advance request rest call before after table later answer hprogram hanswer =>
      have hself : call ∈ before ++ call :: after :=
        List.mem_append_right _ List.mem_cons_self
      rcases happortioned.calls call hself with hidle | ⟨left, records, hcollecting⟩
      · rcases hidle.program with ⟨readings, hwhole⟩ | ⟨error, herror⟩
        · rw [hwhole] at hprogram
          unfold claimNextBatch at hprogram
          cases hlimit : call.limit.safeInteger?.filter (0 < ·) with
          | none =>
              simp only [hlimit] at hprogram
              cases hprogram
          | some limit =>
              simp only [hlimit] at hprogram
              cases hprogram
              obtain ⟨hsafe, hpositive⟩ := Option.filter_eq_some_iff.mp hlimit
              obtain ⟨result, hrun, hclaims⟩ :=
                claimStatement_claims call.now.iso call.taskTypes limit table
              simp only [memoryConnection, hrun, Prod.mk.injEq] at hanswer
              obtain ⟨rfl, rfl⟩ := hanswer
              exact happortioned.hasClaimed hidle.moved hsafe (of_decide_eq_true hpositive)
                hclaims (List.perm_insertionSort _ _) readings
        · rw [herror] at hprogram
          cases hprogram
      · have hcollects := hcollecting.collects
        rw [hprogram] at hcollects
        cases hcollects with
        | takesOut now row left _ _ hrest _ =>
            obtain ⟨hrow, hrunning, -⟩ := hcollecting.waiting row List.mem_cons_self
            obtain ⟨result, hrun, hquarantines⟩ :=
              quarantineStatement_quarantines now hrow hrunning
            simp only [memoryConnection, hrun, Prod.mk.injEq] at hanswer
            obtain ⟨rfl, rfl⟩ := hanswer
            exact happortioned.hasTakenOut hcollecting (hrest _) hquarantines

end Invariant

/-! ## Claims partition the queue -/

structure ClaimCall.Answers (table : TaskTable) (call : ClaimCall) (records : List TaskRecord) :
    Prop where
  returned : ∀ row ∈ call.moved,
    (∃ record ∈ records, record.row = claimed call.now.iso row) ↔
      (parseJson? row.payloadJson).isSome
  failed : ∀ row ∈ call.moved, (∃ new ∈ table, new.id = row.id ∧ new.state = .failed) ↔
    parseJson? row.payloadJson = none
  only : ∀ record ∈ records, ∃ row ∈ call.moved, record.row = claimed call.now.iso row

structure Partitions (initial : TaskTable) (claiming : Claiming) : Prop where
  /-- No row is moved twice, by one call or by two. -/
  once : ((claiming.calls.flatMap ClaimCall.moved).map TaskRow.id).Nodup
  every : ∀ row ∈ initial, row ∈ claiming.table ∨
    ∃ call ∈ claiming.calls, row ∈ call.moved
  eligible : ∀ call ∈ claiming.calls, ∀ row ∈ call.moved,
    row ∈ initial ∧ row.state = .pending ∧ row.taskType ∈ call.taskTypes
  limited : ∀ call ∈ claiming.calls, call.moved ≠ [] →
    ∃ limit, call.limit.safeInteger? = some limit ∧ (call.moved.length : Int) ≤ limit
  settled : ∀ call ∈ claiming.calls, ∀ outcome, call.program = .done outcome →
    call.moved ≠ [] → ∃ records, outcome = .ok records ∧ call.Answers claiming.table records

theorem Apportioned.partitions {collation : Collation} {initial : TaskTable}
    {claiming : Claiming} (happortioned : Apportioned collation initial claiming) :
    Partitions initial claiming := by
  have hsound : ∀ call ∈ claiming.calls, call.moved ≠ [] →
      ∃ left records, call.Collecting claiming.table left records := by
    intro call hcall hmoved
    exact (happortioned.calls call hcall).resolve_left fun hidle => hmoved hidle.moved
  constructor
  · exact happortioned.once
  · intro row hrow
    exact (happortioned.every row hrow).imp_right List.mem_flatMap.mp
  · exact happortioned.eligible
  · intro call hcall hmoved
    obtain ⟨left, records, hcollecting⟩ := hsound call hcall hmoved
    exact hcollecting.limited
  · intro call hcall outcome hprogram hmoved
    obtain ⟨left, records, hcollecting⟩ := hsound call hcall hmoved
    have hcollects := hcollecting.collects
    rw [hprogram] at hcollects
    cases hcollects
    have hnone : ∀ row : TaskRow, recordOf (claimed call.now.iso row) = none ↔
        parseJson? row.payloadJson = none := fun row => Option.map_eq_none_iff
    refine ⟨records, rfl, ?_, ?_, ?_⟩
    · intro row hrow
      rw [Option.isSome_iff_ne_none, ne_eq, ← hnone]
      constructor
      · rintro ⟨record, hrecord, hsame⟩ hmalformed
        obtain ⟨old, -, hrecordOf⟩ := hcollecting.only record hrecord
        rw [← row_of_recordOf hrecordOf, hsame, hmalformed] at hrecordOf
        cases hrecordOf
      · intro hjson
        obtain ⟨record, hrecordOf⟩ := Option.ne_none_iff_exists'.mp hjson
        exact ⟨record, (hcollecting.returned row hrow record hrecordOf).1,
          row_of_recordOf hrecordOf⟩
    · intro row hrow
      rw [← hnone]
      constructor
      · rintro ⟨new, hnew, hid, hfailed⟩
        by_contra hjson
        obtain ⟨record, hrecordOf⟩ := Option.ne_none_iff_exists'.mp hjson
        have htable := (hcollecting.returned row hrow record hrecordOf).2
        rw [eq_of_id_eq hnew htable hid] at hfailed
        cases hfailed
      · intro hmalformed
        rcases hcollecting.takenOut row hrow hmalformed with hleft | ⟨failedAt, htable⟩
        · cases hleft
        · exact ⟨_, htable, rfl, rfl⟩
    · intro record hrecord
      obtain ⟨old, hold, hrecordOf⟩ := hcollecting.only record hrecord
      exact ⟨old, hold, row_of_recordOf hrecordOf⟩

/-- Calls which race move every row once, and answer or take out what they moved. -/
theorem claims_partition {collation : Collation} {initial : TaskTable} {claiming : Claiming}
    (hreaches : ClaimReaches collation initial claiming) : Partitions initial claiming := by
  have happortioned : Apportioned collation initial claiming := by
    induction hreaches with
    | refl => exact .initially collation initial
    | tail _ hstep ih => exact ih.step hstep
  exact happortioned.partitions

/-! ### Two workers -/

def Claiming.answer (claiming : Claiming) (index : Nat) : Claiming :=
  match claiming.calls.drop index with
  | [] => claiming
  | call :: after =>
      match call.program with
      | .done _ => claiming
      | .call request rest =>
          let (answer, later) := memoryConnection request claiming.table
          { table := later
            calls := claiming.calls.take index ++
              call.continued claiming.table later (rest answer) :: after }

theorem ClaimReaches.answer {collation : Collation} {initial : TaskTable} {claiming : Claiming}
    (hreaches : ClaimReaches collation initial claiming) (index : Nat) :
    ClaimReaches collation initial (claiming.answer index) := by
  unfold Claiming.answer
  split
  · exact hreaches
  · rename_i call after hdrop
    split
    · exact hreaches
    · rename_i β request rest hprogram
      have hsplit : claiming = ⟨claiming.table, claiming.calls.take index ++ call :: after⟩ := by
        rw [← hdrop, List.take_append_drop]
      rw [hsplit] at hreaches
      exact hreaches.tail (.advance request rest call _ after _ _ _ hprogram rfl)

def racedTask (id payloadJson : String) : TaskRow where
  id := id
  createdAt := "2026-01-01T00:00:00.000Z"
  updatedAt := "2026-01-01T00:00:00.000Z"
  taskType := "export"
  uniqueKey := none
  organisationId := "org"
  userId := none
  payloadJson := payloadJson
  state := .pending
  attemptCount := 0
  maxAttempts := 2
  retryDelayMs := .integer 0
  backoffMultiplier := .integer 1
  maxRetryDelayMs := .integer 0
  retryJitter := .integer 0
  scheduledAt := "2026-01-01T00:00:00.000Z"
  startedAt := none
  completedAt := none
  failedAt := none
  lastError := none
  timeoutMs := 30000
  correlationId := "c"

def racedTable : TaskTable where
  rows := [racedTask "t" "null", racedTask "u" "nul"]
  unique := by decide

def morning : ClockReading where
  millis := 1767225600000
  inRange := ClockReading.inRange_newYear

def raced : Claiming :=
  [1, 0, 1].foldl Claiming.answer
    ⟨racedTable, List.replicate 2
      (.made .codePoint morning (fun _ => morning) (.finite (.integer 10)) ["export"])⟩

theorem raced_partitions : Partitions racedTable raced := by
  have hmake : ∀ {calls}, ClaimReaches .codePoint racedTable ⟨racedTable, calls⟩ →
      ClaimReaches .codePoint racedTable ⟨racedTable, calls ++
        [.made .codePoint morning (fun _ => morning) (.finite (.integer 10)) ["export"]]⟩ :=
    fun hcalls => hcalls.tail (.make _ _ _ _ _ _ (by decide))
  exact claims_partition ((((hmake (hmake .refl)).answer 1).answer 0).answer 1)

example : raced.calls.map (fun call => call.moved.map TaskRow.id) = [[], ["t", "u"]] := by
  decide +kernel

end TauriPlatform.TaskQueueService
