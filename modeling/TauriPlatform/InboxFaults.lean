import TauriPlatform.InboxPasses
import TauriPlatform.TableUpdates

/-!
# A pass in which writes fail

`applyPending` applies a row and writes its success within one `try`, whose `catch` writes
the failure.  A success which cannot be written is thus written as a failure.  A status which
cannot be written in the `catch` ends the pass.
-/

namespace TauriPlatform.InboxService

open Async Relational

/-- What fails in a pass: the calls of `applyFn`, and the writes by their texts and
parameters, which differ between any two writes of a pass. -/
structure PassFaults where
  outcome : InboxRecord → Except Thrown Unit
  write : (sql : String) → (params : List JsonValue) → Option Thrown

def faultyHandler (faults : PassFaults) : Program.Handler InboxCall Thrown ApplyHistory
  | _, .database (.execute statement), history =>
      match faults.write statement.sql statement.params with
      | some thrown => (.error thrown, history)
      | none => applyHandler faults.outcome (.database (.execute statement)) history
  | _, .database call, history => applyHandler faults.outcome (.database call) history
  | _, .apply record, history => applyHandler faults.outcome (.apply record) history

namespace PassFaults

variable (faults : PassFaults)

/-- The error with which the `try` of a round ends. -/
def roundError (now : ClockReading) (row : InboxRow) : Option Thrown :=
  match faults.outcome row with
  | .error thrown => some thrown
  | .ok _ =>
      faults.write (appliedStatement now.iso row.id).sql (appliedStatement now.iso row.id).params

/-- The error of the write in the `catch`. -/
def statusError (thrown : Thrown) (row : InboxRow) : Option Thrown :=
  faults.write (statusStatement (failedStatus thrown) row.id).sql
    (statusStatement (failedStatus thrown) row.id).params

/-- The `catch` of a round fails too. -/
def ends (now : ClockReading) (row : InboxRow) : Bool :=
  (faults.roundError now row).any fun thrown => (faults.statusError thrown row).isSome

def mischarges (now : ClockReading) (row : InboxRow) : Bool :=
  (faults.outcome row).isOk &&
    (faults.roundError now row).any fun thrown => (faults.statusError thrown row).isNone

def rounds : (Nat → ClockReading) → List InboxRow → List (ClockReading × InboxRow)
  | _, [] => []
  | readings, row :: rest =>
      (readings 0, row) ::
        if faults.ends (readings 0) row then []
        else rounds (fun round => readings (round + 1)) rest

def settle (now : ClockReading) (row : InboxRow) : InboxRow → InboxRow :=
  match faults.roundError now row with
  | none => applied now.iso
  | some thrown =>
      match faults.statusError thrown row with
      | none => withStatus (failedStatus thrown)
      | some _ => id

def updates (rounds : List (ClockReading × InboxRow)) :
    List (String × (InboxRow → InboxRow)) :=
  rounds.map fun round => (round.2.id, faults.settle round.1 round.2)

/-- The calls of `applyFn` in the rounds. -/
def attempts (rounds : List (ClockReading × InboxRow)) : List Attempt :=
  rounds.map fun round => ⟨round.2, (faults.outcome round.2).isOk⟩

end PassFaults

/-! ## Runs -/

section Runs

variable {faults : PassFaults}

theorem execute_run_faulty {statement : Statement InboxTable Unit} (history : ApplyHistory)
    (hfault : faults.write statement.sql statement.params = none) {later : InboxTable}
    {rowsAffected : Nat}
    (hrun : statement.run history.table =
      .ok { database := later, rows := [], rowsAffected := rowsAffected }) :
    ∃ held, (inboxExecutor.execute statement).run (faultyHandler faults) history =
      (.ok (), { history with table := later, held := held }) := by
  refine ⟨heldAfter history (.execute statement), ?_⟩
  simp only [inboxExecutor, Program.run_bind, Program.run_await, faultyHandler, hfault,
    applyHandler, memoryConnection, hrun, Program.run_pure]

theorem execute_run_fault {statement : Statement InboxTable Unit} {history : ApplyHistory}
    {thrown : Thrown} (hfault : faults.write statement.sql statement.params = some thrown) :
    (inboxExecutor.execute statement).run (faultyHandler faults) history =
      (.error thrown, history) := by
  simp only [inboxExecutor, Program.run_bind, Program.run_await, faultyHandler, hfault]

/-- The `catch` of a round, once its `try` has ended with an error. -/
theorem recover_run (thrown : Thrown) (counts : ApplyCounts) (row : InboxRow)
    (history : ApplyHistory) :
    ∃ answer later, (do
        inboxExecutor.execute (statusStatement (failedStatus thrown) row.id)
        pure (counts.countFailure thrown) :
          Program InboxCall Thrown ApplyCounts).run (faultyHandler faults) history =
      (answer, later) ∧ answer.isOk = (faults.statusError thrown row).isNone ∧
      later.attempts = history.attempts ∧
      later.table.rows = history.table.rows.map
        (Table.updateRow (fun other => other.id = row.id)
          (match faults.statusError thrown row with
            | none => withStatus (failedStatus thrown)
            | some _ => id)) := by
  cases hstatus : faults.statusError thrown row with
  | none =>
      obtain ⟨table, hrows, hstatement⟩ :=
        statusStatement_run (failedStatus thrown) row.id history.table
      obtain ⟨held, hwritten⟩ := execute_run_faulty history hstatus hstatement
      exact ⟨_, _, Program.run_bind_ok _ hwritten, rfl, rfl, hrows⟩
  | some error =>
      refine ⟨_, _, Program.run_bind_error _ (execute_run_fault hstatus), rfl, rfl, ?_⟩
      have hid : Table.updateRow (fun other : InboxRow => other.id = row.id) id = id := by
        funext other
        simp [Table.updateRow]
      rw [hid, List.map_id]

theorem applyRow_run_faulty (faults : PassFaults) (now : ClockReading) (counts : ApplyCounts)
    (row : InboxRow) (history : ApplyHistory) :
    ∃ answer later, (applyRow inboxExecutor awaitApply now counts row).run
        (faultyHandler faults) history = (answer, later) ∧
      answer.isOk = !faults.ends now row ∧
      later.attempts = history.attempts ++ faults.attempts [(now, row)] ∧
      later.table.rows = history.table.rows.map
        (Table.updateRow (fun other => other.id = row.id) (faults.settle now row)) := by
  let handed : ApplyHistory :=
    { history with attempts := history.attempts ++ faults.attempts [(now, row)] }
  have happly : (awaitApply row).run (faultyHandler faults) history =
      (faults.outcome row, handed) := rfl
  cases houtcome : faults.outcome row with
  | error thrown =>
      have hround : faults.roundError now row = some thrown := by
        rw [PassFaults.roundError, houtcome]
      rw [houtcome] at happly
      obtain ⟨answer, later, hrun, hanswer, hattempts, hrows⟩ :=
        recover_run thrown counts row handed
      refine ⟨answer, later, ?_, ?_, hattempts, ?_⟩
      · rw [applyRow, Program.run_tryCatch, Program.run_bind_error _ happly]
        exact hrun
      · rw [hanswer, PassFaults.ends, hround, Option.any_some]
        cases faults.statusError thrown row <;> rfl
      · rw [hrows, PassFaults.settle, hround]
  | ok applied =>
      rw [houtcome] at happly
      cases hwrite : faults.write (appliedStatement now.iso row.id).sql
          (appliedStatement now.iso row.id).params with
      | none =>
          have hround : faults.roundError now row = none := by
            rw [PassFaults.roundError, houtcome]
            exact hwrite
          obtain ⟨table, hrows, hstatement⟩ :=
            appliedStatement_run now.iso row.id history.table
          obtain ⟨held, hwritten⟩ := execute_run_faulty handed hwrite hstatement
          refine ⟨.ok { counts with applied := counts.applied + 1 },
            { handed with table := table, held := held }, ?_, ?_, ?_, ?_⟩
          · rw [applyRow, Program.run_tryCatch, Program.run_bind_ok _ happly,
              Program.run_bind_ok _ hwritten]
            rfl
          · rw [PassFaults.ends, hround]
            rfl
          · rfl
          · rw [PassFaults.settle, hround]
            exact hrows
      | some thrown =>
          have hround : faults.roundError now row = some thrown := by
            rw [PassFaults.roundError, houtcome]
            exact hwrite
          obtain ⟨answer, later, hrun, hanswer, hattempts, hrows⟩ :=
            recover_run thrown counts row handed
          refine ⟨answer, later, ?_, ?_, hattempts, ?_⟩
          · rw [applyRow, Program.run_tryCatch, Program.run_bind_ok _ happly,
              Program.run_bind_error _ (execute_run_fault hwrite)]
            exact hrun
          · rw [hanswer, PassFaults.ends, hround, Option.any_some]
            cases faults.statusError thrown row <;> rfl
          · rw [hrows, PassFaults.settle, hround]

theorem applyRows_run_faulty (faults : PassFaults) (readings : Nat → ClockReading)
    (counts : ApplyCounts) (rows : List InboxRow) (history : ApplyHistory) :
    ∃ answer later, (applyRows inboxExecutor awaitApply readings counts rows).run
        (faultyHandler faults) history = (answer, later) ∧
      later.attempts = history.attempts ++ faults.attempts (faults.rounds readings rows) ∧
      later.table.rows = Table.updateEach InboxRow.id
        (faults.updates (faults.rounds readings rows)) history.table.rows := by
  induction rows generalizing readings counts history with
  | nil => exact ⟨_, history, rfl, by simp [PassFaults.rounds, PassFaults.attempts], rfl⟩
  | cons row rest ih =>
      obtain ⟨answer, next, hrun, hanswer, hattempts, hrows⟩ :=
        applyRow_run_faulty faults (readings 0) counts row history
      rw [PassFaults.rounds]
      cases answer with
      | error thrown =>
          have hends : faults.ends (readings 0) row = true := Bool.not_inj hanswer.symm
          rw [if_pos hends]
          exact ⟨_, next, Program.run_bind_error _ hrun, hattempts, hrows⟩
      | ok counts' =>
          have hends : faults.ends (readings 0) row = false := Bool.not_inj hanswer.symm
          rw [if_neg (by simp [hends])]
          obtain ⟨last, later, hrest, hmore, hlater⟩ :=
            ih (fun round => readings (round + 1)) counts' next
          refine ⟨last, later, (Program.run_bind_ok _ hrun).trans hrest, ?_, ?_⟩
          · rw [hmore, hattempts]
            simp [PassFaults.attempts]
          · rw [hlater, hrows]
            rfl

theorem rounds_sublist (readings : Nat → ClockReading) (rows : List InboxRow) :
    ((faults.rounds readings rows).map Prod.snd).Sublist rows := by
  induction rows generalizing readings with
  | nil => exact List.nil_sublist _
  | cons row rest ih =>
      rw [PassFaults.rounds, List.map_cons]
      split
      · exact (List.nil_sublist rest).cons_cons row
      · exact (ih _).cons_cons row

end Runs

/-! ## What a pass records -/

def ApplyStatus.IsFailure (status : ApplyStatus) : Prop :=
  status = .failed ∨ status = .conflict

/-- A row is set to a failure only if `applyFn` has rejected for it, and not if it has
resolved. -/
structure Truthful (table : InboxTable) (later : ApplyHistory) : Prop where
  rejected : ∀ row ∈ table, ∀ new ∈ later.table, new.id = row.id →
    new.applyStatus ≠ row.applyStatus → ApplyStatus.IsFailure new.applyStatus →
      ⟨row, false⟩ ∈ later.attempts
  resolved : ∀ row, ⟨row, true⟩ ∈ later.attempts → ∀ new ∈ later.table, new.id = row.id →
    ¬ ApplyStatus.IsFailure new.applyStatus

theorem isFailure_failedStatus (thrown : Thrown) :
    ApplyStatus.IsFailure (failedStatus thrown) := by
  unfold failedStatus
  split
  · exact .inr rfl
  · exact .inl rfl

theorem settle_cases (faults : PassFaults) (now : ClockReading) (row : InboxRow) :
    ((faults.outcome row).isOk = true ∧ faults.settle now row row = applied now.iso row) ∨
      faults.settle now row row = row ∨
      ∃ thrown, faults.settle now row row = withStatus (failedStatus thrown) row ∧
        faults.mischarges now row = (faults.outcome row).isOk := by
  unfold PassFaults.settle PassFaults.mischarges
  cases hround : faults.roundError now row with
  | none =>
      have hok : (faults.outcome row).isOk = true := by
        unfold PassFaults.roundError at hround
        cases houtcome : faults.outcome row with
        | ok answer => rfl
        | error thrown =>
            rw [houtcome] at hround
            cases hround
      exact .inl ⟨hok, rfl⟩
  | some thrown =>
      cases hstatus : faults.statusError thrown row with
      | none => exact .inr (.inr ⟨thrown, by simp [hstatus], by simp [hstatus]⟩)
      | some error => exact .inr (.inl (by simp [hstatus]))

theorem settle_id (faults : PassFaults) (now : ClockReading) (row other : InboxRow) :
    (faults.settle now row other).id = other.id := by
  unfold PassFaults.settle
  cases faults.roundError now row with
  | none => rfl
  | some thrown => cases hstatus : faults.statusError thrown row <;> simp [hstatus, withStatus]

section Pass

variable {faults : PassFaults} {table : InboxTable} {readings : Nat → ClockReading}

theorem updates_keys (rounds : List (ClockReading × InboxRow)) :
    (faults.updates rounds).map Prod.fst = (rounds.map Prod.snd).map InboxRow.id := by
  simp [PassFaults.updates]

theorem nodup_updates (faults : PassFaults) (table : InboxTable)
    (readings : Nat → ClockReading) :
    ((faults.updates (faults.rounds readings (pendingRows table))).map Prod.fst).Nodup := by
  rw [updates_keys]
  exact (nodup_pendingRows_ids table).sublist ((rounds_sublist readings _).map _)

theorem applyPending_run_faulty (faults : PassFaults) (table : InboxTable)
    (readings : Nat → ClockReading) :
    ((passProgram readings).run (faultyHandler faults) (.of table)).2.attempts =
        faults.attempts (faults.rounds readings (pendingRows table)) ∧
      ((passProgram readings).run (faultyHandler faults) (.of table)).2.table.rows =
        table.rows.map (Table.updatedBy InboxRow.id
          (faults.updates (faults.rounds readings (pendingRows table)))) := by
  let read : ApplyHistory :=
    { ApplyHistory.of table with held := heldAfter (.of table) (.query pendingStatement) }
  have hread : (inboxExecutor.query pendingStatement).run (faultyHandler faults) (.of table) =
      (.ok (pendingRows table), read) := rfl
  obtain ⟨answer, later, hrun, hattempts, hrows⟩ :=
    applyRows_run_faulty faults readings { applied := 0, failed := 0, conflicts := 0 }
      (pendingRows table) read
  have hpass : (passProgram readings).run (faultyHandler faults) (.of table) = (answer, later) :=
    (Program.run_bind_ok _ hread).trans hrun
  rw [hpass]
  refine ⟨hattempts, ?_⟩
  rw [hrows, Table.updateEach_eq_map _ (nodup_updates faults table readings)]
  · rfl
  · intro update hupdate row
    obtain ⟨round, -, rfl⟩ := List.mem_map.mp hupdate
    exact settle_id faults round.1 round.2 row

variable {row : InboxRow}

theorem updatedBy_of_mem_later {new : InboxRow} (hrow : row ∈ table)
    (hnew : new ∈ ((passProgram readings).run (faultyHandler faults) (.of table)).2.table)
    (hid : new.id = row.id) :
    new = Table.updatedBy InboxRow.id
      (faults.updates (faults.rounds readings (pendingRows table))) row := by
  rw [Table.mem_def, (applyPending_run_faulty faults table readings).2] at hnew
  obtain ⟨old, hold, rfl⟩ := List.mem_map.mp hnew
  have hkept : (Table.updatedBy InboxRow.id
      (faults.updates (faults.rounds readings (pendingRows table))) old).id = old.id := by
    rcases Table.updatedBy_cases InboxRow.id
      (faults.updates (faults.rounds readings (pendingRows table))) old with hsame | hset
    · rw [hsame]
    · obtain ⟨set, hset, hnew⟩ := hset
      obtain ⟨round, -, heq⟩ := List.mem_map.mp hset
      have hsettle : faults.settle round.1 round.2 = set := congrArg Prod.snd heq
      rw [hnew, ← hsettle]
      exact settle_id faults round.1 round.2 old
  have hsame : old = row := Table.eq_of_key_eq (fun row : InboxRow => some row.id)
    (by simp [inboxIndexes]) hold hrow (congrArg some (hkept.symm.trans hid)) rfl
  rw [hsame]

variable {now : ClockReading}

theorem mem_table_of_mem_rounds (hround : (now, row) ∈ faults.rounds readings (pendingRows table)) :
    row ∈ table ∧ row.applyStatus = .pending := by
  apply pending_of_mem_pendingRows
  exact (rounds_sublist readings _).subset (List.mem_map.mpr ⟨(now, row), hround, rfl⟩)

theorem updatedBy_of_mem_rounds (hround : (now, row) ∈ faults.rounds readings (pendingRows table)) :
    Table.updatedBy InboxRow.id (faults.updates (faults.rounds readings (pendingRows table)))
      row = faults.settle now row row :=
  Table.updatedBy_of_mem (nodup_updates faults table readings)
    (List.mem_map.mpr ⟨(now, row), hround, rfl⟩)

theorem round_of_changed (hrow : row ∈ table) (hchanged : Table.updatedBy InboxRow.id
      (faults.updates (faults.rounds readings (pendingRows table))) row ≠ row) :
    ∃ now, (now, row) ∈ faults.rounds readings (pendingRows table) := by
  rcases Table.updatedBy_cases InboxRow.id
    (faults.updates (faults.rounds readings (pendingRows table))) row with hsame | hset
  · exact absurd hsame hchanged
  · obtain ⟨set, hset, -⟩ := hset
    obtain ⟨⟨now, reached⟩, hround, heq⟩ := List.mem_map.mp hset
    have hid : reached.id = row.id := congrArg Prod.fst heq
    have hsame : reached = row := Table.eq_of_key_eq (fun row : InboxRow => some row.id)
      (by simp [inboxIndexes]) (mem_table_of_mem_rounds hround).1 hrow (congrArg some hid) rfl
    rw [hsame] at hround
    exact ⟨now, hround⟩

theorem mem_attempts_iff {resolved : Bool} :
    ⟨row, resolved⟩ ∈
        ((passProgram readings).run (faultyHandler faults) (.of table)).2.attempts ↔
      ∃ now, (now, row) ∈ faults.rounds readings (pendingRows table) ∧
        (faults.outcome row).isOk = resolved := by
  rw [(applyPending_run_faulty faults table readings).1, PassFaults.attempts, List.mem_map]
  constructor
  · intro hattempt
    obtain ⟨⟨now, reached⟩, hround, heq⟩ := hattempt
    cases heq
    exact ⟨now, hround, rfl⟩
  · intro hround
    obtain ⟨now, hround, hresolved⟩ := hround
    exact ⟨(now, row), hround, by rw [hresolved]⟩

theorem truthful_of_not_mischarged
    (hrounds : ∀ round ∈ faults.rounds readings (pendingRows table),
      faults.mischarges round.1 round.2 = false) :
    Truthful table ((passProgram readings).run (faultyHandler faults) (.of table)).2 where
  rejected row hrow new hnew hid hchanged hfailure := by
    rw [updatedBy_of_mem_later hrow hnew hid] at hchanged hfailure
    obtain ⟨now, hround⟩ := round_of_changed hrow fun hsame =>
      hchanged (congrArg InboxRow.applyStatus hsame)
    rw [updatedBy_of_mem_rounds hround] at hchanged hfailure
    rw [mem_attempts_iff]
    refine ⟨now, hround, ?_⟩
    rcases settle_cases faults now row with happlied | hsame | hcharged
    · rw [happlied.2] at hfailure
      rcases hfailure with hfailed | hconflict
      · cases hfailed
      · cases hconflict
    · exact absurd (congrArg InboxRow.applyStatus hsame) hchanged
    · obtain ⟨thrown, -, hmischarges⟩ := hcharged
      rw [← hmischarges]
      exact hrounds (now, row) hround
  resolved row hattempt new hnew hid := by
    obtain ⟨now, hround, hok⟩ := mem_attempts_iff.mp hattempt
    obtain ⟨hrow, hpending⟩ := mem_table_of_mem_rounds hround
    rw [updatedBy_of_mem_later hrow hnew hid, updatedBy_of_mem_rounds hround]
    intro hfailure
    rcases settle_cases faults now row with happlied | hsame | hcharged
    · rw [happlied.2] at hfailure
      rcases hfailure with hfailed | hconflict
      · cases hfailed
      · cases hconflict
    · rw [hsame, ApplyStatus.IsFailure, hpending] at hfailure
      rcases hfailure with hfailed | hconflict
      · cases hfailed
      · cases hconflict
    · obtain ⟨thrown, -, hmischarges⟩ := hcharged
      rw [hok, hrounds (now, row) hround] at hmischarges
      cases hmischarges

theorem not_mischarged_of_truthful (htruthful :
      Truthful table ((passProgram readings).run (faultyHandler faults) (.of table)).2)
    (hround : (now, row) ∈ faults.rounds readings (pendingRows table)) :
    faults.mischarges now row = false := by
  by_contra hmischarges
  obtain ⟨hrow, -⟩ := mem_table_of_mem_rounds hround
  obtain ⟨hok, hcharged⟩ := Bool.and_eq_true_iff.mp (Bool.not_eq_false _ |>.mp hmischarges)
  obtain ⟨thrown, hthrown, hstatus⟩ := (Option.any_eq_true _ _).mp hcharged
  have hsettle : faults.settle now row row = withStatus (failedStatus thrown) row := by
    rw [PassFaults.settle, hthrown]
    simp [Option.isNone_iff_eq_none.mp hstatus]
  refine htruthful.resolved row (mem_attempts_iff.mpr ⟨now, hround, hok⟩)
    (faults.settle now row row) ?_ (settle_id faults now row row) ?_
  · rw [Table.mem_def, (applyPending_run_faulty faults table readings).2, List.mem_map]
    exact ⟨row, hrow, updatedBy_of_mem_rounds hround⟩
  · rw [hsettle]
    exact isFailure_failedStatus thrown

end Pass

/-- A pass records the outcomes of `applyFn` if it mischarges no row, and only then. -/
theorem applyPending_truthful_iff (faults : PassFaults) (table : InboxTable)
    (readings : Nat → ClockReading) :
    Truthful table ((passProgram readings).run (faultyHandler faults) (.of table)).2 ↔
      ∀ round ∈ faults.rounds readings (pendingRows table),
        faults.mischarges round.1 round.2 = false := by
  constructor
  · intro htruthful round hround
    exact not_mischarged_of_truthful htruthful hround
  · exact truthful_of_not_mischarged

/-- Every row is applied, and no row can be set to `APPLIED`. -/
def lockedOnce : PassFaults where
  outcome _ := .ok ()
  write sql _ :=
    if sql = (appliedStatement "" "").sql then
      some (.builtin "Error" "database is locked")
    else
      none

theorem applied_row_recorded_failed :
    ¬ ∀ (faults : PassFaults) (table : InboxTable) (readings : Nat → ClockReading),
      Truthful table ((passProgram readings).run (faultyHandler faults) (.of table)).2 := by
  intro htruthful
  have hrows : pendingRows (waitingTable "1_0_n" "2_0_n") =
      [waitingRow "op-1" "1_0_n", waitingRow "op-2" "2_0_n"] := by decide
  have hround : (⟨0, by decide⟩, waitingRow "op-1" "1_0_n") ∈
      lockedOnce.rounds (fun _ => ⟨0, by decide⟩)
        (pendingRows (waitingTable "1_0_n" "2_0_n")) := by
    rw [hrows]
    exact List.mem_cons_self
  have hfalse := not_mischarged_of_truthful
    (htruthful lockedOnce (waitingTable "1_0_n" "2_0_n") fun _ => ⟨0, by decide⟩) hround
  have hmischarges : lockedOnce.mischarges ⟨0, by decide⟩ (waitingRow "op-1" "1_0_n") = true := by
    simp [lockedOnce, PassFaults.mischarges, PassFaults.roundError, PassFaults.statusError,
      appliedStatement, statusStatement, updateById, Except.isOk, Except.toBool]
  rw [hmischarges] at hfalse
  cases hfalse

end TauriPlatform.InboxService
