import TauriPlatform.HlcText
import TauriPlatform.InboxService

/-!
# Applying the inbox

`InboxService.applyPending` hands the verified pending rows to a function of the
caller, in the order of their timestamp texts, and writes the outcome of each.
-/

namespace TauriPlatform

open Async Relational

namespace InboxService

/-! ## Statements -/

def isPendingVerified (row : InboxRow) : Bool :=
  row.applyStatus = .pending && row.verificationStatus = .verified

/-- The rows which a pass reads.  Texts are ordered by their bytes; rows of one text
stay in table order. -/
def pendingRows (table : InboxTable) : List InboxRow :=
  Table.orderBy (fun left right => left.logicalTimestamp ≤ right.logicalTimestamp)
    (table.select isPendingVerified)

def pendingStatement : Statement InboxTable InboxRow where
  sql := "SELECT * FROM core_sync_inbox
       WHERE apply_status = 'PENDING' AND verification_status = 'VERIFIED'
       ORDER BY logical_timestamp ASC"
  params := []
  columns := inboxColumns
  effect := .read pendingRows

/-- `UPDATE core_sync_inbox SET … WHERE id = ?`. -/
def updateById (sql : String) (params : List JsonValue) (id : String)
    (set : InboxRow → InboxRow) : Statement InboxTable Unit where
  sql := sql
  params := params ++ [.string id]
  columns := []
  effect := .write fun table =>
    match table.update? (fun row => row.id = id) set with
    | some later =>
        .ok {
          database := later
          rows := []
          rowsAffected := (table.select fun row => row.id = id).length }
    | none => .error "UNIQUE constraint failed: core_sync_inbox"

def applied (now : String) (row : InboxRow) : InboxRow :=
  { row with applyStatus := .applied, appliedAt := some now }

def appliedStatement (now id : String) : Statement InboxTable Unit :=
  updateById
    "UPDATE core_sync_inbox SET apply_status = 'APPLIED', applied_at = ? WHERE id = ?"
    [.string now] id (applied now)

def withStatus (status : ApplyStatus) (row : InboxRow) : InboxRow :=
  { row with applyStatus := status }

def statusStatement (status : ApplyStatus) (id : String) : Statement InboxTable Unit :=
  updateById "UPDATE core_sync_inbox SET apply_status = ? WHERE id = ?"
    [.string status.text] id (withStatus status)

/-! ## A pass -/

structure ApplyCounts where
  applied : Nat
  failed : Nat
  conflicts : Nat
  deriving DecidableEq

/-- `err instanceof Error && err.message.toLowerCase().includes("conflict")`. -/
def isConflict : Thrown → Bool
  | .value _ => false
  | thrown => "conflict".toList <:+: thrown.message.toList.map Char.toLower

def failedStatus (thrown : Thrown) : ApplyStatus :=
  if isConflict thrown then .conflict else .failed

def ApplyCounts.countFailure (counts : ApplyCounts) (thrown : Thrown) : ApplyCounts :=
  if isConflict thrown then { counts with conflicts := counts.conflicts + 1 }
  else { counts with failed := counts.failed + 1 }

section Operations

variable {Call : Type → Type 1} (executor : Executor InboxTable Call)
  (applyFn : InboxRecord → Program Call Thrown Unit)

/-- One round of the loop; `now` is the clock reading behind `applyFn`. -/
def applyRow (now : ClockReading) (counts : ApplyCounts) (row : InboxRow) :
    Program Call Thrown ApplyCounts :=
  tryCatch
    (do
      applyFn row
      executor.execute (appliedStatement now.iso row.id)
      pure { counts with applied := counts.applied + 1 })
    fun thrown => do
      executor.execute (statusStatement (failedStatus thrown) row.id)
      pure (counts.countFailure thrown)

/-- The loop over the rows which were read; `readings` are those of its rounds. -/
def applyRows : (Nat → ClockReading) → ApplyCounts → List InboxRow →
    Program Call Thrown ApplyCounts
  | _, counts, [] => pure counts
  | readings, counts, row :: rest => do
      let counts ← applyRow executor applyFn (readings 0) counts row
      applyRows (fun round => readings (round + 1)) counts rest

def applyPending (readings : Nat → ClockReading) : Program Call Thrown ApplyCounts := do
  let rows ← executor.query pendingStatement
  applyRows executor applyFn readings { applied := 0, failed := 0, conflicts := 0 } rows

end Operations

/-! ## What a pass calls -/

/-- The calls of a pass: those of its connection, and `applyFn`. -/
inductive InboxCall : Type → Type 1
  | database {α : Type} (call : DbCall InboxTable α) : InboxCall α
  | apply (record : InboxRecord) : InboxCall Unit

def inboxExecutor : Executor InboxTable InboxCall where
  query statement := Program.await (.database (.query statement))
  execute statement := do
    let _ ← Program.await (.database (.execute statement))
    pure ()
  executeCounting statement := do
    let rowsAffected ← Program.await (.database (.execute statement))
    pure (some rowsAffected)

def awaitApply (record : InboxRecord) : Program InboxCall Thrown Unit :=
  Program.await (.apply record)

/-- One call of `applyFn`, and whether it has resolved. -/
structure Attempt where
  record : InboxRecord
  resolved : Bool

/-- The inbox, and what passes have done with it: the rows which a pass has read and
whose status it has not written yet, by their ids, and the calls of `applyFn`. -/
structure ApplyHistory where
  table : InboxTable
  held : List String
  attempts : List Attempt

namespace ApplyHistory

def of (table : InboxTable) : ApplyHistory where
  table := table
  held := []
  attempts := []

def passed (history : ApplyHistory) : List InboxRecord :=
  history.attempts.map Attempt.record

/-- The records on which `applyFn` has resolved. -/
def resolved (history : ApplyHistory) : List InboxRecord :=
  (history.attempts.filter Attempt.resolved).map Attempt.record

end ApplyHistory

/-- What a pass holds after a call of its connection.  A status statement names its row in
the last parameter. -/
def heldAfter {α : Type} (history : ApplyHistory) : DbCall InboxTable α → List String
  | .query _ => history.held ++ (pendingRows history.table).map InboxRow.id
  | .execute statement =>
      match statement.params.getLast? with
      | some (.string id) => history.held.erase id
      | _ => history.held
  | .transaction _ => history.held

/-- Answers the calls of a pass, with `outcome` for those of `applyFn`. -/
def applyHandler (outcome : InboxRecord → Except Thrown Unit) :
    Program.Handler InboxCall Thrown ApplyHistory
  | _, .database call, history =>
      let (answer, later) := memoryConnection call history.table
      (answer, { history with table := later, held := heldAfter history call })
  | _, .apply record, history =>
      (outcome record, { history with
        attempts := history.attempts ++ [⟨record, (outcome record).isOk⟩] })

/-! ## One statement -/

theorem updateById_run {sql : String} {params : List JsonValue} {id : String}
    (set : InboxRow → InboxRow) (hid : ∀ row, (set row).id = row.id)
    (henvelope : ∀ row, (set row).envelopeId = row.envelopeId) (table : InboxTable) :
    ∃ later : InboxTable,
      later.rows = table.rows.map (Table.updateRow (fun row => row.id = id) set) ∧
      (updateById sql params id set).run table = .ok {
        database := later
        rows := []
        rowsAffected := (table.select fun row => row.id = id).length } := by
  have hupdate : (table.update? (fun row : InboxRow => row.id = id) set).isSome := by
    apply Table.update?_isSome
    intro index hindex row _ _
    simp only [inboxIndexes, List.mem_cons, List.not_mem_nil, or_false] at hindex
    cases hindex with
    | inl hfirst => simp [hfirst, hid]
    | inr hsecond => simp [hsecond, henvelope]
  obtain ⟨later, hlater⟩ := Option.isSome_iff_exists.mp hupdate
  refine ⟨later, Table.update?_eq_some_iff.mp hlater, ?_⟩
  simp [updateById, Statement.run, hlater]

theorem appliedStatement_run (now id : String) (table : InboxTable) :
    ∃ later : InboxTable,
      later.rows = table.rows.map (Table.updateRow (fun row => row.id = id) (applied now)) ∧
      (appliedStatement now id).run table = .ok {
        database := later
        rows := []
        rowsAffected := (table.select fun row => row.id = id).length } :=
  updateById_run (applied now) (fun _ => rfl) (fun _ => rfl) table

theorem statusStatement_run (status : ApplyStatus) (id : String) (table : InboxTable) :
    ∃ later : InboxTable,
      later.rows =
        table.rows.map (Table.updateRow (fun row => row.id = id) (withStatus status)) ∧
      (statusStatement status id).run table = .ok {
        database := later
        rows := []
        rowsAffected := (table.select fun row => row.id = id).length } :=
  updateById_run (withStatus status) (fun _ => rfl) (fun _ => rfl) table

/-! ## One round -/

def roundStatus : Except Thrown Unit → ApplyStatus
  | .ok _ => .applied
  | .error thrown => failedStatus thrown

def afterRound (now : ClockReading) (outcome : Except Thrown Unit) (row : InboxRow) : InboxRow :=
  match outcome with
  | .ok _ => applied now.iso row
  | .error thrown => withStatus (failedStatus thrown) row

theorem applyRow_run (outcome : InboxRecord → Except Thrown Unit) (now : ClockReading)
    (counts : ApplyCounts) (row : InboxRow) (history : ApplyHistory) :
    ∃ (counts' : ApplyCounts) (later : InboxTable),
      later.rows = history.table.rows.map
        (Table.updateRow (fun other => other.id = row.id) (afterRound now (outcome row))) ∧
      (applyRow inboxExecutor awaitApply now counts row).run (applyHandler outcome) history =
        (.ok counts', {
          table := later
          held := history.held.erase row.id
          attempts := history.attempts ++ [⟨row, (outcome row).isOk⟩] }) := by
  cases houtcome : outcome row with
  | ok answer =>
      obtain ⟨later, hrows, hrun⟩ := appliedStatement_run now.iso row.id history.table
      refine ⟨{ counts with applied := counts.applied + 1 }, later, hrows, ?_⟩
      simp only [applyRow, awaitApply, inboxExecutor, Program.run_tryCatch, Program.run_bind,
        Program.run_await, applyHandler, houtcome, memoryConnection, hrun, Program.run_pure]
      rfl
  | error thrown =>
      obtain ⟨later, hrows, hrun⟩ :=
        statusStatement_run (failedStatus thrown) row.id history.table
      refine ⟨counts.countFailure thrown, later, hrows, ?_⟩
      simp only [applyRow, awaitApply, inboxExecutor, Program.run_tryCatch, Program.run_bind,
        Program.run_await, applyHandler, houtcome, memoryConnection, hrun, Program.run_pure]
      rfl

end InboxService
end TauriPlatform
