import TauriPlatform.InboxPruning
import TauriPlatform.SqliteStatements
import Mathlib.Data.List.GetD

/-!
# Pruning a table in batches

A pruner counts the eligible rows of a table with one statement and deletes them in batches
with another.  The two conditions are written separately; where they agree, a run deletes what
was counted.
-/

namespace TauriPlatform

open SqliteText

structure PruningStatements where
  countSql : String
  deleteSql : String
  cutoffs : Nat

structure PruningMoment where
  aborted : Bool := false
  fault : Option Thrown := none
  scan : ScanOrder := .tableOrder

def PruningMoment.IsQuiet (moment : PruningMoment) : Prop :=
  moment.aborted = false ∧ moment.fault = none

namespace PruningStatements

/-! ## Statements -/

section Running

variable (interpretation : Interpretation) (statements : PruningStatements)

def cutoffParams (cutoff : ClockReading) : List Value :=
  List.replicate statements.cutoffs (.text cutoff.iso)

def sqlError (message : String) : Thrown :=
  .builtin "Error" message

def countEligible (cutoff : ClockReading) (database : Database) : Except Thrown Nat :=
  match parseCount (lex statements.countSql.toList) with
  | none => .error (sqlError "syntax error")
  | some statement =>
      (statement.run interpretation (statements.cutoffParams cutoff) database).mapError sqlError

/-- One batch: the database behind it and `rowsAffected`. -/
def deleteBatch (cutoff : ClockReading) (batchSize : Int) (scan : ScanOrder)
    (database : Database) : Except Thrown (Database × Nat) :=
  match parseDelete (lex statements.deleteSql.toList) with
  | none => .error (sqlError "syntax error")
  | some statement =>
      (statement.run interpretation (statements.cutoffParams cutoff ++ [.integer batchSize]) scan
        database).mapError sqlError

def execute (cutoff : ClockReading) (batchSize : Int) (moment : PruningMoment)
    (database : Database) : Except Thrown (Database × Nat) :=
  match moment.fault with
  | some thrown => .error thrown
  | none => statements.deleteBatch interpretation cutoff batchSize moment.scan database

/-- The loop of `prune`; without fuel it is still running. -/
def pruneRounds (cutoff : ClockReading) (batchSize : Int) (moments : Nat → PruningMoment) :
    (fuel round rowsPruned : Nat) → Database → Option (Except Thrown Nat × Database)
  | 0, _, _, _ => none
  | fuel + 1, round, rowsPruned, database =>
      if (moments round).aborted then some (.ok rowsPruned, database)
      else
        match statements.execute interpretation cutoff batchSize (moments round) database with
        | .error thrown => some (.error thrown, database)
        | .ok (later, rowsAffected) =>
            if rowsAffected = 0 then some (.ok rowsPruned, later)
            else if (rowsAffected : Int) < batchSize then
              some (.ok (rowsPruned + rowsAffected), later)
            else
              pruneRounds cutoff batchSize moments fuel (round + 1) (rowsPruned + rowsAffected)
                later

/-- `prune`, up to the rows it reports. -/
def prune (batchSize : NumberValue) (cutoffDate : Option ClockReading)
    (moments : Nat → PruningMoment) (fuel : Nat) (database : Database) :
    Option (Except Thrown Nat × Database) :=
  match SyncInboxPruner.validatePruningContext batchSize cutoffDate with
  | .error thrown => some (.error thrown, database)
  | .ok (batchSize, cutoff) =>
      statements.pruneRounds interpretation cutoff batchSize moments fuel 0 0 database

end Running

def Agree (statements : PruningStatements) : Prop :=
  parseDelete (lex statements.deleteSql.toList) =
    (parseCount (lex statements.countSql.toList)).map fun statement => {
      table := statement.table
      source := statement.table
      condition := statement.condition
      limit := statements.cutoffs }

end PruningStatements

/-! ## The pruners of the platform -/

structure TablePruner extends PruningStatements where
  id : String
  displayName : String
  description : String
  defaultRetentionDays : Nat

def syncOutboxPruner : TablePruner where
  id := "core.sync.outbox"
  displayName := "Sync Outbox Pruner"
  description :=
    "Prunes successfully dispatched sync envelopes (status = 'SENT') past retention cutoff"
  defaultRetentionDays := 14
  countSql := "
      SELECT COUNT(*) as count FROM core_sync_outbox
      WHERE status = 'SENT'
        AND (sent_at <= ? OR (sent_at IS NULL AND created_at <= ?))
    "
  deleteSql := "
      DELETE FROM core_sync_outbox
      WHERE rowid IN (
        SELECT rowid FROM core_sync_outbox
        WHERE status = 'SENT'
          AND (sent_at <= ? OR (sent_at IS NULL AND created_at <= ?))
        LIMIT ?
      )
    "
  cutoffs := 2

def backgroundTasksPruner : TablePruner where
  id := "core.tasks"
  displayName := "Background Tasks Pruner"
  description := "Prunes completed or cancelled background tasks past retention cutoff"
  defaultRetentionDays := 7
  countSql := "
      SELECT COUNT(*) as count FROM core_background_tasks
      WHERE state IN ('COMPLETED', 'CANCELLED')
        AND (completed_at <= ? OR (completed_at IS NULL AND updated_at <= ?))
    "
  deleteSql := "
      DELETE FROM core_background_tasks
      WHERE rowid IN (
        SELECT rowid FROM core_background_tasks
        WHERE state IN ('COMPLETED', 'CANCELLED')
          AND (completed_at <= ? OR (completed_at IS NULL AND updated_at <= ?))
        LIMIT ?
      )
    "
  cutoffs := 2

def replicatedTombstonePruner : TablePruner where
  id := "core.sync.tombstones"
  displayName := "Replicated Tombstone Pruner"
  description := "Prunes cluster-acknowledged soft-delete tombstones past retention cutoff"
  defaultRetentionDays := 30
  countSql := "
      SELECT COUNT(*) as count FROM core_sync_tombstones
      WHERE replicated_at IS NOT NULL
        AND replicated_at <= ?
    "
  deleteSql := "
      DELETE FROM core_sync_tombstones
      WHERE rowid IN (
        SELECT rowid FROM core_sync_tombstones
        WHERE replicated_at IS NOT NULL
          AND replicated_at <= ?
        LIMIT ?
      )
    "
  cutoffs := 1

def auditEventsPruner : TablePruner where
  id := "core.audit.events"
  displayName := "Audit Events Pruner"
  description := "Prunes operational audit records older than retention threshold"
  defaultRetentionDays := 90
  countSql := "
      SELECT COUNT(*) as count FROM core_audit_events
      WHERE timestamp <= ?
    "
  deleteSql := "
      DELETE FROM core_audit_events
      WHERE rowid IN (
        SELECT rowid FROM core_audit_events
        WHERE timestamp <= ?
        LIMIT ?
      )
    "
  cutoffs := 1

/-- The statement of the batch is the one which `SyncInboxPruner` runs on its table. -/
def syncInboxPruner : TablePruner where
  id := "core.sync.inbox"
  displayName := "Sync Inbox Pruner"
  description := "Prunes processed sync deduplication records " ++
    "(apply_status = 'APPLIED' or 'CONFLICT') past replay window"
  defaultRetentionDays := 30
  countSql := "
      SELECT COUNT(*) as count FROM core_sync_inbox
      WHERE apply_status IN ('APPLIED', 'CONFLICT')
        AND (applied_at <= ? OR (applied_at IS NULL AND created_at <= ?))
    "
  deleteSql := (SyncInboxPruner.deleteStatement "" 0).sql
  cutoffs := 2

/-! ### Their conditions -/

def columnAtMost (column : String) (parameter : Nat) : Expr :=
  .binary .le (.name column.toList) (.parameter parameter)

def columnIs (column literal : String) : Expr :=
  .binary .eq (.name column.toList) (.text literal.toList)

def atMostOrElse (first second : String) : Expr :=
  .binary .or (columnAtMost first 0)
    (.binary .and (.binary .is (.name first.toList) .null) (columnAtMost second 1))

section Conditions

variable {interpretation : Interpretation} {params : List Value} {row : Row}

theorem eval_column {column : String} {value : Value}
    (hcell : row.cell? column.toList = some value) :
    eval interpretation params row (.name column.toList) = value := by
  rw [eval, hcell]
  rfl

theorem holds_columnAtMost {column content text : String} {parameter : Nat}
    (hcell : row.cell? column.toList = some (.text content))
    (hparameter : params.getD parameter .null = .text text) :
    holds interpretation params row (columnAtMost column parameter) ↔ content ≤ text := by
  have hright : eval interpretation params row (.parameter parameter) = .text text := by
    rw [eval, hparameter]
  rw [columnAtMost, holds_compare (eval_column hcell) hright rfl, decide_eq_true_eq]

end Conditions

/-! A text is read much faster as the list of its characters. -/

set_option maxRecDepth 4000 in
theorem syncOutboxPruner_parses : parseCount (lex syncOutboxPruner.countSql.toList) =
      some ⟨"core_sync_outbox".toList, .binary .and (columnIs "status" "'SENT'")
        (atMostOrElse "sent_at" "created_at")⟩ ∧
    syncOutboxPruner.Agree := by
  have hcount : syncOutboxPruner.countSql.toList = _ := String.toList_ofList
  have hdelete : syncOutboxPruner.deleteSql.toList = _ := String.toList_ofList
  rw [PruningStatements.Agree, and_congr_right fun hparse => by rw [hparse], hcount, hdelete]
  constructor
  · decide
  · decide

set_option maxRecDepth 4000 in
theorem backgroundTasksPruner_parses : parseCount (lex backgroundTasksPruner.countSql.toList) =
      some ⟨"core_background_tasks".toList,
        .binary .and (.binary .or (columnIs "state" "'COMPLETED'") (columnIs "state" "'CANCELLED'"))
          (atMostOrElse "completed_at" "updated_at")⟩ ∧
    backgroundTasksPruner.Agree := by
  have hcount : backgroundTasksPruner.countSql.toList = _ := String.toList_ofList
  have hdelete : backgroundTasksPruner.deleteSql.toList = _ := String.toList_ofList
  rw [PruningStatements.Agree, and_congr_right fun hparse => by rw [hparse], hcount, hdelete]
  constructor
  · decide
  · decide

set_option maxRecDepth 4000 in
theorem replicatedTombstonePruner_parses : parseCount (lex replicatedTombstonePruner.countSql.toList) =
      some ⟨"core_sync_tombstones".toList,
        .binary .and (.binary .isNot (.name "replicated_at".toList) .null)
          (columnAtMost "replicated_at" 0)⟩ ∧
    replicatedTombstonePruner.Agree := by
  have hcount : replicatedTombstonePruner.countSql.toList = _ := String.toList_ofList
  have hdelete : replicatedTombstonePruner.deleteSql.toList = _ := String.toList_ofList
  rw [PruningStatements.Agree, and_congr_right fun hparse => by rw [hparse], hcount, hdelete]
  constructor
  · decide
  · decide

set_option maxRecDepth 4000 in
theorem auditEventsPruner_parses : parseCount (lex auditEventsPruner.countSql.toList) =
      some ⟨"core_audit_events".toList, columnAtMost "timestamp" 0⟩ ∧
    auditEventsPruner.Agree := by
  have hcount : auditEventsPruner.countSql.toList = _ := String.toList_ofList
  have hdelete : auditEventsPruner.deleteSql.toList = _ := String.toList_ofList
  rw [PruningStatements.Agree, and_congr_right fun hparse => by rw [hparse], hcount, hdelete]
  constructor
  · decide
  · decide

/-! ## Runs -/

namespace PruningStatements

section Rounds

variable {interpretation : Interpretation} {statements : PruningStatements}
  {cutoff : ClockReading} {batchSize : Nat} {moments : Nat → PruningMoment}
  {database : Database} {statement : CountStatement} {table : Table}

/-- The rows which `countEligible` counts. -/
def isEligible (interpretation : Interpretation) (statements : PruningStatements)
    (cutoff : ClockReading) (statement : CountStatement) (row : Row) : Bool :=
  holds interpretation (statements.cutoffParams cutoff) row statement.condition

theorem condition_below (hagree : statements.Agree)
    (hcount : parseCount (lex statements.countSql.toList) = some statement) :
    statement.condition.Below statements.cutoffs := by
  have hdelete := hagree
  rw [Agree, hcount] at hdelete
  exact parseDelete_below hdelete

theorem holds_batch (hagree : statements.Agree)
    (hcount : parseCount (lex statements.countSql.toList) = some statement) (row : Row) :
    holds interpretation (statements.cutoffParams cutoff ++ [.integer batchSize]) row
        statement.condition =
      isEligible interpretation statements cutoff statement row := by
  refine holds_congr (condition_below hagree hcount) fun index hindex => ?_
  exact List.getD_append _ _ _ _ (by simpa [cutoffParams] using hindex)

theorem deleteBatch_eq (hagree : statements.Agree)
    (hcount : parseCount (lex statements.countSql.toList) = some statement)
    (hresolve : resolve interpretation database statement.table statement.condition = .ok table)
    (scan : ScanOrder) :
    statements.deleteBatch interpretation cutoff batchSize scan database =
      let chosen := table.chosen scan (isEligible interpretation statements cutoff statement)
        batchSize
      .ok (database.update statement.table fun table => table.without (chosen.map Row.rowid),
        chosen.length) := by
  have hdelete := hagree
  rw [Agree, hcount] at hdelete
  have hlimit : (statements.cutoffParams cutoff ++ [Value.integer batchSize]).getD
      statements.cutoffs .null = .integer batchSize := by
    rw [List.getD_append_right _ _ _ _ (by simp [cutoffParams])]
    simp [cutoffParams]
  have hholds : (fun row => holds interpretation
      (statements.cutoffParams cutoff ++ [.integer batchSize]) row statement.condition) =
      isEligible interpretation statements cutoff statement :=
    funext fun row => holds_batch hagree hcount row
  rw [deleteBatch, hdelete]
  simp only [Option.map_some]
  rw [BatchDelete.run_eq rfl hresolve hlimit, hholds]
  rfl

theorem deleteBatch_error (hagree : statements.Agree)
    (hcount : parseCount (lex statements.countSql.toList) = some statement) {message : String}
    (hresolve : resolve interpretation database statement.table statement.condition =
      .error message) (scan : ScanOrder) :
    statements.deleteBatch interpretation cutoff batchSize scan database =
      .error (sqlError message) := by
  have hdelete := hagree
  rw [Agree, hcount] at hdelete
  rw [deleteBatch, hdelete]
  simp only [Option.map_some]
  rw [BatchDelete.run_error rfl hresolve]
  rfl

theorem execute_of_quiet {moment : PruningMoment} (hquiet : moment.IsQuiet) :
    statements.execute interpretation cutoff batchSize moment database =
      statements.deleteBatch interpretation cutoff batchSize moment.scan database := by
  rw [execute, hquiet.2]

theorem pruneRounds_eq (hagree : statements.Agree)
    (hcount : parseCount (lex statements.countSql.toList) = some statement)
    (hsize : 0 < batchSize) (hquiet : ∀ round, (moments round).IsQuiet) {fuel : Nat}
    (round rowsPruned : Nat)
    (hresolve : resolve interpretation database statement.table statement.condition = .ok table)
    (hfuel : (table.rows.filter (isEligible interpretation statements cutoff statement)).length <
      fuel) :
    statements.pruneRounds interpretation cutoff batchSize moments fuel round rowsPruned database =
      some (.ok (rowsPruned +
          (table.rows.filter (isEligible interpretation statements cutoff statement)).length),
        database.update statement.table fun table =>
          table.spare (isEligible interpretation statements cutoff statement)) := by
  induction fuel generalizing round rowsPruned database table with
  | zero => exact absurd hfuel (Nat.not_lt_zero _)
  | succ fuel ih =>
      have hfind := find?_of_resolve hresolve
      have hbatch := @deleteBatch_eq interpretation statements cutoff batchSize database statement
        table hagree hcount hresolve (moments round).scan
      have hrunning : ¬ (moments round).aborted = true := by
        rw [(hquiet round).1]
        decide
      rw [pruneRounds, if_neg hrunning, execute_of_quiet (hquiet round), hbatch]
      dsimp only
      generalize isEligible interpretation statements cutoff statement = eligible at *
      generalize (moments round).scan = scan
      have hlength : (table.chosen scan eligible batchSize).length =
        min batchSize (table.rows.filter eligible).length := Table.length_chosen
      have hroom : (table.rows.filter eligible).length ≤ batchSize →
          (database.update statement.table fun other =>
              other.without ((table.chosen scan eligible batchSize).map Row.rowid)) =
            database.update statement.table fun other => other.spare eligible := by
        intro hroom
        exact Database.update_congr hfind (Table.without_chosen_eq_spare hroom)
      by_cases hnone : (table.chosen scan eligible batchSize).length = 0
      · have hzero : (table.rows.filter eligible).length = 0 := by omega
        rw [if_pos hnone, hroom (by omega), hzero, Nat.add_zero]
      · rw [if_neg hnone]
        by_cases hshort : ((table.chosen scan eligible batchSize).length : Int) < batchSize
        · have hall : (table.chosen scan eligible batchSize).length =
              (table.rows.filter eligible).length := by omega
          rw [if_pos hshort, hroom (by omega), hall]
        · -- A full batch: the rest is eligible, spared and reported as it was before.
          let batch : Table → Table := fun other =>
            other.without ((table.chosen scan eligible batchSize).map Row.rowid)
          have hleft : ((batch table).rows.filter eligible).length +
              (table.chosen scan eligible batchSize).length =
              (table.rows.filter eligible).length := Table.length_filter_without_chosen
          have hname : ∀ other, (batch other).name = other.name := fun _ => rfl
          have hlater := @resolve_update interpretation database _ _ table batch rfl rfl hresolve
          have hrest : (database.update statement.table batch).update statement.table
              (fun other => other.spare eligible) =
              database.update statement.table fun other => other.spare eligible := by
            rw [Database.update_update hname]
            exact Database.update_congr hfind Table.spare_without_chosen
          rw [if_neg hshort, ih _ _ hlater (by omega), hrest, ← hleft, add_assoc,
            Nat.add_comm (table.chosen scan eligible batchSize).length]

theorem pruneRounds_spares (hagree : statements.Agree)
    (hcount : parseCount (lex statements.countSql.toList) = some statement) {fuel : Nat}
    {round rowsPruned : Nat} {outcome : Except Thrown Nat} {later : Database}
    (hresolve : resolve interpretation database statement.table statement.condition = .ok table)
    (hrun : statements.pruneRounds interpretation cutoff batchSize moments fuel round rowsPruned
      database = some (outcome, later)) :
    ∃ last, resolve interpretation later statement.table statement.condition = .ok last ∧
      ∀ row ∈ table.rows, isEligible interpretation statements cutoff statement row = false →
        row ∈ last.rows := by
  induction fuel generalizing round rowsPruned database table with
  | zero => cases hrun
  | succ fuel ih =>
      rw [pruneRounds] at hrun
      split_ifs at hrun with haborted
      · cases hrun
        exact ⟨table, hresolve, fun row hrow _ => hrow⟩
      · cases hfault : (moments round).fault with
        | some thrown =>
            rw [execute, hfault] at hrun
            cases hrun
            exact ⟨table, hresolve, fun row hrow _ => hrow⟩
        | none =>
            have hquiet : (moments round).IsQuiet :=
              ⟨Bool.eq_false_iff.mpr haborted, hfault⟩
            rw [execute_of_quiet hquiet, deleteBatch_eq hagree hcount hresolve] at hrun
            dsimp only at hrun
            let batch : Table → Table := fun other =>
              other.without ((table.chosen (moments round).scan
                (isEligible interpretation statements cutoff statement) batchSize).map Row.rowid)
            have hbatch := @resolve_update interpretation database _ _ table batch rfl rfl hresolve
            have hspared : ∀ row ∈ table.rows,
                isEligible interpretation statements cutoff statement row = false →
                  row ∈ (batch table).rows := by
              intro row hrow hnot
              refine List.mem_filter.mpr ⟨hrow, ?_⟩
              rw [decide_eq_true_eq, List.mem_map]
              rintro ⟨other, hother, hsame⟩
              have hchosen := List.mem_filter.mp (List.mem_of_mem_take hother)
              have hmem := ((moments round).scan.perm table.rows).mem_iff.mp hchosen.1
              rw [List.inj_on_of_nodup_map table.distinct hmem hrow hsame] at hchosen
              rw [hchosen.2] at hnot
              cases hnot
            split_ifs at hrun with hnone hshort
            · cases hrun
              exact ⟨_, hbatch, hspared⟩
            · cases hrun
              exact ⟨_, hbatch, hspared⟩
            · obtain ⟨last, hlast, hkept⟩ := ih hbatch hrun
              exact ⟨last, hlast, fun row hrow hnot => hkept row (hspared row hrow hnot) hnot⟩

/-! ### What is reported -/

theorem rowCount_execute {cutoff : ClockReading} {batchSize : Int} {moment : PruningMoment}
    {database later : Database} {rowsAffected : Nat}
    (hexecute : statements.execute interpretation cutoff batchSize moment database =
      .ok (later, rowsAffected)) : later.rowCount + rowsAffected = database.rowCount := by
  unfold execute at hexecute
  split at hexecute
  · cases hexecute
  · unfold deleteBatch at hexecute
    split at hexecute
    · cases hexecute
    · rename_i statement hparse
      cases hrun : statement.run interpretation
          (statements.cutoffParams cutoff ++ [.integer batchSize]) moment.scan database with
      | error message =>
          rw [hrun] at hexecute
          cases hexecute
      | ok result =>
          rw [hrun] at hexecute
          cases hexecute
          exact BatchDelete.rowCount_run hrun

theorem pruneRounds_accounts {cutoff : ClockReading} {batchSize : Int} (hsize : 0 < batchSize)
    (moments : Nat → PruningMoment) {fuel : Nat} (round rowsPruned : Nat) {database : Database}
    (hfuel : database.rowCount < fuel) :
    ∃ outcome later, statements.pruneRounds interpretation cutoff batchSize moments fuel round
        rowsPruned database = some (outcome, later) ∧
      later.rowCount ≤ database.rowCount ∧
      ∀ rows, outcome = .ok rows → later.rowCount + rows = database.rowCount + rowsPruned := by
  induction fuel generalizing round rowsPruned database with
  | zero => exact absurd hfuel (Nat.not_lt_zero _)
  | succ fuel ih =>
      rw [pruneRounds]
      split_ifs with haborted
      · refine ⟨_, _, rfl, le_rfl, fun rows hrows => ?_⟩
        cases hrows
        rfl
      · cases hexecute : statements.execute interpretation cutoff batchSize (moments round)
            database with
        | error thrown =>
            refine ⟨_, _, rfl, le_rfl, fun rows hrows => ?_⟩
            cases hrows
        | ok result =>
            obtain ⟨later, rowsAffected⟩ := result
            have hcount := rowCount_execute hexecute
            dsimp only
            split_ifs with hnone hshort
            · refine ⟨_, _, rfl, by omega, fun rows hrows => ?_⟩
              cases hrows
              omega
            · refine ⟨_, _, rfl, by omega, fun rows hrows => ?_⟩
              cases hrows
              omega
            · -- A full batch has deleted rows, so that fewer are left.
              have hfewer : later.rowCount < fuel := by omega
              obtain ⟨outcome, last, hrest, hle, hrows⟩ :=
                ih (round + 1) (rowsPruned + rowsAffected) hfewer
              refine ⟨outcome, last, hrest, by omega, fun rows houtcome => ?_⟩
              have hlast := hrows rows houtcome
              omega

theorem validatePruningContext_ok {batchSize : NumberValue} {cutoffDate : Option ClockReading}
    {context : Int × ClockReading}
    (hvalid : SyncInboxPruner.validatePruningContext batchSize cutoffDate = .ok context) :
    0 < context.1 ∧ cutoffDate = some context.2 := by
  unfold SyncInboxPruner.validatePruningContext at hvalid
  split at hvalid
  · cases hvalid
  · cases hvalid
  · rename_i size cutoff hpositive
    cases hvalid
    exact ⟨by simpa using (Option.filter_eq_some_iff.mp hpositive).2, rfl⟩

/-- The same for `prune`, which deletes nothing where its context is refused. -/
theorem prune_accounts (batchSize : NumberValue) (cutoffDate : Option ClockReading)
    (moments : Nat → PruningMoment) {fuel : Nat} {database : Database}
    (hfuel : database.rowCount < fuel) :
    ∃ outcome later, statements.prune interpretation batchSize cutoffDate moments fuel database =
        some (outcome, later) ∧
      later.rowCount ≤ database.rowCount ∧
      ∀ rows, outcome = .ok rows → later.rowCount + rows = database.rowCount := by
  unfold prune
  cases hvalid : SyncInboxPruner.validatePruningContext batchSize cutoffDate with
  | error thrown =>
      refine ⟨_, _, rfl, le_rfl, fun rows hrows => ?_⟩
      cases hrows
  | ok context =>
      exact pruneRounds_accounts (validatePruningContext_ok hvalid).1 moments 0 0 hfuel

end Rounds

end PruningStatements

end TauriPlatform
