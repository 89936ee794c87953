import TauriPlatform.DeclarativeTablePruner

/-!
# What the retention pruners delete

The pruners of the outbox, of the tasks, of the tombstones and of declared tables delete what
they count, and nothing which is still to be sent, run or replicated.
-/

namespace TauriPlatform

open SqliteText PruningStatements

inductive RetentionPruner where
  | syncOutbox
  | backgroundTasks
  | replicatedTombstones
  | declarative (pruner : DeclarativeTablePruner)

namespace RetentionPruner

def statements : RetentionPruner → PruningStatements
  | syncOutbox => syncOutboxPruner.toPruningStatements
  | backgroundTasks => backgroundTasksPruner.toPruningStatements
  | replicatedTombstones => replicatedTombstonePruner.toPruningStatements
  | declarative pruner => pruner.statements

theorem agree (pruner : RetentionPruner) : pruner.statements.Agree := by
  cases pruner with
  | syncOutbox => exact syncOutboxPruner_parses.2
  | backgroundTasks => exact backgroundTasksPruner_parses.2
  | replicatedTombstones => exact replicatedTombstonePruner_parses.2
  | declarative pruner => exact pruner.statements_agree

/-- A row which is still needed: an envelope to be sent, a task which is not done, a tombstone
which is not replicated. -/
def Protects : RetentionPruner → Row → Prop
  | syncOutbox, row => ∃ status ∈ ["PENDING", "FAILED"],
      row.cell? "status".toList = some (.text status)
  | backgroundTasks, row => ∃ state ∈ ["PENDING", "RUNNING", "FAILED"],
      row.cell? "state".toList = some (.text state)
  | replicatedTombstones, row => row.cell? "replicated_at".toList = some .null
  | declarative _, _ => False

section Protected

variable {interpretation : Interpretation} {params : List Value} {row : Row}

theorem holds_columnIs {column literal content text : String}
    (hcell : row.cell? column.toList = some (.text content))
    (hliteral : textOf literal.toList = text) :
    holds interpretation params row (columnIs column literal) ↔ content = text := by
  have hright : eval interpretation params row (.text literal.toList) = .text text := by
    rw [eval, hliteral]
  rw [columnIs, holds_compare (eval_column hcell) hright rfl, decide_eq_true_eq]

theorem not_holds_of_protects {pruner : RetentionPruner} {statement : CountStatement}
    (hcount : parseCount (lex pruner.statements.countSql.toList) = some statement)
    (hprotects : pruner.Protects row) :
    ¬ holds interpretation params row statement.condition := by
  cases pruner with
  | syncOutbox =>
      obtain ⟨status, hstatus, hcell⟩ := hprotects
      cases syncOutboxPruner_parses.1.symm.trans hcount
      have hsent : textOf "'SENT'".toList = "SENT" := by decide
      rw [holds_and, holds_columnIs hcell hsent]
      rintro ⟨rfl, -⟩
      exact absurd hstatus (by decide)
  | backgroundTasks =>
      obtain ⟨state, hstate, hcell⟩ := hprotects
      cases backgroundTasksPruner_parses.1.symm.trans hcount
      have hcompleted : textOf "'COMPLETED'".toList = "COMPLETED" := by decide
      have hcancelled : textOf "'CANCELLED'".toList = "CANCELLED" := by decide
      rw [holds_and, holds_or, holds_columnIs hcell hcompleted, holds_columnIs hcell hcancelled]
      rintro ⟨rfl | rfl, -⟩
      · exact absurd hstate (by decide)
      · exact absurd hstate (by decide)
  | replicatedTombstones =>
      cases replicatedTombstonePruner_parses.1.symm.trans hcount
      rw [holds_and, holds_isNotNull, eval_column hprotects]
      rintro ⟨hnull, -⟩
      exact hnull rfl
  | declarative pruner => exact hprotects.elim

end Protected

/-! ## Runs -/

section Runs

variable {interpretation : Interpretation} {pruner : RetentionPruner} {cutoff : ClockReading}
  {moments : Nat → PruningMoment} {database : Database}

theorem prune_eq {batchSize : NumberValue} {size : Int}
    (hsize : batchSize.safeInteger? = some size) (hpositive : 0 < size) (fuel : Nat) :
    pruner.statements.prune interpretation batchSize (some cutoff) moments fuel database =
      pruner.statements.pruneRounds interpretation cutoff size moments fuel 0 0 database := by
  have hvalid : SyncInboxPruner.validatePruningContext batchSize (some cutoff) =
      .ok (size, cutoff) := by
    unfold SyncInboxPruner.validatePruningContext
    rw [hsize, Option.filter_some, if_pos (by simpa using hpositive)]
  rw [prune, hvalid]

theorem pruneRounds_of_count_error {size : Int} (hquiet : ∀ round, (moments round).IsQuiet)
    {thrown : Thrown} (hcount : pruner.statements.countEligible interpretation cutoff database =
      .error thrown) (hnat : 0 ≤ size) {fuel : Nat} (hfuel : 0 < fuel) :
    ∃ thrown, pruner.statements.pruneRounds interpretation cutoff size moments fuel 0 0 database =
      some (.error thrown, database) := by
  obtain ⟨fuel, rfl⟩ := Nat.exists_eq_add_of_le' hfuel
  have hrunning : ¬ (moments 0).aborted = true := by
    rw [(hquiet 0).1]
    decide
  obtain ⟨size, rfl⟩ := Int.eq_ofNat_of_zero_le hnat
  have hbatch : ∃ thrown, pruner.statements.deleteBatch interpretation cutoff size
      (moments 0).scan database = .error thrown := by
    have hagree := pruner.agree
    unfold countEligible at hcount
    split at hcount
    · rename_i hnone
      rw [Agree, hnone] at hagree
      rw [deleteBatch, hagree]
      exact ⟨_, rfl⟩
    · rename_i statement hstatement
      cases hresolve : resolve interpretation database statement.table statement.condition with
      | error message =>
          exact ⟨_, deleteBatch_error hagree hstatement hresolve _⟩
      | ok table =>
          rw [CountStatement.run, hresolve] at hcount
          cases hcount
  obtain ⟨thrown, hbatch⟩ := hbatch
  refine ⟨thrown, ?_⟩
  rw [pruneRounds, if_neg hrunning, execute_of_quiet (hquiet 0), hbatch]

end Runs

def smallOutbox : Database := [{
  name := "core_sync_outbox"
  columns := ["status", "sent_at", "created_at"]
  rows := [
    ⟨1, [("status", .text "SENT"), ("sent_at", .text "2025-01-01T00:00:00.000Z"),
      ("created_at", .text "2025-01-01T00:00:00.000Z")]⟩,
    ⟨2, [("status", .text "PENDING"), ("sent_at", .null),
      ("created_at", .text "2025-01-01T00:00:00.000Z")]⟩]
  distinct := by decide }]

theorem countEligible_smallOutbox : syncOutbox.statements.countEligible fixedInterpretation
    ⟨1767225600000, by decide⟩ smallOutbox = .ok 1 := by
  unfold PruningStatements.countEligible
  rw [statements, syncOutboxPruner_parses.1]
  decide

end RetentionPruner

end TauriPlatform
