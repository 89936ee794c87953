import TauriPlatform.InboxPasses
import TauriPlatform.JsNumber

/-!
# Pruning the inbox

`SyncInboxPruner` deletes the rows which have been applied before a cutoff.  An inbox
row is all that tells a redelivered envelope from a new one.
-/

namespace TauriPlatform

open Async Relational

namespace SyncInboxPruner

/-! ## The pruner -/

/-- The condition of the `DELETE`. -/
def isEligible (cutoff : String) (row : InboxRow) : Bool :=
  (row.applyStatus = .applied || row.applyStatus = .conflict) &&
    match row.appliedAt with
    | some appliedAt => appliedAt ≤ cutoff
    | none => row.createdAt ≤ cutoff

def batch (cutoff : String) (batchSize : Int) (table : InboxTable) : List InboxRow :=
  (table.select (isEligible cutoff)).take batchSize.toNat

def deleteStatement (cutoff : String) (batchSize : Int) : Statement InboxTable Unit where
  sql := "
      DELETE FROM core_sync_inbox
      WHERE rowid IN (
        SELECT rowid FROM core_sync_inbox
        WHERE apply_status IN ('APPLIED', 'CONFLICT')
          AND (applied_at <= ? OR (applied_at IS NULL AND created_at <= ?))
        LIMIT ?
      )
    "
  params := [.string cutoff, .string cutoff, .number (.integer batchSize)]
  columns := []
  effect := .write fun table =>
    .ok {
      database := table.delete fun row => row ∈ batch cutoff batchSize table
      rows := []
      rowsAffected := (batch cutoff batchSize table).length }

/-- The loop of `prune`, whose signal is aborted after the given number of rounds. -/
def pruneRounds (cutoff : String) (batchSize : Int) :
    Nat → Program (DbCall InboxTable) Thrown Nat
  | 0 => pure 0
  | rounds + 1 => do
      let rowsAffected ← Program.await (.execute (deleteStatement cutoff batchSize))
      if rowsAffected = 0 then pure 0
      else if (rowsAffected : Int) < batchSize then pure rowsAffected
      else do
        let more ← pruneRounds cutoff batchSize rounds
        pure (rowsAffected + more)

/-- `validatePruningContext`; an invalid date has no reading. -/
def validatePruningContext (batchSize : NumberValue) (cutoffDate : Option ClockReading) :
    Except Thrown (Int × ClockReading) :=
  match batchSize.safeInteger?.filter (0 < ·), cutoffDate with
  | none, _ =>
      .error (validationError
        ("Pruning batch size must be a positive safe integer; received " ++ batchSize.text)
        "The maintenance batch size is invalid." "maintenance_batch_size")
  | some _, none =>
      .error (validationError "Pruning cutoffDate must be a valid Date."
        "The maintenance cutoff date is invalid." "maintenance_cutoff_date")
  | some batchSize, some cutoffDate => .ok (batchSize, cutoffDate)

/-- `SyncInboxPruner.prune`, up to the rows it reports. -/
def prune (batchSize : NumberValue) (cutoffDate : Option ClockReading) (rounds : Nat) :
    Program (DbCall InboxTable) Thrown Nat := do
  let (batchSize, cutoffDate) ← Program.ofExcept (validatePruningContext batchSize cutoffDate)
  pruneRounds cutoffDate.iso batchSize rounds

structure Pruned (cutoff : String) (table later : InboxTable) : Prop where
  old : ∀ row ∈ later, row ∈ table
  spared : ∀ row ∈ table, isEligible cutoff row = false → row ∈ later

theorem Pruned.refl (cutoff : String) (table : InboxTable) : Pruned cutoff table table where
  old _ hrow := hrow
  spared _ hrow _ := hrow

theorem Pruned.trans {cutoff : String} {first second third : InboxTable}
    (hfirst : Pruned cutoff first second) (hsecond : Pruned cutoff second third) :
    Pruned cutoff first third where
  old row hrow := hfirst.old row (hsecond.old row hrow)
  spared row hrow heligible :=
    hsecond.spared row (hfirst.spared row hrow heligible) heligible

theorem pruned_batch (cutoff : String) (batchSize : Int) (table : InboxTable) :
    Pruned cutoff table (table.delete fun row => row ∈ batch cutoff batchSize table) where
  old row hrow := (List.mem_filter.mp hrow).1
  spared row hrow heligible := by
    apply List.mem_filter.mpr
    refine ⟨hrow, ?_⟩
    simp only [Bool.not_eq_true', decide_eq_false_iff_not]
    intro hbatch
    have hselected := List.mem_of_mem_take hbatch
    rw [Table.mem_select, heligible] at hselected
    exact absurd hselected.2 Bool.false_ne_true

theorem pruned_pruneRounds (cutoff : String) (batchSize : Int) (rounds : Nat) :
    ∀ table : InboxTable,
      Pruned cutoff table ((pruneRounds cutoff batchSize rounds).run memoryConnection table).2 := by
  induction rounds with
  | zero => exact Pruned.refl cutoff
  | succ rounds ih =>
      intro table
      have hbatch := pruned_batch cutoff batchSize table
      have hrun : ((Program.await (.execute (deleteStatement cutoff batchSize)) :
          Program (DbCall InboxTable) Thrown Nat).run memoryConnection table) =
          (.ok (batch cutoff batchSize table).length,
            table.delete fun row => row ∈ batch cutoff batchSize table) := rfl
      rw [pruneRounds, Program.run_bind_ok _ hrun]
      split_ifs
      · exact hbatch
      · exact hbatch
      · have hmore := ih (table.delete fun row => row ∈ batch cutoff batchSize table)
        rw [Program.run_bind]
        split
        · rename_i value later hlater
          rw [hlater] at hmore
          exact hbatch.trans hmore
        · rename_i thrown later hlater
          rw [hlater] at hmore
          exact hbatch.trans hmore

theorem pruned_prune (batchSize : NumberValue) (cutoffDate : Option ClockReading) (rounds : Nat)
    (table : InboxTable) :
    ((prune batchSize cutoffDate rounds).run memoryConnection table).2 = table ∨
      ∃ reading, cutoffDate = some reading ∧
        Pruned reading.iso table
          ((prune batchSize cutoffDate rounds).run memoryConnection table).2 := by
  unfold prune validatePruningContext
  cases batchSize.safeInteger?.filter (0 < ·) with
  | none => exact Or.inl rfl
  | some size =>
      cases cutoffDate with
      | none => exact Or.inl rfl
      | some reading => exact Or.inr ⟨reading, rfl, pruned_pruneRounds reading.iso size rounds table⟩

end SyncInboxPruner

namespace InboxService

/-! ## Runs with pruning -/

/-- A step of the inbox.  `outcome` says what `applyFn` does in a pass. -/
inductive InboxStep where
  | receive (delivery : Delivery)
  | applyPending (readings : Nat → ClockReading) (outcome : InboxRecord → Except Thrown Unit)
  | prune (batchSize : NumberValue) (cutoffDate : Option ClockReading) (rounds : Nat)

def InboxStep.run : InboxStep → ApplyHistory → ApplyHistory
  | .receive delivery, history => { history with table := deliver history.table delivery }
  | .applyPending readings outcome, history =>
      ((passProgram readings).run (applyHandler outcome) history).2
  | .prune batchSize cutoffDate rounds, history =>
      { history with
        table := ((SyncInboxPruner.prune batchSize cutoffDate rounds).run memoryConnection
          history.table).2 }

def runSteps (steps : List InboxStep) (history : ApplyHistory) : ApplyHistory :=
  steps.foldl (fun history step => step.run history) history

def InboxStep.Spares (envelopeId : String) (table : InboxTable) : InboxStep → Prop
  | .prune _ cutoffDate _ =>
      ∀ reading, cutoffDate = some reading → ∀ row ∈ table, row.envelopeId = envelopeId →
        row.applyStatus = .applied → ∀ appliedAt, row.appliedAt = some appliedAt →
        reading.iso < appliedAt
  | _ => True

/-- No pruning step of the run reaches the row of the envelope once it has been applied. -/
def KeepsEnvelope (envelopeId : String) : List InboxStep → ApplyHistory → Prop
  | [], _ => True
  | step :: rest, history =>
      step.Spares envelopeId history.table ∧ KeepsEnvelope envelopeId rest (step.run history)

def ResolvedIn (envelopeId : String) (attempts : List Attempt) : Prop :=
  ∃ attempt ∈ attempts, attempt.resolved ∧ attempt.record.envelopeId = envelopeId

def NeverAgain (envelopeId : String) (attempts : List Attempt) : Prop :=
  attempts.Pairwise fun earlier later => earlier.resolved →
    earlier.record.envelopeId = envelopeId → later.record.envelopeId ≠ envelopeId

def HoldsApplied (envelopeId : String) (table : InboxTable) : Prop :=
  ∃ row ∈ table, row.envelopeId = envelopeId ∧ row.applyStatus = .applied ∧
    ∃ appliedAt, row.appliedAt = some appliedAt

/-- A resolved envelope has its applied row, and is handed over no more. -/
structure AppliedOnce (envelopeId : String) (history : ApplyHistory) : Prop where
  kept : ResolvedIn envelopeId history.attempts → HoldsApplied envelopeId history.table
  never : NeverAgain envelopeId history.attempts

/-! ### Receiving and pruning -/

variable {delivery : Delivery} {row : InboxRow}

theorem mem_deliver_of_mem {table : InboxTable} (hrow : row ∈ table) :
    row ∈ deliver table delivery := by
  cases hvalid : SyncEnvelopeBuilder.validateEnvelope delivery.envelope with
  | error message => rwa [deliver_of_invalid hvalid]
  | ok validated =>
      rw [deliver, receive_run_of_valid hvalid, insertIgnoringDuplicates]
      split_ifs
      · exact hrow
      · split
        · rename_i result hresult
          split at hresult
          · rename_i later hlater
            cases hresult
            have hrows := Table.insert?_eq_some_iff.mp hlater
            rw [Table.mem_def, hrows]
            exact List.mem_append_left _ hrow
          · cases hresult
        · exact hrow

variable {envelopeId : String}

theorem HoldsApplied.prune {table : InboxTable} (happlied : HoldsApplied envelopeId table)
    {batchSize : NumberValue} {cutoffDate : Option ClockReading} {rounds : Nat}
    (hspares : (InboxStep.prune batchSize cutoffDate rounds).Spares envelopeId table) :
    HoldsApplied envelopeId
      ((SyncInboxPruner.prune batchSize cutoffDate rounds).run memoryConnection table).2 := by
  obtain ⟨row, hrow, henvelope, hstatus, appliedAt, hat⟩ := happlied
  cases SyncInboxPruner.pruned_prune batchSize cutoffDate rounds table with
  | inl hsame =>
      rw [hsame]
      exact ⟨row, hrow, henvelope, hstatus, appliedAt, hat⟩
  | inr hpruned =>
      obtain ⟨reading, hcutoff, hpruned⟩ := hpruned
      have hbefore := hspares reading hcutoff row hrow henvelope hstatus appliedAt hat
      have heligible : SyncInboxPruner.isEligible reading.iso row = false := by
        simp [SyncInboxPruner.isEligible, hat, not_le.mpr hbefore]
      exact ⟨row, hpruned.spared row hrow heligible, henvelope, hstatus, appliedAt, hat⟩

/-! ### Passes -/

structure InPass (envelopeId : String) (history : ApplyHistory) (rows : List InboxRow) :
    Prop where
  appliedOnce : AppliedOnce envelopeId history
  known : ∀ row ∈ rows, ∃ stored ∈ history.table,
    stored.id = row.id ∧ stored.envelopeId = row.envelopeId
  distinct : (rows.map InboxRow.id).Nodup
  unresolved : ∀ row ∈ rows, row.envelopeId = envelopeId →
    ¬ ResolvedIn envelopeId history.attempts

theorem resolvedIn_append {attempts : List Attempt} {attempt : Attempt} :
    ResolvedIn envelopeId (attempts ++ [attempt]) ↔
      ResolvedIn envelopeId attempts ∨
        attempt.resolved ∧ attempt.record.envelopeId = envelopeId := by
  unfold ResolvedIn
  constructor
  · rintro ⟨other, hother, hresolved⟩
    cases List.mem_append.mp hother with
    | inl hold => exact Or.inl ⟨other, hold, hresolved⟩
    | inr hnew =>
        rw [List.mem_singleton.mp hnew] at hresolved
        exact Or.inr hresolved
  · rintro (⟨other, hother, hresolved⟩ | hresolved)
    · exact ⟨other, List.mem_append_left _ hother, hresolved⟩
    · exact ⟨attempt, by simp, hresolved⟩

theorem NeverAgain.append {attempts : List Attempt} {attempt : Attempt}
    (hnever : NeverAgain envelopeId attempts)
    (hunresolved : attempt.record.envelopeId = envelopeId → ¬ ResolvedIn envelopeId attempts) :
    NeverAgain envelopeId (attempts ++ [attempt]) := by
  unfold NeverAgain at hnever ⊢
  rw [List.pairwise_append]
  refine ⟨hnever, List.pairwise_singleton _ _, ?_⟩
  intro earlier hearlier later hlater hresolved henvelope hsame
  rw [List.mem_singleton.mp hlater] at hsame
  exact hunresolved hsame ⟨earlier, hearlier, hresolved, henvelope⟩

variable {history : ApplyHistory}

theorem InPass.round {rest : List InboxRow} (hpass : InPass envelopeId history (row :: rest))
    {now : ClockReading} {outcome : Except Thrown Unit} {later : InboxTable} {held : List String}
    (hlater : later.rows = history.table.rows.map
      (Table.updateRow (fun other => other.id = row.id) (afterRound now outcome))) :
    InPass envelopeId
      { table := later, held := held, attempts := history.attempts ++ [⟨row, outcome.isOk⟩] }
      rest := by
  have hupdated : ∀ stored ∈ history.table,
      Table.updateRow (fun other => other.id = row.id) (afterRound now outcome) stored ∈ later := by
    intro stored hstored
    rw [Table.mem_def, hlater]
    exact List.mem_map_of_mem hstored
  have hkeys : ∀ stored : InboxRow,
      (afterRound now outcome stored).id = stored.id ∧
        (afterRound now outcome stored).envelopeId = stored.envelopeId := by
    intro stored
    cases outcome with
    | ok _ => exact ⟨rfl, rfl⟩
    | error thrown => exact ⟨rfl, rfl⟩
  obtain ⟨current, hcurrent, hcurrentId, hcurrentEnvelope⟩ := hpass.known row List.mem_cons_self
  have hdistinct := List.nodup_cons.mp hpass.distinct
  refine ⟨⟨?_, ?_⟩, ?_, hdistinct.2, ?_⟩
  · intro hresolved
    cases resolvedIn_append.mp hresolved with
    | inl hold =>
        obtain ⟨stored, hstored, henvelope, hstatus, happlied⟩ := hpass.appliedOnce.kept hold
        have hother : stored.id ≠ row.id := by
          intro hid
          have hsame := (id_eq_iff_envelopeId_eq hstored hcurrent).mp (hid.trans hcurrentId.symm)
          apply hpass.unresolved row List.mem_cons_self _ hold
          rw [← hcurrentEnvelope, ← hsame, henvelope]
        refine ⟨stored, ?_, henvelope, hstatus, happlied⟩
        have hmem := hupdated stored hstored
        rwa [Table.updateRow, if_neg (by simpa using hother)] at hmem
    | inr hnew =>
        obtain ⟨hok, henvelope⟩ := hnew
        cases outcome with
        | error thrown => exact absurd hok Bool.false_ne_true
        | ok _ =>
            have hmem := hupdated current hcurrent
            rw [Table.updateRow, if_pos (by simpa using hcurrentId)] at hmem
            exact ⟨_, hmem, hcurrentEnvelope.trans henvelope, rfl, now.iso, rfl⟩
  · exact hpass.appliedOnce.never.append (hpass.unresolved row List.mem_cons_self)
  · intro other hother
    obtain ⟨stored, hstored, hid, henvelope⟩ := hpass.known other (List.mem_cons_of_mem _ hother)
    refine ⟨_, hupdated stored hstored, ?_, ?_⟩
    · unfold Table.updateRow
      split_ifs
      · exact (hkeys stored).1.trans hid
      · exact hid
    · unfold Table.updateRow
      split_ifs
      · exact (hkeys stored).2.trans henvelope
      · exact henvelope
  · intro other hother henvelope hresolved
    cases resolvedIn_append.mp hresolved with
    | inl hold => exact hpass.unresolved other (List.mem_cons_of_mem _ hother) henvelope hold
    | inr hnew =>
        obtain ⟨stored, hstored, hid, hstoredEnvelope⟩ :=
          hpass.known other (List.mem_cons_of_mem _ hother)
        have hsame : stored.id = current.id := by
          apply (id_eq_iff_envelopeId_eq hstored hcurrent).mpr
          rw [hstoredEnvelope, henvelope, hcurrentEnvelope, hnew.2]
        apply hdistinct.1
        rw [← hcurrentId, ← hsame, hid]
        exact List.mem_map_of_mem hother

theorem InPass.applyRows (outcome : InboxRecord → Except Thrown Unit) (rows : List InboxRow) :
    ∀ (readings : Nat → ClockReading) (counts : ApplyCounts) (history : ApplyHistory),
      InPass envelopeId history rows →
      AppliedOnce envelopeId
        ((InboxService.applyRows inboxExecutor awaitApply readings counts rows).run
          (applyHandler outcome) history).2 := by
  induction rows with
  | nil =>
      intro readings counts history hpass
      exact hpass.appliedOnce
  | cons row rest ih =>
      intro readings counts history hpass
      obtain ⟨counts', later, hlater, hround⟩ :=
        applyRow_run outcome (readings 0) counts row history
      rw [InboxService.applyRows, Program.run_bind_ok _ hround]
      exact ih _ _ _ (hpass.round hlater)

theorem AppliedOnce.inPass {held : List String} (happlied : AppliedOnce envelopeId history) :
    InPass envelopeId { history with held := held } (pendingRows history.table) where
  appliedOnce := ⟨happlied.kept, happlied.never⟩
  known row hrow := ⟨row, (pending_of_mem_pendingRows hrow).1, rfl, rfl⟩
  distinct := nodup_pendingRows_ids history.table
  unresolved row hrow henvelope hresolved := by
    obtain ⟨hstored, hpending⟩ := pending_of_mem_pendingRows hrow
    obtain ⟨other, hother, hotherEnvelope, hstatus, -⟩ := happlied.kept hresolved
    have hsame : row = other := Table.eq_of_key_eq (fun row : InboxRow => some row.envelopeId)
      (by simp [inboxIndexes]) hstored hother (congrArg some henvelope)
      (congrArg some hotherEnvelope)
    rw [← hsame, hpending] at hstatus
    cases hstatus

theorem AppliedOnce.pass (happlied : AppliedOnce envelopeId history)
    (readings : Nat → ClockReading) (outcome : InboxRecord → Except Thrown Unit) :
    AppliedOnce envelopeId ((passProgram readings).run (applyHandler outcome) history).2 := by
  have hquery : ((inboxExecutor.query pendingStatement).run (applyHandler outcome) history) =
      (.ok (pendingRows history.table), { history with
        held := history.held ++ (pendingRows history.table).map InboxRow.id }) := rfl
  rw [passProgram, applyPending, Program.run_bind_ok _ hquery]
  exact InPass.applyRows outcome _ _ _ _ happlied.inPass

/-! ### Every run -/

theorem AppliedOnce.step (happlied : AppliedOnce envelopeId history) {step : InboxStep}
    (hspares : step.Spares envelopeId history.table) :
    AppliedOnce envelopeId (step.run history) := by
  cases step with
  | receive delivery =>
      refine ⟨?_, happlied.never⟩
      intro hresolved
      obtain ⟨row, hrow, happlied⟩ := happlied.kept hresolved
      exact ⟨row, mem_deliver_of_mem hrow, happlied⟩
  | applyPending readings outcome => exact happlied.pass readings outcome
  | prune batchSize cutoffDate rounds =>
      refine ⟨?_, happlied.never⟩
      intro hresolved
      exact (happlied.kept hresolved).prune hspares

theorem appliedOnce_runSteps (steps : List InboxStep) :
    ∀ history, AppliedOnce envelopeId history → KeepsEnvelope envelopeId steps history →
      AppliedOnce envelopeId (runSteps steps history) := by
  induction steps with
  | nil =>
      intro history happlied _
      exact happlied
  | cons step rest ih =>
      intro history happlied hkeeps
      exact ih _ (happlied.step hkeeps.1) hkeeps.2

/-- From any inbox, an envelope on which `applyFn` has resolved is not handed over again, as
long as no pruning step has a cutoff at or behind its application. -/
theorem never_again_while_kept (table : InboxTable) (steps : List InboxStep)
    (envelopeId : String) (hkeeps : KeepsEnvelope envelopeId steps (.of table)) :
    NeverAgain envelopeId (runSteps steps (.of table)).attempts := by
  have hinitial : AppliedOnce envelopeId (.of table) := by
    refine ⟨?_, List.Pairwise.nil⟩
    rintro ⟨attempt, hattempt, -⟩
    exact absurd hattempt List.not_mem_nil
  exact (appliedOnce_runSteps steps _ hinitial hkeeps).never

/-! ## Redelivery behind a pruning step -/

theorem pass_of_single (now : ClockReading) (hrows : history.table.rows = [row])
    (hwaits : isPendingVerified row) :
    ((InboxStep.applyPending (fun _ => now) fun _ => .ok ()).run history).table.rows =
        [applied now.iso row] ∧
      ((InboxStep.applyPending (fun _ => now) fun _ => .ok ()).run history).attempts =
        history.attempts ++ [⟨row, true⟩] := by
  have hpending : pendingRows history.table = [row] := by
    rw [pendingRows, Table.select, hrows, List.filter_cons_of_pos hwaits]
    rfl
  have hquery : ((inboxExecutor.query pendingStatement).run (applyHandler fun _ => .ok ())
      history) = (.ok (pendingRows history.table), { history with
        held := history.held ++ (pendingRows history.table).map InboxRow.id }) := rfl
  obtain ⟨counts, later, hlater, hround⟩ := applyRow_run (fun _ => .ok ()) now
    { applied := 0, failed := 0, conflicts := 0 } row
    { history with held := history.held ++ (pendingRows history.table).map InboxRow.id }
  rw [InboxStep.run, passProgram, applyPending, Program.run_bind_ok _ hquery, hpending, applyRows,
    ← hpending, Program.run_bind_ok _ hround]
  refine ⟨?_, rfl⟩
  change later.rows = _
  rw [hlater, hrows]
  simp [Table.updateRow, afterRound]

theorem prune_of_single (now : ClockReading) (hrows : history.table.rows = [applied now.iso row]) :
    ((InboxStep.prune (.finite (.integer 100)) (some now) 1).run history).table.rows = [] ∧
      ((InboxStep.prune (.finite (.integer 100)) (some now) 1).run history).attempts =
        history.attempts := by
  have heligible : SyncInboxPruner.isEligible now.iso (applied now.iso row) := by
    simp [SyncInboxPruner.isEligible, applied]
  have hbatch : SyncInboxPruner.batch now.iso 100 history.table = [applied now.iso row] := by
    rw [SyncInboxPruner.batch, Table.select, hrows, List.filter_cons_of_pos heligible]
    rfl
  have hdeleted : (history.table.delete fun other =>
      other ∈ SyncInboxPruner.batch now.iso 100 history.table).rows = [] := by
    rw [hbatch]
    change history.table.rows.filter (fun other => !decide (other ∈ [applied now.iso row])) = []
    rw [hrows]
    simp
  have hrun : ((Program.await (.execute (SyncInboxPruner.deleteStatement now.iso 100)) :
      Program (DbCall InboxTable) Thrown Nat).run memoryConnection history.table) =
      (.ok (SyncInboxPruner.batch now.iso 100 history.table).length,
        history.table.delete fun other =>
          other ∈ SyncInboxPruner.batch now.iso 100 history.table) := rfl
  have hcontext : SyncInboxPruner.validatePruningContext (.finite (.integer 100)) (some now) =
      .ok (100, now) := rfl
  refine ⟨?_, rfl⟩
  rw [InboxStep.run, SyncInboxPruner.prune, hcontext]
  change ((SyncInboxPruner.pruneRounds now.iso 100 1).run memoryConnection
    history.table).2.rows = []
  have hlength : (SyncInboxPruner.batch now.iso 100 history.table).length = 1 := by
    rw [hbatch]
    rfl
  rw [SyncInboxPruner.pruneRounds, Program.run_bind_ok _ hrun, hlength, if_neg (by decide),
    if_pos (by decide)]
  exact hdeleted

def redelivery (delivery : Delivery) (now : ClockReading) : List InboxStep :=
  [.receive delivery, .applyPending (fun _ => now) fun _ => .ok (),
    .prune (.finite (.integer 100)) (some now) 1,
    .receive delivery, .applyPending (fun _ => now) fun _ => .ok ()]

theorem isPendingVerified_row (validated : SyncEnvelope) (hverified : delivery.verified) :
    isPendingVerified (delivery.row validated) := by
  have hstatus := (delivery.row_verificationStatus validated).mpr hverified
  rw [isPendingVerified, hstatus]
  rfl

theorem receive_on_empty {validated : SyncEnvelope}
    (hvalid : SyncEnvelopeBuilder.validateEnvelope delivery.envelope = .ok validated)
    (history : ApplyHistory) (hempty : history.table.rows = []) :
    ((InboxStep.receive delivery).run history).table.rows = [delivery.row validated] := by
  have hnone : ∀ row, row ∉ history.table := by
    intro row hrow
    rw [Table.mem_def, hempty] at hrow
    exact absurd hrow List.not_mem_nil
  have hrows := deliver_of_new hvalid
    (fun row hrow => absurd hrow (hnone row)) (fun row hrow => absurd hrow (hnone row))
  rwa [hempty, List.nil_append] at hrows

theorem redelivery_applies_twice {validated : SyncEnvelope}
    (hvalid : SyncEnvelopeBuilder.validateEnvelope delivery.envelope = .ok validated)
    (hverified : delivery.verified) (now : ClockReading) :
    (runSteps (redelivery delivery now) (.of Table.empty)).attempts =
      [⟨delivery.row validated, true⟩, ⟨delivery.row validated, true⟩] := by
  have hwaits := isPendingVerified_row validated hverified
  unfold redelivery runSteps
  simp only [List.foldl_cons, List.foldl_nil]
  have hfirst := receive_on_empty hvalid (.of Table.empty) rfl
  have hpass := pass_of_single now hfirst hwaits
  have hprune := prune_of_single now hpass.1
  have hsecond := receive_on_empty hvalid _ hprune.1
  have hpass' := pass_of_single now hsecond hwaits
  have hkept : ∀ history : ApplyHistory,
      ((InboxStep.receive delivery).run history).attempts = history.attempts := fun _ => rfl
  rw [hpass'.2, hkept, hprune.2, hpass.2]
  rfl

/-- Pruned and delivered again, the genuine envelope is applied again. -/
theorem applied_again_after_pruning :
    ¬ ∀ (table : InboxTable) (steps : List InboxStep) (envelopeId : String),
      NeverAgain envelopeId (runSteps steps (.of table)).attempts := by
  intro hnever
  obtain ⟨validated, hvalid, hid⟩ := Delivery.presents_iff.mp genuineDelivery_presents
  have hattempts := hnever Table.empty (redelivery genuineDelivery ⟨0, by decide⟩) "op-1"
  rw [redelivery_applies_twice hvalid genuineDelivery_verified] at hattempts
  have hpair := (List.pairwise_cons.mp hattempts).1 _ List.mem_cons_self rfl hid
  exact hpair hid

theorem never_again_behind_early_cutoff :
    let steps : List InboxStep := [.receive genuineDelivery,
      .applyPending (fun _ => ⟨1000, by decide⟩) fun _ => .ok (),
      .prune (.finite (.integer 100)) (some ⟨0, by decide⟩) 1,
      .receive genuineDelivery, .applyPending (fun _ => ⟨2000, by decide⟩) fun _ => .ok ()]
    KeepsEnvelope "op-1" steps (.of Table.empty) ∧
      NeverAgain "op-1" (runSteps steps (.of Table.empty)).attempts := by
  intro steps
  obtain ⟨validated, hvalid, -⟩ := Delivery.presents_iff.mp genuineDelivery_presents
  have hfirst := receive_on_empty hvalid (.of Table.empty) rfl
  have hpass := pass_of_single ⟨1000, by decide⟩ hfirst
    (isPendingVerified_row validated genuineDelivery_verified)
  have hkeeps : KeepsEnvelope "op-1" steps (.of Table.empty) := by
    refine ⟨trivial, trivial, ?_, trivial, trivial, trivial⟩
    intro reading hreading row hrow _ _ appliedAt hat
    have hsame := hrow
    rw [Table.mem_def, hpass.1, List.mem_singleton] at hsame
    rw [hsame] at hat
    rw [← Option.some.inj hreading, ← Option.some.inj hat]
    decide
  exact ⟨hkeeps, never_again_while_kept Table.empty steps "op-1" hkeeps⟩

end InboxService
end TauriPlatform
