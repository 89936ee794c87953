import TauriPlatform.OutboxDurable
import TauriPlatform.ReadingRange

/-!
# The native outbox scheduler

On each tick the scheduler asks for the organisations with pending rows and announces
them.  Its query compares the status with a lower-case word which no row of the table
has, so that it finds nothing, whatever waits in the outbox.
-/

namespace TauriPlatform

open Async Relational

/-! ## The native query -/

/-- `DurableDatabase::query_pending_outbox_orgs`; there may be no table yet. -/
def queryPendingOutboxOrgs (outbox : Option OutboxTable) : List String :=
  match outbox with
  | none => []
  | some table =>
      (((table.select fun row => row.status.text = "pending").map
        OutboxRow.organisationId).dedup).insertionSort (· ≤ ·)

structure SyncTickPayload where
  tickedAt : String
  pendingCount : Nat
  pendingOrganisations : List String

/-- `run_tick`, up to what it emits. -/
def runTick (tickedAt : String) (outbox : Option OutboxTable) : Option SyncTickPayload :=
  let orgs := queryPendingOutboxOrgs outbox
  if orgs = [] then none
  else
    some {
      tickedAt := tickedAt
      pendingCount := orgs.length
      pendingOrganisations := orgs }

theorem queryPendingOutboxOrgs_eq_nil (outbox : Option OutboxTable) :
    queryPendingOutboxOrgs outbox = [] := by
  cases outbox with
  | none => rfl
  | some table =>
      have hnone : (table.select fun row => row.status.text = "pending") = [] := by
        rw [Table.select, List.filter_eq_nil_iff]
        intro row _
        cases row.status <;> decide
      rw [queryPendingOutboxOrgs, hnone]
      rfl

theorem runTick_eq_none (tickedAt : String) (outbox : Option OutboxTable) :
    runTick tickedAt outbox = none := by
  rw [runTick, queryPendingOutboxOrgs_eq_nil]
  rfl

namespace OutboxService

/-! ## What the service leaves in the table -/

inductive OutboxOperation where
  | enqueue (id : String) (now : ClockReading) (envelope : JsonValue)
  | markSent (now : ClockReading) (envelopeId : String)
  | markFailed (now : ClockReading) (envelopeId : String) (maxAttempts : NumberValue)

def OutboxOperation.program : OutboxOperation → Program (DbCall OutboxDatabase) Thrown Unit
  | .enqueue id now envelope => do
      let _ ← OutboxService.enqueue (connectionExecutor OutboxDatabase) id now.iso envelope
      pure ()
  | .markSent now envelopeId => OutboxService.markSent now envelopeId
  | .markFailed now envelopeId maxAttempts =>
      OutboxService.markFailed now envelopeId maxAttempts

def afterOperations (operations : List OutboxOperation) (database : OutboxDatabase) :
    OutboxDatabase :=
  operations.foldl
    (fun database operation => (operation.program.run memoryConnection database).2) database

/-- The rows of an organisation which `pendingBatch` selects. -/
def Selects (organisationId : String) (database : OutboxDatabase) (row : OutboxRow) : Prop :=
  ¬ isBlank organisationId ∧ ∃ limit admitted, admittedLimit? limit = some admitted ∧
    row ∈ (pendingRows organisationId database.outbox).take admitted.toNat

def NamesOrganisation (database : OutboxDatabase) : Prop :=
  ∀ row ∈ database.outbox, ¬ isBlank row.organisationId

theorem requireField_not_blank {operation : JsonValue} {field value : String}
    (hfield : SyncEnvelopeBuilder.requireField operation field = .ok value) :
    ¬ isBlank value := by
  unfold SyncEnvelopeBuilder.requireField at hfield
  split at hfield
  · split_ifs at hfield with hbad
    cases hfield
    exact fun hblank => hbad (Or.inl hblank)
  · cases hfield

theorem validateOperation_organisation {operation : JsonValue} {validated : SyncOperation}
    (haccepted : SyncEnvelopeBuilder.validateOperation operation = .ok validated) :
    ¬ isBlank validated.organisationId := by
  unfold SyncEnvelopeBuilder.validateOperation at haccepted
  obtain ⟨_, -, haccepted⟩ := SyncEnvelopeBuilder.check_bind_eq_ok haccepted
  obtain ⟨operationId, -, haccepted⟩ := SyncEnvelopeBuilder.check_bind_eq_ok haccepted
  obtain ⟨applicationId, -, haccepted⟩ := SyncEnvelopeBuilder.check_bind_eq_ok haccepted
  obtain ⟨organisationId, horganisation, haccepted⟩ :=
    SyncEnvelopeBuilder.check_bind_eq_ok haccepted
  have hname : validated.organisationId = organisationId := by
    iterate 10 obtain ⟨_, -, haccepted⟩ := SyncEnvelopeBuilder.check_bind_eq_ok haccepted
    split at haccepted
    · cases haccepted
    · obtain ⟨_, -, haccepted⟩ := SyncEnvelopeBuilder.check_bind_eq_ok haccepted
      cases haccepted
      rfl
  rw [hname]
  exact requireField_not_blank horganisation

variable {database : OutboxDatabase}

theorem namesOrganisation_execute {statement : Statement OutboxDatabase Unit}
    (hnames : NamesOrganisation database)
    (hstatement : ∀ result, statement.run database = .ok result →
      NamesOrganisation result.database) :
    NamesOrganisation
      (((connectionExecutor OutboxDatabase).execute statement).run memoryConnection
        database).2 := by
  cases hrun : statement.run database with
  | ok result =>
      rw [memory_execute_run hrun]
      exact hstatement result hrun
  | error message =>
      obtain ⟨error, herror⟩ := memory_execute_run_error hrun
      rw [herror]
      exact hnames

theorem namesOrganisation_update {sql envelopeId : String} {params : List JsonValue}
    (set : OutboxRow → OutboxRow) (hset : ∀ row, (set row).organisationId = row.organisationId)
    (hnames : NamesOrganisation database) {result : StatementResult OutboxDatabase Unit}
    (hrun : (updateStatement sql params envelopeId set).run database = .ok result) :
    NamesOrganisation result.database := by
  simp only [updateStatement, Statement.run] at hrun
  split at hrun
  · cases hrun
  · rename_i later hupdate
    cases hrun
    intro row hrow
    rw [Table.mem_def, Table.update?_eq_some_iff.mp hupdate] at hrow
    obtain ⟨old, hold, rfl⟩ := List.mem_map.mp hrow
    unfold Table.updateRow
    split_ifs
    · rw [hset]
      exact hnames old hold
    · exact hnames old hold

variable {row : OutboxRow}

theorem namesOrganisation_insert (hrow : ¬ isBlank row.organisationId)
    (hnames : NamesOrganisation database) {result : StatementResult OutboxDatabase Unit}
    (hrun : (insertStatement row).run database = .ok result) :
    NamesOrganisation result.database := by
  simp only [insertStatement, Statement.run] at hrun
  split at hrun
  · cases hrun
  · rename_i later hinsert
    split_ifs at hrun
    cases hrun
    intro other hother
    rw [Table.mem_def, Table.insert?_eq_some_iff.mp hinsert] at hother
    rcases List.mem_append.mp hother with hold | hnew
    · exact hnames other hold
    · rwa [List.mem_singleton.mp hnew]

theorem namesOrganisation_operation (operation : OutboxOperation)
    (hnames : NamesOrganisation database) :
    NamesOrganisation (operation.program.run memoryConnection database).2 := by
  cases operation with
  | enqueue id now envelope =>
      simp only [OutboxOperation.program, enqueue]
      cases hvalid : SyncEnvelopeBuilder.validateEnvelope envelope with
      | error message => exact hnames
      | ok validated =>
          have horganisation : ¬ isBlank (newRow id now.iso envelope validated).organisationId :=
            validateOperation_organisation
              (SyncEnvelopeBuilder.validateEnvelope_operation hvalid).1
          have hexecuted := namesOrganisation_execute hnames
            fun result hrun => namesOrganisation_insert horganisation hnames hrun
          simp only [Program.run_bind]
          split
          · rename_i value later hrun
            split at hrun
            · rename_i inserted after hexecute
              rw [hexecute] at hexecuted
              cases hrun
              exact hexecuted
            · cases hrun
          · rename_i error later hrun
            split at hrun
            · cases hrun
            · rename_i failure after hexecute
              rw [hexecute] at hexecuted
              cases hrun
              exact hexecuted
  | markSent now envelopeId =>
      exact namesOrganisation_execute hnames
        fun result hrun => namesOrganisation_update (sent now.iso) (fun _ => rfl) hnames hrun
  | markFailed now envelopeId maxAttempts =>
      simp only [OutboxOperation.program, markFailed]
      cases maxAttempts.safeInteger?.filter (0 < ·) with
      | none => exact hnames
      | some attempts =>
          exact namesOrganisation_execute hnames
            fun result hrun =>
              namesOrganisation_update (failedAttempt now.iso attempts) (fun _ => rfl) hnames hrun

theorem namesOrganisation_afterOperations (operations : List OutboxOperation)
    (hnames : NamesOrganisation database) :
    NamesOrganisation (afterOperations operations database) := by
  induction operations generalizing database with
  | nil => exact hnames
  | cons operation operations ih =>
      exact ih (namesOrganisation_operation operation hnames)

/-! ## Agreement -/

theorem mem_pendingRows {organisationId : String} {table : OutboxTable} :
    row ∈ pendingRows organisationId table ↔
      row ∈ table ∧ row.status = .pending ∧ row.organisationId = organisationId := by
  simp [pendingRows]

/-- A waiting row makes `pendingBatch` select one of its organisation. -/
theorem exists_selects (hrow : row ∈ database.outbox) (hpending : row.status = .pending)
    (hnamed : ¬ isBlank row.organisationId) :
    ∃ selected, Selects row.organisationId database selected := by
  have hmem : row ∈ pendingRows row.organisationId database.outbox :=
    mem_pendingRows.mpr ⟨hrow, hpending, rfl⟩
  cases hrows : pendingRows row.organisationId database.outbox with
  | nil =>
      rw [hrows] at hmem
      cases hmem
  | cons first rest =>
      refine ⟨first, hnamed, .finite (.integer 1), 1, by decide, ?_⟩
      rw [hrows]
      exact List.mem_cons_self

/-- After any run of operations the scheduler and the outbox agree about the organisations
with pending rows exactly when there is no pending row. -/
theorem pending_agree_iff (syncGroupIds : List String) (operations : List OutboxOperation) :
    (∀ organisationId,
        organisationId ∈ queryPendingOutboxOrgs
            (some (afterOperations operations (emptyOutbox syncGroupIds)).outbox) ↔
          ∃ row, Selects organisationId (afterOperations operations (emptyOutbox syncGroupIds))
            row) ↔
      ∀ row ∈ (afterOperations operations (emptyOutbox syncGroupIds)).outbox,
        row.status ≠ .pending := by
  have hempty : NamesOrganisation (emptyOutbox syncGroupIds) :=
    fun row hrow => absurd hrow List.not_mem_nil
  have hnames := namesOrganisation_afterOperations operations hempty
  rw [queryPendingOutboxOrgs_eq_nil]
  constructor
  · intro hagree row hrow hpending
    have hselected := (hagree row.organisationId).mpr
      (exists_selects hrow hpending (hnames row hrow))
    exact absurd hselected List.not_mem_nil
  · intro hnone organisationId
    refine ⟨fun hmem => absurd hmem List.not_mem_nil, ?_⟩
    rintro ⟨row, -, limit, admitted, -, hselected⟩
    obtain ⟨hrow, hpending, -⟩ := mem_pendingRows.mp (List.mem_of_mem_take hselected)
    exact absurd hpending (hnone row hrow)

def enqueueNote : OutboxOperation :=
  .enqueue "op-1" ⟨0, ClockReading.inRange_epoch⟩ (noteEnvelopeJson "op-1" (.string ""))

theorem enqueueNote_row :
    ∃ row ∈ (afterOperations [enqueueNote] (emptyOutbox ["group"])).outbox,
      row.status = .pending ∧ row.organisationId = "org" := by
  have hid : "op-1" ∈ noteIds := by decide
  have hsize : utf8Length (noteEnvelopeJson "op-1" (.string "")).serialize ≤
      maxSyncEnvelopeSizeBytes := by
    rw [utf8Length_noteEnvelope hid]
    decide
  have hvalid := validateEnvelope_note hid hsize
  let row := newRow "op-1" (⟨0, by decide⟩ : ClockReading).iso (noteEnvelopeJson "op-1" (.string ""))
    (noteEnvelope "op-1" (.string ""))
  have hinsert : ((emptyOutbox ["group"]).outbox.insert? row).isSome :=
    Table.insert?_isSome fun _ _ _ _ other hother => absurd hother List.not_mem_nil
  obtain ⟨table, htable⟩ := Option.isSome_iff_exists.mp hinsert
  have hgroup : row.syncGroupId ∈ (emptyOutbox ["group"]).syncGroupIds := List.mem_cons_self
  have hrun : (insertStatement row).run (emptyOutbox ["group"]) = .ok {
      database := { emptyOutbox ["group"] with outbox := table }
      rows := []
      rowsAffected := 1 } := by
    simp only [insertStatement, Statement.run, htable, if_pos hgroup]
  have hafter : afterOperations [enqueueNote] (emptyOutbox ["group"]) =
      { emptyOutbox ["group"] with outbox := table } := by
    simp only [afterOperations, List.foldl_cons, List.foldl_nil, enqueueNote,
      OutboxOperation.program, enqueue, hvalid]
    rw [Program.run_bind_ok _ (Program.run_bind_ok _ (memory_execute_run hrun))]
    rfl
  rw [hafter]
  refine ⟨row, ?_, rfl, rfl⟩
  rw [Table.mem_def, Table.insert?_eq_some_iff.mp htable]
  exact List.mem_append_right _ List.mem_cons_self

/-- One enqueued note waits, and is not announced. -/
theorem pending_disagree_on_note :
    ¬ ∀ organisationId,
      organisationId ∈ queryPendingOutboxOrgs
          (some (afterOperations [enqueueNote] (emptyOutbox ["group"])).outbox) ↔
        ∃ row, Selects organisationId
          (afterOperations [enqueueNote] (emptyOutbox ["group"])) row := by
  intro hagree
  obtain ⟨row, hrow, hpending, horganisation⟩ := enqueueNote_row
  have hnamed : ¬ isBlank row.organisationId := by
    rw [horganisation]
    decide
  have hannounced := (hagree row.organisationId).mpr (exists_selects hrow hpending hnamed)
  rw [queryPendingOutboxOrgs_eq_nil] at hannounced
  exact absurd hannounced List.not_mem_nil

end OutboxService
end TauriPlatform
