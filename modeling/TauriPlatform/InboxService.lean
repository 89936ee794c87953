import TauriPlatform.DatabaseConnection
import TauriPlatform.RelationalTable
import TauriPlatform.SyncEnvelopeBuilder

/-!
# The durable inbox

`InboxService.receive` stores a received envelope with the outcome of its
signature check, and ignores an envelope id which is already stored.  A row is
never replaced, so the first delivery which is well formed decides what the
inbox holds for its envelope id.
-/

namespace TauriPlatform

open Async Relational

/-! ## The table -/

inductive VerificationStatus where
  | unverified
  | verified
  | rejected
  deriving DecidableEq, Repr

def VerificationStatus.text : VerificationStatus → String
  | .unverified => "UNVERIFIED"
  | .verified => "VERIFIED"
  | .rejected => "REJECTED"

inductive ApplyStatus where
  | pending
  | applied
  | conflict
  | failed
  deriving DecidableEq, Repr

def ApplyStatus.text : ApplyStatus → String
  | .pending => "PENDING"
  | .applied => "APPLIED"
  | .conflict => "CONFLICT"
  | .failed => "FAILED"

/-- A row of `core_sync_inbox`. -/
structure InboxRow where
  id : String
  createdAt : String
  envelopeId : String
  organisationId : String
  fromDeviceId : String
  syncGroupId : String
  featureId : String
  entityType : String
  entityId : String
  operation : OperationType
  payloadJson : String
  logicalTimestamp : String
  schemaVersion : Int
  protocolVersion : Int
  signerPublicKey : String
  signature : String
  verificationStatus : VerificationStatus
  applyStatus : ApplyStatus
  appliedAt : Option String
  conflictId : Option String
  deriving DecidableEq

/-- The fields of `InboxRecord` are those of the row. -/
abbrev InboxRecord := InboxRow

def inboxColumns : List (Column InboxRow) :=
  [⟨"id", fun row => .text row.id⟩,
    ⟨"created_at", fun row => .text row.createdAt⟩,
    ⟨"envelope_id", fun row => .text row.envelopeId⟩,
    ⟨"organisation_id", fun row => .text row.organisationId⟩,
    ⟨"from_device_id", fun row => .text row.fromDeviceId⟩,
    ⟨"sync_group_id", fun row => .text row.syncGroupId⟩,
    ⟨"feature_id", fun row => .text row.featureId⟩,
    ⟨"entity_type", fun row => .text row.entityType⟩,
    ⟨"entity_id", fun row => .text row.entityId⟩,
    ⟨"operation", fun row => .text row.operation.text⟩,
    ⟨"payload_json", fun row => .text row.payloadJson⟩,
    ⟨"logical_timestamp", fun row => .text row.logicalTimestamp⟩,
    ⟨"schema_version", fun row => .integer row.schemaVersion⟩,
    ⟨"protocol_version", fun row => .integer row.protocolVersion⟩,
    ⟨"signer_public_key", fun row => .text row.signerPublicKey⟩,
    ⟨"signature", fun row => .text row.signature⟩,
    ⟨"verification_status", fun row => .text row.verificationStatus.text⟩,
    ⟨"apply_status", fun row => .text row.applyStatus.text⟩,
    ⟨"applied_at", fun row => .ofText? row.appliedAt⟩,
    ⟨"conflict_id", fun row => .ofText? row.conflictId⟩]

/-- `id` is the primary key and `envelope_id` is unique. -/
def inboxIndexes : List (UniqueIndex InboxRow String) :=
  [fun row => some row.id, fun row => some row.envelopeId]

abbrev InboxTable := Table InboxRow String inboxIndexes

namespace InboxService

/-! ## Statements -/

/-- `INSERT … ON CONFLICT(envelope_id) DO NOTHING`. -/
def insertIgnoringDuplicates (table : InboxTable) (row : InboxRow) :
    Except String (StatementResult InboxTable Unit) :=
  if table.rows.any (fun other => other.envelopeId = row.envelopeId) then
    .ok { database := table, rows := [], rowsAffected := 0 }
  else
    match table.insert? row with
    | some later => .ok { database := later, rows := [], rowsAffected := 1 }
    | none => .error "UNIQUE constraint failed: core_sync_inbox.id"

def insertStatement (row : InboxRow) : Statement InboxTable Unit where
  sql := "INSERT INTO core_sync_inbox (
        id, created_at, envelope_id, organisation_id, from_device_id,
        sync_group_id, feature_id, entity_type, entity_id, operation,
        payload_json, logical_timestamp, schema_version, protocol_version,
        signer_public_key, signature, verification_status, apply_status
      ) VALUES (?, ?, ?, ?, ?, ?, ?, ?, ?, ?, ?, ?, ?, ?, ?, ?, ?, 'PENDING')
      ON CONFLICT(envelope_id) DO NOTHING"
  params := [.string row.id, .string row.createdAt, .string row.envelopeId,
    .string row.organisationId, .string row.fromDeviceId, .string row.syncGroupId,
    .string row.featureId, .string row.entityType, .string row.entityId,
    .string row.operation.text, .string row.payloadJson, .string row.logicalTimestamp,
    .number (.integer row.schemaVersion), .number (.integer row.protocolVersion),
    .string row.signerPublicKey, .string row.signature,
    .string row.verificationStatus.text]
  columns := []
  effect := .write fun table => insertIgnoringDuplicates table row

def selectByEnvelopeId (envelopeId : String) : Statement InboxTable InboxRow where
  sql := "SELECT * FROM core_sync_inbox WHERE envelope_id = ? LIMIT 1"
  params := [.string envelopeId]
  columns := inboxColumns
  effect := .read fun table =>
    (table.select fun row => row.envelopeId = envelopeId).take 1

theorem insertStatement_run (row : InboxRow) (table : InboxTable) :
    (insertStatement row).run table = insertIgnoringDuplicates table row :=
  rfl

theorem selectByEnvelopeId_run (envelopeId : String) (table : InboxTable) :
    (selectByEnvelopeId envelopeId).run table = .ok {
      database := table
      rows := (table.select fun row => row.envelopeId = envelopeId).take 1
      rowsAffected := 0 } :=
  rfl

/-! ## Receiving -/

def deliveredStatus (envelope : JsonValue) (verifyFn : VerifyFn) : VerificationStatus :=
  match SyncEnvelopeBuilder.verify envelope verifyFn with
  | .ok true => .verified
  | .ok false => .rejected
  | .error _ => .rejected

def deliveredRow (id now : String) (envelope : SyncEnvelope)
    (verificationStatus : VerificationStatus) : InboxRow where
  id := id
  createdAt := now
  envelopeId := envelope.envelopeId
  organisationId := envelope.operation.organisationId
  fromDeviceId := envelope.operation.deviceId
  syncGroupId := envelope.operation.syncGroupId
  featureId := envelope.operation.featureId
  entityType := envelope.operation.entityType
  entityId := envelope.operation.entityId
  operation := envelope.operation.operation
  payloadJson := envelope.operation.payload.stringify
  logicalTimestamp := envelope.operation.logicalTimestamp
  schemaVersion := envelope.operation.schemaVersion
  protocolVersion := envelope.operation.protocolVersion
  signerPublicKey := envelope.signerPublicKey
  signature := envelope.signature
  verificationStatus := verificationStatus
  applyStatus := .pending
  appliedAt := none
  conflictId := none

/-- `InboxService.receive`; `id` is the generated record id and `now` the clock
reading. -/
def receive {Call : Type → Type 1} (executor : Executor InboxTable Call)
    (id now : String) (envelope : JsonValue) (verifyFn : VerifyFn) :
    Program Call Thrown InboxRecord :=
  match SyncEnvelopeBuilder.validateEnvelope envelope with
  | .error message =>
      throw (validationError s!"Invalid inbound sync envelope: {message}"
        "The received sync operation is invalid" "inbox_invalid")
  | .ok validated => do
      let envelopeId := validated.envelopeId
      let verificationStatus := deliveredStatus envelope verifyFn
      executor.execute (insertStatement (deliveredRow id now validated verificationStatus))
      let rows ← executor.query (selectByEnvelopeId envelopeId)
      match rows with
      | [] =>
          throw (validationError
            s!"Inbox insert for envelope '{envelopeId}' completed without a stored row"
            "The received sync operation could not be stored" "inbox_store")
      | stored :: _ =>
          if stored.signerPublicKey ≠ validated.signerPublicKey ∨
              stored.signature ≠ validated.signature ∨
              (stored.id ≠ id ∧ verificationStatus ≠ .verified) then
            throw (validationError
              s!"Envelope ID '{envelopeId}' is already bound to a different signed operation"
              "The received sync operation conflicts with an existing operation"
              "inbox_collision")
          else
            pure stored

theorem receive_run_of_invalid {id now : String} {envelope : JsonValue}
    {verifyFn : VerifyFn} {message : String}
    (hinvalid : SyncEnvelopeBuilder.validateEnvelope envelope = .error message)
    (table : InboxTable) :
    ((receive (connectionExecutor InboxTable) id now envelope verifyFn).run
      memoryConnection table).2 = table := by
  simp [receive, hinvalid]

theorem receive_run_of_valid {id now : String} {envelope : JsonValue}
    {verifyFn : VerifyFn} {validated : SyncEnvelope}
    (hvalid : SyncEnvelopeBuilder.validateEnvelope envelope = .ok validated)
    (table : InboxTable) :
    ((receive (connectionExecutor InboxTable) id now envelope verifyFn).run
        memoryConnection table).2 =
      match insertIgnoringDuplicates table
          (deliveredRow id now validated (deliveredStatus envelope verifyFn)) with
      | .ok result => result.database
      | .error _ => table := by
  rw [← insertStatement_run]
  simp only [receive, hvalid, Program.run_bind]
  cases hinsert : (insertStatement
      (deliveredRow id now validated (deliveredStatus envelope verifyFn))).run table with
  | error message =>
      obtain ⟨error, hexecute⟩ := memory_execute_run_error hinsert
      rw [hexecute]
  | ok result =>
      rw [memory_execute_run hinsert]
      simp only
      rw [memory_query_run (selectByEnvelopeId_run _ _)]
      simp only
      split
      · rfl
      · split_ifs <;> rfl

end InboxService
end TauriPlatform
