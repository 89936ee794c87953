import TauriPlatform.DatabaseConnection
import TauriPlatform.JsonParse
import TauriPlatform.RelationalTable
import TauriPlatform.IsoTimestamp
import TauriPlatform.SyncEnvelopeBuilder

/-!
# The durable outbox

`OutboxService` keeps the signed envelopes which wait for transport.  A row keeps
the whole envelope as JSON beside its columns, and is only sent while the two
agree.
-/

namespace TauriPlatform

open Async Relational

/-! ## The table -/

inductive OutboxStatus where
  | pending
  | sent
  | failed
  deriving DecidableEq, Repr

def OutboxStatus.text : OutboxStatus → String
  | .pending => "PENDING"
  | .sent => "SENT"
  | .failed => "FAILED"

/-- A row of `core_sync_outbox`; rows of earlier versions have no envelope. -/
structure OutboxRow where
  id : String
  createdAt : String
  envelopeId : String
  organisationId : String
  syncGroupId : String
  featureId : String
  entityType : String
  entityId : String
  operation : OperationType
  payloadJson : String
  authorId : String
  deviceId : String
  logicalTimestamp : String
  schemaVersion : Int
  protocolVersion : Int
  signerPublicKey : String
  signature : String
  status : OutboxStatus
  attemptCount : Int
  lastAttemptAt : Option String
  sentAt : Option String
  envelopeJson : Option String
  deriving DecidableEq

def outboxColumns : List (Column OutboxRow) :=
  [⟨"id", fun row => .text row.id⟩,
    ⟨"created_at", fun row => .text row.createdAt⟩,
    ⟨"envelope_id", fun row => .text row.envelopeId⟩,
    ⟨"organisation_id", fun row => .text row.organisationId⟩,
    ⟨"sync_group_id", fun row => .text row.syncGroupId⟩,
    ⟨"feature_id", fun row => .text row.featureId⟩,
    ⟨"entity_type", fun row => .text row.entityType⟩,
    ⟨"entity_id", fun row => .text row.entityId⟩,
    ⟨"operation", fun row => .text row.operation.text⟩,
    ⟨"payload_json", fun row => .text row.payloadJson⟩,
    ⟨"author_id", fun row => .text row.authorId⟩,
    ⟨"device_id", fun row => .text row.deviceId⟩,
    ⟨"logical_timestamp", fun row => .text row.logicalTimestamp⟩,
    ⟨"schema_version", fun row => .integer row.schemaVersion⟩,
    ⟨"protocol_version", fun row => .integer row.protocolVersion⟩,
    ⟨"signer_public_key", fun row => .text row.signerPublicKey⟩,
    ⟨"signature", fun row => .text row.signature⟩,
    ⟨"status", fun row => .text row.status.text⟩,
    ⟨"attempt_count", fun row => .integer row.attemptCount⟩,
    ⟨"last_attempt_at", fun row => .ofText? row.lastAttemptAt⟩,
    ⟨"sent_at", fun row => .ofText? row.sentAt⟩,
    ⟨"envelope_json", fun row => .ofText? row.envelopeJson⟩]

def outboxIndexes : List (UniqueIndex OutboxRow String) :=
  [fun row => some row.id, fun row => some row.envelopeId]

abbrev OutboxTable := Table OutboxRow String outboxIndexes

structure OutboxDatabase where
  syncGroupIds : List String
  outbox : OutboxTable

namespace OutboxService

def maxOutboxBatchSize : Int := 50

/-! ## Statements -/

def insertStatement (row : OutboxRow) : Statement OutboxDatabase Unit where
  sql := "INSERT INTO core_sync_outbox (
        id, created_at, envelope_id, envelope_json, organisation_id, sync_group_id, feature_id,
        entity_type, entity_id, operation, payload_json, author_id, device_id,
        logical_timestamp, schema_version, protocol_version,
        signer_public_key, signature, status, attempt_count
      ) VALUES (?, ?, ?, ?, ?, ?, ?, ?, ?, ?, ?, ?, ?, ?, ?, ?, ?, ?, 'PENDING', 0)"
  params := [.string row.id, .string row.createdAt, .string row.envelopeId,
    .ofString? row.envelopeJson, .string row.organisationId, .string row.syncGroupId,
    .string row.featureId, .string row.entityType, .string row.entityId,
    .string row.operation.text, .string row.payloadJson, .string row.authorId,
    .string row.deviceId, .string row.logicalTimestamp,
    .number (.integer row.schemaVersion), .number (.integer row.protocolVersion),
    .string row.signerPublicKey, .string row.signature]
  columns := []
  effect := .write fun database =>
    match database.outbox.insert? row with
    | none => .error "UNIQUE constraint failed: core_sync_outbox"
    | some later =>
        if row.syncGroupId ∈ database.syncGroupIds then
          .ok { database := { database with outbox := later }, rows := [], rowsAffected := 1 }
        else .error "FOREIGN KEY constraint failed"

/-- `UPDATE core_sync_outbox SET … WHERE envelope_id = ? AND status = 'PENDING'`. -/
def updateStatement (sql : String) (params : List JsonValue) (envelopeId : String)
    (set : OutboxRow → OutboxRow) : Statement OutboxDatabase Unit where
  sql := sql
  params := params
  columns := []
  effect := .write fun database =>
    let condition := fun row : OutboxRow =>
      decide (row.envelopeId = envelopeId) && decide (row.status = .pending)
    match database.outbox.update? condition set with
    | none => .error "UNIQUE constraint failed: core_sync_outbox"
    | some later =>
        .ok {
          database := { database with outbox := later }
          rows := []
          rowsAffected := (database.outbox.select condition).length }

def sent (now : String) (row : OutboxRow) : OutboxRow :=
  { row with status := .sent, sentAt := some now }

def sentStatement (now envelopeId : String) : Statement OutboxDatabase Unit :=
  updateStatement
    "UPDATE core_sync_outbox
       SET status = 'SENT', sent_at = ?
       WHERE envelope_id = ? AND status = 'PENDING'"
    [.string now, .string envelopeId] envelopeId (sent now)

def failedAttempt (now : String) (maxAttempts : Int) (row : OutboxRow) : OutboxRow :=
  { row with
    attemptCount := row.attemptCount + 1
    lastAttemptAt := some now
    status := if maxAttempts ≤ row.attemptCount + 1 then .failed else row.status }

def failedStatement (now envelopeId : String) (maxAttempts : Int) :
    Statement OutboxDatabase Unit :=
  updateStatement
    "UPDATE core_sync_outbox
         SET attempt_count = attempt_count + 1,
             last_attempt_at = ?,
             status = CASE WHEN attempt_count + 1 >= ? THEN 'FAILED' ELSE status END
       WHERE envelope_id = ? AND status = 'PENDING'"
    [.string now, .number (.integer maxAttempts), .string envelopeId] envelopeId
    (failedAttempt now maxAttempts)

def pendingRows (organisationId : String) (table : OutboxTable) : List OutboxRow :=
  Table.orderBy (fun left right => left.createdAt ≤ right.createdAt)
    (table.select fun row =>
      decide (row.status = .pending) && decide (row.organisationId = organisationId))

def pendingStatement (organisationId : String) (limit : Int) :
    Statement OutboxDatabase OutboxRow where
  sql := "SELECT * FROM core_sync_outbox
       WHERE status = 'PENDING' AND organisation_id = ?
       ORDER BY created_at ASC LIMIT ?"
  params := [.string organisationId, .number (.integer limit)]
  columns := outboxColumns
  effect := .read fun database =>
    (pendingRows organisationId database.outbox).take limit.toNat

/-! ## Enqueueing -/

/-- The row which `enqueue` inserts. -/
def newRow (id now : String) (envelope : JsonValue) (validated : SyncEnvelope) :
    OutboxRow where
  id := id
  createdAt := now
  envelopeId := validated.envelopeId
  organisationId := validated.operation.organisationId
  syncGroupId := validated.operation.syncGroupId
  featureId := validated.operation.featureId
  entityType := validated.operation.entityType
  entityId := validated.operation.entityId
  operation := validated.operation.operation
  payloadJson := validated.operation.payload.stringify
  authorId := validated.operation.authorId
  deviceId := validated.operation.deviceId
  logicalTimestamp := validated.operation.logicalTimestamp
  schemaVersion := validated.operation.schemaVersion
  protocolVersion := validated.operation.protocolVersion
  signerPublicKey := validated.signerPublicKey
  signature := validated.signature
  status := .pending
  attemptCount := 0
  lastAttemptAt := none
  sentAt := none
  envelopeJson := some envelope.stringify

/-- `OutboxService.enqueue`; the fields of the record are those of the row. -/
def enqueue {Call : Type → Type 1} (executor : Executor OutboxDatabase Call)
    (id now : String) (envelope : JsonValue) : Program Call Thrown OutboxRow :=
  match SyncEnvelopeBuilder.validateEnvelope envelope with
  | .error message =>
      throw (validationError s!"Invalid outbox envelope: {message}"
        "The sync operation is invalid or too large" "outbox_envelope_invalid")
  | .ok validated => do
      executor.execute (insertStatement (newRow id now envelope validated))
      pure (newRow id now envelope validated)

/-! ## Sending -/

def markSent (now : ClockReading) (envelopeId : String) :
    Program (DbCall OutboxDatabase) Thrown Unit :=
  (connectionExecutor OutboxDatabase).execute (sentStatement now.iso envelopeId)

def markFailed (now : ClockReading) (envelopeId : String) (maxAttempts : NumberValue) :
    Program (DbCall OutboxDatabase) Thrown Unit :=
  match maxAttempts.safeInteger?.filter (0 < ·) with
  | none =>
      throw (validationError "Outbox maxAttempts must be a positive safe integer"
        "The sync retry limit is invalid" "outbox_max_attempts")
  | some maxAttempts =>
      (connectionExecutor OutboxDatabase).execute
        (failedStatement now.iso envelopeId maxAttempts)

/-- The default of `maxAttempts`. -/
def defaultMaxAttempts : NumberValue :=
  .finite (.integer 5)

structure OutboxRecord where
  row : OutboxRow
  envelopeJson : String

/-- The message of a `SyntaxError`, which differs between engines. -/
def jsonSyntaxError : String :=
  "Unexpected token in JSON"

/-- The checks of `pendingBatch` on one row; the failure is the message of the error. -/
def checkPersisted (row : OutboxRow) : Except String OutboxRecord := do
  match row.envelopeJson with
  | none => throw "Pending outbox row predates full-envelope persistence"
  | some text =>
      match parseJson? text with
      | none => throw jsonSyntaxError
      | some envelope =>
          let validated ← SyncEnvelopeBuilder.validateEnvelope envelope
          let operation := validated.operation
          SyncEnvelopeBuilder.ensure
            (validated.envelopeId = row.envelopeId ∧
              validated.signerPublicKey = row.signerPublicKey ∧
              validated.signature = row.signature ∧
              operation.organisationId = row.organisationId ∧
              operation.syncGroupId = row.syncGroupId ∧
              operation.featureId = row.featureId ∧
              operation.entityType = row.entityType ∧
              operation.entityId = row.entityId ∧
              operation.operation = row.operation ∧
              operation.payload.stringify = row.payloadJson ∧
              operation.authorId = row.authorId ∧
              operation.deviceId = row.deviceId ∧
              operation.logicalTimestamp = row.logicalTimestamp ∧
              operation.schemaVersion = row.schemaVersion ∧
              operation.protocolVersion = row.protocolVersion)
            "Persisted sync envelope does not match its outbox metadata"
          return { row := row, envelopeJson := text }

def readRecord (row : OutboxRow) : Except Thrown OutboxRecord :=
  match checkPersisted row with
  | .ok record => .ok record
  | .error message =>
      .error (validationError s!"Invalid persisted outbox envelope: {message}"
        "A queued sync operation requires repair before it can be sent"
        "outbox_envelope_corrupt")

/-- The number of rows which `pendingBatch` is asked for, if it is admitted. -/
def admittedLimit? (limit : NumberValue) : Option Int :=
  limit.safeInteger?.filter fun limit => 0 < limit ∧ limit ≤ maxOutboxBatchSize

def pendingBatch (organisationId : String) (limit : NumberValue) :
    Program (DbCall OutboxDatabase) Thrown (List OutboxRecord) :=
  if isBlank organisationId then
    throw (validationError "Outbox organisationId must be a non-empty string"
      "The sync organisation is invalid" "outbox_organisation")
  else
    match admittedLimit? limit with
    | none =>
        throw (validationError
          ("Outbox batch limit must be a positive safe integer no greater than " ++
            s!"{maxOutboxBatchSize}")
          "The sync batch size is invalid" "outbox_batch_limit")
    | some limit => do
        let rows ← (connectionExecutor OutboxDatabase).query
          (pendingStatement organisationId limit)
        Program.ofExcept (rows.mapM readRecord)

end OutboxService
end TauriPlatform
