import TauriPlatform.JsonValue
import TauriPlatform.HybridLogicalClock
import TauriPlatform.PlatformError

/-!
# Sync operations and their signed envelopes
-/

namespace TauriPlatform

inductive OperationType where
  | create
  | update
  | delete
  deriving DecidableEq, Repr

def OperationType.text : OperationType → String
  | .create => "create"
  | .update => "update"
  | .delete => "delete"

structure SyncOperation where
  operationId : String
  applicationId : String
  organisationId : String
  syncGroupId : String
  featureId : String
  entityType : String
  entityId : String
  operation : OperationType
  payload : JsonValue
  authorId : String
  deviceId : String
  logicalTimestamp : String
  schemaVersion : Int
  protocolVersion : Int

def SyncOperation.toJson (operation : SyncOperation) : JsonValue :=
  .object [("operationId", .string operation.operationId),
    ("applicationId", .string operation.applicationId),
    ("organisationId", .string operation.organisationId),
    ("syncGroupId", .string operation.syncGroupId),
    ("featureId", .string operation.featureId),
    ("entityType", .string operation.entityType),
    ("entityId", .string operation.entityId),
    ("operation", .string operation.operation.text),
    ("payload", operation.payload),
    ("authorId", .string operation.authorId),
    ("deviceId", .string operation.deviceId),
    ("logicalTimestamp", .string operation.logicalTimestamp),
    ("schemaVersion", .number (.integer operation.schemaVersion)),
    ("protocolVersion", .number (.integer operation.protocolVersion))]

structure SyncEnvelope where
  envelopeId : String
  signedAt : String
  signerPublicKey : String
  signature : String
  operation : SyncOperation

def SyncEnvelope.toJson (envelope : SyncEnvelope) : JsonValue :=
  .object [("envelopeId", .string envelope.envelopeId),
    ("signedAt", .string envelope.signedAt),
    ("signerPublicKey", .string envelope.signerPublicKey),
    ("signature", .string envelope.signature),
    ("operation", envelope.operation.toJson)]

end TauriPlatform
