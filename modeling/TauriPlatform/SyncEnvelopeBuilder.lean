import TauriPlatform.SyncEnvelope

/-!
# Validation and canonical form of sync envelopes

A received envelope is an arbitrary JSON value until `validateEnvelope` accepts
it; the accepted value is then read as a `SyncEnvelope`.  A signature covers the
canonical bytes of the operation, in which keys are sorted at every level.
-/

namespace TauriPlatform

def maxSyncEnvelopeSizeBytes : Nat := 10 * 1024 * 1024

/-- The outcome of asking for the verification of a signature over some bytes. -/
abbrev VerifyFn := String → ByteArray → String → Except Thrown Bool

/-! ## Canonical bytes -/

def sortEntries (entries : List (String × JsonValue)) : List (String × JsonValue) :=
  (entries.insertionSort fun left right => codeUnitLe left.1 right.1).foldl
    (fun sorted entry => defineProperty sorted entry.1 entry.2) []

mutual

def sortedKeys : JsonValue → JsonValue
  | .array items => .array (sortedItems items)
  | .object entries => .object (sortEntries (sortedEntries entries))
  | value => value
termination_by structural value => value

def sortedItems : List JsonValue → List JsonValue
  | [] => []
  | item :: rest => sortedKeys item :: sortedItems rest
termination_by structural items => items

def sortedEntries : List (String × JsonValue) → List (String × JsonValue)
  | [] => []
  | (key, value) :: rest => (key, sortedKeys value) :: sortedEntries rest
termination_by structural entries => entries

end

mutual

def templateText : JsonValue → String
  | .null => "null"
  | .bool true => "true"
  | .bool false => "false"
  | .number value => String.ofList value.text
  | .string value => value
  | .array items => ",".intercalate (templateItems items)
  | .object _ => "[object Object]"
termination_by structural value => value

/-- Elements joined by `Array.prototype.join`, which leaves `null` empty. -/
def templateItems : List JsonValue → List String
  | [] => []
  | .null :: rest => "" :: templateItems rest
  | item :: rest => templateText item :: templateItems rest
termination_by structural items => items

end

namespace SyncEnvelopeBuilder

/-! ## Validation -/

def ensure (condition : Prop) [Decidable condition] (message : String) :
    Except String Unit :=
  if condition then .ok () else .error message

def requireField (operation : JsonValue) (field : String) : Except String String :=
  match operation.get? field with
  | some (.string value) =>
      if isBlank value ∨ jsLength value > 1024 then
        .error s!"Invalid sync operation field: {field}"
      else .ok value
  | _ => .error s!"Invalid sync operation field: {field}"

def requireOperationType (operation : JsonValue) : Except String OperationType :=
  match operation.get? "operation" with
  | some (.string "create") => .ok .create
  | some (.string "update") => .ok .update
  | some (.string "delete") => .ok .delete
  | _ => .error "Invalid sync operation type"

def requireVersion (operation : JsonValue) (field : String) : Except String Int :=
  match (operation.get? field).bind JsonValue.safeInteger? with
  | some version =>
      if version < 1 then .error "Invalid sync operation version" else .ok version
  | none => .error "Invalid sync operation version"

/-- `validateOperation`: the checks in their order, and the operation read off. -/
def validateOperation (operation : JsonValue) : Except String SyncOperation := do
  ensure operation.isRecord "Invalid sync operation"
  let operationId ← requireField operation "operationId"
  let applicationId ← requireField operation "applicationId"
  let organisationId ← requireField operation "organisationId"
  let syncGroupId ← requireField operation "syncGroupId"
  let featureId ← requireField operation "featureId"
  let entityType ← requireField operation "entityType"
  let entityId ← requireField operation "entityId"
  let authorId ← requireField operation "authorId"
  let deviceId ← requireField operation "deviceId"
  let logicalTimestamp ← requireField operation "logicalTimestamp"
  let operationType ← requireOperationType operation
  let schemaVersion ← requireVersion operation "schemaVersion"
  let protocolVersion ← requireVersion operation "protocolVersion"
  match operation.get? "payload" with
  | none => throw "Sync operation payload is required"
  | some payload =>
      let _ ← HybridLogicalClock.parse logicalTimestamp
      return {
        operationId := operationId
        applicationId := applicationId
        organisationId := organisationId
        syncGroupId := syncGroupId
        featureId := featureId
        entityType := entityType
        entityId := entityId
        operation := operationType
        payload := payload
        authorId := authorId
        deviceId := deviceId
        logicalTimestamp := logicalTimestamp
        schemaVersion := schemaVersion
        protocolVersion := protocolVersion }

/-- `/^ed25519_pk_[0-9a-f]{64}$/`. -/
def isPublicKey (text : String) : Bool :=
  let chars := text.toList
  chars.take 11 = "ed25519_pk_".toList && (chars.drop 11).length = 64 &&
    (chars.drop 11).all isLowerHexDigit

/-- `/^[0-9a-f]{128}$/`. -/
def isValidSignatureHex (text : String) : Bool :=
  text.toList.length = 128 && text.toList.all isLowerHexDigit

def validatePublicKeyFormat (publicKey : Option JsonValue) : Except String String :=
  match publicKey with
  | some (.string text) => if isPublicKey text then .ok text else invalid text
  | some other => invalid (templateText other)
  | none => invalid "undefined"
where
  invalid (text : String) : Except String String :=
    .error (s!"Invalid signer public key format. " ++
      "Expected 'ed25519_pk_<64-hex-chars>', got: '" ++ text ++ "'")

/-- A signing timestamp is the text which `toISOString` gives for some instant. -/
def validateSignedAt (signedAt : Option JsonValue) : Except String String :=
  match signedAt with
  | some (.string text) =>
      if (isoInstant? text).isSome then .ok text
      else .error "Invalid envelope signing timestamp"
  | _ => .error "Invalid envelope signing timestamp"

def validateSignature (signature : Option JsonValue) : Except String String :=
  match signature with
  | some (.string text) =>
      if isValidSignatureHex text then .ok text
      else .error "Invalid envelope signature format"
  | _ => .error "Invalid envelope signature format"

/-- `validateEnvelope`: the checks in their order, and the envelope read off. -/
def validateEnvelope (envelope : JsonValue) : Except String SyncEnvelope := do
  ensure envelope.isRecord "Invalid sync envelope"
  let operation ← validateOperation ((envelope.get? "operation").getD .null)
  ensure ((envelope.get? "envelopeId").bind JsonValue.string? =
    some operation.operationId) "Envelope ID must match operation ID"
  let signedAt ← validateSignedAt (envelope.get? "signedAt")
  let signerPublicKey ← validatePublicKeyFormat (envelope.get? "signerPublicKey")
  let signature ← validateSignature (envelope.get? "signature")
  ensure (utf8Length envelope.serialize ≤ maxSyncEnvelopeSizeBytes)
    s!"Sync envelope exceeds the {maxSyncEnvelopeSizeBytes}-byte transport limit"
  return {
    envelopeId := operation.operationId
    signedAt := signedAt
    signerPublicKey := signerPublicKey
    signature := signature
    operation := operation }

theorem check_bind_eq_ok {α β : Type} {check : Except String α}
    {rest : α → Except String β} {result : β} (hok : (check >>= rest) = .ok result) :
    ∃ value, check = .ok value ∧ rest value = .ok result := by
  cases check with
  | error message => cases hok
  | ok value => exact ⟨value, rfl, hok⟩

structure OperationChecks (operation : JsonValue) (validated : SyncOperation) : Prop where
  isRecord : operation.isRecord
  operationId : requireField operation "operationId" = .ok validated.operationId
  applicationId : requireField operation "applicationId" = .ok validated.applicationId
  organisationId : requireField operation "organisationId" = .ok validated.organisationId
  syncGroupId : requireField operation "syncGroupId" = .ok validated.syncGroupId
  featureId : requireField operation "featureId" = .ok validated.featureId
  entityType : requireField operation "entityType" = .ok validated.entityType
  entityId : requireField operation "entityId" = .ok validated.entityId
  authorId : requireField operation "authorId" = .ok validated.authorId
  deviceId : requireField operation "deviceId" = .ok validated.deviceId
  logicalTimestamp : requireField operation "logicalTimestamp" = .ok validated.logicalTimestamp
  operationType : requireOperationType operation = .ok validated.operation
  schemaVersion : requireVersion operation "schemaVersion" = .ok validated.schemaVersion
  protocolVersion : requireVersion operation "protocolVersion" = .ok validated.protocolVersion
  payload : operation.get? "payload" = some validated.payload
  parsed : ∃ parsed, HybridLogicalClock.parse validated.logicalTimestamp = .ok parsed

theorem ensure_eq_ok_iff {condition : Prop} [Decidable condition] {message : String} :
    ensure condition message = .ok () ↔ condition := by
  simp [ensure]

theorem validateOperation_eq_ok_iff {operation : JsonValue} {validated : SyncOperation} :
    validateOperation operation = .ok validated ↔ OperationChecks operation validated := by
  unfold validateOperation
  constructor
  · intro haccepted
    obtain ⟨_, hrecord, haccepted⟩ := check_bind_eq_ok haccepted
    iterate 13 obtain ⟨_, _, haccepted⟩ := check_bind_eq_ok haccepted
    split at haccepted
    · cases haccepted
    · obtain ⟨parsed, _, haccepted⟩ := check_bind_eq_ok haccepted
      cases haccepted
      constructor <;> first | assumption | exact ⟨parsed, ‹_›⟩ | exact ensure_eq_ok_iff.mp hrecord
  · intro hchecks
    obtain ⟨parsed, hparsed⟩ := hchecks.parsed
    rw [hchecks.operationId, hchecks.applicationId, hchecks.organisationId, hchecks.syncGroupId,
      hchecks.featureId, hchecks.entityType, hchecks.entityId, hchecks.authorId, hchecks.deviceId,
      hchecks.logicalTimestamp, hchecks.operationType, hchecks.schemaVersion,
      hchecks.protocolVersion, hchecks.payload, ensure, if_pos hchecks.isRecord]
    simp only [bind, Except.bind, hparsed]
    rfl

theorem validatePublicKeyFormat_eq_ok {publicKey : Option JsonValue} {text : String}
    (hkey : validatePublicKeyFormat publicKey = .ok text) :
    publicKey = some (.string text) ∧ isPublicKey text := by
  unfold validatePublicKeyFormat at hkey
  split at hkey
  · split_ifs at hkey with hpublic
    · cases hkey
      exact ⟨rfl, hpublic⟩
    · cases hkey
  · cases hkey
  · cases hkey

theorem validateSignature_eq_ok {signature : Option JsonValue} {text : String}
    (hsignature : validateSignature signature = .ok text) :
    signature = some (.string text) ∧ isValidSignatureHex text := by
  unfold validateSignature at hsignature
  split at hsignature
  · split_ifs at hsignature with hhex
    cases hsignature
    exact ⟨rfl, hhex⟩
  · cases hsignature

structure EnvelopeChecks (envelope : JsonValue) (validated : SyncEnvelope) : Prop where
  isRecord : envelope.isRecord
  operation : validateOperation ((envelope.get? "operation").getD .null) = .ok validated.operation
  envelopeId : validated.envelopeId = validated.operation.operationId
  sameId : (envelope.get? "envelopeId").bind JsonValue.string? =
    some validated.operation.operationId
  signedAt : validateSignedAt (envelope.get? "signedAt") = .ok validated.signedAt
  signerPublicKey : validatePublicKeyFormat (envelope.get? "signerPublicKey") =
    .ok validated.signerPublicKey
  signature : validateSignature (envelope.get? "signature") = .ok validated.signature
  size : utf8Length envelope.serialize ≤ maxSyncEnvelopeSizeBytes

theorem validateEnvelope_eq_ok_iff {envelope : JsonValue} {validated : SyncEnvelope} :
    validateEnvelope envelope = .ok validated ↔ EnvelopeChecks envelope validated := by
  unfold validateEnvelope
  constructor
  · intro haccepted
    obtain ⟨_, hrecord, haccepted⟩ := check_bind_eq_ok haccepted
    obtain ⟨operation, hoperation, haccepted⟩ := check_bind_eq_ok haccepted
    obtain ⟨_, hsame, haccepted⟩ := check_bind_eq_ok haccepted
    obtain ⟨signedAt, hsignedAt, haccepted⟩ := check_bind_eq_ok haccepted
    obtain ⟨publicKey, hpublicKey, haccepted⟩ := check_bind_eq_ok haccepted
    obtain ⟨signature, hsignature, haccepted⟩ := check_bind_eq_ok haccepted
    obtain ⟨_, hsize, haccepted⟩ := check_bind_eq_ok haccepted
    cases haccepted
    exact ⟨ensure_eq_ok_iff.mp hrecord, hoperation, rfl, ensure_eq_ok_iff.mp hsame, hsignedAt,
      hpublicKey, hsignature, ensure_eq_ok_iff.mp hsize⟩
  · intro hchecks
    rw [hchecks.operation, hchecks.signedAt, hchecks.signerPublicKey, hchecks.signature,
      ensure_eq_ok_iff.mpr hchecks.isRecord, ensure_eq_ok_iff.mpr hchecks.size]
    simp only [bind, Except.bind, ensure_eq_ok_iff.mpr hchecks.sameId]
    rw [← hchecks.envelopeId]
    rfl

theorem validateEnvelope_operation {envelope : JsonValue} {validated : SyncEnvelope}
    (haccepted : validateEnvelope envelope = .ok validated) :
    validateOperation ((envelope.get? "operation").getD .null) =
        .ok validated.operation ∧
      validated.envelopeId = validated.operation.operationId :=
  let hchecks := validateEnvelope_eq_ok_iff.mp haccepted
  ⟨hchecks.operation, hchecks.envelopeId⟩

/-! ## Signatures -/

/-- `canonicalize`: the bytes which a signature covers. -/
def canonicalize (operation : JsonValue) : Except String ByteArray := do
  let _ ← validateOperation operation
  return (sortedKeys operation).stringify.toUTF8

def verify (envelope : JsonValue) (verifyFn : VerifyFn) : Except Thrown Bool :=
  match validateEnvelope envelope with
  | .error _ => .ok false
  | .ok validated =>
      match canonicalize ((envelope.get? "operation").getD .null) with
      | .error message => .error (.builtin "Error" message)
      | .ok canonicalBytes =>
          verifyFn validated.signerPublicKey canonicalBytes validated.signature

/-- On an accepted envelope `verify` is the answer of the verifier about the
canonical bytes of the operation. -/
theorem verify_of_accepted {envelope : JsonValue} {validated : SyncEnvelope}
    (haccepted : validateEnvelope envelope = .ok validated) (verifyFn : VerifyFn) :
    verify envelope verifyFn =
      verifyFn validated.signerPublicKey
        (sortedKeys ((envelope.get? "operation").getD .null)).stringify.toUTF8
        validated.signature := by
  obtain ⟨hoperation, -⟩ := validateEnvelope_operation haccepted
  simp only [verify, haccepted, canonicalize, hoperation]
  rfl

end SyncEnvelopeBuilder
end TauriPlatform
