import TauriPlatform.JsonRoundTrip
import TauriPlatform.LiveValue
import TauriPlatform.MigrationPreflight
import TauriPlatform.OutboxDurable
import TauriPlatform.ReadingRange
import Mathlib

/-!
# Envelopes built from live values

`build` signs an operation as JavaScript code holds it, after `structuredClone`; the other
device verifies what it has parsed.  A date and a boxed primitive are signed by their own
properties and sent as what `JSON.stringify` makes of them.
-/

namespace TauriPlatform

namespace JsValue

def get? (value : JsValue) (key : String) : Option JsValue :=
  match value with
  | .object entries => entries.lookup key
  | _ => none

/-- `typeof value === "object" && value !== null && !Array.isArray(value)`. -/
def isRecord : JsValue → Bool
  | .object _ => true
  | .date _ => true
  | .boxed _ _ => true
  | _ => false

/-- The value reads as `undefined`. -/
def isUndefined : JsValue → Bool
  | .undefined => true
  | .hole => true
  | _ => false

def string? : JsValue → Option String
  | .primitive (.string value) => some value
  | _ => none

def safeInteger? : JsValue → Option Int
  | .primitive (.number value) => value.safeInteger?
  | _ => none

end JsValue

namespace SyncEnvelopeBuilder

/-! ## Validation -/

def requiredOperationFields : List String :=
  ["operationId", "applicationId", "organisationId", "syncGroupId", "featureId", "entityType",
    "entityId", "authorId", "deviceId", "logicalTimestamp"]

def requireLiveField (operation : JsValue) (field : String) : Except String Unit :=
  match (operation.get? field).bind JsValue.string? with
  | some value =>
      if isBlank value ∨ jsLength value > 1024 then
        .error s!"Invalid sync operation field: {field}"
      else .ok ()
  | none => .error s!"Invalid sync operation field: {field}"

def requireLiveOperationType (operation : JsValue) : Except String Unit :=
  match (operation.get? "operation").bind JsValue.string? with
  | some "create" => .ok ()
  | some "update" => .ok ()
  | some "delete" => .ok ()
  | _ => .error "Invalid sync operation type"

def requireLiveVersion (operation : JsValue) (field : String) : Except String Unit :=
  match (operation.get? field).bind JsValue.safeInteger? with
  | some version => ensure (1 ≤ version) "Invalid sync operation version"
  | none => .error "Invalid sync operation version"

def requireLivePayload (operation : JsValue) : Except String Unit :=
  ensure ((operation.get? "payload").any fun payload => !payload.isUndefined)
    "Sync operation payload is required"

/-- `validateOperation` of a live value. -/
def validateLiveOperation (operation : JsValue) : Except String Unit := do
  ensure operation.isRecord "Invalid sync operation"
  requiredOperationFields.forM (requireLiveField operation)
  requireLiveOperationType operation
  requireLiveVersion operation "schemaVersion"
  requireLiveVersion operation "protocolVersion"
  requireLivePayload operation
  let logicalTimestamp := (operation.get? "logicalTimestamp").bind JsValue.string?
  let _ ← HybridLogicalClock.parse (logicalTimestamp.getD "")
  let serialized ← (JsValue.sortedKeys operation).stringify
  ensure serialized.isSome "Sync operation is not serializable"

/-- `canonicalize` of a live value. -/
def canonicalizeLive (operation : JsValue) : Except String ByteArray := do
  validateLiveOperation operation
  let canonical ← (JsValue.sortedKeys operation).stringify
  return (canonical.getD "undefined").toUTF8

def validateLiveSize (envelope : JsValue) : Except String Unit :=
  match envelope.stringify with
  | .ok (some serializedEnvelope) =>
      ensure (utf8Length serializedEnvelope.toList ≤ maxSyncEnvelopeSizeBytes)
        s!"Sync envelope exceeds the {maxSyncEnvelopeSizeBytes}-byte transport limit"
  | _ => .error "Sync envelope is not serializable"

/-- `validateEnvelope` of the live value which `build` makes, whose own fields are strings. -/
def validateLiveEnvelope (envelope : JsValue) : Except String Unit := do
  let textOf := fun field => ((envelope.get? field).bind JsValue.string?).map JsonValue.string
  let operation := (envelope.get? "operation").getD .undefined
  ensure envelope.isRecord "Invalid sync envelope"
  validateLiveOperation operation
  ensure ((envelope.get? "envelopeId").bind JsValue.string? =
    (operation.get? "operationId").bind JsValue.string?) "Envelope ID must match operation ID"
  let _ ← validateSignedAt (textOf "signedAt")
  let _ ← validatePublicKeyFormat (textOf "signerPublicKey")
  let _ ← validateSignature (textOf "signature")
  validateLiveSize envelope

/-! ## Building -/

def liveEnvelope (operation : JsValue) (signedAt signerPublicKey signature : String) : JsValue :=
  .object [("envelopeId", (operation.get? "operationId").getD .undefined),
    ("signedAt", .primitive (.string signedAt)),
    ("signerPublicKey", .primitive (.string signerPublicKey)),
    ("signature", .primitive (.string signature)), ("operation", operation)]

/-- `build`; `operation` is the snapshot which `structuredClone` makes, and `signFn` what the
signing callback answers for the canonical bytes. -/
def build (operation : JsValue) (signerPublicKey : String)
    (signFn : ByteArray → Except String String) (now : ClockReading) :
    Except String JsValue := do
  validateLiveOperation operation
  let _ ← validatePublicKeyFormat (some (.string signerPublicKey))
  let canonicalBytes ← canonicalizeLive operation
  ensure (canonicalBytes.size ≤ maxSyncEnvelopeSizeBytes)
    s!"Sync operation exceeds the {maxSyncEnvelopeSizeBytes}-byte transport limit"
  let signature ← signFn canonicalBytes
  ensure (isValidSignatureHex signature)
    (s!"Invalid signature format: expected 128-char lowercase hex string (64 raw bytes), " ++
      s!"got length {jsLength signature}")
  let envelope := liveEnvelope operation now.iso signerPublicKey signature
  validateLiveEnvelope envelope
  return envelope

/-! ## What was sent is accepted -/

section Accepted

variable {operation : JsValue} {entries : List (String × JsValue)}

theorem ensure_eq_ok {condition : Prop} [Decidable condition] {message : String}
    (hok : ensure condition message = .ok ()) : condition := by
  unfold ensure at hok
  split_ifs at hok with hcondition
  exact hcondition

theorem ensure_of {condition : Prop} [Decidable condition] {message : String}
    (hcondition : condition) : ensure condition message = .ok () :=
  if_pos hcondition

theorem get?_json (hnodup : (entries.map Prod.fst).Nodup) (key : String) :
    (JsonValue.object (JsValue.jsonEntries JsValue.stringifying entries)).get? key =
      ((JsValue.object entries).get? key).bind (JsValue.json JsValue.stringifying) :=
  JsValue.lookup_jsonEntries hnodup key

theorem string?_eq_some {value : JsValue} {text : String} (hstring : value.string? = some text) :
    value = .primitive (.string text) := by
  unfold JsValue.string? at hstring
  split at hstring
  · cases hstring
    rfl
  · cases hstring

theorem get?_json_string (hnodup : (entries.map Prod.fst).Nodup) {key text : String}
    (hfound : ((JsValue.object entries).get? key).bind JsValue.string? = some text) :
    (JsonValue.object (JsValue.jsonEntries JsValue.stringifying entries)).get? key =
      some (.string text) := by
  obtain ⟨value, hvalue, hstring⟩ := Option.bind_eq_some_iff.mp hfound
  rw [get?_json hnodup, hvalue, string?_eq_some hstring]
  rfl

theorem requireField_json (hnodup : (entries.map Prod.fst).Nodup) {field : String}
    (hfield : requireLiveField (.object entries) field = .ok ()) :
    ∃ text, ((JsValue.object entries).get? field).bind JsValue.string? = some text ∧
      requireField (.object (JsValue.jsonEntries JsValue.stringifying entries)) field =
        .ok text := by
  unfold requireLiveField at hfield
  split at hfield
  · rename_i text hfound
    split_ifs at hfield with hbad
    refine ⟨text, hfound, ?_⟩
    rw [requireField, get?_json_string hnodup hfound]
    exact if_neg hbad
  · cases hfield

theorem requireOperationType_json (hnodup : (entries.map Prod.fst).Nodup)
    (htype : requireLiveOperationType (.object entries) = .ok ()) :
    ∃ operationType,
      requireOperationType (.object (JsValue.jsonEntries JsValue.stringifying entries)) =
        .ok operationType := by
  unfold requireLiveOperationType at htype
  unfold requireOperationType
  split at htype
  · rename_i hfound
    rw [get?_json_string hnodup hfound]
    exact ⟨_, rfl⟩
  · rename_i hfound
    rw [get?_json_string hnodup hfound]
    exact ⟨_, rfl⟩
  · rename_i hfound
    rw [get?_json_string hnodup hfound]
    exact ⟨_, rfl⟩
  · cases htype

theorem requireVersion_json (hnodup : (entries.map Prod.fst).Nodup) {field : String}
    (hversion : requireLiveVersion (.object entries) field = .ok ()) :
    ∃ version, requireVersion (.object (JsValue.jsonEntries JsValue.stringifying entries))
      field = .ok version := by
  unfold requireLiveVersion at hversion
  split at hversion
  · rename_i version hfound
    have hleast := ensure_eq_ok hversion
    obtain ⟨value, hvalue, hsafe⟩ := Option.bind_eq_some_iff.mp hfound
    refine ⟨version, ?_⟩
    cases value with
    | primitive value =>
        cases value with
        | number value =>
            cases value with
            | finite value =>
                have hread : ((JsonValue.object
                    (JsValue.jsonEntries JsValue.stringifying entries)).get? field).bind
                      JsonValue.safeInteger? = some version := by
                  rw [get?_json hnodup, hvalue]
                  exact hsafe
                rw [requireVersion, hread]
                exact if_neg (by omega)
            | nonFinite _ => cases hsafe
        | _ => cases hsafe
    | _ => cases hsafe
  · cases hversion

theorem payload_json (hnodup : (entries.map Prod.fst).Nodup)
    (hpayload : requireLivePayload (.object entries) = .ok ()) :
    ∃ payload, (JsonValue.object (JsValue.jsonEntries JsValue.stringifying entries)).get?
      "payload" = some payload := by
  have hdefined := ensure_eq_ok hpayload
  obtain ⟨value, hvalue, hnot⟩ := (Option.any_eq_true _ _).mp hdefined
  rw [get?_json hnodup, hvalue]
  cases value with
  | undefined => cases hnot
  | hole => cases hnot
  | _ => exact ⟨_, rfl⟩

theorem validateLiveOperation_object (hlive : validateLiveOperation operation = .ok ()) :
    ∃ entries, operation = .object entries := by
  unfold validateLiveOperation at hlive
  obtain ⟨_, -, hlive⟩ := check_bind_eq_ok hlive
  obtain ⟨_, hfields, -⟩ := check_bind_eq_ok hlive
  cases operation with
  | object entries => exact ⟨entries, rfl⟩
  | _ => cases hfields

theorem validateOperation_json (henumerated : operation.IsEnumerated)
    (hvalid : validateLiveOperation operation = .ok ()) :
    ∃ written validated, operation.json JsValue.stringifying = some written ∧
      validateOperation written = .ok validated ∧
      (operation.get? "operationId").bind JsValue.string? = some validated.operationId := by
  have hlive := hvalid
  unfold validateLiveOperation at hlive
  obtain ⟨_, -, hlive⟩ := check_bind_eq_ok hlive
  obtain ⟨_, hfields, hlive⟩ := check_bind_eq_ok hlive
  obtain ⟨_, htype, hlive⟩ := check_bind_eq_ok hlive
  obtain ⟨_, hschemaVersion, hlive⟩ := check_bind_eq_ok hlive
  obtain ⟨_, hprotocolVersion, hlive⟩ := check_bind_eq_ok hlive
  obtain ⟨_, hpayload, hlive⟩ := check_bind_eq_ok hlive
  obtain ⟨parsed, hparsed, hlive⟩ := check_bind_eq_ok hlive
  obtain ⟨entries, rfl⟩ := validateLiveOperation_object hvalid
  have hnodup := henumerated.nodup
  have hrequired := MigrationEngine.forM_eq_ok hfields
  simp only [requiredOperationFields, List.forall_mem_cons] at hrequired
  obtain ⟨h1, h2, h3, h4, h5, h6, h7, h8, h9, h10, -⟩ := hrequired
  obtain ⟨operationId, hoperationId, ho⟩ := requireField_json hnodup h1
  obtain ⟨applicationId, -, hap⟩ := requireField_json hnodup h2
  obtain ⟨organisationId, -, hor⟩ := requireField_json hnodup h3
  obtain ⟨syncGroupId, -, hs⟩ := requireField_json hnodup h4
  obtain ⟨featureId, -, hf⟩ := requireField_json hnodup h5
  obtain ⟨entityType, -, het⟩ := requireField_json hnodup h6
  obtain ⟨entityId, -, hei⟩ := requireField_json hnodup h7
  obtain ⟨authorId, -, hau⟩ := requireField_json hnodup h8
  obtain ⟨deviceId, -, hd⟩ := requireField_json hnodup h9
  obtain ⟨logicalTimestamp, htimestamp, hl⟩ := requireField_json hnodup h10
  obtain ⟨operationType, hop⟩ := requireOperationType_json hnodup htype
  obtain ⟨schemaVersion, hsv⟩ := requireVersion_json hnodup hschemaVersion
  obtain ⟨protocolVersion, hpv⟩ := requireVersion_json hnodup hprotocolVersion
  obtain ⟨payload, hpl⟩ := payload_json hnodup hpayload
  rw [htimestamp] at hparsed
  refine ⟨_, ⟨operationId, applicationId, organisationId, syncGroupId, featureId, entityType,
    entityId, operationType, payload, authorId, deviceId, logicalTimestamp, schemaVersion,
    protocolVersion⟩, rfl, ?_, hoperationId⟩
  rw [validateOperation, ho, hap, hor, hs, hf, het, hei, hau, hd, hl, hop, hsv, hpv, hpl]
  change (HybridLogicalClock.parse logicalTimestamp >>= fun _ => _) = _
  rw [show HybridLogicalClock.parse logicalTimestamp = .ok parsed from hparsed]
  rfl

theorem precedes_of_names {keys : List String} (hnodup : keys.Nodup)
    (hnames : ∀ key ∈ keys, arrayIndex? key = none) : keys.Pairwise Precedes := by
  apply List.Pairwise.imp_of_mem _ hnodup
  intro left right _ hright hne
  refine ⟨hne, fun index hindex => ?_⟩
  rw [hnames right hright] at hindex
  cases hindex

theorem isEnumerated_get? (henumerated : operation.IsEnumerated) (key : String) :
    ((operation.get? key).getD .undefined).IsEnumerated := by
  cases hfound : operation.get? key with
  | none => exact .undefined
  | some value =>
      cases operation with
      | object entries =>
          have hmem := (JsValue.mem_lookup henumerated.nodup).mp hfound
          cases henumerated with
          | object _ hentries => exact hentries _ hmem
      | _ => cases hfound

theorem isEnumerated_liveEnvelope (henumerated : operation.IsEnumerated)
    (signedAt signerPublicKey signature : String) :
    (liveEnvelope operation signedAt signerPublicKey signature).IsEnumerated := by
  refine .object ?_ ?_
  · change ["envelopeId", "signedAt", "signerPublicKey", "signature", "operation"].Pairwise
      Precedes
    exact precedes_of_names (by decide) (by decide)
  · simp only [List.forall_mem_cons]
    exact ⟨isEnumerated_get? henumerated _, .primitive _, .primitive _, .primitive _, henumerated,
      fun _ hmem => nomatch hmem⟩

theorem validateLiveSize_eq_ok {envelope : JsValue} {written : JsonValue}
    (hwritten : envelope.json JsValue.stringifying = some written)
    (hok : validateLiveSize envelope = .ok ()) :
    envelope.stringify = .ok (some written.stringify) ∧
      utf8Length written.serialize ≤ maxSyncEnvelopeSizeBytes := by
  unfold validateLiveSize JsValue.stringify at hok
  rw [hwritten] at hok
  unfold JsValue.stringify
  rw [hwritten]
  cases hbigint : envelope.holdsBigInt with
  | true =>
      rw [hbigint] at hok
      cases hok
  | false =>
      rw [hbigint] at hok
      have hfits := ensure_eq_ok hok
      rw [JsonValue.stringify, String.toList_ofList] at hfits
      exact ⟨rfl, hfits⟩

theorem validateEnvelope_json {signedAt signerPublicKey signature : String}
    (henumerated : operation.IsEnumerated)
    (hlive : validateLiveEnvelope
      (liveEnvelope operation signedAt signerPublicKey signature) = .ok ()) :
    ∃ received written validated,
      (liveEnvelope operation signedAt signerPublicKey signature).stringify =
        .ok (some received.stringify) ∧
      received.IsEnumerated ∧ validateEnvelope received = .ok validated ∧
      received.get? "operation" = some written ∧
      operation.json JsValue.stringifying = some written := by
  unfold validateLiveEnvelope at hlive
  obtain ⟨_, -, hlive⟩ := check_bind_eq_ok hlive
  obtain ⟨_, hoperation, hlive⟩ := check_bind_eq_ok hlive
  obtain ⟨_, hsame, hlive⟩ := check_bind_eq_ok hlive
  obtain ⟨validAt, hsignedAt, hlive⟩ := check_bind_eq_ok hlive
  obtain ⟨validKey, hpublicKey, hlive⟩ := check_bind_eq_ok hlive
  obtain ⟨validSignature, hsignature, hsize⟩ := check_bind_eq_ok hlive
  obtain ⟨written, validated, hwritten, hvalidated, hid⟩ :=
    validateOperation_json henumerated hoperation
  have hnodup := (isEnumerated_liveEnvelope henumerated signedAt signerPublicKey
    signature).nodup
  have hreceived := JsValue.isEnumerated_json _
    (isEnumerated_liveEnvelope henumerated signedAt signerPublicKey signature) _ rfl
  have hwrittenOperation := (get?_json hnodup "operation").trans hwritten
  have henvelopeId : ((operation.get? "operationId").getD .undefined).string? =
      some validated.operationId := by
    cases hfound : operation.get? "operationId" with
    | none =>
        rw [hfound] at hid
        cases hid
    | some value =>
        rw [hfound] at hid
        exact hid
  let received : JsonValue := .object (JsValue.jsonEntries JsValue.stringifying
    [("envelopeId", (operation.get? "operationId").getD .undefined),
      ("signedAt", .primitive (.string signedAt)),
      ("signerPublicKey", .primitive (.string signerPublicKey)),
      ("signature", .primitive (.string signature)), ("operation", operation)])
  have hwrittenId : received.get? "envelopeId" = some (.string validated.operationId) :=
    get?_json_string hnodup henvelopeId
  have hwrittenAt : received.get? "signedAt" = some (.string signedAt) :=
    get?_json_string hnodup rfl
  have hwrittenKey : received.get? "signerPublicKey" = some (.string signerPublicKey) :=
    get?_json_string hnodup rfl
  have hwrittenSignature : received.get? "signature" = some (.string signature) :=
    get?_json_string hnodup rfl
  have hwrittenOperation : received.get? "operation" = some written :=
    (get?_json hnodup "operation").trans hwritten
  have hjson : (liveEnvelope operation signedAt signerPublicKey signature).json
      JsValue.stringifying = some received := rfl
  obtain ⟨hstringify, hfits⟩ := validateLiveSize_eq_ok hjson hsize
  have hsignedAt' : validateSignedAt (some (.string signedAt)) = .ok validAt := hsignedAt
  have hpublicKey' : validatePublicKeyFormat (some (.string signerPublicKey)) = .ok validKey :=
    hpublicKey
  have hsignature' : validateSignature (some (.string signature)) = .ok validSignature :=
    hsignature
  have hrecord : received.isRecord = true := rfl
  have hsameId : (some (JsonValue.string validated.operationId)).bind JsonValue.string? =
      some validated.operationId := rfl
  refine ⟨received, written, ⟨validated.operationId, validAt, validKey, validSignature,
    validated⟩, hstringify, hreceived, ?_, hwrittenOperation, hwritten⟩
  rw [validateEnvelope, hwrittenId, hwrittenAt, hwrittenKey, hwrittenSignature,
    hwrittenOperation, hsignedAt', hpublicKey', hsignature', Option.getD_some, hvalidated]
  simp only [bind, Except.bind, ensure_of hrecord, ensure_of hsameId, ensure_of hfits]
  rfl

end Accepted

/-! ## After the transport -/

/-- `JSON.parse(JSON.stringify(envelope))`. -/
def transported (envelope : JsValue) : Option JsonValue :=
  match envelope.stringify with
  | .ok (some text) => parseJson? text
  | _ => none

/-- The verifier accepts one byte string, whatever the key and the signature are. -/
def AcceptsExactly (verifyFn : VerifyFn) (canonicalBytes : ByteArray) : Prop :=
  ∀ signerPublicKey candidate signature,
    verifyFn signerPublicKey candidate signature = .ok true ↔ candidate = canonicalBytes

section Transport

variable {operation envelope : JsValue} {signerPublicKey : String}
  {signFn : ByteArray → Except String String} {now : ClockReading}
  {canonicalBytes : ByteArray} {verifyFn : VerifyFn}

theorem build_eq_ok (hbuilt : build operation signerPublicKey signFn now = .ok envelope) :
    ∃ signature, envelope = liveEnvelope operation now.iso signerPublicKey signature ∧
      validateLiveEnvelope envelope = .ok () := by
  unfold build at hbuilt
  obtain ⟨_, -, hbuilt⟩ := check_bind_eq_ok hbuilt
  obtain ⟨_, -, hbuilt⟩ := check_bind_eq_ok hbuilt
  obtain ⟨_, -, hbuilt⟩ := check_bind_eq_ok hbuilt
  obtain ⟨_, -, hbuilt⟩ := check_bind_eq_ok hbuilt
  obtain ⟨signature, -, hbuilt⟩ := check_bind_eq_ok hbuilt
  obtain ⟨_, -, hbuilt⟩ := check_bind_eq_ok hbuilt
  obtain ⟨_, hvalid, hbuilt⟩ := check_bind_eq_ok hbuilt
  cases hbuilt
  exact ⟨signature, rfl, hvalid⟩

theorem canonicalizeLive_eq_ok (henumerated : operation.IsEnumerated)
    (hbytes : canonicalizeLive operation = .ok canonicalBytes) :
    ∃ own, operation.json JsValue.ownProperties = some own ∧
      canonicalBytes = (sortedKeys own).stringify.toUTF8 := by
  unfold canonicalizeLive at hbytes
  obtain ⟨_, hvalid, hbytes⟩ := check_bind_eq_ok hbytes
  obtain ⟨canonical, hcanonical, hbytes⟩ := check_bind_eq_ok hbytes
  obtain ⟨entries, rfl⟩ := validateLiveOperation_object hvalid
  refine ⟨_, rfl, ?_⟩
  unfold JsValue.stringify at hcanonical
  split_ifs at hcanonical
  rw [JsValue.json_sortedKeys _ _ henumerated] at hcanonical
  cases hcanonical
  cases hbytes
  rfl

theorem verify_transported (henumerated : operation.IsEnumerated)
    (hbuilt : build operation signerPublicKey signFn now = .ok envelope) :
    ∃ received written publicKey signature, transported envelope = some received ∧
      operation.json JsValue.stringifying = some written ∧
      ∀ verifyFn, verify received verifyFn =
        verifyFn publicKey (sortedKeys written).stringify.toUTF8 signature := by
  obtain ⟨signature, rfl, hvalid⟩ := build_eq_ok hbuilt
  obtain ⟨received, written, validated, htext, hreceived, haccepted, hoperation, hwritten⟩ :=
    validateEnvelope_json henumerated hvalid
  refine ⟨received, written, validated.signerPublicKey, validated.signature, ?_, hwritten, ?_⟩
  · rw [transported, htext]
    exact parseJson?_stringify hreceived
  · intro verifyFn
    rw [verify_of_accepted haccepted, hoperation, Option.getD_some]

/-- A verifier which accepts just the bytes that were signed accepts the envelope after the
transport exactly when the operation holds no date and no box. -/
theorem verify_transported_iff (henumerated : operation.IsEnumerated)
    (hbuilt : build operation signerPublicKey signFn now = .ok envelope)
    (hbytes : canonicalizeLive operation = .ok canonicalBytes)
    (hverifyFn : AcceptsExactly verifyFn canonicalBytes) :
    ∃ received, transported envelope = some received ∧
      (verify received verifyFn = .ok true ↔ operation.holdsConverted = false) := by
  obtain ⟨received, written, publicKey, signature, hreceived, hwritten, hverify⟩ :=
    verify_transported henumerated hbuilt
  obtain ⟨own, hown, rfl⟩ := canonicalizeLive_eq_ok henumerated hbytes
  refine ⟨received, hreceived, ?_⟩
  rw [hverify, hverifyFn, ← JsValue.own_eq_written_iff operation henumerated, hown, hwritten]
  constructor
  · intro hsame
    exact congrArg some (sortedKeys_eq_of_toUTF8_eq hsame.symm)
  · intro hsame
    have hsorted : sortedKeys own = sortedKeys written := Option.some.inj hsame
    rw [hsorted]

theorem size_toUTF8_ofList (chars : List Char) :
    (String.ofList chars).toUTF8.size = utf8Length chars := by
  change (String.ofList chars).toByteArray.size = utf8Length chars
  rw [String.toByteArray_ofList]
  induction chars with
  | nil => rfl
  | cons c rest ih =>
      rw [List.utf8Encode_cons, ByteArray.size_append, ih, utf8Length_cons,
        List.utf8Encode_singleton]
      simp

theorem build_of_written {signature : String} {canonical written : JsonValue}
    (hvalid : validateLiveOperation operation = .ok ())
    (hcanonical : (JsValue.sortedKeys operation).stringify = .ok (some canonical.stringify))
    (hwritten : (liveEnvelope operation now.iso signerPublicKey signature).stringify =
      .ok (some written.stringify))
    (hkey : isPublicKey signerPublicKey) (hsignature : isValidSignatureHex signature)
    (hsign : ∀ bytes, signFn bytes = .ok signature) (hsignedAt : (isoInstant? now.iso).isSome)
    (hbytes : utf8Length canonical.serialize ≤ maxSyncEnvelopeSizeBytes)
    (hsize : utf8Length written.serialize ≤ maxSyncEnvelopeSizeBytes) :
    build operation signerPublicKey signFn now =
      .ok (liveEnvelope operation now.iso signerPublicKey signature) := by
  have hcanonicalBytes : canonicalizeLive operation = .ok canonical.stringify.toUTF8 := by
    rw [canonicalizeLive, hvalid, hcanonical]
    rfl
  have hbytesSize : canonical.stringify.toUTF8.size ≤ maxSyncEnvelopeSizeBytes := by
    rw [JsonValue.stringify, size_toUTF8_ofList]
    exact hbytes
  have hpublicKey : validatePublicKeyFormat (some (.string signerPublicKey)) =
      .ok signerPublicKey := by
    rw [validatePublicKeyFormat, if_pos hkey]
  have haccepted : validateLiveEnvelope
      (liveEnvelope operation now.iso signerPublicKey signature) = .ok () := by
    have hfits : validateLiveSize (liveEnvelope operation now.iso signerPublicKey signature) =
        .ok () := by
      have hlength : utf8Length written.stringify.toList ≤ maxSyncEnvelopeSizeBytes := by
        rw [JsonValue.stringify, String.toList_ofList]
        exact hsize
      rw [validateLiveSize, hwritten]
      exact ensure_of hlength
    have hrecord : ensure ((liveEnvelope operation now.iso signerPublicKey
        signature).isRecord = true) "Invalid sync envelope" = .ok () := rfl
    have hoperation : ((liveEnvelope operation now.iso signerPublicKey signature).get?
        "operation").getD .undefined = operation := rfl
    have hsame : ((liveEnvelope operation now.iso signerPublicKey signature).get?
        "envelopeId").bind JsValue.string? =
          (operation.get? "operationId").bind JsValue.string? := by
      change ((operation.get? "operationId").getD .undefined).string? = _
      cases operation.get? "operationId" <;> rfl
    have hreadAt : (((liveEnvelope operation now.iso signerPublicKey signature).get?
        "signedAt").bind JsValue.string?).map JsonValue.string = some (.string now.iso) := rfl
    have hreadKey : (((liveEnvelope operation now.iso signerPublicKey signature).get?
        "signerPublicKey").bind JsValue.string?).map JsonValue.string =
          some (.string signerPublicKey) := rfl
    have hreadSignature : (((liveEnvelope operation now.iso signerPublicKey signature).get?
        "signature").bind JsValue.string?).map JsonValue.string =
          some (.string signature) := rfl
    have hreadSignedAt : validateSignedAt (some (.string now.iso)) = .ok now.iso := by
      rw [validateSignedAt, if_pos hsignedAt]
    have hreadText : validateSignature (some (.string signature)) = .ok signature := by
      rw [validateSignature, if_pos hsignature]
    simp only [validateLiveEnvelope, hrecord, hoperation, hvalid, ensure_of hsame, hreadAt,
      hreadKey, hreadSignature, hreadSignedAt, hpublicKey, hreadText, hfits, bind, Except.bind]
  simp only [build, hvalid, hpublicKey, hcanonicalBytes, ensure_of hbytesSize, hsign,
    ensure_of hsignature, haccepted, bind, Except.bind]
  rfl

end Transport

/-! ## Notes with a payload -/

section Notes

open OutboxService

def noteReading : ClockReading := ⟨1767225600000, ClockReading.inRange_newYear⟩

def liveNote (payload : JsValue) : JsValue :=
  .object [("operationId", .primitive (.string "op-1")),
    ("applicationId", .primitive (.string "app")),
    ("organisationId", .primitive (.string "org")),
    ("syncGroupId", .primitive (.string "group")),
    ("featureId", .primitive (.string "notes")), ("entityType", .primitive (.string "note")),
    ("entityId", .primitive (.string "note-1")), ("operation", .primitive (.string "create")),
    ("payload", payload), ("authorId", .primitive (.string "user")),
    ("deviceId", .primitive (.string "device")),
    ("logicalTimestamp", .primitive (.string "1_0_device")),
    ("schemaVersion", .primitive (.number (.finite (.integer 1)))),
    ("protocolVersion", .primitive (.number (.finite (.integer 1))))]

section Payload

variable {payload : JsValue}

theorem isEnumerated_liveNote (hpayload : payload.IsEnumerated) :
    (liveNote payload).IsEnumerated := by
  refine .object ?_ ?_
  · change ["operationId", "applicationId", "organisationId", "syncGroupId", "featureId",
      "entityType", "entityId", "operation", "payload", "authorId", "deviceId",
      "logicalTimestamp", "schemaVersion", "protocolVersion"].Pairwise Precedes
    exact precedes_of_names (by decide) (by decide)
  · intro entry hentry
    simp only [List.mem_cons, List.not_mem_nil, or_false] at hentry
    rcases hentry with rfl | rfl | rfl | rfl | rfl | rfl | rfl | rfl | rfl | rfl | rfl | rfl |
      rfl | rfl <;> first | exact hpayload | exact .primitive _

theorem json_liveNote {writer : JsValue.Writer} {written : JsonValue}
    (hwritten : payload.json writer = some written) :
    (liveNote payload).json writer = some (noteOperationJson "op-1" written) := by
  simp only [liveNote, JsValue.json, JsValue.jsonEntries, hwritten]
  rfl

variable {own sent : JsonValue}

set_option maxRecDepth 8000 in
theorem canonicalizeLive_liveNote (hpayload : payload.IsEnumerated)
    (hown : payload.json JsValue.ownProperties = some own)
    (hbigint : (JsValue.sortedKeys (liveNote payload)).holdsBigInt = false) :
    validateLiveOperation (liveNote payload) = .ok () ∧
      canonicalizeLive (liveNote payload) =
        .ok (sortedKeys (noteOperationJson "op-1" own)).stringify.toUTF8 := by
  have htext : (JsValue.sortedKeys (liveNote payload)).stringify =
      .ok (some (sortedKeys (noteOperationJson "op-1" own)).stringify) := by
    rw [JsValue.stringify, hbigint, JsValue.json_sortedKeys _ _ (isEnumerated_liveNote hpayload),
      json_liveNote hown]
    rfl
  have hpresent : requireLivePayload (liveNote payload) = .ok () := by
    rw [requireLivePayload, ensure_of]
    change (some payload).any _ = true
    cases payload with
    | undefined => cases hown
    | hole => cases hown
    | _ => rfl
  have hrecord : ensure ((liveNote payload).isRecord = true) "Invalid sync operation" = .ok () :=
    rfl
  have hfields : requiredOperationFields.forM (requireLiveField (liveNote payload)) = .ok () :=
    rfl
  have htype : requireLiveOperationType (liveNote payload) = .ok () := rfl
  have hschemaVersion : requireLiveVersion (liveNote payload) "schemaVersion" = .ok () := rfl
  have hprotocolVersion : requireLiveVersion (liveNote payload) "protocolVersion" = .ok () := rfl
  have htimestamp : (((liveNote payload).get? "logicalTimestamp").bind JsValue.string?).getD "" =
      "1_0_device" := rfl
  have hparses : ∃ parsed, HybridLogicalClock.parse "1_0_device" = .ok parsed := ⟨_, rfl⟩
  obtain ⟨parsed, hparsed⟩ := hparses
  have hvalid : validateLiveOperation (liveNote payload) = .ok () := by
    simp only [validateLiveOperation, hrecord, hfields, htype, hschemaVersion, hprotocolVersion,
      hpresent, htimestamp, hparsed, htext, bind, Except.bind]
    rfl
  refine ⟨hvalid, ?_⟩
  rw [canonicalizeLive, hvalid, htext]
  rfl

theorem build_liveNote (hpayload : payload.IsEnumerated)
    (hown : payload.json JsValue.ownProperties = some own)
    (hsent : payload.json JsValue.stringifying = some sent)
    (hsorted : (JsValue.sortedKeys (liveNote payload)).holdsBigInt = false)
    (hbigint : (liveEnvelope (liveNote payload) noteReading.iso notePublicKey
      noteSignature).holdsBigInt = false)
    (hcanonical : utf8Length (sortedKeys (noteOperationJson "op-1" own)).serialize ≤
      maxSyncEnvelopeSizeBytes)
    (hsize : 600 + utf8Length sent.serialize ≤ maxSyncEnvelopeSizeBytes) :
    build (liveNote payload) notePublicKey (fun _ => .ok noteSignature) noteReading =
      .ok (liveEnvelope (liveNote payload) noteReading.iso notePublicKey noteSignature) := by
  have hvalid := (canonicalizeLive_liveNote hpayload hown hsorted).1
  have hsortedText : (JsValue.sortedKeys (liveNote payload)).stringify =
      .ok (some (sortedKeys (noteOperationJson "op-1" own)).stringify) := by
    rw [JsValue.stringify, hsorted, JsValue.json_sortedKeys _ _ (isEnumerated_liveNote hpayload),
      json_liveNote hown]
    rfl
  have hwritten : (liveEnvelope (liveNote payload) noteReading.iso notePublicKey
      noteSignature).stringify = .ok (some (noteEnvelopeJson "op-1" sent).stringify) := by
    have hid : ((liveNote payload).get? "operationId").getD .undefined =
        .primitive (.string "op-1") := rfl
    have hjson : (liveEnvelope (liveNote payload) noteReading.iso notePublicKey
        noteSignature).json JsValue.stringifying = some (noteEnvelopeJson "op-1" sent) := by
      simp only [liveEnvelope, JsValue.json, JsValue.jsonEntries, json_liveNote hsent, hid]
      rfl
    rw [JsValue.stringify, hbigint, hjson]
    rfl
  have henvelope : utf8Length (noteEnvelopeJson "op-1" sent).serialize ≤
      maxSyncEnvelopeSizeBytes := by
    rw [utf8Length_noteEnvelope (by decide)]
    exact hsize
  exact build_of_written hvalid hsortedText hwritten isPublicKey_notePublicKey
    isValidSignatureHex_noteSignature (fun _ => rfl) rfl hcanonical henvelope

end Payload

def exactly (canonicalBytes : ByteArray) : VerifyFn :=
  fun _ candidate _ => .ok (decide (candidate = canonicalBytes))

theorem acceptsExactly_exactly (canonicalBytes : ByteArray) :
    AcceptsExactly (exactly canonicalBytes) canonicalBytes := by
  intro _ candidate _
  rw [exactly, Except.ok.injEq, decide_eq_true_iff]

/-- `{ draft: undefined, cells: [, NaN, undefined] }`. -/
def sparsePayload : JsValue :=
  .object [("draft", .undefined),
    ("cells", .array [.hole, .primitive (.number (.nonFinite "NaN")), .undefined])]

def sparseJson : JsonValue :=
  .object [("cells", .array [.null, .null, .null])]

theorem isEnumerated_sparsePayload : sparsePayload.IsEnumerated := by
  refine .object ?_ ?_
  · change ["draft", "cells"].Pairwise Precedes
    exact precedes_of_names (by decide) (by decide)
  · simp only [List.forall_mem_cons]
    refine ⟨.undefined, .array ?_, fun _ hmem => nomatch hmem⟩
    simp only [List.forall_mem_cons]
    exact ⟨.hole, .primitive _, .undefined, fun _ hmem => nomatch hmem⟩

theorem build_sparseNote :
    build (liveNote sparsePayload) notePublicKey (fun _ => .ok noteSignature) noteReading =
        .ok (liveEnvelope (liveNote sparsePayload) noteReading.iso notePublicKey noteSignature) ∧
      canonicalizeLive (liveNote sparsePayload) =
        .ok (sortedKeys (noteOperationJson "op-1" sparseJson)).stringify.toUTF8 := by
  have hsorted : (JsValue.sortedKeys (liveNote sparsePayload)).holdsBigInt = false := by
    decide
  have hown : sparsePayload.json JsValue.ownProperties = some sparseJson := rfl
  have hsent : sparsePayload.json JsValue.stringifying = some sparseJson := rfl
  exact ⟨build_liveNote isEnumerated_sparsePayload hown hsent hsorted rfl (by decide +kernel)
    (by decide), (canonicalizeLive_liveNote isEnumerated_sparsePayload hown hsorted).2⟩

/-- `{ at: new Date(0) }`. -/
def datedPayload : JsValue :=
  .object [("at", .date (some ⟨0, ClockReading.inRange_epoch⟩))]

def datedOwn : JsonValue :=
  .object [("at", .object [])]

def datedSent : JsonValue :=
  .object [("at", .string "1970-01-01T00:00:00.000Z")]

theorem isEnumerated_datedPayload : datedPayload.IsEnumerated := by
  refine .object ?_ ?_
  · change ["at"].Pairwise Precedes
    exact precedes_of_names (by decide) (by decide)
  · simp only [List.forall_mem_cons]
    exact ⟨.date _, fun _ hmem => nomatch hmem⟩

theorem build_datedNote :
    build (liveNote datedPayload) notePublicKey (fun _ => .ok noteSignature) noteReading =
        .ok (liveEnvelope (liveNote datedPayload) noteReading.iso notePublicKey noteSignature) ∧
      canonicalizeLive (liveNote datedPayload) =
        .ok (sortedKeys (noteOperationJson "op-1" datedOwn)).stringify.toUTF8 := by
  have hsorted : (JsValue.sortedKeys (liveNote datedPayload)).holdsBigInt = false := by
    decide
  have hown : datedPayload.json JsValue.ownProperties = some datedOwn := rfl
  have hsent : datedPayload.json JsValue.stringifying = some datedSent := rfl
  exact ⟨build_liveNote isEnumerated_datedPayload hown hsent hsorted rfl (by decide +kernel)
    (by decide), (canonicalizeLive_liveNote isEnumerated_datedPayload hown hsorted).2⟩

theorem sparseNote_verifies :
    ∃ received, transported (liveEnvelope (liveNote sparsePayload) noteReading.iso notePublicKey
        noteSignature) = some received ∧
      verify received (exactly (sortedKeys (noteOperationJson "op-1" sparseJson)).stringify.toUTF8)
        = .ok true := by
  obtain ⟨received, hreceived, hverified⟩ := verify_transported_iff
    (isEnumerated_liveNote isEnumerated_sparsePayload) build_sparseNote.1 build_sparseNote.2
    (acceptsExactly_exactly _)
  exact ⟨received, hreceived, hverified.mpr (by decide +kernel)⟩

/-- A date is signed as `{}` and received as a text. -/
theorem datedNote_rejected :
    ∃ envelope canonicalBytes received,
      build (liveNote datedPayload) notePublicKey (fun _ => .ok noteSignature) noteReading =
        .ok envelope ∧
      canonicalizeLive (liveNote datedPayload) = .ok canonicalBytes ∧
      transported envelope = some received ∧
      verify received (exactly canonicalBytes) = .ok false := by
  obtain ⟨hbuilt, hbytes⟩ := build_datedNote
  have henumerated := isEnumerated_liveNote isEnumerated_datedPayload
  obtain ⟨received, written, publicKey, signature, hreceived, hwritten, hverify⟩ :=
    verify_transported henumerated hbuilt
  refine ⟨_, _, received, hbuilt, hbytes, hreceived, ?_⟩
  have hown : (liveNote datedPayload).json JsValue.ownProperties =
      some (noteOperationJson "op-1" datedOwn) := json_liveNote rfl
  have hconverted : (liveNote datedPayload).holdsConverted = true := by decide +kernel
  rw [hverify, exactly, decide_eq_false]
  intro hsame
  have hforms : (some (noteOperationJson "op-1" datedOwn)).map sortedKeys =
      (some written).map sortedKeys := congrArg some (sortedKeys_eq_of_toUTF8_eq hsame.symm)
  rw [← hown, ← hwritten, JsValue.own_eq_written_iff _ henumerated, hconverted] at hforms
  cases hforms

end Notes

end SyncEnvelopeBuilder
end TauriPlatform
