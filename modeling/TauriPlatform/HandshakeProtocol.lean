import TauriPlatform.AsyncSegments
import TauriPlatform.IsoTimestamp
import TauriPlatform.JsNumber
import TauriPlatform.SyncEnvelopeBuilder

/-!
# Handshakes of peers

`HandshakeValidator.requireValid` checks a handshake, asks for the verification of its
signature, and records its nonce.  Only the verification is awaited.
-/

namespace TauriPlatform

open Async

/-- A `Record<string, number>` lists its own properties. -/
structure HandshakeMessage where
  applicationId : String
  applicationVersion : String
  protocolVersion : NumberValue
  deviceId : String
  organisationId : String
  platform : String
  supportedFeatures : List String
  supportedEntityVersions : List (String × NumberValue)
  timestamp : String
  nonce : String
  signerPublicKey : String
  signature : String

/-- The options; the set of nonces and the callback are only known to be given. -/
structure HandshakeValidationOptions where
  expectedApplicationId : String
  expectedOrganisationId : String
  minimumProtocolVersion : NumberValue
  maxTimestampSkewMs : Option NumberValue := none
  seenNonces : Bool
  verifyFn : Bool

inductive HandshakeCode where
  | appIdMismatch
  | orgIdMismatch
  | protocolIncompatible
  | timestampSkew
  | nonceReplayed
  | nonceInvalid
  | signatureInvalid
  | publicKeyInvalid
  | invalidPayload
  deriving DecidableEq, Repr

def HandshakeCode.text : HandshakeCode → String
  | .appIdMismatch => "APP_ID_MISMATCH"
  | .orgIdMismatch => "ORG_ID_MISMATCH"
  | .protocolIncompatible => "PROTOCOL_INCOMPATIBLE"
  | .timestampSkew => "TIMESTAMP_SKEW"
  | .nonceReplayed => "NONCE_REPLAYED"
  | .nonceInvalid => "NONCE_INVALID"
  | .signatureInvalid => "SIGNATURE_INVALID"
  | .publicKeyInvalid => "PUBLIC_KEY_INVALID"
  | .invalidPayload => "INVALID_PAYLOAD"

structure HandshakeRejection where
  code : HandshakeCode
  reason : String
  deriving DecidableEq, Repr

/-- `has` and `add` on the set of nonces, and the awaited callback. -/
inductive HandshakeCall : Type → Type
  | seen (nonce : String) : HandshakeCall Bool
  | record (nonce : String) : HandshakeCall Unit
  | verifyFn (signerPublicKey : String) (canonicalBytes : ByteArray) (signature : String) :
      HandshakeCall Bool

/-! ## Canonical bytes -/

/-- What `JSON.stringify` makes of a number. -/
def NumberValue.toJson : NumberValue → JsonValue
  | .finite value => .number value
  | .nonFinite _ => .null

/-- An assignment to `__proto__` creates no property. -/
def canonicalizeHandshake (message : HandshakeMessage) : ByteArray :=
  let versions := message.supportedEntityVersions.filter fun entry => entry.1 ≠ "__proto__"
  (sortedKeys (.object [
    ("applicationId", .string message.applicationId),
    ("applicationVersion", .string message.applicationVersion),
    ("protocolVersion", message.protocolVersion.toJson),
    ("deviceId", .string message.deviceId),
    ("organisationId", .string message.organisationId),
    ("platform", .string message.platform),
    ("supportedFeatures", .array (message.supportedFeatures.map .string)),
    ("supportedEntityVersions",
      .object (versions.map fun entry => (entry.1, entry.2.toJson))),
    ("timestamp", .string message.timestamp),
    ("nonce", .string message.nonce),
    ("signerPublicKey", .string message.signerPublicKey)])).stringify.toUTF8

/-! ## Validation -/

/-- `Date.parse` of the engine; `none` is `NaN`. -/
abbrev DateParse := String → Option Int

namespace HandshakeValidator

def defaultMaxTimestampSkewMs : NumberValue :=
  .finite (.integer 30000)

/-- `/^[0-9a-f]{32}$/`. -/
def isNonce (text : String) : Bool :=
  text.toList.length = 32 && text.toList.all isLowerHexDigit

def validateIdentity (dateParse : DateParse) (now : ClockReading) (message : HandshakeMessage)
    (options : HandshakeValidationOptions) : Except HandshakeRejection Unit :=
  if message.applicationId ≠ options.expectedApplicationId then
    .error ⟨.appIdMismatch, s!"Application ID mismatch: expected '{options.expectedApplicationId}', received '{message.applicationId}'"⟩
  else if message.organisationId ≠ options.expectedOrganisationId then
    .error ⟨.orgIdMismatch, s!"Organisation ID mismatch: expected '{options.expectedOrganisationId}', received '{message.organisationId}'"⟩
  else if (JsNumber.ofNumberValue message.protocolVersion).lt
      (JsNumber.ofNumberValue options.minimumProtocolVersion) then
    .error ⟨.protocolIncompatible, s!"Protocol version {message.protocolVersion.text} is below minimum supported version {options.minimumProtocolVersion.text}"⟩
  else
    let maxSkewMs := options.maxTimestampSkewMs.getD defaultMaxTimestampSkewMs
    match dateParse message.timestamp with
    | none =>
        .error ⟨.timestampSkew, s!"Handshake timestamp is not a valid ISO-8601 date: '{message.timestamp}'"⟩
    | some msgTs =>
        let skewMs := (now.millis - msgTs).natAbs
        if (JsNumber.ofNumberValue maxSkewMs).lt (.finite skewMs) then
          .error ⟨.timestampSkew, s!"Handshake timestamp skew of {skewMs}ms exceeds maximum allowed {maxSkewMs.text}ms"⟩
        else if isNonce message.nonce then .ok ()
        else
          .error ⟨.nonceInvalid, s!"Nonce must be a 32-character lowercase hex string, got: '{message.nonce}'"⟩

def validateFormats (message : HandshakeMessage) : Except HandshakeRejection Unit :=
  if ¬ "ed25519_pk_".toList <+: message.signerPublicKey.toList ∨
      jsLength message.signerPublicKey ≠ 75 then
    .error ⟨.publicKeyInvalid, s!"signerPublicKey must be 'ed25519_pk_<64-hex-chars>' (75 chars), got length {jsLength message.signerPublicKey}"⟩
  else if SyncEnvelopeBuilder.isValidSignatureHex message.signature then .ok ()
  else
    .error ⟨.signatureInvalid, s!"signature must be a 128-character lowercase hex string (64 bytes), got length {jsLength message.signature}"⟩

def validateFresh (message : HandshakeMessage) (replayed : Bool) :
    Except HandshakeRejection HandshakeMessage :=
  if replayed then
    .error ⟨.nonceReplayed, s!"Nonce '{message.nonce}' has already been seen — possible replay attack"⟩
  else (validateFormats message).map fun _ => message

/-- `validate`; a value which is no object is no message. -/
def validate (dateParse : DateParse) (now : ClockReading) (message : Option HandshakeMessage)
    (options : HandshakeValidationOptions) :
    Program HandshakeCall Thrown (Except HandshakeRejection HandshakeMessage) :=
  match message with
  | none => pure (.error ⟨.invalidPayload, "Handshake message is malformed or missing"⟩)
  | some message =>
      match validateIdentity dateParse now message options with
      | .error rejection => pure (.error rejection)
      | .ok () => do
          let replayed ← if options.seenNonces then Program.await (.seen message.nonce)
            else pure false
          pure (validateFresh message replayed)

/-- The end of `requireValid`. -/
def recordNonce (message : HandshakeMessage) (options : HandshakeValidationOptions) :
    Program HandshakeCall Thrown Unit :=
  if options.seenNonces then Program.await (.record message.nonce) else pure ()

def requireSignature (message : HandshakeMessage) (correlationId : String) (sigValid : Bool) :
    Except Thrown Unit :=
  if sigValid then .ok ()
  else
    .error (validationError
      (s!"Handshake signature verification failed for device '{message.deviceId}': " ++
        "cryptographic signature is invalid")
      "Peer handshake rejected: cryptographic signature is invalid" correlationId)

def requireValid (dateParse : DateParse) (now : ClockReading)
    (message : Option HandshakeMessage) (options : HandshakeValidationOptions)
    (correlationId : String) : Program HandshakeCall Thrown Unit := do
  match ← validate dateParse now message options with
  | .error rejection =>
      throw (validationError
        s!"Handshake verification failed: {rejection.reason} ({rejection.code.text})"
        "Peer handshake rejected due to compatibility or security constraints" correlationId)
  | .ok message =>
      if options.verifyFn then do
        let sigValid ← Program.await (.verifyFn message.signerPublicKey
          (canonicalizeHandshake message) message.signature)
        Program.ofExcept (requireSignature message correlationId sigValid)
        recordNonce message options
      else recordNonce message options

end HandshakeValidator
end TauriPlatform
