import TauriPlatform.HandshakeReplay
import TauriPlatform.JsCoercion

/-!
# Handshakes of any shape

A handshake comes from a peer as JSON, and nothing reads it against `HandshakeMessage` before
`validate` does.  A property may be missing or of another type: comparisons, regular
expressions and template literals convert it, and calling a method of it may throw.
-/

namespace TauriPlatform
namespace HandshakeValidator

/-- `validate` answers with a rejection, or throws. -/
inductive Refusal where
  | rejected (rejection : HandshakeRejection)
  | thrown (error : Thrown)
  deriving DecidableEq

def converted {α : Type} : Except Thrown α → Except Refusal α
  | .ok value => .ok value
  | .error error => .error (.thrown error)

def reject (code : HandshakeCode) (reason : Except Thrown String) : Except Refusal Unit :=
  match reason with
  | .ok reason => .error (.rejected ⟨code, reason⟩)
  | .error error => .error (.thrown error)

/-! ## The checks -/

/-- The value is the text, by `===`. -/
def isText (value : Option JsonValue) (text : String) : Bool :=
  match value with
  | some (.string value) => value = text
  | _ => false

def checkPeer (message : JsonValue) (field expected : String) (code : HandshakeCode)
    (label : String) : Except Refusal Unit :=
  if isText (message.get? field) expected then .ok ()
  else
    reject code ((toText (message.get? field)).map fun received =>
      s!"{label} mismatch: expected '{expected}', received '{received}'")

def checkApplicationId (message : JsonValue) (options : HandshakeValidationOptions) :
    Except Refusal Unit :=
  checkPeer message "applicationId" options.expectedApplicationId .appIdMismatch "Application ID"

def checkOrganisationId (message : JsonValue) (options : HandshakeValidationOptions) :
    Except Refusal Unit :=
  checkPeer message "organisationId" options.expectedOrganisationId .orgIdMismatch
    "Organisation ID"

def checkProtocolVersion (message : JsonValue) (options : HandshakeValidationOptions) :
    Except Refusal Unit := do
  let version ← converted (toNumber (message.get? "protocolVersion"))
  if version.lt (JsNumber.ofNumberValue options.minimumProtocolVersion) then
    reject .protocolIncompatible ((toText (message.get? "protocolVersion")).map fun version =>
      s!"Protocol version {version} is below minimum supported version {options.minimumProtocolVersion.text}")
  else .ok ()

def maxSkewMs (options : HandshakeValidationOptions) : NumberValue :=
  options.maxTimestampSkewMs.getD defaultMaxTimestampSkewMs

def checkTimestamp (dateParse : DateParse) (now : ClockReading) (message : JsonValue)
    (options : HandshakeValidationOptions) : Except Refusal Unit := do
  let timestamp ← converted (toText (message.get? "timestamp"))
  match dateParse timestamp with
  | none =>
      reject .timestampSkew
        (.ok s!"Handshake timestamp is not a valid ISO-8601 date: '{timestamp}'")
  | some msgTs =>
      let skewMs := (now.millis - msgTs).natAbs
      if (JsNumber.ofNumberValue (maxSkewMs options)).lt (.finite skewMs) then
        reject .timestampSkew
          (.ok s!"Handshake timestamp skew of {skewMs}ms exceeds maximum allowed {(maxSkewMs options).text}ms")
      else .ok ()

/-- `seenNonces.has`: the set holds texts only. -/
def hasSeen (seenNonces : Finset String) (message : JsonValue)
    (options : HandshakeValidationOptions) : Bool :=
  match message.get? "nonce" with
  | some (.string nonce) => options.seenNonces && decide (nonce ∈ seenNonces)
  | _ => false

def checkNonce (seenNonces : Finset String) (message : JsonValue)
    (options : HandshakeValidationOptions) : Except Refusal Unit := do
  let nonce ← converted (toText (message.get? "nonce"))
  if isNonce nonce then
    if hasSeen seenNonces message options then
      reject .nonceReplayed
        (.ok s!"Nonce '{nonce}' has already been seen — possible replay attack")
    else .ok ()
  else
    reject .nonceInvalid
      (.ok s!"Nonce must be a 32-character lowercase hex string, got: '{nonce}'")

/-- Only a text has a method `startsWith`. -/
def checkPublicKey (message : JsonValue) : Except Refusal Unit :=
  match message.get? "signerPublicKey" with
  | some (.string key) =>
      if ¬ "ed25519_pk_".toList <+: key.toList ∨ jsLength key ≠ 75 then
        reject .publicKeyInvalid
          (.ok s!"signerPublicKey must be 'ed25519_pk_<64-hex-chars>' (75 chars), got length {jsLength key}")
      else .ok ()
  | none =>
      .error (.thrown (.builtin "TypeError"
        "Cannot read properties of undefined (reading 'startsWith')"))
  | some .null =>
      .error (.thrown (.builtin "TypeError"
        "Cannot read properties of null (reading 'startsWith')"))
  | some _ =>
      .error (.thrown (.builtin "TypeError" "message.signerPublicKey.startsWith is not a function"))

/-- The property `length` inside a template literal. -/
def lengthText : Option JsonValue → Except Thrown String
  | none =>
      .error (.builtin "TypeError" "Cannot read properties of undefined (reading 'length')")
  | some .null =>
      .error (.builtin "TypeError" "Cannot read properties of null (reading 'length')")
  | some (.string text) => .ok (toString (jsLength text))
  | some value => toText (value.property? "length")

def checkSignature (message : JsonValue) : Except Refusal Unit := do
  let signature ← converted (toText (message.get? "signature"))
  if SyncEnvelopeBuilder.isValidSignatureHex signature then .ok ()
  else
    reject .signatureInvalid ((lengthText (message.get? "signature")).map fun length =>
      s!"signature must be a 128-character lowercase hex string (64 bytes), got length {length}")

/-- `validate` of a value which `JSON.parse` answered. -/
def validateParsed (dateParse : DateParse) (now : ClockReading) (seenNonces : Finset String)
    (message : JsonValue) (options : HandshakeValidationOptions) : Except Refusal Unit :=
  if message.isObjectLike then do
    checkApplicationId message options
    checkOrganisationId message options
    checkProtocolVersion message options
    checkTimestamp dateParse now message options
    checkNonce seenNonces message options
    checkPublicKey message
    checkSignature message
  else
    .error (.rejected ⟨.invalidPayload, "Handshake message is malformed or missing"⟩)

/-! ## The claim of a valid result -/

/-- What the declared type of a handshake, and the checks, ask of a message. -/
structure WellFormed (dateParse : DateParse) (now : ClockReading) (seenNonces : Finset String)
    (message : JsonValue) (options : HandshakeValidationOptions) : Prop where
  applicationId : message.get? "applicationId" = some (.string options.expectedApplicationId)
  organisationId : message.get? "organisationId" = some (.string options.expectedOrganisationId)
  protocolVersion : ∃ version, message.get? "protocolVersion" = some (.number version) ∧
    (JsNumber.ofJson version).lt (JsNumber.ofNumberValue options.minimumProtocolVersion) = false
  timestamp : ∃ timestamp msgTs, message.get? "timestamp" = some (.string timestamp) ∧
    dateParse timestamp = some msgTs ∧
    (JsNumber.finite (now.millis - msgTs).natAbs).le
      (JsNumber.ofNumberValue (maxSkewMs options)) = true
  nonce : ∃ nonce, message.get? "nonce" = some (.string nonce) ∧ isNonce nonce = true ∧
    (options.seenNonces = true → nonce ∉ seenNonces)
  signerPublicKey : ∃ key, message.get? "signerPublicKey" = some (.string key) ∧
    SyncEnvelopeBuilder.isPublicKey key = true
  signature : ∃ signature, message.get? "signature" = some (.string signature) ∧
    SyncEnvelopeBuilder.isValidSignatureHex signature = true

/-! ## What passes a check -/

def SamePeer (message : JsonValue) (options : HandshakeValidationOptions) : Prop :=
  isText (message.get? "applicationId") options.expectedApplicationId = true ∧
    isText (message.get? "organisationId") options.expectedOrganisationId = true

def VersionPasses (message : JsonValue) (options : HandshakeValidationOptions) : Prop :=
  ∃ version, toNumber (message.get? "protocolVersion") = .ok version ∧
    version.lt (JsNumber.ofNumberValue options.minimumProtocolVersion) = false

def TimestampPasses (dateParse : DateParse) (now : ClockReading) (message : JsonValue)
    (options : HandshakeValidationOptions) : Prop :=
  ∃ timestamp msgTs, toText (message.get? "timestamp") = .ok timestamp ∧
    dateParse timestamp = some msgTs ∧
    (JsNumber.ofNumberValue (maxSkewMs options)).lt
      (.finite (now.millis - msgTs).natAbs) = false

def NoncePasses (seenNonces : Finset String) (message : JsonValue)
    (options : HandshakeValidationOptions) : Prop :=
  ∃ nonce, toText (message.get? "nonce") = .ok nonce ∧ isNonce nonce = true ∧
    hasSeen seenNonces message options = false

def PublicKeyPasses (message : JsonValue) : Prop :=
  ∃ key, message.get? "signerPublicKey" = some (.string key) ∧
    "ed25519_pk_".toList <+: key.toList ∧ jsLength key = 75

def SignaturePasses (message : JsonValue) : Prop :=
  ∃ signature, toText (message.get? "signature") = .ok signature ∧
    SyncEnvelopeBuilder.isValidSignatureHex signature = true

/-! ## Where the checks go wrong -/

/-- The fields which the checks convert have the declared types, and what the checks leave out
holds: the bound on the skew is a number, and the key is in hexadecimal. -/
structure DeclaredTypes (message : JsonValue) (options : HandshakeValidationOptions) : Prop where
  protocolVersion : ∃ version, message.get? "protocolVersion" = some (.number version)
  timestamp : ∃ timestamp, message.get? "timestamp" = some (.string timestamp)
  maxSkew : JsNumber.ofNumberValue (maxSkewMs options) ≠ .nan
  nonce : ∃ nonce, message.get? "nonce" = some (.string nonce)
  signerPublicKey : ∀ key, message.get? "signerPublicKey" = some (.string key) →
    (key.toList.drop 11).all isLowerHexDigit = true
  signature : ∃ signature, message.get? "signature" = some (.string signature)

/-- Each field which a check reaches can be converted by it, the key is a text, and a signature
of another format has a length; where every check passes, the fields have their types. -/
structure Untroubled (dateParse : DateParse) (now : ClockReading) (seenNonces : Finset String)
    (message : JsonValue) (options : HandshakeValidationOptions) : Prop where
  applicationId :
    isText (message.get? "applicationId") options.expectedApplicationId = false →
      Converts (message.get? "applicationId")
  organisationId :
    isText (message.get? "applicationId") options.expectedApplicationId = true →
      isText (message.get? "organisationId") options.expectedOrganisationId = false →
        Converts (message.get? "organisationId")
  protocolVersion : SamePeer message options → Converts (message.get? "protocolVersion")
  timestamp : SamePeer message options → VersionPasses message options →
    Converts (message.get? "timestamp")
  nonce : SamePeer message options → VersionPasses message options →
    TimestampPasses dateParse now message options → Converts (message.get? "nonce")
  signerPublicKey : SamePeer message options → VersionPasses message options →
    TimestampPasses dateParse now message options → NoncePasses seenNonces message options →
      ∃ key, message.get? "signerPublicKey" = some (.string key)
  signature : SamePeer message options → VersionPasses message options →
    TimestampPasses dateParse now message options → NoncePasses seenNonces message options →
      PublicKeyPasses message → Converts (message.get? "signature") ∧
        (SignaturePasses message ∨ ∃ length, lengthText (message.get? "signature") = .ok length)
  passed : SamePeer message options → VersionPasses message options →
    TimestampPasses dateParse now message options → NoncePasses seenNonces message options →
      PublicKeyPasses message → SignaturePasses message → DeclaredTypes message options

/-! ## One check -/

def Throws (check : Except Refusal Unit) : Prop :=
  ∃ error, check = .error (.thrown error)

theorem not_throws_bind_iff {check rest : Except Refusal Unit} :
    ¬ Throws (check >>= fun _ => rest) ↔ ¬ Throws check ∧ (check = .ok () → ¬ Throws rest) := by
  cases check with
  | error refusal => simp [Throws, bind, Except.bind]
  | ok passed => simp [Throws, bind, Except.bind]

theorem bind_eq_ok_iff {check rest : Except Refusal Unit} :
    (check >>= fun _ => rest) = .ok () ↔ check = .ok () ∧ rest = .ok () := by
  cases check with
  | error refusal => simp [bind, Except.bind]
  | ok passed => simp [bind, Except.bind]

variable {code : HandshakeCode}

theorem throws_reject_iff {reason : Except Thrown String} :
    Throws (reject code reason) ↔ ∃ error, reason = .error error := by
  cases reason with
  | error error => simp [Throws, reject]
  | ok reason => simp [Throws, reject]

@[simp] theorem reject_ne_ok {reason : Except Thrown String} :
    reject code reason ≠ .ok () := by
  cases reason <;> simp [reject]

theorem not_throws_ok : ¬ Throws (.ok ()) := by
  rintro ⟨error, herror⟩
  cases herror

theorem throws_converted_bind_iff {α : Type} {value : Except Thrown α}
    {rest : α → Except Refusal Unit} :
    Throws (converted value >>= rest) ↔
      (∃ error, value = .error error) ∨ ∃ result, value = .ok result ∧ Throws (rest result) := by
  cases value with
  | error error => simp [Throws, converted, bind, Except.bind]
  | ok result => simp [converted, bind, Except.bind]

theorem converted_bind_eq_ok_iff {α : Type} {value : Except Thrown α}
    {rest : α → Except Refusal Unit} :
    (converted value >>= rest) = .ok () ↔ ∃ result, value = .ok result ∧ rest result = .ok () := by
  cases value with
  | error error => simp [converted, bind, Except.bind]
  | ok result => simp [converted, bind, Except.bind]

theorem map_eq_error_iff {α β : Type} {value : Except Thrown α} {f : α → β} :
    (∃ error, value.map f = .error error) ↔ ∃ error, value = .error error := by
  cases value with
  | error error => simp [Except.map]
  | ok result => simp [Except.map]

variable {dateParse : DateParse} {now : ClockReading} {seenNonces : Finset String}
  {message : JsonValue} {options : HandshakeValidationOptions}

theorem isText_iff {value : Option JsonValue} {text : String} :
    isText value text = true ↔ value = some (.string text) := by
  unfold isText
  split
  · simp
  · next hother =>
      constructor
      · intro h
        cases h
      · intro hvalue
        exact absurd hvalue (hother text)

theorem throws_checkPeer_iff {field expected label : String} :
    Throws (checkPeer message field expected code label) ↔
      ¬ (isText (message.get? field) expected = false → Converts (message.get? field)) := by
  unfold checkPeer
  split
  · next hsame => simp [hsame, not_throws_ok]
  · next hother =>
      rw [throws_reject_iff, map_eq_error_iff, toText_eq_error_iff]
      simp [hother]

theorem checkPeer_eq_ok_iff {field expected label : String} :
    checkPeer message field expected code label = .ok () ↔
      isText (message.get? field) expected = true := by
  unfold checkPeer
  split
  · next hsame => simp [hsame]
  · next hother => simp [hother]

theorem throws_checkProtocolVersion_iff :
    Throws (checkProtocolVersion message options) ↔
      ¬ Converts (message.get? "protocolVersion") := by
  unfold checkProtocolVersion
  rw [throws_converted_bind_iff, toNumber_eq_error_iff]
  constructor
  · rintro (hthrows | ⟨version, hversion, hthrows⟩)
    · exact hthrows
    · split at hthrows
      · rw [throws_reject_iff, map_eq_error_iff, toText_eq_error_iff] at hthrows
        exact hthrows
      · exact absurd hthrows not_throws_ok
  · exact Or.inl

theorem checkProtocolVersion_eq_ok_iff :
    checkProtocolVersion message options = .ok () ↔ VersionPasses message options := by
  unfold checkProtocolVersion VersionPasses
  rw [converted_bind_eq_ok_iff]
  apply exists_congr
  intro version
  by_cases hbelow : version.lt (JsNumber.ofNumberValue options.minimumProtocolVersion)
  · simp [hbelow]
  · simp [hbelow]

theorem throws_checkTimestamp_iff :
    Throws (checkTimestamp dateParse now message options) ↔
      ¬ Converts (message.get? "timestamp") := by
  unfold checkTimestamp
  rw [throws_converted_bind_iff, toText_eq_error_iff]
  constructor
  · rintro (hthrows | ⟨timestamp, htimestamp, hthrows⟩)
    · exact hthrows
    · -- Past the conversion the check rejects with a text, or passes.
      split at hthrows
      · simp [throws_reject_iff] at hthrows
      · dsimp only at hthrows
        split at hthrows
        · simp [throws_reject_iff] at hthrows
        · exact absurd hthrows not_throws_ok
  · exact Or.inl

theorem checkTimestamp_eq_ok_iff :
    checkTimestamp dateParse now message options = .ok () ↔
      TimestampPasses dateParse now message options := by
  unfold checkTimestamp TimestampPasses
  rw [converted_bind_eq_ok_iff]
  apply exists_congr
  intro timestamp
  cases hparse : dateParse timestamp with
  | none => simp
  | some msgTs => simp

theorem throws_checkNonce_iff :
    Throws (checkNonce seenNonces message options) ↔ ¬ Converts (message.get? "nonce") := by
  unfold checkNonce
  rw [throws_converted_bind_iff, toText_eq_error_iff]
  constructor
  · rintro (hthrows | ⟨nonce, hnonce, hthrows⟩)
    · exact hthrows
    · split at hthrows
      · split at hthrows
        · simp [throws_reject_iff] at hthrows
        · exact absurd hthrows not_throws_ok
      · simp [throws_reject_iff] at hthrows
  · exact Or.inl

theorem checkNonce_eq_ok_iff :
    checkNonce seenNonces message options = .ok () ↔ NoncePasses seenNonces message options := by
  unfold checkNonce NoncePasses
  rw [converted_bind_eq_ok_iff]
  apply exists_congr
  intro nonce
  by_cases hformat : isNonce nonce
  · by_cases hseen : hasSeen seenNonces message options
    · simp [hformat, hseen]
    · simp [hformat, hseen]
  · simp [hformat]

theorem throws_checkPublicKey_iff :
    Throws (checkPublicKey message) ↔
      ¬ ∃ key, message.get? "signerPublicKey" = some (.string key) := by
  unfold checkPublicKey
  split
  · next key hkey =>
      split
      · simp [throws_reject_iff, hkey]
      · simp [not_throws_ok, hkey]
  · next hkey => simp [Throws, hkey]
  · next hkey => simp [Throws, hkey]
  · next value hvalue hother hkey =>
      simp only [Throws, hkey, Option.some.injEq]
      simpa using hvalue

theorem checkPublicKey_eq_ok_iff :
    checkPublicKey message = .ok () ↔ PublicKeyPasses message := by
  unfold checkPublicKey PublicKeyPasses
  split
  · next key hkey =>
      split
      · next hformat =>
          refine iff_of_false reject_ne_ok ?_
          rintro ⟨key', hkey', hstarts, hlength⟩
          cases hkey.symm.trans hkey'
          exact hformat.elim (fun hother => hother hstarts) (fun hother => hother hlength)
      · next hformat =>
          rw [not_or, not_not, not_not] at hformat
          exact iff_of_true rfl ⟨key, hkey, hformat⟩
  · next hkey => simp [hkey]
  · next hkey => simp [hkey]
  · next value hvalue hother hkey =>
      refine iff_of_false (by simp) ?_
      rintro ⟨key, hkey', -⟩
      cases hkey.symm.trans hkey'
      exact hvalue key rfl

theorem throws_checkSignature_iff :
    Throws (checkSignature message) ↔ ¬ (Converts (message.get? "signature") ∧
      (SignaturePasses message ∨
        ∃ length, lengthText (message.get? "signature") = .ok length)) := by
  unfold checkSignature SignaturePasses
  rw [throws_converted_bind_iff, toText_eq_error_iff]
  by_cases hconverts : Converts (message.get? "signature")
  · obtain ⟨signature, hsignature⟩ : ∃ signature, toText (message.get? "signature") =
        .ok signature := by
      cases htext : toText (message.get? "signature") with
      | error error => exact absurd hconverts (toText_eq_error_iff.mp ⟨error, htext⟩)
      | ok signature => exact ⟨signature, rfl⟩
    by_cases hformat : SyncEnvelopeBuilder.isValidSignatureHex signature
    · simp [hsignature, hformat, hconverts, not_throws_ok]
    · cases hlength : lengthText (message.get? "signature") with
      | error error =>
          simp [hsignature, hformat, hconverts, throws_reject_iff, Except.map]
      | ok length =>
          simp [hsignature, hformat, hconverts, throws_reject_iff, Except.map]
  · simp [hconverts]

theorem checkSignature_eq_ok_iff :
    checkSignature message = .ok () ↔ SignaturePasses message := by
  unfold checkSignature SignaturePasses
  rw [converted_bind_eq_ok_iff]
  apply exists_congr
  intro signature
  by_cases hformat : SyncEnvelopeBuilder.isValidSignatureHex signature
  · simp [hformat]
  · simp [hformat]

/-! ## All checks -/

theorem validateParsed_eq_ok_iff :
    validateParsed dateParse now seenNonces message options = .ok () ↔
      SamePeer message options ∧ VersionPasses message options ∧
        TimestampPasses dateParse now message options ∧ NoncePasses seenNonces message options ∧
        PublicKeyPasses message ∧ SignaturePasses message := by
  by_cases hobject : message.isObjectLike
  · rw [validateParsed, if_pos hobject, bind_eq_ok_iff, bind_eq_ok_iff, bind_eq_ok_iff,
      bind_eq_ok_iff, bind_eq_ok_iff, bind_eq_ok_iff, checkApplicationId, checkOrganisationId,
      checkPeer_eq_ok_iff, checkPeer_eq_ok_iff, checkProtocolVersion_eq_ok_iff,
      checkTimestamp_eq_ok_iff, checkNonce_eq_ok_iff, checkPublicKey_eq_ok_iff,
      checkSignature_eq_ok_iff, SamePeer, and_assoc]
  · rw [validateParsed, if_neg hobject]
    refine iff_of_false (by simp) ?_
    rintro ⟨⟨happlication, -⟩, -⟩
    cases message <;> simp_all [JsonValue.isObjectLike, JsonValue.get?, isText]

theorem not_throws_validateParsed_iff :
    ¬ Throws (validateParsed dateParse now seenNonces message options) ↔
      (isText (message.get? "applicationId") options.expectedApplicationId = false →
        Converts (message.get? "applicationId")) ∧
      (isText (message.get? "applicationId") options.expectedApplicationId = true →
        (isText (message.get? "organisationId") options.expectedOrganisationId = false →
          Converts (message.get? "organisationId")) ∧
        (isText (message.get? "organisationId") options.expectedOrganisationId = true →
          Converts (message.get? "protocolVersion") ∧ (VersionPasses message options →
          Converts (message.get? "timestamp") ∧ (TimestampPasses dateParse now message options →
          Converts (message.get? "nonce") ∧ (NoncePasses seenNonces message options →
          (∃ key, message.get? "signerPublicKey" = some (.string key)) ∧
          (PublicKeyPasses message → Converts (message.get? "signature") ∧
            (SignaturePasses message ∨
              ∃ length, lengthText (message.get? "signature") = .ok length))))))) := by
  by_cases hobject : message.isObjectLike
  · rw [validateParsed, if_pos hobject, not_throws_bind_iff, not_throws_bind_iff,
      not_throws_bind_iff, not_throws_bind_iff, not_throws_bind_iff, not_throws_bind_iff,
      checkApplicationId, checkOrganisationId, throws_checkPeer_iff, checkPeer_eq_ok_iff,
      throws_checkPeer_iff, checkPeer_eq_ok_iff, throws_checkProtocolVersion_iff,
      checkProtocolVersion_eq_ok_iff, throws_checkTimestamp_iff, checkTimestamp_eq_ok_iff,
      throws_checkNonce_iff, checkNonce_eq_ok_iff, throws_checkPublicKey_iff,
      checkPublicKey_eq_ok_iff, throws_checkSignature_iff]
    simp only [not_not]
  · have hnone : ∀ key, message.get? key = none := by
      intro key
      cases message <;> simp_all [JsonValue.isObjectLike, JsonValue.get?]
    rw [validateParsed, if_neg hobject]
    simp [Throws, hnone, isText, Converts]

theorem utf16Width_of_hex {c : Char} (hhex : isLowerHexDigit c = true) : utf16Width c = 1 := by
  have hsmall : c.toNat < 0x10000 := by
    simp only [isLowerHexDigit, isDecimalDigit, Bool.or_eq_true, Bool.and_eq_true,
      decide_eq_true_eq, Char.le_def, UInt32.le_iff_toNat_le] at hhex
    have h9 : ('9' : Char).val.toNat = 57 := rfl
    have hf : ('f' : Char).val.toNat = 102 := rfl
    simp only [Char.toNat]
    omega
  rw [utf16Width, if_pos hsmall]

theorem sum_utf16Width_of_hex {chars : List Char} (hhex : chars.all isLowerHexDigit = true) :
    (chars.map utf16Width).sum = chars.length := by
  induction chars with
  | nil => rfl
  | cons c chars ih =>
      rw [List.all_cons, Bool.and_eq_true] at hhex
      rw [List.map_cons, List.sum_cons, ih hhex.2, utf16Width_of_hex hhex.1, List.length_cons,
        Nat.add_comm]

/-- The expression `/^ed25519_pk_[0-9a-f]{64}$/`, as the check and what it leaves out. -/
theorem isPublicKey_iff {key : String} :
    SyncEnvelopeBuilder.isPublicKey key = true ↔
      ("ed25519_pk_".toList <+: key.toList ∧ jsLength key = 75) ∧
        (key.toList.drop 11).all isLowerHexDigit = true := by
  have hlength : "ed25519_pk_".toList.length = 11 := rfl
  have hwidths : ("ed25519_pk_".toList.map utf16Width).sum = 11 := rfl
  have hstarts : key.toList.take 11 = "ed25519_pk_".toList ↔
      "ed25519_pk_".toList <+: key.toList := by
    rw [List.prefix_iff_eq_take, hlength, eq_comm]
  simp only [SyncEnvelopeBuilder.isPublicKey, Bool.and_eq_true, decide_eq_true_eq, hstarts]
  constructor
  · rintro ⟨⟨hstarts, hsixtyFour⟩, hhex⟩
    refine ⟨⟨hstarts, ?_⟩, hhex⟩
    obtain ⟨rest, hrest⟩ := hstarts
    rw [← hrest, List.drop_append_of_le_length hlength.ge, ← hlength, List.drop_length,
      List.nil_append] at hsixtyFour hhex
    rw [jsLength, ← hrest, List.map_append, List.sum_append, hwidths,
      sum_utf16Width_of_hex hhex, hsixtyFour]
  · rintro ⟨⟨hstarts, hseventyFive⟩, hhex⟩
    refine ⟨⟨hstarts, ?_⟩, hhex⟩
    obtain ⟨rest, hrest⟩ := hstarts
    rw [← hrest, List.drop_append_of_le_length hlength.ge, ← hlength, List.drop_length,
      List.nil_append] at hhex ⊢
    rw [jsLength, ← hrest, List.map_append, List.sum_append, hwidths,
      sum_utf16Width_of_hex hhex] at hseventyFive
    omega

theorem wellFormed_iff :
    WellFormed dateParse now seenNonces message options ↔
      (SamePeer message options ∧ VersionPasses message options ∧
        TimestampPasses dateParse now message options ∧ NoncePasses seenNonces message options ∧
        PublicKeyPasses message ∧ SignaturePasses message) ∧
      DeclaredTypes message options := by
  constructor
  · intro hwell
    obtain ⟨version, hversion, hbelow⟩ := hwell.protocolVersion
    obtain ⟨timestamp, msgTs, htimestamp, hparse, hskew⟩ := hwell.timestamp
    obtain ⟨nonce, hnonce, hformat, hunseen⟩ := hwell.nonce
    obtain ⟨key, hkey, hkeyFormat⟩ := hwell.signerPublicKey
    obtain ⟨signature, hsignature, hsignatureFormat⟩ := hwell.signature
    rw [isPublicKey_iff] at hkeyFormat
    simp only [JsNumber.le, Bool.and_eq_true, decide_eq_true_eq, Bool.not_eq_true'] at hskew
    refine ⟨⟨⟨isText_iff.mpr hwell.applicationId, isText_iff.mpr hwell.organisationId⟩,
      ⟨_, by rw [hversion, toNumber], hbelow⟩,
      ⟨timestamp, msgTs, by rw [htimestamp]; rfl, hparse, hskew.2⟩,
      ⟨nonce, by rw [hnonce]; rfl, hformat, ?_⟩,
      ⟨key, hkey, hkeyFormat.1⟩,
      ⟨signature, by rw [hsignature]; rfl, hsignatureFormat⟩⟩,
      ⟨⟨version, hversion⟩, ⟨timestamp, htimestamp⟩, hskew.1.2, ⟨nonce, hnonce⟩, ?_,
        ⟨signature, hsignature⟩⟩⟩
    · simpa [hasSeen, hnonce] using hunseen
    · intro key' hkey'
      cases hkey.symm.trans hkey'
      exact hkeyFormat.2
  · rintro ⟨⟨⟨happlication, horganisation⟩, ⟨version, hversion, hbelow⟩,
      ⟨timestamp, msgTs, htimestamp, hparse, hskew⟩, ⟨nonce, hnonce, hformat, hunseen⟩,
      ⟨key, hkey, hkeyFormat⟩, ⟨signature, hsignature, hsignatureFormat⟩⟩, htypes⟩
    obtain ⟨version', hversion'⟩ := htypes.protocolVersion
    obtain ⟨timestamp', htimestamp'⟩ := htypes.timestamp
    obtain ⟨nonce', hnonce'⟩ := htypes.nonce
    obtain ⟨signature', hsignature'⟩ := htypes.signature
    rw [hversion', toNumber] at hversion
    rw [htimestamp'] at htimestamp
    rw [hnonce'] at hnonce
    rw [hsignature'] at hsignature
    cases hversion
    cases htimestamp
    cases hnonce
    cases hsignature
    refine ⟨isText_iff.mp happlication, isText_iff.mp horganisation,
      ⟨version', hversion', hbelow⟩, ⟨timestamp', msgTs, htimestamp', hparse, ?_⟩,
      ⟨nonce', hnonce', hformat, ?_⟩,
      ⟨key, hkey, isPublicKey_iff.mpr ⟨hkeyFormat, htypes.signerPublicKey key hkey⟩⟩,
      ⟨signature', hsignature', hsignatureFormat⟩⟩
    · rw [JsNumber.le, hskew]
      simp [htypes.maxSkew]
    · simpa [hasSeen, hnonce'] using hunseen

def peerFields (nonce : JsonValue) : List (String × JsonValue) :=
  [("applicationId", .string "app"),
    ("organisationId", .string "org"),
    ("protocolVersion", .number (.integer 1)),
    ("timestamp", .string "1970-01-01T00:00:00.000Z"),
    ("nonce", nonce)]

end HandshakeValidator
end TauriPlatform
