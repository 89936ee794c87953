import TauriPlatform.HlcText
import TauriPlatform.InboxService
import TauriPlatform.OutboxDurable
import TauriPlatform.ReadingRange

/-!
# Envelopes which the native database stores

`validateEnvelope` lets an envelope pass whose JSON takes up to ten megabytes.  The native
database estimates a text at six bytes for each of its own, and refuses a parameter whose
estimate is above one megabyte.
-/

namespace TauriPlatform

open Async Relational DurableDatabase

/-! ## Correlation ids -/

def generateCorrelationId (kind : String) (clock : ClockReading)
    (randomBytes : Fin 8 → UInt8) : String :=
  let timestamp := HybridLogicalClock.padStart 12 (HybridLogicalClock.hexText clock.millis)
  let randomHex := (List.ofFn randomBytes).flatMap fun byte => fixedDigits 16 2 byte.toNat
  String.ofList (kind.toList ++ '_' :: (timestamp ++ randomHex))

theorem generateCorrelationId_length_le (kind : String) (clock : ClockReading)
    (randomBytes : Fin 8 → UInt8) :
    (generateCorrelationId kind clock randomBytes).toList.length ≤ kind.toList.length + 32 := by
  have hdigits : (Nat.toDigits 16 clock.millis.natAbs).length ≤ 14 := by
    rw [Nat.length_toDigits_le_iff (by decide) (by decide)]
    have hrange := clock.inRange
    have hmax : maxTimeValue.natAbs < 16 ^ 14 := by decide
    omega
  have htimestamp :
      (HybridLogicalClock.padStart 12 (HybridLogicalClock.hexText clock.millis)).length ≤ 15 := by
    unfold HybridLogicalClock.padStart HybridLogicalClock.hexText
    simp only [List.length_append, List.length_replicate]
    split <;> simp only [List.length_cons, List.length_nil] <;> omega
  have hrandom : ((List.ofFn randomBytes).flatMap fun byte =>
      fixedDigits 16 2 byte.toNat).length = 16 := by
    simp
  unfold generateCorrelationId
  simp only [String.toList_ofList, List.length_append, List.length_cons, hrandom]
  omega

theorem correlationId_short {kind : String} (hkind : kind.toList.length ≤ 100)
    (clock : ClockReading) (randomBytes : Fin 8 → UInt8) :
    (generateCorrelationId kind clock randomBytes).toList.length ≤ 200 :=
  (generateCorrelationId_length_le kind clock randomBytes).trans (by omega)

theorem iso_short (clock : ClockReading) : clock.iso.toList.length ≤ 200 := by
  rw [ClockReading.iso, String.toList_ofList]
  exact (isoChars_length_le clock.millis).trans (by decide)

/-! ## Sizes of what was accepted -/

theorem utf8Size_le (c : Char) : c.utf8Size ≤ 3 * utf16Width c := by
  have hfour := Char.utf8Size_le_four c
  unfold utf16Width
  split
  · rename_i hbasic
    have hshort : c.utf8Size ≠ 4 := by
      rw [Ne, Char.utf8Size_eq_four_iff, UInt32.lt_iff_toNat_lt, not_lt]
      exact Nat.le_of_lt_succ hbasic
    omega
  · omega

theorem utf8Length_le_jsLength (text : String) :
    utf8Length text.toList ≤ 3 * jsLength text := by
  unfold utf8Length jsLength
  induction text.toList with
  | nil => simp
  | cons c chars ih =>
      have hchar := utf8Size_le c
      simp only [List.map_cons, List.sum_cons]
      omega

theorem utf8Length_serialize_of_mem {entries : List (String × JsonValue)} {key : String}
    {value : JsonValue} (hmem : (key, value) ∈ entries) :
    utf8Length value.serialize ≤ utf8Length (serializeEntries entries) := by
  induction entries with
  | nil => cases hmem
  | cons first rest ih =>
      obtain ⟨firstKey, firstValue⟩ := first
      cases rest with
      | nil =>
          cases List.mem_singleton.mp hmem
          simp only [serializeEntries, utf8Length_append, utf8Length_cons]
          omega
      | cons second rest =>
          simp only [serializeEntries, utf8Length_append, utf8Length_cons]
          cases List.mem_cons.mp hmem with
          | inl hfirst =>
              cases hfirst
              omega
          | inr hrest =>
              have hle := ih hrest
              omega

theorem utf8Length_serialize_of_get? {value field : JsonValue} {key : String}
    (hfield : value.get? key = some field) :
    utf8Length field.serialize ≤ utf8Length value.serialize := by
  cases value with
  | object entries =>
      obtain ⟨front, back, hsplit, -⟩ := List.lookup_eq_some_iff.mp hfield
      have hmem : (key, field) ∈ entries := by
        rw [hsplit]
        simp
      have hle := utf8Length_serialize_of_mem hmem
      simp only [JsonValue.serialize, utf8Length_append, utf8Length_cons]
      omega
  | _ => cases hfield

namespace SyncEnvelopeBuilder

def textFields (operation : SyncOperation) : List String :=
  [operation.operationId, operation.organisationId, operation.syncGroupId,
    operation.featureId, operation.entityType, operation.entityId, operation.authorId,
    operation.deviceId, operation.logicalTimestamp]

variable {operation : JsonValue}

theorem requireField_utf8Length {field value : String}
    (hfield : requireField operation field = .ok value) : utf8Length value.toList ≤ 3072 := by
  unfold requireField at hfield
  split at hfield
  · split_ifs at hfield with hbad
    cases hfield
    have hbytes := utf8Length_le_jsLength value
    have hunits : jsLength value ≤ 1024 := by
      by_contra hlong
      exact hbad (Or.inr (by omega))
    omega
  · cases hfield

theorem requireVersion_safe {field : String} {version : Int}
    (hversion : requireVersion operation field = .ok version) :
    version.natAbs ≤ maxSafeInteger := by
  unfold requireVersion at hversion
  split at hversion
  · rename_i found hfound
    split_ifs at hversion
    cases hversion
    obtain ⟨value, -, hsafe⟩ := Option.bind_eq_some_iff.mp hfound
    cases value with
    | number number =>
        cases number with
        | integer value =>
            change (if value.natAbs ≤ maxSafeInteger then some value else none) = _ at hsafe
            split_ifs at hsafe with hwithin
            cases hsafe
            exact hwithin
        | fraction _ _ _ => cases hsafe
    | _ => cases hsafe
  · cases hversion

structure Bounded (operation : JsonValue) (validated : SyncOperation) : Prop where
  texts : ∀ text ∈ textFields validated, utf8Length text.toList ≤ 3072
  schemaVersion : validated.schemaVersion.natAbs ≤ maxSafeInteger
  protocolVersion : validated.protocolVersion.natAbs ≤ maxSafeInteger
  payload : operation.get? "payload" = some validated.payload

theorem validateOperation_bounded {validated : SyncOperation}
    (haccepted : validateOperation operation = .ok validated) : Bounded operation validated := by
  have hchecks := validateOperation_eq_ok_iff.mp haccepted
  refine ⟨?_, requireVersion_safe hchecks.schemaVersion,
    requireVersion_safe hchecks.protocolVersion, hchecks.payload⟩
  simp only [textFields, List.forall_mem_cons]
  exact ⟨requireField_utf8Length hchecks.operationId,
    requireField_utf8Length hchecks.organisationId, requireField_utf8Length hchecks.syncGroupId,
    requireField_utf8Length hchecks.featureId, requireField_utf8Length hchecks.entityType,
    requireField_utf8Length hchecks.entityId, requireField_utf8Length hchecks.authorId,
    requireField_utf8Length hchecks.deviceId, requireField_utf8Length hchecks.logicalTimestamp,
    by simp⟩

structure Parts (envelope : JsonValue) (validated : SyncEnvelope) : Prop where
  operation : Bounded ((envelope.get? "operation").getD .null) validated.operation
  envelopeId : validated.envelopeId = validated.operation.operationId
  signerPublicKey : validated.signerPublicKey.toList.length = 75
  signature : validated.signature.toList.length = 128

theorem isPublicKey_length {text : String} (hkey : isPublicKey text) :
    text.toList.length = 75 := by
  simp only [isPublicKey, Bool.and_eq_true, decide_eq_true_eq] at hkey
  have hsplit := congrArg List.length (List.take_append_drop 11 text.toList)
  rw [List.length_append, hkey.1.1, hkey.1.2] at hsplit
  exact hsplit.symm

theorem validateEnvelope_parts {envelope : JsonValue} {validated : SyncEnvelope}
    (haccepted : validateEnvelope envelope = .ok validated) : Parts envelope validated := by
  have hchecks := validateEnvelope_eq_ok_iff.mp haccepted
  have hhex := (validateSignature_eq_ok hchecks.signature).2
  simp only [isValidSignatureHex, Bool.and_eq_true, decide_eq_true_eq] at hhex
  exact ⟨validateOperation_bounded hchecks.operation, hchecks.envelopeId,
    isPublicKey_length (validatePublicKeyFormat_eq_ok hchecks.signerPublicKey).2, hhex.1⟩

theorem Parts.payload_le {envelope : JsonValue} {validated : SyncEnvelope}
    (hparts : Parts envelope validated) :
    utf8Length validated.operation.payload.serialize ≤ utf8Length envelope.serialize := by
  have hpayload := hparts.operation.payload
  cases hoperation : envelope.get? "operation" with
  | none =>
      rw [hoperation] at hpayload
      cases hpayload
  | some operation =>
      rw [hoperation] at hpayload
      exact (utf8Length_serialize_of_get? hpayload).trans
        (utf8Length_serialize_of_get? hoperation)

end SyncEnvelopeBuilder

/-! ## Requests within their bounds -/

namespace DurableDatabase

variable {Db Row : Type} {statement : Statement Db Row}

variable {value : JsonValue}

theorem addParameterBytes_estimates {params : List JsonValue} {requestBytes total : Nat}
    (hok : addParameterBytes params requestBytes = .ok total) (hmem : value ∈ params) :
    ∃ estimate, estimateJsonValueBytes value 0 = some estimate := by
  induction params generalizing requestBytes with
  | nil => cases hmem
  | cons first rest ih =>
      unfold addParameterBytes at hok
      split_ifs at hok
      cases hestimate : estimateJsonValueBytes first 0 with
      | none =>
          rw [hestimate] at hok
          cases hok
      | some estimate =>
          rw [hestimate] at hok
          dsimp only at hok
          split_ifs at hok
          cases List.mem_cons.mp hmem with
          | inl hfirst => exact ⟨estimate, hfirst ▸ hestimate⟩
          | inr hrest => exact ih hok hrest

theorem RequestFits.text_le (hfits : RequestFits statement) {text : String}
    (hmem : .string text ∈ statement.params) :
    textEstimate (utf8Length text.toList) ≤ maxSqlParameterBytes := by
  obtain ⟨total, hok⟩ := hfits
  unfold validateSqlRequest at hok
  split_ifs at hok
  obtain ⟨estimate, hestimate⟩ := addParameterBytes_estimates hok hmem
  rw [estimateJsonValueBytes, if_neg (by decide), boundedEstimate] at hestimate
  split_ifs at hestimate with hbound
  exact hbound

theorem requestFits_of_estimates (bounds : List Nat)
    (hsql : utf8Length statement.sql.toList ≤ 1000)
    (hcount : statement.params.length ≤ maxSqlParameters)
    (hparams : List.Forall₂ (fun value bound => isLargeUnsigned value = false ∧
      ∃ estimate ≤ bound, estimateJsonValueBytes value 0 = some estimate)
      statement.params bounds)
    (hsum : 1000 + bounds.sum ≤ maxSqlRequestBytes) : RequestFits statement := by
  have hstatement : ¬ utf8Length statement.sql.toList > maxSqlStatementBytes := by
    have hbound : maxSqlStatementBytes = 1048576 := rfl
    omega
  obtain ⟨total, -, hok⟩ := OutboxService.addParameterBytes_of_estimates hparams
    (show utf8Length statement.sql.toList + bounds.sum ≤ maxSqlRequestBytes by omega)
  refine ⟨total, ?_⟩
  rw [validateSqlRequest, if_neg hstatement, if_neg (by omega), hok]

def Estimated (value : JsonValue) (bound : Nat) : Prop :=
  isLargeUnsigned value = false ∧
    ∃ estimate ≤ bound, estimateJsonValueBytes value 0 = some estimate

theorem estimated_text {text : String} (hlength : utf8Length text.toList ≤ 3072) :
    Estimated (.string text) 20000 :=
  OutboxService.text_estimate (by unfold textEstimate; omega) (by decide)

theorem estimated_short {text : String} (hlength : text.toList.length ≤ 200) :
    Estimated (.string text) 20000 :=
  estimated_text ((utf8Length_le _).trans (by omega))

theorem estimated_version {version : Int} (hsafe : version.natAbs ≤ maxSafeInteger) :
    Estimated (.number (.integer version)) 20000 := by
  unfold maxSafeInteger at hsafe
  have hdigits : (Nat.toDigits 10 version.natAbs).length ≤ 16 := by
    rw [Nat.length_toDigits_le_iff (by decide) (by decide)]
    omega
  have htext : (nativeNumberText (.integer version)).length ≤ 17 := by
    unfold nativeNumberText
    dsimp only
    rw [if_pos ⟨by omega, by omega⟩, List.length_append]
    split <;> simp only [List.length_cons, List.length_nil] <;> omega
  have hsigned : isLargeUnsigned (.number (.integer version)) = false := by
    simp only [isLargeUnsigned, Bool.and_eq_false_iff, decide_eq_false_iff_not]
    omega
  refine ⟨hsigned, (nativeNumberText (.integer version)).length, by omega, ?_⟩
  have hparameter : (nativeNumberText (.integer version)).length ≤ maxSqlParameterBytes := by
    unfold maxSqlParameterBytes
    omega
  rw [estimateJsonValueBytes, if_neg (by decide), boundedEstimate, if_pos hparameter]

theorem textEstimate_le_iff (bytes : Nat) :
    textEstimate bytes ≤ maxSqlParameterBytes ↔ bytes ≤ 174762 := by
  unfold textEstimate maxSqlParameterBytes
  omega

theorem estimated_json (hlength : utf8Length value.serialize ≤ 174762) :
    Estimated (.string value.stringify) maxSqlParameterBytes := by
  apply OutboxService.text_estimate _ le_rfl
  rw [JsonValue.stringify, String.toList_ofList]
  exact (textEstimate_le_iff _).mpr hlength

theorem RequestFits.json_le (hfits : RequestFits statement)
    (hmem : .string value.stringify ∈ statement.params) :
    utf8Length value.serialize ≤ 174762 := by
  have hbound := hfits.text_le hmem
  rw [JsonValue.stringify, String.toList_ofList] at hbound
  exact (textEstimate_le_iff _).mp hbound

end DurableDatabase

/-! ## The statements for an envelope -/

section Envelope

variable {id now : String} {envelope : JsonValue} {validated : SyncEnvelope}

theorem OperationType.text_length_le (operation : OperationType) :
    operation.text.toList.length ≤ 200 := by
  cases operation <;> decide

structure SmallParameters (validated : SyncEnvelope) : Prop where
  envelopeId : Estimated (.string validated.envelopeId) 20000
  organisationId : Estimated (.string validated.operation.organisationId) 20000
  syncGroupId : Estimated (.string validated.operation.syncGroupId) 20000
  featureId : Estimated (.string validated.operation.featureId) 20000
  entityType : Estimated (.string validated.operation.entityType) 20000
  entityId : Estimated (.string validated.operation.entityId) 20000
  operation : Estimated (.string validated.operation.operation.text) 20000
  authorId : Estimated (.string validated.operation.authorId) 20000
  deviceId : Estimated (.string validated.operation.deviceId) 20000
  logicalTimestamp : Estimated (.string validated.operation.logicalTimestamp) 20000
  schemaVersion : Estimated (.number (.integer validated.operation.schemaVersion)) 20000
  protocolVersion : Estimated (.number (.integer validated.operation.protocolVersion)) 20000
  signerPublicKey : Estimated (.string validated.signerPublicKey) 20000
  signature : Estimated (.string validated.signature) 20000

theorem SyncEnvelopeBuilder.Parts.small (hparts : Parts envelope validated) :
    SmallParameters validated := by
  have htexts := hparts.operation.texts
  simp only [textFields, List.forall_mem_cons] at htexts
  obtain ⟨hoperationId, horganisationId, hsyncGroupId, hfeatureId, hentityType, hentityId,
    hauthorId, hdeviceId, hlogicalTimestamp, -⟩ := htexts
  exact {
    envelopeId := estimated_text (by rwa [hparts.envelopeId])
    organisationId := estimated_text horganisationId
    syncGroupId := estimated_text hsyncGroupId
    featureId := estimated_text hfeatureId
    entityType := estimated_text hentityType
    entityId := estimated_text hentityId
    operation := estimated_short (OperationType.text_length_le _)
    authorId := estimated_text hauthorId
    deviceId := estimated_text hdeviceId
    logicalTimestamp := estimated_text hlogicalTimestamp
    schemaVersion := estimated_version hparts.operation.schemaVersion
    protocolVersion := estimated_version hparts.operation.protocolVersion
    signerPublicKey := estimated_short (by rw [hparts.signerPublicKey]; decide)
    signature := estimated_short (by rw [hparts.signature]; decide) }

set_option maxRecDepth 4000 in
theorem OutboxService.insertStatement_sql (row : OutboxRow) :
    utf8Length (insertStatement row).sql.toList ≤ 1000 :=
  utf8Length_toList_ofList (by decide)

set_option maxRecDepth 4000 in
theorem InboxService.insertStatement_sql (row : InboxRow) :
    utf8Length (insertStatement row).sql.toList ≤ 1000 :=
  OutboxService.utf8Length_toList_ofList (by decide)

theorem InboxService.selectByEnvelopeId_sql (envelopeId : String) :
    utf8Length (selectByEnvelopeId envelopeId).sql.toList ≤ 1000 :=
  OutboxService.utf8Length_toList_ofList (by decide)

theorem OutboxService.insert_fits_iff (hparts : SyncEnvelopeBuilder.Parts envelope validated)
    (hid : id.toList.length ≤ 200) (hnow : now.toList.length ≤ 200) :
    RequestFits (insertStatement (newRow id now envelope validated)) ↔
      utf8Length envelope.serialize ≤ 174762 := by
  constructor
  · intro hfits
    apply hfits.json_le
    change _ ∈ [_, _, _, _, _, _, _, _, _, _, _, _, _, _, _, _, _, _]
    simp [newRow, JsonValue.ofString?]
  · intro hlength
    have hsmall := hparts.small
    apply requestFits_of_estimates [20000, 20000, 20000, maxSqlParameterBytes, 20000, 20000,
      20000, 20000, 20000, 20000, maxSqlParameterBytes, 20000, 20000, 20000, 20000, 20000,
      20000, 20000] (insertStatement_sql _) (Nat.le_of_ble_eq_true rfl)
    · refine .cons (estimated_short hid) ?_
      refine .cons (estimated_short hnow) ?_
      refine .cons hsmall.envelopeId ?_
      refine .cons (estimated_json hlength) ?_
      refine .cons hsmall.organisationId ?_
      refine .cons hsmall.syncGroupId ?_
      refine .cons hsmall.featureId ?_
      refine .cons hsmall.entityType ?_
      refine .cons hsmall.entityId ?_
      refine .cons hsmall.operation ?_
      refine .cons (estimated_json (hparts.payload_le.trans hlength)) ?_
      refine .cons hsmall.authorId ?_
      refine .cons hsmall.deviceId ?_
      refine .cons hsmall.logicalTimestamp ?_
      refine .cons hsmall.schemaVersion ?_
      refine .cons hsmall.protocolVersion ?_
      refine .cons hsmall.signerPublicKey ?_
      exact .cons hsmall.signature .nil
    · decide

theorem InboxService.insert_fits_iff {verificationStatus : VerificationStatus}
    (hparts : SyncEnvelopeBuilder.Parts envelope validated)
    (hid : id.toList.length ≤ 200) (hnow : now.toList.length ≤ 200) :
    RequestFits (insertStatement (deliveredRow id now validated verificationStatus)) ↔
      utf8Length validated.operation.payload.serialize ≤ 174762 := by
  constructor
  · intro hfits
    apply hfits.json_le
    change _ ∈ [_, _, _, _, _, _, _, _, _, _, _, _, _, _, _, _, _]
    simp [deliveredRow]
  · intro hlength
    have hsmall := hparts.small
    have hstatus : verificationStatus.text.toList.length ≤ 200 := by
      cases verificationStatus <;> decide
    apply requestFits_of_estimates [20000, 20000, 20000, 20000, 20000, 20000, 20000, 20000,
      20000, 20000, maxSqlParameterBytes, 20000, 20000, 20000, 20000, 20000, 20000]
      (insertStatement_sql _) (Nat.le_of_ble_eq_true rfl)
    · refine .cons (estimated_short hid) ?_
      refine .cons (estimated_short hnow) ?_
      refine .cons hsmall.envelopeId ?_
      refine .cons hsmall.organisationId ?_
      refine .cons hsmall.deviceId ?_
      refine .cons hsmall.syncGroupId ?_
      refine .cons hsmall.featureId ?_
      refine .cons hsmall.entityType ?_
      refine .cons hsmall.entityId ?_
      refine .cons hsmall.operation ?_
      refine .cons (estimated_json hlength) ?_
      refine .cons hsmall.logicalTimestamp ?_
      refine .cons hsmall.schemaVersion ?_
      refine .cons hsmall.protocolVersion ?_
      refine .cons hsmall.signerPublicKey ?_
      refine .cons hsmall.signature ?_
      exact .cons (estimated_short hstatus) .nil
    · decide

theorem InboxService.select_fits (hparts : SyncEnvelopeBuilder.Parts envelope validated) :
    RequestFits (selectByEnvelopeId validated.envelopeId) :=
  requestFits_of_estimates [20000] (selectByEnvelopeId_sql _) (Nat.le_of_ble_eq_true rfl)
    (.cons hparts.small.envelopeId .nil) (by decide)

end Envelope

/-! ## The programs -/

/-- The statement of the call is admitted by `validate_sql_request`. -/
def TransactionCall.Fits {Db : Type} : ∀ ⦃β : Type⦄, TransactionCall Db β → Prop
  | _, .query statement => RequestFits statement
  | _, .execute statement => RequestFits statement

/-- The statement of the call is admitted by `validate_sql_request`. -/
def DbCall.Fits {Db : Type} : ∀ ⦃β : Type⦄, DbCall Db β → Prop
  | _, .query statement => RequestFits statement
  | _, .execute statement => RequestFits statement
  | _, .transaction _ => True

section Programs

variable {Db Row : Type} {statement : Statement Db Row}

theorem connection_execute_makes (hfits : RequestFits statement) :
    ((connectionExecutor Db).execute statement).Makes DbCall.Fits :=
  Program.Makes.bind (Program.makes_await hfits) fun _ => Program.makes_done _

theorem connection_query_makes (hfits : RequestFits statement) :
    ((connectionExecutor Db).query statement).Makes DbCall.Fits :=
  Program.makes_await hfits

theorem transaction_execute_makes (hfits : RequestFits statement) :
    ((transactionExecutor Db).execute statement).Makes TransactionCall.Fits :=
  Program.Makes.bind (Program.makes_await hfits) fun _ => Program.makes_done _

theorem transaction_query_makes (hfits : RequestFits statement) :
    ((transactionExecutor Db).query statement).Makes TransactionCall.Fits :=
  Program.makes_await hfits

end Programs

section Storage

variable {envelope : JsonValue} {validated : SyncEnvelope}
  (haccepted : SyncEnvelopeBuilder.validateEnvelope envelope = .ok validated)

include haccepted

theorem OutboxService.enqueue_makes_iff {id now : String} (hid : id.toList.length ≤ 200)
    (hnow : now.toList.length ≤ 200) :
    (enqueue (transactionExecutor OutboxDatabase) id now envelope).Makes TransactionCall.Fits ↔
      utf8Length envelope.serialize ≤ 174762 := by
  rw [← insert_fits_iff (SyncEnvelopeBuilder.validateEnvelope_parts haccepted) hid hnow]
  unfold enqueue
  rw [haccepted]
  constructor
  · intro hmakes
    exact hmakes.1
  · intro hfits
    exact (transaction_execute_makes hfits).bind fun _ => Program.makes_done _

theorem InboxService.receive_makes {Call : Type → Type 1} {executor : Executor InboxTable Call}
    {Good : ∀ ⦃β : Type⦄, Call β → Prop}
    (hexecute : ∀ {Row : Type} {statement : Statement InboxTable Row},
      RequestFits statement → (executor.execute statement).Makes Good)
    (hquery : ∀ {Row : Type} {statement : Statement InboxTable Row},
      RequestFits statement → (executor.query statement).Makes Good)
    {id now : String} (hid : id.toList.length ≤ 200) (hnow : now.toList.length ≤ 200)
    (hlength : utf8Length validated.operation.payload.serialize ≤ 174762)
    (verifyFn : VerifyFn) :
    (receive executor id now envelope verifyFn).Makes Good := by
  have hparts := SyncEnvelopeBuilder.validateEnvelope_parts haccepted
  unfold receive
  rw [haccepted]
  apply (hexecute ((insert_fits_iff hparts hid hnow).mpr hlength)).bind
  intro _
  apply (hquery (select_fits hparts)).bind
  intro rows
  cases rows with
  | nil => exact Program.makes_done _
  | cons stored rest =>
      dsimp only
      split
      · exact Program.makes_done _
      · exact Program.makes_done _

theorem InboxService.receive_makes_iff {id now : String} (hid : id.toList.length ≤ 200)
    (hnow : now.toList.length ≤ 200) (verifyFn : VerifyFn) :
    (receive (connectionExecutor InboxTable) id now envelope verifyFn).Makes DbCall.Fits ↔
      utf8Length validated.operation.payload.serialize ≤ 174762 := by
  have hparts := SyncEnvelopeBuilder.validateEnvelope_parts haccepted
  constructor
  · intro hmakes
    unfold receive at hmakes
    rw [haccepted] at hmakes
    exact (insert_fits_iff hparts hid hnow).mp hmakes.1
  · intro hlength
    exact receive_makes haccepted connection_execute_makes connection_query_makes hid hnow
      hlength verifyFn

/-- An accepted envelope is stored by the outbox and by the inbox exactly when its JSON takes
at most 174762 bytes. -/
theorem envelope_storable_iff (outboxClock outboxNow inboxClock inboxNow : ClockReading)
    (outboxBytes inboxBytes : Fin 8 → UInt8) (verifyFn : VerifyFn) :
    ((OutboxService.enqueue (transactionExecutor OutboxDatabase)
        (generateCorrelationId "outbox" outboxClock outboxBytes) outboxNow.iso
        envelope).Makes TransactionCall.Fits ∧
      (InboxService.receive (connectionExecutor InboxTable)
        (generateCorrelationId "inbox" inboxClock inboxBytes) inboxNow.iso envelope
        verifyFn).Makes DbCall.Fits ∧
      (InboxService.receive (transactionExecutor InboxTable)
        (generateCorrelationId "inbox" inboxClock inboxBytes) inboxNow.iso envelope
        verifyFn).Makes TransactionCall.Fits) ↔
      utf8Length envelope.serialize ≤ 174762 := by
  have hparts := SyncEnvelopeBuilder.validateEnvelope_parts haccepted
  have houtboxId : (generateCorrelationId "outbox" outboxClock outboxBytes).toList.length ≤ 200 :=
    correlationId_short (by decide) _ _
  have hinboxId : (generateCorrelationId "inbox" inboxClock inboxBytes).toList.length ≤ 200 :=
    correlationId_short (by decide) _ _
  constructor
  · intro hstored
    exact (OutboxService.enqueue_makes_iff haccepted houtboxId (iso_short _)).mp hstored.1
  · intro hlength
    have hpayload := hparts.payload_le.trans hlength
    refine ⟨?_, ?_, ?_⟩
    · exact (OutboxService.enqueue_makes_iff haccepted houtboxId (iso_short _)).mpr hlength
    · exact (InboxService.receive_makes_iff haccepted hinboxId (iso_short _) verifyFn).mpr hpayload
    · exact InboxService.receive_makes haccepted transaction_execute_makes
        transaction_query_makes hinboxId (iso_short _) hpayload verifyFn

end Storage

/-! ## Notes of two lengths -/

def noteOfLength (length : Nat) : JsonValue :=
  OutboxService.noteEnvelopeJson "op-1" (.string (String.ofList (List.replicate length 'a')))

theorem utf8Length_replicate (length : Nat) :
    utf8Length (JsonValue.string (String.ofList (List.replicate length 'a'))).serialize =
      length + 2 := by
  have hplain : (List.replicate length 'a').flatMap quoteChar = List.replicate length 'a' := by
    induction length with
    | zero => rfl
    | succ length ih =>
        rw [List.replicate_succ, List.flatMap_cons, ih]
        rfl
  have hbytes : utf8Length (List.replicate length 'a') = length := by
    simp [utf8Length, show 'a'.utf8Size = 1 from by decide]
  have hquote : '"'.utf8Size = 1 := by decide
  simp only [JsonValue.serialize, quoteText, String.toList_ofList, hplain, utf8Length_cons,
    utf8Length_append, utf8Length_nil, hbytes, hquote]
  omega

theorem utf8Length_noteOfLength (length : Nat) :
    utf8Length (noteOfLength length).serialize = length + 602 := by
  rw [noteOfLength, OutboxService.utf8Length_noteEnvelope (by decide), utf8Length_replicate]
  omega

variable {length : Nat}

theorem noteOfLength_accepted (hlength : length ≤ 10000000) :
    SyncEnvelopeBuilder.validateEnvelope (noteOfLength length) =
      .ok (OutboxService.noteEnvelope "op-1"
        (.string (String.ofList (List.replicate length 'a')))) := by
  apply OutboxService.validateEnvelope_note (by decide)
  have hbytes := utf8Length_noteOfLength length
  have hlimit : maxSyncEnvelopeSizeBytes = 10485760 := rfl
  unfold noteOfLength at hbytes
  omega

def epoch : ClockReading where
  millis := 0
  inRange := ClockReading.inRange_epoch

theorem noteOfLength_accepted_toBool (hlength : length ≤ 10000000) :
    (SyncEnvelopeBuilder.validateEnvelope (noteOfLength length)).toBool = true := by
  rw [noteOfLength_accepted hlength]
  rfl

theorem noteOfLength_not_enqueued (hlength : length ≤ 10000000) (hlong : 174760 < length) :
    ¬ (OutboxService.enqueue (transactionExecutor OutboxDatabase)
      (generateCorrelationId "outbox" epoch fun _ => 0) epoch.iso
      (noteOfLength length)).Makes TransactionCall.Fits := by
  rw [OutboxService.enqueue_makes_iff (noteOfLength_accepted hlength)
    (correlationId_short (by decide) _ _) (iso_short _), utf8Length_noteOfLength]
  omega

theorem noteOfLength_not_received (hlength : length ≤ 10000000) (hlong : 174760 < length)
    (verifyFn : VerifyFn) :
    ¬ (InboxService.receive (connectionExecutor InboxTable)
      (generateCorrelationId "inbox" epoch fun _ => 0) epoch.iso (noteOfLength length)
      verifyFn).Makes DbCall.Fits := by
  rw [InboxService.receive_makes_iff (noteOfLength_accepted hlength)
    (correlationId_short (by decide) _ _) (iso_short _), OutboxService.noteEnvelope,
    OutboxService.noteOperation, utf8Length_replicate]
  omega

/-- A note of two hundred thousand letters may be sent, but not stored. -/
theorem longNote_unstorable :
    (SyncEnvelopeBuilder.validateEnvelope (noteOfLength 200000)).toBool = true ∧
      ¬ (OutboxService.enqueue (transactionExecutor OutboxDatabase)
        (generateCorrelationId "outbox" epoch fun _ => 0) epoch.iso
        (noteOfLength 200000)).Makes TransactionCall.Fits ∧
      ¬ (InboxService.receive (connectionExecutor InboxTable)
        (generateCorrelationId "inbox" epoch fun _ => 0) epoch.iso (noteOfLength 200000)
        fun _ _ _ => .ok true).Makes DbCall.Fits :=
  ⟨noteOfLength_accepted_toBool (by omega), noteOfLength_not_enqueued (by omega) (by omega),
    noteOfLength_not_received (by omega) (by omega) _⟩

theorem shortNote_storable :
    (OutboxService.enqueue (transactionExecutor OutboxDatabase)
        (generateCorrelationId "outbox" epoch fun _ => 0) epoch.iso
        (noteOfLength 12)).Makes TransactionCall.Fits ∧
      (InboxService.receive (connectionExecutor InboxTable)
        (generateCorrelationId "inbox" epoch fun _ => 0) epoch.iso (noteOfLength 12)
        fun _ _ _ => .ok true).Makes DbCall.Fits ∧
      (InboxService.receive (transactionExecutor InboxTable)
        (generateCorrelationId "inbox" epoch fun _ => 0) epoch.iso (noteOfLength 12)
        fun _ _ _ => .ok true).Makes TransactionCall.Fits :=
  (envelope_storable_iff (noteOfLength_accepted (by decide)) epoch epoch epoch epoch
    (fun _ => 0) (fun _ => 0) fun _ _ _ => .ok true).mpr
    (by rw [utf8Length_noteOfLength]; decide)

end TauriPlatform
