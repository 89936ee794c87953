import TauriPlatform.ConflictEngine
import TauriPlatform.JsonCanonical
import Mathlib

/-!
# Signatures of resolved envelopes

A resolution returns one of the two envelopes, or the remote one with a merged payload
under the signature which it had.  The signature covers the canonical form of the payload,
so it survives exactly where merging leaves that form as it is.
-/

namespace TauriPlatform

def SyncOperation.withPayload (operation : SyncOperation) (payload : JsonValue) :
    SyncOperation :=
  { operation with payload := payload }

def SyncEnvelope.withPayload (envelope : SyncEnvelope) (payload : JsonValue) : SyncEnvelope :=
  { envelope with operation := envelope.operation.withPayload payload }

namespace SyncEnvelopeBuilder

/-! ## Validation of another payload -/

theorem validateOperation_withPayload {operation validated : SyncOperation}
    (hvalid : validateOperation operation.toJson = .ok validated) (payload : JsonValue) :
    validateOperation (operation.withPayload payload).toJson =
      .ok (validated.withPayload payload) := by
  have hchecks := validateOperation_eq_ok_iff.mp hvalid
  have hget : ∀ field, field ≠ "payload" →
      (operation.withPayload payload).toJson.get? field = operation.toJson.get? field := by
    intro field hfield
    have hbeq : (field == "payload") = false := beq_false_of_ne hfield
    simp only [SyncOperation.toJson, SyncOperation.withPayload, JsonValue.get?, List.lookup, hbeq]
  have hrequire : ∀ field, field ≠ "payload" →
      requireField (operation.withPayload payload).toJson field =
        requireField operation.toJson field := by
    intro field hfield
    rw [requireField, requireField, hget field hfield]
  have htype : requireOperationType (operation.withPayload payload).toJson =
      requireOperationType operation.toJson := by
    rw [requireOperationType, requireOperationType, hget "operation" (by decide)]
  have hversion : ∀ field, field ≠ "payload" →
      requireVersion (operation.withPayload payload).toJson field =
        requireVersion operation.toJson field := by
    intro field hfield
    rw [requireVersion, requireVersion, hget field hfield]
  apply validateOperation_eq_ok_iff.mpr
  refine ⟨rfl, ?_, ?_, ?_, ?_, ?_, ?_, ?_, ?_, ?_, ?_, htype.trans hchecks.operationType,
    (hversion "schemaVersion" (by decide)).trans hchecks.schemaVersion,
    (hversion "protocolVersion" (by decide)).trans hchecks.protocolVersion, rfl, hchecks.parsed⟩
  · exact (hrequire "operationId" (by decide)).trans hchecks.operationId
  · exact (hrequire "applicationId" (by decide)).trans hchecks.applicationId
  · exact (hrequire "organisationId" (by decide)).trans hchecks.organisationId
  · exact (hrequire "syncGroupId" (by decide)).trans hchecks.syncGroupId
  · exact (hrequire "featureId" (by decide)).trans hchecks.featureId
  · exact (hrequire "entityType" (by decide)).trans hchecks.entityType
  · exact (hrequire "entityId" (by decide)).trans hchecks.entityId
  · exact (hrequire "authorId" (by decide)).trans hchecks.authorId
  · exact (hrequire "deviceId" (by decide)).trans hchecks.deviceId
  · exact (hrequire "logicalTimestamp" (by decide)).trans hchecks.logicalTimestamp

variable {envelope : SyncEnvelope}

theorem validateEnvelope_toJson {validated : SyncEnvelope}
    (haccepted : validateEnvelope envelope.toJson = .ok validated) :
    validateOperation envelope.operation.toJson = .ok validated.operation ∧
      validated.signerPublicKey = envelope.signerPublicKey ∧
        validated.signature = envelope.signature := by
  have hchecks := validateEnvelope_eq_ok_iff.mp haccepted
  have hkey := (validatePublicKeyFormat_eq_ok hchecks.signerPublicKey).1
  have hsignature := (validateSignature_eq_ok hchecks.signature).1
  exact ⟨hchecks.operation, (JsonValue.string.inj (Option.some.inj hkey)).symm,
    (JsonValue.string.inj (Option.some.inj hsignature)).symm⟩

theorem validateEnvelope_withPayload {validated : SyncEnvelope}
    (haccepted : validateEnvelope envelope.toJson = .ok validated) (payload : JsonValue)
    (hlength : utf8Length (envelope.withPayload payload).toJson.serialize =
      utf8Length envelope.toJson.serialize) :
    validateEnvelope (envelope.withPayload payload).toJson =
      .ok (validated.withPayload payload) := by
  have hchecks := validateEnvelope_eq_ok_iff.mp haccepted
  exact validateEnvelope_eq_ok_iff.mpr ⟨rfl, validateOperation_withPayload hchecks.operation payload,
    hchecks.envelopeId, hchecks.sameId, hchecks.signedAt, hchecks.signerPublicKey,
    hchecks.signature, hlength.trans_le hchecks.size⟩

/-! ## Verification of another payload -/

def exactVerify (signed : String → String → Option ByteArray) : VerifyFn :=
  fun signerPublicKey canonicalBytes signature =>
    .ok (signed signerPublicKey signature = some canonicalBytes)

theorem verify_exact_iff {signed : String → String → Option ByteArray} :
    verify envelope.toJson (exactVerify signed) = .ok true ↔
      (∃ validated, validateEnvelope envelope.toJson = .ok validated) ∧
        signed envelope.signerPublicKey envelope.signature =
          some (sortedKeys envelope.operation.toJson).stringify.toUTF8 := by
  cases haccepted : validateEnvelope envelope.toJson with
  | error message => simp [verify, haccepted]
  | ok validated =>
      obtain ⟨-, hkey, hsignature⟩ := validateEnvelope_toJson haccepted
      have hoperation : (envelope.toJson.get? "operation").getD .null =
          envelope.operation.toJson := rfl
      rw [verify_of_accepted haccepted, exactVerify, hkey, hsignature, hoperation]
      simp

theorem sortedKeys_withPayload_iff (operation : SyncOperation) (payload : JsonValue) :
    sortedKeys (operation.withPayload payload).toJson = sortedKeys operation.toJson ↔
      sortedKeys payload = sortedKeys operation.payload := by
  have hnodup : ∀ operation : SyncOperation, ∃ entries,
      operation.toJson = .object entries ∧ (entries.map Prod.fst).Nodup ∧
        entries.lookup "payload" = some operation.payload := by
    intro operation
    refine ⟨_, rfl, ?_, rfl⟩
    simp only [List.map_cons, List.map_nil]
    decide
  obtain ⟨entries, hentries, hkeys, hpayload⟩ := hnodup operation
  obtain ⟨entries', hentries', hkeys', hpayload'⟩ := hnodup (operation.withPayload payload)
  rw [hentries, hentries', sortedKeys_object_eq_iff hkeys' hkeys]
  constructor
  · intro hsame
    have hlookup := hsame "payload"
    rw [hpayload, hpayload'] at hlookup
    exact Option.some.inj hlookup
  · intro hsame key
    by_cases hkey : key = "payload"
    · rw [hkey, hpayload, hpayload']
      exact congrArg some hsame
    · have hbeq : (key == "payload") = false := beq_false_of_ne hkey
      cases hentries
      cases hentries'
      simp only [SyncOperation.withPayload, List.lookup, hbeq]

theorem verify_withPayload_iff {signed : String → String → Option ByteArray}
    (hverified : verify envelope.toJson (exactVerify signed) = .ok true) {payload : JsonValue}
    (hpayload : utf8Length (sortedKeys payload).serialize = utf8Length payload.serialize)
    (henumerated : envelope.operation.payload.IsEnumerated) :
    verify (envelope.withPayload payload).toJson (exactVerify signed) = .ok true ↔
      sortedKeys payload = sortedKeys envelope.operation.payload := by
  obtain ⟨⟨validated, haccepted⟩, hsigned⟩ := verify_exact_iff.mp hverified
  rw [verify_exact_iff, ← sortedKeys_withPayload_iff]
  constructor
  · rintro ⟨-, hother⟩
    have hbytes := hother.symm.trans hsigned
    exact sortedKeys_eq_of_toUTF8_eq (Option.some.inj hbytes)
  · intro hsame
    have hlength : utf8Length payload.serialize =
        utf8Length envelope.operation.payload.serialize := by
      rw [← hpayload, ← utf8Length_sortedKeys _ henumerated,
        (sortedKeys_withPayload_iff _ _).mp hsame]
    constructor
    · refine ⟨_, validateEnvelope_withPayload haccepted payload ?_⟩
      simp only [SyncEnvelope.withPayload, SyncEnvelope.toJson, SyncOperation.withPayload,
        SyncOperation.toJson, JsonValue.serialize, serializeEntries, utf8Length_append,
        utf8Length_cons, hlength]
    · change signed envelope.signerPublicKey envelope.signature =
        some (sortedKeys (envelope.operation.withPayload payload).toJson).stringify.toUTF8
      rw [hsame]
      exact hsigned

end SyncEnvelopeBuilder

namespace ConflictEngine

open SyncEnvelopeBuilder

/-! ## Merged payloads -/

/-- Merging gives the remote payload again, but for the order of its properties: the number
which is stored is the remote one, and no property of the local payload is new. -/
def KeepsRemote (field : Option String) : JsonValue → JsonValue → Prop
  | .number left, .number right => left.add right = right
  | left, right =>
      ∀ name, givenField field = some name → left.isObjectLike = true →
        right.isObjectLike = true →
          ∃ entries, right = .object entries ∧
            (∀ entry ∈ left.ownEntries, entry.1 ∈ entries.map Prod.fst) ∧
              ∃ number, entries.lookup name = some (.number number) ∧
                (numericField left name).add number = number

def storedNumber (addend : JsonNumber) (entries : List (String × JsonValue)) (name : String) :
    JsonNumber :=
  addend.add (((entries.lookup name).bind JsonValue.number?).getD (.integer 0))

theorem storedNumber_of_lookup {entries : List (String × JsonValue)} {name : String}
    {number : JsonNumber} (hnumber : entries.lookup name = some (.number number))
    (addend : JsonNumber) : storedNumber addend entries name = addend.add number := by
  rw [storedNumber, hnumber]
  rfl

theorem eq_number_of_sortedKeys {value : JsonValue} {number : JsonNumber}
    (hsorted : sortedKeys value = .number number) : value = .number number := by
  cases value with
  | number other => exact hsorted
  | _ => simp [sortedKeys] at hsorted

theorem sortedKeys_merged_iff {own entries : List (String × JsonValue)}
    (hown : (own.map Prod.fst).Nodup) (hentries : (entries.map Prod.fst).Nodup) (name : String)
    (addend : JsonNumber) :
    sortedKeys (.object (defineProperty (spread own entries) name
        (.number (storedNumber addend entries name)))) = sortedKeys (.object entries) ↔
      (∀ entry ∈ own, entry.1 ∈ entries.map Prod.fst) ∧
        ∃ number, entries.lookup name = some (.number number) ∧ addend.add number = number := by
  have hlookup : ∀ key, (defineProperty (spread own entries) name
      (.number (storedNumber addend entries name))).lookup key =
        if key = name then some (.number (storedNumber addend entries name))
        else (entries.lookup key).or (own.lookup key) := by
    intro key
    rw [lookup_defineProperty, lookup_spread hentries]
  rw [sortedKeys_object_eq_iff (nodup_defineProperty (nodup_spread hown entries) name _) hentries]
  simp only [hlookup]
  constructor
  · intro hsame
    constructor
    · intro entry hentry
      by_contra hnew
      have hnone : entries.lookup entry.1 = none := by
        rw [List.lookup_eq_none_iff]
        intro other hother
        rw [bne_iff_ne]
        intro heq
        rw [heq] at hnew
        exact hnew (List.mem_map_of_mem hother)
      have hkey := hsame entry.1
      rw [hnone] at hkey
      split_ifs at hkey with hname
      · cases hkey
      · rw [(lookup_eq_some_iff_mem hown).mpr hentry] at hkey
        cases hkey
    · have hname := hsame name
      rw [if_pos rfl] at hname
      cases hvalue : entries.lookup name with
      | none =>
          rw [hvalue] at hname
          cases hname
      | some value =>
          rw [hvalue, Option.map_some, Option.map_some, Option.some.injEq] at hname
          have hnumber := eq_number_of_sortedKeys hname.symm
          subst hnumber
          refine ⟨_, rfl, ?_⟩
          rw [← storedNumber_of_lookup hvalue]
  · rintro ⟨hkeys, number, hnumber, hsum⟩ key
    split_ifs with hname
    · rw [hname, hnumber, storedNumber_of_lookup hnumber, hsum]
    · cases hvalue : entries.lookup key with
      | some value => rfl
      | none =>
          have hnone : own.lookup key = none := by
            rw [List.lookup_eq_none_iff]
            intro entry hentry
            rw [bne_iff_ne]
            rintro rfl
            obtain ⟨other, hother, hsame⟩ := List.mem_map.mp (hkeys entry hentry)
            have habsent := List.lookup_eq_none_iff.mp hvalue other hother
            rw [hsame, bne_self_eq_false] at habsent
            cases habsent
          rw [hnone]
          rfl

theorem sortedKeys_mergePayload_iff {left right : JsonValue} (hleft : left.IsEnumerated)
    (hright : right.IsEnumerated) (field : Option String) :
    sortedKeys (mergePayload left right field) = sortedKeys right ↔
      KeepsRemote field left right := by
  unfold mergePayload KeepsRemote
  split
  · simp [sortedKeys]
  · cases hfield : givenField field with
    | none => simp
    | some name =>
        simp only [Option.some.injEq, forall_eq']
        split_ifs with hobjects
        · obtain ⟨hleftObject, hrightObject⟩ := hobjects
          simp only [hleftObject, hrightObject, forall_const]
          cases right with
          | object entries =>
              have hiff := sortedKeys_merged_iff (nodup_ownEntries hleft)
                (nodup_ownEntries hright) name (numericField left name)
              simp only [JsonValue.object.injEq, exists_eq_left']
              exact hiff
          | array items => simp [sortedKeys]
          | _ => cases hrightObject
        · rw [not_and] at hobjects
          simp only [true_iff]
          intro hleftObject hrightObject
          exact absurd hrightObject (hobjects hleftObject)

theorem utf8Length_mergePayload {left right : JsonValue} (hleft : left.IsEnumerated)
    (hright : right.IsEnumerated) (field : Option String) :
    utf8Length (sortedKeys (mergePayload left right field)).serialize =
      utf8Length (mergePayload left right field).serialize := by
  unfold mergePayload
  split
  · rfl
  · cases givenField field with
    | none => exact utf8Length_sortedKeys _ hright
    | some name =>
        dsimp only
        split_ifs
        · apply utf8Length_sortedKeys_object
          · exact nodup_defineProperty (nodup_spread (nodup_ownEntries hleft) _) _ _
          · intro entry hentry
            rcases mem_of_mem_defineProperty hentry with rfl | hspread
            · exact .number _
            · rcases mem_of_mem_spread hspread with hmem | hmem
              · exact isEnumerated_ownEntries hleft entry hmem
              · exact isEnumerated_ownEntries hright entry hmem
        · exact utf8Length_sortedKeys _ hright

/-! ## Resolutions -/

section Resolve

variable {collation : Collation} {registry : Option ConflictRegistry} {policy : ConflictPolicy}
  {localEnvelope remoteEnvelope : SyncEnvelope} {field : Option String}

theorem resolve_additive (hstrategy : policy.strategy = .additive) :
    resolve collation registry policy localEnvelope remoteEnvelope field =
      (requireAdditive registry localEnvelope.operation.entityType field).map fun _ => {
        winner := .merge
        resolvedEnvelope := some (remoteEnvelope.withPayload (mergePayload
          localEnvelope.operation.payload remoteEnvelope.operation.payload field))
        reason := "Additive delta merged successfully" } := by
  unfold resolve
  rw [hstrategy, if_pos rfl]
  cases requireAdditive registry localEnvelope.operation.entityType field with
  | ok value => rfl
  | error error => rfl

theorem resolved_of_not_additive (hstrategy : policy.strategy ≠ .additive)
    {result : ConflictResolutionResult} {resolved : SyncEnvelope}
    (hok : resolve collation registry policy localEnvelope remoteEnvelope field = .ok result)
    (hresolved : result.resolvedEnvelope = some resolved) :
    resolved = localEnvelope ∨ resolved = remoteEnvelope := by
  unfold resolve at hok
  rw [if_neg hstrategy] at hok
  have hcompare : ∀ {next : Int → Except Thrown ConflictResolutionResult},
      (compareEnvelopes collation localEnvelope remoteEnvelope >>= next) = .ok result →
        ∃ cmp, next cmp = .ok result := by
    intro next hnext
    cases hcmp : compareEnvelopes collation localEnvelope remoteEnvelope with
    | error error =>
        rw [hcmp] at hnext
        cases hnext
    | ok cmp =>
        rw [hcmp] at hnext
        exact ⟨cmp, hnext⟩
  cases hpolicy : policy.strategy with
  | lww =>
      rw [hpolicy] at hok
      obtain ⟨cmp, hdecided⟩ := hcompare hok
      dsimp only at hdecided
      split_ifs at hdecided
      · cases hdecided
        exact .inl (Option.some.inj hresolved).symm
      · cases hdecided
        exact .inr (Option.some.inj hresolved).symm
  | crdt =>
      rw [hpolicy] at hok
      obtain ⟨cmp, hdecided⟩ := hcompare hok
      cases hdecided
      by_cases hcmp : cmp ≥ 0
      · simp only [hcmp, if_true, Option.some.injEq] at hresolved
        exact .inl hresolved.symm
      · simp only [hcmp, if_false, Option.some.injEq] at hresolved
        exact .inr hresolved.symm
  | appendOnly =>
      rw [hpolicy] at hok
      cases hok
      exact .inr (Option.some.inj hresolved).symm
  | immutable =>
      rw [hpolicy] at hok
      cases hok
      exact .inl (Option.some.inj hresolved).symm
  | manual =>
      rw [hpolicy] at hok
      cases hok
      cases hresolved
  | additive => exact absurd hpolicy hstrategy

end Resolve

def counterDelta (envelopeId : String) (digit : Char) (delta : Int) : SyncEnvelope where
  envelopeId := envelopeId
  signedAt := "2026-01-01T00:00:00.000Z"
  signerPublicKey := "ed25519_pk_" ++ String.ofList (List.replicate 64 'a')
  signature := String.ofList (List.replicate 128 digit)
  operation := {
    operationId := envelopeId
    applicationId := "app"
    organisationId := "org"
    syncGroupId := "group"
    featureId := "counters"
    entityType := "counter"
    entityId := "counter-1"
    operation := .update
    payload := .number (.integer delta)
    authorId := "user"
    deviceId := "device-1"
    logicalTimestamp := "1_0_device-1"
    schemaVersion := 1
    protocolVersion := 1 }

def signedDeltas (first second : SyncEnvelope) (_ signature : String) : Option ByteArray :=
  if signature = first.signature then
    some (sortedKeys first.operation.toJson).stringify.toUTF8
  else if signature = second.signature then
    some (sortedKeys second.operation.toJson).stringify.toUTF8
  else none

theorem counterDelta_accepted :
    (validateEnvelope (counterDelta "op-1" 'b' 0).toJson).toBool = true ∧
      (validateEnvelope (counterDelta "op-2" 'c' 0).toJson).toBool = true := by
  decide +kernel

theorem verify_counterDelta {first second : SyncEnvelope} {envelopeId : String} {digit : Char}
    (haccepted : (validateEnvelope (counterDelta envelopeId digit 0).toJson).toBool = true)
    {delta : Int} (hdelta : delta ∈ [0, 1, 2])
    (hsigned : signedDeltas first second (counterDelta envelopeId digit delta).signerPublicKey
        (counterDelta envelopeId digit delta).signature =
      some (sortedKeys (counterDelta envelopeId digit delta).operation.toJson).stringify.toUTF8) :
    verify (counterDelta envelopeId digit delta).toJson
      (exactVerify (signedDeltas first second)) = .ok true := by
  refine verify_exact_iff.mpr ⟨?_, hsigned⟩
  cases hvalid : validateEnvelope (counterDelta envelopeId digit 0).toJson with
  | error message =>
      rw [hvalid] at haccepted
      cases haccepted
  | ok validated =>
      have hdigit : utf8Length (JsonValue.number (.integer delta)).serialize =
          utf8Length (JsonValue.number (.integer 0)).serialize := by
        fin_cases hdelta <;> rfl
      refine ⟨_, validateEnvelope_withPayload hvalid (.number (.integer delta)) ?_⟩
      simp only [SyncEnvelope.withPayload, SyncEnvelope.toJson, SyncOperation.withPayload,
        SyncOperation.toJson, JsonValue.serialize, serializeEntries, utf8Length_append,
        utf8Length_cons, counterDelta] at hdigit ⊢
      rw [hdigit]

def additivePolicy : ConflictPolicy :=
  { strategy := .additive }

theorem signatures_differ (first second : Int) :
    (counterDelta "op-2" 'c' second).signature ≠ (counterDelta "op-1" 'b' first).signature := by
  change String.ofList (List.replicate 128 'c') ≠ String.ofList (List.replicate 128 'b')
  intro hsame
  have hhead := congrArg List.head? (String.ofList_injective hsame)
  exact absurd hhead (by decide)

def deltaSignatures (first second : Int) : String → String → Option ByteArray :=
  signedDeltas (counterDelta "op-1" 'b' first) (counterDelta "op-2" 'c' second)

theorem verify_deltas {first second : Int} (hfirst : first ∈ [0, 1, 2])
    (hsecond : second ∈ [0, 1, 2]) :
    verify (counterDelta "op-1" 'b' first).toJson
        (exactVerify (deltaSignatures first second)) = .ok true ∧
      verify (counterDelta "op-2" 'c' second).toJson
        (exactVerify (deltaSignatures first second)) = .ok true := by
  constructor
  · apply verify_counterDelta counterDelta_accepted.1 hfirst
    rw [signedDeltas, if_pos rfl]
  · apply verify_counterDelta counterDelta_accepted.2 hsecond
    rw [signedDeltas, if_neg (signatures_differ first second), if_pos rfl]

end ConflictEngine
end TauriPlatform
