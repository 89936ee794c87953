import TauriPlatform.ConflictRegistry

/-!
# Conflict resolution

`ConflictEngine.resolve` picks one of two envelopes of an entity, or merges
them.  Two replicas which meet the envelopes in opposite orders call it with the
arguments exchanged; for the timestamp strategies they keep the same envelope
exactly when the timestamps do not tie.
-/

namespace TauriPlatform

inductive ResolutionWinner where
  | localSide
  | remoteSide
  | merge
  | manualRequired
  deriving DecidableEq, Repr

structure ConflictResolutionResult where
  winner : ResolutionWinner
  resolvedEnvelope : Option SyncEnvelope
  reason : String

namespace ConflictEngine

/-- `HybridLogicalClock.compare` on the timestamps of two envelopes. -/
def compareEnvelopes (collation : Collation) (left right : SyncEnvelope) :
    Except Thrown Int :=
  (HybridLogicalClock.compare collation left.operation.logicalTimestamp
    right.operation.logicalTimestamp).mapError (Thrown.builtin "RangeError")

def numericField (payload : JsonValue) (field : String) : JsonNumber :=
  ((payload.property? field).bind JsonValue.number?).getD (.integer 0)

def mergePayload (localPayload remotePayload : JsonValue)
    (field : Option String) : JsonValue :=
  match localPayload, remotePayload with
  | .number left, .number right => .number (left.add right)
  | left, right =>
      match givenField field with
      | some name =>
          if left.isObjectLike ∧ right.isObjectLike then
            .object (defineProperty (spread left.ownEntries right.ownEntries) name
              (.number ((numericField left name).add (numericField right name))))
          else right
      | none => right

def requireAdditive (registry : Option ConflictRegistry) (entityType : String)
    (field : Option String) : Except Thrown Unit :=
  match registry with
  | none => .ok ()
  | some registry =>
      match givenField field with
      | some name =>
          if registry.isAbsoluteLwwField entityType name then
            .error (conflictError
              (s!"Attempted 'additive' conflict resolution on absolute value field '{entityType}.{name}'. " ++
                "This field is declared as absolute and must use 'lww' (CS-010).")
              "Cannot apply additive conflict resolution to an absolute value field."
              "conflict" s!"entityType={entityType}, field={name}")
          else validateAdditive registry
      | none => validateAdditive registry
where
  validateAdditive (registry : ConflictRegistry) : Except Thrown Unit :=
    (registry.validate entityType field).mapError fun message =>
      conflictError s!"Additive conflict resolution forbidden: {message}"
        "Cannot apply additive conflict resolution to an absolute value field."
        "conflict" (s!"entityType={entityType}, field=" ++ field.getD "none")

def resolve (collation : Collation) (registry : Option ConflictRegistry)
    (policy : ConflictPolicy) (localEnvelope remoteEnvelope : SyncEnvelope)
    (field : Option String) : Except Thrown ConflictResolutionResult := do
  if policy.strategy = .additive then
    requireAdditive registry localEnvelope.operation.entityType field
  match policy.strategy with
  | .lww =>
      let cmp ← compareEnvelopes collation localEnvelope remoteEnvelope
      let localHlc := localEnvelope.operation.logicalTimestamp
      let remoteHlc := remoteEnvelope.operation.logicalTimestamp
      if cmp ≥ 0 then
        return {
          winner := .localSide
          resolvedEnvelope := some localEnvelope
          reason := s!"Local HLC ({localHlc}) is newer or equal to remote HLC ({remoteHlc})" }
      else
        return {
          winner := .remoteSide
          resolvedEnvelope := some remoteEnvelope
          reason := s!"Remote HLC ({remoteHlc}) is newer than local HLC ({localHlc})" }
  | .appendOnly =>
      return {
        winner := .remoteSide
        resolvedEnvelope := some remoteEnvelope
        reason := "Append-only strategy accepts remote entry into replication log" }
  | .immutable =>
      return {
        winner := .localSide
        resolvedEnvelope := some localEnvelope
        reason := "Immutable strategy rejects remote updates to existing entity" }
  | .manual =>
      return {
        winner := .manualRequired
        resolvedEnvelope := none
        reason := "Manual conflict resolution required for this entity/field" }
  | .additive =>
      let payload := mergePayload localEnvelope.operation.payload
        remoteEnvelope.operation.payload field
      return {
        winner := .merge
        resolvedEnvelope := some { remoteEnvelope with
          operation := { remoteEnvelope.operation with payload := payload } }
        reason := "Additive delta merged successfully" }
  | .crdt =>
      let cmp ← compareEnvelopes collation localEnvelope remoteEnvelope
      return {
        winner := if cmp ≥ 0 then .localSide else .remoteSide
        resolvedEnvelope := some (if cmp ≥ 0 then localEnvelope else remoteEnvelope)
        reason := "CRDT fallback using HLC LWW ordering" }

/-! ## Convergence of the timestamp strategies -/

def IsTimestampStrategy (strategy : ConflictStrategy) : Prop :=
  strategy = .lww ∨ strategy = .crdt

def keptEnvelope (result : Except Thrown ConflictResolutionResult) :
    Option SyncEnvelope :=
  match result with
  | .ok result => result.resolvedEnvelope
  | .error _ => none

/-- On parsed timestamps a timestamp strategy keeps the local envelope unless
the remote timestamp is the greater one. -/
theorem keptEnvelope_resolve (collation : Collation)
    (registry : Option ConflictRegistry) {policy : ConflictPolicy}
    (hpolicy : IsTimestampStrategy policy.strategy)
    {localEnvelope remoteEnvelope : SyncEnvelope} (field : Option String)
    {localTime remoteTime : HlcTimestamp}
    (hlocal : HybridLogicalClock.parse localEnvelope.operation.logicalTimestamp =
      .ok localTime)
    (hremote : HybridLogicalClock.parse remoteEnvelope.operation.logicalTimestamp =
      .ok remoteTime) :
    keptEnvelope
        (resolve collation registry policy localEnvelope remoteEnvelope field) =
      some (if 0 ≤ HybridLogicalClock.compareParsed collation localTime remoteTime
        then localEnvelope else remoteEnvelope) := by
  have hcompare : compareEnvelopes collation localEnvelope remoteEnvelope =
      .ok (HybridLogicalClock.compareParsed collation localTime remoteTime) := by
    unfold compareEnvelopes HybridLogicalClock.compare
    rw [hlocal, hremote]
    rfl
  unfold resolve
  rcases hpolicy with hlww | hcrdt
  · rw [hlww]
    simp only [reduceCtorEq, if_false, hcompare]
    by_cases hcmp :
        0 ≤ HybridLogicalClock.compareParsed collation localTime remoteTime
    · simp [keptEnvelope, hcmp, bind, Except.bind, pure, Except.pure]
    · simp [keptEnvelope, hcmp, bind, Except.bind, pure, Except.pure]
  · rw [hcrdt]
    simp only [reduceCtorEq, if_false, hcompare]
    simp [keptEnvelope, bind, Except.bind, pure, Except.pure]

/-- Replicas which met two envelopes in opposite orders keep the same envelope
exactly when the timestamps do not tie. -/
theorem resolve_converges_iff (collation : Collation)
    (registry : Option ConflictRegistry) (policy : ConflictPolicy)
    (hpolicy : IsTimestampStrategy policy.strategy)
    (a b : SyncEnvelope) (field : Option String)
    (hdistinct : a.envelopeId ≠ b.envelopeId)
    (timeA timeB : HlcTimestamp)
    (hparseA : HybridLogicalClock.parse a.operation.logicalTimestamp = .ok timeA)
    (hparseB : HybridLogicalClock.parse b.operation.logicalTimestamp = .ok timeB) :
    (∃ kept, keptEnvelope (resolve collation registry policy a b field) = some kept ∧
        keptEnvelope (resolve collation registry policy b a field) = some kept) ↔
      ¬ HybridLogicalClock.Tie collation timeA timeB := by
  have hne : a ≠ b := fun h => hdistinct (congrArg SyncEnvelope.envelopeId h)
  have hswap := HybridLogicalClock.compareParsed_swap collation timeA timeB
  have hswap' := HybridLogicalClock.compareParsed_swap collation timeB timeA
  rw [keptEnvelope_resolve collation registry hpolicy field hparseA hparseB,
    keptEnvelope_resolve collation registry hpolicy field hparseB hparseA,
    ← HybridLogicalClock.compareParsed_eq_zero_iff]
  simp only [Option.some.injEq, exists_eq_left']
  rcases lt_trichotomy
      (HybridLogicalClock.compareParsed collation timeA timeB) 0 with
    hless | hzero | hgreater
  · have hback := hswap'.mpr hless
    simp [hless.not_ge, hback.le, hless.ne]
  · have hback : HybridLogicalClock.compareParsed collation timeB timeA = 0 := by
      omega
    simp [hzero, hback, hne.symm]
  · have hback := hswap.mp hgreater
    simp [hback.not_ge, hgreater.le, hgreater.ne']

def noteUpdate (envelopeId logicalTimestamp text : String) : SyncEnvelope where
  envelopeId := envelopeId
  signedAt := "2026-01-01T00:00:00.000Z"
  signerPublicKey := "ed25519_pk_" ++ String.ofList (List.replicate 64 'a')
  signature := String.ofList (List.replicate 128 'b')
  operation := {
    operationId := envelopeId
    applicationId := "app"
    organisationId := "org"
    syncGroupId := "group"
    featureId := "notes"
    entityType := "note"
    entityId := "note-1"
    operation := .update
    payload := .string text
    authorId := "user"
    deviceId := "device-1"
    logicalTimestamp := logicalTimestamp
    schemaVersion := 1
    protocolVersion := 1 }

theorem resolve_converges_on_later_update :
    ∃ kept, keptEnvelope (resolve .codePoint none { strategy := .lww }
        (noteUpdate "op-1" "01_0000_device-1" "first")
        (noteUpdate "op-2" "02_0000_device-1" "second") none) = some kept ∧
      keptEnvelope (resolve .codePoint none { strategy := .lww }
        (noteUpdate "op-2" "02_0000_device-1" "second")
        (noteUpdate "op-1" "01_0000_device-1" "first") none) = some kept :=
  (resolve_converges_iff .codePoint none { strategy := .lww } (.inl rfl)
    (noteUpdate "op-1" "01_0000_device-1" "first")
    (noteUpdate "op-2" "02_0000_device-1" "second") none (by decide)
    { physicalTime := 1, counter := 0, nodeId := "device-1" }
    { physicalTime := 2, counter := 0, nodeId := "device-1" }
    (by decide) (by decide)).mpr (by simp [HybridLogicalClock.Tie])

/-- One timestamp, spelled in two ways, on two updates of a note: each replica
keeps the update it calls local. -/
theorem resolve_diverges_on_tie :
    let a := noteUpdate "op-1" "01_0000_device-1" "first"
    let b := noteUpdate "op-2" "1_0_device-1" "second"
    a.operation.entityType = b.operation.entityType ∧
      a.operation.entityId = b.operation.entityId ∧
      a.envelopeId ≠ b.envelopeId ∧
      HybridLogicalClock.parse a.operation.logicalTimestamp =
        .ok { physicalTime := 1, counter := 0, nodeId := "device-1" } ∧
      HybridLogicalClock.parse b.operation.logicalTimestamp =
        .ok { physicalTime := 1, counter := 0, nodeId := "device-1" } ∧
      keptEnvelope (resolve .codePoint none { strategy := .lww } a b none) = some a ∧
      keptEnvelope (resolve .codePoint none { strategy := .lww } b a none) = some b := by
  refine ⟨rfl, rfl, by decide, by decide, by decide, rfl, rfl⟩

end ConflictEngine
end TauriPlatform
