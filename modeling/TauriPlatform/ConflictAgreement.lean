import TauriPlatform.ConflictEngine

/-!
# The two conflict resolvers

`ConflictRegistry.resolve` decides between two values and `ConflictEngine.resolve`
between two envelopes.  Both read the policy which the registry keeps.
-/

namespace TauriPlatform
namespace ConflictAgreement

/-- The registry's `custom` is the engine's `merge`. -/
def asResolutionWinner : RegistryWinner → ResolutionWinner
  | .localSide => .localSide
  | .remoteSide => .remoteSide
  | .custom => .merge
  | .manualRequired => .manualRequired

/-- The input of the registry for a conflict between two envelopes of one entity. -/
def conflictInput (localEnvelope remoteEnvelope : SyncEnvelope) (field : Option String)
    (localValue remoteValue : JsonValue) : ResolveConflictInput where
  entityId := localEnvelope.operation.entityId
  entityType := localEnvelope.operation.entityType
  field := field
  localValue := localValue
  remoteValue := remoteValue
  localTimestamp := localEnvelope.operation.logicalTimestamp
  remoteTimestamp := remoteEnvelope.operation.logicalTimestamp

def engineWinner (result : Except Thrown ConflictResolutionResult) : Option ResolutionWinner :=
  match result with
  | .ok result => some result.winner
  | .error _ => none

def registryWinner (result : Except Thrown RegistryResolution) : Option ResolutionWinner :=
  match result with
  | .ok result => some (asResolutionWinner result.winner)
  | .error _ => none

def Agree (collation : Collation) (registry : ConflictRegistry)
    (localEnvelope remoteEnvelope : SyncEnvelope) (field : Option String)
    (localValue remoteValue : JsonValue) (now : ClockReading) : Prop :=
  engineWinner (ConflictEngine.resolve collation (some registry)
      (registry.getPolicy localEnvelope.operation.entityType field)
      localEnvelope remoteEnvelope field) =
    registryWinner (registry.resolve collation
      (conflictInput localEnvelope remoteEnvelope field localValue remoteValue) now)

/-! ## The condition -/

def TimestampsParse (localEnvelope remoteEnvelope : SyncEnvelope) : Prop :=
  ∃ localTime remoteTime,
    HybridLogicalClock.parse localEnvelope.operation.logicalTimestamp = .ok localTime ∧
    HybridLogicalClock.parse remoteEnvelope.operation.logicalTimestamp = .ok remoteTime

def IsAbsoluteField (registry : ConflictRegistry) (entityType : String)
    (field : Option String) : Prop :=
  ∃ name, givenField field = some name ∧ registry.isAbsoluteLwwField entityType name

def AgreementCondition (registry : ConflictRegistry) (localEnvelope remoteEnvelope : SyncEnvelope)
    (field : Option String) : Prop :=
  let entityType := localEnvelope.operation.entityType
  let policy := registry.getPolicy entityType field
  match policy.strategy with
  | .lww => True
  | .appendOnly => False
  | .immutable => TimestampsParse localEnvelope remoteEnvelope
  | .manual => TimestampsParse localEnvelope remoteEnvelope
  | .additive =>
      IsAbsoluteField registry entityType field ∨ TimestampsParse localEnvelope remoteEnvelope
  | .crdt =>
      registry.customResolver? policy = none ∨ ¬ TimestampsParse localEnvelope remoteEnvelope

/-! ## Both resolvers, by the comparison -/

theorem timestampsParse_iff {collation : Collation} {localEnvelope remoteEnvelope : SyncEnvelope} :
    TimestampsParse localEnvelope remoteEnvelope ↔
      ∃ cmp, ConflictEngine.compareEnvelopes collation localEnvelope remoteEnvelope = .ok cmp := by
  unfold ConflictEngine.compareEnvelopes HybridLogicalClock.compare TimestampsParse
  cases HybridLogicalClock.parse localEnvelope.operation.logicalTimestamp with
  | error message => simp [bind, Except.bind, Except.mapError]
  | ok localTime =>
      cases HybridLogicalClock.parse remoteEnvelope.operation.logicalTimestamp with
      | error message => simp [bind, Except.bind, Except.mapError]
      | ok remoteTime => simp [bind, Except.bind, Except.mapError, pure, Except.pure]

theorem registryWinner_of_error {collation : Collation} {registry : ConflictRegistry}
    {localEnvelope remoteEnvelope : SyncEnvelope} {field : Option String}
    {localValue remoteValue : JsonValue} {now : ClockReading} {thrown : Thrown}
    (hcompare : ConflictEngine.compareEnvelopes collation localEnvelope remoteEnvelope =
      .error thrown) :
    registryWinner (registry.resolve collation
      (conflictInput localEnvelope remoteEnvelope field localValue remoteValue) now) = none := by
  unfold ConflictEngine.compareEnvelopes at hcompare
  unfold ConflictRegistry.resolve conflictInput
  rw [hcompare]
  rfl

theorem registryWinner_of_ok {collation : Collation} {registry : ConflictRegistry}
    {localEnvelope remoteEnvelope : SyncEnvelope} {field : Option String}
    {localValue remoteValue : JsonValue} {now : ClockReading} {cmp : Int}
    (hcompare : ConflictEngine.compareEnvelopes collation localEnvelope remoteEnvelope =
      .ok cmp) :
    registryWinner (registry.resolve collation
        (conflictInput localEnvelope remoteEnvelope field localValue remoteValue) now) =
      match registry.outcome (registry.getPolicy localEnvelope.operation.entityType field)
        (conflictInput localEnvelope remoteEnvelope field localValue remoteValue) cmp with
      | .ok (winner, _) => some (asResolutionWinner winner)
      | .error _ => none := by
  unfold ConflictEngine.compareEnvelopes at hcompare
  unfold ConflictRegistry.resolve
  have hinput : HybridLogicalClock.compare collation
      (conflictInput localEnvelope remoteEnvelope field localValue remoteValue).localTimestamp
      (conflictInput localEnvelope remoteEnvelope field localValue remoteValue).remoteTimestamp =
      HybridLogicalClock.compare collation localEnvelope.operation.logicalTimestamp
        remoteEnvelope.operation.logicalTimestamp := rfl
  rw [hinput, hcompare]
  simp only [bind, Except.bind]
  have hpolicy : registry.getPolicy
      (conflictInput localEnvelope remoteEnvelope field localValue remoteValue).entityType
      (conflictInput localEnvelope remoteEnvelope field localValue remoteValue).field =
      registry.getPolicy localEnvelope.operation.entityType field := rfl
  rw [hpolicy]
  cases registry.outcome (registry.getPolicy localEnvelope.operation.entityType field)
    (conflictInput localEnvelope remoteEnvelope field localValue remoteValue) cmp with
  | error thrown => rfl
  | ok outcome => rfl

theorem requireAdditive_iff {registry : ConflictRegistry} {entityType : String}
    {field : Option String} :
    (∃ thrown, ConflictEngine.requireAdditive (some registry) entityType field =
        .error thrown) ↔ IsAbsoluteField registry entityType field := by
  unfold ConflictEngine.requireAdditive IsAbsoluteField
  cases hfield : givenField field with
  | none =>
      simp [ConflictEngine.requireAdditive.validateAdditive, ConflictRegistry.validate, hfield,
        Except.mapError]
  | some name =>
      by_cases habsolute : registry.isAbsoluteLwwField entityType name
      · simp [habsolute]
      · have hkey : ConflictRegistry.fieldKey entityType name ∉ registry.absoluteLwwFields := by
          simpa [ConflictRegistry.isAbsoluteLwwField] using habsolute
        simp [habsolute, ConflictEngine.requireAdditive.validateAdditive,
          ConflictRegistry.validate, hfield, hkey, Except.mapError]

theorem requireDelta_iff {registry : ConflictRegistry} {entityType : String}
    {field : Option String} :
    (∃ thrown, registry.requireDelta entityType field = .error thrown) ↔
      IsAbsoluteField registry entityType field := by
  unfold ConflictRegistry.requireDelta IsAbsoluteField ConflictRegistry.isAbsoluteLwwField
  cases givenField field with
  | none => simp
  | some name =>
      by_cases habsolute :
          ConflictRegistry.fieldKey entityType name ∈ registry.absoluteLwwFields
      · simp [habsolute]
      · simp [habsolute]

theorem engineWinner_of_additive {collation : Collation} {registry : ConflictRegistry}
    {policy : ConflictPolicy} {localEnvelope remoteEnvelope : SyncEnvelope}
    {field : Option String} (hstrategy : policy.strategy = .additive) :
    engineWinner (ConflictEngine.resolve collation (some registry) policy localEnvelope
        remoteEnvelope field) =
      match ConflictEngine.requireAdditive (some registry)
        localEnvelope.operation.entityType field with
      | .ok _ => some .merge
      | .error _ => none := by
  unfold ConflictEngine.resolve
  rw [hstrategy]
  cases ConflictEngine.requireAdditive (some registry)
    localEnvelope.operation.entityType field with
  | error thrown => rfl
  | ok _ => rfl

theorem engineWinner_of_timestamps {collation : Collation} {registry : Option ConflictRegistry}
    {policy : ConflictPolicy} {localEnvelope remoteEnvelope : SyncEnvelope}
    {field : Option String} (hpolicy : ConflictEngine.IsTimestampStrategy policy.strategy) :
    engineWinner (ConflictEngine.resolve collation registry policy localEnvelope
        remoteEnvelope field) =
      match ConflictEngine.compareEnvelopes collation localEnvelope remoteEnvelope with
      | .ok cmp => some (if cmp ≥ 0 then .localSide else .remoteSide)
      | .error _ => none := by
  unfold ConflictEngine.resolve
  cases hpolicy with
  | inl hlww =>
      rw [hlww]
      cases ConflictEngine.compareEnvelopes collation localEnvelope remoteEnvelope with
      | error thrown => rfl
      | ok cmp =>
          by_cases hcmp : cmp ≥ 0
          · simp [hcmp, engineWinner, bind, Except.bind, pure, Except.pure]
          · simp [hcmp, engineWinner, bind, Except.bind, pure, Except.pure]
  | inr hcrdt =>
      rw [hcrdt]
      cases ConflictEngine.compareEnvelopes collation localEnvelope remoteEnvelope with
      | error thrown => rfl
      | ok cmp => rfl

/-! ## Agreement -/

/-- For each strategy, the cases in which the two resolvers agree. -/
theorem resolvers_agree_iff (collation : Collation) (registry : ConflictRegistry)
    (localEnvelope remoteEnvelope : SyncEnvelope) (field : Option String)
    (localValue remoteValue : JsonValue) (now : ClockReading) :
    Agree collation registry localEnvelope remoteEnvelope field localValue remoteValue now ↔
      AgreementCondition registry localEnvelope remoteEnvelope field := by
  have hparse := @timestampsParse_iff collation localEnvelope remoteEnvelope
  have habsolute := @requireAdditive_iff registry localEnvelope.operation.entityType field
  have hdelta := @requireDelta_iff registry localEnvelope.operation.entityType field
  unfold Agree AgreementCondition
  dsimp only
  generalize hpolicy :
    registry.getPolicy localEnvelope.operation.entityType field = policy
  cases hcompare : ConflictEngine.compareEnvelopes collation localEnvelope remoteEnvelope with
  | error thrown =>
      have hnot : ¬ TimestampsParse localEnvelope remoteEnvelope := by
        rw [hparse, hcompare]
        simp
      rw [registryWinner_of_error hcompare]
      cases hstrategy : policy.strategy with
      | lww => simp [engineWinner_of_timestamps (.inl hstrategy), hcompare]
      | crdt => simp [engineWinner_of_timestamps (.inr hstrategy), hcompare, hnot]
      | additive =>
          rw [engineWinner_of_additive hstrategy]
          simp only [hnot, or_false, ← habsolute]
          cases ConflictEngine.requireAdditive (some registry)
            localEnvelope.operation.entityType field with
          | error message => simp
          | ok _ => simp
      | appendOnly => simp [ConflictEngine.resolve, hstrategy, engineWinner, pure, Except.pure]
      | immutable =>
          simp [ConflictEngine.resolve, hstrategy, engineWinner, hnot, pure, Except.pure]
      | manual =>
          simp [ConflictEngine.resolve, hstrategy, engineWinner, hnot, pure, Except.pure]
  | ok cmp =>
      have hyes : TimestampsParse localEnvelope remoteEnvelope := by
        rw [hparse]
        exact ⟨cmp, hcompare⟩
      rw [registryWinner_of_ok hcompare, hpolicy, ConflictRegistry.outcome]
      cases hstrategy : policy.strategy with
      | lww =>
          rw [engineWinner_of_timestamps (.inl hstrategy), hcompare]
          by_cases hcmp : cmp ≥ 0
          · simp [hcmp, asResolutionWinner]
          · simp [hcmp, asResolutionWinner]
      | crdt =>
          rw [engineWinner_of_timestamps (.inr hstrategy), hcompare]
          cases registry.customResolver? policy with
          | none =>
              by_cases hcmp : cmp ≥ 0
              · simp [hcmp, asResolutionWinner]
              · simp [hcmp, asResolutionWinner]
          | some resolver =>
              -- the engine never calls the resolver
              cases hvalue : resolver
                (conflictInput localEnvelope remoteEnvelope field localValue remoteValue) with
              | error thrown => simp [hyes, hvalue, bind, Except.bind]
              | ok value =>
                  by_cases hcmp : cmp ≥ 0
                  · simp [hyes, hvalue, hcmp, asResolutionWinner, bind, Except.bind, pure,
                      Except.pure]
                  · simp [hyes, hvalue, hcmp, asResolutionWinner, bind, Except.bind, pure,
                      Except.pure]
      | additive =>
          rw [engineWinner_of_additive hstrategy]
          simp only [hyes, or_true, iff_true]
          rw [← hdelta] at habsolute
          cases hengine : ConflictEngine.requireAdditive (some registry)
            localEnvelope.operation.entityType field with
          | error message =>
              obtain ⟨thrown, hthrown⟩ := habsolute.mp ⟨message, hengine⟩
              simp [conflictInput, hthrown, bind, Except.bind]
          | ok _ =>
              cases hregistry : registry.requireDelta
                localEnvelope.operation.entityType field with
              | error message =>
                  obtain ⟨thrown, hthrown⟩ := habsolute.mpr ⟨message, hregistry⟩
                  rw [hengine] at hthrown
                  cases hthrown
              | ok _ =>
                  simp [conflictInput, hregistry, asResolutionWinner, bind, Except.bind, pure,
                    Except.pure]
      | appendOnly =>
          simp [ConflictEngine.resolve, hstrategy, engineWinner, asResolutionWinner, pure,
            Except.pure]
      | immutable =>
          simp [ConflictEngine.resolve, hstrategy, engineWinner, asResolutionWinner, hyes, pure,
            Except.pure]
      | manual =>
          simp [ConflictEngine.resolve, hstrategy, engineWinner, asResolutionWinner, hyes, pure,
            Except.pure]

def appendOnlyRegistry : ConflictRegistry :=
  { ConflictRegistry.empty with
    entityPolicies := AList.singleton "note" { strategy := .appendOnly } }

/-- The engine takes the remote entry of an append-only entity, the registry the local one. -/
theorem disagree_on_appendOnly :
    ∃ localEnvelope remoteEnvelope : SyncEnvelope,
      localEnvelope.operation.entityType = remoteEnvelope.operation.entityType ∧
      localEnvelope.operation.entityId = remoteEnvelope.operation.entityId ∧
      ¬ Agree .codePoint appendOnlyRegistry localEnvelope remoteEnvelope none
        localEnvelope.operation.payload remoteEnvelope.operation.payload ⟨0, by decide⟩ := by
  refine ⟨ConflictEngine.noteUpdate "op-1" "01_0000_device-1" "first",
    ConflictEngine.noteUpdate "op-2" "02_0000_device-1" "second", rfl, rfl, ?_⟩
  intro hagree
  have hengine : engineWinner (ConflictEngine.resolve .codePoint (some appendOnlyRegistry)
      (appendOnlyRegistry.getPolicy "note" none)
      (ConflictEngine.noteUpdate "op-1" "01_0000_device-1" "first")
      (ConflictEngine.noteUpdate "op-2" "02_0000_device-1" "second") none) =
        some .remoteSide := rfl
  have hregistry : registryWinner (appendOnlyRegistry.resolve .codePoint
      (conflictInput (ConflictEngine.noteUpdate "op-1" "01_0000_device-1" "first")
        (ConflictEngine.noteUpdate "op-2" "02_0000_device-1" "second") none
        (.string "first") (.string "second")) ⟨0, by decide⟩) = some .localSide := by
    decide
  have hsame := hengine.symm.trans (hagree.trans hregistry)
  cases hsame

end ConflictAgreement
end TauriPlatform
