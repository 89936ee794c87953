import TauriPlatform.ConflictSignatures
import TauriPlatform.JsonContent

/-!
# Merging in both orders

Two replicas which meet two deltas in opposite orders call the additive strategy with the
arguments exchanged.  The sum in the given field does not see the order.  The other
properties are spread with the remote ones last, and what cannot be added is taken from the
remote side, so there the replicas agree only where the two payloads do.
-/

namespace TauriPlatform

theorem JsonNumber.add_comm (left right : JsonNumber) : left.add right = right.add left := by
  simp only [JsonNumber.add, max_comm left.decimal.2, Int.add_comm]

theorem JsonValue.IsEnumerated.sameContent_refl {value : JsonValue}
    (henumerated : value.IsEnumerated) : SameContent value value :=
  (sortedKeys_eq_iff value value henumerated henumerated).mp rfl

theorem SameContent.symm {left right : JsonValue} (hsame : SameContent left right)
    (hleft : left.IsEnumerated) (hright : right.IsEnumerated) : SameContent right left :=
  (sortedKeys_eq_iff right left hright hleft).mp
    ((sortedKeys_eq_iff left right hleft hright).mpr hsame).symm

namespace ConflictEngine

def resolvedPayload (result : Except Thrown ConflictResolutionResult) : Option JsonValue :=
  (keptEnvelope result).map fun envelope => envelope.operation.payload

def AgreeBut (name : String) (left right : JsonValue) : Prop :=
  ∀ key, key ≠ name → ∀ leftValue rightValue, left.ownEntries.lookup key = some leftValue →
    right.ownEntries.lookup key = some rightValue → SameContent leftValue rightValue

/-- Two numbers are added, two objects are merged at a field, and nothing else is. -/
def MergeSymmetric (field : Option String) : JsonValue → JsonValue → Prop
  | .number _, .number _ => True
  | left, right =>
      match givenField field with
      | some name =>
          if left.isObjectLike ∧ right.isObjectLike then AgreeBut name left right
          else SameContent left right
      | none => SameContent left right

section Merge

variable {left right : JsonValue}

theorem lookup_merged (hright : right.IsEnumerated) (name : String) (value : JsonValue)
    (key : String) :
    (defineProperty (spread left.ownEntries right.ownEntries) name value).lookup key =
      if key = name then some value
      else (right.ownEntries.lookup key).or (left.ownEntries.lookup key) := by
  rw [lookup_defineProperty, lookup_spread (nodup_ownEntries hright)]

theorem isEnumerated_of_ownEntries_lookup {value property : JsonValue} {key : String}
    (henumerated : value.IsEnumerated) (hlookup : value.ownEntries.lookup key = some property) :
    property.IsEnumerated :=
  isEnumerated_ownEntries henumerated _
    ((lookup_eq_some_iff_mem (nodup_ownEntries henumerated)).mp hlookup)

theorem rel_or_iff (hleft : left.IsEnumerated) (hright : right.IsEnumerated) (key : String) :
    Option.Rel SameContent
        ((right.ownEntries.lookup key).or (left.ownEntries.lookup key))
        ((left.ownEntries.lookup key).or (right.ownEntries.lookup key)) ↔
      ∀ leftValue rightValue, left.ownEntries.lookup key = some leftValue →
        right.ownEntries.lookup key = some rightValue → SameContent leftValue rightValue := by
  cases hleftValue : left.ownEntries.lookup key with
  | none =>
      cases hrightValue : right.ownEntries.lookup key with
      | none => simp
      | some rightValue =>
          have hrefl :=
            (isEnumerated_of_ownEntries_lookup hright hrightValue).sameContent_refl
          simpa using hrefl
  | some leftValue =>
      have henumerated := isEnumerated_of_ownEntries_lookup hleft hleftValue
      cases hrightValue : right.ownEntries.lookup key with
      | none => simpa using henumerated.sameContent_refl
      | some rightValue =>
          have henumerated' := isEnumerated_of_ownEntries_lookup hright hrightValue
          have hswap : SameContent rightValue leftValue ↔ SameContent leftValue rightValue :=
            ⟨fun hsame => hsame.symm henumerated' henumerated,
              fun hsame => hsame.symm henumerated henumerated'⟩
          simpa using hswap

theorem sameContent_merged_iff (hleft : left.IsEnumerated) (hright : right.IsEnumerated)
    (name : String) (value : JsonNumber) :
    SameContent
        (.object (defineProperty (spread left.ownEntries right.ownEntries) name (.number value)))
        (.object (defineProperty (spread right.ownEntries left.ownEntries) name
          (.number value))) ↔
      AgreeBut name left right := by
  have hiff : ∀ key, Option.Rel SameContent
      ((defineProperty (spread left.ownEntries right.ownEntries) name (.number value)).lookup key)
      ((defineProperty (spread right.ownEntries left.ownEntries) name (.number value)).lookup
        key) ↔
      (key ≠ name → ∀ leftValue rightValue, left.ownEntries.lookup key = some leftValue →
        right.ownEntries.lookup key = some rightValue → SameContent leftValue rightValue) := by
    intro key
    rw [lookup_merged hright, lookup_merged hleft]
    split
    · next hname => simp [hname, SameContent.number]
    · next hname => simp only [rel_or_iff hleft hright, ne_eq, hname, not_false_eq_true,
        forall_const]
  rw [sameContent_iff]
  simp [AgreeBut, hiff]

theorem mergePayload_of_not_numbers
    (hnumbers : ∀ leftNumber rightNumber, left = .number leftNumber →
      right ≠ .number rightNumber) (field : Option String) :
    mergePayload left right field =
      match givenField field with
      | some name =>
          if left.isObjectLike ∧ right.isObjectLike then
            .object (defineProperty (spread left.ownEntries right.ownEntries) name
              (.number ((numericField left name).add (numericField right name))))
          else right
      | none => right := by
  unfold mergePayload
  split
  · exact absurd rfl (hnumbers _ _ rfl)
  · rfl

theorem mergeSymmetric_of_not_numbers
    (hnumbers : ∀ leftNumber rightNumber, left = .number leftNumber →
      right ≠ .number rightNumber) (field : Option String) :
    MergeSymmetric field left right ↔
      match givenField field with
      | some name =>
          if left.isObjectLike ∧ right.isObjectLike then AgreeBut name left right
          else SameContent left right
      | none => SameContent left right := by
  unfold MergeSymmetric
  split
  · exact absurd rfl (hnumbers _ _ rfl)
  · rfl

theorem sameContent_mergePayload_iff (hleft : left.IsEnumerated) (hright : right.IsEnumerated)
    (field : Option String) :
    SameContent (mergePayload left right field) (mergePayload right left field) ↔
      MergeSymmetric field left right := by
  by_cases hnumbers : ∃ leftNumber rightNumber, left = .number leftNumber ∧
      right = .number rightNumber
  · obtain ⟨leftNumber, rightNumber, rfl, rfl⟩ := hnumbers
    simp [mergePayload, MergeSymmetric, JsonNumber.add_comm leftNumber, SameContent.number]
  · have hnot : ∀ leftNumber rightNumber, left = .number leftNumber →
        right ≠ .number rightNumber :=
      fun leftNumber rightNumber hl hr => hnumbers ⟨leftNumber, rightNumber, hl, hr⟩
    have hnot' : ∀ rightNumber leftNumber, right = .number rightNumber →
        left ≠ .number leftNumber :=
      fun rightNumber leftNumber hr hl => hnot leftNumber rightNumber hl hr
    have hswap : SameContent right left ↔ SameContent left right :=
      ⟨fun hsame => hsame.symm hright hleft, fun hsame => hsame.symm hleft hright⟩
    rw [mergePayload_of_not_numbers hnot, mergePayload_of_not_numbers hnot',
      mergeSymmetric_of_not_numbers hnot]
    cases givenField field with
    | none => exact hswap
    | some name =>
        dsimp only
        by_cases hobjects : left.isObjectLike ∧ right.isObjectLike
        · rw [if_pos hobjects, if_pos hobjects.symm, if_pos hobjects,
            JsonNumber.add_comm (numericField right name)]
          exact sameContent_merged_iff hleft hright name _
        · have hobjects' : ¬ (right.isObjectLike ∧ left.isObjectLike) :=
            fun hboth => hobjects hboth.symm
          rw [if_neg hobjects, if_neg hobjects', if_neg hobjects]
          exact hswap

end Merge

theorem resolvedPayload_additive {collation : Collation} {registry : Option ConflictRegistry}
    {policy : ConflictPolicy} (hstrategy : policy.strategy = .additive)
    {localEnvelope remoteEnvelope : SyncEnvelope} {field : Option String} :
    resolvedPayload
        (resolve collation registry policy localEnvelope remoteEnvelope field) =
      match requireAdditive registry localEnvelope.operation.entityType field with
      | .error _ => none
      | .ok _ =>
          some (mergePayload localEnvelope.operation.payload remoteEnvelope.operation.payload
            field) := by
  rw [resolve_additive hstrategy]
  cases requireAdditive registry localEnvelope.operation.entityType field with
  | error error => rfl
  | ok admitted => rfl

/-- Replicas which meet two deltas of an entity in opposite orders keep payloads of one
content exactly where the merge is symmetric, unless the field may not be added at all. -/
theorem additive_resolve_symmetric_iff (collation : Collation)
    (registry : Option ConflictRegistry) (policy : ConflictPolicy)
    (hstrategy : policy.strategy = .additive) (a b : SyncEnvelope) (field : Option String)
    (hentity : a.operation.entityType = b.operation.entityType)
    (ha : a.operation.payload.IsEnumerated) (hb : b.operation.payload.IsEnumerated) :
    Option.Rel SameContent (resolvedPayload (resolve collation registry policy a b field))
        (resolvedPayload (resolve collation registry policy b a field)) ↔
      (requireAdditive registry a.operation.entityType field = .ok () →
        MergeSymmetric field a.operation.payload b.operation.payload) := by
  rw [resolvedPayload_additive hstrategy, resolvedPayload_additive hstrategy, ← hentity]
  cases requireAdditive registry a.operation.entityType field with
  | error error => simp
  | ok admitted =>
      simp only [Option.rel_some_some, forall_const]
      exact sameContent_mergePayload_iff ha hb field

def stockMovement (envelopeId : String) (quantity : Int) (reason : String) : SyncEnvelope :=
  (counterDelta envelopeId '0' quantity).withPayload
    (.object [("quantity", .number (.integer quantity)), ("reason", .string reason)])

theorem isEnumerated_stockMovement (envelopeId : String) (quantity : Int) (reason : String) :
    (stockMovement envelopeId quantity reason).operation.payload.IsEnumerated := by
  apply JsonValue.IsEnumerated.object
  · apply spread_append
    · change ["quantity", "reason"].Nodup
      decide
    · change ∀ key ∈ ["quantity", "reason"], arrayIndex? key = none
      decide
  · simp only [List.forall_mem_cons]
    exact ⟨.number _, .string _, fun _ hmem => absurd hmem List.not_mem_nil⟩

theorem lookup_stockMovement {key : String} {value : JsonValue} {quantity : Int}
    {envelopeId reason : String} (hkey : key ≠ "quantity")
    (hlookup : (stockMovement envelopeId quantity reason).operation.payload.ownEntries.lookup
      key = some value) : value = .string reason := by
  have hmem := (lookup_eq_some_iff_mem
    (nodup_ownEntries (isEnumerated_stockMovement envelopeId quantity reason))).mp hlookup
  simp [stockMovement, SyncEnvelope.withPayload, SyncOperation.withPayload,
    JsonValue.ownEntries, hkey] at hmem
  exact hmem.2

theorem additive_resolve_symmetric_delivery :
    Option.Rel SameContent
      (resolvedPayload (resolve .codePoint none additivePolicy
        (stockMovement "op-1" 5 "delivery") (stockMovement "op-2" 3 "delivery")
        (some "quantity")))
      (resolvedPayload (resolve .codePoint none additivePolicy
        (stockMovement "op-2" 3 "delivery") (stockMovement "op-1" 5 "delivery")
        (some "quantity"))) := by
  refine (additive_resolve_symmetric_iff .codePoint none additivePolicy rfl
    (stockMovement "op-1" 5 "delivery") (stockMovement "op-2" 3 "delivery") (some "quantity")
    rfl (isEnumerated_stockMovement _ _ _) (isEnumerated_stockMovement _ _ _)).mpr fun _ => ?_
  intro key hkey leftValue rightValue hleft hright
  rw [lookup_stockMovement hkey hleft, lookup_stockMovement hkey hright]
  exact .string _

/-- Each replica keeps the reason which it met last. -/
theorem additive_resolve_asymmetric :
    ¬ ∀ (collation : Collation) (registry : Option ConflictRegistry) (a b : SyncEnvelope)
      (field : Option String), a.operation.entityType = b.operation.entityType →
      a.operation.entityId = b.operation.entityId →
      a.operation.payload.IsEnumerated → b.operation.payload.IsEnumerated →
      Option.Rel SameContent
        (resolvedPayload (resolve collation registry additivePolicy a b field))
        (resolvedPayload (resolve collation registry additivePolicy b a field)) := by
  intro hsymmetric
  have hrel := hsymmetric .codePoint none (stockMovement "op-1" 5 "delivery")
    (stockMovement "op-2" 3 "return") (some "quantity") rfl rfl
    (isEnumerated_stockMovement _ _ _) (isEnumerated_stockMovement _ _ _)
  rw [resolvedPayload_additive rfl, resolvedPayload_additive rfl] at hrel
  have hagree : AgreeBut "quantity" (stockMovement "op-1" 5 "delivery").operation.payload
      (stockMovement "op-2" 3 "return").operation.payload :=
    (sameContent_mergePayload_iff (isEnumerated_stockMovement _ _ _)
      (isEnumerated_stockMovement _ _ _) (some "quantity")).mp (by simpa [requireAdditive] using hrel)
  have hreason : SameContent (.string "delivery") (.string "return") :=
    hagree "reason" (by decide) _ _ rfl rfl
  exact absurd hreason (by simp [sameContent_iff])

end ConflictEngine

end TauriPlatform
