import TauriPlatform.HybridLogicalClock
import TauriPlatform.PlatformError
import TauriPlatform.SyncEnvelope
import Mathlib.Data.List.AList

/-!
# Conflict policies

`ConflictRegistry` keeps a policy for an entity type, a policy for a field, and
the fields declared as absolute values.
-/

namespace TauriPlatform

inductive ConflictStrategy where
  | lww
  | appendOnly
  | additive
  | manual
  | immutable
  | crdt
  deriving DecidableEq, Repr

structure ConflictPolicy where
  strategy : ConflictStrategy
  customResolverFn : Option String := none
  deriving DecidableEq, Repr

structure ResolveConflictInput where
  entityId : String
  entityType : String
  field : Option String
  localValue : JsonValue
  remoteValue : JsonValue
  localTimestamp : String
  remoteTimestamp : String

abbrev ConflictResolverFn :=
  ResolveConflictInput → Except Thrown JsonValue

structure ConflictRecord where
  entityId : String
  entityType : String
  field : Option String
  localValue : JsonValue
  remoteValue : JsonValue
  localTimestamp : String
  remoteTimestamp : String
  strategy : ConflictStrategy
  resolvedValue : JsonValue
  resolvedAt : String

inductive RegistryWinner where
  | localSide
  | remoteSide
  | custom
  | manualRequired
  deriving DecidableEq, Repr

structure RegistryResolution where
  winner : RegistryWinner
  resolvedValue : JsonValue
  record : ConflictRecord

structure ConflictRegistry where
  entityPolicies : AList fun _ : String => ConflictPolicy
  fieldPolicies : AList fun _ : String => ConflictPolicy
  customResolvers : AList fun _ : String => ConflictResolverFn
  absoluteLwwFields : Finset String

def givenField (field : Option String) : Option String :=
  field.filter (· ≠ "")

namespace ConflictRegistry

def fieldKey (entityType field : String) : String :=
  entityType ++ "." ++ field

def empty : ConflictRegistry where
  entityPolicies := ∅
  fieldPolicies := ∅
  customResolvers := ∅
  absoluteLwwFields := ∅

def registerAbsoluteLwwField (registry : ConflictRegistry)
    (entityType field : String) : ConflictRegistry :=
  { registry with
    absoluteLwwFields := insert (fieldKey entityType field) registry.absoluteLwwFields }

def isAbsoluteLwwField (registry : ConflictRegistry) (entityType field : String) : Bool :=
  fieldKey entityType field ∈ registry.absoluteLwwFields

def registerEntityPolicy (registry : ConflictRegistry) (entityType : String)
    (policy : ConflictPolicy) : Except String ConflictRegistry :=
  if entityType ∈ registry.entityPolicies then
    .error s!"[ConflictRegistry] Entity policy for '{entityType}' is already registered."
  else
    .ok { registry with
      entityPolicies := registry.entityPolicies.insert entityType policy }

def hasEntityPolicy (registry : ConflictRegistry) (entityType : String) : Bool :=
  entityType ∈ registry.entityPolicies

def registerFieldPolicy (registry : ConflictRegistry) (entityType field : String)
    (policy : ConflictPolicy) : Except String ConflictRegistry :=
  let key := fieldKey entityType field
  if policy.strategy = .additive ∧ key ∈ registry.absoluteLwwFields then
    .error (s!"[ConflictRegistry] Cannot register 'additive' strategy for '{key}': " ++
      "this field is declared as an absolute value (use 'lww' instead). " ++
      "Additive semantics are only valid for independent delta values.")
  else
    .ok { registry with fieldPolicies := registry.fieldPolicies.insert key policy }

def registerCustomResolver (registry : ConflictRegistry) (name : String)
    (resolver : ConflictResolverFn) : ConflictRegistry :=
  { registry with customResolvers := registry.customResolvers.insert name resolver }

/-- The policy of the field, else that of the entity type, else last writer wins. -/
def getPolicy (registry : ConflictRegistry) (entityType : String)
    (field : Option String) : ConflictPolicy :=
  let fieldPolicy := (givenField field).bind fun name =>
    registry.fieldPolicies.lookup (fieldKey entityType name)
  match fieldPolicy, registry.entityPolicies.lookup entityType with
  | some policy, _ => policy
  | none, some policy => policy
  | none, none => { strategy := .lww }

def validate (registry : ConflictRegistry) (entityType : String)
    (field : Option String) : Except String Unit :=
  let policy := registry.getPolicy entityType field
  match givenField field with
  | some name =>
      let key := fieldKey entityType name
      if policy.strategy = .additive ∧ key ∈ registry.absoluteLwwFields then
        .error ("[ConflictRegistry] Conflict policy validation failed: " ++
          s!"'{key}' is an absolute value field but has 'additive' strategy registered. " ++
          "Change strategy to 'lww'.")
      else .ok ()
  | none => .ok ()

def customResolver? (registry : ConflictRegistry) (policy : ConflictPolicy) :
    Option ConflictResolverFn :=
  (policy.customResolverFn.filter (· ≠ "")).bind fun name =>
    registry.customResolvers.lookup name

def requireDelta (registry : ConflictRegistry) (entityType : String)
    (field : Option String) : Except Thrown Unit :=
  match givenField field with
  | some name =>
      let key := fieldKey entityType name
      if key ∈ registry.absoluteLwwFields then
        .error (.builtin "Error"
          (s!"[ConflictRegistry] Attempted 'additive' resolution on absolute value field '{key}'. " ++
            "This field must use 'lww'. Applying additive semantics to absolute values " ++
            "would corrupt replicated state (CS-010)."))
      else .ok ()
  | none => .ok ()

def outcome (registry : ConflictRegistry) (policy : ConflictPolicy)
    (input : ResolveConflictInput) (cmp : Int) :
    Except Thrown (RegistryWinner × JsonValue) :=
  match policy.strategy with
  | .lww =>
      if cmp ≥ 0 then .ok (.localSide, input.localValue)
      else .ok (.remoteSide, input.remoteValue)
  | .appendOnly => .ok (.localSide, input.localValue)
  | .immutable => .ok (.localSide, input.localValue)
  | .additive => do
      registry.requireDelta input.entityType input.field
      let numA := input.localValue.number?.getD (.integer 0)
      let numB := input.remoteValue.number?.getD (.integer 0)
      return (.custom, .number (numA.add numB))
  | .manual => .ok (.manualRequired, input.localValue)
  | .crdt =>
      match registry.customResolver? policy with
      | some resolver => do
          let value ← resolver input
          return (.custom, value)
      | none =>
          .ok (if cmp ≥ 0 then .localSide else .remoteSide,
            if cmp ≥ 0 then input.localValue else input.remoteValue)

/-- `ConflictRegistry.resolve`; the timestamps are compared under every strategy. -/
def resolve (collation : Collation) (registry : ConflictRegistry)
    (input : ResolveConflictInput) (now : ClockReading) :
    Except Thrown RegistryResolution := do
  let policy := registry.getPolicy input.entityType input.field
  let cmp ← (HybridLogicalClock.compare collation input.localTimestamp
    input.remoteTimestamp).mapError (Thrown.builtin "RangeError")
  let (winner, resolvedValue) ← registry.outcome policy input cmp
  return {
    winner := winner
    resolvedValue := resolvedValue
    record := {
      entityId := input.entityId
      entityType := input.entityType
      field := input.field
      localValue := input.localValue
      remoteValue := input.remoteValue
      localTimestamp := input.localTimestamp
      remoteTimestamp := input.remoteTimestamp
      strategy := policy.strategy
      resolvedValue := resolvedValue
      resolvedAt := now.iso } }

end ConflictRegistry
end TauriPlatform
