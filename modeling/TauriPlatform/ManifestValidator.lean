import TauriPlatform.DeclarativeTablePruner
import TauriPlatform.NamespaceGenerator

/-!
# The validation of manifests

`ManifestValidator.validate` takes any value.  It looks at the shape of all fields first, and at
what they say only behind that.
-/

namespace TauriPlatform

open Regular PruningFilter

namespace PlainValue

def field (key : String) : PlainValue → PlainValue
  | .object entries => ((entries.find? fun entry => entry.1 == key).map Prod.snd).getD .undefined
  | _ => .undefined

def isString (value : PlainValue) : Bool :=
  value.string?.isSome

def isNumber (value : PlainValue) : Bool :=
  value.number?.isSome

/-- `value === undefined || …`. -/
def isOptional (test : PlainValue → Bool) (value : PlainValue) : Bool :=
  value.isUndefined || test value

def items (value : PlainValue) : List PlainValue :=
  value.array?.getD []

def stringOrEmpty (value : PlainValue) : String :=
  value.string?.getD ""

end PlainValue

namespace ManifestValidator

/-! ## Expressions -/

def lowerOrDigit : Pattern :=
  .set fun c => c.isLower || c.isDigit

def idRegex : Pattern :=
  .seq (.plus lowerOrDigit) (.star (.seq (.char '-') (.plus lowerOrDigit)))

def permissionRegex : Pattern :=
  .seq (.plus (.set fun c => c.isLower || c.isDigit || c = '_' || c = '-'))
    (.seq (.char '.') (.plus (.set fun c => c.isLower || c.isDigit || c = '_' || c = '.' || c = '-')))

def semverRegex : Pattern :=
  let number := .plus (.set Char.isDigit)
  .seq number (.seq (.char '.') (.seq number (.seq (.char '.') (.seq number
    (.optional (.seq (.char '-') (.plus (.set fun c => c.isAlphanum || c = '.' || c = '-'))))))))

def requiredSegments : List String :=
  ["application", "organisation", "syncGroup"].map fun name => "\x7b" ++ name ++ "\x7d"

def syncNamespaceSegmentRegex : Pattern :=
  .either (.anyOf (requiredSegments.map fun segment => .text segment.toList))
    (.plus (.set fun c => c.isAlphanum || c = '_' || c = '-'))

def entityTypeRegex : Pattern :=
  .seq (.set Char.isLower) (.star (.set fun c => c.isLower || c.isDigit || c = '_'))

def conflictStrategies : List String :=
  ["lww", "append-only", "additive", "manual", "immutable", "crdt"]

/-- `regex.test(value)`, for any value. -/
def test (regex : Pattern) (value : PlainValue) : Except Thrown Bool := do
  return regex.accepts (← value.text).toList

/-! ## Structure -/

def invalidShape (field featureId : String) : Except Thrown Unit :=
  .error (validationError
    s!"Feature manifest '{featureId}' has an invalid or missing '{field}' field."
    "Invalid feature configuration" s!"val_feat_shape_{featureId}")

def checkShape (field featureId : String) (valid : Bool) : Except Thrown Unit :=
  if valid then .ok () else invalidShape field featureId

def isRecord : PlainValue → Bool
  | .object _ => true
  | _ => false

def isStringArray : PlainValue → Bool
  | .array items => items.all PlainValue.isString
  | _ => false

def checkArray (field featureId : String) (isEntry : PlainValue → Bool) :
    PlainValue → Except Thrown Unit
  | .array items => checkShape (field ++ "[]") featureId (items.all isEntry)
  | _ => invalidShape field featureId

def checkOptionalArray (field featureId : String) (isEntry : PlainValue → Bool)
    (value : PlainValue) : Except Thrown Unit :=
  if value.isUndefined then .ok () else checkArray field featureId isEntry value

def isPermission (permission : PlainValue) : Bool :=
  isRecord permission && (permission.field "name").isString &&
    (permission.field "description").isString

def isMigration (migration : PlainValue) : Bool :=
  isRecord migration && (migration.field "name").isString && (migration.field "sql").isString &&
    (migration.field "checksum").isString && (migration.field "version").isNumber

def isSyncPolicy (policy : PlainValue) : Bool :=
  isRecord policy && (policy.field "entityType").isString &&
    (policy.field "namespacePattern").isString && (policy.field "syncable").isBool &&
    isRecord (policy.field "conflictPolicy") &&
    ((policy.field "conflictPolicy").field "strategy").isString

def isPruningPolicy (policy : PlainValue) : Bool :=
  isRecord policy && (policy.field "id").isString && (policy.field "displayName").isString &&
    (policy.field "tableName").isString && (policy.field "timestampColumn").isString &&
    (policy.field "defaultRetentionDays").isNumber &&
    (policy.field "filterCondition").isOptional PlainValue.isString

def isNavigationItem (item : PlainValue) : Bool :=
  isRecord item && (item.field "id").isString && (item.field "label").isString &&
    (item.field "path").isString && (item.field "icon").isOptional PlainValue.isString &&
    (item.field "requiredPermission").isOptional PlainValue.isString &&
    (item.field "order").isOptional PlainValue.isNumber

def validateStructure (value : PlainValue) : Except Thrown Unit := do
  checkShape "manifest" "unknown" (isRecord value)
  let featureId := ((value.field "id").string?).getD "unknown"
  checkShape "name" featureId
    ((value.field "name").string?.any fun name => !name.toList.all isJsWhitespace)
  checkShape "dependencies" featureId (isStringArray (value.field "dependencies"))
  checkShape "optionalDependencies" featureId
    ((value.field "optionalDependencies").isOptional isStringArray)
  checkArray "permissions" featureId isPermission (value.field "permissions")
  checkArray "migrations" featureId isMigration (value.field "migrations")
  checkOptionalArray "syncPolicies" featureId isSyncPolicy (value.field "syncPolicies")
  checkOptionalArray "pruningPolicies" featureId isPruningPolicy (value.field "pruningPolicies")
  checkOptionalArray "navigation" featureId isNavigationItem (value.field "navigation")
  checkShape "description" featureId ((value.field "description").isOptional PlainValue.isString)

/-! ## Content -/

section Content

variable (manifest : PlainValue)

def reject (message : String → Except Thrown String) (userMessage : String)
    (correlation : String) : Except Thrown Unit := do
  let id ← (manifest.field "id").text
  throw (validationError (← message id) userMessage (correlation ++ id))

def checkId : Except Thrown Unit := do
  let id := manifest.field "id"
  if id.isTrue ∧ (← test idRegex id) then return ()
  let text ← id.text
  let correlation ← if id.isTrue then id.text else pure "unknown"
  throw (validationError
    (s!"Feature manifest ID '{text}' is invalid. It must be lowercase kebab-case " ++
      "(e.g. 'inventory-tracking').")
    "Invalid feature configuration" s!"val_feat_{correlation}")

def checkVersion : Except Thrown Unit := do
  let version := manifest.field "version"
  if version.isTrue ∧ (← test semverRegex version) then return ()
  reject manifest
    (fun id => do
      return s!"Feature manifest version '{← version.text}' for '{id}' is not a valid " ++
        "Semantic Version (e.g. '1.0.0').")
    "Invalid feature version" "val_feat_"

def checkPermission (permission : PlainValue) : Except Thrown Unit := do
  let name := (permission.field "name").stringOrEmpty
  if permissionRegex.accepts name.toList then return ()
  reject manifest
    (fun id => pure (s!"Permission '{name}' in feature '{id}' must follow hierarchical " ++
      "dot-notation (e.g. 'inventory.read')."))
    "Invalid permission definition" "val_perm_"

def checkMigrations : (seen : List PlainValue) → List PlainValue → Except Thrown Unit
  | _, [] => .ok ()
  | seen, migration :: rest => do
      let version := migration.field "version"
      let name := (migration.field "name").stringOrEmpty
      if version.number?.any fun number => number.safeInteger?.any (0 < ·) then
        if seen.any fun other => other.isSame version then
          reject manifest
            (fun id => do
              return s!"Duplicate migration version {← version.text} detected in feature '{id}'.")
            "Duplicate migration version in feature" "val_mig_"
        checkMigrations (seen ++ [version]) rest
      else
        reject manifest
          (fun id => do
            return s!"Migration '{name}' in feature '{id}' has an invalid version " ++
              s!"{← version.text}. Versions must be positive integers.")
          "Invalid migration version" "val_mig_"

def checkSyncPolicies : (seen : List String) → List PlainValue → Except Thrown Unit
  | _, [] => .ok ()
  | seen, policy :: rest => do
      let entityType := (policy.field "entityType").stringOrEmpty
      let segments := NamespaceGenerator.segments (policy.field "namespacePattern").stringOrEmpty
      let strategy := ((policy.field "conflictPolicy").field "strategy").stringOrEmpty
      if ¬ entityTypeRegex.accepts entityType.toList then
        reject manifest
          (fun id => pure s!"Sync policy in feature '{id}' has invalid entityType '{entityType}'.")
          "Invalid sync policy entity type" "val_sync_"
      if entityType ∈ seen then
        reject manifest
          (fun id => pure
            s!"Duplicate sync policy entityType '{entityType}' in feature '{id}'.")
          "Duplicate sync policy" "val_sync_"
      if (segments.any fun segment => !syncNamespaceSegmentRegex.accepts segment) ∨
          requiredSegments.any fun required => required.toList ∉ segments then
        reject manifest
          (fun id => pure (s!"Sync policy '{entityType}' in feature '{id}' must use safe path " ++
            "segments and include " ++ ", ".intercalate requiredSegments ++ "."))
          "Invalid sync namespace pattern" "val_sync_"
      if strategy ∉ conflictStrategies then
        reject manifest
          (fun id => pure (s!"Sync policy '{entityType}' in feature '{id}' has an unsupported " ++
            "conflict strategy."))
          "Invalid sync conflict strategy" "val_sync_"
      if ¬ (policy.field "syncable").isBool then
        reject manifest
          (fun id => pure (s!"Sync policy '{entityType}' in feature '{id}' must declare syncable " ++
            "as a boolean."))
          "Invalid sync policy declaration" "val_sync_"
      checkSyncPolicies (seen ++ [entityType]) rest

def checkPruningPolicies : (seen : List String) → List PlainValue → Except Thrown Unit
  | _, [] => .ok ()
  | seen, policy :: rest => do
      let policyId := (policy.field "id").stringOrEmpty
      let tableName := (policy.field "tableName").stringOrEmpty
      let timestampColumn := (policy.field "timestampColumn").stringOrEmpty
      let filter := policy.field "filterCondition"
      if policyId = "" then
        reject manifest
          (fun id => pure s!"Pruning policy in feature '{id}' must have a valid non-empty id.")
          "Invalid pruning policy configuration" "val_prune_"
      if policyId ∈ seen then
        reject manifest
          (fun id => pure s!"Duplicate pruning policy id '{policyId}' in feature '{id}'.")
          "Duplicate pruning policy in feature" "val_prune_"
      if ¬ identifierPattern.accepts tableName.toList then
        reject manifest
          (fun id => pure
            s!"Pruning policy '{policyId}' in feature '{id}' has invalid tableName '{tableName}'.")
          "Invalid pruning policy table" "val_prune_"
      if ¬ identifierPattern.accepts timestampColumn.toList then
        reject manifest
          (fun id => pure (s!"Pruning policy '{policyId}' in feature '{id}' has invalid " ++
            s!"timestampColumn '{timestampColumn}'."))
          "Invalid pruning policy timestamp column" "val_prune_"
      if ¬ (policy.field "defaultRetentionDays").number?.any
          fun days => days.finite?.any JsonNumber.isPositive then
        reject manifest
          (fun id => do
            let got ← (policy.field "defaultRetentionDays").text
            return s!"Pruning policy '{policyId}' in feature '{id}' must have a positive finite " ++
              s!"defaultRetentionDays (got {got}).")
          "Invalid pruning policy retention days" "val_prune_"
      if filter.isTrue ∧ ¬ isSafePruningFilterCondition filter.stringOrEmpty then
        reject manifest
          (fun id => pure (s!"Pruning policy '{policyId}' in feature '{id}' has an unsafe " ++
            "filterCondition. Use a single column comparison with a literal value."))
          "Invalid pruning policy filter" "val_prune_filter_"
      checkPruningPolicies (seen ++ [policyId]) rest

def validate : Except Thrown Unit := do
  validateStructure manifest
  checkId manifest
  checkVersion manifest
  (manifest.field "permissions").items.forM (checkPermission manifest)
  checkMigrations manifest [] (manifest.field "migrations").items
  checkSyncPolicies manifest [] (manifest.field "syncPolicies").items
  checkPruningPolicies manifest [] (manifest.field "pruningPolicies").items

end Content

end ManifestValidator

end TauriPlatform
