import TauriPlatform.DependencyResolver
import TauriPlatform.MaintenanceRegistry
import TauriPlatform.ManifestValidator
import TauriPlatform.PlatformInit

/-!
# Registering a feature

`Platform.registerFeature` takes any manifest and writes three registries one after another.
Whatever can be rejected is rejected before the first of them is written.
-/

namespace TauriPlatform

/-! ## The registries -/

/-- The manifests of `FeatureRegistry` under their ids, and the graph if it has been resolved. -/
structure FeatureRegistry where
  registeredFeatures : List (PlainValue × PlainValue)
  resolvedGraph : Option ResolvedFeatureGraph

namespace FeatureRegistry

variable (registry : FeatureRegistry) (manifest : PlainValue)

def isInstalled (id : PlainValue) : Bool :=
  registry.registeredFeatures.any fun entry => entry.1.isSame id

def rejectDuplicate : Except Thrown Unit := do
  let id ← (← manifest.get "id").text
  throw (validationError s!"Feature '{id}' has already been registered."
    "A feature was registered more than once" ("feat_duplicate_" ++ id))

/-- `FeatureRegistry.registerFeature`; the clone of plain data is the same data. -/
def registerFeature : Except Thrown Unit × FeatureRegistry :=
  match ManifestValidator.validate manifest with
  | .error thrown => (.error thrown, registry)
  | .ok () =>
      if registry.isInstalled (manifest.field "id") then (rejectDuplicate manifest, registry)
      else
        (.ok (), ⟨registry.registeredFeatures ++ [(manifest.field "id", manifest)], none⟩)

end FeatureRegistry

/-- The entity policies of `ConflictRegistry`, which features declare; any value may stand for
an entity type or a policy until the manifest has been validated. -/
structure EntityPolicies where
  entityPolicies : List (PlainValue × PlainValue)

namespace EntityPolicies

variable (registry : EntityPolicies)

def hasEntityPolicy (entityType : PlainValue) : Bool :=
  registry.entityPolicies.any fun entry => entry.1.isSame entityType

def registerEntityPolicy (entityType policy : PlainValue) :
    Except Thrown Unit × EntityPolicies :=
  if registry.hasEntityPolicy entityType then
    (do
      let entityType ← entityType.text
      throw (.builtin "Error"
        s!"[ConflictRegistry] Entity policy for '{entityType}' is already registered."), registry)
  else (.ok (), ⟨registry.entityPolicies ++ [(entityType, policy)]⟩)

/-- The first loop of `registerFeature`, with the entity types which it has seen. -/
def checkSyncPolicies : (seen : List PlainValue) → List PlainValue → Except Thrown Unit
  | _, [] => .ok ()
  | seen, policy :: rest => do
      let entityType ← policy.get "entityType"
      if (seen.any fun other => other.isSame entityType) ∨ registry.hasEntityPolicy entityType then
        let entityType ← entityType.text
        throw (validationError
          (s!"Sync conflict policy for entity '{entityType}' is already registered or " ++
            "duplicated.")
          "Duplicate sync conflict policy" ("platform_sync_policy_dup_" ++ entityType))
      else checkSyncPolicies (seen ++ [entityType]) rest

def registerSyncPolicies : List PlainValue → EntityPolicies → Except Thrown Unit × EntityPolicies
  | [], registry => (.ok (), registry)
  | policy :: rest, registry =>
      match (do return (← policy.get "entityType", ← policy.get "conflictPolicy")) with
      | .error thrown => (.error thrown, registry)
      | .ok (entityType, conflictPolicy) =>
          match registry.registerEntityPolicy entityType conflictPolicy with
          | (.error thrown, later) => (.error thrown, later)
          | (.ok (), later) => registerSyncPolicies rest later

end EntityPolicies

/-- What `registerFeature` reads and writes of a platform. -/
structure PlatformRegistries where
  platform : Platform
  isInitialising : Bool
  features : FeatureRegistry
  conflicts : EntityPolicies
  maintenance : MaintenanceRegistry

namespace PlatformRegistries

variable (interpretation : SqliteText.Interpretation) (platform : PlatformRegistries)
  (manifest : PlainValue)

def rejectLifecycle : Except Thrown Unit := do
  let id ← (← manifest.get "id").text
  throw (validationError
    s!"Cannot register feature '{id}' after platform initialization has started"
    "Features must be registered before platform startup" ("platform_feature_lifecycle_" ++ id))

/-- What is checked before the first registry is written: the pruners which are to be
registered. -/
def prepareFeature : Except Thrown (List PruningHandler) := do
  let policies ← (PlainValue.orElse (.array []) (← manifest.get "syncPolicies")).iterate
    "options.manifest.syncPolicies"
  platform.conflicts.checkSyncPolicies [] policies
  platform.maintenance.preparePolicies interpretation
    (PlainValue.orElse (.array []) (← manifest.get "pruningPolicies"))

def declaredSyncPolicies : Except Thrown (List PlainValue) := do
  let policies ← manifest.get "syncPolicies"
  if policies.isTrue then policies.iterate "options.manifest.syncPolicies" else return []

def registerFeature : Except Thrown Unit × PlatformRegistries :=
  if platform.platform.isInitialised ∨ platform.isInitialising then
    (rejectLifecycle manifest, platform)
  else
    match platform.prepareFeature interpretation manifest with
    | .error thrown => (.error thrown, platform)
    | .ok prepared =>
        match platform.features.registerFeature manifest with
        | (.error thrown, features) => (.error thrown, { platform with features := features })
        | (.ok (), features) =>
            match declaredSyncPolicies manifest with
            | .error thrown => (.error thrown, { platform with features := features })
            | .ok policies =>
                match platform.conflicts.registerSyncPolicies policies with
                | (.error thrown, conflicts) =>
                    (.error thrown, { platform with features := features, conflicts := conflicts })
                | (.ok (), conflicts) =>
                    match platform.maintenance.registerPreparedPolicies prepared with
                    | (outcome, maintenance) =>
                        (outcome, { platform with
                          features := features
                          conflicts := conflicts
                          maintenance := maintenance })

end PlatformRegistries

/-! ## What validation promises -/

namespace ManifestValidator

variable {manifest value : PlainValue}

theorem get_of_isRecord (hrecord : isRecord value = true) (key : String) :
    value.get key = .ok (value.field key) := by
  cases value with
  | object entries => rfl
  | _ => cases hrecord

theorem checkShape_eq_ok {field featureId : String} {valid : Bool}
    (hok : checkShape field featureId valid = .ok ()) : valid = true := by
  unfold checkShape invalidShape at hok
  split_ifs at hok with hvalid
  exact hvalid

theorem checkOptionalArray_eq_ok {field featureId : String} {isEntry : PlainValue → Bool}
    (hok : checkOptionalArray field featureId isEntry value = .ok ()) :
    value = .undefined ∨ ∃ items, value = .array items ∧ ∀ item ∈ items, isEntry item = true := by
  unfold checkOptionalArray at hok
  split_ifs at hok with hundefined
  · left
    cases value with
    | undefined => rfl
    | _ => cases hundefined
  · right
    cases value with
    | array items => exact ⟨items, rfl, List.all_eq_true.mp (checkShape_eq_ok hok)⟩
    | _ => cases hok

structure Shaped (manifest : PlainValue) : Prop where
  record : isRecord manifest = true
  syncPolicies : manifest.field "syncPolicies" = .undefined ∨
    ∃ items, manifest.field "syncPolicies" = .array items ∧
      ∀ item ∈ items, isSyncPolicy item = true
  pruningPolicies : manifest.field "pruningPolicies" = .undefined ∨
    ∃ items, manifest.field "pruningPolicies" = .array items ∧
      ∀ item ∈ items, isPruningPolicy item = true

theorem shaped_of_validate (hvalid : validate manifest = .ok ()) : Shaped manifest := by
  obtain ⟨_, hstructure, -⟩ := bind_eq_ok hvalid
  unfold validateStructure at hstructure
  obtain ⟨_, hrecord, hstructure⟩ := bind_eq_ok hstructure
  obtain ⟨_, -, hstructure⟩ := bind_eq_ok hstructure
  obtain ⟨_, -, hstructure⟩ := bind_eq_ok hstructure
  obtain ⟨_, -, hstructure⟩ := bind_eq_ok hstructure
  obtain ⟨_, -, hstructure⟩ := bind_eq_ok hstructure
  obtain ⟨_, -, hstructure⟩ := bind_eq_ok hstructure
  obtain ⟨_, hsync, hstructure⟩ := bind_eq_ok hstructure
  obtain ⟨_, hpruning, -⟩ := bind_eq_ok hstructure
  exact ⟨checkShape_eq_ok hrecord, checkOptionalArray_eq_ok hsync,
    checkOptionalArray_eq_ok hpruning⟩

theorem isRecord_of_isSyncPolicy (hpolicy : isSyncPolicy value = true) :
    isRecord value = true := by
  simp only [isSyncPolicy, Bool.and_eq_true] at hpolicy
  exact hpolicy.1.1.1.1.1

end ManifestValidator

/-! ## Checked policies can be registered -/

namespace EntityPolicies

open ManifestValidator

variable {registry : EntityPolicies}

def entry (policy : PlainValue) : PlainValue × PlainValue :=
  (policy.field "entityType", policy.field "conflictPolicy")

theorem hasEntityPolicy_append (entries : List (PlainValue × PlainValue))
    (entityType : PlainValue) :
    (⟨registry.entityPolicies ++ entries⟩ : EntityPolicies).hasEntityPolicy entityType =
      (registry.hasEntityPolicy entityType ||
        (entries.map Prod.fst).any fun other => other.isSame entityType) := by
  simp [hasEntityPolicy, List.any_append, List.any_map, Function.comp_def]

theorem checkSyncPolicies_cons {seen policies : List PlainValue} {policy : PlainValue}
    (hrecord : isRecord policy = true)
    (hok : registry.checkSyncPolicies seen (policy :: policies) = .ok ()) :
    (registry.hasEntityPolicy (policy.field "entityType") ||
        seen.any fun other => other.isSame (policy.field "entityType")) = false ∧
      registry.checkSyncPolicies (seen ++ [policy.field "entityType"]) policies = .ok () := by
  obtain ⟨entityType, hget, hok⟩ := bind_eq_ok hok
  rw [get_of_isRecord hrecord] at hget
  cases hget
  split_ifs at hok with htaken
  · obtain ⟨_, -, hthrown⟩ := bind_eq_ok hok
    cases hthrown
  · rw [not_or] at htaken
    exact ⟨by simp [htaken.1, htaken.2], hok⟩

/-- What has passed the first loop passes the second one; the entries which are registered so
far are those which the first loop has seen. -/
theorem registerSyncPolicies_of_checked {policies : List PlainValue}
    (hrecords : ∀ policy ∈ policies, isRecord policy = true)
    (entries : List (PlainValue × PlainValue))
    (hok : registry.checkSyncPolicies (entries.map Prod.fst) policies = .ok ()) :
    registerSyncPolicies policies ⟨registry.entityPolicies ++ entries⟩ =
      (.ok (), ⟨registry.entityPolicies ++ (entries ++ policies.map entry)⟩) := by
  induction policies generalizing entries with
  | nil => rw [List.map_nil, List.append_nil, registerSyncPolicies]
  | cons policy rest ih =>
      have hrecord := hrecords policy List.mem_cons_self
      obtain ⟨hfree, hrest⟩ := checkSyncPolicies_cons hrecord hok
      rw [← hasEntityPolicy_append] at hfree
      have hnext := ih (fun other hother => hrecords other (List.mem_cons_of_mem _ hother))
        (entries ++ [entry policy])
        (by rw [List.map_append, List.map_singleton]; exact hrest)
      rw [registerSyncPolicies, get_of_isRecord hrecord, get_of_isRecord hrecord]
      simp only [bind, Except.bind, pure, Except.pure, registerEntityPolicy, hfree,
        Bool.false_eq_true, if_false]
      rw [List.append_assoc, ← entry, hnext, List.append_assoc, List.map_cons,
        List.singleton_append]

end EntityPolicies

/-! ## All or nothing -/

namespace PlatformRegistries

open ManifestValidator EntityPolicies

variable {interpretation : SqliteText.Interpretation} {platform : PlatformRegistries}
  {manifest : PlainValue}

theorem rejectLifecycle_eq (manifest : PlainValue) :
    ∃ thrown, rejectLifecycle manifest = .error thrown := by
  cases hrejected : rejectLifecycle manifest with
  | error thrown => exact ⟨thrown, rfl⟩
  | ok value =>
      obtain ⟨_, -, hrejected⟩ := bind_eq_ok hrejected
      obtain ⟨_, -, hrejected⟩ := bind_eq_ok hrejected
      cases hrejected

theorem registerFeature_cases (registry : FeatureRegistry) (manifest : PlainValue) :
    (∃ thrown, registry.registerFeature manifest = (.error thrown, registry)) ∨
      validate manifest = .ok () ∧ registry.registerFeature manifest =
        (.ok (), ⟨registry.registeredFeatures ++ [(manifest.field "id", manifest)], none⟩) := by
  unfold FeatureRegistry.registerFeature
  cases hvalid : validate manifest with
  | error thrown => exact .inl ⟨thrown, rfl⟩
  | ok _ =>
      dsimp only
      split_ifs
      · left
        cases hrejected : FeatureRegistry.rejectDuplicate manifest with
        | error thrown => exact ⟨thrown, rfl⟩
        | ok value =>
            obtain ⟨_, -, hrejected⟩ := bind_eq_ok hrejected
            obtain ⟨_, -, hrejected⟩ := bind_eq_ok hrejected
            cases hrejected
      · exact .inr ⟨rfl, rfl⟩

/-- The feature, all its conflict policies and all its pruning handlers are registered, behind
what was registered before. -/
structure Registered (interpretation : SqliteText.Interpretation) (manifest : PlainValue)
    (platform later : PlatformRegistries) : Prop where
  feature : later.features.registeredFeatures =
    platform.features.registeredFeatures ++ [(manifest.field "id", manifest)]
  conflicts : later.conflicts.entityPolicies = platform.conflicts.entityPolicies ++
    (manifest.field "syncPolicies").items.map entry
  handlers : ∃ handlers, MaintenanceRegistry.mapPolicies interpretation
      (.array (manifest.field "pruningPolicies").items) = .ok handlers ∧
    later.maintenance.handlers = platform.maintenance.handlers ++ handlers

theorem policies_of_shaped (hshaped : Shaped manifest) :
    (∀ policy ∈ (manifest.field "syncPolicies").items, isRecord policy = true) ∧
      (PlainValue.orElse (.array []) (manifest.field "syncPolicies")).iterate
        "options.manifest.syncPolicies" = .ok (manifest.field "syncPolicies").items ∧
      declaredSyncPolicies manifest = .ok (manifest.field "syncPolicies").items := by
  unfold declaredSyncPolicies
  rw [get_of_isRecord hshaped.record]
  rcases hshaped.syncPolicies with hnone | ⟨items, hitems, hpolicies⟩
  · rw [hnone]
    exact ⟨fun _ hmem => (nomatch hmem), rfl, rfl⟩
  · rw [hitems]
    exact ⟨fun policy hmem => isRecord_of_isSyncPolicy (hpolicies policy hmem), rfl, rfl⟩

theorem pruningPolicies_of_shaped (hshaped : Shaped manifest) :
    PlainValue.orElse (.array []) (manifest.field "pruningPolicies") =
      .array (manifest.field "pruningPolicies").items := by
  rcases hshaped.pruningPolicies with hnone | ⟨items, hitems, -⟩
  · rw [hnone]
    rfl
  · rw [hitems]
    rfl

/-- A call registers all of the feature, or throws with the registries as they were. -/
theorem registerFeature_atomic (interpretation : SqliteText.Interpretation)
    (platform : PlatformRegistries) (manifest : PlainValue) :
    (∃ thrown, platform.registerFeature interpretation manifest = (.error thrown, platform)) ∨
      ∃ later, platform.registerFeature interpretation manifest = (.ok (), later) ∧
        Registered interpretation manifest platform later := by
  unfold registerFeature
  split_ifs
  · obtain ⟨thrown, hthrown⟩ := rejectLifecycle_eq manifest
    rw [hthrown]
    exact .inl ⟨thrown, rfl⟩
  · cases hprepared : platform.prepareFeature interpretation manifest with
    | error thrown => exact .inl ⟨thrown, rfl⟩
    | ok prepared =>
        dsimp only
        rcases registerFeature_cases platform.features manifest with ⟨thrown, hthrown⟩ |
          ⟨hvalid, hfeatures⟩
        · rw [hthrown]
          exact .inl ⟨thrown, rfl⟩
        · -- the manifest is accepted: nothing which follows can be rejected
          right
          have hshaped := shaped_of_validate hvalid
          obtain ⟨hrecords, hiterate, hdeclared⟩ := policies_of_shaped hshaped
          unfold prepareFeature at hprepared
          rw [get_of_isRecord hshaped.record, get_of_isRecord hshaped.record] at hprepared
          obtain ⟨_, hsync, hprepared⟩ := bind_eq_ok hprepared
          cases hsync
          obtain ⟨policies, hpolicies, hprepared⟩ := bind_eq_ok hprepared
          cases hiterate.symm.trans hpolicies
          obtain ⟨_, hchecked, hprepared⟩ := bind_eq_ok hprepared
          obtain ⟨_, hpruning, hprepared⟩ := bind_eq_ok hprepared
          cases hpruning
          rw [pruningPolicies_of_shaped hshaped] at hprepared
          obtain ⟨handlers, hhandlers, -⟩ := bind_eq_ok hprepared
          have hconflicts := registerSyncPolicies_of_checked hrecords [] hchecked
          rw [List.append_nil, List.nil_append] at hconflicts
          have hmaintenance := platform.maintenance.registerPreparedPolicies_of_prepared
            interpretation hprepared
          have hsame : handlers = prepared := by
            obtain ⟨_, hmap, hprepared⟩ := bind_eq_ok hprepared
            cases hhandlers.symm.trans hmap
            obtain ⟨_, -, hprepared⟩ := bind_eq_ok hprepared
            exact Except.ok.inj hprepared
          subst hsame
          rw [hfeatures]
          dsimp only
          rw [hdeclared]
          dsimp only
          rw [hconflicts]
          dsimp only
          rw [hmaintenance]
          exact ⟨_, rfl, rfl, rfl, handlers, hhandlers, rfl⟩

end PlatformRegistries
end TauriPlatform
