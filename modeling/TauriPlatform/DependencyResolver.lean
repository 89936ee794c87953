import TauriPlatform.DepthFirst
import TauriPlatform.PlatformError
import Mathlib.Data.List.Sort

/-!
# The feature graph

`DependencyResolver.resolve` puts the features in an order in which each stands behind its
dependencies, the hard ones and the optional ones which are installed.
-/

namespace TauriPlatform

/-- A migration of a feature; the manifest validator admits integers as versions only. -/
structure MigrationDefinition where
  version : Int
  name : String
  sql : String
  checksum : String
  deriving DecidableEq

structure PermissionDefinition where
  name : String
  deriving DecidableEq

structure FeatureManifest where
  id : String
  dependencies : List String := []
  optionalDependencies : Option (List String) := none
  permissions : List PermissionDefinition := []
  migrations : List MigrationDefinition
  deriving DecidableEq

structure ResolvedFeatureGraph where
  orderedManifests : List FeatureManifest
  orderedMigrations : List (String × MigrationDefinition)
  deriving DecidableEq

namespace DependencyResolver

/-- `manifestMap.get(id)`. -/
def manifestMap (manifests : List FeatureManifest) (id : String) : Option FeatureManifest :=
  manifests.find? fun manifest => manifest.id = id

def checkDuplicates : List FeatureManifest → List String → Except Thrown Unit
  | [], _ => .ok ()
  | manifest :: rest, seen =>
      if manifest.id ∈ seen then
        .error (validationError s!"Duplicate feature ID '{manifest.id}' detected."
          "Duplicate feature configuration" s!"dep_duplicate_{manifest.id}")
      else checkDuplicates rest (manifest.id :: seen)

def checkPermissions : List (String × String) → List (String × String) → Except Thrown Unit
  | [], _ => .ok ()
  | (permission, id) :: rest, permissionOwners =>
      match (permissionOwners.lookup permission).filter (· ≠ "") with
      | some owner =>
          .error (validationError
            s!"Permission '{permission}' is declared by both '{owner}' and '{id}'."
            "Duplicate feature permission" s!"dep_permission_collision_{permission}")
      | none => checkPermissions rest ((permission, id) :: permissionOwners)

def declaredPermissions (manifests : List FeatureManifest) : List (String × String) :=
  manifests.flatMap fun manifest =>
    manifest.permissions.map fun permission => (permission.name, manifest.id)

def checkMissing (manifests : List FeatureManifest) : Except Thrown Unit :=
  let required := manifests.flatMap fun manifest =>
    manifest.dependencies.map fun depId => (manifest.id, depId)
  match required.find? fun edge => (manifestMap manifests edge.2).isNone with
  | none => .ok ()
  | some (id, depId) =>
      .error (validationError s!"Feature '{id}' requires missing dependency '{depId}'."
        "A required feature dependency is missing" s!"dep_missing_{id}_{depId}")

def dependencies (manifests : List FeatureManifest) (featureId : String) : List String :=
  match manifestMap manifests featureId with
  | none => []
  | some manifest =>
      manifest.dependencies ++ (manifest.optionalDependencies.getD []).filter fun id =>
        (manifestMap manifests id).isSome

def circularDependency (cycle : List String) : Thrown :=
  let path := String.intercalate " -> " cycle
  let last := cycle.getLastD ""
  validationError s!"Circular dependency detected in feature graph: {path}"
    "Circular feature dependency error" s!"dep_cycle_{last}"

def orderedMigrations (orderedManifests : List FeatureManifest) :
    List (String × MigrationDefinition) :=
  orderedManifests.flatMap fun manifest =>
    (manifest.migrations.insertionSort fun left right => left.version ≤ right.version).map
      fun migration => (manifest.id, migration)

def resolve (manifests : List FeatureManifest) : Except Thrown ResolvedFeatureGraph := do
  checkDuplicates manifests []
  checkPermissions (declaredPermissions manifests) []
  checkMissing manifests
  let order ← (DepthFirst.traverse (dependencies manifests)
    (manifests.map (·.id))).mapError circularDependency
  let orderedManifests := order.filterMap (manifestMap manifests)
  return {
    orderedManifests := orderedManifests
    orderedMigrations := orderedMigrations orderedManifests }

/-! ## What is accepted -/

theorem checkDuplicates_eq_ok {manifests : List FeatureManifest} {seen : List String}
    (hok : checkDuplicates manifests seen = .ok ()) :
    (manifests.map (·.id)).Nodup ∧ ∀ manifest ∈ manifests, manifest.id ∉ seen := by
  induction manifests generalizing seen with
  | nil => exact ⟨List.nodup_nil, fun _ hmem => nomatch hmem⟩
  | cons manifest rest ih =>
      rw [checkDuplicates] at hok
      split_ifs at hok with hseen
      obtain ⟨hnodup, hnew⟩ := ih hok
      refine ⟨List.nodup_cons.mpr ⟨?_, hnodup⟩, List.forall_mem_cons.mpr ⟨hseen, ?_⟩⟩
      · intro hmem
        obtain ⟨other, hother, hsame⟩ := List.mem_map.mp hmem
        exact hnew other hother (hsame ▸ List.mem_cons_self)
      · intro other hother hmem
        exact hnew other hother (List.mem_cons_of_mem _ hmem)

theorem checkMissing_eq_ok {manifests : List FeatureManifest}
    (hok : checkMissing manifests = .ok ()) {manifest : FeatureManifest}
    (hmem : manifest ∈ manifests) {depId : String} (hdep : depId ∈ manifest.dependencies) :
    (manifestMap manifests depId).isSome := by
  unfold checkMissing at hok
  dsimp only at hok
  split at hok
  · rename_i hnone
    rw [List.find?_eq_none] at hnone
    have hedge := hnone (manifest.id, depId)
      (List.mem_flatMap.mpr ⟨manifest, hmem, List.mem_map.mpr ⟨depId, hdep, rfl⟩⟩)
    rw [Option.isSome_iff_ne_none]
    simpa using hedge
  · cases hok

section Resolved

variable {manifests : List FeatureManifest}

variable {manifest : FeatureManifest}

theorem manifestMap_eq_some {id : String} (hfound : manifestMap manifests id = some manifest) :
    manifest ∈ manifests ∧ manifest.id = id := by
  unfold manifestMap at hfound
  exact ⟨List.mem_of_find?_eq_some hfound, by simpa using List.find?_some hfound⟩

theorem isSome_manifestMap_iff {id : String} :
    (manifestMap manifests id).isSome ↔ id ∈ manifests.map (·.id) := by
  simp [manifestMap, List.find?_isSome]

theorem eq_of_id_eq (hnodup : (manifests.map (·.id)).Nodup) {left right : FeatureManifest}
    (hleft : left ∈ manifests) (hright : right ∈ manifests) (hid : left.id = right.id) :
    left = right :=
  List.inj_on_of_nodup_map hnodup hleft hright hid

theorem manifestMap_id (hnodup : (manifests.map (·.id)).Nodup) (hmem : manifest ∈ manifests) :
    manifestMap manifests manifest.id = some manifest := by
  have hsome : (manifestMap manifests manifest.id).isSome :=
    isSome_manifestMap_iff.mpr (List.mem_map_of_mem hmem)
  obtain ⟨found, hfound⟩ := Option.isSome_iff_exists.mp hsome
  obtain ⟨hfoundMem, hid⟩ := manifestMap_eq_some hfound
  rw [hfound, eq_of_id_eq hnodup hfoundMem hmem hid]

def Requires (manifests : List FeatureManifest) (manifest dependency : FeatureManifest) :
    Prop :=
  dependency ∈ manifests ∧
    (dependency.id ∈ manifest.dependencies ∨
      dependency.id ∈ manifest.optionalDependencies.getD [])

structure Resolved (manifests : List FeatureManifest) (graph : ResolvedFeatureGraph) :
    Prop where
  ids_nodup : (graph.orderedManifests.map (·.id)).Nodup
  mem_iff : ∀ manifest, manifest ∈ graph.orderedManifests ↔ manifest ∈ manifests
  behind : ∀ before manifest after, graph.orderedManifests = before ++ manifest :: after →
    ∀ dependency, Requires manifests manifest dependency → dependency ∈ before
  migrations : graph.orderedMigrations = orderedMigrations graph.orderedManifests

theorem map_id_filterMap {order : List String}
    (hinstalled : ∀ id ∈ order, id ∈ manifests.map (·.id)) :
    (order.filterMap (manifestMap manifests)).map (·.id) = order := by
  induction order with
  | nil => rfl
  | cons id rest ih =>
      obtain ⟨hfirst, hrest⟩ := List.forall_mem_cons.mp hinstalled
      obtain ⟨manifest, hfound⟩ := Option.isSome_iff_exists.mp (isSome_manifestMap_iff.mpr hfirst)
      rw [List.filterMap_cons, hfound]
      dsimp only
      rw [List.map_cons, ih hrest, (manifestMap_eq_some hfound).2]

theorem dependencies_closed (hmissing : checkMissing manifests = .ok ()) :
    ∀ id ∈ manifests.map (·.id), ∀ depId ∈ dependencies manifests id,
      depId ∈ manifests.map (·.id) := by
  intro id _ depId hdep
  rw [← isSome_manifestMap_iff]
  unfold dependencies at hdep
  split at hdep
  · cases hdep
  · rename_i manifest hfound
    rcases List.mem_append.mp hdep with hhard | hoptional
    · exact checkMissing_eq_ok hmissing (manifestMap_eq_some hfound).1 hhard
    · exact (List.mem_filter.mp hoptional).2

theorem mem_dependencies (hnodup : (manifests.map (·.id)).Nodup) {dependency : FeatureManifest}
    (hmem : manifest ∈ manifests) (hrequires : Requires manifests manifest dependency) :
    dependency.id ∈ dependencies manifests manifest.id := by
  rw [dependencies, manifestMap_id hnodup hmem]
  rcases hrequires.2 with hhard | hoptional
  · exact List.mem_append_left _ hhard
  · refine List.mem_append_right _ (List.mem_filter.mpr ⟨hoptional, ?_⟩)
    exact isSome_manifestMap_iff.mpr (List.mem_map_of_mem hrequires.1)

theorem resolve_eq_ok {graph : ResolvedFeatureGraph} (hok : resolve manifests = .ok graph) :
    Resolved manifests graph := by
  unfold resolve at hok
  cases hduplicates : checkDuplicates manifests [] with
  | error error =>
      rw [hduplicates] at hok
      cases hok
  | ok _ =>
  rw [hduplicates] at hok
  cases hpermissions : checkPermissions (declaredPermissions manifests) [] with
  | error error =>
      rw [hpermissions] at hok
      cases hok
  | ok _ =>
  rw [hpermissions] at hok
  cases hmissing : checkMissing manifests with
  | error error =>
      rw [hmissing] at hok
      cases hok
  | ok _ =>
  rw [hmissing] at hok
  cases htraverse : DepthFirst.traverse (dependencies manifests) (manifests.map (·.id)) with
  | error cycle =>
      rw [htraverse] at hok
      cases hok
  | ok order =>
  rw [htraverse] at hok
  cases hok
  obtain ⟨hnodup, -⟩ := checkDuplicates_eq_ok hduplicates
  obtain ⟨horderNodup, horderMem, hordered⟩ :=
    DepthFirst.traverse_eq_ok (dependencies_closed hmissing) htraverse
  have hids := map_id_filterMap fun id hid => (horderMem id).mp hid
  have hmem : ∀ manifest,
      manifest ∈ order.filterMap (manifestMap manifests) ↔ manifest ∈ manifests := by
    intro manifest
    rw [List.mem_filterMap]
    constructor
    · rintro ⟨id, -, hfound⟩
      exact (manifestMap_eq_some hfound).1
    · intro hmanifest
      exact ⟨manifest.id, (horderMem _).mpr (List.mem_map_of_mem hmanifest),
        manifestMap_id hnodup hmanifest⟩
  refine ⟨?_, hmem, ?_, rfl⟩
  · rw [hids]
    exact horderNodup
  · intro before manifest after hsplit dependency hrequires
    dsimp only at hsplit
    have hmanifest : manifest ∈ manifests := by
      rw [← hmem, hsplit]
      simp
    have horder : order =
        before.map (·.id) ++ manifest.id :: after.map (·.id) := by
      rw [← hids, hsplit, List.map_append, List.map_cons]
    obtain ⟨found, hfound, hid⟩ := List.mem_map.mp
      (hordered _ _ _ horder _ (mem_dependencies hnodup hmanifest hrequires))
    have hfoundMem : found ∈ manifests := by
      rw [← hmem, hsplit]
      exact List.mem_append_left _ hfound
    exact eq_of_id_eq hnodup hfoundMem hrequires.1 hid ▸ hfound

end Resolved

example : (resolve
    [{ id := "a", dependencies := ["b"], migrations := [] },
     { id := "b", optionalDependencies := some ["c", "d"], migrations := [] },
     { id := "c", migrations := [] }]).map
      (fun graph => graph.orderedManifests.map (·.id)) = .ok ["c", "b", "a"] := by
  decide

end DependencyResolver
end TauriPlatform
