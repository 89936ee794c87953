import TauriPlatform.CoreMigrations
import TauriPlatform.DependencyResolver
import TauriPlatform.MigrationOutcome

/-!
# The migrations of a start

`Platform.init` applies the core migrations and then those of each feature, in the order of
the resolver.  The migrations of a feature are one call of the engine, under an owner of
their own.
-/

namespace TauriPlatform

open Async Relational MigrationEngine DependencyResolver

def featureOwner (featureId : String) : String :=
  s!"feature.{featureId}"

def featureScript (featureId : String) (migration : MigrationDefinition) : MigrationScript where
  version := .finite (.integer migration.version)
  name := migration.name
  sql := migration.sql
  checksum := migration.checksum
  owner := some (featureOwner featureId)

/-- `group.push(script)` in the group of an owner; a new group comes last. -/
def pushToGroup (owner : String) (script : MigrationScript) :
    List (String × List MigrationScript) → List (String × List MigrationScript)
  | [] => [(owner, [script])]
  | (key, group) :: rest =>
      if key = owner then (key, group ++ [script]) :: rest
      else (key, group) :: pushToGroup owner script rest

def migrationsByFeature (orderedMigrations : List (String × MigrationDefinition)) :
    List (String × List MigrationScript) :=
  orderedMigrations.foldl (fun groups entry =>
    pushToGroup (featureOwner entry.1) (featureScript entry.1 entry.2) groups) []

variable {Schema : Type}

def applyGroups (execute : ScriptExecution Schema) (collation : Collation)
    (readings : Nat → Nat → ClockReading) : Nat → List (List MigrationScript) →
      Program (DbCall (MigrationDatabase Schema)) Thrown Unit
  | _, [] => pure ()
  | call, scripts :: rest => do
      let _ ← applyMigrations execute collation (readings call) scripts
      applyGroups execute collation readings (call + 1) rest

/-- The migrations of `Platform.init`. -/
def Platform.migrate (execute : ScriptExecution Schema) (collation : Collation)
    (readings : Nat → Nat → ClockReading) (manifests : List FeatureManifest) :
    Program (DbCall (MigrationDatabase Schema)) Thrown Unit := do
  ensureMigrationTable
  let graph ← Program.ofExcept (resolve manifests)
  let _ ← applyMigrations execute collation (readings 0) coreMigrations
  applyGroups execute collation readings 1
    ((migrationsByFeature graph.orderedMigrations).map (·.2))

/-! ## Owners -/

theorem featureOwner_toList (featureId : String) :
    (featureOwner featureId).toList = "feature.".toList ++ featureId.toList := by
  change ("feature." ++ featureId).toList = _
  rw [String.toList_append]

theorem featureOwner_inj {left right : String} :
    featureOwner left = featureOwner right ↔ left = right := by
  constructor
  · intro hsame
    have htoList := congrArg String.toList hsame
    rw [featureOwner_toList, featureOwner_toList, List.append_cancel_left_eq] at htoList
    exact String.toList_injective htoList
  · rintro rfl
    rfl

theorem featureOwner_ne_platform (featureId : String) : featureOwner featureId ≠ "platform" := by
  intro hsame
  have htoList := congrArg String.toList hsame
  rw [featureOwner_toList] at htoList
  simp at htoList

/-! ## Groups -/

def sortedMigrations (manifest : FeatureManifest) : List MigrationDefinition :=
  manifest.migrations.insertionSort fun left right => left.version ≤ right.version

theorem sortedMigrations_perm (manifest : FeatureManifest) :
    (sortedMigrations manifest).Perm manifest.migrations :=
  List.perm_insertionSort _ _

def featureScripts (manifest : FeatureManifest) : List MigrationScript :=
  (sortedMigrations manifest).map (featureScript manifest.id)

def featureGroups (manifests : List FeatureManifest) : List (String × List MigrationScript) :=
  (manifests.filter fun manifest => manifest.migrations ≠ []).map fun manifest =>
    (featureOwner manifest.id, featureScripts manifest)

variable {groups : List (String × List MigrationScript)}

theorem pushToGroup_of_not_mem {owner : String} (hnew : owner ∉ groups.map Prod.fst)
    (script : MigrationScript) :
    pushToGroup owner script groups = groups ++ [(owner, [script])] := by
  induction groups with
  | nil => rfl
  | cons group rest ih =>
      rw [List.map_cons, List.mem_cons, not_or] at hnew
      rw [pushToGroup, if_neg fun hsame => hnew.1 hsame.symm, ih hnew.2, List.cons_append]

theorem pushToGroup_append {owner : String} (hnew : owner ∉ groups.map Prod.fst)
    (group : List MigrationScript) (script : MigrationScript) :
    pushToGroup owner script (groups ++ [(owner, group)]) =
      groups ++ [(owner, group ++ [script])] := by
  induction groups with
  | nil => simp [pushToGroup]
  | cons first rest ih =>
      rw [List.map_cons, List.mem_cons, not_or] at hnew
      rw [List.cons_append, pushToGroup, if_neg fun hsame => hnew.1 hsame.symm, ih hnew.2,
        List.cons_append]

theorem foldl_pushToGroup {featureId : String}
    (hnew : featureOwner featureId ∉ groups.map Prod.fst) (group : List MigrationScript)
    (migrations : List MigrationDefinition) :
    migrations.foldl (fun groups migration =>
        pushToGroup (featureOwner featureId) (featureScript featureId migration) groups)
        (groups ++ [(featureOwner featureId, group)]) =
      groups ++ [(featureOwner featureId, group ++ migrations.map (featureScript featureId))] := by
  induction migrations generalizing group with
  | nil => simp
  | cons migration rest ih =>
      rw [List.foldl_cons, pushToGroup_append hnew, ih]
      simp

theorem foldl_feature {manifest : FeatureManifest}
    (hnew : featureOwner manifest.id ∉ groups.map Prod.fst) :
    ((sortedMigrations manifest).map fun migration => (manifest.id, migration)).foldl
        (fun groups entry =>
          pushToGroup (featureOwner entry.1) (featureScript entry.1 entry.2) groups) groups =
      groups ++ featureGroups [manifest] := by
  rw [List.foldl_map]
  cases hsorted : sortedMigrations manifest with
  | nil =>
      have hnone : manifest.migrations = [] := by
        have hperm := sortedMigrations_perm manifest
        rw [hsorted] at hperm
        exact hperm.nil_eq.symm
      simp [featureGroups, hnone]
  | cons migration rest =>
      have hsome : manifest.migrations ≠ [] := by
        intro hnone
        rw [sortedMigrations, hnone] at hsorted
        cases hsorted
      rw [List.foldl_cons, pushToGroup_of_not_mem hnew]
      have hrest := foldl_pushToGroup hnew [featureScript manifest.id migration] rest
      rw [hrest]
      simp [featureGroups, hsome, featureScripts, hsorted]

theorem migrationsByFeature_eq {manifests : List FeatureManifest}
    (hnodup : (manifests.map (·.id)).Nodup) :
    migrationsByFeature (orderedMigrations manifests) = featureGroups manifests := by
  have hfold : ∀ (rest : List FeatureManifest) (groups : List (String × List MigrationScript)),
      (rest.map (·.id)).Nodup →
      (∀ manifest ∈ rest, featureOwner manifest.id ∉ groups.map Prod.fst) →
        (orderedMigrations rest).foldl (fun groups entry =>
          pushToGroup (featureOwner entry.1) (featureScript entry.1 entry.2) groups) groups =
            groups ++ featureGroups rest := by
    intro rest
    induction rest with
    | nil => simp [orderedMigrations, featureGroups]
    | cons manifest rest ih =>
        intro groups hids hfresh
        obtain ⟨hdistinct, hrest⟩ := List.nodup_cons.mp hids
        obtain ⟨hnew, hlater⟩ := List.forall_mem_cons.mp hfresh
        have happend : featureGroups (manifest :: rest) =
            featureGroups [manifest] ++ featureGroups rest := by
          rw [featureGroups, featureGroups, featureGroups, ← List.map_append, ← List.filter_append,
            List.singleton_append]
        have hfirst := foldl_feature hnew
        rw [sortedMigrations] at hfirst
        rw [orderedMigrations, List.flatMap_cons, List.foldl_append, hfirst, happend,
          ← List.append_assoc]
        refine ih _ hrest ?_
        intro other hother
        rw [List.map_append, List.mem_append, not_or]
        refine ⟨hlater other hother, ?_⟩
        intro hmem
        obtain ⟨group, hgroup, hsame⟩ := List.mem_map.mp hmem
        obtain ⟨found, hfound, rfl⟩ := List.mem_map.mp hgroup
        rw [List.mem_singleton.mp (List.mem_filter.mp hfound).1, featureOwner_inj] at hsame
        exact hdistinct (List.mem_map.mpr ⟨other, hother, hsame.symm⟩)
  have hall := hfold manifests [] hnodup (by simp)
  rwa [List.nil_append] at hall

/-! ## The order of a start -/

def coreVersions : List Int :=
  [1, 2, 3, 4, 5, 6, 7, 8]

def coreKeys : List MigrationKey :=
  coreVersions.map fun version => ("platform", version)

def featureKeys (manifest : FeatureManifest) : List MigrationKey :=
  (sortedMigrations manifest).map fun migration => (featureOwner manifest.id, migration.version)

def migrationOrder (graph : ResolvedFeatureGraph) : List MigrationKey :=
  coreKeys ++ graph.orderedMigrations.map fun entry =>
    (featureOwner entry.1, entry.2.version)

theorem migrationOrder_eq {manifests : List FeatureManifest} {graph : ResolvedFeatureGraph}
    (hresolved : Resolved manifests graph) :
    migrationOrder graph = coreKeys ++ graph.orderedManifests.flatMap featureKeys := by
  rw [migrationOrder, hresolved.migrations, orderedMigrations, List.map_flatMap]
  congr 1
  apply List.flatMap_congr
  intro manifest _
  rw [List.map_map]
  rfl

theorem sortedMigrations_pairwise (manifest : FeatureManifest) :
    (sortedMigrations manifest).Pairwise fun left right => left.version ≤ right.version := by
  have htotal : Std.Total fun left right : MigrationDefinition =>
      left.version ≤ right.version := ⟨fun left right => le_total left.version right.version⟩
  have htrans : IsTrans MigrationDefinition fun left right => left.version ≤ right.version :=
    ⟨fun _ _ _ => le_trans⟩
  exact List.pairwise_insertionSort _ _

theorem owner_of_mem_featureKeys {manifest : FeatureManifest} {key : MigrationKey}
    (hmem : key ∈ featureKeys manifest) : key.1 = featureOwner manifest.id := by
  obtain ⟨migration, -, rfl⟩ := List.mem_map.mp hmem
  rfl

theorem owner_of_mem_coreKeys {key : MigrationKey} (hmem : key ∈ coreKeys) :
    key.1 = "platform" := by
  obtain ⟨version, -, rfl⟩ := List.mem_map.mp hmem
  rfl

section Runs

variable {execute : ScriptExecution Schema} {collation : Collation}
  {before after : MigrationDatabase Schema}

theorem coreMigrations_ofOwner :
    List.Forall₂ (OfOwner "platform") coreMigrations coreVersions := by
  have hcore : ∀ {version : Int} {name checksum sql : String},
      OfOwner "platform" (coreMigration version name checksum sql) version :=
    ⟨rfl, rfl⟩
  unfold coreMigrations coreVersions
  simp only [List.forall₂_cons, hcore, true_and, List.forall₂_nil_left_iff]

theorem featureScripts_ofOwner (manifest : FeatureManifest) :
    List.Forall₂ (OfOwner (featureOwner manifest.id)) (featureScripts manifest)
      ((sortedMigrations manifest).map (·.version)) := by
  rw [featureScripts, List.forall₂_map_left_iff, List.forall₂_map_right_iff,
    List.forall₂_same]
  exact fun _ _ => ⟨rfl, rfl⟩

theorem applyMigrations_core {readings : Nat → ClockReading} {outcome : Except Thrown Nat}
    (hrun : (applyMigrations execute collation readings coreMigrations).Outcome
      (fallible memoryConnection) before outcome after) :
    Advanced coreKeys before after (∃ count, outcome = .ok count) :=
  applyMigrations_advanced coreMigrations_ofOwner (by decide) (by decide) hrun

theorem applyMigrations_feature {readings : Nat → ClockReading} {manifest : FeatureManifest}
    (hne : manifest.migrations ≠ []) {outcome : Except Thrown Nat}
    (hrun : (applyMigrations execute collation readings (featureScripts manifest)).Outcome
      (fallible memoryConnection) before outcome after) :
    Advanced (featureKeys manifest) before after (∃ count, outcome = .ok count) := by
  have hversions : (sortedMigrations manifest).map (·.version) ≠ [] := by
    rw [Ne, List.map_eq_nil_iff]
    intro hnil
    have hperm := sortedMigrations_perm manifest
    rw [hnil] at hperm
    exact hne hperm.nil_eq.symm
  have hadvanced := applyMigrations_advanced (featureScripts_ofOwner manifest)
    (List.pairwise_map.mpr (sortedMigrations_pairwise manifest)) hversions hrun
  rwa [List.map_map] at hadvanced

theorem applyGroups_advanced {readings : Nat → Nat → ClockReading} {call : Nat}
    {manifests : List FeatureManifest} (hnodup : (manifests.map (·.id)).Nodup)
    {outcome : Except Thrown Unit}
    (hrun : (applyGroups execute collation readings call
      ((featureGroups manifests).map (·.2))).Outcome (fallible memoryConnection) before outcome
        after) :
    Advanced (manifests.flatMap featureKeys) before after (outcome = .ok ()) := by
  induction manifests generalizing call before with
  | nil =>
      obtain ⟨rfl, rfl⟩ := hrun
      exact ⟨[], [], rfl, by simp, by simp⟩
  | cons manifest rest ih =>
      obtain ⟨hdistinct, hrest⟩ := List.nodup_cons.mp hnodup
      have hdisjoint : ∀ key ∈ rest.flatMap featureKeys, key ∉ featureKeys manifest := by
        intro key hkey hmem
        obtain ⟨other, hother, hotherKey⟩ := List.mem_flatMap.mp hkey
        have howner := (owner_of_mem_featureKeys hotherKey).symm.trans
          (owner_of_mem_featureKeys hmem)
        rw [featureOwner_inj] at howner
        exact hdistinct (List.mem_map.mpr ⟨other, hother, howner⟩)
      rw [List.flatMap_cons]
      by_cases hnone : manifest.migrations = []
      · have hgroups : featureGroups (manifest :: rest) = featureGroups rest := by
          simp [featureGroups, hnone]
        have hkeys : featureKeys manifest = [] := by
          simp [featureKeys, sortedMigrations, hnone]
        rw [hgroups] at hrun
        rw [hkeys, List.nil_append]
        exact ih hrest hrun
      · have hgroups : (featureGroups (manifest :: rest)).map (·.2) =
            featureScripts manifest :: (featureGroups rest).map (·.2) := by
          simp [featureGroups, hnone]
        rw [hgroups, applyGroups, Program.outcome_bind] at hrun
        rcases hrun with ⟨count, between, hfirst, hnext⟩ | ⟨error, hfirst, rfl⟩
        · have hfeature := applyMigrations_feature hnone hfirst
          refine Advanced.append ?_ (ih hrest hnext) hdisjoint
          simpa using hfeature
        · have hfeature := applyMigrations_feature hnone hfirst
          have hstopped : Advanced (featureKeys manifest) before after False := by
            simpa using hfeature
          simpa using hstopped.stop (rest.flatMap featureKeys)

theorem migrate_advanced {readings : Nat → Nat → ClockReading}
    {manifests : List FeatureManifest} {graph : ResolvedFeatureGraph}
    (hresolve : resolve manifests = .ok graph) {outcome : Except Thrown Unit}
    (hrun : (Platform.migrate execute collation readings manifests).Outcome
      (fallible memoryConnection) before outcome after) :
    Advanced (migrationOrder graph) before after (outcome = .ok ()) := by
  have hresolved := resolve_eq_ok hresolve
  have hcore : coreKeys ≠ [] := by decide
  rw [migrationOrder_eq hresolved]
  unfold Platform.migrate at hrun
  rw [Program.outcome_bind] at hrun
  rcases hrun with ⟨_, now, hensure, hrun⟩ | ⟨error, hensure, rfl⟩
  case inr =>
    obtain rfl := ensureMigrationTable_outcome hensure
    simpa using (Advanced.none coreKeys hcore after).stop
      (graph.orderedManifests.flatMap featureKeys)
  obtain rfl := ensureMigrationTable_outcome hensure
  rw [hresolve, Program.outcome_bind] at hrun
  rcases hrun with ⟨graph', now, ⟨hsame, rfl⟩, hrun⟩ | ⟨error, ⟨herror, -⟩, -⟩
  case inr => cases herror
  cases hsame
  rw [Program.outcome_bind] at hrun
  rcases hrun with ⟨count, between, hfirst, hrun⟩ | ⟨error, hfirst, rfl⟩
  case inr =>
    have hstopped : Advanced coreKeys now after False := by
      simpa using applyMigrations_core hfirst
    simpa using hstopped.stop (graph.orderedManifests.flatMap featureKeys)
  rw [hresolved.migrations, migrationsByFeature_eq hresolved.ids_nodup] at hrun
  have hsettled : Advanced coreKeys now between True := by
    simpa using applyMigrations_core hfirst
  refine hsettled.append (applyGroups_advanced hresolved.ids_nodup hrun) ?_
  intro key hkey hmem
  obtain ⟨manifest, -, hmanifest⟩ := List.mem_flatMap.mp hkey
  exact featureOwner_ne_platform manifest.id
    ((owner_of_mem_featureKeys hmanifest).symm.trans (owner_of_mem_coreKeys hmem))

end Runs
end TauriPlatform
