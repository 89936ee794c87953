import TauriPlatform.DepthFirstCycles
import TauriPlatform.DependencyResolver

/-!
# When a feature graph resolves

A list of features fails in four ways: an identifier is used twice, a permission is declared
twice, a hard dependency is not installed, or features depend on themselves.  All others
resolve, and the loops of the resolver end in any case.
-/

namespace TauriPlatform.DependencyResolver

variable {manifests : List FeatureManifest}

/-! ## The ways to fail -/

def Circular (manifests : List FeatureManifest) : Prop :=
  ∃ manifest ∈ manifests, Relation.TransGen (Requires manifests) manifest manifest

inductive Flawed (manifests : List FeatureManifest) : Prop
  | duplicateFeature (hids : ¬ (manifests.map (·.id)).Nodup)
  | duplicatePermission
      (hnames : ¬ ((manifests.flatMap (·.permissions)).map (·.name)).Nodup)
  | missing (manifest : FeatureManifest) (hmem : manifest ∈ manifests) (depId : String)
      (hdep : depId ∈ manifest.dependencies) (hmissing : depId ∉ manifests.map (·.id))
  | circular (hcircular : Circular manifests)

/-! ## The checks -/

def checks (manifests : List FeatureManifest) : Except Thrown Unit := do
  checkDuplicates manifests []
  checkPermissions (declaredPermissions manifests) []
  checkMissing manifests

theorem checkDuplicates_eq_ok_iff {seen : List String} :
    checkDuplicates manifests seen = .ok () ↔
      (manifests.map (·.id)).Nodup ∧ ∀ manifest ∈ manifests, manifest.id ∉ seen := by
  refine ⟨checkDuplicates_eq_ok, ?_⟩
  induction manifests generalizing seen with
  | nil => exact fun _ => rfl
  | cons manifest rest ih =>
      rintro ⟨hnodup, hnew⟩
      obtain ⟨hfirst, hrest⟩ := List.forall_mem_cons.mp hnew
      rw [List.map_cons, List.nodup_cons] at hnodup
      rw [checkDuplicates, if_neg hfirst]
      refine ih ⟨hnodup.2, ?_⟩
      intro other hother hmem
      rcases List.mem_cons.mp hmem with hsame | hseen
      · exact hnodup.1 (hsame ▸ List.mem_map_of_mem hother)
      · exact hrest other hother hseen

theorem lookup_filter_eq_none_iff {permissionOwners : List (String × String)}
    (hnamed : ∀ owner ∈ permissionOwners, owner.2 ≠ "") {permission : String} :
    (permissionOwners.lookup permission).filter (· ≠ "") = none ↔
      permission ∉ permissionOwners.map Prod.fst := by
  induction permissionOwners with
  | nil => simp
  | cons owner rest ih =>
      obtain ⟨hfirst, hrest⟩ := List.forall_mem_cons.mp hnamed
      rw [List.lookup_cons]
      by_cases hsame : permission = owner.1
      · simp [hsame, hfirst]
      · have hother : (permission == owner.1) = false := by simpa using hsame
        rw [hother, List.map_cons, List.mem_cons, or_iff_right hsame]
        exact ih hrest

theorem checkPermissions_eq_ok_iff {declared permissionOwners : List (String × String)}
    (hdeclared : ∀ owner ∈ declared, owner.2 ≠ "")
    (hnamed : ∀ owner ∈ permissionOwners, owner.2 ≠ "") :
    checkPermissions declared permissionOwners = .ok () ↔
      (declared.map Prod.fst).Nodup ∧
        ∀ permission ∈ declared.map Prod.fst, permission ∉ permissionOwners.map Prod.fst := by
  induction declared generalizing permissionOwners with
  | nil => simp [checkPermissions]
  | cons declaration rest ih =>
      obtain ⟨permission, id⟩ := declaration
      obtain ⟨hfirst, hrest⟩ := List.forall_mem_cons.mp hdeclared
      rw [checkPermissions, List.map_cons, List.nodup_cons, List.forall_mem_cons]
      have hiff : (permissionOwners.lookup permission).filter (· ≠ "") = none ↔
          permission ∉ permissionOwners.map Prod.fst := lookup_filter_eq_none_iff hnamed
      cases howner : (permissionOwners.lookup permission).filter (· ≠ "") with
      | some owner =>
          have howned : ¬ permission ∉ permissionOwners.map Prod.fst := by
            rw [← hiff, howner]
            exact nofun
          constructor
          · exact nofun
          · exact fun hall => absurd hall.2.1 howned
      | none =>
          have hfree := hiff.mp howner
          have hgrown : ∀ owner ∈ (permission, id) :: permissionOwners, owner.2 ≠ "" :=
            List.forall_mem_cons.mpr ⟨hfirst, hnamed⟩
          dsimp only
          rw [ih hrest hgrown]
          simp only [List.map_cons, List.mem_cons, not_or]
          constructor
          · rintro ⟨hnodup, hall⟩
            exact ⟨⟨fun hmem => (hall permission hmem).1 rfl, hnodup⟩, hfree,
              fun other hother => (hall other hother).2⟩
          · rintro ⟨⟨hnew, hnodup⟩, -, hall⟩
            exact ⟨hnodup, fun other hother =>
              ⟨fun hsame => hnew (hsame ▸ hother), hall other hother⟩⟩

theorem map_fst_declaredPermissions :
    (declaredPermissions manifests).map Prod.fst =
      (manifests.flatMap (·.permissions)).map (·.name) := by
  simp [declaredPermissions, List.map_flatMap, Function.comp_def]

theorem checkMissing_eq_ok_iff :
    checkMissing manifests = .ok () ↔
      ∀ manifest ∈ manifests, ∀ depId ∈ manifest.dependencies,
        depId ∈ manifests.map (·.id) := by
  constructor
  · intro hok manifest hmem depId hdep
    exact isSome_manifestMap_iff.mp (checkMissing_eq_ok hok hmem hdep)
  · intro hall
    have hnone : (manifests.flatMap fun manifest =>
        manifest.dependencies.map fun depId => (manifest.id, depId)).find?
          (fun edge => (manifestMap manifests edge.2).isNone) = none := by
      rw [List.find?_eq_none]
      intro edge hedge
      obtain ⟨manifest, hmem, hedge⟩ := List.mem_flatMap.mp hedge
      obtain ⟨depId, hdep, rfl⟩ := List.mem_map.mp hedge
      have hfound := isSome_manifestMap_iff.mpr (hall manifest hmem depId hdep)
      rw [Option.isNone_iff_eq_none, ← Option.not_isSome_iff_eq_none, not_not]
      exact hfound
    unfold checkMissing
    dsimp only
    rw [hnone]

theorem checks_eq_ok_iff (hnamed : ∀ manifest ∈ manifests, manifest.id ≠ "") :
    checks manifests = .ok () ↔
      (manifests.map (·.id)).Nodup ∧
      ((manifests.flatMap (·.permissions)).map (·.name)).Nodup ∧
      ∀ manifest ∈ manifests, ∀ depId ∈ manifest.dependencies,
        depId ∈ manifests.map (·.id) := by
  have hdeclared : ∀ owner ∈ declaredPermissions manifests, owner.2 ≠ "" := by
    intro owner howner
    obtain ⟨manifest, hmem, howner⟩ := List.mem_flatMap.mp howner
    obtain ⟨permission, -, rfl⟩ := List.mem_map.mp howner
    exact hnamed manifest hmem
  have hids : checkDuplicates manifests [] = .ok () ↔ _ := checkDuplicates_eq_ok_iff
  have hpermissions : checkPermissions (declaredPermissions manifests) [] = .ok () ↔ _ :=
    checkPermissions_eq_ok_iff hdeclared fun _ hmem => absurd hmem List.not_mem_nil
  rw [map_fst_declaredPermissions] at hpermissions
  simp only [List.not_mem_nil, not_false_eq_true, implies_true, List.map_nil, and_true]
    at hids hpermissions
  rw [← hids, ← hpermissions, ← checkMissing_eq_ok_iff]
  unfold checks
  cases checkDuplicates manifests [] with
  | error thrown => simp [Except.bind, bind]
  | ok _ =>
  cases checkPermissions (declaredPermissions manifests) [] with
  | error thrown => simp [Except.bind, bind]
  | ok _ => simp [Except.bind, bind]

/-! ## The graph -/

theorem leads_iff (hnodup : (manifests.map (·.id)).Nodup)
    (hmissing : checkMissing manifests = .ok ()) {manifest : FeatureManifest}
    (hmem : manifest ∈ manifests) {next : String} :
    DepthFirst.Leads (dependencies manifests) manifest.id next ↔
      ∃ dependency, Requires manifests manifest dependency ∧ dependency.id = next := by
  constructor
  · intro hleads
    obtain ⟨dependency, hdependency, rfl⟩ := List.mem_map.mp
      (dependencies_closed hmissing _ (List.mem_map_of_mem hmem) next hleads)
    refine ⟨dependency, ⟨hdependency, ?_⟩, rfl⟩
    rw [DepthFirst.Leads, dependencies, manifestMap_id hnodup hmem] at hleads
    exact (List.mem_append.mp hleads).imp_right fun hoptional => (List.mem_filter.mp hoptional).1
  · rintro ⟨dependency, hrequires, rfl⟩
    exact mem_dependencies hnodup hmem hrequires

theorem cyclic_iff (hnodup : (manifests.map (·.id)).Nodup)
    (hmissing : checkMissing manifests = .ok ()) :
    DepthFirst.Cyclic (dependencies manifests) (manifests.map (·.id)) ↔ Circular manifests := by
  constructor
  · rintro ⟨id, hid, hcycle⟩
    obtain ⟨manifest, hmem, rfl⟩ := List.mem_map.mp hid
    have hpath : ∀ {other : String},
        Relation.TransGen (DepthFirst.Leads (dependencies manifests)) manifest.id other →
          ∃ dependency ∈ manifests, dependency.id = other ∧
            Relation.TransGen (Requires manifests) manifest dependency := by
      intro other hpath
      induction hpath with
      | single hfirst =>
          obtain ⟨dependency, hrequires, rfl⟩ := (leads_iff hnodup hmissing hmem).mp hfirst
          exact ⟨dependency, hrequires.1, rfl, .single hrequires⟩
      | tail _ hlast ih =>
          obtain ⟨between, hbetween, rfl, hfeatures⟩ := ih
          obtain ⟨dependency, hrequires, rfl⟩ := (leads_iff hnodup hmissing hbetween).mp hlast
          exact ⟨dependency, hrequires.1, rfl, hfeatures.tail hrequires⟩
    obtain ⟨same, hsame, hid, hfeatures⟩ := hpath hcycle
    rw [eq_of_id_eq hnodup hsame hmem hid] at hfeatures
    exact ⟨manifest, hmem, hfeatures⟩
  · rintro ⟨manifest, hmem, hcycle⟩
    have hpath : ∀ {other : FeatureManifest},
        Relation.TransGen (Requires manifests) manifest other → other ∈ manifests ∧
          Relation.TransGen (DepthFirst.Leads (dependencies manifests)) manifest.id other.id := by
      intro other hpath
      induction hpath with
      | single hfirst => exact ⟨hfirst.1, .single (mem_dependencies hnodup hmem hfirst)⟩
      | tail _ hlast ih =>
          exact ⟨hlast.1, ih.2.tail (mem_dependencies hnodup ih.1 hlast)⟩
    exact ⟨manifest.id, List.mem_map_of_mem hmem, (hpath hcycle).2⟩

/-! ## The resolver -/

def resolved (manifests : List FeatureManifest) (traversed : Except (List String) (List String)) :
    Except Thrown ResolvedFeatureGraph := do
  let order ← traversed.mapError circularDependency
  let orderedManifests := order.filterMap (manifestMap manifests)
  return {
    orderedManifests := orderedManifests
    orderedMigrations := orderedMigrations orderedManifests }

/-- `resolve` with loops which go on until they end: no fuel, and no result without an end. -/
def Resolves (manifests : List FeatureManifest) (result : Except Thrown ResolvedFeatureGraph) :
    Prop :=
  match checks manifests with
  | .error thrown => result = .error thrown
  | .ok () => ∃ traversed,
      DepthFirst.Traverses (dependencies manifests) (manifests.map (·.id)) traversed ∧
        result = resolved manifests traversed

theorem resolve_eq :
    resolve manifests = (do
      checks manifests
      resolved manifests
        (DepthFirst.traverse (dependencies manifests) (manifests.map (·.id)))) := by
  unfold resolve checks
  cases checkDuplicates manifests [] with
  | error thrown => rfl
  | ok _ =>
  cases checkPermissions (declaredPermissions manifests) [] with
  | error thrown => rfl
  | ok _ => rfl

theorem checkMissing_of_checks (hchecks : checks manifests = .ok ()) :
    checkMissing manifests = .ok () := by
  unfold checks at hchecks
  cases hduplicates : checkDuplicates manifests [] with
  | error thrown =>
      rw [hduplicates] at hchecks
      cases hchecks
  | ok _ =>
  rw [hduplicates] at hchecks
  cases hpermissions : checkPermissions (declaredPermissions manifests) [] with
  | error thrown =>
      rw [hpermissions] at hchecks
      cases hchecks
  | ok _ =>
  rw [hpermissions] at hchecks
  exact hchecks

/-- The loops end, with the result of `resolve`. -/
theorem resolves_iff {result : Except Thrown ResolvedFeatureGraph} :
    Resolves manifests result ↔ result = resolve manifests := by
  rw [Resolves, resolve_eq]
  cases hchecks : checks manifests with
  | error thrown => exact Iff.rfl
  | ok _ =>
      have hclosed := dependencies_closed (checkMissing_of_checks hchecks)
      simp only [DepthFirst.traverses_iff hclosed, exists_eq_left]
      rfl

/-- `resolve` throws for the flawed lists of features. -/
theorem resolve_error_iff (hnamed : ∀ manifest ∈ manifests, manifest.id ≠ "") :
    (∃ thrown, resolve manifests = .error thrown) ↔ Flawed manifests := by
  have hpass := checks_eq_ok_iff hnamed
  rw [resolve_eq]
  cases hchecks : checks manifests with
  | error thrown =>
      refine ⟨fun _ => ?_, fun _ => ⟨thrown, rfl⟩⟩
      by_contra hsound
      have hok : checks manifests = .ok () := by
        refine hpass.mpr ⟨?_, ?_, ?_⟩
        · exact not_not.mp fun hids => hsound (.duplicateFeature hids)
        · exact not_not.mp fun hnames => hsound (.duplicatePermission hnames)
        · intro manifest hmem depId hdep
          exact not_not.mp fun hmissing => hsound (.missing manifest hmem depId hdep hmissing)
      rw [hchecks] at hok
      cases hok
  | ok _ =>
      obtain ⟨hnodup, hnames, hinstalled⟩ := hpass.mp hchecks
      have hmissing := checkMissing_of_checks hchecks
      have htraverse := DepthFirst.exists_traverse_error_iff (dependencies_closed hmissing)
      rw [cyclic_iff hnodup hmissing] at htraverse
      have hresolved : (∃ thrown, resolved manifests
          (DepthFirst.traverse (dependencies manifests) (manifests.map (·.id))) =
            .error thrown) ↔ Circular manifests := by
        rw [← htraverse]
        unfold resolved
        cases DepthFirst.traverse (dependencies manifests) (manifests.map (·.id)) with
        | error cycle =>
            exact ⟨fun _ => ⟨cycle, rfl⟩, fun _ => ⟨circularDependency cycle, rfl⟩⟩
        | ok order =>
            constructor
            · rintro ⟨thrown, herror⟩
              cases herror
            · rintro ⟨cycle, herror⟩
              cases herror
      refine hresolved.trans ⟨.circular, ?_⟩
      intro hflawed
      cases hflawed with
      | duplicateFeature hids => exact absurd hnodup hids
      | duplicatePermission hrepeated => exact absurd hnames hrepeated
      | missing manifest hmem depId hdep habsent =>
          exact absurd (hinstalled manifest hmem depId hdep) habsent
      | circular hcircular => exact hcircular

theorem Resolved.perm {graph : ResolvedFeatureGraph} (hresolved : Resolved manifests graph)
    (hnodup : (manifests.map (·.id)).Nodup) : graph.orderedManifests.Perm manifests :=
  (List.perm_ext_iff_of_nodup hresolved.ids_nodup.of_map hnodup.of_map).mpr hresolved.mem_iff

structure Ascending (migrations sorted : List MigrationDefinition) : Prop where
  perm : sorted.Perm migrations
  ordered : sorted.Pairwise fun left right => left.version ≤ right.version

theorem ascending_insertionSort (migrations : List MigrationDefinition) :
    Ascending migrations
      (migrations.insertionSort fun left right => left.version ≤ right.version) := by
  refine ⟨List.perm_insertionSort _ _, ?_⟩
  have : Std.Total fun left right : MigrationDefinition => left.version ≤ right.version :=
    ⟨fun left right => le_total left.version right.version⟩
  have : IsTrans MigrationDefinition fun left right => left.version ≤ right.version :=
    ⟨fun _ _ _ => le_trans⟩
  exact List.pairwise_insertionSort _ _

/-- `resolve` ends, throws exactly for the flawed lists of features, and brings all others into
an order of their dependencies, with the migrations along. -/
theorem resolve_correct (manifests : List FeatureManifest)
    (hnamed : ∀ manifest ∈ manifests, manifest.id ≠ "") :
    (∀ result, Resolves manifests result ↔ result = resolve manifests) ∧
    ((∃ thrown, resolve manifests = .error thrown) ↔ Flawed manifests) ∧
    ∀ graph, resolve manifests = .ok graph →
      graph.orderedManifests.Perm manifests ∧
      (∀ before manifest after, graph.orderedManifests = before ++ manifest :: after →
        ∀ dependency, Requires manifests manifest dependency → dependency ∈ before) ∧
      ∃ sorted : FeatureManifest → List MigrationDefinition,
        (∀ manifest, Ascending manifest.migrations (sorted manifest)) ∧
        graph.orderedMigrations = graph.orderedManifests.flatMap fun manifest =>
          (sorted manifest).map fun migration => (manifest.id, migration) := by
  refine ⟨fun result => resolves_iff, resolve_error_iff hnamed, ?_⟩
  intro graph hgraph
  have hresolved := resolve_eq_ok hgraph
  have hnodup : (manifests.map (·.id)).Nodup := by
    by_contra hids
    obtain ⟨thrown, hthrown⟩ := (resolve_error_iff hnamed).mpr (.duplicateFeature hids)
    rw [hgraph] at hthrown
    cases hthrown
  exact ⟨hresolved.perm hnodup, hresolved.behind, _,
    fun manifest => ascending_insertionSort manifest.migrations, hresolved.migrations⟩

def installedFeatures : List FeatureManifest :=
  [{ id := "a", optionalDependencies := some ["b", "c"], migrations := [⟨1, "first", "", ""⟩] },
   { id := "b", migrations := [⟨2, "later", "", ""⟩, ⟨1, "first", "", ""⟩] }]

theorem resolve_correct_installedFeatures :
    ∃ graph, resolve installedFeatures = .ok graph ∧
      graph.orderedManifests.Perm installedFeatures := by
  have hcorrect := resolve_correct installedFeatures (by decide)
  cases hresolve : resolve installedFeatures with
  | error thrown =>
      have hok : (resolve installedFeatures).isOk = true := by decide +kernel
      rw [hresolve] at hok
      cases hok
  | ok graph => exact ⟨graph, rfl, (hcorrect.2.2 graph hresolve).1⟩

end TauriPlatform.DependencyResolver
