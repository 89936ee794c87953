import TauriPlatform.PlatformMigrations

/-!
# The order of a start

What a start records is a part of its order, so a migration of a feature comes behind the
core migrations and behind those of the features which this one needs.
-/

namespace TauriPlatform

open Async Relational MigrationEngine DependencyResolver

/-! ## Positions in the order -/

theorem flatMap_split {α β : Type} {f : α → List β} {items : List α} {front back : List β}
    {b : β} (hsplit : items.flatMap f = front ++ b :: back) :
    ∃ before item after head tail, items = before ++ item :: after ∧
      f item = head ++ b :: tail ∧ front = before.flatMap f ++ head := by
  induction items generalizing front with
  | nil => simp at hsplit
  | cons first rest ih =>
      rw [List.flatMap_cons] at hsplit
      rcases List.append_eq_append_iff.mp hsplit with ⟨middle, rfl, hrest⟩ | ⟨middle, hfirst, hback⟩
      · obtain ⟨before, item, after, head, tail, rfl, hitem, rfl⟩ := ih hrest
        exact ⟨first :: before, item, after, head, tail, rfl, hitem,
          by rw [List.flatMap_cons, List.append_assoc]⟩
      · cases middle with
        | nil =>
            have hrest : rest.flatMap f = [] ++ b :: back := hback.symm
            obtain ⟨before, item, after, head, tail, rfl, hitem, hnil⟩ := ih hrest
            rw [List.append_nil] at hfirst
            rw [← hfirst]
            exact ⟨first :: before, item, after, head, tail, rfl, hitem, by
              rw [List.flatMap_cons, List.append_assoc, ← hnil, List.append_nil]⟩
        | cons c middle =>
            rw [List.cons_append, List.cons.injEq] at hback
            obtain ⟨rfl, -⟩ := hback
            exact ⟨[], first, rest, front, middle, rfl, hfirst, rfl⟩

section Order

variable {manifests : List FeatureManifest} {graph : ResolvedFeatureGraph}
  {manifest : FeatureManifest} {version : Int} {front back : List MigrationKey}

theorem front_of_feature (hresolved : Resolved manifests graph) (hmem : manifest ∈ manifests)
    (horder : migrationOrder graph = front ++ (featureOwner manifest.id, version) :: back) :
    ∃ before after head tail,
      graph.orderedManifests = before ++ manifest :: after ∧
        featureKeys manifest = head ++ (featureOwner manifest.id, version) :: tail ∧
          front = coreKeys ++ (before.flatMap featureKeys ++ head) := by
  rw [migrationOrder_eq hresolved] at horder
  have hbehind : ∃ middle, front = coreKeys ++ middle ∧
      graph.orderedManifests.flatMap featureKeys =
        middle ++ (featureOwner manifest.id, version) :: back := by
    rcases List.append_eq_append_iff.mp horder with ⟨middle, hfront, hrest⟩ | ⟨middle, hcore, hrest⟩
    · exact ⟨middle, hfront, hrest⟩
    · cases middle with
      | nil =>
          rw [List.append_nil] at hcore
          exact ⟨[], by rw [hcore, List.append_nil], by simpa using hrest.symm⟩
      | cons key middle =>
          rw [List.cons_append, List.cons.injEq] at hrest
          have hkey : (featureOwner manifest.id, version) ∈ coreKeys := by
            rw [hcore, hrest.1]
            simp
          exact absurd (owner_of_mem_coreKeys hkey) (featureOwner_ne_platform manifest.id)
  obtain ⟨middle, hfront, hfeatures⟩ := hbehind
  obtain ⟨before, found, after, head, tail, hsplit, hkeys, rfl⟩ := flatMap_split hfeatures
  have hsame : found = manifest := by
    have hkey : (featureOwner manifest.id, version) ∈ featureKeys found := by
      rw [hkeys]
      simp
    have hid := featureOwner_inj.mp (owner_of_mem_featureKeys hkey)
    have hfound : found ∈ graph.orderedManifests := by
      rw [hsplit]
      simp
    exact eq_of_id_eq hresolved.ids_nodup hfound ((hresolved.mem_iff manifest).mpr hmem) hid.symm
  subst hsame
  exact ⟨before, after, head, tail, hsplit, hkeys, hfront⟩

theorem coreKeys_in_front (hresolved : Resolved manifests graph) (hmem : manifest ∈ manifests)
    (horder : migrationOrder graph = front ++ (featureOwner manifest.id, version) :: back) :
    ∀ key ∈ coreKeys, key ∈ front := by
  obtain ⟨before, after, head, tail, -, -, rfl⟩ := front_of_feature hresolved hmem horder
  exact fun key hkey => List.mem_append_left _ hkey

theorem dependency_in_front (hresolved : Resolved manifests graph) (hmem : manifest ∈ manifests)
    (horder : migrationOrder graph = front ++ (featureOwner manifest.id, version) :: back)
    {dependency : FeatureManifest} (hrequires : Requires manifests manifest dependency) :
    ∀ key ∈ featureKeys dependency, key ∈ front := by
  obtain ⟨before, after, head, tail, hsplit, -, rfl⟩ :=
    front_of_feature hresolved hmem horder
  intro key hkey
  have hbefore := hresolved.behind _ _ _ hsplit _ hrequires
  exact List.mem_append_right _
    (List.mem_append_left _ (List.mem_flatMap.mpr ⟨dependency, hbefore, hkey⟩))

theorem version_le_of_in_front (hresolved : Resolved manifests graph)
    (hmem : manifest ∈ manifests)
    (horder : migrationOrder graph = front ++ (featureOwner manifest.id, version) :: back)
    {earlier : Int} (hearlier : (featureOwner manifest.id, earlier) ∈ front) :
    earlier ≤ version := by
  obtain ⟨before, after, head, tail, hsplit, hkeys, rfl⟩ :=
    front_of_feature hresolved hmem horder
  rcases List.mem_append.mp hearlier with hcore | hfeature
  · exact absurd (owner_of_mem_coreKeys hcore) (featureOwner_ne_platform manifest.id)
  rcases List.mem_append.mp hfeature with hother | hsame
  · obtain ⟨other, hotherMem, hotherKey⟩ := List.mem_flatMap.mp hother
    have hid := featureOwner_inj.mp (owner_of_mem_featureKeys hotherKey)
    have hnodup := hresolved.ids_nodup
    rw [hsplit, List.map_append, List.map_cons] at hnodup
    have hdisjoint := (List.nodup_append'.mp hnodup).2.2
    exact absurd List.mem_cons_self
      (hdisjoint (List.mem_map.mpr ⟨other, hotherMem, hid.symm⟩))
  · have hsorted : (featureKeys manifest).Pairwise fun left right => left.2 ≤ right.2 :=
      List.pairwise_map.mpr (sortedMigrations_pairwise manifest)
    rw [hkeys, List.pairwise_append] at hsorted
    exact hsorted.2.2 _ hsame _ List.mem_cons_self

end Order

/-! ## What a start records -/

section Start

variable {Schema : Type} {before after : MigrationDatabase Schema}

theorem front_recorded {completed news rest : List MigrationKey} {order : List MigrationKey}
    (hsplit : order = completed ++ rest)
    (hnews : news = completed.filter fun key => key ∉ historyKeys before)
    {earlier later : List MigrationKey} {key : MigrationKey}
    (hkey : news = earlier ++ key :: later) :
    ∃ front back, order = front ++ key :: back ∧
      (∀ other ∈ earlier, other ∈ front) ∧
        ∀ other ∈ front, other ∈ historyKeys before ++ earlier := by
  rw [hnews, List.filter_eq_append_iff] at hkey
  obtain ⟨first, second, rfl, hearlier, hlater⟩ := hkey
  rw [List.filter_eq_cons_iff] at hlater
  obtain ⟨skipped, tail, rfl, hskipped, -, -⟩ := hlater
  refine ⟨first ++ skipped, tail ++ rest, by simp [hsplit], ?_, ?_⟩
  · intro other hother
    rw [← hearlier] at hother
    exact List.mem_append_left _ (List.mem_filter.mp hother).1
  intro other hother
  by_cases hrecorded : other ∈ historyKeys before
  · exact List.mem_append_left _ hrecorded
  · refine List.mem_append_right _ ?_
    rcases List.mem_append.mp hother with hfirst | hsecond
    · rw [← hearlier, List.mem_filter]
      exact ⟨hfirst, by simpa using hrecorded⟩
    · exact absurd (by simpa using hrecorded) (hskipped other hsecond)

structure DependenciesFirst (manifests : List FeatureManifest) (graph : ResolvedFeatureGraph)
    (before after : MigrationDatabase Schema) (outcome : Except Thrown Unit)
    (news : List MigrationKey) : Prop where
  history : historyKeys after = historyKeys before ++ news
  /-- Core migrations, the migrations of the dependencies and the lower versions come first. -/
  behind : ∀ manifest ∈ manifests, ∀ version earlier later,
    news = earlier ++ (featureOwner manifest.id, version) :: later →
      (∀ key ∈ coreKeys, key ∈ historyKeys before ++ earlier) ∧
      (∀ dependency, Requires manifests manifest dependency →
        ∀ migration ∈ dependency.migrations,
          (featureOwner dependency.id, migration.version) ∈ historyKeys before ++ earlier) ∧
      ∀ lower, (featureOwner manifest.id, lower) ∈ earlier → lower < version
  /-- Where the start fails, the rest of the order has been left alone. -/
  stops : ∃ completed rest, migrationOrder graph = completed ++ rest ∧
    news = completed.filter (fun key => key ∉ historyKeys before) ∧
    (rest = [] ↔ outcome = .ok ())

theorem DependenciesFirst.of_advanced {manifests : List FeatureManifest}
    {graph : ResolvedFeatureGraph} (hresolved : Resolved manifests graph)
    {outcome : Except Thrown Unit}
    (hadvanced : Advanced (migrationOrder graph) before after (outcome = .ok ())) :
    ∃ news, DependenciesFirst manifests graph before after outcome news := by
  obtain ⟨completed, rest, hsplit, hkeys, hrest⟩ := hadvanced
  refine ⟨_, hkeys, ?_, completed, rest, hsplit, rfl, hrest⟩
  intro manifest hmanifest version earlier later hnews
  obtain ⟨front, back, horder, hearlier, hfront⟩ := front_recorded hsplit rfl hnews
  refine ⟨fun key hkey => hfront key (coreKeys_in_front hresolved hmanifest horder key hkey),
    ?_, ?_⟩
  · intro dependency hrequires migration hmigration
    refine hfront _ (dependency_in_front hresolved hmanifest horder hrequires _ ?_)
    exact List.mem_map.mpr
      ⟨migration, (sortedMigrations_perm dependency).mem_iff.mpr hmigration, rfl⟩
  · intro lower hlower
    have hnodup := historyKeys_nodup after
    rw [hkeys, hnews] at hnodup
    have hdistinct : lower ≠ version := by
      rintro rfl
      have hnews' := (List.nodup_append'.mp hnodup).2.1
      exact (List.nodup_append'.mp hnews').2.2 hlower List.mem_cons_self
    have hle := version_le_of_in_front hresolved hmanifest horder (hearlier _ hlower)
    omega

end Start

/-- Whatever has been recorded before, a start migrates the dependencies first. -/
theorem Platform.migrate_dependenciesFirst {Schema : Type} (execute : ScriptExecution Schema)
    (collation : Collation) (readings : Nat → Nat → ClockReading)
    {manifests : List FeatureManifest} {graph : ResolvedFeatureGraph}
    (hresolve : resolve manifests = .ok graph) {before after : MigrationDatabase Schema}
    {outcome : Except Thrown Unit}
    (hrun : (Platform.migrate execute collation readings manifests).Outcome
      (fallible memoryConnection) before outcome after) :
    ∃ news, DependenciesFirst manifests graph before after outcome news :=
  DependenciesFirst.of_advanced (resolve_eq_ok hresolve) (migrate_advanced hresolve hrun)

/-! ### Notes and tags -/

def tagsMigration : MigrationDefinition where
  version := 1
  name := "tags"
  sql := "CREATE TABLE tags;"
  checksum := "c1"

def notesMigration : MigrationDefinition where
  version := 1
  name := "notes"
  sql := "CREATE TABLE notes;"
  checksum := "c1"

def notesAndTags : List FeatureManifest :=
  [{ id := "notes", dependencies := ["tags"], migrations := [notesMigration] },
   { id := "tags", migrations := [tagsMigration] }]

def tagsBeforeNotes : ResolvedFeatureGraph where
  orderedManifests :=
    [{ id := "tags", migrations := [tagsMigration] },
     { id := "notes", dependencies := ["tags"], migrations := [notesMigration] }]
  orderedMigrations := [("tags", tagsMigration), ("notes", notesMigration)]

def startedNotes : Except Thrown Unit × MigrationDatabase (List String) :=
  (Platform.migrate rememberStatements .codePoint (fun _ => midnightReadings)
    notesAndTags).run memoryConnection ⟨[], .empty⟩

theorem startedNotes_dependenciesFirst :
    ∃ news, DependenciesFirst notesAndTags tagsBeforeNotes
      (⟨[], .empty⟩ : MigrationDatabase (List String)) startedNotes.2 startedNotes.1 news := by
  have hresolve : resolve notesAndTags = .ok tagsBeforeNotes := by
    decide +kernel
  exact Platform.migrate_dependenciesFirst rememberStatements .codePoint
    (fun _ => midnightReadings) hresolve
    (Program.outcome_run (fun _ _ _ => .inl rfl) _ _)

end TauriPlatform
