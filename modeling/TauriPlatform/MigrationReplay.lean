import TauriPlatform.PlatformMigrations

/-!
# Migrations as a replay

What a run leaves depends on the migrations and their order only: each which is not recorded
is run, up to the first which fails.
-/

namespace TauriPlatform.MigrationEngine

open Async Relational DependencyResolver

@[ext] structure Ledger (Schema : Type) where
  schema : Schema
  keys : List MigrationKey

variable {Schema : Type}

def ledger (database : MigrationDatabase Schema) : Ledger Schema where
  schema := database.schema
  keys := historyKeys database

def replay (execute : ScriptExecution Schema) : List CheckedMigration → Ledger Schema →
    Bool × Ledger Schema
  | [], state => (true, state)
  | migration :: rest, state =>
      if migration.key ∈ state.keys then replay execute rest state
      else
        match migration.runOn execute state.schema with
        | .error _ => (false, state)
        | .ok schema => replay execute rest ⟨schema, state.keys ++ [migration.key]⟩

section Replay

variable {execute : ScriptExecution Schema}

theorem replay_append (first second : List CheckedMigration) (state : Ledger Schema) :
    replay execute (first ++ second) state =
      if (replay execute first state).1 then replay execute second (replay execute first state).2
      else replay execute first state := by
  induction first generalizing state with
  | nil => rfl
  | cons migration rest ih =>
      rw [List.cons_append, replay, replay]
      by_cases hrecorded : migration.key ∈ state.keys
      · rw [if_pos hrecorded, if_pos hrecorded]
        exact ih state
      · rw [if_neg hrecorded, if_neg hrecorded]
        cases migration.runOn execute state.schema with
        | error message => rfl
        | ok schema => exact ih _

theorem mem_replay_keys {migrations : List CheckedMigration} {state : Ledger Schema}
    {key : MigrationKey} (hkey : key ∈ (replay execute migrations state).2.keys) :
    key ∈ state.keys ∨ key ∈ migrations.map CheckedMigration.key := by
  induction migrations generalizing state with
  | nil => exact .inl hkey
  | cons migration rest ih =>
      rw [replay] at hkey
      rw [List.map_cons, List.mem_cons]
      split_ifs at hkey with hrecorded
      · exact (ih hkey).imp_right .inr
      · cases hrun : migration.runOn execute state.schema with
        | error message =>
            rw [hrun] at hkey
            exact .inl hkey
        | ok schema =>
            rw [hrun] at hkey
            rcases ih hkey with hstate | hrest
            · rcases List.mem_append.mp hstate with hold | hnew
              · exact .inl hold
              · exact .inr (.inl (List.mem_singleton.mp hnew))
            · exact .inr (.inr hrest)

def Succeeds (execute : ScriptExecution Schema) : Prop :=
  ∀ statement schema, ∃ later, execute statement schema = .ok later

theorem Succeeds.runOn (hsucceeds : Succeeds execute) (migration : CheckedMigration)
    (schema : Schema) : ∃ later, migration.runOn execute schema = .ok later := by
  unfold CheckedMigration.runOn
  induction migration.statements generalizing schema with
  | nil => exact ⟨schema, rfl⟩
  | cons statement rest ih =>
      obtain ⟨next, hnext⟩ := hsucceeds statement schema
      obtain ⟨later, hlater⟩ := ih next
      refine ⟨later, ?_⟩
      rw [List.foldlM_cons, hnext]
      exact hlater

theorem replay_of_succeeds (hsucceeds : Succeeds execute) {migrations : List CheckedMigration}
    (hnodup : (migrations.map CheckedMigration.key).Nodup) (state : Ledger Schema) :
    (replay execute migrations state).1 = true ∧
      (replay execute migrations state).2.keys = state.keys ++
        (migrations.map CheckedMigration.key).filter (fun key => key ∉ state.keys) := by
  induction migrations generalizing state with
  | nil => simp [replay]
  | cons migration rest ih =>
      obtain ⟨hnew, hrest⟩ := List.nodup_cons.mp hnodup
      rw [replay]
      split_ifs with hrecorded
      · simpa [hrecorded] using ih hrest state
      · obtain ⟨schema, hrun⟩ := hsucceeds.runOn migration state.schema
        rw [hrun]
        obtain ⟨hall, hkeys⟩ := ih hrest ⟨schema, state.keys ++ [migration.key]⟩
        refine ⟨hall, hkeys.trans ?_⟩
        have hsame : ((rest.map CheckedMigration.key).filter fun key =>
            key ∉ state.keys ++ [migration.key]) =
              (rest.map CheckedMigration.key).filter fun key => key ∉ state.keys := by
          apply List.filter_congr
          intro key hkey
          have hdistinct : key ≠ migration.key := fun hsame => hnew (hsame ▸ hkey)
          simp [hdistinct]
        dsimp only
        rw [hsame, List.map_cons, List.filter_cons_of_pos (by simpa using hrecorded),
          List.append_assoc, List.singleton_append]

end Replay

/-! ## The engine replays -/

section Engine

variable {execute : ScriptExecution Schema} {database : MigrationDatabase Schema}

theorem transaction_run (execute : ScriptExecution Schema) (migration : CheckedMigration) (now : ClockReading)
    (hunrecorded : migration.key ∉ historyKeys database) :
    match migration.runOn execute database.schema with
    | .error _ => ∃ error,
        memoryConnection (.transaction (migrationBody execute migration now)) database =
          (.error error, database)
    | .ok schema => ∃ later,
        memoryConnection (.transaction (migrationBody execute migration now)) database =
          (.ok (), later) ∧ ledger later = ⟨schema, historyKeys database ++ [migration.key]⟩ := by
  cases hrun : migration.runOn execute database.schema with
  | error message =>
      rcases transaction_cases execute migration now database with
        ⟨later, happlies, -⟩ | ⟨-, error, hfails⟩
      · cases hrun.symm.trans happlies.schema
      · exact ⟨error, hfails⟩
  | ok schema =>
      have hinsert : (database.history.insert? (migration.record now.iso)).isSome := by
        refine Table.insert?_isSome ?_
        intro index hindex key hkey other hother hsame
        obtain rfl := List.mem_singleton.mp hindex
        refine hunrecorded (List.mem_map.mpr ⟨other, hother, ?_⟩)
        exact Option.some.inj (hsame.trans hkey.symm)
      obtain ⟨history, hhistory⟩ := Option.isSome_iff_exists.mp hinsert
      have happlies : Applies execute migration now.iso database ⟨schema, history⟩ :=
        ⟨hrun, Table.insert?_eq_some_iff.mp hhistory⟩
      rcases transaction_cases execute migration now database with
        ⟨later, hlater, hcommits⟩ | ⟨hnone, -⟩
      · refine ⟨later, hcommits, ?_⟩
        have hschema := hlater.schema
        rw [hrun, Except.ok.injEq] at hschema
        rw [ledger, ← hschema, hlater.historyKeys_eq]
      · exact absurd happlies (hnone _)

def Matches (applied : String → Option String) (migrations : List CheckedMigration)
    (database : MigrationDatabase Schema) : Prop :=
  ∀ migration ∈ migrations, applied migration.identity =
    if migration.key ∈ historyKeys database then some migration.checksum else none

theorem applyAll_run (execute : ScriptExecution Schema)
    {applied : String → Option String} (readings : Nat → ClockReading)
    (appliedCount : Nat) {migrations : List CheckedMigration}
    (hnodup : (migrations.map CheckedMigration.key).Nodup)
    (hmatches : Matches applied migrations database) :
    ∃ outcome later, (applyAll execute applied readings appliedCount migrations).run
        memoryConnection database = (outcome, later) ∧
      replay execute migrations (ledger database) = (outcome.isOk, ledger later) := by
  induction migrations generalizing appliedCount database with
  | nil => exact ⟨.ok appliedCount, database, rfl, rfl⟩
  | cons migration rest ih =>
      obtain ⟨hnew, hrest⟩ := List.nodup_cons.mp hnodup
      have hfound := hmatches migration List.mem_cons_self
      rw [applyAll, replay]
      by_cases hrecorded : migration.key ∈ historyKeys database
      · rw [if_pos hrecorded] at hfound
        rw [hfound, if_pos (show migration.key ∈ (ledger database).keys from hrecorded)]
        dsimp only
        rw [if_neg (not_not.mpr rfl)]
        exact ih appliedCount hrest fun other hother =>
          hmatches other (List.mem_cons_of_mem _ hother)
      · rw [if_neg hrecorded] at hfound
        rw [hfound, if_neg (show migration.key ∉ (ledger database).keys from hrecorded)]
        dsimp only
        have htransaction := transaction_run execute migration
          (readings appliedCount) hrecorded
        change match migration.runOn execute (ledger database).schema with
          | .error _ => _
          | .ok schema => _ at htransaction
        cases hrun : migration.runOn execute (ledger database).schema with
        | error message =>
            rw [hrun] at htransaction
            obtain ⟨error, hfails⟩ := htransaction
            refine ⟨.error error, database, ?_, rfl⟩
            exact Program.run_bind_error _ (by rw [Program.run_await, hfails])
        | ok schema =>
            rw [hrun] at htransaction
            obtain ⟨later, hcommits, hledger⟩ := htransaction
            have hmatchesRest : Matches applied rest later := by
              intro other hother
              have hdistinct : other.key ≠ migration.key := fun hsame =>
                hnew (hsame ▸ List.mem_map_of_mem hother)
              have hkeys : historyKeys later = historyKeys database ++ [migration.key] :=
                congrArg Ledger.keys hledger
              rw [hmatches other (List.mem_cons_of_mem _ hother), hkeys]
              simp [hdistinct]
            obtain ⟨outcome, final, hloop, hreplay⟩ := ih (appliedCount + 1) hrest hmatchesRest
            refine ⟨outcome, final, ?_, ?_⟩
            · rw [Program.run_bind_ok _ (by rw [Program.run_await, hcommits])]
              exact hloop
            · rw [← hreplay, hledger]
              rfl

structure Compatible (checked : List CheckedMigration) (database : MigrationDatabase Schema) :
    Prop where
  checksums : ∀ row ∈ database.history, ∀ migration ∈ checked,
    migration.key = (row.owner, row.version) → row.checksum = migration.checksum
  known : ∀ row ∈ database.history, ∀ migration ∈ checked, migration.owner = row.owner →
    ∃ other ∈ checked, other.key = (row.owner, row.version)

variable {checked : List CheckedMigration}

theorem compatible_of_fresh
    (hfresh : ∀ key ∈ historyKeys database, ∀ migration ∈ checked, migration.owner ≠ key.1) :
    Compatible checked database where
  checksums _ hrow migration hmigration hkey :=
    absurd (congrArg Prod.fst hkey) (hfresh _ (List.mem_map_of_mem hrow) migration hmigration)
  known _ hrow migration hmigration howner :=
    absurd howner (hfresh _ (List.mem_map_of_mem hrow) migration hmigration)

theorem Compatible.matches (hcompatible : Compatible checked database)
    {applied : List AppliedMigration} (hread : ∀ row, row ∈ applied ↔ row ∈ database.history)
    {migrations : List CheckedMigration}
    (hmigrations : ∀ migration ∈ migrations, migration ∈ checked) :
    Matches (appliedByIdentity applied) migrations database := by
  intro migration hmem
  have hsome : (appliedByIdentity applied migration.identity).isSome ↔
      migration.key ∈ historyKeys database := by
    rw [CheckedMigration.identity, isSome_appliedByIdentity_iff, CheckedMigration.key,
      ← recorded_iff_mem_keys]
    simp only [Recorded, hread]
  cases hfound : appliedByIdentity applied migration.identity with
  | none =>
      rw [hfound] at hsome
      rw [if_neg fun hrecorded => Bool.false_ne_true (hsome.mpr hrecorded)]
  | some checksum =>
      obtain ⟨row, hrow, howner, hversion, rfl⟩ := recorded_of_appliedByIdentity hfound
      rw [hfound] at hsome
      rw [if_pos (hsome.mp rfl), Option.some.injEq]
      refine hcompatible.checksums row ((hread row).mp hrow) migration
        (hmigrations migration hmem) ?_
      rw [CheckedMigration.key, howner, hversion]

theorem Compatible.checkRemoved_eq_ok (hcompatible : Compatible checked database)
    {applied : List AppliedMigration} (hread : ∀ row, row ∈ applied ↔ row ∈ database.history) :
    checkRemoved checked applied = .ok () := by
  have hnone : (applied.find? fun row =>
      row.owner ∈ checked.map (·.owner) ∧
        identity row.owner row.version ∉ checked.map CheckedMigration.identity) = none := by
    rw [List.find?_eq_none]
    intro row hrow hremoved
    obtain ⟨howner, hidentity⟩ := of_decide_eq_true hremoved
    obtain ⟨migration, hmigration, hsame⟩ := List.mem_map.mp howner
    obtain ⟨other, hother, hkey⟩ :=
      hcompatible.known row ((hread row).mp hrow) migration hmigration hsame
    obtain ⟨hotherOwner, hotherVersion⟩ := Prod.mk.inj hkey
    refine hidentity (List.mem_map.mpr ⟨other, hother, ?_⟩)
    rw [CheckedMigration.identity, hotherOwner, hotherVersion]
  unfold checkRemoved
  dsimp only
  rw [hnone]

theorem applyMigrations_run (execute : ScriptExecution Schema) (collation : Collation)
    (readings : Nat → ClockReading) {scripts : List MigrationScript}
    (hpreflight : preflight scripts = .ok checked) (hcompatible : Compatible checked database) :
    ∃ outcome later, (applyMigrations execute collation readings scripts).run memoryConnection
        database = (outcome, later) ∧
      replay execute (checked.insertionSort (MigrationLe collation)) (ledger database) =
        (outcome.isOk, ledger later) := by
  have hnodup : ((checked.insertionSort (MigrationLe collation)).map
      CheckedMigration.key).Nodup := by
    refine ((List.perm_insertionSort _ checked).map CheckedMigration.key).nodup_iff.mpr ?_
    refine List.Nodup.of_map (fun key => identity key.1 key.2) ?_
    rw [List.map_map]
    exact (preflight_eq_ok hpreflight).nodup
  have hread : ∀ row, row ∈ database.history.rows.insertionSort (rowLe · ·) ↔
      row ∈ database.history := fun row => List.mem_insertionSort _
  obtain ⟨outcome, later, hloop, hreplay⟩ := applyAll_run execute readings 0 hnodup
    (hcompatible.matches hread fun migration hmem => (List.mem_insertionSort _).mp hmem)
  refine ⟨outcome, later, ?_, hreplay⟩
  have hensure : ensureMigrationTable.run memoryConnection database = (.ok (), database) := rfl
  have happlied : getAppliedMigrations.run memoryConnection database =
      (.ok (database.history.rows.insertionSort (rowLe · ·)), database) := rfl
  unfold applyMigrations
  rw [hpreflight]
  change (ensureMigrationTable >>= fun _ => _ : Program _ Thrown Nat).run memoryConnection
    database = _
  rw [Program.run_bind_ok _ hensure, Program.run_bind_ok _ happlied,
    hcompatible.checkRemoved_eq_ok hread]
  exact hloop

end Engine

/-! ## A start replays -/

def checkedFeature (manifest : FeatureManifest) : List CheckedMigration :=
  (sortedMigrations manifest).map fun migration =>
    { owner := featureOwner manifest.id
      version := migration.version
      name := migration.name
      sql := migration.sql
      checksum := migration.checksum }

theorem checkedFeature_keys (manifest : FeatureManifest) :
    (checkedFeature manifest).map CheckedMigration.key = featureKeys manifest := by
  rw [checkedFeature, List.map_map]
  rfl

theorem eq_checkedFeature {manifest : FeatureManifest} {checked : List CheckedMigration}
    (hpreflight : preflight (featureScripts manifest) = .ok checked) :
    checked = checkedFeature manifest := by
  have hchecks := (preflight_eq_ok hpreflight).checks
  rw [featureScripts, List.forall₂_map_left_iff] at hchecks
  rw [checkedFeature]
  clear hpreflight
  generalize sortedMigrations manifest = migrations at hchecks ⊢
  induction hchecks with
  | nil => rfl
  | @cons migration first _ _ hfirst _ ih =>
      rw [List.map_cons, ← ih]
      obtain ⟨owner, version, name, sql, checksum⟩ := first
      obtain ⟨howner, hversion, hname, hsql, hchecksum, -⟩ := hfirst
      change (if migration.version.natAbs ≤ maxSafeInteger then some migration.version else none) =
        some version at hversion
      split_ifs at hversion
      cases hversion
      dsimp only at howner hname hsql hchecksum
      rw [howner, hname, hsql, hchecksum]
      rfl

theorem checkedFeature_sorted {collation : Collation} (manifest : FeatureManifest) :
    (checkedFeature manifest).insertionSort (MigrationLe collation) =
      checkedFeature manifest := by
  refine List.Pairwise.insertionSort_eq ?_
  rw [checkedFeature, List.pairwise_map]
  refine (sortedMigrations_pairwise manifest).imp ?_
  intro left right hle
  rw [migrationLe_iff]
  exact .inr ⟨localeCompare_self _ _, hle⟩

theorem checkedCoreMigrations_sorted {collation : Collation} :
    checkedCoreMigrations.insertionSort (MigrationLe collation) = checkedCoreMigrations := by
  refine List.Pairwise.insertionSort_eq ?_
  have hversions : checkedCoreMigrations.Pairwise fun left right =>
      left.owner = right.owner ∧ left.version ≤ right.version := by
    simp [checkedCoreMigrations, coreChecked]
  refine hversions.imp ?_
  rintro left right ⟨howner, hle⟩
  rw [migrationLe_iff, howner]
  exact .inr ⟨localeCompare_self _ _, hle⟩

theorem owner_of_mem_checkedFeature {manifest : FeatureManifest} {migration : CheckedMigration}
    (hmem : migration ∈ checkedFeature manifest) :
    migration.owner = featureOwner manifest.id := by
  obtain ⟨definition, -, rfl⟩ := List.mem_map.mp hmem
  rfl

section Start

variable {database : MigrationDatabase Schema}

def Accepted (manifest : FeatureManifest) : Prop :=
  (preflight (featureScripts manifest)).isOk

theorem Accepted.preflight_eq {manifest : FeatureManifest} (haccepted : Accepted manifest) :
    preflight (featureScripts manifest) = .ok (checkedFeature manifest) := by
  unfold Accepted at haccepted
  cases hpreflight : preflight (featureScripts manifest) with
  | error error =>
      rw [hpreflight] at haccepted
      cases haccepted
  | ok checked => rw [eq_checkedFeature hpreflight]

theorem applyGroups_run (execute : ScriptExecution Schema) (collation : Collation)
    (readings : Nat → Nat → ClockReading) (call : Nat) {manifests : List FeatureManifest} (hnodup : (manifests.map (·.id)).Nodup)
    (haccepted : ∀ manifest ∈ manifests, Accepted manifest)
    (hfresh : ∀ key ∈ historyKeys database, ∀ manifest ∈ manifests,
      featureOwner manifest.id ≠ key.1) :
    ∃ outcome later, (applyGroups execute collation readings call
        ((featureGroups manifests).map (·.2))).run memoryConnection database = (outcome, later) ∧
      replay execute (manifests.flatMap checkedFeature) (ledger database) =
        (outcome.isOk, ledger later) := by
  induction manifests generalizing call database with
  | nil => exact ⟨.ok (), database, rfl, rfl⟩
  | cons manifest rest ih =>
      obtain ⟨hdistinct, hrest⟩ := List.nodup_cons.mp hnodup
      obtain ⟨hfirstAccepted, hrestAccepted⟩ := List.forall_mem_cons.mp haccepted
      have hrestFresh : ∀ key ∈ historyKeys database, ∀ other ∈ rest,
          featureOwner other.id ≠ key.1 := fun key hkey other hother =>
        hfresh key hkey other (List.mem_cons_of_mem _ hother)
      rw [List.flatMap_cons]
      by_cases hnone : manifest.migrations = []
      · have hgroups : featureGroups (manifest :: rest) = featureGroups rest := by
          simp [featureGroups, hnone]
        have hchecked : checkedFeature manifest = [] := by
          simp [checkedFeature, sortedMigrations, hnone]
        rw [hgroups, hchecked, List.nil_append]
        exact ih call hrest hrestAccepted hrestFresh
      · have hgroups : (featureGroups (manifest :: rest)).map (·.2) =
            featureScripts manifest :: (featureGroups rest).map (·.2) := by
          simp [featureGroups, hnone]
        have hcompatible : Compatible (checkedFeature manifest) database := by
          refine compatible_of_fresh ?_
          intro key hkey migration hmigration
          rw [owner_of_mem_checkedFeature hmigration]
          exact hfresh key hkey manifest List.mem_cons_self
        obtain ⟨outcome, between, hrun, hreplay⟩ := applyMigrations_run execute
          collation (readings call) hfirstAccepted.preflight_eq hcompatible
        rw [checkedFeature_sorted] at hreplay
        rw [hgroups, applyGroups, replay_append, hreplay]
        cases outcome with
        | error error =>
            exact ⟨.error error, between, Program.run_bind_error _ hrun, rfl⟩
        | ok count =>
            have hbetween : ∀ key ∈ historyKeys between, ∀ other ∈ rest,
                featureOwner other.id ≠ key.1 := by
              intro key hkey other hother
              have hledger : key ∈ (replay execute (checkedFeature manifest)
                  (ledger database)).2.keys := by
                rw [hreplay]
                exact hkey
              rcases mem_replay_keys hledger with hold | hnew
              · exact hrestFresh key hold other hother
              · rw [checkedFeature_keys] at hnew
                rw [owner_of_mem_featureKeys hnew, Ne, featureOwner_inj]
                intro hsame
                exact hdistinct (List.mem_map.mpr ⟨other, hother, hsame⟩)
            obtain ⟨outcome, later, hgroupsRun, hgroupsReplay⟩ :=
              ih (call + 1) hrest hrestAccepted hbetween
            refine ⟨outcome, later, ?_, hgroupsReplay⟩
            rw [Program.run_bind_ok _ hrun]
            exact hgroupsRun

theorem migrate_run (execute : ScriptExecution Schema) (collation : Collation)
    (readings : Nat → Nat → ClockReading) {manifests : List FeatureManifest}
    {graph : ResolvedFeatureGraph} (hresolve : resolve manifests = .ok graph)
    (haccepted : ∀ manifest ∈ manifests, Accepted manifest)
    (hcompatible : Compatible checkedCoreMigrations database)
    (hfresh : ∀ key ∈ historyKeys database, ∀ manifest ∈ manifests,
      featureOwner manifest.id ≠ key.1) :
    ∃ outcome later, (Platform.migrate execute collation readings manifests).run
        memoryConnection database = (outcome, later) ∧
      replay execute
          (checkedCoreMigrations ++ graph.orderedManifests.flatMap checkedFeature)
          (ledger database) = (outcome.isOk, ledger later) := by
  have hresolved := resolve_eq_ok hresolve
  have hensure : ensureMigrationTable.run memoryConnection database = (.ok (), database) := rfl
  obtain ⟨outcome, between, hcore, hreplay⟩ := applyMigrations_run execute collation
    (readings 0) preflight_coreMigrations hcompatible
  rw [checkedCoreMigrations_sorted] at hreplay
  have hstart : ∀ {next : ResolvedFeatureGraph → Program (DbCall (MigrationDatabase Schema))
      Thrown Unit},
      ((ensureMigrationTable >>= fun _ => Program.ofExcept (resolve manifests) >>= next) :
        Program _ Thrown Unit).run memoryConnection database =
          (next graph).run memoryConnection database := by
    intro next
    rw [Program.run_bind_ok _ hensure, hresolve]
    rfl
  unfold Platform.migrate
  rw [hstart, replay_append, hreplay]
  cases outcome with
  | error error => exact ⟨.error error, between, Program.run_bind_error _ hcore, rfl⟩
  | ok count =>
      rw [Program.run_bind_ok _ hcore, hresolved.migrations,
        migrationsByFeature_eq hresolved.ids_nodup]
      refine applyGroups_run execute collation readings 1 hresolved.ids_nodup
        (fun manifest hmem => haccepted manifest ((hresolved.mem_iff manifest).mp hmem)) ?_
      intro key hkey manifest hmem
      have hledger : key ∈ (replay execute checkedCoreMigrations (ledger database)).2.keys := by
        rw [hreplay]
        exact hkey
      rcases mem_replay_keys hledger with hold | hnew
      · exact hfresh key hold manifest ((hresolved.mem_iff manifest).mp hmem)
      · have howner : key.1 = "platform" := by
          obtain ⟨migration, hmigration, rfl⟩ := List.mem_map.mp hnew
          revert migration
          simp [checkedCoreMigrations, coreChecked, CheckedMigration.key]
        rw [howner]
        exact featureOwner_ne_platform manifest.id

end Start
end TauriPlatform.MigrationEngine
