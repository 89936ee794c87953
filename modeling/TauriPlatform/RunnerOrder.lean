import TauriPlatform.MigrationRunners
import TauriPlatform.StartOrder
import Mathlib.Data.String.Basic

/-!
# The order of the two runners

From an empty history a start of the platform follows the resolver, and the native runner
follows the bytes of the owners.
-/

namespace TauriPlatform

open Async Relational MigrationEngine DependencyResolver

namespace RunnerOrder

variable {Schema : Type}

/-! ## The same migrations on both sides -/

def toNative (migration : CheckedMigration) : NativeMigration where
  owner := migration.owner
  version := migration.version
  name := migration.name
  checksum := migration.checksum
  sql := migration.sql

def ofNative (migration : NativeMigration) : CheckedMigration where
  owner := migration.owner
  version := migration.version
  name := migration.name
  sql := migration.sql
  checksum := migration.checksum

def resolvedMigrations (graph : ResolvedFeatureGraph) : List CheckedMigration :=
  checkedCoreMigrations ++ graph.orderedManifests.flatMap checkedFeature

def batchOf (execute : ScriptExecution Schema) : ScriptExecution Schema :=
  fun sql schema =>
    (splitSqlScript sql).foldlM (fun schema statement => execute statement schema) schema

def startHistory (execute : ScriptExecution Schema) (collation : Collation)
    (readings : Nat → Nat → ClockReading) (manifests : List FeatureManifest) (initial : Schema) :
    List MigrationKey :=
  historyKeys ((Platform.migrate execute collation readings manifests).run memoryConnection
    ⟨initial, .empty⟩).2

def nativeHistory (execute : ScriptExecution Schema) (appliedAt : Nat → String)
    (natives : List NativeMigration) (initial : Schema) : List MigrationKey :=
  historyKeys ((DurableDatabase.applyMigrations (batchOf execute) appliedAt natives).run
    durableConnection ⟨initial, .empty⟩).2

/-- From an empty history both runners apply the migrations in the same order, whatever the
statements do. -/
def RunnersAgree (collation : Collation) (manifests : List FeatureManifest)
    (graph : ResolvedFeatureGraph) : Prop :=
  ∀ (Schema : Type) (execute : ScriptExecution Schema) (initial : Schema)
    (readings : Nat → Nat → ClockReading) (appliedAt : Nat → String)
    (natives : List NativeMigration),
    natives.Perm ((resolvedMigrations graph).map toNative) →
      startHistory execute collation readings manifests initial =
        nativeHistory execute appliedAt natives initial

/-! ## The native runner replays -/

section Native

variable {execute : ScriptExecution Schema} {database : MigrationDatabase Schema}

theorem lookup_eq_nil {migration : CheckedMigration}
    (hunrecorded : migration.key ∉ historyKeys database) :
    (database.history.select fun row =>
      row.owner = (toNative migration).owner ∧ row.version = (toNative migration).version) =
        [] := by
  rw [List.eq_nil_iff_forall_not_mem]
  intro row hrow
  obtain ⟨hmem, hkey⟩ := Table.mem_select.mp hrow
  obtain ⟨howner, hversion⟩ := of_decide_eq_true hkey
  refine hunrecorded (List.mem_map.mpr ⟨row, hmem, ?_⟩)
  rw [howner, hversion]
  rfl

theorem migrationTransaction_run (execute : ScriptExecution Schema)
    (migration : CheckedMigration) (appliedAt : String)
    (hunrecorded : migration.key ∉ historyKeys database) :
    match migration.runOn execute database.schema with
    | .error _ => ∃ error,
        durableConnection (.transaction (DurableDatabase.migrationTransaction (batchOf execute)
          (toNative migration) appliedAt)) database = (.error error, database)
    | .ok schema => ∃ later,
        durableConnection (.transaction (DurableDatabase.migrationTransaction (batchOf execute)
          (toNative migration) appliedAt)) database = (.ok (), later) ∧
            ledger later = ⟨schema, historyKeys database ++ [migration.key]⟩ := by
  have hcases := DurableDatabase.migrationTransaction_cases (batchOf execute)
    (toNative migration) appliedAt database
  cases hrun : migration.runOn execute database.schema with
  | error message =>
      rcases hcases with ⟨later, happlies, -⟩ | ⟨-, error, hfails⟩
      · cases hrun.symm.trans happlies.schema
      · exact ⟨error, hfails⟩
  | ok schema =>
      have hinsert : (database.history.insert?
          (DurableDatabase.NativeMigration.record (toNative migration) appliedAt)).isSome := by
        refine Table.insert?_isSome ?_
        intro index hindex key hkey other hother hsame
        obtain rfl := List.mem_singleton.mp hindex
        refine hunrecorded (List.mem_map.mpr ⟨other, hother, ?_⟩)
        exact Option.some.inj (hsame.trans hkey.symm)
      obtain ⟨history, hhistory⟩ := Option.isSome_iff_exists.mp hinsert
      rcases hcases with ⟨later, happlies, hcommits⟩ | ⟨hnone, -⟩
      · refine ⟨later, hcommits, ?_⟩
        have hschema := hrun.symm.trans happlies.schema
        have hkeys : historyKeys later = historyKeys database ++ [migration.key] := by
          rw [historyKeys, happlies.history, List.map_append]
          rfl
        rw [ledger, hkeys, Except.ok.inj hschema]
      · exact absurd ⟨hrun, Table.insert?_eq_some_iff.mp hhistory⟩ (hnone ⟨schema, history⟩)

theorem applyOrdered_run (execute : ScriptExecution Schema) (appliedAt : Nat → String)
    (appliedCount : Nat) {migrations : List CheckedMigration}
    (hnodup : (migrations.map CheckedMigration.key).Nodup)
    (hfresh : ∀ migration ∈ migrations, migration.key ∉ historyKeys database) :
    ∃ outcome later, (DurableDatabase.applyOrdered (batchOf execute) appliedAt appliedCount
        (migrations.map toNative)).run durableConnection database = (outcome, later) ∧
      replay execute migrations (ledger database) = (outcome.isOk, ledger later) := by
  induction migrations generalizing appliedCount database with
  | nil => exact ⟨.ok appliedCount, database, rfl, rfl⟩
  | cons migration rest ih =>
      obtain ⟨hnew, hrest⟩ := List.nodup_cons.mp hnodup
      obtain ⟨hunrecorded, hrestFresh⟩ := List.forall_mem_cons.mp hfresh
      have hlookup : (Program.await (.statement "db_migration_lookup"
          (DurableDatabase.lookupStatement (toNative migration))) :
            Program _ NativeError _).run durableConnection database = (.ok [], database) := by
        rw [Program.run_await, DurableDatabase.lookup_run, lookup_eq_nil hunrecorded]
        rfl
      have htransaction := migrationTransaction_run execute migration (appliedAt appliedCount)
        hunrecorded
      rw [List.map_cons, DurableDatabase.applyOrdered, Program.run_bind_ok _ hlookup, replay,
        if_neg (show migration.key ∉ (ledger database).keys from hunrecorded)]
      dsimp only [List.head?_nil]
      change match migration.runOn execute (ledger database).schema with
        | .error _ => _
        | .ok schema => _ at htransaction
      cases hrun : migration.runOn execute (ledger database).schema with
      | error message =>
          rw [hrun] at htransaction
          obtain ⟨error, hfails⟩ := htransaction
          exact ⟨.error error, database,
            Program.run_bind_error _ (by rw [Program.run_await, hfails]), rfl⟩
      | ok schema =>
          rw [hrun] at htransaction
          obtain ⟨later, hcommits, hledger⟩ := htransaction
          have hlaterFresh : ∀ other ∈ rest, other.key ∉ historyKeys later := by
            intro other hother
            have hdistinct : other.key ≠ migration.key := fun hsame =>
              hnew (hsame ▸ List.mem_map_of_mem hother)
            rw [show historyKeys later = historyKeys database ++ [migration.key] from
              congrArg Ledger.keys hledger]
            simp [hdistinct, hrestFresh other hother]
          obtain ⟨outcome, final, hloop, hreplay⟩ := ih (appliedCount + 1) hrest hlaterFresh
          refine ⟨outcome, final, ?_, ?_⟩
          · rw [Program.run_bind_ok _ (by rw [Program.run_await, hcommits])]
            exact hloop
          · rw [← hreplay, hledger]
            rfl

theorem applyMigrations_run (executeBatch : ScriptExecution Schema) (appliedAt : Nat → String)
    (natives : List NativeMigration) :
    (DurableDatabase.applyMigrations executeBatch appliedAt natives).run durableConnection
        database =
      (DurableDatabase.applyOrdered executeBatch appliedAt 0
        (natives.insertionSort NativeLe)).run durableConnection database := by
  have htable : (Program.await (.statement "db_migration_table"
      DurableDatabase.createMigrationsStatement) : Program _ NativeError _).run durableConnection
        database = (.ok [], database) := rfl
  rw [DurableDatabase.applyMigrations, Program.run_bind_ok _ htable]

end Native

/-! ## The order of the native runner -/

section Sorting

theorem migrationOwnerOrder_feature (featureId : String) :
    migrationOwnerOrder (featureOwner featureId) = (1, featureOwner featureId) :=
  if_neg (featureOwner_ne_platform featureId)

theorem migrationOwnerOrder_inj {left right : String}
    (hsame : migrationOwnerOrder left = migrationOwnerOrder right) : left = right := by
  unfold migrationOwnerOrder at hsame
  split_ifs at hsame
  all_goals exact congrArg Prod.snd hsame

instance : Std.Total NativeLe where
  total left right := by
    unfold NativeLe
    dsimp only
    rcases lt_trichotomy (migrationOwnerOrder left.owner).1 (migrationOwnerOrder right.owner).1
      with hlt | heq | hgt
    · exact .inl (.inl hlt)
    · rcases lt_trichotomy (migrationOwnerOrder left.owner).2
        (migrationOwnerOrder right.owner).2 with hlt | hsame | hgt
      · exact .inl (.inr ⟨heq, .inl hlt⟩)
      · rcases le_total left.version right.version with hle | hge
        · exact .inl (.inr ⟨heq, .inr ⟨hsame, hle⟩⟩)
        · exact .inr (.inr ⟨heq.symm, .inr ⟨hsame.symm, hge⟩⟩)
      · exact .inr (.inr ⟨heq.symm, .inl hgt⟩)
    · exact .inr (.inl hgt)

instance : IsTrans NativeMigration NativeLe where
  trans left middle right := by
    unfold NativeLe
    dsimp only
    rintro (hlt | ⟨heq, hrest⟩) (hlt' | ⟨heq', hrest'⟩)
    · exact .inl (hlt.trans hlt')
    · exact .inl (heq' ▸ hlt)
    · exact .inl (heq ▸ hlt')
    · refine .inr ⟨heq.trans heq', ?_⟩
      rcases hrest with hlt | ⟨hsame, hle⟩
      · rcases hrest' with hlt' | ⟨hsame', -⟩
        · exact .inl (hlt.trans hlt')
        · exact .inl (hsame' ▸ hlt)
      · rcases hrest' with hlt' | ⟨hsame', hle'⟩
        · exact .inl (hsame ▸ hlt')
        · exact .inr ⟨hsame.trans hsame', hle.trans hle'⟩

theorem nativeLe_antisymm {left right : NativeMigration} (hle : NativeLe left right)
    (hge : NativeLe right left) : left.owner = right.owner ∧ left.version = right.version := by
  unfold NativeLe at hle hge
  dsimp only at hle hge
  rcases hle with hlt | ⟨hfirst, hlt | ⟨hsecond, hle⟩⟩
  · rcases hge with hgt | ⟨heq, -⟩
    · omega
    · omega
  · rcases hge with hgt | ⟨-, hgt | ⟨heq, -⟩⟩
    · omega
    · exact absurd hgt (lt_asymm hlt)
    · exact absurd heq hlt.ne'
  · rcases hge with hgt | ⟨-, hgt | ⟨-, hge⟩⟩
    · omega
    · exact absurd hsecond hgt.ne'
    · exact ⟨migrationOwnerOrder_inj (Prod.ext hfirst hsecond), le_antisymm hle hge⟩

theorem featureOwner_lt_iff {left right : String} :
    featureOwner left < featureOwner right ↔ left < right := by
  have hmono : ∀ {left right : String}, left < right →
      featureOwner left < featureOwner right := by
    intro left right hlt
    rw [String.lt_iff_toList_lt] at hlt ⊢
    rw [featureOwner_toList, featureOwner_toList]
    exact List.append_left_lt hlt
  constructor
  · intro hlt
    rcases lt_trichotomy left right with hless | rfl | hgreater
    · exact hless
    · exact absurd hlt (lt_irrefl _)
    · exact absurd hlt (lt_asymm (hmono hgreater))
  · exact hmono

end Sorting

/-! ## What is recorded in the end -/

section Recorded

def RowOf (row : AppliedMigration) (migration : NativeMigration) : Prop :=
  row.owner = migration.owner ∧ row.version = migration.version ∧
    row.checksum = migration.checksum

variable {execute : ScriptExecution Schema}

/-- Where no statement fails, a migration which is not recorded is one whose checksum
another one contradicts. -/
theorem applyOrdered_covers (hsucceeds : Succeeds execute) (appliedAt : Nat → String)
    (appliedCount : Nat) (natives : List NativeMigration) (database : MigrationDatabase Schema) :
    ∃ outcome later, (DurableDatabase.applyOrdered (batchOf execute) appliedAt appliedCount
        natives).run durableConnection database = (outcome, later) ∧
      (∀ row ∈ database.history, row ∈ later.history) ∧
      (∀ row ∈ later.history, row ∈ database.history ∨ ∃ native ∈ natives, RowOf row native) ∧
      ((∀ native ∈ natives, (native.owner, native.version) ∈ historyKeys later) ∨
        ∃ native ∈ natives, ∃ row ∈ later.history, row.owner = native.owner ∧
          row.version = native.version ∧ row.checksum ≠ native.checksum) := by
  induction natives generalizing appliedCount database with
  | nil => exact ⟨.ok appliedCount, database, rfl, fun _ hrow => hrow, fun _ hrow => .inl hrow,
      .inl fun _ hmem => nomatch hmem⟩
  | cons native rest ih =>
      have hlookup : (Program.await (.statement "db_migration_lookup"
          (DurableDatabase.lookupStatement native)) : Program _ NativeError _).run
            durableConnection database =
          (.ok ((database.history.select fun row =>
            row.owner = native.owner ∧ row.version = native.version).map (·.checksum)),
            database) := by
        rw [Program.run_await, DurableDatabase.lookup_run]
      -- the rest is looked through from a database in which this migration is recorded
      have hrest : ∀ (count : Nat) (now : MigrationDatabase Schema),
          (∀ row ∈ database.history, row ∈ now.history) →
          (∀ row ∈ now.history, row ∈ database.history ∨ RowOf row native) →
          (native.owner, native.version) ∈ historyKeys now →
          ∃ outcome later, (DurableDatabase.applyOrdered (batchOf execute) appliedAt count
              rest).run durableConnection now = (outcome, later) ∧
            (∀ row ∈ database.history, row ∈ later.history) ∧
            (∀ row ∈ later.history, row ∈ database.history ∨
              ∃ other ∈ native :: rest, RowOf row other) ∧
            ((∀ other ∈ native :: rest, (other.owner, other.version) ∈ historyKeys later) ∨
              ∃ other ∈ native :: rest, ∃ row ∈ later.history, row.owner = other.owner ∧
                row.version = other.version ∧ row.checksum ≠ other.checksum) := by
        intro count now hkeeps hnow hrecorded
        obtain ⟨outcome, later, hrun, hlater, hrows, hcovers⟩ := ih count now
        refine ⟨outcome, later, hrun, fun row hrow => hlater row (hkeeps row hrow), ?_, ?_⟩
        · intro row hrow
          rcases hrows row hrow with hold | ⟨other, hother, hrowOf⟩
          · exact (hnow row hold).imp_right fun hrowOf =>
              ⟨native, List.mem_cons_self, hrowOf⟩
          · exact .inr ⟨other, List.mem_cons_of_mem _ hother, hrowOf⟩
        · rcases hcovers with hall | ⟨other, hother, row, hrow⟩
          · refine .inl (List.forall_mem_cons.mpr ⟨?_, hall⟩)
            obtain ⟨row, hrow, hkey⟩ := List.mem_map.mp hrecorded
            exact hkey ▸ List.mem_map_of_mem (hlater row hrow)
          · exact .inr ⟨other, List.mem_cons_of_mem _ hother, row, hrow⟩
      rw [DurableDatabase.applyOrdered, Program.run_bind_ok _ hlookup]
      cases hrows : database.history.select fun row =>
          row.owner = native.owner ∧ row.version = native.version with
      | cons row rows =>
          have hrow : row ∈ database.history.select fun row =>
              row.owner = native.owner ∧ row.version = native.version := by
            rw [hrows]
            exact List.mem_cons_self
          obtain ⟨hmem, hkey⟩ := Table.mem_select.mp hrow
          obtain ⟨howner, hversion⟩ := of_decide_eq_true hkey
          have hhead : ((row :: rows).map (·.checksum)).head? = some row.checksum := rfl
          rw [hhead]
          dsimp only
          split_ifs with hchecksum
          · refine ⟨.error _, database, rfl, fun _ hother => hother, fun _ hother => .inl hother,
              .inr ⟨native, List.mem_cons_self, row, hmem, howner, hversion, hchecksum⟩⟩
          · refine hrest appliedCount database (fun _ hother => hother)
              (fun _ hother => .inl hother) ?_
            rw [← howner, ← hversion]
            exact List.mem_map_of_mem hmem
      | nil =>
          have hhead : (([] : List AppliedMigration).map (·.checksum)).head? = none := rfl
          rw [hhead]
          dsimp only
          have hunrecorded : (native.owner, native.version) ∉ historyKeys database := by
            intro hrecorded
            obtain ⟨row, hrow, hkey⟩ := List.mem_map.mp hrecorded
            obtain ⟨howner, hversion⟩ := Prod.mk.inj hkey
            have hselected : row ∈ database.history.select fun row =>
                row.owner = native.owner ∧ row.version = native.version :=
              Table.mem_select.mpr ⟨hrow, decide_eq_true ⟨howner, hversion⟩⟩
            rw [hrows] at hselected
            cases hselected
          have htransaction := migrationTransaction_run execute
            (⟨native.owner, native.version, native.name, native.sql, native.checksum⟩ :
              CheckedMigration) (appliedAt appliedCount) hunrecorded
          obtain ⟨schema, hschema⟩ := hsucceeds.runOn
            ⟨native.owner, native.version, native.name, native.sql, native.checksum⟩
              database.schema
          rw [hschema] at htransaction
          obtain ⟨now, hcommits, hledger⟩ := htransaction
          rw [Program.run_bind_ok _ (by rw [Program.run_await]; exact hcommits)]
          rcases DurableDatabase.migrationTransaction_cases (batchOf execute) native
            (appliedAt appliedCount) database with ⟨committed, happlies, hruns⟩ | ⟨-, _, hfails⟩
          · obtain rfl : committed = now :=
              congrArg Prod.snd (hruns.symm.trans hcommits)
            have hhistory : ∀ row, row ∈ committed.history ↔ row ∈ database.history ∨
                row = DurableDatabase.NativeMigration.record native (appliedAt appliedCount) := by
              intro row
              rw [Table.mem_def, happlies.history, List.mem_append, List.mem_singleton]
              rfl
            refine hrest (appliedCount + 1) committed (fun row hrow => (hhistory row).mpr (.inl hrow))
              ?_ ?_
            · intro row hrow
              rcases (hhistory row).mp hrow with hold | rfl
              · exact .inl hold
              · exact .inr ⟨rfl, rfl, rfl⟩
            · rw [historyKeys, happlies.history]
              simp [DurableDatabase.NativeMigration.record]
          · cases congrArg Prod.fst (hfails.symm.trans hcommits)

theorem applyGroups_accepted {collation : Collation} {readings : Nat → Nat → ClockReading}
    {call : Nat} {manifests : List FeatureManifest} {before after : MigrationDatabase Schema}
    {outcome : Except Thrown Unit} (hrun : (applyGroups execute collation readings call
      ((featureGroups manifests).map (·.2))).Outcome (fallible memoryConnection) before outcome
        after) {key : MigrationKey} (hkey : key ∈ historyKeys after) :
    key ∈ historyKeys before ∨
      ∃ manifest ∈ manifests, key ∈ featureKeys manifest ∧ Accepted manifest := by
  induction manifests generalizing call before with
  | nil =>
      obtain ⟨-, rfl⟩ := hrun
      exact .inl hkey
  | cons manifest rest ih =>
      by_cases hnone : manifest.migrations = []
      · have hgroups : featureGroups (manifest :: rest) = featureGroups rest := by
          simp [featureGroups, hnone]
        rw [hgroups] at hrun
        rcases ih hrun with hold | ⟨found, hfound, hkeys⟩
        · exact .inl hold
        · exact .inr ⟨found, List.mem_cons_of_mem _ hfound, hkeys⟩
      · have hgroups : (featureGroups (manifest :: rest)).map (·.2) =
            featureScripts manifest :: (featureGroups rest).map (·.2) := by
          simp [featureGroups, hnone]
        have hfirst : ∀ {answer : Except Thrown Nat} {between : MigrationDatabase Schema},
            (applyMigrations execute collation (readings call) (featureScripts manifest)).Outcome
              (fallible memoryConnection) before answer between →
            ∀ other ∈ historyKeys between, other ∈ historyKeys before ∨
              ∃ found ∈ manifest :: rest, other ∈ featureKeys found ∧ Accepted found := by
          intro answer between hcall other hother
          by_cases haccepted : Accepted manifest
          · obtain ⟨completed, left, hsplit, hkeys, -⟩ := applyMigrations_feature hnone hcall
            rw [hkeys, List.mem_append] at hother
            refine hother.imp_right fun hnew => ⟨manifest, List.mem_cons_self, ?_, haccepted⟩
            rw [hsplit]
            exact List.mem_append_left _ (List.mem_filter.mp hnew).1
          · have hpreflight : ∃ error, preflight (featureScripts manifest) = .error error := by
              cases hchecks : preflight (featureScripts manifest) with
              | error error => exact ⟨error, rfl⟩
              | ok checked =>
                  refine absurd ?_ haccepted
                  rw [Accepted, hchecks]
                  rfl
            obtain ⟨error, hpreflight⟩ := hpreflight
            unfold applyMigrations at hcall
            rw [hpreflight, Program.outcome_bind] at hcall
            rcases hcall with ⟨checked, now, ⟨hok, -⟩, -⟩ | ⟨error', ⟨-, rfl⟩, -⟩
            · cases hok
            · exact .inl hother
        rw [hgroups, applyGroups, Program.outcome_bind] at hrun
        rcases hrun with ⟨count, between, hcall, hnext⟩ | ⟨error, hcall, rfl⟩
        · rcases ih hnext with hold | ⟨found, hfound, hkeys⟩
          · exact hfirst hcall key hold
          · exact .inr ⟨found, List.mem_cons_of_mem _ hfound, hkeys⟩
        · exact hfirst hcall key hkey

theorem migrate_accepted {collation : Collation} {readings : Nat → Nat → ClockReading}
    {manifests : List FeatureManifest} {graph : ResolvedFeatureGraph}
    (hresolve : resolve manifests = .ok graph) {before after : MigrationDatabase Schema}
    {outcome : Except Thrown Unit}
    (hrun : (Platform.migrate execute collation readings manifests).Outcome
      (fallible memoryConnection) before outcome after) {key : MigrationKey}
    (hkey : key ∈ historyKeys after) :
    key ∈ historyKeys before ∨ key ∈ coreKeys ∨
      ∃ manifest ∈ manifests, key ∈ featureKeys manifest ∧ Accepted manifest := by
  have hresolved := resolve_eq_ok hresolve
  have hcore : ∀ {now between : MigrationDatabase Schema} {answer : Except Thrown Nat},
      (applyMigrations execute collation (readings 0) coreMigrations).Outcome
        (fallible memoryConnection) now answer between →
      ∀ other ∈ historyKeys between, other ∈ historyKeys now ∨ other ∈ coreKeys := by
    intro now between answer hcall other hother
    obtain ⟨completed, left, hsplit, hkeys, -⟩ := applyMigrations_core hcall
    rw [hkeys, List.mem_append] at hother
    refine hother.imp_right fun hnew => ?_
    rw [hsplit]
    exact List.mem_append_left _ (List.mem_filter.mp hnew).1
  unfold Platform.migrate at hrun
  rw [Program.outcome_bind] at hrun
  rcases hrun with ⟨_, now, hensure, hrun⟩ | ⟨error, hensure, rfl⟩
  case inr => exact .inl (ensureMigrationTable_outcome hensure ▸ hkey)
  obtain rfl := ensureMigrationTable_outcome hensure
  rw [hresolve, Program.outcome_bind] at hrun
  rcases hrun with ⟨graph', now, ⟨hsame, rfl⟩, hrun⟩ | ⟨error, ⟨herror, -⟩, -⟩
  case inr => cases herror
  cases hsame
  rw [Program.outcome_bind] at hrun
  rcases hrun with ⟨count, between, hcall, hrun⟩ | ⟨error, hcall, rfl⟩
  case inr => exact (hcore hcall key hkey).imp_right .inl
  rw [hresolved.migrations, migrationsByFeature_eq hresolved.ids_nodup] at hrun
  rcases applyGroups_accepted hrun hkey with hold | ⟨manifest, hmanifest, hkeys⟩
  · exact (hcore hcall key hold).imp_right .inl
  · exact .inr (.inr ⟨manifest, (hresolved.mem_iff manifest).mp hmanifest, hkeys⟩)

end Recorded

/-! ## When the runners agree -/

section Agreement

variable {manifests : List FeatureManifest} {graph : ResolvedFeatureGraph}
  {collation : Collation}

/-- The features with migrations are resolved in the byte order of their ids. -/
def InByteOrder (graph : ResolvedFeatureGraph) : Prop :=
  (graph.orderedManifests.filter fun manifest => manifest.migrations ≠ []).Pairwise
    fun left right => left.id < right.id

theorem resolvedMigrations_keys (hresolved : Resolved manifests graph) :
    (resolvedMigrations graph).map CheckedMigration.key = migrationOrder graph := by
  rw [resolvedMigrations, List.map_append, List.map_flatMap, migrationOrder_eq hresolved]
  have hfeatures : graph.orderedManifests.flatMap
      (fun manifest => (checkedFeature manifest).map CheckedMigration.key) =
        graph.orderedManifests.flatMap featureKeys :=
    List.flatMap_congr fun manifest _ => checkedFeature_keys manifest
  have hcore : checkedCoreMigrations.map CheckedMigration.key = coreKeys := by
    simp [checkedCoreMigrations, coreChecked, CheckedMigration.key, coreKeys, coreVersions]
  rw [hcore, hfeatures]

theorem migrationOrder_nodup (hresolved : Resolved manifests graph)
    (haccepted : ∀ manifest ∈ manifests, Accepted manifest) :
    (migrationOrder graph).Nodup := by
  rw [migrationOrder_eq hresolved]
  refine List.nodup_append.mpr ⟨by decide, ?_, ?_⟩
  · refine List.nodup_flatMap.mpr ⟨?_, ?_⟩
    · intro manifest hmanifest
      have hpreflight := (haccepted manifest ((hresolved.mem_iff manifest).mp hmanifest)).preflight_eq
      rw [← checkedFeature_keys]
      refine List.Nodup.of_map (fun key => identity key.1 key.2) ?_
      rw [List.map_map]
      exact (preflight_eq_ok hpreflight).nodup
    · have hids := hresolved.ids_nodup
      rw [List.Nodup, List.pairwise_map] at hids
      refine hids.imp ?_
      intro left right hdistinct key hleft hright
      refine hdistinct (featureOwner_inj.mp ?_)
      rw [← owner_of_mem_featureKeys hleft, owner_of_mem_featureKeys hright]
  · intro core hcore key hkey hsame
    obtain ⟨manifest, -, hmanifest⟩ := List.mem_flatMap.mp hkey
    refine featureOwner_ne_platform manifest.id ?_
    rw [← owner_of_mem_featureKeys hmanifest, ← hsame, owner_of_mem_coreKeys hcore]

theorem mem_resolvedMigrations {migration : CheckedMigration}
    (hmem : migration ∈ resolvedMigrations graph) :
    migration ∈ checkedCoreMigrations ∨
      ∃ manifest ∈ graph.orderedManifests, migration ∈ checkedFeature manifest := by
  rcases List.mem_append.mp hmem with hcore | hfeature
  · exact .inl hcore
  · exact .inr (List.mem_flatMap.mp hfeature)

theorem owner_of_mem_checkedCoreMigrations {migration : CheckedMigration}
    (hmem : migration ∈ checkedCoreMigrations) : migration.owner = "platform" := by
  revert migration
  simp [checkedCoreMigrations, coreChecked]

theorem eq_of_key_eq (hresolved : Resolved manifests graph) {left right : CheckedMigration}
    (hleft : left ∈ resolvedMigrations graph) (hright : right ∈ resolvedMigrations graph)
    (hkey : left.key = right.key)
    (haccepted : left.key ∈ coreKeys ∨
      ∃ manifest ∈ manifests, left.key ∈ featureKeys manifest ∧ Accepted manifest) :
    left = right := by
  have howner : left.owner = right.owner := congrArg Prod.fst hkey
  rcases haccepted with hcore | ⟨manifest, hmanifest, hfeature, haccepted⟩
  · have hplatform : left.owner = "platform" := owner_of_mem_coreKeys hcore
    have hmem : ∀ {migration : CheckedMigration}, migration ∈ resolvedMigrations graph →
        migration.owner = "platform" → migration ∈ checkedCoreMigrations := by
      intro migration hmigration hsame
      rcases mem_resolvedMigrations hmigration with hfound | ⟨found, -, hfound⟩
      · exact hfound
      · exact absurd ((owner_of_mem_checkedFeature hfound).symm.trans hsame)
          (featureOwner_ne_platform found.id)
    have hnodup : (checkedCoreMigrations.map CheckedMigration.key).Nodup := by
      simp [checkedCoreMigrations, coreChecked, CheckedMigration.key]
    exact List.inj_on_of_nodup_map hnodup (hmem hleft hplatform)
      (hmem hright (howner.symm.trans hplatform)) hkey
  · have hfeatureOwner : left.owner = featureOwner manifest.id :=
      owner_of_mem_featureKeys hfeature
    have hmem : ∀ {migration : CheckedMigration}, migration ∈ resolvedMigrations graph →
        migration.owner = featureOwner manifest.id → migration ∈ checkedFeature manifest := by
      intro migration hmigration hsame
      rcases mem_resolvedMigrations hmigration with hfound | ⟨found, hfoundMem, hfound⟩
      · exact absurd (hsame.symm.trans (owner_of_mem_checkedCoreMigrations hfound))
          (featureOwner_ne_platform manifest.id)
      · have hid := featureOwner_inj.mp ((owner_of_mem_checkedFeature hfound).symm.trans hsame)
        rw [← eq_of_id_eq hresolved.ids_nodup hfoundMem
          ((hresolved.mem_iff manifest).mpr hmanifest) hid]
        exact hfound
    have hnodup : ((checkedFeature manifest).map CheckedMigration.key).Nodup := by
      refine List.Nodup.of_map (fun key => identity key.1 key.2) ?_
      rw [List.map_map]
      exact (preflight_eq_ok haccepted.preflight_eq).nodup
    exact List.inj_on_of_nodup_map hnodup (hmem hleft hfeatureOwner)
      (hmem hright (howner.symm.trans hfeatureOwner)) hkey

theorem accepted_of_agree (hresolve : resolve manifests = .ok graph)
    (hagree : RunnersAgree collation manifests graph) :
    ∀ manifest ∈ manifests, Accepted manifest := by
  have hresolved := resolve_eq_ok hresolve
  intro manifest hmanifest
  by_cases hnone : manifest.migrations = []
  · have hscripts : featureScripts manifest = [] := by
      simp [featureScripts, sortedMigrations, hnone]
    rw [Accepted, hscripts]
    rfl
  obtain ⟨definition, hdefinition⟩ := List.exists_mem_of_ne_nil _ hnone
  have hsucceeds : Succeeds MigrationRunners.alwaysSucceeds := fun _ schema => ⟨schema, rfl⟩
  have hsame := hagree Unit MigrationRunners.alwaysSucceeds () (fun _ => midnightReadings)
    (fun _ => "") _ (.refl _)
  obtain ⟨outcome, later, hrun, -, hrows, hcovers⟩ := applyOrdered_covers hsucceeds
    (fun _ => "") 0 (((resolvedMigrations graph).map toNative).insertionSort NativeLe) ⟨(), .empty⟩
  have hnative : nativeHistory MigrationRunners.alwaysSucceeds (fun _ => "")
      ((resolvedMigrations graph).map toNative) () = historyKeys later := by
    rw [nativeHistory, applyMigrations_run, hrun]
  -- what is recorded on either side has passed the checks
  have hstarted : ∀ key ∈ historyKeys later, key ∈ coreKeys ∨
      ∃ manifest ∈ manifests, key ∈ featureKeys manifest ∧ Accepted manifest := by
    intro key hkey
    rw [← hnative, ← hsame, startHistory] at hkey
    have houtcome : (Platform.migrate MigrationRunners.alwaysSucceeds collation
        (fun _ => midnightReadings) manifests).Outcome (fallible memoryConnection) ⟨(), .empty⟩ _ _ :=
      Program.outcome_run (fun _ _ _ => .inl rfl) _ _
    exact (migrate_accepted hresolve houtcome hkey).resolve_left (by simp [historyKeys, Table.empty])
  have hnatives : ∀ {native : NativeMigration},
      native ∈ ((resolvedMigrations graph).map toNative).insertionSort NativeLe →
        ∃ migration ∈ resolvedMigrations graph, toNative migration = native := by
    intro native hmem
    exact List.mem_map.mp ((List.mem_insertionSort _).mp hmem)
  rcases hcovers with hall | ⟨native, hmem, row, hrow, howner, hversion, hchecksum⟩
  · have hmigration : ∃ migration ∈ resolvedMigrations graph,
        migration.owner = featureOwner manifest.id := by
      have hsorted : definition ∈ sortedMigrations manifest :=
        (sortedMigrations_perm manifest).mem_iff.mpr hdefinition
      refine ⟨_, List.mem_append_right _ (List.mem_flatMap.mpr
        ⟨manifest, (hresolved.mem_iff manifest).mpr hmanifest,
          List.mem_map.mpr ⟨definition, hsorted, rfl⟩⟩), rfl⟩
    obtain ⟨migration, hmem, howner⟩ := hmigration
    have hkey := hall (toNative migration)
      ((List.mem_insertionSort _).mpr (List.mem_map_of_mem hmem))
    rcases hstarted _ hkey with hcore | ⟨found, hfound, hfeature, haccepted⟩
    · exact absurd (howner.symm.trans (owner_of_mem_coreKeys hcore))
        (featureOwner_ne_platform manifest.id)
    · have hid := featureOwner_inj.mp (howner.symm.trans (owner_of_mem_featureKeys hfeature))
      have hfoundSame : manifest = found :=
        eq_of_id_eq hresolved.ids_nodup ((hresolved.mem_iff manifest).mpr hmanifest)
          ((hresolved.mem_iff found).mpr hfound) hid
      exact hfoundSame ▸ haccepted
  · rcases hrows row hrow with hempty | ⟨other, hother, hrowOf⟩
    · simp [Table.mem_def, Table.empty] at hempty
    obtain ⟨migration, hmigration, rfl⟩ := hnatives hmem
    obtain ⟨found, hfound, rfl⟩ := hnatives hother
    have hkey : found.key = migration.key :=
      Prod.ext (hrowOf.1.symm.trans howner) (hrowOf.2.1.symm.trans hversion)
    have hrecorded : found.key ∈ historyKeys later := by
      refine List.mem_map.mpr ⟨row, hrow, ?_⟩
      rw [hrowOf.1, hrowOf.2.1]
      rfl
    have heq := eq_of_key_eq hresolved hfound hmigration hkey (hstarted _ hrecorded)
    exact absurd (heq ▸ hrowOf.2.2) hchecksum

theorem histories_of_accepted (hresolve : resolve manifests = .ok graph)
    (haccepted : ∀ manifest ∈ manifests, Accepted manifest) {execute : ScriptExecution Schema}
    (readings : Nat → Nat → ClockReading) (appliedAt : Nat → String) (initial : Schema)
    (natives : List NativeMigration) {sorted : List CheckedMigration}
    (hsorted : natives.insertionSort NativeLe = sorted.map toNative)
    (hperm : sorted.Perm (resolvedMigrations graph)) :
    startHistory execute collation readings manifests initial =
        (replay execute (resolvedMigrations graph) ⟨initial, []⟩).2.keys ∧
      nativeHistory execute appliedAt natives initial =
        (replay execute sorted ⟨initial, []⟩).2.keys := by
  have hresolved := resolve_eq_ok hresolve
  have hempty : ∀ key, key ∉ historyKeys (⟨initial, .empty⟩ : MigrationDatabase Schema) := by
    simp [historyKeys, Table.empty]
  constructor
  · obtain ⟨outcome, later, hrun, hreplay⟩ := migrate_run execute collation readings hresolve
      haccepted (compatible_of_fresh fun key hkey => absurd hkey (hempty key))
      (fun key hkey => absurd hkey (hempty key))
    rw [startHistory, hrun]
    exact (congrArg (fun pair => pair.2.keys) hreplay).symm
  · have hnodup : (sorted.map CheckedMigration.key).Nodup := by
      rw [(hperm.map CheckedMigration.key).nodup_iff, resolvedMigrations_keys hresolved]
      exact migrationOrder_nodup hresolved haccepted
    obtain ⟨outcome, later, hrun, hreplay⟩ := applyOrdered_run execute appliedAt 0 hnodup
      (fun migration _ => hempty migration.key)
    rw [nativeHistory, applyMigrations_run, hsorted, hrun]
    exact (congrArg (fun pair => pair.2.keys) hreplay).symm

theorem id_lt_of_nativeLe {left right : FeatureManifest} (hdistinct : left.id ≠ right.id)
    {leftVersion rightVersion : Int}
    (hle : NativeLe ⟨featureOwner left.id, leftVersion, "", "", ""⟩
      ⟨featureOwner right.id, rightVersion, "", "", ""⟩) : left.id < right.id := by
  unfold NativeLe at hle
  simp only [migrationOwnerOrder_feature, lt_irrefl, false_or, true_and] at hle
  rcases hle with hlt | ⟨hsame, -⟩
  · exact featureOwner_lt_iff.mp hlt
  · exact absurd (featureOwner_inj.mp hsame) hdistinct

theorem inByteOrder_of_sorted (hresolved : Resolved manifests graph)
    (hsorted : (migrationOrder graph).Pairwise fun left right =>
      NativeLe ⟨left.1, left.2, "", "", ""⟩ ⟨right.1, right.2, "", "", ""⟩) :
    InByteOrder graph := by
  rw [migrationOrder_eq hresolved] at hsorted
  have hfeatures := (List.pairwise_flatMap.mp (List.pairwise_append.mp hsorted).2.1).2
  have hids := hresolved.ids_nodup
  rw [List.Nodup, List.pairwise_map] at hids
  have hboth := (hfeatures.and hids).sublist
    (List.filter_sublist (p := fun manifest => decide (manifest.migrations ≠ [])))
  refine hboth.imp_of_mem ?_
  rintro left right hleft hright ⟨hle, hdistinct⟩
  have hkey : ∀ {manifest : FeatureManifest}, manifest ∈ graph.orderedManifests.filter
      (fun manifest => manifest.migrations ≠ []) →
        ∃ version, (featureOwner manifest.id, version) ∈ featureKeys manifest := by
    intro manifest hmem
    have hne : manifest.migrations ≠ [] := by simpa using (List.mem_filter.mp hmem).2
    obtain ⟨definition, hdefinition⟩ := List.exists_mem_of_ne_nil _ hne
    exact ⟨definition.version, List.mem_map.mpr ⟨definition,
      (sortedMigrations_perm manifest).mem_iff.mpr hdefinition, rfl⟩⟩
  obtain ⟨leftVersion, hleftKey⟩ := hkey hleft
  obtain ⟨rightVersion, hrightKey⟩ := hkey hright
  exact id_lt_of_nativeLe hdistinct (hle _ hleftKey _ hrightKey)

theorem resolvedMigrations_sorted (horder : InByteOrder graph) :
    ((resolvedMigrations graph).map toNative).Pairwise NativeLe := by
  have hbehind : ∀ {core feature : CheckedMigration}, core ∈ checkedCoreMigrations →
      ∀ {manifest : FeatureManifest}, feature ∈ checkedFeature manifest →
        NativeLe (toNative core) (toNative feature) := by
    intro core feature hcore manifest hfeature
    refine .inl ?_
    change (migrationOwnerOrder core.owner).1 < (migrationOwnerOrder feature.owner).1
    rw [owner_of_mem_checkedCoreMigrations hcore, owner_of_mem_checkedFeature hfeature,
      migrationOwnerOrder_feature]
    exact Nat.zero_lt_one
  rw [resolvedMigrations, List.pairwise_map]
  refine List.pairwise_append.mpr ⟨?_, ?_, ?_⟩
  · have hversions : checkedCoreMigrations.Pairwise fun left right =>
        left.owner = right.owner ∧ left.version ≤ right.version := by
      simp [checkedCoreMigrations, coreChecked]
    refine hversions.imp ?_
    rintro left right ⟨howner, hle⟩
    change NativeLe ⟨left.owner, _, _, _, _⟩ _
    rw [howner]
    exact .inr ⟨rfl, .inr ⟨rfl, hle⟩⟩
  · refine List.pairwise_flatMap.mpr ⟨?_, ?_⟩
    · intro manifest _
      rw [checkedFeature, List.pairwise_map]
      refine (sortedMigrations_pairwise manifest).imp ?_
      intro left right hle
      exact .inr ⟨rfl, .inr ⟨rfl, hle⟩⟩
    · have hall : graph.orderedManifests.Pairwise fun left right =>
          left.migrations ≠ [] → right.migrations ≠ [] → left.id < right.id := by
        have hfiltered := List.pairwise_filter.mp horder
        refine hfiltered.imp ?_
        intro left right himp hleft hright
        exact himp (by simpa using hleft) (by simpa using hright)
      refine hall.imp ?_
      intro left right himp leftMigration hleft rightMigration hright
      have hne : ∀ {manifest : FeatureManifest} {migration : CheckedMigration},
          migration ∈ checkedFeature manifest → manifest.migrations ≠ [] := by
        intro manifest migration hmem hnone
        simp [checkedFeature, sortedMigrations, hnone] at hmem
      refine .inr ⟨?_, .inl ?_⟩
      · change (migrationOwnerOrder leftMigration.owner).1 = _
        rw [owner_of_mem_checkedFeature hleft, migrationOwnerOrder_feature]
        change _ = (migrationOwnerOrder rightMigration.owner).1
        rw [owner_of_mem_checkedFeature hright, migrationOwnerOrder_feature]
      · change (migrationOwnerOrder leftMigration.owner).2 <
          (migrationOwnerOrder rightMigration.owner).2
        rw [owner_of_mem_checkedFeature hleft, owner_of_mem_checkedFeature hright,
          migrationOwnerOrder_feature, migrationOwnerOrder_feature]
        exact featureOwner_lt_iff.mpr (himp (hne hleft) (hne hright))
  · intro core hcore feature hfeature
    obtain ⟨manifest, -, hmanifest⟩ := List.mem_flatMap.mp hfeature
    exact hbehind hcore hmanifest

theorem insertionSort_eq_map (natives : List NativeMigration)
    (hperm : natives.Perm ((resolvedMigrations graph).map toNative)) :
    ∃ sorted : List CheckedMigration, natives.insertionSort NativeLe = sorted.map toNative ∧
      sorted.Perm (resolvedMigrations graph) := by
  have hsortedPerm := (List.perm_insertionSort NativeLe natives).trans hperm
  refine ⟨(natives.insertionSort NativeLe).map ofNative, ?_, ?_⟩
  · rw [List.map_map]
    exact (List.map_id _).symm
  · have hmapped := hsortedPerm.map ofNative
    rw [List.map_map] at hmapped
    exact hmapped.trans (.of_eq (List.map_id _))

theorem inByteOrder_of_agree (hresolve : resolve manifests = .ok graph)
    (hagree : RunnersAgree collation manifests graph) : InByteOrder graph := by
  have hresolved := resolve_eq_ok hresolve
  have haccepted := accepted_of_agree hresolve hagree
  have hsucceeds : Succeeds MigrationRunners.alwaysSucceeds := fun _ schema => ⟨schema, rfl⟩
  obtain ⟨sorted, hsorted, hperm⟩ :=
    insertionSort_eq_map ((resolvedMigrations graph).map toNative) (.refl _)
  have hsame := hagree Unit MigrationRunners.alwaysSucceeds () (fun _ => midnightReadings)
    (fun _ => "") _ (.refl _)
  obtain ⟨hstart, hnative⟩ := histories_of_accepted hresolve haccepted
    (fun _ => midnightReadings) (fun _ => "") () _ hsorted hperm
  have hnodup := migrationOrder_nodup hresolved haccepted
  rw [← resolvedMigrations_keys hresolved] at hnodup
  rw [hstart, hnative, (replay_of_succeeds hsucceeds hnodup _).2,
    (replay_of_succeeds hsucceeds ((hperm.map CheckedMigration.key).nodup_iff.mpr hnodup) _).2]
    at hsame
  have hkeys : migrationOrder graph = sorted.map CheckedMigration.key := by
    simpa [resolvedMigrations_keys hresolved] using hsame
  refine inByteOrder_of_sorted hresolved ?_
  have hordered := List.pairwise_insertionSort NativeLe ((resolvedMigrations graph).map toNative)
  rw [hsorted, List.pairwise_map] at hordered
  rw [hkeys, List.pairwise_map]
  exact hordered

theorem agree_of_inByteOrder (hresolve : resolve manifests = .ok graph)
    (haccepted : ∀ manifest ∈ manifests, Accepted manifest) (horder : InByteOrder graph) :
    RunnersAgree collation manifests graph := by
  have hresolved := resolve_eq_ok hresolve
  intro Schema execute initial readings appliedAt natives hperm
  obtain ⟨sorted, hsorted, hsortedPerm⟩ := insertionSort_eq_map natives hperm
  have hnodup := migrationOrder_nodup hresolved haccepted
  rw [← resolvedMigrations_keys hresolved] at hnodup
  have hsame : sorted = resolvedMigrations graph := by
    have hordered := List.pairwise_insertionSort NativeLe natives
    rw [hsorted, List.pairwise_map] at hordered
    have hresolvedOrder := resolvedMigrations_sorted horder
    rw [List.pairwise_map] at hresolvedOrder
    refine hsortedPerm.eq_of_pairwise ?_ hordered hresolvedOrder
    intro left right hleft hright hle hge
    have hkey := nativeLe_antisymm hle hge
    exact List.inj_on_of_nodup_map hnodup (hsortedPerm.mem_iff.mp hleft) hright
      (Prod.ext hkey.1 hkey.2)
  obtain ⟨hstart, hnative⟩ := histories_of_accepted hresolve haccepted readings appliedAt initial
    natives hsorted hsortedPerm
  rw [hstart, hnative, hsame]

/-- The runners agree where the engine accepts every feature, and the resolver happens to
list the features with migrations as their ids are sorted. -/
theorem runnersAgree_iff (hresolve : resolve manifests = .ok graph) :
    RunnersAgree collation manifests graph ↔
      (∀ manifest ∈ manifests, Accepted manifest) ∧ InByteOrder graph :=
  ⟨fun hagree => ⟨accepted_of_agree hresolve hagree, inByteOrder_of_agree hresolve hagree⟩,
    fun ⟨haccepted, horder⟩ => agree_of_inByteOrder hresolve haccepted horder⟩

end Agreement

/-! ### Notes and labels -/

def notesAndLabels : List FeatureManifest :=
  [{ id := "notes", dependencies := ["labels"], migrations := [notesMigration] },
   { id := "labels", migrations := [tagsMigration] }]

def labelsBeforeNotes : ResolvedFeatureGraph where
  orderedManifests :=
    [{ id := "labels", migrations := [tagsMigration] },
     { id := "notes", dependencies := ["labels"], migrations := [notesMigration] }]
  orderedMigrations := [("labels", tagsMigration), ("notes", notesMigration)]

theorem labelsBeforeNotes_agree :
    RunnersAgree .codePoint notesAndLabels labelsBeforeNotes := by
  have hresolve : resolve notesAndLabels = .ok labelsBeforeNotes := by
    decide +kernel
  have haccepted : ∀ manifest ∈ notesAndLabels, Accepted manifest := by
    unfold Accepted
    decide +kernel
  have horder : InByteOrder labelsBeforeNotes := by
    unfold InByteOrder
    decide +kernel
  exact (runnersAgree_iff hresolve).mpr ⟨haccepted, horder⟩

/-- The native runner migrates the notes before the tags which they need. -/
theorem tagsBeforeNotes_disagree :
    ¬ ∀ (collation : Collation) (manifests : List FeatureManifest) (graph : ResolvedFeatureGraph),
      resolve manifests = .ok graph → RunnersAgree collation manifests graph := by
  intro hall
  have hresolve : resolve notesAndTags = .ok tagsBeforeNotes := by
    decide +kernel
  have horder := inByteOrder_of_agree hresolve (hall .codePoint _ _ hresolve)
  unfold InByteOrder at horder
  revert horder
  decide +kernel

end RunnerOrder
end TauriPlatform
