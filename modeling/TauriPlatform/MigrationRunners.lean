import TauriPlatform.NativeMigrations

/-!
# Two runners on one history

The native runner leaves out versions of the platform which the engine has.  A start of the
platform fills such a gap in, below what has been applied before.
-/

namespace TauriPlatform

open Async Relational MigrationEngine

namespace MigrationRunners

variable {Schema : Type}

/-! ## Runs -/

/-- A run of the native runner or a start of the platform, where this one is admitted. -/
inductive Run (execute executeBatch : ScriptExecution Schema) (collation : Collation)
    (Admitted : MigrationDatabase Schema → Prop) :
    MigrationDatabase Schema → MigrationDatabase Schema → Prop
  | native (appliedAt : Nat → String) {before after : MigrationDatabase Schema}
      {outcome : Except NativeError Nat} :
      (DurableDatabase.applyMigrations executeBatch appliedAt nativeCoreMigrations).Outcome
        (fallible durableConnection) before outcome after →
      Run execute executeBatch collation Admitted before after
  | start (readings : Nat → Nat → ClockReading) (manifests : List FeatureManifest)
      {before after : MigrationDatabase Schema} {outcome : Except Thrown Unit} :
      Admitted before →
      (Platform.migrate execute collation readings manifests).Outcome
        (fallible memoryConnection) before outcome after →
      Run execute executeBatch collation Admitted before after

def InVersionOrder (database : MigrationDatabase Schema) : Prop :=
  ∀ owner, (appliedVersions owner database.history.rows).Pairwise (· < ·)

/-- The recorded versions of the platform are `1, 2, …`. -/
def PlatformWithoutGap (database : MigrationDatabase Schema) : Prop :=
  Consecutive (appliedVersions "platform" database.history.rows)

/-! ## The invariant -/

def nativeVersions : List Int :=
  [1, 2, 6, 8]

structure Sound (database : MigrationDatabase Schema) : Prop where
  features : ∀ owner, owner ≠ "platform" →
    Consecutive (appliedVersions owner database.history.rows)
  ascending : (appliedVersions "platform" database.history.rows).Pairwise (· < ·)
  /-- A native version is not below a recorded one, unless it is recorded. -/
  filled : ∀ version ∈ appliedVersions "platform" database.history.rows,
    ∀ native ∈ nativeVersions, native < version →
      native ∈ appliedVersions "platform" database.history.rows

theorem Consecutive.pairwise {versions : List Int} (hversions : Consecutive versions) :
    versions.Pairwise (· < ·) := by
  obtain ⟨count, rfl⟩ := hversions
  rw [List.pairwise_map]
  refine List.pairwise_lt_range.imp ?_
  intro left right hlt
  omega

variable {database : MigrationDatabase Schema}

theorem Sound.inVersionOrder (hsound : Sound database) :
    InVersionOrder database := by
  intro owner
  by_cases howner : owner = "platform"
  · exact howner ▸ hsound.ascending
  · exact Consecutive.pairwise (hsound.features owner howner)

theorem sound_of_consecutive (hconsecutive : ConsecutiveHistory database) : Sound database where
  features owner _ := hconsecutive owner
  ascending := Consecutive.pairwise (hconsecutive "platform")
  filled := by
    intro version hversion native hnative hlt
    obtain ⟨count, hcount⟩ := hconsecutive "platform"
    rw [hcount, Consecutive.mem_iff] at hversion ⊢
    have hall : ∀ other ∈ nativeVersions, 0 < other := by decide
    have hpositive := hall native hnative
    omega

theorem consecutive_of_sound (hsound : Sound database) (hplatform : PlatformWithoutGap database) :
    ConsecutiveHistory database := by
  intro owner
  by_cases howner : owner = "platform"
  · exact howner ▸ hplatform
  · exact hsound.features owner howner

/-! ## A start -/

theorem admits_consecutive (execute : ScriptExecution Schema) {script : MigrationScript}
    {migration : CheckedMigration} (hchecks : ChecksTo script migration) :
    Admits execute ConsecutiveHistory (fun _ => True) migration :=
  fun _ _ _ hconsecutive _ hpred happlies =>
    hconsecutive.applies happlies hchecks.positive hpred

theorem keeps_applyGroups (execute : ScriptExecution Schema) (collation : Collation)
    (readings : Nat → Nat → ClockReading) (call : Nat) (groups : List (List MigrationScript))
    (state : MigrationDatabase Schema) :
    KeepsInvariant ConsecutiveHistory (fun _ => True) anyOutcome
      (applyGroups execute collation readings call groups) state := by
  induction groups generalizing call state with
  | nil => trivial
  | cons scripts rest ih =>
      refine Program.Safe.bind (Program.Safe.mono ?_ (keeps_applyMigrations collation
        (readings call) scripts fun script _ _ hchecks => admits_consecutive execute hchecks))
      intro outcome now _
      cases outcome with
      | ok count => exact ih (call + 1) now
      | error error => trivial

theorem keeps_migrate (execute : ScriptExecution Schema) (collation : Collation)
    (readings : Nat → Nat → ClockReading) (manifests : List FeatureManifest)
    (state : MigrationDatabase Schema) :
    KeepsInvariant ConsecutiveHistory (fun _ => True) anyOutcome
      (Platform.migrate execute collation readings manifests) state := by
  have hmigrate : ∀ scripts, KeepsInvariant ConsecutiveHistory (fun _ => True) anyOutcome
      (do
        ensureMigrationTable
        let graph ← Program.ofExcept (DependencyResolver.resolve manifests)
        let _ ← applyMigrations execute collation (readings 0) scripts
        applyGroups execute collation readings 1
          ((migrationsByFeature graph.orderedMigrations).map (·.2))) state := by
    intro scripts
    refine Program.Safe.bind (keeps_ensure ?_)
    intro answer now _
    cases answer with
    | error error => trivial
    | ok value =>
        refine Program.Safe.bind ?_
        cases DependencyResolver.resolve manifests with
        | error error => trivial
        | ok graph =>
            refine Program.Safe.bind (Program.Safe.mono ?_ (keeps_applyMigrations collation
              (readings 0) scripts fun script _ _ hchecks =>
                admits_consecutive execute hchecks))
            intro outcome later _
            cases outcome with
            | ok count => exact keeps_applyGroups execute collation readings 1 _ later
            | error error => trivial
  exact hmigrate coreMigrations

/-! ## A native run -/

section Native

variable {executeBatch : ScriptExecution Schema} {before after : MigrationDatabase Schema}

theorem Sound.native (hsound : Sound before) {row : AppliedMigration}
    (hrows : after.history.rows = before.history.rows ++ [row]) (howner : row.owner = "platform")
    (hnew : row.version ∉ appliedVersions "platform" before.history.rows)
    (hnative : row.version ∈ nativeVersions)
    (hpassed : ∀ native ∈ nativeVersions, native < row.version →
      native ∈ appliedVersions "platform" before.history.rows) : Sound after := by
  have hplatform : appliedVersions "platform" after.history.rows =
      appliedVersions "platform" before.history.rows ++ [row.version] := by
    rw [hrows, appliedVersions_snoc, if_pos howner]
  have hbelow : ∀ version ∈ appliedVersions "platform" before.history.rows,
      version < row.version := by
    intro version hversion
    by_contra hle
    rcases (not_lt.mp hle).lt_or_eq with hlt | heq
    · exact hnew (hsound.filled version hversion row.version hnative hlt)
    · exact hnew (heq ▸ hversion)
  constructor
  · intro owner hother
    rw [hrows, appliedVersions_snoc, if_neg fun hsame => hother (hsame.symm.trans howner),
      List.append_nil]
    exact hsound.features owner hother
  · rw [hplatform]
    refine List.pairwise_append.mpr ⟨hsound.ascending, List.pairwise_singleton _ _, ?_⟩
    intro version hversion other hother
    rw [List.mem_singleton.mp hother]
    exact hbelow version hversion
  · rw [hplatform]
    intro version hversion native hmem hlt
    refine List.mem_append_left _ ?_
    rcases List.mem_append.mp hversion with hold | hlast
    · exact hsound.filled version hold native hmem hlt
    · rw [List.mem_singleton.mp hlast] at hlt
      exact hpassed native hmem hlt

theorem Sound.applyOrdered (hsound : Sound before) (appliedAt : Nat → String)
    (appliedCount : Nat) {migrations : List NativeMigration}
    (howner : ∀ migration ∈ migrations, migration.owner = "platform")
    (hnative : ∀ migration ∈ migrations, migration.version ∈ nativeVersions)
    (hsorted : (migrations.map (·.version)).Pairwise (· < ·))
    (hpassed : ∀ native ∈ nativeVersions,
      native ∈ appliedVersions "platform" before.history.rows ∨
        native ∈ migrations.map (·.version))
    {outcome : Except NativeError Nat}
    (hrun : (DurableDatabase.applyOrdered executeBatch appliedAt appliedCount migrations).Outcome
      (fallible durableConnection) before outcome after) : Sound after := by
  induction migrations generalizing appliedCount before with
  | nil =>
      obtain ⟨-, rfl⟩ := hrun
      exact hsound
  | cons migration rest ih =>
      obtain ⟨hfirstOwner, hrestOwner⟩ := List.forall_mem_cons.mp howner
      obtain ⟨hfirstNative, hrestNative⟩ := List.forall_mem_cons.mp hnative
      have hafter := hsorted
      rw [List.map_cons, List.pairwise_cons] at hsorted
      -- what is passed, once the version of this migration is recorded
      have hrest : ∀ {now : MigrationDatabase Schema},
          (∀ version ∈ appliedVersions "platform" before.history.rows,
            version ∈ appliedVersions "platform" now.history.rows) →
          migration.version ∈ appliedVersions "platform" now.history.rows →
          ∀ native ∈ nativeVersions,
            native ∈ appliedVersions "platform" now.history.rows ∨
              native ∈ rest.map (·.version) := by
        intro now hkeeps hrecorded native hmem
        rcases hpassed native hmem with hold | hlisted
        · exact .inl (hkeeps native hold)
        · rw [List.map_cons, List.mem_cons] at hlisted
          rcases hlisted with rfl | hlater
          · exact .inl hrecorded
          · exact .inr hlater
      rw [DurableDatabase.applyOrdered, Program.outcome_bind] at hrun
      rcases hrun with ⟨existing, now, hlookup, hrun⟩ | ⟨error, hlookup, rfl⟩
      case inr =>
        rw [Program.outcome_await] at hlookup
        rcases hlookup with hfound | ⟨-, rfl⟩
        · rw [DurableDatabase.lookup_run] at hfound
          cases congrArg Prod.fst hfound
        · exact hsound
      rw [Program.outcome_await] at hlookup
      rcases hlookup with hfound | ⟨⟨error, herror⟩, -⟩
      case inr => cases herror
      rw [DurableDatabase.lookup_run, Prod.mk.injEq, Except.ok.injEq] at hfound
      obtain ⟨rfl, rfl⟩ := hfound
      cases hrows : before.history.select fun row =>
          row.owner = migration.owner ∧ row.version = migration.version with
      | cons row rows =>
          rw [hrows] at hrun
          have hhead : ((row :: rows).map (·.checksum)).head? = some row.checksum := rfl
          rw [hhead] at hrun
          dsimp only at hrun
          split_ifs at hrun
          · obtain ⟨-, rfl⟩ := hrun
            exact hsound
          · have hrecorded : migration.version ∈
                appliedVersions "platform" before.history.rows := by
              have hrow : row ∈ before.history.select fun row =>
                  row.owner = migration.owner ∧ row.version = migration.version := by
                rw [hrows]
                exact List.mem_cons_self
              obtain ⟨hmem, hkey⟩ := Table.mem_select.mp hrow
              obtain ⟨hrowOwner, hrowVersion⟩ := of_decide_eq_true hkey
              rw [← recorded_iff]
              exact ⟨row, hmem, hrowOwner.trans hfirstOwner, hrowVersion⟩
            exact ih hsound appliedCount hrestOwner hrestNative hsorted.2
              (hrest (fun _ hmem => hmem) hrecorded) hrun
      | nil =>
          rw [hrows] at hrun
          have hhead : (([] : List AppliedMigration).map (·.checksum)).head? = none := rfl
          rw [hhead] at hrun
          dsimp only at hrun
          have hunrecorded : migration.version ∉
              appliedVersions "platform" before.history.rows := by
            rw [← recorded_iff]
            rintro ⟨row, hmem, hrowOwner, hrowVersion⟩
            have hrow : row ∈ before.history.select fun row =>
                row.owner = migration.owner ∧ row.version = migration.version :=
              Table.mem_select.mpr ⟨hmem,
                decide_eq_true ⟨hrowOwner.trans hfirstOwner.symm, hrowVersion⟩⟩
            rw [hrows] at hrow
            cases hrow
          rw [Program.outcome_bind] at hrun
          rcases hrun with ⟨_, now, hcall, hrun⟩ | ⟨error, hcall, rfl⟩
          · rw [Program.outcome_await] at hcall
            rcases hcall with hcommits | ⟨⟨error, herror⟩, -⟩
            case inr => cases herror
            rcases DurableDatabase.migrationTransaction_cases executeBatch migration
              (appliedAt appliedCount) before with ⟨later, happlies, hruns⟩ | ⟨-, error, hfails⟩
            case inr => cases hfails.symm.trans hcommits
            cases hruns.symm.trans hcommits
            have hversions : appliedVersions "platform" now.history.rows =
                appliedVersions "platform" before.history.rows ++ [migration.version] := by
              rw [happlies.history, appliedVersions_snoc]
              exact congrArg _ (if_pos hfirstOwner)
            refine ih (hsound.native happlies.history hfirstOwner hunrecorded hfirstNative ?_)
              (appliedCount + 1) hrestOwner hrestNative hsorted.2 (hrest ?_ ?_) hrun
            · intro native hmem hlt
              refine (hpassed native hmem).resolve_right ?_
              intro hlisted
              rw [List.map_cons, List.mem_cons] at hlisted
              rcases hlisted with rfl | hlater
              · exact lt_irrefl _ hlt
              · exact lt_asymm hlt (hsorted.1 native hlater)
            · intro version hmem
              rw [hversions]
              exact List.mem_append_left _ hmem
            · rw [hversions]
              simp
          · rw [Program.outcome_await] at hcall
            have hsame : after = before := by
              rcases hcall with hfails | ⟨-, hsame⟩
              · rcases DurableDatabase.migrationTransaction_cases executeBatch migration
                  (appliedAt appliedCount) before with ⟨later, -, hruns⟩ | ⟨-, _, hrolledBack⟩
                · cases hruns.symm.trans hfails
                · exact (congrArg Prod.snd (hrolledBack.symm.trans hfails)).symm
              · exact hsame
            exact hsame ▸ hsound

theorem nativeCoreMigrations_sorted :
    nativeCoreMigrations.insertionSort NativeLe = nativeCoreMigrations := by
  refine List.Pairwise.insertionSort_eq ?_
  have hversions : nativeCoreMigrations.Pairwise fun left right =>
      left.owner = right.owner ∧ left.version ≤ right.version := by
    simp [nativeCoreMigrations]
  refine hversions.imp ?_
  rintro left right ⟨howner, hle⟩
  unfold NativeLe
  rw [howner]
  exact .inr ⟨rfl, .inr ⟨rfl, hle⟩⟩

theorem Sound.applyNative (hsound : Sound before) (appliedAt : Nat → String)
    {outcome : Except NativeError Nat}
    (hrun : (DurableDatabase.applyMigrations executeBatch appliedAt nativeCoreMigrations).Outcome
      (fallible durableConnection) before outcome after) : Sound after := by
  unfold DurableDatabase.applyMigrations at hrun
  rw [nativeCoreMigrations_sorted, Program.outcome_bind] at hrun
  have htable : ∀ {answer : Except NativeError (List Unit)} {now : MigrationDatabase Schema},
      (Program.await (.statement "db_migration_table" DurableDatabase.createMigrationsStatement) :
        Program _ NativeError _).Outcome (fallible durableConnection) before answer now →
          now = before := by
    intro answer now hcall
    rw [Program.outcome_await] at hcall
    rcases hcall with hanswer | ⟨-, hsame⟩
    · exact (congrArg Prod.snd hanswer).symm
    · exact hsame
  rcases hrun with ⟨value, now, hcall, hrun⟩ | ⟨error, hcall, rfl⟩
  · obtain rfl := htable hcall
    refine hsound.applyOrdered appliedAt 0 ?_ ?_ ?_ ?_ hrun
    · simp [nativeCoreMigrations]
    · simp [nativeCoreMigrations, nativeVersions]
    · simp [nativeCoreMigrations]
    · intro native hnative
      refine .inr ?_
      simpa [nativeCoreMigrations, nativeVersions] using hnative
  · exact htable hcall ▸ hsound

end Native

/-! ## Sequences of runs -/

/-- Where a start finds no gap in the history of the platform, no run leaves the order. -/
theorem runs_inVersionOrder {execute executeBatch : ScriptExecution Schema}
    {collation : Collation} {initial : Schema} {database : MigrationDatabase Schema}
    (hruns : Relation.ReflTransGen (Run execute executeBatch collation PlatformWithoutGap)
      ⟨initial, .empty⟩ database) : InVersionOrder database := by
  have hsound : Sound database := by
    induction hruns with
    | refl => exact sound_of_consecutive fun _ => ⟨0, rfl⟩
    | tail _ hstep ih =>
        cases hstep with
        | native appliedAt hrun => exact ih.applyNative appliedAt hrun
        | start readings manifests hadmitted hrun =>
            have hsafe := keeps_migrate execute collation readings manifests
            exact sound_of_consecutive (Program.Safe.outcome (fun _ row hrow => hrow)
              (fun _ => trivial) (hsafe _) (consecutive_of_sound ih hadmitted) hrun).1
  exact hsound.inVersionOrder

/-! ### The native runner first -/

def alwaysSucceeds : ScriptExecution Unit :=
  fun _ schema => .ok schema

def emptyDatabase : MigrationDatabase Unit :=
  ⟨(), .empty⟩

def startAlone (database : MigrationDatabase Unit) : Except Thrown Unit × MigrationDatabase Unit :=
  (Platform.migrate alwaysSucceeds .codePoint (fun _ => midnightReadings) []).run
    memoryConnection database

def nativeAlone (database : MigrationDatabase Unit) :
    Except NativeError Nat × MigrationDatabase Unit :=
  (DurableDatabase.applyMigrations alwaysSucceeds (fun _ => "2026-01-01T00:00:00.000Z")
    nativeCoreMigrations).run durableConnection database

theorem run_startAlone {Admitted : MigrationDatabase Unit → Prop}
    {database : MigrationDatabase Unit} (hadmitted : Admitted database) :
    Run alwaysSucceeds alwaysSucceeds .codePoint Admitted database (startAlone database).2 :=
  .start (fun _ => midnightReadings) [] hadmitted
    (Program.outcome_run (fun _ _ _ => .inl rfl) _ _)

theorem run_nativeAlone (Admitted : MigrationDatabase Unit → Prop)
    (database : MigrationDatabase Unit) :
    Run alwaysSucceeds alwaysSucceeds .codePoint Admitted database (nativeAlone database).2 :=
  .native _ (Program.outcome_run (fun _ _ _ => .inl rfl) _ _)

theorem startThenNative_inVersionOrder :
    InVersionOrder (nativeAlone (startAlone emptyDatabase).2).2 := by
  have hstart : Run alwaysSucceeds alwaysSucceeds .codePoint PlatformWithoutGap
      ⟨(), .empty⟩ (startAlone emptyDatabase).2 := run_startAlone ⟨0, rfl⟩
  exact runs_inVersionOrder (.tail (.tail .refl hstart) (run_nativeAlone _ _))

theorem nativeAlone_rows :
    (nativeAlone emptyDatabase).2.history.rows.map
        (fun row => (row.owner, row.version, row.checksum)) =
      [("platform", 1, "chk_platform_core_001"), ("platform", 2, "chk_platform_core_002"),
       ("platform", 6, "chk_platform_core_006"), ("platform", 8, "chk_platform_core_008")] := by
  decide

theorem nativeAlone_compatible :
    Compatible checkedCoreMigrations (nativeAlone emptyDatabase).2 := by
  have hrows : ∀ row ∈ (nativeAlone emptyDatabase).2.history, ∃ migration ∈ checkedCoreMigrations,
      migration.key = (row.owner, row.version) ∧ row.checksum = migration.checksum := by
    intro row hrow
    have hmem := List.mem_map_of_mem (f := fun row : AppliedMigration =>
      (row.owner, row.version, row.checksum)) hrow
    rw [nativeAlone_rows] at hmem
    simp only [List.mem_cons, Prod.mk.injEq, List.not_mem_nil, or_false] at hmem
    rcases hmem with ⟨howner, hversion, hchecksum⟩ | ⟨howner, hversion, hchecksum⟩ |
      ⟨howner, hversion, hchecksum⟩ | ⟨howner, hversion, hchecksum⟩ <;>
    simp [howner, hversion, hchecksum, checkedCoreMigrations, coreChecked, CheckedMigration.key]
  constructor
  · intro row hrow migration hmigration hkey
    obtain ⟨found, hfound, hfoundKey, hchecksum⟩ := hrows row hrow
    have hnodup : (checkedCoreMigrations.map CheckedMigration.key).Nodup := by
      simp [checkedCoreMigrations, coreChecked, CheckedMigration.key]
    have hsame : found = migration :=
      List.inj_on_of_nodup_map hnodup hfound hmigration (hfoundKey.trans hkey.symm)
    rw [hchecksum, hsame]
  · intro row hrow _ _ _
    obtain ⟨found, hfound, hkey, -⟩ := hrows row hrow
    exact ⟨found, hfound, hkey⟩

theorem appliedVersions_eq_keys (owner : String) (database : MigrationDatabase Schema) :
    appliedVersions owner database.history.rows =
      ((historyKeys database).filter fun key => key.1 = owner).map (·.2) := by
  rw [historyKeys, List.filter_map, List.map_map]
  rfl

theorem nativeThenStart_versions :
    appliedVersions "platform" (startAlone (nativeAlone emptyDatabase).2).2.history.rows =
      [1, 2, 6, 8, 3, 4, 5, 7] := by
  have hsucceeds : Succeeds alwaysSucceeds := fun _ schema => ⟨schema, rfl⟩
  have hkeys : historyKeys (nativeAlone emptyDatabase).2 =
      [("platform", 1), ("platform", 2), ("platform", 6), ("platform", 8)] := by
    have hrows := congrArg (List.map fun row : String × Int × String => (row.1, row.2.1))
      nativeAlone_rows
    rw [List.map_map] at hrows
    exact hrows
  have hchecked : checkedCoreMigrations.map CheckedMigration.key = coreKeys := by
    simp [checkedCoreMigrations, coreChecked, CheckedMigration.key, coreKeys, coreVersions]
  have hnodup : (checkedCoreMigrations.map CheckedMigration.key).Nodup := by
    rw [hchecked]
    decide
  have hresolve : DependencyResolver.resolve [] = .ok ⟨[], []⟩ := rfl
  obtain ⟨outcome, later, hrun, hreplay⟩ := migrate_run alwaysSucceeds .codePoint
    (fun _ => midnightReadings) hresolve
    (fun _ hmem => by cases hmem) nativeAlone_compatible (fun _ _ _ hmem => by cases hmem)
  have hkeysLater := (replay_of_succeeds hsucceeds hnodup
    (ledger (nativeAlone emptyDatabase).2)).2
  rw [List.flatMap_nil, List.append_nil] at hreplay
  rw [hreplay, hchecked] at hkeysLater
  have hlater : (startAlone (nativeAlone emptyDatabase).2).2 = later := congrArg Prod.snd hrun
  rw [hlater, appliedVersions_eq_keys]
  change (((ledger later).keys).filter _).map _ = _
  rw [hkeysLater]
  change (((historyKeys (nativeAlone emptyDatabase).2) ++ coreKeys.filter fun key =>
    key ∉ historyKeys (nativeAlone emptyDatabase).2).filter _).map _ = _
  rw [hkeys]
  decide

theorem nativeThenStart_not_inVersionOrder :
    ¬ ∀ database, Relation.ReflTransGen
      (Run alwaysSucceeds alwaysSucceeds .codePoint fun _ => True) emptyDatabase database →
        InVersionOrder database := by
  intro hall
  have hordered := hall (startAlone (nativeAlone emptyDatabase).2).2
    (.tail (.tail .refl (run_nativeAlone _ _)) (run_startAlone trivial)) "platform"
  rw [nativeThenStart_versions] at hordered
  revert hordered
  decide

end MigrationRunners
end TauriPlatform
