import TauriPlatform.AsyncOutcome
import TauriPlatform.MigrationHistory

/-!
# What one call of the migration engine records

The migrations are recorded in the order of the loop, up to the first which fails.
-/

namespace TauriPlatform.MigrationEngine

open Async Relational

abbrev MigrationKey := String × Int

scoped instance lawfulBEq_migrationKey : LawfulBEq MigrationKey := inferInstance

variable {Schema : Type}

def historyKeys (database : MigrationDatabase Schema) : List MigrationKey :=
  database.history.rows.map fun row => (row.owner, row.version)

theorem historyKeys_nodup (database : MigrationDatabase Schema) :
    (historyKeys database).Nodup := by
  have hunique := database.history.unique migrationKey List.mem_cons_self
  have hkeys : database.history.rows.filterMap migrationKey = historyKeys database := by
    rw [historyKeys, ← List.filterMap_eq_map]
    rfl
  rwa [hkeys] at hunique

theorem recorded_iff_mem_keys {owner : String} {version : Int}
    {database : MigrationDatabase Schema} :
    Recorded owner version database ↔ (owner, version) ∈ historyKeys database := by
  simp [Recorded, historyKeys, Table.mem_def]

def CheckedMigration.key (migration : CheckedMigration) : MigrationKey :=
  (migration.owner, migration.version)

theorem Applies.historyKeys_eq {execute : ScriptExecution Schema} {migration : CheckedMigration}
    {appliedAt : String} {before after : MigrationDatabase Schema}
    (happlies : Applies execute migration appliedAt before after) :
    historyKeys after = historyKeys before ++ [migration.key] := by
  rw [historyKeys, happlies.history, List.map_append]
  rfl

/-! ## Progress in an order -/

/-- A first part of the order is recorded, and nothing else has been added; it is all of the
order just when the run is settled. -/
def Advanced (order : List MigrationKey) (before after : MigrationDatabase Schema)
    (settled : Prop) : Prop :=
  ∃ completed rest, order = completed ++ rest ∧
    historyKeys after = historyKeys before ++
      completed.filter (fun key => key ∉ historyKeys before) ∧
    (rest = [] ↔ settled)

namespace Advanced

variable {first second : List MigrationKey} {before between after : MigrationDatabase Schema}
  {settled : Prop}

theorem none (order : List MigrationKey) (hne : order ≠ [])
    (database : MigrationDatabase Schema) : Advanced order database database False :=
  ⟨[], order, rfl, by simp, by simpa using hne⟩

theorem stop (hfirst : Advanced first before after False) (second : List MigrationKey) :
    Advanced (first ++ second) before after False := by
  obtain ⟨completed, rest, rfl, hkeys, hrest⟩ := hfirst
  refine ⟨completed, rest ++ second, List.append_assoc _ _ _, hkeys, ?_⟩
  rw [List.append_eq_nil_iff, hrest, false_and]

theorem append (hfirst : Advanced first before between True)
    (hsecond : Advanced second between after settled)
    (hdisjoint : ∀ key ∈ second, key ∉ first) :
    Advanced (first ++ second) before after settled := by
  obtain ⟨all, rest, rfl, hbetween, hnil⟩ := hfirst
  obtain rfl := hnil.mpr trivial
  obtain ⟨completed, rest, rfl, hafter, hrest⟩ := hsecond
  rw [List.append_nil] at hdisjoint ⊢
  have hsame : (completed.filter fun key => key ∉ historyKeys between) =
      completed.filter fun key => key ∉ historyKeys before := by
    apply List.filter_congr
    intro key hkey
    have hnew := hdisjoint key (List.mem_append_left _ hkey)
    rw [hbetween]
    simp [hnew]
  refine ⟨all ++ completed, rest, (List.append_assoc _ _ _).symm, ?_, hrest⟩
  rw [hafter, hsame, hbetween, List.filter_append, List.append_assoc]

theorem cons {key : MigrationKey}
    (hrecorded : historyKeys between =
      historyKeys before ++ [key].filter fun key => key ∉ historyKeys before)
    (hsecond : Advanced second between after settled) (hnew : key ∉ second) :
    Advanced (key :: second) before after settled := by
  have hfirst : Advanced [key] before between True := ⟨[key], [], rfl, hrecorded, by simp⟩
  refine hfirst.append hsecond ?_
  intro other hother hsame
  rw [List.mem_singleton.mp hsame] at hother
  exact hnew hother

end Advanced

/-! ## The loop -/

variable {execute : ScriptExecution Schema} {before after : MigrationDatabase Schema}

def Snapshot (applied : String → Option String) (migrations : List CheckedMigration)
    (database : MigrationDatabase Schema) : Prop :=
  ∀ migration ∈ migrations,
    (applied migration.identity).isSome ↔ migration.key ∈ historyKeys database

theorem Snapshot.tail {applied : String → Option String} {migration : CheckedMigration}
    {rest : List CheckedMigration} {later : MigrationDatabase Schema}
    (hsnapshot : Snapshot applied (migration :: rest) before)
    (hlater : ∀ other ∈ rest, other.key ∈ historyKeys later ↔ other.key ∈ historyKeys before) :
    Snapshot applied rest later := by
  intro other hother
  rw [hlater other hother]
  exact hsnapshot other (List.mem_cons_of_mem _ hother)

variable {outcome : Except Thrown Nat}

theorem applyAll_outcome {applied : String → Option String} (readings : Nat → ClockReading)
    (appliedCount : Nat) {migrations : List CheckedMigration}
    (hnodup : (migrations.map CheckedMigration.key).Nodup)
    (hsnapshot : Snapshot applied migrations before)
    (hrun : (applyAll execute applied readings appliedCount migrations).Outcome
      (fallible memoryConnection) before outcome after) :
    Advanced (migrations.map CheckedMigration.key) before after
      (∃ count, outcome = .ok count) := by
  induction migrations generalizing appliedCount before with
  | nil =>
      obtain ⟨rfl, rfl⟩ := hrun
      exact ⟨[], [], rfl, by simp, by simp⟩
  | cons migration rest ih =>
      obtain ⟨hnew, hrestNodup⟩ := List.nodup_cons.mp hnodup
      have hfailed : Advanced ((migration :: rest).map CheckedMigration.key) before before
          False := .none _ (List.cons_ne_nil _ _) before
      rw [applyAll] at hrun
      cases hfound : applied migration.identity with
      | some appliedChecksum =>
          rw [hfound] at hrun
          dsimp only at hrun
          split_ifs at hrun
          · obtain ⟨rfl, rfl⟩ := hrun
            simpa using hfailed
          · have hrecorded : migration.key ∈ historyKeys before := by
              rw [← hsnapshot migration List.mem_cons_self, hfound]
              rfl
            refine (ih appliedCount hrestNodup (hsnapshot.tail fun _ _ => Iff.rfl) hrun).cons
              ?_ hnew
            simp [hrecorded]
      | none =>
          have hunrecorded : migration.key ∉ historyKeys before := by
            rw [← hsnapshot migration List.mem_cons_self, hfound]
            simp
          rw [hfound] at hrun
          dsimp only at hrun
          rw [Program.outcome_bind] at hrun
          rcases hrun with ⟨value, between, hfirst, hnext⟩ | ⟨error, hfirst, rfl⟩
          · rw [Program.outcome_await] at hfirst
            rcases hfirst with hcommits | ⟨⟨error, herror⟩, -⟩
            · rcases transaction_cases execute migration (readings appliedCount) before with
                ⟨committed, happlies, hruns⟩ | ⟨-, error, hfails⟩
              · cases hruns.symm.trans hcommits
                have hkeys := happlies.historyKeys_eq
                refine (ih (appliedCount + 1) hrestNodup (hsnapshot.tail ?_) hnext).cons ?_ hnew
                · intro other hother
                  have hdistinct : other.key ≠ migration.key := fun hsame =>
                    hnew (hsame ▸ List.mem_map_of_mem hother)
                  rw [hkeys]
                  simp [hdistinct]
                · rw [hkeys]
                  simp [hunrecorded]
              · cases hfails.symm.trans hcommits
            · cases herror
          · rw [Program.outcome_await] at hfirst
            have hsame : after = before := by
              rcases hfirst with hfails | ⟨-, hsame⟩
              · rcases transaction_cases execute migration (readings appliedCount) before with
                  ⟨committed, -, hruns⟩ | ⟨-, _, hrolledBack⟩
                · cases hruns.symm.trans hfails
                · exact (congrArg Prod.snd (hrolledBack.symm.trans hfails)).symm
              · exact hsame
            subst hsame
            simpa using hfailed

/-! ## One call -/

theorem isSome_appliedByIdentity_iff {applied : List AppliedMigration} {owner : String}
    {version : Int} :
    (appliedByIdentity applied (identity owner version)).isSome ↔
      ∃ row ∈ applied, row.owner = owner ∧ row.version = version := by
  constructor
  · intro hsome
    obtain ⟨checksum, hfound⟩ := Option.isSome_iff_exists.mp hsome
    obtain ⟨row, hrow, howner, hversion, -⟩ := recorded_of_appliedByIdentity hfound
    exact ⟨row, hrow, howner, hversion⟩
  · rintro ⟨row, hrow, rfl, rfl⟩
    rw [Option.isSome_iff_ne_none]
    intro hnone
    rw [appliedByIdentity, List.lookup_eq_none_iff] at hnone
    have hkey := hnone _ (List.mem_reverse.mpr (List.mem_map_of_mem hrow))
    simp at hkey

theorem later_eq_of_await {α : Type} {request : DbCall (MigrationDatabase Schema) α}
    (hleaves : (memoryConnection request before).2 = before) {answer : Except Thrown α}
    (hrun : (Program.await request : Program _ Thrown α).Outcome (fallible memoryConnection)
      before answer after) : after = before := by
  rw [Program.outcome_await] at hrun
  rcases hrun with hanswer | ⟨-, hsame⟩
  · rw [← hleaves, hanswer]
  · exact hsame

theorem ensureMigrationTable_outcome {answer : Except Thrown Unit}
    (hrun : ensureMigrationTable.Outcome (fallible memoryConnection) before answer after) :
    after = before := by
  unfold ensureMigrationTable connectionExecutor at hrun
  dsimp only at hrun
  rw [Program.outcome_bind] at hrun
  rcases hrun with ⟨value, now, hcall, -, rfl⟩ | ⟨error, hcall, -⟩
  · exact later_eq_of_await rfl hcall
  · exact later_eq_of_await rfl hcall

theorem getAppliedMigrations_outcome {answer : Except Thrown (List AppliedMigration)}
    (hrun : getAppliedMigrations.Outcome (fallible memoryConnection) before answer after) :
    after = before ∧ ∀ applied, answer = .ok applied →
      ∀ row, row ∈ applied ↔ row ∈ before.history := by
  unfold getAppliedMigrations at hrun
  rw [Program.outcome_bind] at hrun
  rcases hrun with ⟨value, now, hensure, hquery⟩ | ⟨error, hensure, rfl⟩
  · obtain rfl := ensureMigrationTable_outcome hensure
    obtain rfl := later_eq_of_await rfl hquery
    refine ⟨rfl, ?_⟩
    rintro applied rfl row
    rcases (Program.outcome_await.mp hquery) with hanswer | ⟨⟨error, herror⟩, -⟩
    · simp only [memoryConnection, historyStatement, Statement.run, Prod.mk.injEq,
        Except.ok.injEq, and_true] at hanswer
      rw [← hanswer, List.mem_insertionSort, Table.mem_def]
    · cases herror
  · exact ⟨ensureMigrationTable_outcome hensure, fun applied happlied => by cases happlied⟩

variable {scripts : List MigrationScript}

theorem applyMigrations_outcome {collation : Collation} {readings : Nat → ClockReading}
    {checked : List CheckedMigration} (hpreflight : preflight scripts = .ok checked)
    (hne : checked ≠ []) (hrun : (applyMigrations execute collation readings scripts).Outcome
      (fallible memoryConnection) before outcome after) :
    Advanced ((checked.insertionSort (MigrationLe collation)).map CheckedMigration.key)
      before after (∃ count, outcome = .ok count) := by
  have hpreflighted := preflight_eq_ok hpreflight
  have hnone : Advanced ((checked.insertionSort (MigrationLe collation)).map
      CheckedMigration.key) before before False := by
    refine .none _ ?_ before
    rw [Ne, List.map_eq_nil_iff, ← List.length_eq_zero_iff, List.length_insertionSort,
      List.length_eq_zero_iff]
    exact hne
  have hsorted : ((checked.insertionSort (MigrationLe collation)).map
      CheckedMigration.key).Nodup := by
    refine ((List.perm_insertionSort _ checked).map CheckedMigration.key).nodup_iff.mpr ?_
    refine List.Nodup.of_map (fun key => identity key.1 key.2) ?_
    rw [List.map_map]
    exact hpreflighted.nodup
  have hfails : ∀ {error : Thrown}, after = before → outcome = .error error →
      Advanced ((checked.insertionSort (MigrationLe collation)).map CheckedMigration.key)
        before after (∃ count, outcome = .ok count) := by
    rintro error rfl rfl
    simpa using hnone
  unfold applyMigrations at hrun
  rw [hpreflight] at hrun
  rw [Program.outcome_bind] at hrun
  rcases hrun with ⟨checked', now, ⟨hsame, rfl⟩, hrun⟩ | ⟨error, ⟨herror, -⟩, -⟩
  case inr => cases herror
  cases hsame
  rw [Program.outcome_bind] at hrun
  rcases hrun with ⟨value, now, hensure, hrun⟩ | ⟨error, hensure, rfl⟩
  case inr => exact hfails (ensureMigrationTable_outcome hensure) rfl
  obtain rfl := ensureMigrationTable_outcome hensure
  rw [Program.outcome_bind] at hrun
  rcases hrun with ⟨applied, now, happlied, hrun⟩ | ⟨error, happlied, rfl⟩
  case inr => exact hfails (getAppliedMigrations_outcome happlied).1 rfl
  obtain ⟨rfl, hread⟩ := getAppliedMigrations_outcome happlied
  rw [Program.outcome_bind] at hrun
  rcases hrun with ⟨_, now, ⟨-, rfl⟩, hrun⟩ | ⟨error, ⟨-, rfl⟩, rfl⟩
  case inr => exact hfails rfl rfl
  refine applyAll_outcome readings 0 hsorted ?_ hrun
  intro migration _
  rw [CheckedMigration.identity, isSome_appliedByIdentity_iff, CheckedMigration.key,
    ← recorded_iff_mem_keys]
  simp only [Recorded, hread applied rfl]

def OfOwner (owner : String) (script : MigrationScript) (version : Int) : Prop :=
  ownerOf script = owner ∧ script.version = .finite (.integer version)

theorem keys_of_ofOwner {owner : String} {checked : List CheckedMigration} {versions : List Int}
    (hscripts : List.Forall₂ (OfOwner owner) scripts versions)
    (hchecks : List.Forall₂ ChecksTo scripts checked) :
    checked.map CheckedMigration.key = versions.map fun version => (owner, version) := by
  induction hscripts generalizing checked with
  | nil =>
      cases hchecks
      rfl
  | @cons script version _ _ hscript _ ih =>
      cases hchecks with
      | @cons _ first _ rest hfirst hrest =>
          rw [List.map_cons, List.map_cons, ih hrest]
          have hversion := hfirst.version
          rw [hscript.2] at hversion
          have hsame : first.version = version := by
            change (if version.natAbs ≤ maxSafeInteger then some version else none) = _
              at hversion
            split_ifs at hversion
            exact (Option.some.inj hversion).symm
          rw [CheckedMigration.key, hfirst.owner, hscript.1, hsame]

theorem applyMigrations_advanced {collation : Collation} {readings : Nat → ClockReading}
    {owner : String} {versions : List Int}
    (hscripts : List.Forall₂ (OfOwner owner) scripts versions)
    (hsorted : versions.Pairwise (· ≤ ·)) (hne : versions ≠ [])
    (hrun : (applyMigrations execute collation readings scripts).Outcome
      (fallible memoryConnection) before outcome after) :
    Advanced (versions.map fun version => (owner, version)) before after
      (∃ count, outcome = .ok count) := by
  cases hpreflight : preflight scripts with
  | error error =>
      unfold applyMigrations at hrun
      rw [hpreflight, Program.outcome_bind] at hrun
      rcases hrun with ⟨checked, now, ⟨hok, -⟩, -⟩ | ⟨error', ⟨-, rfl⟩, rfl⟩
      · cases hok
      · simpa using Advanced.none (versions.map fun version => (owner, version))
          (by simpa using hne) after
  | ok checked =>
      have hkeys := keys_of_ofOwner hscripts (preflight_eq_ok hpreflight).checks
      have hchecked : checked ≠ [] := by
        rintro rfl
        rw [List.map_nil, eq_comm, List.map_eq_nil_iff] at hkeys
        exact hne hkeys
      have hordered : checked.Pairwise (MigrationLe collation) := by
        have hpairs : (checked.map CheckedMigration.key).Pairwise
            fun left right => left.1 = right.1 ∧ left.2 ≤ right.2 := by
          rw [hkeys, List.pairwise_map]
          exact hsorted.imp fun hle => ⟨rfl, hle⟩
        rw [List.pairwise_map] at hpairs
        refine hpairs.imp ?_
        rintro left right ⟨howner, hle⟩
        rw [migrationLe_iff]
        refine .inr ⟨?_, hle⟩
        rw [show left.owner = right.owner from howner]
        exact localeCompare_self collation right.owner
      have hadvanced := applyMigrations_outcome hpreflight hchecked hrun
      rwa [hordered.insertionSort_eq, hkeys] at hadvanced

end TauriPlatform.MigrationEngine
