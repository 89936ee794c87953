import TauriPlatform.AsyncSystem
import TauriPlatform.MigrationPreflight
import TauriPlatform.ReadingRange

/-!
# The history of migrations

Calls of `applyMigrations` on one database are interleaved, and each of their calls is
answered, or fails without an effect.  The history of every owner is then `1, 2, …, k`, and
the schema is what the recorded scripts made of the initial one.
-/

namespace TauriPlatform.MigrationEngine

open Async Relational

/-! ## The order of the loop -/

section Order

variable (collation : Collation)

theorem localeCompare_self (owner : String) : collation.localeCompare owner owner = 0 := by
  have hswap := collation.swap owner owner
  omega

theorem migrationLe_iff (left right : CheckedMigration) :
    MigrationLe collation left right ↔
      collation.localeCompare left.owner right.owner < 0 ∨
        (collation.localeCompare left.owner right.owner = 0 ∧ left.version ≤ right.version) := by
  unfold MigrationLe
  dsimp only
  split_ifs with horder
  · exact ⟨.inl, fun hor => hor.resolve_right fun hand => horder hand.1⟩
  · rw [not_not] at horder
    omega

instance : Std.Total (MigrationLe collation) where
  total left right := by
    rw [migrationLe_iff, migrationLe_iff]
    have hswap := collation.swap left.owner right.owner
    have hswap' := collation.swap right.owner left.owner
    omega

instance : IsTrans CheckedMigration (MigrationLe collation) where
  trans left middle right hleft hright := by
    rw [migrationLe_iff] at hleft hright ⊢
    have hforward := collation.trans left.owner middle.owner right.owner
    have hback := collation.trans middle.owner right.owner left.owner
    have hback' := collation.trans right.owner left.owner middle.owner
    have hswap := collation.swap left.owner right.owner
    have hswap' := collation.swap right.owner left.owner
    have hleftSwap := collation.swap left.owner middle.owner
    have hleftSwap' := collation.swap middle.owner left.owner
    have hrightSwap := collation.swap middle.owner right.owner
    have hrightSwap' := collation.swap right.owner middle.owner
    omega

variable {collation} {scripts : List MigrationScript} {checked : List CheckedMigration}

theorem Preflighted.predecessor (hpreflighted : Preflighted scripts checked)
    {before after : List CheckedMigration} {migration : CheckedMigration}
    (hsplit : checked.insertionSort (MigrationLe collation) = before ++ migration :: after)
    (hlater : 1 < migration.version) :
    ∃ earlier ∈ before, earlier.owner = migration.owner ∧
      earlier.version = migration.version - 1 := by
  have hsorted : ∀ {other}, other ∈ checked ↔ other ∈ before ++ migration :: after := by
    intro other
    rw [← hsplit]
    exact (List.mem_insertionSort _).symm
  have hmem : migration ∈ checked := hsorted.mpr (by simp)
  have hversion : migration.version ∈
      (versionsOf migration.owner checked).insertionSort (· ≤ ·) := by
    rw [List.mem_insertionSort, versionsOf]
    exact List.mem_map.mpr ⟨migration, List.mem_filter.mpr ⟨hmem, decide_eq_true rfl⟩, rfl⟩
  have hpred := (hpreflighted.sequences migration.owner).pred_mem hversion hlater
  rw [List.mem_insertionSort, versionsOf] at hpred
  obtain ⟨earlier, hearlier, hpredVersion⟩ := List.mem_map.mp hpred
  obtain ⟨hchecked, howner⟩ := List.mem_filter.mp hearlier
  have hsame : earlier.owner = migration.owner := of_decide_eq_true howner
  rw [hsorted, List.mem_append, List.mem_cons] at hchecked
  rcases hchecked with hbefore | rfl | hafter
  · exact ⟨earlier, hbefore, hsame, hpredVersion⟩
  · omega
  · have hpairwise := List.pairwise_insertionSort (MigrationLe collation) checked
    rw [hsplit] at hpairwise
    have hle := List.rel_of_pairwise_cons (List.pairwise_append.mp hpairwise).2.1 hafter
    rw [migrationLe_iff, hsame, localeCompare_self] at hle
    omega

end Order

/-! ## One migration -/

section Transaction

variable {Schema : Type} {execute : ScriptExecution Schema}

def CheckedMigration.runOn (execute : ScriptExecution Schema) (migration : CheckedMigration)
    (schema : Schema) : Except String Schema :=
  migration.statements.foldlM (fun schema statement => execute statement schema) schema

structure Applies (execute : ScriptExecution Schema) (migration : CheckedMigration)
    (appliedAt : String) (before later : MigrationDatabase Schema) : Prop where
  schema : migration.runOn execute before.schema = .ok later.schema
  history : later.history.rows = before.history.rows ++ [migration.record appliedAt]

theorem executeStatements_run (execute : ScriptExecution Schema) (statements : List String)
    (database : MigrationDatabase Schema) :
    match statements.foldlM (fun schema statement => execute statement schema)
        database.schema with
    | .ok schema => (executeStatements execute statements).run memoryTransaction database =
        (.ok (), { database with schema := schema })
    | .error message => ∃ later,
        (executeStatements execute statements).run memoryTransaction database =
          (.error (sqliteError message), later) := by
  induction statements generalizing database with
  | nil => rfl
  | cons statement rest ih =>
      rw [List.foldlM_cons, executeStatements]
      cases hfirst : execute statement database.schema with
      | error message =>
          have hrun : (scriptStatement execute statement).run database = .error message := by
            simp [scriptStatement, Statement.run, hfirst, Except.map]
          refine ⟨database, Program.run_bind_error _ ?_⟩
          simp only [transactionExecutor, Program.run_bind, Program.run_await,
            memoryTransaction, hrun]
      | ok schema =>
          have hrun : (scriptStatement execute statement).run database =
              .ok { database := { database with schema := schema }, rows := [],
                    rowsAffected := 0 } := by
            simp [scriptStatement, Statement.run, hfirst, Except.map]
          rw [Program.run_bind_ok _ (transaction_execute_run hrun)]
          exact ih { database with schema := schema }

theorem migrationBody_cases (execute : ScriptExecution Schema) (migration : CheckedMigration)
    (now : ClockReading) (database : MigrationDatabase Schema) :
    (∃ later, Applies execute migration now.iso database later ∧
        (migrationBody execute migration now).run memoryTransaction database = (.ok (), later)) ∨
      (∀ later, ¬ Applies execute migration now.iso database later) ∧
        ∃ error later,
          (migrationBody execute migration now).run memoryTransaction database =
            (.error error, later) := by
  have hstatements := executeStatements_run execute migration.statements database
  unfold migrationBody
  rw [Program.run_tryCatch, Program.run_bind]
  cases hrun : migration.statements.foldlM (fun schema statement => execute statement schema)
      database.schema with
  | error message =>
      rw [hrun] at hstatements
      obtain ⟨left, hstatements⟩ := hstatements
      rw [hstatements]
      refine .inr ⟨?_, _, _, rfl⟩
      intro later happlies
      cases hrun.symm.trans happlies.schema
  | ok schema =>
      rw [hrun] at hstatements
      rw [hstatements]
      dsimp only
      cases hinsert : database.history.insert? (migration.record now.iso) with
      | some history =>
          have hrecord : (recordStatement (migration.record now.iso)).run
              { database with schema := schema } =
                .ok { database := ⟨schema, history⟩, rows := [], rowsAffected := 1 } := by
            simp [recordStatement, Statement.run, hinsert]
          rw [transaction_execute_run hrecord]
          exact .inl ⟨⟨schema, history⟩, ⟨hrun, Table.insert?_eq_some_iff.mp hinsert⟩, rfl⟩
      | none =>
          have hrecord : ∃ message, (recordStatement (migration.record now.iso)).run
              { database with schema := schema } = .error message := by
            simp [recordStatement, Statement.run, hinsert]
          obtain ⟨message, hrecord⟩ := hrecord
          have hexecute : ((transactionExecutor (MigrationDatabase Schema)).execute
              (recordStatement (migration.record now.iso))).run memoryTransaction
                { database with schema := schema } =
              (.error (sqliteError message), { database with schema := schema }) := by
            simp only [transactionExecutor, Program.run_bind, Program.run_await,
              memoryTransaction, hrecord]
          rw [hexecute]
          refine .inr ⟨?_, _, _, rfl⟩
          intro later happlies
          cases hinsert.symm.trans (Table.insert?_eq_some_iff.mpr happlies.history)

theorem transaction_cases (execute : ScriptExecution Schema) (migration : CheckedMigration)
    (now : ClockReading) (database : MigrationDatabase Schema) :
    (∃ later, Applies execute migration now.iso database later ∧
        memoryConnection (.transaction (migrationBody execute migration now)) database =
          (.ok (), later)) ∨
      (∀ later, ¬ Applies execute migration now.iso database later) ∧
        ∃ error, memoryConnection (.transaction (migrationBody execute migration now)) database =
          (.error error, database) := by
  rcases migrationBody_cases execute migration now database with
    ⟨later, happlies, hrun⟩ | ⟨hnone, error, later, hrun⟩
  · exact .inl ⟨later, happlies, memory_transaction_run_ok hrun⟩
  · exact .inr ⟨hnone, error, memory_transaction_run_error hrun⟩

end Transaction

/-! ## Sound histories -/

section Sound

variable {Schema : Type} {execute : ScriptExecution Schema}
  {supplied : MigrationScript → Prop} {initial : Schema}

/-- The recorded versions of an owner, in the order in which they were applied. -/
def appliedVersions (owner : String) (rows : List AppliedMigration) : List Int :=
  (rows.filter fun row => row.owner = owner).map (·.version)

theorem appliedVersions_snoc (owner : String) (rows : List AppliedMigration)
    (row : AppliedMigration) :
    appliedVersions owner (rows ++ [row]) =
      appliedVersions owner rows ++ if row.owner = owner then [row.version] else [] := by
  rw [appliedVersions, List.filter_append, List.map_append]
  congr 1
  split_ifs with howner <;> simp [howner]

structure SoundHistory (execute : ScriptExecution Schema) (supplied : MigrationScript → Prop)
    (initial : Schema) (database : MigrationDatabase Schema) : Prop where
  consecutive : ∀ owner, Consecutive (appliedVersions owner database.history.rows)
  replayed : ∃ runs : List (CheckedMigration × String),
    (∀ run ∈ runs, ∃ script, supplied script ∧ ChecksTo script run.1) ∧
      database.history.rows = runs.map (fun run => run.1.record run.2) ∧
        runs.foldlM (fun schema run => run.1.runOn execute schema) initial =
          .ok database.schema

theorem soundHistory_empty (execute : ScriptExecution Schema)
    (supplied : MigrationScript → Prop) (initial : Schema) :
    SoundHistory execute supplied initial ⟨initial, .empty⟩ where
  consecutive _ := ⟨0, rfl⟩
  replayed := ⟨[], by simp, rfl, rfl⟩

def Recorded (owner : String) (version : Int) (database : MigrationDatabase Schema) : Prop :=
  ∃ row ∈ database.history, row.owner = owner ∧ row.version = version

theorem recorded_iff {owner : String} {version : Int} {database : MigrationDatabase Schema} :
    Recorded owner version database ↔
      version ∈ appliedVersions owner database.history.rows := by
  rw [appliedVersions, List.mem_map]
  constructor
  · rintro ⟨row, hrow, rfl, rfl⟩
    exact ⟨row, List.mem_filter.mpr ⟨hrow, decide_eq_true rfl⟩, rfl⟩
  · rintro ⟨row, hrow, hversion⟩
    obtain ⟨hmem, howner⟩ := List.mem_filter.mp hrow
    exact ⟨row, hmem, of_decide_eq_true howner, hversion⟩

def Keeps (before later : MigrationDatabase Schema) : Prop :=
  ∀ row ∈ before.history, row ∈ later.history

variable {database later : MigrationDatabase Schema} {migration : CheckedMigration}
  {appliedAt : String}

theorem Recorded.keep {owner : String} {version : Int}
    (hrecorded : Recorded owner version database) (hkeeps : Keeps database later) :
    Recorded owner version later := by
  obtain ⟨row, hrow, howner, hversion⟩ := hrecorded
  exact ⟨row, hkeeps row hrow, howner, hversion⟩

namespace Applies

variable (happlies : Applies execute migration appliedAt database later)

include happlies

theorem keeps : Keeps database later := by
  intro row hrow
  rw [Table.mem_def, happlies.history]
  exact List.mem_append_left _ hrow

theorem recorded : Recorded migration.owner migration.version later := by
  refine ⟨migration.record appliedAt, ?_, rfl, rfl⟩
  rw [Table.mem_def, happlies.history]
  simp

theorem not_recorded : ¬ Recorded migration.owner migration.version database := by
  rintro ⟨row, hrow, howner, hversion⟩
  have hunique := later.history.unique migrationKey List.mem_cons_self
  rw [happlies.history, List.filterMap_append] at hunique
  refine (List.nodup_append'.mp hunique).2.2 (List.mem_filterMap.mpr ⟨row, hrow, rfl⟩) ?_
  rw [howner, hversion]
  exact List.mem_cons_self

theorem appliedVersions_eq (owner : String) :
    appliedVersions owner later.history.rows =
      appliedVersions owner database.history.rows ++
        if migration.owner = owner then [migration.version] else [] := by
  rw [happlies.history, appliedVersions_snoc]
  rfl

end Applies

def ConsecutiveHistory (database : MigrationDatabase Schema) : Prop :=
  ∀ owner, Consecutive (appliedVersions owner database.history.rows)

theorem ConsecutiveHistory.applies (hconsecutive : ConsecutiveHistory database)
    (happlies : Applies execute migration appliedAt database later)
    (hpositive : 0 < migration.version)
    (hpred : 1 < migration.version →
      Recorded migration.owner (migration.version - 1) database) :
    ConsecutiveHistory later := by
  intro owner
  rw [happlies.appliedVersions_eq]
  split_ifs with howner
  · subst howner
    refine (hconsecutive migration.owner).snoc hpositive ?_ ?_
    · intro hlater
      exact recorded_iff.mp (hpred hlater)
    · intro hmem
      exact happlies.not_recorded (recorded_iff.mpr hmem)
  · rw [List.append_nil]
    exact hconsecutive owner

theorem SoundHistory.applies (hsound : SoundHistory execute supplied initial database)
    (happlies : Applies execute migration appliedAt database later) {script : MigrationScript}
    (hsupplied : supplied script) (hchecks : ChecksTo script migration)
    (hpred : 1 < migration.version →
      Recorded migration.owner (migration.version - 1) database) :
    SoundHistory execute supplied initial later := by
  constructor
  · exact ConsecutiveHistory.applies hsound.consecutive happlies hchecks.positive hpred
  · obtain ⟨runs, hruns, hrows, hreplay⟩ := hsound.replayed
    refine ⟨runs ++ [(migration, appliedAt)], ?_, ?_, ?_⟩
    · intro run hrun
      rcases List.mem_append.mp hrun with hold | hnew
      · exact hruns run hold
      · rw [List.mem_singleton.mp hnew]
        exact ⟨script, hsupplied, hchecks⟩
    · rw [happlies.history, hrows, List.map_append]
      rfl
    · rw [List.foldlM_append, hreplay]
      change migration.runOn execute database.schema >>= _ = _
      rw [happlies.schema]
      rfl

end Sound

/-! ## Calls in flight -/

structure MigrationCall where
  readings : Nat → ClockReading
  scripts : List MigrationScript

section Calls

variable {Schema : Type} {execute : ScriptExecution Schema}
  {Inv Allowed : MigrationDatabase Schema → Prop} {α : Type}
  {post : Except Thrown α → MigrationDatabase Schema → Prop} {state : MigrationDatabase Schema}

/-- A program whose calls keep the invariant, whatever is recorded between them. -/
abbrev KeepsInvariant (Inv Allowed : MigrationDatabase Schema → Prop)
    (post : Except Thrown α → MigrationDatabase Schema → Prop)
    (program : Program (DbCall (MigrationDatabase Schema)) Thrown α)
    (state : MigrationDatabase Schema) : Prop :=
  program.Safe (fallible memoryConnection) Inv Keeps Allowed post state

def Admits (execute : ScriptExecution Schema) (Inv Allowed : MigrationDatabase Schema → Prop)
    (migration : CheckedMigration) : Prop :=
  ∀ appliedAt now later, Inv now → Allowed now →
    (1 < migration.version → Recorded migration.owner (migration.version - 1) now) →
      Applies execute migration appliedAt now later → Inv later

theorem keeps_await {request : DbCall (MigrationDatabase Schema) α}
    (hleaves : ∀ now, (memoryConnection request now).2 = now)
    (hpost : ∀ answer now, Keeps state now →
      (∀ value, answer = .ok value → (memoryConnection request now).1 = .ok value) →
        post answer now) :
    KeepsInvariant Inv Allowed post (Program.await request) state := by
  intro now hkeeps hinv _ answer later hanswer
  have hsame : later = now ∧
      ∀ value, answer = .ok value → (memoryConnection request now).1 = .ok value := by
    rcases hanswer with hrun | ⟨⟨error, rfl⟩, rfl⟩
    · have hlater := hleaves now
      rw [hrun] at hlater
      refine ⟨hlater, fun value hvalue => ?_⟩
      rw [hrun]
      exact hvalue
    · exact ⟨rfl, fun value hvalue => nomatch hvalue⟩
  obtain ⟨rfl, hvalue⟩ := hsame
  exact ⟨hinv, fun row hrow => hrow, hpost answer later hkeeps hvalue⟩

theorem keeps_ensure {post : Except Thrown Unit → MigrationDatabase Schema → Prop}
    (hpost : ∀ answer now, Keeps state now → post answer now) :
    KeepsInvariant Inv Allowed post ensureMigrationTable state := by
  refine Program.Safe.bind (keeps_await (fun _ => rfl) ?_)
  intro answer now hkeeps _
  cases answer with
  | ok value => exact hpost _ _ hkeeps
  | error error => exact hpost _ _ hkeeps

/-- What `getAppliedMigrations` returns has been recorded. -/
theorem keeps_getApplied
    {post : Except Thrown (List AppliedMigration) → MigrationDatabase Schema → Prop}
    (herror : ∀ error now, post (.error error) now)
    (hpost : ∀ applied now, (∀ row ∈ applied, row ∈ now.history) → post (.ok applied) now) :
    KeepsInvariant Inv Allowed post getAppliedMigrations state := by
  refine Program.Safe.bind (keeps_ensure ?_)
  intro answer now _
  cases answer with
  | error error => exact herror error now
  | ok value =>
      refine keeps_await (fun _ => rfl) ?_
      intro rows later _ hrows
      cases rows with
      | error error => exact herror error later
      | ok rows =>
          have hread := hrows rows rfl
          simp only [memoryConnection, historyStatement, Statement.run,
            Except.ok.injEq] at hread
          refine hpost rows later fun row hrow => ?_
          rw [← hread, List.mem_insertionSort] at hrow
          exact hrow

theorem recorded_of_appliedByIdentity {applied : List AppliedMigration} {owner : String}
    {version : Int} {checksum : String}
    (hfound : appliedByIdentity applied (identity owner version) = some checksum) :
    ∃ row ∈ applied, row.owner = owner ∧ row.version = version ∧ row.checksum = checksum := by
  obtain ⟨front, back, hsplit, -⟩ := List.lookup_eq_some_iff.mp hfound
  have hmem : (identity owner version, checksum) ∈
      applied.map fun row => (identity row.owner row.version, row.checksum) := by
    rw [← List.mem_reverse, hsplit]
    simp
  obtain ⟨row, hrow, hpair⟩ := List.mem_map.mp hmem
  obtain ⟨hidentity, hchecksum⟩ := Prod.mk.inj hpair
  obtain ⟨howner, hversion⟩ := identity_inj.mp hidentity
  exact ⟨row, hrow, howner, hversion, hchecksum⟩

theorem keeps_applyAll {applied : String → Option String} (readings : Nat → ClockReading)
    (appliedCount : Nat) {passed rest : List CheckedMigration}
    (hpassed : ∀ migration ∈ passed, Recorded migration.owner migration.version state)
    (happlied : ∀ migration ∈ rest, ∀ checksum, applied migration.identity = some checksum →
      Recorded migration.owner migration.version state)
    (hadmits : ∀ migration ∈ rest, Admits execute Inv Allowed migration)
    (hpred : ∀ front migration back, rest = front ++ migration :: back →
      1 < migration.version → ∃ earlier ∈ passed ++ front, earlier.owner = migration.owner ∧
        earlier.version = migration.version - 1) :
    KeepsInvariant Inv Allowed anyOutcome (applyAll execute applied readings appliedCount rest)
      state := by
  induction rest generalizing passed appliedCount state with
  | nil => trivial
  | cons migration rest ih =>
      have hrest : ∀ front other back, rest = front ++ other :: back → 1 < other.version →
          ∃ earlier ∈ (passed ++ [migration]) ++ front, earlier.owner = other.owner ∧
            earlier.version = other.version - 1 := by
        intro front other back hsplit hlater
        rw [List.append_assoc]
        exact hpred (migration :: front) other back (by rw [hsplit]; rfl) hlater
      have hadvance : ∀ {later : MigrationDatabase Schema}, Keeps state later →
          Recorded migration.owner migration.version later → ∀ count,
            KeepsInvariant Inv Allowed anyOutcome (applyAll execute applied readings count rest)
              later := by
        intro later hkeeps hrecorded count
        refine ih count ?_ ?_
          (fun other hother => hadmits other (List.mem_cons_of_mem _ hother)) hrest
        · intro other hother
          rcases List.mem_append.mp hother with hold | hnew
          · exact (hpassed other hold).keep hkeeps
          · rw [List.mem_singleton.mp hnew]
            exact hrecorded
        · intro other hother checksum hchecksum
          exact (happlied other (List.mem_cons_of_mem _ hother) checksum hchecksum).keep hkeeps
      rw [applyAll]
      cases hfound : applied migration.identity with
      | some appliedChecksum =>
          dsimp only
          split_ifs
          · trivial
          · exact hadvance (fun row hrow => hrow)
              (happlied migration List.mem_cons_self _ hfound) appliedCount
      | none =>
          dsimp only
          refine Program.Safe.bind ?_
          intro now hkeeps hinv hallowed answer later hanswer
          rcases hanswer with hrun | ⟨⟨error, rfl⟩, rfl⟩
          · rcases transaction_cases execute migration (readings appliedCount) now with
              ⟨committed, happlies, hcommits⟩ | ⟨-, error, hfails⟩
            · cases hcommits.symm.trans hrun
              refine ⟨hadmits migration List.mem_cons_self _ _ _ hinv hallowed ?_ happlies,
                happlies.keeps, ?_⟩
              · intro hlater
                obtain ⟨earlier, hearlier, howner, hversion⟩ :=
                  hpred [] migration rest rfl hlater
                rw [List.append_nil] at hearlier
                rw [← howner, ← hversion]
                exact (hpassed earlier hearlier).keep hkeeps
              · exact hadvance (fun row hrow => happlies.keeps row (hkeeps row hrow))
                  happlies.recorded _
            · cases hfails.symm.trans hrun
              exact ⟨hinv, fun row hrow => hrow, trivial⟩
          · exact ⟨hinv, fun row hrow => hrow, trivial⟩

/-- A call of `applyMigrations` runs the supplied scripts only. -/
theorem keeps_applyMigrations (collation : Collation) (readings : Nat → ClockReading)
    (scripts : List MigrationScript)
    (hadmits : ∀ script ∈ scripts, ∀ migration, ChecksTo script migration →
      Admits execute Inv Allowed migration) :
    KeepsInvariant Inv Allowed anyOutcome (applyMigrations execute collation readings scripts)
      state := by
  cases hpreflight : preflight scripts with
  | error error =>
      refine Program.Safe.bind ?_
      rw [hpreflight]
      trivial
  | ok checked =>
      have hpreflighted := preflight_eq_ok hpreflight
      refine Program.Safe.bind ?_
      rw [hpreflight]
      refine Program.Safe.bind (keeps_ensure ?_)
      intro answer now _
      cases answer with
      | error error => trivial
      | ok value =>
          refine Program.Safe.bind (keeps_getApplied (fun _ _ => trivial) ?_)
          intro applied now hread
          refine Program.Safe.bind ?_
          cases hremoved : checkRemoved checked applied with
          | error error => trivial
          | ok value =>
              refine keeps_applyAll readings 0
                (fun migration (hmem : migration ∈ []) => nomatch hmem) ?_ ?_ ?_
              · intro migration _ checksum hfound
                obtain ⟨row, hrow, howner, hversion, -⟩ :=
                  recorded_of_appliedByIdentity hfound
                exact ⟨row, hread row hrow, howner, hversion⟩
              · intro migration hmigration
                obtain ⟨script, hscript, hchecks⟩ := exists_of_mem_right hpreflighted.checks
                  ((List.mem_insertionSort _).mp hmigration)
                exact hadmits script hscript migration hchecks
              · intro front migration back hsplit hlater
                exact hpreflighted.predecessor hsplit hlater

end Calls

/-- However calls of the engine are interleaved, whichever of their migrations fail, the
history of each owner is `1, 2, …, k`, and nothing but the recorded scripts has been run. -/
theorem applyMigrations_sound {Schema : Type} (execute : ScriptExecution Schema)
    (collation : Collation) (supplied : MigrationScript → Prop) (initial : Schema)
    {system : System MigrationCall (DbCall (MigrationDatabase Schema)) Thrown Nat
      (MigrationDatabase Schema)}
    (hreaches : System.Reaches (fallible memoryConnection)
      (fun call => applyMigrations execute collation call.readings call.scripts)
      (fun call _ => ∀ script ∈ call.scripts, supplied script) ⟨initial, .empty⟩ system) :
    SoundHistory execute supplied initial system.state := by
  have htrans : ∀ a b c : MigrationDatabase Schema, Keeps a b → Keeps b c → Keeps a c :=
    fun _ _ _ hfirst hsecond row hrow => hsecond row (hfirst row hrow)
  have hrefl : ∀ a : MigrationDatabase Schema, Keeps a a := fun _ row hrow => hrow
  refine hreaches.invariant htrans hrefl (fun call state _ => ?_)
    (soundHistory_empty execute supplied initial)
  refine keeps_applyMigrations collation call.readings call.scripts ?_
  intro script hscript migration hchecks appliedAt now later hsound hcall hpred happlies
  exact hsound.applies happlies (hcall script hscript) hchecks hpred

/-! ### Two notes tables -/

theorem reaches_fallible {L α ε σ : Type} {Call : Type → Type 1}
    {handler : Program.Handler Call ε σ} {start : L → Program Call ε α}
    {Allowed : L → σ → Prop} {initial : σ} {system : System L Call ε α σ}
    (hreaches : System.Reaches handler.environment start Allowed initial system) :
    System.Reaches (fallible handler) start Allowed initial system := by
  induction hreaches with
  | refl => exact .refl
  | tail _ hstep ih =>
      refine ih.tail ?_
      cases hstep with
      | start label state threads => exact .start label state threads
      | advance request rest label state before after answer later hallowed hanswer =>
          exact .advance request rest label state before after answer later hallowed
            (.inl hanswer)
      | drop thread state before after => exact .drop thread state before after

def rememberStatements : ScriptExecution (List String) :=
  fun statement schema => .ok (schema ++ [statement])

def midnightReadings : Nat → ClockReading :=
  fun _ => ⟨0, ClockReading.inRange_epoch⟩

def notesScripts : List MigrationScript :=
  [{ version := .finite (.integer 2), name := "index", sql := "CREATE INDEX i;",
     checksum := "c2", owner := some "feature.notes" },
   { version := .finite (.integer 1), name := "table", sql := "CREATE TABLE t;",
     checksum := "c1", owner := some "feature.notes" }]

def migratedNotes : MigrationDatabase (List String) :=
  System.runAll memoryConnection
    (fun call : MigrationCall =>
      applyMigrations rememberStatements .codePoint call.readings call.scripts)
    [⟨midnightReadings, notesScripts⟩] ⟨[], .empty⟩

theorem migratedNotes_sound :
    SoundHistory rememberStatements (· ∈ notesScripts) [] migratedNotes := by
  have hcalls : ∀ call ∈ [MigrationCall.mk midnightReadings notesScripts],
      ∀ _ : MigrationDatabase (List String), ∀ script ∈ call.scripts, script ∈ notesScripts := by
    simp
  exact applyMigrations_sound rememberStatements .codePoint (· ∈ notesScripts) []
    (reaches_fallible (System.Reaches.runAll .refl _ hcalls))

example : appliedVersions "feature.notes" migratedNotes.history.rows = [1, 2] := by
  decide

end TauriPlatform.MigrationEngine
