import TauriPlatform.DatabaseConnection
import TauriPlatform.HybridLogicalClock
import TauriPlatform.IsoTimestamp
import TauriPlatform.RelationalTable
import TauriPlatform.SqlScript

/-!
# The migration engine

`applyMigrations` checks the supplied definitions before it touches the database.  It then
reads the history once, and runs each migration which is not in it in its own transaction.
-/

namespace TauriPlatform

open Async Relational

structure MigrationScript where
  version : NumberValue
  name : String
  sql : String
  checksum : String
  owner : Option String := none

/-- A row of `core_migrations`. -/
structure AppliedMigration where
  owner : String
  version : Int
  name : String
  appliedAt : String
  checksum : String
  deriving DecidableEq

/-- `PRIMARY KEY (owner, version)`. -/
def migrationKey : UniqueIndex AppliedMigration (String × Int) :=
  fun row => some (row.owner, row.version)

abbrev MigrationHistory := Table AppliedMigration (String × Int) [migrationKey]

structure MigrationDatabase (Schema : Type) where
  schema : Schema
  history : MigrationHistory

abbrev ScriptExecution (Schema : Type) := String → Schema → Except String Schema

namespace MigrationEngine

/-! ## The supplied definitions -/

structure CheckedMigration where
  owner : String
  version : Int
  name : String
  sql : String
  checksum : String
  deriving DecidableEq

def ownerOf (script : MigrationScript) : String :=
  script.owner.getD "platform"

def identity (owner : String) (version : Int) : String :=
  s!"{owner}:{version}"

def CheckedMigration.identity (migration : CheckedMigration) : String :=
  MigrationEngine.identity migration.owner migration.version

def CheckedMigration.statements (migration : CheckedMigration) : List String :=
  splitSqlScript migration.sql

def invalidDefinition : Thrown :=
  migrationError
    "Migration definitions require a positive version and non-empty owner, name, checksum, and SQL"
    "Database upgrade configuration is invalid" "mig_invalid_definition" none

def checkDefinition (script : MigrationScript) (identities : List String) :
    Except Thrown CheckedMigration :=
  match script.version.safeInteger? with
  | none => .error invalidDefinition
  | some version =>
      let owner := ownerOf script
      if version ≤ 0 ∨ isBlank owner ∨ isBlank script.name ∨ isBlank script.checksum ∨
          isBlank script.sql then
        .error invalidDefinition
      else if identity owner version ∈ identities then
        .error (migrationError
          s!"Duplicate migration identity '{identity owner version}' in supplied migration set"
          "Database upgrade configuration contains duplicate migrations"
          s!"mig_duplicate_{owner}_v{version}" none)
      else if splitSqlScript script.sql = [] then
        .error (migrationError
          s!"Migration '{identity owner version}' does not contain an executable SQL statement"
          "Database upgrade configuration is invalid"
          s!"mig_empty_sql_{owner}_v{version}" none)
      else
        .ok {
          owner := owner
          version := version
          name := script.name
          sql := script.sql
          checksum := script.checksum }

def checkDefinitions : List MigrationScript → List String →
    Except Thrown (List CheckedMigration)
  | [], _ => .ok []
  | script :: rest, identities =>
      match checkDefinition script identities with
      | .error error => .error error
      | .ok checked => (checkDefinitions rest (checked.identity :: identities)).map (checked :: ·)

def firstMissing : Int → List Int → Option Int
  | _, [] => none
  | expectedVersion, version :: rest =>
      if version = expectedVersion then firstMissing (expectedVersion + 1) rest
      else some expectedVersion

def checkSequence (owner : String) (versions : List Int) : Except Thrown Unit :=
  match firstMissing 1 (versions.insertionSort (· ≤ ·)) with
  | none => .ok ()
  | some expectedVersion =>
      .error (migrationError
        s!"Migration sequence for owner '{owner}' is missing version {expectedVersion}"
        "Database upgrade configuration is missing a migration"
        s!"mig_sequence_{owner}_v{expectedVersion}" none)

def versionsOf (owner : String) (migrations : List CheckedMigration) : List Int :=
  (migrations.filter fun migration => migration.owner = owner).map (·.version)

def preflight (scripts : List MigrationScript) : Except Thrown (List CheckedMigration) := do
  let checked ← checkDefinitions scripts []
  (checked.map (·.owner)).eraseDups.forM fun owner =>
    checkSequence owner (versionsOf owner checked)
  return checked

def checkRemoved (checked : List CheckedMigration) (applied : List AppliedMigration) :
    Except Thrown Unit :=
  let suppliedOwners := checked.map (·.owner)
  let suppliedIdentities := checked.map CheckedMigration.identity
  match applied.find? fun row =>
      row.owner ∈ suppliedOwners ∧ identity row.owner row.version ∉ suppliedIdentities with
  | none => .ok ()
  | some row =>
      .error (migrationError
        (s!"Applied migration '{row.owner}:v{row.version}' is missing from the supplied " ++
          "migration set")
        ("Database migration history does not match this application version. " ++
          "Please contact support.")
        s!"mig_missing_{row.owner}_v{row.version}" none)

def MigrationLe (collation : Collation) (left right : CheckedMigration) : Prop :=
  let order := collation.localeCompare left.owner right.owner
  if order ≠ 0 then order < 0 else left.version ≤ right.version

instance (collation : Collation) : DecidableRel (MigrationLe collation) :=
  fun left right => by
    unfold MigrationLe
    dsimp only
    infer_instance

/-- `appliedByIdentity`; of entries with one key the last counts. -/
def appliedByIdentity (applied : List AppliedMigration) (key : String) : Option String :=
  (applied.map fun row => (identity row.owner row.version, row.checksum)).reverse.lookup key

/-! ## Statements -/

variable {Schema : Type}

def createTableSql : String :=
  "
      CREATE TABLE IF NOT EXISTS core_migrations (
        owner TEXT NOT NULL,
        version INTEGER NOT NULL,
        name TEXT NOT NULL,
        applied_at TEXT NOT NULL,
        checksum TEXT NOT NULL,
        PRIMARY KEY (owner, version)
      );
    "

def createTableStatement : Statement (MigrationDatabase Schema) Unit where
  sql := createTableSql
  params := []
  columns := []
  effect := .write fun database => .ok { database := database, rows := [], rowsAffected := 0 }

/-- `ORDER BY owner ASC, version ASC`. -/
def rowLe (left right : AppliedMigration) : Bool :=
  left.owner < right.owner || (left.owner = right.owner && left.version ≤ right.version)

def historyStatement : Statement (MigrationDatabase Schema) AppliedMigration where
  sql := "SELECT owner, version, checksum FROM core_migrations ORDER BY owner ASC, version ASC"
  params := []
  columns := [⟨"owner", fun row => .text row.owner⟩,
    ⟨"version", fun row => .integer row.version⟩, ⟨"checksum", fun row => .text row.checksum⟩]
  effect := .read fun database =>
    database.history.rows.insertionSort fun left right => rowLe left right

def scriptStatement (execute : ScriptExecution Schema) (sql : String) :
    Statement (MigrationDatabase Schema) Unit where
  sql := sql
  params := []
  columns := []
  effect := .write fun database =>
    (execute sql database.schema).map fun schema =>
      { database := { database with schema := schema }, rows := [], rowsAffected := 0 }

def recordStatement (row : AppliedMigration) : Statement (MigrationDatabase Schema) Unit where
  sql :=
    "INSERT INTO core_migrations (owner, version, name, applied_at, checksum) VALUES (?, ?, ?, ?, ?)"
  params := [.string row.owner, .number (.integer row.version), .string row.name,
    .string row.appliedAt, .string row.checksum]
  columns := []
  effect := .write fun database =>
    match database.history.insert? row with
    | some history =>
        .ok { database := { database with history := history }, rows := [], rowsAffected := 1 }
    | none =>
        .error "UNIQUE constraint failed: core_migrations.owner, core_migrations.version"

/-! ## Applying migrations -/

def CheckedMigration.record (migration : CheckedMigration) (appliedAt : String) :
    AppliedMigration where
  owner := migration.owner
  version := migration.version
  name := migration.name
  appliedAt := appliedAt
  checksum := migration.checksum

def executeStatements (execute : ScriptExecution Schema) : List String →
    Program (TransactionCall (MigrationDatabase Schema)) Thrown Unit
  | [] => pure ()
  | statement :: rest => do
      (transactionExecutor (MigrationDatabase Schema)).execute (scriptStatement execute statement)
      executeStatements execute rest

def migrationBody (execute : ScriptExecution Schema) (migration : CheckedMigration)
    (now : ClockReading) : Program (TransactionCall (MigrationDatabase Schema)) Thrown Unit :=
  tryCatch (do
    executeStatements execute migration.statements
    (transactionExecutor (MigrationDatabase Schema)).execute
      (recordStatement (migration.record now.iso)))
    fun error => throw (migrationError
      (s!"Migration {migration.owner}:v{migration.version} ('{migration.name}') failed: " ++
        error.message)
      "Database upgrade failed. Please restart the application."
      s!"mig_{migration.owner}_v{migration.version}"
      (some s!"Failed SQL in migration {migration.name}"))

def checksumMismatch (migration : CheckedMigration) (appliedChecksum : String) : Thrown :=
  migrationError
    (s!"Migration checksum mismatch for {migration.owner}:v{migration.version} " ++
      s!"('{migration.name}')")
    ("Database upgrade validation failed. Please reinstall the application or contact support.")
    s!"mig_checksum_{migration.owner}_v{migration.version}"
    (some s!"Expected checksum {appliedChecksum}, received {migration.checksum}")

def applyAll (execute : ScriptExecution Schema) (applied : String → Option String)
    (readings : Nat → ClockReading) : Nat → List CheckedMigration →
      Program (DbCall (MigrationDatabase Schema)) Thrown Nat
  | appliedCount, [] => pure appliedCount
  | appliedCount, migration :: rest =>
      match applied migration.identity with
      | some appliedChecksum =>
          if appliedChecksum ≠ migration.checksum then
            throw (checksumMismatch migration appliedChecksum)
          else applyAll execute applied readings appliedCount rest
      | none => do
          Program.await (.transaction (migrationBody execute migration (readings appliedCount)))
          applyAll execute applied readings (appliedCount + 1) rest

def ensureMigrationTable : Program (DbCall (MigrationDatabase Schema)) Thrown Unit :=
  (connectionExecutor (MigrationDatabase Schema)).execute createTableStatement

def getAppliedMigrations :
    Program (DbCall (MigrationDatabase Schema)) Thrown (List AppliedMigration) := do
  ensureMigrationTable
  (connectionExecutor (MigrationDatabase Schema)).query historyStatement

def applyMigrations (execute : ScriptExecution Schema) (collation : Collation)
    (readings : Nat → ClockReading) (scripts : List MigrationScript) :
    Program (DbCall (MigrationDatabase Schema)) Thrown Nat := do
  let checked ← Program.ofExcept (preflight scripts)
  ensureMigrationTable
  let applied ← getAppliedMigrations
  Program.ofExcept (checkRemoved checked applied)
  applyAll execute (appliedByIdentity applied) readings 0
    (checked.insertionSort (MigrationLe collation))

end MigrationEngine
end TauriPlatform
