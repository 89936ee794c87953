import TauriPlatform.MigrationReplay
import TauriPlatform.NativeAuthentication

/-!
# Migrations on the native side

`DurableDatabase::apply_migrations` shares the history with the migration engine.  It looks
each migration up on its own, and asks for no sequence of versions: the native
`core_migrations` are versions 1, 2, 6 and 8 of the platform.
-/

namespace TauriPlatform

open Async Relational MigrationEngine DependencyResolver

structure NativeMigration where
  owner : String
  version : Int
  name : String
  checksum : String
  sql : String
  deriving DecidableEq

def migrationOwnerOrder (owner : String) : Nat × String :=
  if owner = "platform" then (0, owner) else (1, owner)

/-- The comparison of `ordered.sort_by`. -/
def NativeLe (left right : NativeMigration) : Prop :=
  let leftOrder := migrationOwnerOrder left.owner
  let rightOrder := migrationOwnerOrder right.owner
  leftOrder.1 < rightOrder.1 ∨ leftOrder.1 = rightOrder.1 ∧
    (leftOrder.2 < rightOrder.2 ∨ leftOrder.2 = rightOrder.2 ∧ left.version ≤ right.version)

instance : DecidableRel NativeLe := fun left right => by
  unfold NativeLe
  dsimp only
  infer_instance

inductive NativeCall (Db : Type) : Type → Type 1 where
  | statement {Row : Type} (code : String) (statement : Statement Db Row) :
      NativeCall Db (List Row)
  | transaction (body : DurableDatabase.NativeTransaction Db Unit) : NativeCall Db Unit

def durableConnection {Db : Type} : Program.Handler (NativeCall Db) NativeError Db
  | _, .statement code statement, database =>
      match DurableDatabase.runStatement code statement database with
      | .ok (rows, later) => (.ok rows, later)
      | .error error => (.error error, database)
  | _, .transaction body, database =>
      match body database with
      | .ok (_, later) => (.ok (), later)
      | .error error => (.error error, database)

namespace DurableDatabase

variable {Schema : Type}

/-! ## Statements -/

def lookupStatement (migration : NativeMigration) :
    Statement (MigrationDatabase Schema) String where
  sql := "SELECT checksum FROM core_migrations WHERE owner = ?1 AND version = ?2"
  params := [.string migration.owner, .number (.integer migration.version)]
  columns := [⟨"checksum", .text⟩]
  effect := .read fun database =>
    (database.history.select fun row =>
      row.owner = migration.owner ∧ row.version = migration.version).map (·.checksum)

def batchStatement (executeBatch : ScriptExecution Schema) (sql : String) :
    Statement (MigrationDatabase Schema) Unit where
  sql := sql
  params := []
  columns := []
  effect := .write fun database =>
    (executeBatch sql database.schema).map fun schema =>
      { database := { database with schema := schema }, rows := [], rowsAffected := 0 }

def NativeMigration.record (migration : NativeMigration) (appliedAt : String) :
    AppliedMigration where
  owner := migration.owner
  version := migration.version
  name := migration.name
  appliedAt := appliedAt
  checksum := migration.checksum

def insertStatement (migration : NativeMigration) (appliedAt : String) :
    Statement (MigrationDatabase Schema) Unit where
  sql := "INSERT INTO core_migrations (owner, version, name, applied_at, checksum)
                     VALUES (?1, ?2, ?3, strftime('%Y-%m-%dT%H:%M:%fZ', 'now'), ?4)"
  params := [.string migration.owner, .number (.integer migration.version),
    .string migration.name, .string migration.checksum]
  columns := []
  effect := .write fun database =>
    match database.history.insert? (NativeMigration.record migration appliedAt) with
    | some history =>
        .ok { database := { database with history := history }, rows := [], rowsAffected := 1 }
    | none =>
        .error "UNIQUE constraint failed: core_migrations.owner, core_migrations.version"

def createMigrationsStatement : Statement (MigrationDatabase Schema) Unit where
  sql := "CREATE TABLE IF NOT EXISTS core_migrations (
                    owner TEXT NOT NULL,
                    version INTEGER NOT NULL,
                    name TEXT NOT NULL,
                    applied_at TEXT NOT NULL,
                    checksum TEXT NOT NULL,
                    PRIMARY KEY (owner, version)
                );"
  params := []
  columns := []
  effect := .write fun database => .ok { database := database, rows := [], rowsAffected := 0 }

/-! ## Applying migrations -/

def migrationTransaction (executeBatch : ScriptExecution Schema) (migration : NativeMigration)
    (appliedAt : String) : NativeTransaction (MigrationDatabase Schema) Unit := do
  let _ ← runStatement "db_migration_execute" (batchStatement executeBatch migration.sql)
  let _ ← runStatement "db_migration_record" (insertStatement migration appliedAt)
  pure ()

def checksumMismatch (migration : NativeMigration) : NativeError :=
  databaseError "db_migration_checksum"
    s!"Migration checksum mismatch for {migration.owner}:v{migration.version}"

def applyOrdered (executeBatch : ScriptExecution Schema) (appliedAt : Nat → String) : Nat →
    List NativeMigration → Program (NativeCall (MigrationDatabase Schema)) NativeError Nat
  | appliedCount, [] => pure appliedCount
  | appliedCount, migration :: rest => do
      let existing ← Program.await
        (.statement "db_migration_lookup" (lookupStatement migration))
      match existing.head? with
      | some checksum =>
          if checksum ≠ migration.checksum then throw (checksumMismatch migration)
          else applyOrdered executeBatch appliedAt appliedCount rest
      | none => do
          Program.await
            (.transaction (migrationTransaction executeBatch migration (appliedAt appliedCount)))
          applyOrdered executeBatch appliedAt (appliedCount + 1) rest

def applyMigrations (executeBatch : ScriptExecution Schema) (appliedAt : Nat → String)
    (migrations : List NativeMigration) :
    Program (NativeCall (MigrationDatabase Schema)) NativeError Nat := do
  let _ ← Program.await (.statement "db_migration_table" createMigrationsStatement)
  applyOrdered executeBatch appliedAt 0 (migrations.insertionSort NativeLe)

end DurableDatabase

/-- The native `core_migrations`. -/
def nativeCoreMigrations : List NativeMigration :=
  [{ owner := "platform", version := 1, name := "create_platform_core_schema",
     checksum := "chk_platform_core_001", sql := coreSchemaSql },
   { owner := "platform", version := 2, name := "add_local_authentication_state",
     checksum := "chk_platform_core_002", sql := coreAuthenticationSql },
   { owner := "platform", version := 6,
     name := "distinguish_local_device_from_peer_identities",
     checksum := "chk_platform_core_006", sql := coreDeviceLocalIdentitySql },
   { owner := "platform", version := 8,
     name := "enforce_normalized_organisation_domain_uniqueness",
     checksum := "chk_platform_core_008", sql := coreOrganisationDomainUniqueSql }]

/-! ## One migration -/

namespace DurableDatabase

section Steps

variable {Schema : Type} {executeBatch : ScriptExecution Schema} {migration : NativeMigration}
  {appliedAt : String} {database later : MigrationDatabase Schema}

structure NativeApplies (executeBatch : ScriptExecution Schema) (migration : NativeMigration)
    (appliedAt : String) (before later : MigrationDatabase Schema) : Prop where
  schema : executeBatch migration.sql before.schema = .ok later.schema
  history : later.history.rows =
    before.history.rows ++ [NativeMigration.record migration appliedAt]

theorem migrationTransaction_cases (executeBatch : ScriptExecution Schema)
    (migration : NativeMigration) (appliedAt : String) (database : MigrationDatabase Schema) :
    (∃ later, NativeApplies executeBatch migration appliedAt database later ∧
        durableConnection (.transaction (migrationTransaction executeBatch migration appliedAt))
          database = (.ok (), later)) ∨
      (∀ later, ¬ NativeApplies executeBatch migration appliedAt database later) ∧
        ∃ error,
          durableConnection (.transaction (migrationTransaction executeBatch migration appliedAt))
            database = (.error error, database) := by
  cases hbatch : executeBatch migration.sql database.schema with
  | error message =>
      refine .inr ⟨fun later happlies => ?_, databaseError "db_migration_execute" message, ?_⟩
      · cases hbatch.symm.trans happlies.schema
      · have hstatement : runStatement "db_migration_execute"
            (batchStatement executeBatch migration.sql) database =
              .error (databaseError "db_migration_execute" message) := by
          simp [runStatement, batchStatement, Statement.run, hbatch, Except.map]
        have hbody : migrationTransaction executeBatch migration appliedAt database =
            .error (databaseError "db_migration_execute" message) :=
          bind_error _ hstatement
        simp only [durableConnection, hbody]
  | ok schema =>
      have hstatement : runStatement "db_migration_execute"
          (batchStatement executeBatch migration.sql) database =
            .ok ([], { database with schema := schema }) := by
        simp [runStatement, batchStatement, Statement.run, hbatch, Except.map]
      cases hinsert : database.history.insert? (NativeMigration.record migration appliedAt) with
      | some history =>
          have hrecord : runStatement "db_migration_record"
              (insertStatement migration appliedAt) { database with schema := schema } =
                .ok ([], ⟨schema, history⟩) := by
            simp [runStatement, insertStatement, Statement.run, hinsert]
          have hbody : migrationTransaction executeBatch migration appliedAt database =
              .ok ((), ⟨schema, history⟩) := by
            rw [migrationTransaction, bind_ok _ hstatement, bind_ok _ hrecord]
            rfl
          refine .inl ⟨⟨schema, history⟩, ⟨hbatch, Table.insert?_eq_some_iff.mp hinsert⟩, ?_⟩
          simp only [durableConnection, hbody]
      | none =>
          refine .inr ⟨fun later happlies => ?_, databaseError "db_migration_record"
            "UNIQUE constraint failed: core_migrations.owner, core_migrations.version", ?_⟩
          · cases hinsert.symm.trans (Table.insert?_eq_some_iff.mpr happlies.history)
          · have hrecord : runStatement "db_migration_record"
                (insertStatement migration appliedAt) { database with schema := schema } =
                  .error (databaseError "db_migration_record"
                    ("UNIQUE constraint failed: core_migrations.owner, " ++
                      "core_migrations.version")) := by
              simp [runStatement, insertStatement, Statement.run, hinsert]
            have hbody : migrationTransaction executeBatch migration appliedAt database =
                .error (databaseError "db_migration_record"
                    ("UNIQUE constraint failed: core_migrations.owner, " ++
                      "core_migrations.version")) := by
              rw [migrationTransaction, bind_ok _ hstatement, bind_error _ hrecord]
            simp only [durableConnection, hbody]
            rfl

theorem lookup_run (migration : NativeMigration) (database : MigrationDatabase Schema) :
    durableConnection (.statement "db_migration_lookup" (lookupStatement migration)) database =
      (.ok ((database.history.select fun row =>
        row.owner = migration.owner ∧ row.version = migration.version).map (·.checksum)),
        database) :=
  rfl

end Steps
end DurableDatabase
end TauriPlatform
