import TauriPlatform.MigrationPreflight

/-!
# The migrations of the platform

The TypeScript side ships all eight of them, the native side four, with the same texts.
-/

namespace TauriPlatform

/-! ## Scripts -/

/-- `core-schema.sql`. -/
def coreSchemaSql : String :=
  "CREATE TABLE IF NOT EXISTS core_applications (
  id TEXT PRIMARY KEY,
  name TEXT NOT NULL,
  version TEXT NOT NULL,
  protocol_version INTEGER NOT NULL DEFAULT 1,
  installed_at TEXT NOT NULL
);\n" ++
  "CREATE TABLE IF NOT EXISTS core_organisations (
  id TEXT PRIMARY KEY,
  created_at TEXT NOT NULL,
  updated_at TEXT NOT NULL,
  created_by TEXT,
  updated_by TEXT,
  name TEXT NOT NULL,
  domain TEXT,
  status TEXT NOT NULL DEFAULT 'ACTIVE',
  settings_json TEXT
);
CREATE TABLE IF NOT EXISTS core_users (
  id TEXT PRIMARY KEY,
  created_at TEXT NOT NULL,
  updated_at TEXT NOT NULL,
  created_by TEXT,
  updated_by TEXT,
  organisation_id TEXT NOT NULL REFERENCES core_organisations(id),
  display_name TEXT NOT NULL,
  email TEXT,
  status TEXT NOT NULL DEFAULT 'ACTIVE'
);
CREATE TABLE IF NOT EXISTS core_devices (
  id TEXT PRIMARY KEY,
  created_at TEXT NOT NULL,
  updated_at TEXT NOT NULL,
  created_by TEXT,
  updated_by TEXT,
  user_id TEXT REFERENCES core_users(id),
  device_id TEXT NOT NULL UNIQUE,
  public_key TEXT NOT NULL,
  platform TEXT NOT NULL,
  application_id TEXT NOT NULL,
  status TEXT NOT NULL DEFAULT 'UNREGISTERED',
  registered_at TEXT NOT NULL,
  last_seen_at TEXT
);
CREATE TABLE IF NOT EXISTS core_memberships (
  id TEXT PRIMARY KEY,
  created_at TEXT NOT NULL,
  updated_at TEXT NOT NULL,
  created_by TEXT,
  updated_by TEXT,
  user_id TEXT NOT NULL REFERENCES core_users(id),
  organisation_id TEXT NOT NULL REFERENCES core_organisations(id),
  role TEXT NOT NULL,
  status TEXT NOT NULL DEFAULT 'ACTIVE'
);
CREATE TABLE IF NOT EXISTS core_roles (
  id TEXT PRIMARY KEY,
  created_at TEXT NOT NULL,
  updated_at TEXT NOT NULL,
  created_by TEXT,
  updated_by TEXT,
  organisation_id TEXT NOT NULL REFERENCES core_organisations(id),
  name TEXT NOT NULL,
  description TEXT
);
CREATE TABLE IF NOT EXISTS core_permissions (
  id TEXT PRIMARY KEY,
  name TEXT NOT NULL UNIQUE,
  description TEXT
);
CREATE TABLE IF NOT EXISTS core_role_permissions (
  id TEXT PRIMARY KEY,
  role_id TEXT NOT NULL REFERENCES core_roles(id),
  permission_id TEXT NOT NULL REFERENCES core_permissions(id),
  scope_constraints_json TEXT
);
CREATE TABLE IF NOT EXISTS core_user_roles (
  id TEXT PRIMARY KEY,
  user_id TEXT NOT NULL REFERENCES core_users(id),
  role_id TEXT NOT NULL REFERENCES core_roles(id),
  organisation_id TEXT NOT NULL REFERENCES core_organisations(id),
  granted_by TEXT REFERENCES core_users(id),
  granted_at TEXT NOT NULL
);
CREATE TABLE IF NOT EXISTS core_sync_groups (
  id TEXT PRIMARY KEY,
  created_at TEXT NOT NULL,
  updated_at TEXT NOT NULL,
  created_by TEXT,
  updated_by TEXT,
  organisation_id TEXT NOT NULL REFERENCES core_organisations(id),
  name TEXT NOT NULL,
  description TEXT,
  status TEXT NOT NULL DEFAULT 'ACTIVE',
  policy_json TEXT
);
CREATE TABLE IF NOT EXISTS core_sync_group_members (
  id TEXT PRIMARY KEY,
  group_id TEXT NOT NULL REFERENCES core_sync_groups(id),
  device_id TEXT NOT NULL,
  user_id TEXT REFERENCES core_users(id),
  status TEXT NOT NULL DEFAULT 'REQUESTED',
  joined_at TEXT NOT NULL,
  revoked_at TEXT,
  revoked_by TEXT,
  revocation_reason TEXT
);
CREATE TABLE IF NOT EXISTS core_sync_group_policies (
  id TEXT PRIMARY KEY,
  group_id TEXT NOT NULL REFERENCES core_sync_groups(id),
  namespace_pattern TEXT NOT NULL,
  read_allowed INTEGER NOT NULL DEFAULT 1,
  write_allowed INTEGER NOT NULL DEFAULT 1
);
CREATE TABLE IF NOT EXISTS core_membership_requests (
  id TEXT PRIMARY KEY,
  device_id TEXT NOT NULL,
  group_id TEXT NOT NULL REFERENCES core_sync_groups(id),
  user_id TEXT REFERENCES core_users(id),
  requested_at TEXT NOT NULL,
  status TEXT NOT NULL DEFAULT 'PENDING'
);
CREATE TABLE IF NOT EXISTS core_membership_decisions (
  id TEXT PRIMARY KEY,
  request_id TEXT NOT NULL REFERENCES core_membership_requests(id),
  decided_by TEXT NOT NULL REFERENCES core_users(id),
  decision TEXT NOT NULL,
  decided_at TEXT NOT NULL,
  signature TEXT
);
CREATE TABLE IF NOT EXISTS core_revocations (
  id TEXT PRIMARY KEY,
  device_id TEXT NOT NULL,
  group_id TEXT REFERENCES core_sync_groups(id),
  revoked_by TEXT NOT NULL REFERENCES core_users(id),
  revoked_at TEXT NOT NULL,
  reason TEXT NOT NULL,
  propagated INTEGER NOT NULL DEFAULT 0
);
CREATE TABLE IF NOT EXISTS core_audit_events (
  id TEXT PRIMARY KEY,
  event_type TEXT NOT NULL,
  user_id TEXT,
  device_id TEXT NOT NULL,
  organisation_id TEXT NOT NULL,
  correlation_id TEXT NOT NULL,
  timestamp TEXT NOT NULL,
  metadata_json TEXT
);
CREATE TABLE IF NOT EXISTS core_sync_peers (
  id TEXT PRIMARY KEY,
  device_id TEXT NOT NULL UNIQUE,
  node_id TEXT NOT NULL,
  last_seen_at TEXT NOT NULL,
  connection_mode TEXT NOT NULL DEFAULT 'direct',
  relay_used TEXT,
  status TEXT NOT NULL DEFAULT 'DISCONNECTED'
);
CREATE TABLE IF NOT EXISTS core_sync_sessions (
  id TEXT PRIMARY KEY,
  peer_device_id TEXT NOT NULL,
  operation_id TEXT UNIQUE,
  started_at TEXT NOT NULL,
  ended_at TEXT,
  state TEXT NOT NULL DEFAULT 'IDLE',
  bytes_exchanged INTEGER DEFAULT 0,
  correlation_id TEXT NOT NULL
);
CREATE TABLE IF NOT EXISTS core_sync_cursors (
  id TEXT PRIMARY KEY,
  peer_device_id TEXT NOT NULL,
  namespace TEXT NOT NULL,
  last_applied_hlc TEXT NOT NULL,
  updated_at TEXT NOT NULL
);
CREATE TABLE IF NOT EXISTS core_sync_conflicts (
  id TEXT PRIMARY KEY,
  entity_id TEXT NOT NULL,
  namespace TEXT NOT NULL,
  detected_at TEXT NOT NULL,
  strategy_used TEXT NOT NULL,
  resolution_status TEXT NOT NULL DEFAULT 'RESOLVED',
  resolved_at TEXT,
  details_json TEXT
);
CREATE TABLE IF NOT EXISTS core_feature_migrations (
  id TEXT PRIMARY KEY,
  feature_id TEXT NOT NULL,
  version INTEGER NOT NULL,
  name TEXT NOT NULL,
  applied_at TEXT NOT NULL,
  checksum TEXT NOT NULL
);
CREATE INDEX IF NOT EXISTS idx_core_users_organisation ON core_users(organisation_id);
CREATE INDEX IF NOT EXISTS idx_core_audit_events_organisation ON core_audit_events(organisation_id);
CREATE INDEX IF NOT EXISTS idx_core_audit_events_timestamp ON core_audit_events(timestamp);
CREATE INDEX IF NOT EXISTS idx_core_sync_groups_organisation ON core_sync_groups(organisation_id);\n"

/-- `core-authentication.sql`. -/
def coreAuthenticationSql : String :=
  "ALTER TABLE core_users ADD COLUMN credential_verifier TEXT;
ALTER TABLE core_users ADD COLUMN credential_algorithm_version INTEGER NOT NULL DEFAULT 1;
ALTER TABLE core_users ADD COLUMN failed_authentication_attempts INTEGER NOT NULL DEFAULT 0;
ALTER TABLE core_users ADD COLUMN locked_until TEXT;
ALTER TABLE core_users ADD COLUMN credential_updated_at TEXT;\n"

/-- `core-replication.sql`. -/
def coreReplicationSql : String :=
  "-- Migration 3: Durable outbox, inbox and tombstone tables for real replication (WP-010, WP-012, WP-013)

-- Durable outbound operation queue.
CREATE TABLE IF NOT EXISTS core_sync_outbox (
  id                TEXT PRIMARY KEY,
  created_at        TEXT NOT NULL,
  envelope_id       TEXT NOT NULL UNIQUE,
  organisation_id   TEXT NOT NULL,
  sync_group_id     TEXT NOT NULL REFERENCES core_sync_groups(id),
  feature_id        TEXT NOT NULL,
  entity_type       TEXT NOT NULL,
  entity_id         TEXT NOT NULL,
  operation         TEXT NOT NULL CHECK (operation IN ('create', 'update', 'delete')),
  payload_json      TEXT NOT NULL,
  author_id         TEXT NOT NULL,
  device_id         TEXT NOT NULL,
  logical_timestamp TEXT NOT NULL,
  schema_version    INTEGER NOT NULL,
  protocol_version  INTEGER NOT NULL,
  signer_public_key TEXT NOT NULL,
  signature         TEXT NOT NULL,
  status            TEXT NOT NULL DEFAULT 'PENDING' CHECK (status IN ('PENDING', 'SENT', 'FAILED')),
  attempt_count     INTEGER NOT NULL DEFAULT 0,
  last_attempt_at   TEXT,
  sent_at           TEXT
);\n" ++
  "\nCREATE INDEX IF NOT EXISTS idx_sync_outbox_status_created
  ON core_sync_outbox (status, created_at);

CREATE INDEX IF NOT EXISTS idx_sync_outbox_org_group
  ON core_sync_outbox (organisation_id, sync_group_id, status);

-- Durable inbound operation queue.
CREATE TABLE IF NOT EXISTS core_sync_inbox (
  id                  TEXT PRIMARY KEY,
  created_at          TEXT NOT NULL,
  envelope_id         TEXT NOT NULL UNIQUE,
  organisation_id     TEXT NOT NULL,
  from_device_id      TEXT NOT NULL,
  sync_group_id       TEXT NOT NULL,
  feature_id          TEXT NOT NULL,
  entity_type         TEXT NOT NULL,
  entity_id           TEXT NOT NULL,
  operation           TEXT NOT NULL CHECK (operation IN ('create', 'update', 'delete')),
  payload_json        TEXT NOT NULL,
  logical_timestamp   TEXT NOT NULL,
  schema_version      INTEGER NOT NULL,
  protocol_version    INTEGER NOT NULL,
  signer_public_key   TEXT NOT NULL,
  signature           TEXT NOT NULL,
  verification_status TEXT NOT NULL DEFAULT 'UNVERIFIED'
                           CHECK (verification_status IN ('UNVERIFIED', 'VERIFIED', 'REJECTED')),
  apply_status        TEXT NOT NULL DEFAULT 'PENDING'
                           CHECK (apply_status IN ('PENDING', 'APPLIED', 'CONFLICT', 'FAILED')),
  applied_at          TEXT,
  conflict_id         TEXT
);

CREATE INDEX IF NOT EXISTS idx_sync_inbox_apply_status
  ON core_sync_inbox (apply_status, logical_timestamp);

CREATE INDEX IF NOT EXISTS idx_sync_inbox_org_entity
  ON core_sync_inbox (organisation_id, entity_type, entity_id);

-- Replication-safe deletion log.
CREATE TABLE IF NOT EXISTS core_sync_tombstones (
  id                  TEXT PRIMARY KEY,
  created_at          TEXT NOT NULL,
  organisation_id     TEXT NOT NULL,
  sync_group_id       TEXT NOT NULL,
  feature_id          TEXT NOT NULL,
  entity_type         TEXT NOT NULL,
  entity_id           TEXT NOT NULL,
  deleted_at          TEXT NOT NULL,
  deleted_by          TEXT NOT NULL,
  delete_operation_id TEXT NOT NULL UNIQUE,
  replicated_at       TEXT
);

CREATE INDEX IF NOT EXISTS idx_sync_tombstones_entity
  ON core_sync_tombstones (organisation_id, entity_type, entity_id);\n"

/-- `core-tasks.sql`. -/
def coreTasksSql : String :=
  "-- Migration 4: Durable background tasks (WP-015, ADR-024)

CREATE TABLE IF NOT EXISTS core_background_tasks (
  id                  TEXT PRIMARY KEY,
  created_at          TEXT NOT NULL,
  updated_at          TEXT NOT NULL,
  task_type           TEXT NOT NULL,
  unique_key          TEXT,
  organisation_id     TEXT NOT NULL,
  user_id             TEXT,
  payload_json        TEXT NOT NULL,
  state               TEXT NOT NULL DEFAULT 'PENDING'
                      CHECK (state IN ('PENDING', 'RUNNING', 'COMPLETED', 'FAILED', 'CANCELLED')),
  attempt_count       INTEGER NOT NULL DEFAULT 0,
  max_attempts        INTEGER NOT NULL DEFAULT 3,
  retry_delay_ms      INTEGER NOT NULL DEFAULT 1000,
  backoff_multiplier  REAL NOT NULL DEFAULT 2.0,
  max_retry_delay_ms  INTEGER NOT NULL DEFAULT 60000,
  scheduled_at        TEXT NOT NULL,
  started_at          TEXT,
  completed_at        TEXT,
  failed_at           TEXT,
  last_error          TEXT,
  timeout_ms          INTEGER NOT NULL DEFAULT 30000,
  correlation_id      TEXT NOT NULL
);\n" ++
  "\nCREATE INDEX IF NOT EXISTS idx_bg_tasks_schedule_state
  ON core_background_tasks (state, scheduled_at);

CREATE UNIQUE INDEX IF NOT EXISTS idx_bg_tasks_unique_key
  ON core_background_tasks (unique_key)
  WHERE unique_key IS NOT NULL AND state IN ('PENDING', 'RUNNING');

CREATE INDEX IF NOT EXISTS idx_bg_tasks_org
  ON core_background_tasks (organisation_id, created_at);\n"

/-- `core-task-retry-policy.sql`. -/
def coreTaskRetryPolicySql : String :=
  "-- Persist the per-task retry jitter accepted by TaskDefinition.retryPolicy.
ALTER TABLE core_background_tasks
  ADD COLUMN retry_jitter REAL NOT NULL DEFAULT 0.25
  CHECK (retry_jitter >= 0 AND retry_jitter <= 1);\n"

/-- `core-device-local-identity.sql`. -/
def coreDeviceLocalIdentitySql : String :=
  "ALTER TABLE core_devices ADD COLUMN is_local INTEGER NOT NULL DEFAULT 0;
CREATE UNIQUE INDEX idx_core_devices_single_local
  ON core_devices(is_local) WHERE is_local = 1;\n"

/-- `core-outbox-envelope.sql`. -/
def coreOutboxEnvelopeSql : String :=
  "-- Preserve the complete signed envelope for transport dispatch.
-- Existing rows remain nullable and are rejected by OutboxService until repaired.
ALTER TABLE core_sync_outbox
  ADD COLUMN envelope_json TEXT;\n"

/-- `core-organisation-domain-unique.sql`. -/
def coreOrganisationDomainUniqueSql : String :=
  "-- Enforce uniqueness for the canonical logical domain across all platform adapters.
-- NULL and blank values remain available for organisations without a domain.
CREATE UNIQUE INDEX IF NOT EXISTS idx_core_organisations_domain_normalized
  ON core_organisations(lower(trim(domain)))
  WHERE domain IS NOT NULL AND length(trim(domain)) > 0;\n"

/-! ## Definitions -/

def coreMigration (version : Int) (name checksum sql : String) : MigrationScript where
  version := .finite (.integer version)
  name := name
  sql := sql
  checksum := checksum

def coreMigrations : List MigrationScript :=
  [coreMigration 1 "create_platform_core_schema" "chk_platform_core_001" coreSchemaSql,
   coreMigration 2 "add_local_authentication_state" "chk_platform_core_002"
     coreAuthenticationSql,
   coreMigration 3 "add_replication_outbox_inbox_tombstones" "chk_platform_core_003"
     coreReplicationSql,
   coreMigration 4 "add_durable_background_tasks" "chk_platform_core_004" coreTasksSql,
   coreMigration 5 "persist_background_task_retry_jitter" "chk_platform_core_005"
     coreTaskRetryPolicySql,
   coreMigration 6 "distinguish_local_device_from_peer_identities" "chk_platform_core_006"
     coreDeviceLocalIdentitySql,
   coreMigration 7 "persist_complete_sync_outbox_envelopes" "chk_platform_core_007"
     coreOutboxEnvelopeSql,
   coreMigration 8 "enforce_normalized_organisation_domain_uniqueness"
     "chk_platform_core_008" coreOrganisationDomainUniqueSql]

namespace MigrationEngine

def coreChecked (version : Int) (name checksum sql : String) : CheckedMigration where
  owner := "platform"
  version := version
  name := name
  sql := sql
  checksum := checksum

/-- What the checks make of `coreMigrations`. -/
def checkedCoreMigrations : List CheckedMigration :=
  [coreChecked 1 "create_platform_core_schema" "chk_platform_core_001" coreSchemaSql,
   coreChecked 2 "add_local_authentication_state" "chk_platform_core_002"
     coreAuthenticationSql,
   coreChecked 3 "add_replication_outbox_inbox_tombstones" "chk_platform_core_003"
     coreReplicationSql,
   coreChecked 4 "add_durable_background_tasks" "chk_platform_core_004" coreTasksSql,
   coreChecked 5 "persist_background_task_retry_jitter" "chk_platform_core_005"
     coreTaskRetryPolicySql,
   coreChecked 6 "distinguish_local_device_from_peer_identities" "chk_platform_core_006"
     coreDeviceLocalIdentitySql,
   coreChecked 7 "persist_complete_sync_outbox_envelopes" "chk_platform_core_007"
     coreOutboxEnvelopeSql,
   coreChecked 8 "enforce_normalized_organisation_domain_uniqueness"
     "chk_platform_core_008" coreOrganisationDomainUniqueSql]

theorem starts_append {head : String} (hstarts : SqlScanner.startsStatement false head.toList)
    (tail : String) : SqlScanner.startsStatement false (head ++ tail).toList := by
  rw [String.toList_append]
  exact SqlScanner.startsStatement_append hstarts _

theorem starts_ofList {chars : List Char} (hstarts : SqlScanner.startsStatement false chars) :
    SqlScanner.startsStatement false (String.ofList chars).toList := by
  rw [String.toList_ofList]
  exact hstarts

set_option maxRecDepth 16000 in
theorem coreMigrations_start :
    SqlScanner.startsStatement false coreSchemaSql.toList ∧
      SqlScanner.startsStatement false coreAuthenticationSql.toList ∧
      SqlScanner.startsStatement false coreReplicationSql.toList ∧
      SqlScanner.startsStatement false coreTasksSql.toList ∧
      SqlScanner.startsStatement false coreTaskRetryPolicySql.toList ∧
      SqlScanner.startsStatement false coreDeviceLocalIdentitySql.toList ∧
      SqlScanner.startsStatement false coreOutboxEnvelopeSql.toList ∧
      SqlScanner.startsStatement false coreOrganisationDomainUniqueSql.toList := by
  refine ⟨starts_append (starts_ofList ?_) _, starts_ofList ?_,
    starts_append (starts_ofList ?_) _, starts_append (starts_ofList ?_) _,
    starts_ofList ?_, starts_ofList ?_, starts_ofList ?_, starts_ofList ?_⟩
  all_goals decide

attribute [irreducible] coreSchemaSql coreAuthenticationSql coreReplicationSql coreTasksSql
  coreTaskRetryPolicySql coreDeviceLocalIdentitySql coreOutboxEnvelopeSql
  coreOrganisationDomainUniqueSql

theorem coreMigrations_names :
    (checkedCoreMigrations.all fun migration =>
      !isBlank migration.name && !isBlank migration.checksum) = true := by
  decide

theorem checkedCoreMigrations_executable :
    ∀ migration ∈ checkedCoreMigrations, migration.Executable := by
  have hnames := List.all_eq_true.mp coreMigrations_names
  have hall : ∀ migration ∈ checkedCoreMigrations,
      migration.owner = "platform" ∧
        SqlScanner.startsStatement false migration.sql.toList := by
    obtain ⟨h1, h2, h3, h4, h5, h6, h7, h8⟩ := coreMigrations_start
    simp only [checkedCoreMigrations, List.forall_mem_cons, coreChecked, h1, h2, h3, h4, h5, h6,
      h7, h8, and_self, List.not_mem_nil, false_implies, implies_true]
  intro migration hmem
  obtain ⟨howner, hstarts⟩ := hall migration hmem
  obtain ⟨hname, hchecksum⟩ := Bool.and_eq_true_iff.mp (hnames migration hmem)
  exact {
    owner := by
      rw [howner]
      decide
    name := by simpa using hname
    checksum := by simpa using hchecksum
    sql := isBlank_eq_false hstarts
    statements := splitSqlScript_ne_nil hstarts }

theorem coreMigrations_checks : List.Forall₂ ChecksTo coreMigrations checkedCoreMigrations := by
  have hchecks : ∀ {version : Int} {name checksum sql : String}, 0 < version → version ≤ 8 →
      ChecksTo (coreMigration version name checksum sql)
        (coreChecked version name checksum sql) := by
    intro version name checksum sql hpositive hle
    refine ⟨rfl, ?_, rfl, rfl, rfl, hpositive⟩
    change (if version.natAbs ≤ maxSafeInteger then some version else none) = some version
    rw [if_pos (by unfold maxSafeInteger; omega)]
  repeat' first
    | exact .nil
    | refine .cons (hchecks (by decide) (by decide)) ?_

theorem preflight_coreMigrations : preflight coreMigrations = .ok checkedCoreMigrations := by
  refine preflight_of_executable coreMigrations_checks checkedCoreMigrations_executable ?_ ?_
  · decide
  · have howners : ∀ migration ∈ checkedCoreMigrations, migration.owner = "platform" := by
      simp [checkedCoreMigrations, coreChecked]
    have hversions : versionsOf "platform" checkedCoreMigrations = [1, 2, 3, 4, 5, 6, 7, 8] := by
      simp [versionsOf, checkedCoreMigrations, coreChecked]
    intro migration hmem
    rw [howners migration hmem, hversions]
    rfl

end MigrationEngine
end TauriPlatform
