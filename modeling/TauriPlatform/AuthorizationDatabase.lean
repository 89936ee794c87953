import TauriPlatform.DatabaseConnection
import TauriPlatform.RelationalTable

/-!
# The tables of users, devices and sync groups

The rows which the authorization package and device pairing read and write, and
the statements of their repositories.  Foreign keys are enforced, as both
connections have them switched on.
-/

namespace TauriPlatform

open Relational

/-! ## Rows -/

structure UserRow where
  id : String
  organisationId : String
  status : String
  credentialVerifier : Option String
  failedAuthenticationAttempts : Int
  lockedUntil : Option String

structure RoleRow where
  id : String
  organisationId : String

structure PermissionRow where
  id : String
  name : String

structure RolePermissionRow where
  id : String
  roleId : String
  permissionId : String
  scopeConstraintsJson : Option String

structure UserRoleRow where
  id : String
  userId : String
  roleId : String
  organisationId : String

structure SyncGroupRow where
  id : String
  organisationId : String
  status : String

structure MembershipRequestRow where
  id : String
  deviceId : String
  groupId : String
  userId : Option String
  requestedAt : String
  status : String
  deriving DecidableEq

structure MembershipDecisionRow where
  id : String
  requestId : String
  decidedBy : String
  decision : String
  decidedAt : String
  signature : Option String
  deriving DecidableEq

structure SyncGroupMemberRow where
  id : String
  groupId : String
  deviceId : String
  userId : Option String
  status : String
  joinedAt : String
  revokedAt : Option String
  revokedBy : Option String
  revocationReason : Option String
  deriving DecidableEq

structure RevocationRow where
  id : String
  deviceId : String
  groupId : Option String
  revokedBy : String
  revokedAt : String
  reason : String
  deriving DecidableEq

/-- `is_local` is 0 or 1. -/
structure DeviceRow where
  id : String
  createdAt : String
  updatedAt : String
  userId : Option String
  deviceId : String
  publicKey : String
  platform : String
  applicationId : String
  status : String
  registeredAt : String
  lastSeenAt : Option String
  isLocal : Bool
  deriving DecidableEq

structure AuditEventRow where
  id : String
  eventType : String
  userId : Option String
  deviceId : String
  organisationId : String
  correlationId : String
  timestamp : String
  metadataJson : Option String
  deriving DecidableEq

/-! ## Tables -/

abbrev idIndex {Row : Type} (id : Row → String) : List (UniqueIndex Row String) :=
  [fun row => some (id row)]

/-- Of the rows with `is_local = 1` there is one at most. -/
def deviceIndexes : List (UniqueIndex DeviceRow String) :=
  [fun row => some row.id, fun row => some row.deviceId,
    fun row => if row.isLocal then some "1" else none]

def permissionIndexes : List (UniqueIndex PermissionRow String) :=
  [fun row => some row.id, fun row => some row.name]

structure AuthorizationDatabase where
  users : Table UserRow String (idIndex UserRow.id) := Table.empty
  roles : Table RoleRow String (idIndex RoleRow.id) := Table.empty
  permissions : Table PermissionRow String permissionIndexes := Table.empty
  rolePermissions : Table RolePermissionRow String (idIndex RolePermissionRow.id) :=
    Table.empty
  userRoles : Table UserRoleRow String (idIndex UserRoleRow.id) := Table.empty
  syncGroups : Table SyncGroupRow String (idIndex SyncGroupRow.id) := Table.empty
  membershipRequests :
    Table MembershipRequestRow String (idIndex MembershipRequestRow.id) := Table.empty
  membershipDecisions :
    Table MembershipDecisionRow String (idIndex MembershipDecisionRow.id) := Table.empty
  syncGroupMembers :
    Table SyncGroupMemberRow String (idIndex SyncGroupMemberRow.id) := Table.empty
  revocations : Table RevocationRow String (idIndex RevocationRow.id) := Table.empty
  devices : Table DeviceRow String deviceIndexes := Table.empty
  auditEvents : Table AuditEventRow String (idIndex AuditEventRow.id) := Table.empty

namespace AuthorizationDatabase

/-- `REFERENCES core_users(id)`. -/
def hasUser (database : AuthorizationDatabase) (id : String) : Bool :=
  database.users.rows.any fun row => row.id = id

/-- `REFERENCES core_sync_groups(id)`. -/
def hasSyncGroup (database : AuthorizationDatabase) (id : String) : Bool :=
  database.syncGroups.rows.any fun row => row.id = id

/-- `REFERENCES core_membership_requests(id)`. -/
def hasMembershipRequest (database : AuthorizationDatabase) (id : String) : Bool :=
  database.membershipRequests.rows.any fun row => row.id = id

end AuthorizationDatabase

/-! ## Statements -/

structure TableOf (Row : Type) (indexes : List (UniqueIndex Row String)) where
  name : String
  get : AuthorizationDatabase → Table Row String indexes
  set : AuthorizationDatabase → Table Row String indexes → AuthorizationDatabase

variable {Row : Type} {indexes : List (UniqueIndex Row String)}

/-- `SELECT … WHERE`. -/
def TableOf.select (table : TableOf Row indexes) (sql : String)
    (params : List JsonValue) (columns : List (Column Row)) (condition : Row → Bool)
    (limit : List Row → List Row) : Statement AuthorizationDatabase Row where
  sql := sql
  params := params
  columns := columns
  effect := .read fun database => limit ((table.get database).select condition)

/-- `INSERT`; `referenced` says that what the row references is there. -/
def TableOf.insert (table : TableOf Row indexes) (sql : String)
    (params : List JsonValue) (referenced : AuthorizationDatabase → Bool) (row : Row) :
    Statement AuthorizationDatabase Unit where
  sql := sql
  params := params
  columns := []
  effect := .write fun database =>
    match (table.get database).insert? row with
    | none => .error ("UNIQUE constraint failed: " ++ table.name)
    | some later =>
        if referenced database then
          .ok { database := table.set database later, rows := [], rowsAffected := 1 }
        else .error "FOREIGN KEY constraint failed"

/-- `UPDATE … SET … WHERE`. -/
def TableOf.update (table : TableOf Row indexes) (sql : String)
    (params : List JsonValue) (condition : Row → Bool) (set : Row → Row) :
    Statement AuthorizationDatabase Unit where
  sql := sql
  params := params
  columns := []
  effect := .write fun database =>
    match (table.get database).update? condition set with
    | none => .error ("UNIQUE constraint failed: " ++ table.name)
    | some later =>
        .ok {
          database := table.set database later
          rows := []
          rowsAffected := ((table.get database).select condition).length }

variable {table : TableOf Row indexes} {sql : String} {params : List JsonValue}
    {database : AuthorizationDatabase}

theorem TableOf.insert_eq_ok {referenced : AuthorizationDatabase → Bool} {row : Row}
    {result : StatementResult AuthorizationDatabase Unit}
    (hrun : (table.insert sql params referenced row).run database = .ok result) :
    ∃ later, later.rows = (table.get database).rows ++ [row] ∧
      result.database = table.set database later := by
  simp only [TableOf.insert, Statement.run] at hrun
  cases hinsert : (table.get database).insert? row with
  | none =>
      rw [hinsert] at hrun
      cases hrun
  | some later =>
      rw [hinsert] at hrun
      dsimp only at hrun
      split_ifs at hrun
      cases hrun
      exact ⟨later, Table.insert?_eq_some_iff.mp hinsert, rfl⟩

theorem TableOf.insert_run {referenced : AuthorizationDatabase → Bool} {row : Row}
    (hfresh : ∀ index ∈ indexes, ∀ key, index row = some key →
      ∀ other ∈ table.get database, index other ≠ some key) (hreferenced : referenced database) :
    ∃ result, (table.insert sql params referenced row).run database = .ok result := by
  obtain ⟨later, hinsert⟩ := Option.isSome_iff_exists.mp (Table.insert?_isSome hfresh)
  simp only [TableOf.insert, Statement.run, hinsert, hreferenced, if_true]
  exact ⟨_, rfl⟩

theorem TableOf.update_eq_ok {condition : Row → Bool} {set : Row → Row}
    {result : StatementResult AuthorizationDatabase Unit}
    (hrun : (table.update sql params condition set).run database = .ok result) :
    ∃ later, later.rows = (table.get database).rows.map (Table.updateRow condition set) ∧
      result.database = table.set database later := by
  simp only [TableOf.update, Statement.run] at hrun
  cases hupdate : (table.get database).update? condition set with
  | none =>
      rw [hupdate] at hrun
      cases hrun
  | some later =>
      rw [hupdate] at hrun
      cases hrun
      exact ⟨later, Table.update?_eq_some_iff.mp hupdate, rfl⟩

theorem TableOf.update_run {condition : Row → Bool} {set : Row → Row}
    (hkeys : ∀ index ∈ indexes, ∀ row, index (set row) = index row)
    (database : AuthorizationDatabase) :
    ∃ result, (table.update sql params condition set).run database = .ok result := by
  have hsome : ((table.get database).update? condition set).isSome := by
    apply Table.update?_isSome
    intro index hindex row _ _
    exact Or.inl (hkeys index hindex row)
  obtain ⟨later, hupdate⟩ := Option.isSome_iff_exists.mp hsome
  simp only [TableOf.update, Statement.run, hupdate]
  exact ⟨_, rfl⟩

def userTable : TableOf UserRow (idIndex UserRow.id) where
  name := "core_users.id"
  get := AuthorizationDatabase.users
  set database table := { database with users := table }

def syncGroupTable : TableOf SyncGroupRow (idIndex SyncGroupRow.id) where
  name := "core_sync_groups.id"
  get := AuthorizationDatabase.syncGroups
  set database table := { database with syncGroups := table }

def membershipRequestTable :
    TableOf MembershipRequestRow (idIndex MembershipRequestRow.id) where
  name := "core_membership_requests.id"
  get := AuthorizationDatabase.membershipRequests
  set database table := { database with membershipRequests := table }

def membershipDecisionTable :
    TableOf MembershipDecisionRow (idIndex MembershipDecisionRow.id) where
  name := "core_membership_decisions.id"
  get := AuthorizationDatabase.membershipDecisions
  set database table := { database with membershipDecisions := table }

def syncGroupMemberTable : TableOf SyncGroupMemberRow (idIndex SyncGroupMemberRow.id) where
  name := "core_sync_group_members.id"
  get := AuthorizationDatabase.syncGroupMembers
  set database table := { database with syncGroupMembers := table }

def revocationTable : TableOf RevocationRow (idIndex RevocationRow.id) where
  name := "core_revocations.id"
  get := AuthorizationDatabase.revocations
  set database table := { database with revocations := table }

def deviceTable : TableOf DeviceRow deviceIndexes where
  name := "core_devices"
  get := AuthorizationDatabase.devices
  set database table := { database with devices := table }

def auditEventTable : TableOf AuditEventRow (idIndex AuditEventRow.id) where
  name := "core_audit_events.id"
  get := AuthorizationDatabase.auditEvents
  set database table := { database with auditEvents := table }

/-! ### `AuthorizationRepository` -/

namespace AuthorizationRepository

/-- A row of `core_user_roles` with the role it names, in one organisation. -/
def grantedRoles (database : AuthorizationDatabase) (userId organisationId : String) :
    List UserRoleRow :=
  (database.userRoles.select fun row =>
      row.userId = userId && row.organisationId = organisationId).filter fun row =>
    database.roles.rows.any fun role =>
      role.id = row.roleId && role.organisationId = row.organisationId

def findRoleIds (userId organisationId : String) :
    Statement AuthorizationDatabase String where
  sql := "SELECT ur.role_id
       FROM core_user_roles ur
       JOIN core_roles r
         ON r.id = ur.role_id
        AND r.organisation_id = ur.organisation_id
       WHERE ur.user_id = ? AND ur.organisation_id = ?"
  params := [.string userId, .string organisationId]
  columns := [⟨"role_id", .text⟩]
  effect := .read fun database =>
    (grantedRoles database userId organisationId).map UserRoleRow.roleId

structure EffectivePermissionRow where
  permissionName : String
  scopeConstraintsJson : Option String

def findEffectivePermissions (userId organisationId : String) :
    Statement AuthorizationDatabase EffectivePermissionRow where
  sql := "SELECT p.name AS permission_name, rp.scope_constraints_json
       FROM core_user_roles ur
       JOIN core_roles r
         ON r.id = ur.role_id
        AND r.organisation_id = ur.organisation_id
       JOIN core_role_permissions rp ON rp.role_id = r.id
       JOIN core_permissions p ON rp.permission_id = p.id
       WHERE ur.user_id = ? AND ur.organisation_id = ?"
  params := [.string userId, .string organisationId]
  columns := [⟨"permission_name", fun row => .text row.permissionName⟩,
    ⟨"scope_constraints_json", fun row => .ofText? row.scopeConstraintsJson⟩]
  effect := .read fun database =>
    (grantedRoles database userId organisationId).flatMap fun userRole =>
      (database.rolePermissions.select fun row => row.roleId = userRole.roleId).flatMap
        fun grant =>
          (database.permissions.select fun row => row.id = grant.permissionId).map
            fun permission =>
              { permissionName := permission.name
                scopeConstraintsJson := grant.scopeConstraintsJson }

end AuthorizationRepository

/-! ### `SyncGroupRepository` -/

namespace SyncGroupRepository

def findGroup (groupId : String) : Statement AuthorizationDatabase SyncGroupRow :=
  syncGroupTable.select
    "SELECT id, organisation_id, status FROM core_sync_groups WHERE id = ? LIMIT 1"
    [.string groupId]
    [⟨"id", fun row => .text row.id⟩,
      ⟨"organisation_id", fun row => .text row.organisationId⟩,
      ⟨"status", fun row => .text row.status⟩]
    (fun row => row.id = groupId) (List.take 1)

def findMembershipRequest (requestId : String) :
    Statement AuthorizationDatabase MembershipRequestRow :=
  membershipRequestTable.select
    ("SELECT id, device_id, group_id, user_id, status " ++
      "FROM core_membership_requests WHERE id = ? LIMIT 1")
    [.string requestId]
    [⟨"id", fun row => .text row.id⟩, ⟨"device_id", fun row => .text row.deviceId⟩,
      ⟨"group_id", fun row => .text row.groupId⟩,
      ⟨"user_id", fun row => .ofText? row.userId⟩,
      ⟨"status", fun row => .text row.status⟩]
    (fun row => row.id = requestId) (List.take 1)

def insertDecision (row : MembershipDecisionRow) : Statement AuthorizationDatabase Unit :=
  membershipDecisionTable.insert
    "INSERT INTO core_membership_decisions
      (id, request_id, decided_by, decision, decided_at, signature) VALUES (?, ?, ?, ?, ?, ?)"
    [.string row.id, .string row.requestId, .string row.decidedBy, .string row.decision,
      .string row.decidedAt, .ofString? row.signature]
    (fun database =>
      database.hasMembershipRequest row.requestId && database.hasUser row.decidedBy)
    row

def setRequestStatus (requestId status : String) : Statement AuthorizationDatabase Unit :=
  membershipRequestTable.update "UPDATE core_membership_requests SET status = ? WHERE id = ?"
    [.string status, .string requestId] (fun row => row.id = requestId)
    (fun row => { row with status := status })

def insertMembershipRequest (id deviceId groupId : String) (userId : Option String)
    (requestedAt : String) : Statement AuthorizationDatabase Unit :=
  membershipRequestTable.insert
    "INSERT INTO core_membership_requests
      (id, device_id, group_id, user_id, requested_at, status) VALUES (?, ?, ?, ?, ?, 'PENDING')"
    [.string id, .string deviceId, .string groupId, .ofString? userId, .string requestedAt]
    (fun database => database.hasSyncGroup groupId && userId.all database.hasUser)
    { id := id
      deviceId := deviceId
      groupId := groupId
      userId := userId
      requestedAt := requestedAt
      status := "PENDING" }

def insertMember (id groupId deviceId : String) (userId : Option String)
    (status joinedAt : String) : Statement AuthorizationDatabase Unit :=
  syncGroupMemberTable.insert
    "INSERT INTO core_sync_group_members
      (id, group_id, device_id, user_id, status, joined_at) VALUES (?, ?, ?, ?, ?, ?)"
    [.string id, .string groupId, .string deviceId, .ofString? userId, .string status,
      .string joinedAt]
    (fun database => database.hasSyncGroup groupId && userId.all database.hasUser)
    { id := id
      groupId := groupId
      deviceId := deviceId
      userId := userId
      status := status
      joinedAt := joinedAt
      revokedAt := none
      revokedBy := none
      revocationReason := none }

def revokeMember (revokedAt revokedBy reason deviceId groupId : String) :
    Statement AuthorizationDatabase Unit :=
  syncGroupMemberTable.update
    "UPDATE core_sync_group_members
      SET status = 'REVOKED', revoked_at = ?, revoked_by = ?, revocation_reason = ?
      WHERE device_id = ? AND group_id = ?"
    [.string revokedAt, .string revokedBy, .string reason, .string deviceId,
      .string groupId]
    (fun row => row.deviceId = deviceId && row.groupId = groupId)
    (fun row =>
      { row with
        status := "REVOKED"
        revokedAt := some revokedAt
        revokedBy := some revokedBy
        revocationReason := some reason })

def insertRevocation (id deviceId groupId revokedBy revokedAt reason : String) :
    Statement AuthorizationDatabase Unit :=
  revocationTable.insert
    "INSERT INTO core_revocations
      (id, device_id, group_id, revoked_by, revoked_at, reason) VALUES (?, ?, ?, ?, ?, ?)"
    [.string id, .string deviceId, .string groupId, .string revokedBy, .string revokedAt,
      .string reason]
    (fun database => database.hasSyncGroup groupId && database.hasUser revokedBy)
    { id := id
      deviceId := deviceId
      groupId := some groupId
      revokedBy := revokedBy
      revokedAt := revokedAt
      reason := reason }

/-- `findMembershipStatus` reads the status of the first row found. -/
def findMembershipStatus (deviceId groupId : String) :
    Statement AuthorizationDatabase SyncGroupMemberRow :=
  syncGroupMemberTable.select
    ("SELECT status FROM core_sync_group_members " ++
      "WHERE device_id = ? AND group_id = ? LIMIT 1")
    [.string deviceId, .string groupId] [⟨"status", fun row => .text row.status⟩]
    (fun row => row.deviceId = deviceId && row.groupId = groupId) (List.take 1)

def findDeviceStatus (deviceId : String) : Statement AuthorizationDatabase DeviceRow :=
  deviceTable.select "SELECT status FROM core_devices WHERE device_id = ? LIMIT 1"
    [.string deviceId] [⟨"status", fun row => .text row.status⟩]
    (fun row => row.deviceId = deviceId) (List.take 1)

structure MembershipEligibilityRow where
  deviceStatus : String
  membershipStatus : Option String

def findMembershipEligibility (groupId deviceId : String) (userId : Option String) :
    Statement AuthorizationDatabase MembershipEligibilityRow where
  sql := "SELECT d.status AS device_status, m.status AS membership_status
      FROM core_devices d
      LEFT JOIN core_sync_group_members m
        ON m.device_id = d.device_id
        AND m.group_id = ?
        AND m.status IN ('APPROVED', 'ACTIVE')
        AND (m.user_id IS NULL OR m.user_id = ?)
      WHERE d.device_id = ?
      LIMIT 1"
  params := [.string groupId, .ofString? userId, .string deviceId]
  columns := [⟨"device_status", fun row => .text row.deviceStatus⟩,
    ⟨"membership_status", fun row => .ofText? row.membershipStatus⟩]
  effect := .read fun database =>
    ((database.devices.select fun row => row.deviceId = deviceId).flatMap fun device =>
      match database.syncGroupMembers.select fun row =>
          row.deviceId = device.deviceId && row.groupId = groupId &&
            (row.status = "APPROVED" || row.status = "ACTIVE") &&
            (row.userId = none || row.userId = userId) with
      | [] => [{ deviceStatus := device.status, membershipStatus := none }]
      | members => members.map fun member =>
          { deviceStatus := device.status, membershipStatus := some member.status }).take 1

end SyncGroupRepository

end TauriPlatform
