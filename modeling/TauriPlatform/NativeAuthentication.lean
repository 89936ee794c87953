import TauriPlatform.AuthorizationEngine
import TauriPlatform.NativeSessionStore

/-!
# Authentication on the native side

`authenticate_user` reads and writes within one transaction of the native database, which
is rolled back when it returns early.  On success the names of the permissions are copied
into the principal.
-/

namespace TauriPlatform

open Relational

namespace DurableDatabase

/-! ## Transactions -/

def databaseError (code message : String) : NativeError :=
  { NativeError.new "DATABASE_ERROR" message "Unable to access local database" code with
    technicalDetails := some message }

abbrev NativeTransaction (Db : Type) := StateT Db (Except NativeError)

def runStatement {Db Row : Type} (code : String) (statement : Statement Db Row) :
    NativeTransaction Db (List Row) :=
  fun database =>
    match statement.run database with
    | .ok result => .ok (result.rows, result.database)
    | .error message => .error (databaseError code message)

def transact {Db α : Type} (body : NativeTransaction Db (Except NativeError α))
    (database : Db) : Except NativeError α × Db :=
  match body database with
  | .ok (outcome, later) => (outcome, later)
  | .error error => (.error error, database)

section Transactions

variable {Db Row α β : Type} {database later : Db}

variable {first : NativeTransaction Db α}

theorem bind_ok {value : α} (next : α → NativeTransaction Db β)
    (hfirst : first database = .ok (value, later)) :
    (first >>= next) database = next value later := by
  change (first database >>= fun pair => next pair.1 pair.2) = _
  rw [hfirst]
  rfl

theorem bind_error {error : NativeError} (next : α → NativeTransaction Db β)
    (hfirst : first database = .error error) :
    (first >>= next) database = .error error := by
  change (first database >>= fun pair => next pair.1 pair.2) = _
  rw [hfirst]
  rfl

theorem bind_eq_ok {next : α → NativeTransaction Db β} {value : β}
    (hok : (first >>= next) database = .ok (value, later)) :
    ∃ result middle, first database = .ok (result, middle) ∧
      next result middle = .ok (value, later) := by
  change (first database >>= fun pair => next pair.1 pair.2) = _ at hok
  cases hfirst : first database with
  | error error =>
      rw [hfirst] at hok
      cases hok
  | ok pair =>
      rw [hfirst] at hok
      exact ⟨pair.1, pair.2, rfl, hok⟩

theorem runStatement_eq_ok {code : String} {statement : Statement Db Row} {rows : List Row}
    (hok : runStatement code statement database = .ok (rows, later)) :
    ∃ result, statement.run database = .ok result ∧ rows = result.rows ∧
      later = result.database := by
  unfold runStatement at hok
  cases hrun : statement.run database with
  | error message =>
      rw [hrun] at hok
      cases hok
  | ok result =>
      rw [hrun] at hok
      cases hok
      exact ⟨result, rfl, rfl, rfl⟩

variable {body : NativeTransaction Db (Except NativeError α)}

theorem transact_ok {outcome : Except NativeError α}
    (hbody : body database = .ok (outcome, later)) :
    transact body database = (outcome, later) := by
  rw [transact, hbody]

theorem transact_error {error : NativeError} (hbody : body database = .error error) :
    transact body database = (.error error, database) := by
  rw [transact, hbody]

theorem transact_eq_ok {value : α} (hok : transact body database = (.ok value, later)) :
    body database = .ok (.ok value, later) := by
  unfold transact at hok
  cases hbody : body database with
  | error error =>
      rw [hbody] at hok
      cases hok
  | ok pair =>
      rw [hbody] at hok
      exact congrArg Except.ok hok

end Transactions

/-! ## Statements -/

def maxAuthenticationFailures : Int := 5
def lockoutSeconds : Nat := 300

def authenticationErrorMessage (code message : String) : NativeError :=
  .new "AUTHENTICATION_ERROR" message "Authentication failed" code

def findCredentials (userId : String) : Statement AuthorizationDatabase UserRow :=
  userTable.select
    "SELECT organisation_id, status, credential_verifier,
                        failed_authentication_attempts, locked_until
                 FROM core_users WHERE id = ?1"
    [.string userId]
    [⟨"organisation_id", fun row => .text row.organisationId⟩,
      ⟨"status", fun row => .text row.status⟩,
      ⟨"credential_verifier", fun row => .ofText? row.credentialVerifier⟩,
      ⟨"failed_authentication_attempts", fun row => .integer row.failedAuthenticationAttempts⟩,
      ⟨"locked_until", fun row => .ofText? row.lockedUntil⟩]
    (fun row => row.id = userId) id

def countUsableDevices (deviceId userId : String) : Statement AuthorizationDatabase Nat where
  sql := "SELECT COUNT(*) FROM core_devices
                 WHERE device_id = ?1 AND status IN ('APPROVED', 'ACTIVE')
                   AND (user_id IS NULL OR user_id = ?2)"
  params := [.string deviceId, .string userId]
  columns := [⟨"COUNT(*)", fun count => .integer count⟩]
  effect := .read fun database =>
    [(database.devices.select fun row =>
      row.deviceId = deviceId && (row.status = "APPROVED" || row.status = "ACTIVE") &&
        (row.userId = none || row.userId = some userId)).length]

def recordFailures (failures : Int) (lockedUntil : Option String) (userId : String) :
    Statement AuthorizationDatabase Unit :=
  userTable.update
    "UPDATE core_users
                     SET failed_authentication_attempts = ?1, locked_until = ?2
                     WHERE id = ?3"
    [.number (.integer failures), .ofString? lockedUntil, .string userId]
    (fun row => row.id = userId)
    (fun row => { row with failedAuthenticationAttempts := failures, lockedUntil := lockedUntil })

def resetFailures (userId : String) : Statement AuthorizationDatabase Unit :=
  userTable.update
    "UPDATE core_users
                 SET failed_authentication_attempts = 0, locked_until = NULL
                 WHERE id = ?1"
    [.string userId] (fun row => row.id = userId)
    (fun row => { row with failedAuthenticationAttempts := 0, lockedUntil := none })

def effectiveRows (database : AuthorizationDatabase) (userId organisationId : String) :
    List AuthorizationRepository.EffectivePermissionRow :=
  (AuthorizationRepository.grantedRoles database userId organisationId).flatMap fun userRole =>
    (database.rolePermissions.select fun row => row.roleId = userRole.roleId).flatMap
      fun grant =>
        (database.permissions.select fun row => row.id = grant.permissionId).map
          fun permission =>
            { permissionName := permission.name
              scopeConstraintsJson := grant.scopeConstraintsJson }

def findPermissionNames (userId organisationId : String) :
    Statement AuthorizationDatabase String where
  sql := "SELECT p.name
                 FROM core_user_roles ur
                 JOIN core_roles r ON r.id = ur.role_id AND r.organisation_id = ur.organisation_id
                 JOIN core_role_permissions rp ON rp.role_id = r.id
                 JOIN core_permissions p ON p.id = rp.permission_id
                 WHERE ur.user_id = ?1 AND ur.organisation_id = ?2
                 ORDER BY p.name"
  params := [.string userId, .string organisationId]
  columns := [⟨"name", .text⟩]
  effect := .read fun database =>
    Table.orderBy (· ≤ ·) ((effectiveRows database userId organisationId).map
      AuthorizationRepository.EffectivePermissionRow.permissionName)

/-! ## Authentication -/

/-- `parse::<u64>`. -/
def parseU64 (text : String) : Option Nat :=
  let digits := match text.toList with
    | '+' :: rest => rest
    | chars => chars
  if digits ≠ [] ∧ digits.all isDecimalDigit then
    let value := digits.foldl (fun value c => value * 10 + (c.toNat - '0'.toNat)) 0
    if value < 2 ^ 64 then some value else none
  else none

/-- `saturating_add` on `i64`. -/
def saturatingSucc (value : Int) : Int :=
  min (value + 1) (2 ^ 63 - 1)

def isLocked (user : UserRow) (now : Nat) : Bool :=
  (user.lockedUntil.bind parseU64).any fun until_ => now < until_

def nextLock (failures : Int) (now : Nat) : Option String :=
  if maxAuthenticationFailures ≤ failures then some (toString (now + lockoutSeconds)) else none

/-- `verify` is that of `PasswordVerifier`, an error of which is a refusal; `now` is the
clock in seconds. -/
def authenticateUser (verify : String → String → Bool) (now : Nat)
    (userId deviceId password : String) (database : AuthorizationDatabase) :
    Except NativeError NativePrincipal × AuthorizationDatabase :=
  transact (do
    let users ← runStatement "auth_user_lookup" (findCredentials userId)
    match users.head?.filter fun user => user.status = "ACTIVE" with
    | none => throw (authenticationErrorMessage "auth_failed" "Authentication failed")
    | some user => do
        let devices ← runStatement "auth_device_lookup" (countUsableDevices deviceId userId)
        if devices ≠ [1] then
          throw (authenticationErrorMessage "auth_failed" "Authentication failed")
        else if isLocked user now then
          throw (authenticationErrorMessage "auth_locked" "Authentication failed")
        else if user.credentialVerifier.any (verify password) then do
          let permissions ← runStatement "auth_permissions_query"
            (findPermissionNames userId user.organisationId)
          let _ ← runStatement "auth_success_update" (resetFailures userId)
          pure (.ok {
            userId := userId
            deviceId := deviceId
            organisationId := user.organisationId
            permissions := permissions })
        else do
          let failures := saturatingSucc user.failedAuthenticationAttempts
          let _ ← runStatement "auth_failure_update"
            (recordFailures failures (nextLock failures now) userId)
          pure (.error (authenticationErrorMessage "auth_failed" "Authentication failed")))
    database

end DurableDatabase
end TauriPlatform
