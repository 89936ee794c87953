import TauriPlatform.DatabaseConnection
import TauriPlatform.IsoTimestamp
import TauriPlatform.RelationalTable

/-!
# User sessions

`UserSessionService` keeps one session in memory.  An operation of it is a program over
the calls of the native gateway and of the database; setting the current session is an
effect of its own, between two awaits.
-/

namespace TauriPlatform

open Async Relational

/-! ## What is read -/

/-- A row of `core_users`. -/
structure SessionUserRow where
  id : String
  organisationId : String
  displayName : String
  status : String

/-- A row of `core_devices`. -/
structure SessionDeviceRow where
  deviceId : String
  userId : Option String
  status : String

/-- A row of `core_user_roles`. -/
structure SessionRoleRow where
  id : String
  userId : String
  roleId : String
  organisationId : String

structure IdentityDatabase where
  users : Table SessionUserRow String [fun row => some row.id] := Table.empty
  devices : Table SessionDeviceRow String [fun row => some row.deviceId] := Table.empty
  userRoles : Table SessionRoleRow String [fun row => some row.id] := Table.empty

def selectSessionUser (userId : String) : Statement IdentityDatabase SessionUserRow where
  sql := "SELECT id, organisation_id, display_name, status FROM core_users WHERE id = ? LIMIT 1"
  params := [.string userId]
  columns := [⟨"id", fun row => .text row.id⟩,
    ⟨"organisation_id", fun row => .text row.organisationId⟩,
    ⟨"display_name", fun row => .text row.displayName⟩,
    ⟨"status", fun row => .text row.status⟩]
  effect := .read fun database => (database.users.select fun row => row.id = userId).take 1

def selectSessionDevice (deviceId : String) : Statement IdentityDatabase SessionDeviceRow where
  sql := "SELECT device_id, user_id, status FROM core_devices WHERE device_id = ? LIMIT 1"
  params := [.string deviceId]
  columns := [⟨"device_id", fun row => .text row.deviceId⟩,
    ⟨"user_id", fun row => .ofText? row.userId⟩,
    ⟨"status", fun row => .text row.status⟩]
  effect := .read fun database =>
    (database.devices.select fun row => row.deviceId = deviceId).take 1

def selectSessionRoles (userId organisationId : String) : Statement IdentityDatabase String where
  sql := "SELECT role_id
       FROM core_user_roles
       WHERE user_id = ? AND organisation_id = ?
       ORDER BY role_id ASC"
  params := [.string userId, .string organisationId]
  columns := [⟨"role_id", .text⟩]
  effect := .read fun database =>
    Table.orderBy (· ≤ ·) ((database.userRoles.select fun row =>
      row.userId = userId && row.organisationId = organisationId).map SessionRoleRow.roleId)

/-! ## Calls -/

structure NativeSessionView where
  userId : String
  deviceId : String
  organisationId : String
  permissions : List String

structure Session where
  sessionId : String
  userId : String
  deviceId : String
  organisationId : String
  roles : List String
  establishedAt : String
  expiresAt : Option String
  deriving DecidableEq

structure AuthenticateUserRequest where
  userId : String
  password : String

/-- The awaited calls of the service, and the assignment to `currentSession`. -/
inductive SessionCall : Type → Type 1
  | authenticateUser (request : AuthenticateUserRequest) : SessionCall NativeSessionView
  | getCurrentSession : SessionCall (Option NativeSessionView)
  | logoutUser : SessionCall Unit
  | database {α : Type} (call : DbCall IdentityDatabase α) : SessionCall α
  | setSession (session : Option Session) : SessionCall Unit

namespace UserSessionService

def query {Row : Type} (statement : Statement IdentityDatabase Row) :
    Program SessionCall Thrown (List Row) :=
  Program.await (.database (.query statement))

def invalidateSession : Program SessionCall Thrown Unit :=
  Program.await (.setSession none)

def rejectSession {α : Type} (thrown : Thrown) : Program SessionCall Thrown α := do
  invalidateSession
  throw thrown

/-! ## Operations -/

def isApprovedDevice (device : SessionDeviceRow) (userId : String) : Bool :=
  (device.userId = none || device.userId = some userId) &&
    (device.status = "APPROVED" || device.status = "ACTIVE")

/-- `establishFromNativeSession`, with the generated session id and the clock reading. -/
def establishFromNativeSession (sessionId : String) (now : ClockReading)
    (nativeView : NativeSessionView) : Program SessionCall Thrown Session := do
  let userRows ← query (selectSessionUser nativeView.userId)
  match userRows.head?.filter fun user => user.status = "ACTIVE" with
  | none =>
      rejectSession (authenticationError
        s!"User '{nativeView.userId}' is inactive or not found"
        "User account is inactive" "sess_user_inactive")
  | some user =>
      if user.organisationId ≠ nativeView.organisationId then
        rejectSession (authorizationError
          s!"Native session organisation does not match user '{nativeView.userId}'"
          "Your sign-in session does not match this account" "sess_org_mismatch" none)
      else do
        let deviceRows ← query (selectSessionDevice nativeView.deviceId)
        match deviceRows.head?.filter fun device =>
            isApprovedDevice device nativeView.userId with
        | none =>
            rejectSession (authorizationError
              s!"Native session device '{nativeView.deviceId}' is missing, unbound, or inactive"
              "This device is not approved for sign-in" "sess_device_invalid" none)
        | some _ => do
            let roles ← query (selectSessionRoles nativeView.userId nativeView.organisationId)
            let session : Session := {
              sessionId := sessionId
              userId := nativeView.userId
              deviceId := nativeView.deviceId
              organisationId := nativeView.organisationId
              roles := roles
              establishedAt := now.iso
              expiresAt := none }
            Program.await (.setSession (some session))
            pure session

def authenticate (request : AuthenticateUserRequest) (sessionId : String) (now : ClockReading) :
    Program SessionCall Thrown Session :=
  if request.userId = "" ∨ request.password = "" then
    throw (authenticationError "User ID and password are required"
      "Please provide both user ID and password" "auth_missing_fields")
  else do
    let nativeView ← tryCatch (Program.await (.authenticateUser request)) fun _ =>
      rejectSession (authenticationError "Native authentication failed"
        "Invalid credentials or account locked" "auth_native_failed")
    establishFromNativeSession sessionId now nativeView

/-- `restoreNativeSession`; `supported` says whether the gateway has `getCurrentSession`. -/
def restoreNativeSession (supported : Bool) (sessionId : String) (now : ClockReading) :
    Program SessionCall Thrown (Option Session) :=
  if supported then do
    match ← Program.await .getCurrentSession with
    | none => do
        invalidateSession
        pure none
    | some nativeView => do
        let session ← establishFromNativeSession sessionId now nativeView
        pure (some session)
  else
    throw (authenticationError "Native session restoration is not supported by this gateway"
      "Unable to restore your sign-in session" "sess_restore_unsupported")

/-- `logout`; `notifies` says whether there is a gateway with `logoutUser`. -/
def logout (notifies : Bool) : Program SessionCall Thrown Unit := do
  if notifies then
    Program.await .logoutUser
  invalidateSession

/-! ## Operations in flight -/

/-- A call of the service with what it is given, generates and reads. -/
inductive SessionOperation where
  | authenticate (request : AuthenticateUserRequest) (sessionId : String) (now : ClockReading)
  | restoreNativeSession (supported : Bool) (sessionId : String) (now : ClockReading)
  | logout (notifies : Bool)

namespace SessionOperation

def program : SessionOperation → Program SessionCall Thrown (Option Session)
  | .authenticate request sessionId now => do
      let session ← UserSessionService.authenticate request sessionId now
      pure (some session)
  | .restoreNativeSession supported sessionId now =>
      UserSessionService.restoreNativeSession supported sessionId now
  | .logout notifies => do
      UserSessionService.logout notifies
      pure none

def Establishes : SessionOperation → Prop
  | .logout _ => False
  | _ => True

end SessionOperation

/-- What happens to the session slot, under the numbers of the operations. -/
inductive SessionEvent where
  | began (operation : Nat) (call : SessionOperation)
  | installed (operation : Nat)
  | completed (operation : Nat) (call : SessionOperation)

structure SessionState where
  currentSession : Option Session
  log : List SessionEvent
  started : Nat

def SessionState.initial : SessionState where
  currentSession := none
  log := []
  started := 0

structure InFlight where
  operation : Nat
  call : SessionOperation
  program : Program SessionCall Thrown (Option Session)

structure SessionSystem where
  state : SessionState
  flights : List InFlight

def runEffects (operation : Nat) :
    Program SessionCall Thrown (Option Session) → SessionState →
      Program SessionCall Thrown (Option Session) × SessionState
  | .call (.setSession (some session)) rest, state =>
      runEffects operation (rest (.ok ())) { state with
        currentSession := some session
        log := state.log ++ [.installed operation] }
  | .call (.setSession none) rest, state =>
      runEffects operation (rest (.ok ())) { state with currentSession := none }
  | program, state => (program, state)

def proceed (operation : Nat) (call : SessionOperation)
    (program : Program SessionCall Thrown (Option Session)) (state : SessionState) :
    SessionSystem :=
  match runEffects operation program state with
  | (.done _, later) =>
      { state := { later with log := later.log ++ [.completed operation call] }
        flights := [] }
  | (waiting, later) =>
      { state := later
        flights := [{ operation := operation, call := call, program := waiting }] }

/-- What an awaited call may settle with: any answer of the gateway, and any error or the
rows of any database. -/
def Settles : ∀ {α : Type}, SessionCall α → Except Thrown α → Prop
  | _, .setSession _, _ => False
  | _, .database (.query statement), answer =>
      (∃ thrown, answer = .error thrown) ∨
        ∃ database result, statement.run database = .ok result ∧ answer = .ok result.rows
  | _, _, _ => True

/-- One operation begins, or has its call settled and goes on.  `Allowed` restricts what may
be in flight when an operation completes. -/
inductive SessionStep (Allowed : Nat → SessionOperation → List InFlight → Prop) :
    SessionSystem → SessionSystem → Prop
  | begin (call : SessionOperation) (state : SessionState) (flights : List InFlight)
      (next : SessionSystem) :
      next = proceed state.started call call.program { state with
        log := state.log ++ [.began state.started call]
        started := state.started + 1 } →
      (next.flights = [] → Allowed state.started call flights) →
      SessionStep Allowed ⟨state, flights⟩ ⟨next.state, next.flights ++ flights⟩
  | settle {α : Type} (request : SessionCall α)
      (rest : Except Thrown α → Program SessionCall Thrown (Option Session))
      (answer : Except Thrown α) (operation : Nat) (call : SessionOperation)
      (state : SessionState) (before after : List InFlight) (next : SessionSystem) :
      Settles request answer →
      next = proceed operation call (rest answer) state →
      (next.flights = [] → Allowed operation call (before ++ after)) →
      SessionStep Allowed ⟨state, before ++ ⟨operation, call, .call request rest⟩ :: after⟩
        ⟨next.state, before ++ (next.flights ++ after)⟩

def SessionReaches (Allowed : Nat → SessionOperation → List InFlight → Prop)
    (system : SessionSystem) : Prop :=
  Relation.ReflTransGen (SessionStep Allowed) ⟨.initial, []⟩ system

end UserSessionService
end TauriPlatform
