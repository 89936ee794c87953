import TauriPlatform.HandshakeProtocol
import TauriPlatform.SyncGroupService

/-!
# Pairing

`PairingService.requestPairing` registers the device of a peer whose handshake is valid and
asks for its membership.  `approvePairing` approves the membership request, marks the peer's
device and records the decision, all in one transaction.
-/

namespace TauriPlatform

open Async

/-! ## Devices -/

namespace DeviceIdentityService

variable {Call : Type → Type 1} (executor : Executor AuthorizationDatabase Call)

structure DeviceIdentity where
  deviceId : String
  publicKey : String
  platform : String
  applicationId : String
  status : String
  registeredAt : String
  lastSeenAt : Option String

def toIdentity (row : DeviceRow) : DeviceIdentity where
  deviceId := row.deviceId
  publicKey := row.publicKey
  platform := row.platform
  applicationId := row.applicationId
  status := row.status
  registeredAt := row.registeredAt
  lastSeenAt := row.lastSeenAt

/-- The columns which `toIdentity` reads. -/
def deviceColumns : List (Column DeviceRow) :=
  [⟨"device_id", fun row => .text row.deviceId⟩,
    ⟨"public_key", fun row => .text row.publicKey⟩,
    ⟨"platform", fun row => .text row.platform⟩,
    ⟨"application_id", fun row => .text row.applicationId⟩,
    ⟨"status", fun row => .text row.status⟩,
    ⟨"registered_at", fun row => .text row.registeredAt⟩,
    ⟨"last_seen_at", fun row => .ofText? row.lastSeenAt⟩,
    ⟨"user_id", fun row => .ofText? row.userId⟩,
    ⟨"is_local", fun row => .integer (if row.isLocal then 1 else 0)⟩]

def findLocal : Statement AuthorizationDatabase DeviceRow :=
  deviceTable.select "SELECT * FROM core_devices WHERE is_local = 1 LIMIT 1" [] deviceColumns
    (fun row => row.isLocal) (List.take 1)

def findByDeviceId (deviceId : String) : Statement AuthorizationDatabase DeviceRow :=
  deviceTable.select "SELECT * FROM core_devices WHERE device_id = ? LIMIT 1"
    [.string deviceId] deviceColumns (fun row => row.deviceId = deviceId) (List.take 1)

def insert (row : DeviceRow) : Statement AuthorizationDatabase Unit :=
  deviceTable.insert
    "INSERT INTO core_devices (
        id, created_at, updated_at, user_id, device_id, public_key, platform,
        application_id, status, registered_at, last_seen_at, is_local
      ) VALUES (?, ?, ?, ?, ?, ?, ?, ?, ?, ?, ?, ?)"
    [.string row.id, .string row.createdAt, .string row.updatedAt, .ofString? row.userId,
      .string row.deviceId, .string row.publicKey, .string row.platform,
      .string row.applicationId, .string row.status, .string row.registeredAt,
      .ofString? row.lastSeenAt, .number (.integer (if row.isLocal then 1 else 0))]
    (fun database => row.userId.all database.hasUser) row

structure RegisterDeviceOptions where
  publicKey : String
  platform : String
  applicationId : String
  userId : Option String
  deviceId : Option String

/-- What `registerDevice` asks of a device which is there already; an empty user id is
as falsy as none. -/
def requireSameIdentity (existing : DeviceRow) (options : RegisterDeviceOptions) :
    Except Thrown DeviceIdentity :=
  let userId := options.userId.getD ""
  let boundTo := existing.userId.getD ""
  if existing.publicKey ≠ options.publicKey then
    .error (authenticationError
      s!"Device '{existing.deviceId}' is already registered with a different public key"
      "This device identity conflicts with an existing registration" "dev_identity_conflict")
  else if userId ≠ "" ∧ boundTo ≠ "" ∧ userId ≠ boundTo then
    .error (authenticationError
      s!"Device '{existing.deviceId}' is already bound to another user"
      "This device is registered to a different user" "dev_user_conflict")
  else .ok (toIdentity existing)

/-- The row of a device which is not there yet; `id` and `generatedDeviceId` are generated. -/
def newDevice (id generatedDeviceId : String) (now : ClockReading)
    (options : RegisterDeviceOptions) : DeviceRow where
  id := id
  createdAt := now.iso
  updatedAt := now.iso
  userId := options.userId
  deviceId := options.deviceId.getD generatedDeviceId
  publicKey := options.publicKey
  platform := options.platform
  applicationId := options.applicationId
  status := "UNREGISTERED"
  registeredAt := now.iso
  lastSeenAt := some now.iso
  isLocal := options.deviceId.isNone

def registerDevice (id generatedDeviceId : String) (now : ClockReading)
    (options : RegisterDeviceOptions) : Program Call Thrown DeviceIdentity := do
  let found ← executor.query (match options.deviceId.filter (· ≠ "") with
    | some deviceId => findByDeviceId deviceId
    | none => findLocal)
  match found with
  | existing :: _ => Program.ofExcept (requireSameIdentity existing options)
  | [] =>
      if isBlank options.publicKey then
        throw (validationError "Public key is required to register device"
          "Device public key missing" "dev_reg_err")
      else do
        let row := newDevice id generatedDeviceId now options
        executor.execute (insert row)
        pure (toIdentity row)

def updateStatus (deviceId status updatedAt : String) :
    Statement AuthorizationDatabase Unit :=
  deviceTable.update
    "UPDATE core_devices SET status = ?, updated_at = ?, last_seen_at = ? WHERE device_id = ?"
    [.string status, .string updatedAt, .string updatedAt, .string deviceId]
    (fun row => row.deviceId = deviceId)
    (fun row =>
      { row with status := status, updatedAt := updatedAt, lastSeenAt := some updatedAt })

def updateDeviceStatus (now : ClockReading) (deviceId newStatus : String) :
    Program Call Thrown Unit := do
  let rowsAffected ← executor.executeCounting (updateStatus deviceId newStatus now.iso)
  if rowsAffected = some 0 then
    throw (authenticationError s!"Device '{deviceId}' not found" "Device record not found"
      "dev_status_err")
  else pure ()

end DeviceIdentityService

/-! ## Audit events -/

namespace AuditService

variable {Call : Type → Type 1} (executor : Executor AuthorizationDatabase Call)

structure EmitAuditEventInput where
  eventType : String
  userId : Option String
  deviceId : String
  organisationId : String
  correlationId : String
  metadata : Option (List (String × JsonValue))

/-- `AuditRepository.insert`. -/
def insertEvent (row : AuditEventRow) : Statement AuthorizationDatabase Unit :=
  auditEventTable.insert
    "INSERT INTO core_audit_events (
        id, event_type, user_id, device_id, organisation_id, correlation_id, timestamp, metadata_json
      ) VALUES (?, ?, ?, ?, ?, ?, ?, ?)"
    [.string row.id, .string row.eventType, .ofString? row.userId, .string row.deviceId,
      .string row.organisationId, .string row.correlationId, .string row.timestamp,
      .ofString? row.metadataJson]
    (fun _ => true) row

/-- `AuditService.emit`, without its result. -/
def emit (id : String) (now : ClockReading) (input : EmitAuditEventInput) :
    Program Call Thrown Unit :=
  executor.execute (insertEvent
    { id := id
      eventType := input.eventType
      userId := input.userId
      deviceId := input.deviceId
      organisationId := input.organisationId
      correlationId := input.correlationId
      timestamp := now.iso
      metadataJson := input.metadata.map fun entries => (JsonValue.object entries).stringify })

end AuditService

/-! ## Pairing -/

namespace PairingService

structure PairingDecisionResult where
  requestId : String
  deviceId : String
  syncGroupId : String
  status : String
  deriving DecidableEq

/-- An `OperationContext`, which pairing is called with. -/
structure PairingContext where
  correlationId : String
  userId : Option String
  deviceId : String
  organisationId : String

def PairingContext.toCallContext (context : PairingContext) : CallContext :=
  .operation context.correlationId context.userId context.deviceId context.organisationId

/-! ### Requests -/

inductive PairingCall : Type → Type 1
  | handshake {α : Type} (call : HandshakeCall α) : PairingCall α
  | database {α : Type} (call : DbCall AuthorizationDatabase α) : PairingCall α

structure PairingRequestInput where
  handshake : HandshakeMessage
  syncGroupId : String
  verifyFn : Bool

/-- The ids which a request generates and the clock readings it makes. -/
structure RequestReadings where
  rowId : String
  generatedDeviceId : String
  requestId : String
  auditId : String
  validated : ClockReading
  registered : ClockReading
  requested : ClockReading
  recorded : ClockReading

def findPairingGroup (syncGroupId : String) : Statement AuthorizationDatabase SyncGroupRow :=
  syncGroupTable.select
    "SELECT organisation_id, status FROM core_sync_groups WHERE id = ? LIMIT 1"
    [.string syncGroupId]
    [⟨"organisation_id", fun row => .text row.organisationId⟩,
      ⟨"status", fun row => .text row.status⟩]
    (fun row => row.id = syncGroupId) (List.take 1)

/-- What `requestPairing` asks of the group. -/
def requirePairingGroup (groups : List SyncGroupRow) (input : PairingRequestInput)
    (context : PairingContext) : Except Thrown Unit :=
  match groups.head?.filter fun group => group.status = "ACTIVE" with
  | none =>
      .error (validationError s!"Sync group '{input.syncGroupId}' is missing or inactive"
        "The selected sync group is unavailable" context.correlationId)
  | some group =>
      if group.organisationId ≠ input.handshake.organisationId then
        .error (authorizationError
          s!"Pairing group '{input.syncGroupId}' belongs to a different organisation"
          "This device cannot pair across organisations" context.correlationId none)
      else .ok ()

/-- The callback of `requestPairing`. -/
def requestPairingWithin {Call : Type → Type 1}
    (executor : Executor AuthorizationDatabase Call) (readings : RequestReadings)
    (input : PairingRequestInput) (context : PairingContext) : Program Call Thrown String := do
  let _ ← DeviceIdentityService.registerDevice executor readings.rowId
    readings.generatedDeviceId readings.registered
    { publicKey := input.handshake.signerPublicKey
      platform := input.handshake.platform
      applicationId := input.handshake.applicationId
      userId := context.userId
      deviceId := some input.handshake.deviceId }
  let requestId ← SyncGroupService.requestMembership executor readings.requestId
    readings.requested input.syncGroupId input.handshake.deviceId context.userId
  AuditService.emit executor readings.auditId readings.recorded
    { eventType := "MEMBERSHIP_REQUESTED"
      userId := context.userId
      deviceId := input.handshake.deviceId
      organisationId := input.handshake.organisationId
      correlationId := context.correlationId
      metadata := some [("requestId", .string requestId),
        ("syncGroupId", .string input.syncGroupId),
        ("applicationVersion", .string input.handshake.applicationVersion),
        ("signerPublicKey", .string input.handshake.signerPublicKey),
        ("platform", .string input.handshake.platform)] }
  pure requestId

/-- `requestPairing`, with the id of the pending request. -/
def requestPairing (dateParse : DateParse) (readings : RequestReadings)
    (input : PairingRequestInput) (validationOptions : HandshakeValidationOptions)
    (context : PairingContext) : Program PairingCall Thrown String := do
  (HandshakeValidator.requireValid dateParse readings.validated (some input.handshake)
    { validationOptions with verifyFn := input.verifyFn || validationOptions.verifyFn }
    context.correlationId).mapCall fun _ => PairingCall.handshake
  if context.organisationId ≠ input.handshake.organisationId then
    throw (authorizationError
      "Pairing handshake organisation does not match the local operation context"
      "This device cannot pair across organisations" context.correlationId none)
  else do
    let groups ← Program.await (.database (.query (findPairingGroup input.syncGroupId)))
    Program.ofExcept (requirePairingGroup groups input context)
    Program.await (.database (.transaction
      (requestPairingWithin (transactionExecutor AuthorizationDatabase) readings input context)))

/-! ### Approvals -/

/-- The ids which an approval generates and the clock readings it makes. -/
structure ApprovalReadings where
  decisionId : String
  memberId : String
  auditId : String
  decided : ClockReading
  updated : ClockReading
  recorded : ClockReading

def findRequest (requestId : String) :
    Statement AuthorizationDatabase MembershipRequestRow :=
  membershipRequestTable.select
    "SELECT device_id, group_id FROM core_membership_requests WHERE id = ? LIMIT 1"
    [.string requestId]
    [⟨"device_id", fun row => .text row.deviceId⟩,
      ⟨"group_id", fun row => .text row.groupId⟩]
    (fun row => row.id = requestId) (List.take 1)

/-- The callback of `approvePairing`. -/
def approvePairingWithin {Call : Type → Type 1}
    (executor : Executor AuthorizationDatabase Call) (readings : ApprovalReadings)
    (requestId : String) (context : PairingContext) :
    Program Call Thrown PairingDecisionResult := do
  match ← executor.query (findRequest requestId) with
  | [] =>
      throw (validationError s!"Pairing request '{requestId}' not found"
        "Pairing request not found" context.correlationId)
  | request :: _ => do
      SyncGroupService.approveMembershipWithin executor readings.decisionId
        readings.memberId readings.decided requestId context.toCallContext none none
      DeviceIdentityService.updateDeviceStatus executor readings.updated request.deviceId
        "APPROVED"
      AuditService.emit executor readings.auditId readings.recorded
        { eventType := "MEMBERSHIP_APPROVED"
          userId := context.userId
          deviceId := request.deviceId
          organisationId := context.organisationId
          correlationId := context.correlationId
          metadata := some [("requestId", .string requestId),
            ("syncGroupId", .string request.groupId)] }
      pure {
        requestId := requestId
        deviceId := request.deviceId
        syncGroupId := request.groupId
        status := "APPROVED" }

def approvePairing (readings : ApprovalReadings) (requestId : String)
    (context : PairingContext) :
    Program (DbCall AuthorizationDatabase) Thrown PairingDecisionResult :=
  Program.await (.transaction (approvePairingWithin
    (transactionExecutor AuthorizationDatabase) readings requestId context))

/-! ### Admission -/

def canSync (deviceId syncGroupId : String) :
    Program (DbCall AuthorizationDatabase) Thrown Bool := do
  let devices ← (connectionExecutor AuthorizationDatabase).query
    (DeviceIdentityService.findByDeviceId deviceId)
  if devices.head?.all fun device => ¬ SyncGroupService.isApprovedOrActive device.status then
    pure false
  else SyncGroupService.canSync (connectionExecutor AuthorizationDatabase) deviceId syncGroupId

end PairingService
end TauriPlatform
