import TauriPlatform.PairingService

/-!
# Administration of devices

`IdentityAdminService` approves and revokes devices.  Approving asks for the status of the
device first; both change the membership and the device in one transaction.
-/

namespace TauriPlatform

open Async

namespace IdentityAdminRepository

def findDeviceStatus (deviceId : String) : Statement AuthorizationDatabase DeviceRow :=
  deviceTable.select "SELECT status FROM core_devices WHERE device_id = ? LIMIT 1"
    [.string deviceId] [⟨"status", fun row => .text row.status⟩]
    (fun row => row.deviceId = deviceId) (List.take 1)

def setDeviceStatus (deviceId status updatedAt : String) :
    Statement AuthorizationDatabase Unit :=
  deviceTable.update "UPDATE core_devices SET status = ?, updated_at = ? WHERE device_id = ?"
    [.string status, .string updatedAt, .string deviceId]
    (fun row => row.deviceId = deviceId)
    (fun row => { row with status := status, updatedAt := updatedAt })

end IdentityAdminRepository

namespace IdentityAdminService

def devicesApprove : String := "devices.approve"
def devicesRevoke : String := "devices.revoke"

section Devices

variable {Call : Type → Type 1} (executor : Executor AuthorizationDatabase Call)

/-- The same body as in `SyncGroupService`. -/
def requirePermission (context : CallContext) (permission : String) :
    Program Call Thrown Unit :=
  SyncGroupService.requirePermission executor context permission

def isEligible (status : String) : Bool :=
  ["PENDING_APPROVAL", "APPROVED", "ACTIVE"].contains status

structure DeviceReadings where
  decisionId : String
  memberId : String
  auditId : String
  decided : ClockReading
  updated : ClockReading
  recorded : ClockReading

def emitAbout (readings : DeviceReadings) (eventType : String) (context : CallContext)
    (metadata : List (String × JsonValue)) : Program Call Thrown Unit :=
  let subject := extractContextSubject context
  AuditService.emit executor readings.auditId readings.recorded
    { eventType := eventType
      userId := subject.userId
      deviceId := subject.deviceId
      organisationId := subject.organisationId
      correlationId := context.correlationId
      metadata := some metadata }

/-- The callback of `approveDevice`. -/
def approveDeviceWithin (readings : DeviceReadings) (deviceId requestId : String)
    (context : CallContext) : Program Call Thrown Unit := do
  requirePermission executor context devicesApprove
  let devices ← executor.query (IdentityAdminRepository.findDeviceStatus deviceId)
  if devices.head?.all fun device => ¬ isEligible device.status then
    throw (validationError s!"Device '{deviceId}' is missing or ineligible for approval"
      "This device cannot be approved" context.correlationId)
  else do
    SyncGroupService.approveMembershipWithin executor readings.decisionId readings.memberId
      readings.decided requestId context none (some deviceId)
    executor.execute
      (IdentityAdminRepository.setDeviceStatus deviceId "APPROVED" readings.updated.iso)
    emitAbout executor readings "DEVICE_APPROVED" context
      [("approvedDeviceId", .string deviceId), ("requestId", .string requestId)]

/-- The callback of `revokeDevice`; an empty status is as falsy as none. -/
def revokeDeviceWithin (readings : DeviceReadings) (deviceId groupId reason : String)
    (context : CallContext) : Program Call Thrown Unit := do
  requirePermission executor context devicesRevoke
  let devices ← executor.query (IdentityAdminRepository.findDeviceStatus deviceId)
  if devices.head?.all fun device => device.status = "" then
    throw (validationError s!"Device '{deviceId}' does not exist" "Device record not found"
      context.correlationId)
  else do
    SyncGroupService.revokeMembershipWithin executor readings.decisionId readings.decided
      deviceId groupId context reason
    executor.execute
      (IdentityAdminRepository.setDeviceStatus deviceId "REVOKED" readings.updated.iso)
    emitAbout executor readings "DEVICE_REVOKED" context
      [("revokedDeviceId", .string deviceId), ("reason", .string reason)]

end Devices

def approveDevice (readings : DeviceReadings) (deviceId requestId : String)
    (context : CallContext) : Program (DbCall AuthorizationDatabase) Thrown Unit :=
  Program.await (.transaction (approveDeviceWithin (transactionExecutor AuthorizationDatabase)
    readings deviceId requestId context))

def revokeDevice (readings : DeviceReadings) (deviceId groupId reason : String)
    (context : CallContext) : Program (DbCall AuthorizationDatabase) Thrown Unit :=
  Program.await (.transaction (revokeDeviceWithin (transactionExecutor AuthorizationDatabase)
    readings deviceId groupId reason context))

end IdentityAdminService
end TauriPlatform
