import TauriPlatform.AuthorizationEngine
import TauriPlatform.IsoTimestamp

/-!
# Deciding about memberships

`SyncGroupService` approves, rejects and revokes memberships of sync groups.  A
decision reads what it depends on and writes its outcome within one transaction:
the caller's, or one of its own.
-/

namespace TauriPlatform

open Async

namespace SyncGroupService

section Decisions

variable {Call : Type → Type 1} (executor : Executor AuthorizationDatabase Call)

def requirePermission (context : CallContext) (permission : String) :
    Program Call Thrown Unit :=
  match context with
  | .trusted _ principal =>
      AuthorizationEngine.requireTrusted executor principal permission none
  | .operation correlationId userId _ organisationId =>
      match userId.filter (· ≠ "") with
      | none =>
          throw (authorizationError
            s!"Operation requires authenticated subject with permission '{permission}'"
            "You are not authorized to perform this operation" correlationId none)
      | some userId =>
          AuthorizationEngine.requireForSubject executor userId organisationId permission
            none

def requireGroupOrganisation (groupId : String) (context : CallContext) :
    Program Call Thrown Unit := do
  let organisationId := (extractContextSubject context).organisationId
  match ← executor.query (SyncGroupRepository.findGroup groupId) with
  | [] =>
      throw (validationError s!"Sync group '{groupId}' does not exist"
        "Sync group not found" context.correlationId)
  | group :: _ =>
      if group.organisationId ≠ organisationId then
        throw (authorizationError
          (s!"Cannot manage sync group '{groupId}' outside organisation " ++
            s!"'{organisationId}'")
          "You are not authorized to manage this sync group" context.correlationId none)
      else pure ()

def decidedBy : CallContext → String
  | .trusted _ principal => principal.userId
  | .operation _ userId _ _ => userId.getD "system"

/-- The request which is to be decided.  A missing request is reported under the
given correlation id. -/
def pendingRequest (requestId : String) (context : CallContext)
    (missingCorrelationId : String) : Program Call Thrown MembershipRequestRow := do
  match ← executor.query (SyncGroupRepository.findMembershipRequest requestId) with
  | [] =>
      throw (validationError s!"Membership request '{requestId}' not found"
        "Request not found" missingCorrelationId)
  | request :: _ => do
      requireGroupOrganisation executor request.groupId context
      if request.status ≠ "PENDING" then
        throw (validationError s!"Membership request '{requestId}' is not pending"
          "This membership request has already been decided" context.correlationId)
      else pure request

/-- `approveMembership` on a transaction client; the ids are the generated ones. -/
def approveMembershipWithin (decisionId memberId : String) (now : ClockReading)
    (requestId : String) (approver : CallContext)
    (signature expectedDeviceId : Option String) : Program Call Thrown Unit := do
  requirePermission executor approver "sync.manage"
  let request ← pendingRequest executor requestId approver "mbr_appr_err"
  if expectedDeviceId.any (· ≠ request.deviceId) then
    throw (authorizationError
      s!"Membership request '{requestId}' is for a different device"
      "The device does not match this membership request" approver.correlationId none)
  else do
    executor.execute (SyncGroupRepository.insertDecision
      { id := decisionId
        requestId := requestId
        decidedBy := decidedBy approver
        decision := "APPROVED"
        decidedAt := now.iso
        signature := signature })
    executor.execute (SyncGroupRepository.setRequestStatus requestId "APPROVED")
    executor.execute (SyncGroupRepository.insertMember memberId request.groupId
      request.deviceId request.userId "APPROVED" now.iso)

/-- `rejectMembership` on a transaction client; the reason is not kept. -/
def rejectMembershipWithin (decisionId : String) (now : ClockReading)
    (requestId : String) (rejector : CallContext) : Program Call Thrown Unit := do
  requirePermission executor rejector "sync.manage"
  let _ ← pendingRequest executor requestId rejector rejector.correlationId
  executor.execute (SyncGroupRepository.insertDecision
    { id := decisionId
      requestId := requestId
      decidedBy := decidedBy rejector
      decision := "REJECTED"
      decidedAt := now.iso
      signature := none })
  executor.execute (SyncGroupRepository.setRequestStatus requestId "REJECTED")

/-- `revokeMembership` on a transaction client. -/
def revokeMembershipWithin (revocationId : String) (now : ClockReading)
    (deviceId groupId : String) (revokedBy : CallContext) (reason : String) :
    Program Call Thrown Unit := do
  requirePermission executor revokedBy "sync.manage"
  requireGroupOrganisation executor groupId revokedBy
  if isBlank reason then
    throw (validationError "Membership revocation reason is required"
      "Provide a reason for revoking this device" revokedBy.correlationId)
  else
    let members ← executor.query
      (SyncGroupRepository.findMembershipStatus deviceId groupId)
    if members.head?.all fun member =>
        member.status ≠ "APPROVED" && member.status ≠ "ACTIVE" then
      throw (validationError
        s!"Device '{deviceId}' is not an active member of sync group '{groupId}'"
        "This device is not an active member of the selected sync group"
        revokedBy.correlationId)
    else do
      executor.execute (SyncGroupRepository.revokeMember now.iso (decidedBy revokedBy)
        reason deviceId groupId)
      executor.execute (SyncGroupRepository.insertRevocation revocationId deviceId groupId
        (decidedBy revokedBy) now.iso reason)

/-- `requestMembership`, with the generated id, which it returns. -/
def requestMembership (requestId : String) (now : ClockReading) (groupId deviceId : String)
    (userId : Option String) : Program Call Thrown String := do
  executor.execute (SyncGroupRepository.insertMembershipRequest requestId deviceId groupId
    userId now.iso)
  pure requestId

def isApprovedOrActive (status : String) : Bool :=
  status = "APPROVED" || status = "ACTIVE"

def canSync (deviceId groupId : String) : Program Call Thrown Bool := do
  let devices ← executor.query (SyncGroupRepository.findDeviceStatus deviceId)
  if devices.head?.any fun device => isApprovedOrActive device.status then do
    let members ← executor.query (SyncGroupRepository.findMembershipStatus deviceId groupId)
    pure (members.head?.any fun member => isApprovedOrActive member.status)
  else pure false

def requireActiveMembership (context : CallContext) (groupId : String) :
    Program Call Thrown Unit := do
  let subject := extractContextSubject context
  match ← executor.query (SyncGroupRepository.findGroup groupId) with
  | [] =>
      throw (validationError s!"Sync group '{groupId}' does not exist"
        "Sync group not found" context.correlationId)
  | group :: _ =>
      if group.organisationId ≠ subject.organisationId then
        throw (authorizationError
          (s!"Cannot write to sync group '{groupId}' outside organisation " ++
            s!"'{subject.organisationId}'")
          "You are not authorized to use this sync group" context.correlationId none)
      else if group.status ≠ "ACTIVE" then
        throw (authorizationError s!"Cannot write to inactive sync group '{groupId}'"
          "This sync group is not active" context.correlationId none)
      else do
        let rows ← executor.query (SyncGroupRepository.findMembershipEligibility groupId
          subject.deviceId subject.userId)
        match rows.head?.filter fun row => isApprovedOrActive row.deviceStatus with
        | none =>
            throw (authorizationError
              s!"Device '{subject.deviceId}' is not active or approved for sync"
              "This device is not approved for sync" context.correlationId none)
        | some eligibility =>
            -- an empty status is as falsy as null
            if eligibility.membershipStatus.all (· = "") then
              throw (authorizationError
                (s!"Device '{subject.deviceId}' is not an approved member of sync group " ++
                  s!"'{groupId}'")
                "This device is not approved for the selected sync group"
                context.correlationId none)
            else pure ()

end Decisions

/-! ## Without a transaction of the caller -/

abbrev AuthorizationCall := DbCall AuthorizationDatabase

def approveMembership (decisionId memberId : String) (now : ClockReading)
    (requestId : String) (approver : CallContext)
    (signature expectedDeviceId : Option String) : Program AuthorizationCall Thrown Unit :=
  Program.await (.transaction (approveMembershipWithin
    (transactionExecutor AuthorizationDatabase) decisionId memberId now requestId approver
    signature expectedDeviceId))

def rejectMembership (decisionId : String) (now : ClockReading) (requestId : String)
    (rejector : CallContext) : Program AuthorizationCall Thrown Unit :=
  Program.await (.transaction (rejectMembershipWithin
    (transactionExecutor AuthorizationDatabase) decisionId now requestId rejector))

def revokeMembership (revocationId : String) (now : ClockReading)
    (deviceId groupId : String) (revokedBy : CallContext) (reason : String) :
    Program AuthorizationCall Thrown Unit :=
  Program.await (.transaction (revokeMembershipWithin
    (transactionExecutor AuthorizationDatabase) revocationId now deviceId groupId revokedBy
    reason))

end SyncGroupService
end TauriPlatform
