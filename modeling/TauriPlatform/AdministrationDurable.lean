import TauriPlatform.DurableDatabase
import TauriPlatform.PairingService
import TauriPlatform.ReadingRange
import TauriPlatform.SingleRows

/-!
# Membership administration on durable storage

Every decision about a membership reads inside its transaction.  The native
transaction client answers no read, so no decision ever succeeds on it.
-/

namespace TauriPlatform

open Async

/-! ## Callbacks which read -/

section Rejected

variable {Db : Type} {α β : Type}

def RejectedNatively (body : Program (TransactionCall Db) Thrown α) : Prop :=
  ∀ operations, ∃ error later,
    body.run nativeTransaction operations = (.error error, later)

theorem RejectedNatively.query {Row : Type} (statement : Statement Db Row) :
    RejectedNatively ((transactionExecutor Db).query statement) :=
  fun operations => ⟨_, operations, rfl⟩

theorem RejectedNatively.bind {body : Program (TransactionCall Db) Thrown α}
    (hbody : RejectedNatively body) (next : α → Program (TransactionCall Db) Thrown β) :
    RejectedNatively (body >>= next) := by
  intro operations
  obtain ⟨error, later, hrun⟩ := hbody operations
  exact ⟨error, later, Program.run_bind_error next hrun⟩

theorem RejectedNatively.after (first : Program (TransactionCall Db) Thrown α)
    {next : α → Program (TransactionCall Db) Thrown β}
    (hnext : ∀ value, RejectedNatively (next value)) :
    RejectedNatively (first >>= next) := by
  intro operations
  match hrun : first.run nativeTransaction operations with
  | (.ok value, later) =>
      obtain ⟨error, final, hrest⟩ := hnext value later
      exact ⟨error, final, (Program.run_bind_ok next hrun).trans hrest⟩
  | (.error error, later) => exact ⟨error, later, Program.run_bind_error next hrun⟩

theorem RejectedNatively.transaction {body : Program (TransactionCall Db) Thrown α}
    (hbody : RejectedNatively body) (database : Db) :
    ∃ error, (Program.await (.transaction body) : Program (DbCall Db) Thrown α).run
      nativeConnection database = (.error error, database) := by
  obtain ⟨error, later, hrun⟩ := hbody []
  simp only [Program.run_await, nativeConnection, hrun]
  split_ifs with hdatabase
  · exact ⟨_, rfl⟩
  · exact ⟨_, rfl⟩

end Rejected

/-! ## Decisions -/

open SyncGroupService in
theorem pendingRequest_rejected (requestId : String) (context : CallContext)
    (missingCorrelationId : String) :
    RejectedNatively (pendingRequest (transactionExecutor AuthorizationDatabase) requestId
      context missingCorrelationId) :=
  (RejectedNatively.query _).bind _

/-- A call of the administration, without a transaction of the caller. -/
inductive Administration where
  | approveMembership (decisionId memberId : String) (now : ClockReading)
      (requestId : String) (approver : CallContext)
      (signature expectedDeviceId : Option String)
  | rejectMembership (decisionId : String) (now : ClockReading) (requestId : String)
      (rejector : CallContext)
  | revokeMembership (revocationId : String) (now : ClockReading)
      (deviceId groupId : String) (revokedBy : CallContext) (reason : String)
  | approvePairing (readings : PairingService.ApprovalReadings) (requestId : String)
      (context : PairingService.PairingContext)

namespace Administration

def program : Administration →
    Program (DbCall AuthorizationDatabase) Thrown
      (Option PairingService.PairingDecisionResult)
  | .approveMembership decisionId memberId now requestId approver signature
      expectedDeviceId => do
      SyncGroupService.approveMembership decisionId memberId now requestId approver
        signature expectedDeviceId
      pure none
  | .rejectMembership decisionId now requestId rejector => do
      SyncGroupService.rejectMembership decisionId now requestId rejector
      pure none
  | .revokeMembership revocationId now deviceId groupId revokedBy reason => do
      SyncGroupService.revokeMembership revocationId now deviceId groupId revokedBy reason
      pure none
  | .approvePairing readings requestId context => do
      let result ← PairingService.approvePairing readings requestId context
      pure (some result)

/-- The rows of memberships, requests, decisions, revocations and devices agree. -/
structure SameRows (left right : AuthorizationDatabase) : Prop where
  members : left.syncGroupMembers = right.syncGroupMembers
  requests : left.membershipRequests = right.membershipRequests
  decisions : left.membershipDecisions = right.membershipDecisions
  revocations : left.revocations = right.revocations
  devices : left.devices = right.devices

def SucceedsInMemory (call : Administration) (database : AuthorizationDatabase) : Prop :=
  ∃ answer later, call.program.run memoryConnection database = (.ok answer, later)

/-- If the call succeeds in memory, it succeeds natively and leaves the same rows. -/
def MatchesDurably (call : Administration) (database : AuthorizationDatabase) : Prop :=
  ∀ answer later, call.program.run memoryConnection database = (.ok answer, later) →
    ∃ answer' later', call.program.run nativeConnection database = (.ok answer', later') ∧
      SameRows later later'

theorem rejected (call : Administration) (database : AuthorizationDatabase) :
    ∃ error, call.program.run nativeConnection database = (.error error, database) := by
  cases call with
  | approveMembership decisionId memberId now requestId approver signature
      expectedDeviceId =>
      have hbody : RejectedNatively (SyncGroupService.approveMembershipWithin
          (transactionExecutor AuthorizationDatabase) decisionId memberId now requestId
          approver signature expectedDeviceId) :=
        .after _ fun _ => (pendingRequest_rejected _ _ _).bind _
      obtain ⟨error, hrun⟩ := hbody.transaction database
      exact ⟨error, Program.run_bind_error _ hrun⟩
  | rejectMembership decisionId now requestId rejector =>
      have hbody : RejectedNatively (SyncGroupService.rejectMembershipWithin
          (transactionExecutor AuthorizationDatabase) decisionId now requestId rejector) :=
        .after _ fun _ => (pendingRequest_rejected _ _ _).bind _
      obtain ⟨error, hrun⟩ := hbody.transaction database
      exact ⟨error, Program.run_bind_error _ hrun⟩
  | revokeMembership revocationId now deviceId groupId revokedBy reason =>
      have hgroup : RejectedNatively (SyncGroupService.requireGroupOrganisation
          (transactionExecutor AuthorizationDatabase) groupId revokedBy) :=
        (RejectedNatively.query _).bind _
      have hbody : RejectedNatively (SyncGroupService.revokeMembershipWithin
          (transactionExecutor AuthorizationDatabase) revocationId now deviceId groupId
          revokedBy reason) :=
        .after _ fun _ => hgroup.bind _
      obtain ⟨error, hrun⟩ := hbody.transaction database
      exact ⟨error, Program.run_bind_error _ hrun⟩
  | approvePairing readings requestId context =>
      have hbody : RejectedNatively (PairingService.approvePairingWithin
          (transactionExecutor AuthorizationDatabase) readings requestId context) :=
        (RejectedNatively.query _).bind _
      obtain ⟨error, hrun⟩ := hbody.transaction database
      exact ⟨error, Program.run_bind_error _ hrun⟩

theorem SucceedsInMemory.not_matchesDurably {call : Administration}
    {database : AuthorizationDatabase} (hsucceeds : call.SucceedsInMemory database) :
    ¬ call.MatchesDurably database := by
  intro hmatches
  obtain ⟨answer, later, hmemory⟩ := hsucceeds
  obtain ⟨answer', later', hnative, -⟩ := hmatches answer later hmemory
  obtain ⟨error, hrejected⟩ := call.rejected database
  cases hrejected.symm.trans hnative

/-- The two connections only agree on calls which fail in memory already. -/
theorem matchesDurably_iff (call : Administration) (database : AuthorizationDatabase) :
    call.MatchesDurably database ↔ ¬ call.SucceedsInMemory database := by
  constructor
  · intro hmatches hsucceeds
    exact hsucceeds.not_matchesDurably hmatches
  · intro hfails answer later hmemory
    exact absurd ⟨answer, later, hmemory⟩ hfails

/-! ## One pending request -/

def noon : ClockReading where
  millis := 1767225600000
  inRange := ClockReading.inRange_newYear

def onePendingRequest : AuthorizationDatabase where
  users := .single ⟨"u", "org", "ACTIVE", none, 0, none⟩
  roles := .single ⟨"r", "org"⟩
  permissions := .single ⟨"p", "sync.manage"⟩
  rolePermissions := .single ⟨"rp", "r", "p", none⟩
  userRoles := .single ⟨"ur", "u", "r", "org"⟩
  syncGroups := .single ⟨"g", "org", "ACTIVE"⟩
  membershipRequests :=
    .single ⟨"q", "d", "g", some "u", "2026", "PENDING"⟩
  syncGroupMembers :=
    .single ⟨"m", "g", "e", none, "APPROVED", "2026", none, none, none⟩
  devices :=
    .single ⟨"dr", "2026", "2026", none, "d", "ed25519_pk_d", "linux", "app", "UNREGISTERED", "2026",
        none, false⟩

def administrator : PairingService.PairingContext where
  correlationId := "c"
  userId := some "u"
  deviceId := "local"
  organisationId := "org"

def sampleCalls : List Administration :=
  [.approveMembership "dec" "mbr" noon "q" administrator.toCallContext none none,
    .rejectMembership "dec" noon "q" administrator.toCallContext,
    .revokeMembership "rev" noon "e" "g" administrator.toCallContext "lost",
    .approvePairing ⟨"dec", "mbr", "aud", noon, noon, noon⟩ "q" administrator]

theorem sampleCalls_isOk :
    ∀ call ∈ sampleCalls, (call.program.run memoryConnection onePendingRequest).1.isOk := by
  decide

theorem sampleCalls_succeed {call : Administration} (hcall : call ∈ sampleCalls) :
    call.SucceedsInMemory onePendingRequest := by
  have hok := sampleCalls_isOk call hcall
  match hrun : call.program.run memoryConnection onePendingRequest with
  | (.ok answer, later) => exact ⟨answer, later, hrun⟩
  | (.error error, later) =>
      rw [hrun] at hok
      cases hok

/-- Of the calls which succeed in memory one fails natively. -/
theorem administration_fails_durably :
    ¬ ∀ (call : Administration) (database : AuthorizationDatabase),
      call.SucceedsInMemory database → call.MatchesDurably database := by
  intro hmatches
  have hsucceeds := sampleCalls_succeed (List.mem_cons_self (l := sampleCalls.tail))
  exact hsucceeds.not_matchesDurably (hmatches _ onePendingRequest hsucceeds)

end Administration
end TauriPlatform
