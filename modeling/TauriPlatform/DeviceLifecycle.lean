import TauriPlatform.IdentityAdminService
import TauriPlatform.MembershipRevocation
import TauriPlatform.ReadingRange
import TauriPlatform.SingleRows

/-!
# The lifecycle of a device

The status of a device is written by pairing, by its administration and by direct changes.
Both approvals set it to APPROVED, but only the administration asks for the status before.
-/

namespace TauriPlatform

open Async Relational

/-! ## Operations -/

inductive DeviceStatus where
  | unregistered
  | pendingApproval
  | approved
  | active
  | suspended
  | revoked

def DeviceStatus.text : DeviceStatus → String
  | .unregistered => "UNREGISTERED"
  | .pendingApproval => "PENDING_APPROVAL"
  | .approved => "APPROVED"
  | .active => "ACTIVE"
  | .suspended => "SUSPENDED"
  | .revoked => "REVOKED"

structure PairingState where
  database : AuthorizationDatabase
  seenNonces : List String

abbrev HandshakeVerifyFn := String → ByteArray → String → Except Thrown Bool

def pairingHandler (verifyFn : HandshakeVerifyFn) :
    Program.Handler PairingService.PairingCall Thrown PairingState
  | _, .handshake (.seen nonce), state => (.ok (state.seenNonces.contains nonce), state)
  | _, .handshake (.record nonce), state =>
      (.ok (), { state with seenNonces := nonce :: state.seenNonces })
  | _, .handshake (.verifyFn signerPublicKey canonicalBytes signature), state =>
      (verifyFn signerPublicKey canonicalBytes signature, state)
  | _, .database call, state =>
      let ran := memoryConnection call state.database
      (ran.1, { state with database := ran.2 })

/-- A call which writes the status of devices, with the ids it generates and what it reads. -/
inductive DeviceOperation where
  | requestPairing (dateParse : DateParse) (verifyFn : HandshakeVerifyFn)
      (readings : PairingService.RequestReadings) (input : PairingService.PairingRequestInput)
      (validationOptions : HandshakeValidationOptions) (context : PairingService.PairingContext)
  | approvePairing (readings : PairingService.ApprovalReadings) (requestId : String)
      (context : PairingService.PairingContext)
  | approveDevice (readings : IdentityAdminService.DeviceReadings)
      (deviceId requestId : String) (context : CallContext)
  | revokeDevice (readings : IdentityAdminService.DeviceReadings)
      (deviceId groupId reason : String) (context : CallContext)
  | updateDeviceStatus (now : ClockReading) (deviceId : String) (newStatus : DeviceStatus)

namespace DeviceOperation

def onDatabase {α : Type} (program : Program (DbCall AuthorizationDatabase) Thrown α)
    (state : PairingState) : PairingState :=
  { state with database := (program.run memoryConnection state.database).2 }

def after (state : PairingState) : DeviceOperation → PairingState
  | .requestPairing dateParse verifyFn readings input validationOptions context =>
      ((PairingService.requestPairing dateParse readings input validationOptions context).run
        (pairingHandler verifyFn) state).2
  | .approvePairing readings requestId context =>
      onDatabase (PairingService.approvePairing readings requestId context) state
  | .approveDevice readings deviceId requestId context =>
      onDatabase (IdentityAdminService.approveDevice readings deviceId requestId context) state
  | .revokeDevice readings deviceId groupId reason context =>
      onDatabase (IdentityAdminService.revokeDevice readings deviceId groupId reason context)
        state
  | .updateDeviceStatus now deviceId newStatus =>
      onDatabase (DeviceIdentityService.updateDeviceStatus
        (connectionExecutor AuthorizationDatabase) now deviceId newStatus.text) state

/-- The operation makes a device APPROVED which has the status `status` before. -/
def Approves (operation : DeviceOperation) (state : PairingState) (status : String) : Prop :=
  ∃ old ∈ state.database.devices, ∃ new ∈ (operation.after state).database.devices,
    old.deviceId = new.deviceId ∧ old.status = status ∧ new.status = "APPROVED"

/-- A device is approved only from where `approveDevice` accepts it, which is neither REVOKED
nor SUSPENDED; a request and a revocation approve none. -/
def Respects (operation : DeviceOperation) (state : PairingState) : Prop :=
  ∀ status, operation.Approves state status →
    match operation with
    | .approvePairing _ _ _ =>
        IdentityAdminService.isEligible status = true ∧ status ≠ "REVOKED" ∧ status ≠ "SUSPENDED"
    | .approveDevice _ _ _ _ =>
        IdentityAdminService.isEligible status = true ∧ status ≠ "REVOKED" ∧ status ≠ "SUSPENDED"
    | .requestPairing _ _ _ _ _ _ => status = "APPROVED"
    | .revokeDevice _ _ _ _ _ => status = "APPROVED"
    | .updateDeviceStatus _ _ _ => True

/-- A pairing is approved only while its request is not pending, which fails, or its device
has a status from which it may be approved. -/
def Meets (operation : DeviceOperation) (state : PairingState) : Prop :=
  match operation with
  | .approvePairing _ requestId _ =>
      ∀ request ∈ state.database.membershipRequests, request.id = requestId →
        request.status = "PENDING" →
          ∀ device ∈ state.database.devices, device.deviceId = request.deviceId →
            IdentityAdminService.isEligible device.status = true
  | _ => True

end DeviceOperation

/-! ## What the callbacks leave of the devices -/

/-- `SET status = …` for one device. -/
def markDevice (deviceId : String) (set : DeviceRow → DeviceRow) : DeviceRow → DeviceRow :=
  Table.updateRow (fun row => row.deviceId = deviceId) set

section Frames

variable {database later : AuthorizationDatabase}

variable {now : ClockReading}

theorem emit_devices {auditId : String} {input : AuditService.EmitAuditEventInput}
    (hok : (AuditService.emit (transactionExecutor AuthorizationDatabase) auditId now input).run
      memoryTransaction database = (.ok (), later)) :
    later.devices = database.devices := by
  obtain ⟨result, hrun, rfl⟩ := transaction_execute_eq_ok hok
  obtain ⟨events, -, hdatabase⟩ := TableOf.insert_eq_ok hrun
  rw [hdatabase]
  rfl

variable {requestId : String} {context : CallContext}

theorem approveMembershipWithin_devices {decisionId memberId : String}
    {signature expectedDeviceId : Option String}
    (hok : (SyncGroupService.approveMembershipWithin (transactionExecutor AuthorizationDatabase)
      decisionId memberId now requestId context signature expectedDeviceId).run memoryTransaction
        database = (.ok (), later)) :
    later.devices = database.devices ∧
      ∃ request ∈ database.membershipRequests, request.id = requestId ∧
        request.status = "PENDING" := by
  obtain ⟨_, first, hpermission, hbody⟩ := Program.run_bind_eq_ok hok
  obtain ⟨rfl, -⟩ := SyncGroupService.requirePermission_eq_ok hpermission
  obtain ⟨request, second, hrequest, hwrites⟩ := Program.run_bind_eq_ok hbody
  obtain ⟨rfl, hmem, hid, hpending, -⟩ := SyncGroupService.pendingRequest_eq_ok hrequest
  split_ifs at hwrites
  · cases congrArg Prod.fst hwrites
  · obtain ⟨_, third, hdecision, hupdates⟩ := Program.run_bind_eq_ok hwrites
    obtain ⟨decided, hdecided, rfl⟩ := transaction_execute_eq_ok hdecision
    obtain ⟨decisions, -, hdecisions⟩ := TableOf.insert_eq_ok hdecided
    obtain ⟨_, fourth, hstatus, hmember⟩ := Program.run_bind_eq_ok hupdates
    obtain ⟨updated, hupdated, rfl⟩ := transaction_execute_eq_ok hstatus
    obtain ⟨requests, -, hrequests⟩ := TableOf.update_eq_ok hupdated
    obtain ⟨inserted, hinserted, rfl⟩ := transaction_execute_eq_ok hmember
    obtain ⟨members, -, hlast⟩ := TableOf.insert_eq_ok hinserted
    refine ⟨?_, request, hmem, hid, hpending⟩
    rw [hlast, hrequests, hdecisions]
    rfl

variable {deviceId : String}

theorem revokeMembershipWithin_devices {revocationId groupId reason : String}
    (hok : (SyncGroupService.revokeMembershipWithin (transactionExecutor AuthorizationDatabase)
      revocationId now deviceId groupId context reason).run memoryTransaction database =
        (.ok (), later)) :
    later.devices = database.devices := by
  obtain ⟨_, first, hpermission, hbody⟩ := Program.run_bind_eq_ok hok
  obtain ⟨rfl, -⟩ := SyncGroupService.requirePermission_eq_ok hpermission
  obtain ⟨_, second, hgroup, hreason⟩ := Program.run_bind_eq_ok hbody
  obtain ⟨rfl, -⟩ := SyncGroupService.requireGroupOrganisation_eq_ok hgroup
  split_ifs at hreason
  · cases congrArg Prod.fst hreason
  · rw [Program.run_bind_ok _
      (transaction_query_run (SyncGroupService.findMembershipStatus_run _ _ _))] at hreason
    split_ifs at hreason
    · cases congrArg Prod.fst hreason
    · obtain ⟨_, third, hrevoke, hrecord⟩ := Program.run_bind_eq_ok hreason
      obtain ⟨updated, hupdated, rfl⟩ := transaction_execute_eq_ok hrevoke
      obtain ⟨members, -, hdatabase⟩ := TableOf.update_eq_ok hupdated
      obtain ⟨inserted, hinserted, rfl⟩ := transaction_execute_eq_ok hrecord
      obtain ⟨revocations, -, hlast⟩ := TableOf.insert_eq_ok hinserted
      rw [hlast, hdatabase]
      rfl

theorem registerDevice_devices {rowId generatedDeviceId : String}
    {options : DeviceIdentityService.RegisterDeviceOptions}
    {identity : DeviceIdentityService.DeviceIdentity}
    (hok : (DeviceIdentityService.registerDevice (transactionExecutor AuthorizationDatabase)
      rowId generatedDeviceId now options).run memoryTransaction database =
        (.ok identity, later)) :
    later.devices = database.devices ∨
      ∃ row, row.status = "UNREGISTERED" ∧
        later.devices.rows = database.devices.rows ++ [row] := by
  obtain ⟨found, first, hfound, hrest⟩ := Program.run_bind_eq_ok hok
  obtain ⟨rfl, -⟩ := transaction_query_eq_ok (by split <;> rfl) hfound
  cases found with
  | cons existing others =>
      exact Or.inl (congrArg AuthorizationDatabase.devices (congrArg Prod.snd hrest).symm)
  | nil =>
      dsimp only at hrest
      split_ifs at hrest
      · cases congrArg Prod.fst hrest
      · obtain ⟨_, second, hinsert, hlast⟩ := Program.run_bind_eq_ok hrest
        obtain ⟨result, hrun, rfl⟩ := transaction_execute_eq_ok hinsert
        obtain ⟨devices, hdevices, hdatabase⟩ := TableOf.insert_eq_ok hrun
        have hlater : later = result.database := (congrArg Prod.snd hlast).symm
        rw [hlater, hdatabase]
        exact Or.inr ⟨_, rfl, hdevices⟩

theorem requestPairingWithin_devices {readings : PairingService.RequestReadings}
    {input : PairingService.PairingRequestInput} {context : PairingService.PairingContext}
    (hok : (PairingService.requestPairingWithin (transactionExecutor AuthorizationDatabase)
      readings input context).run memoryTransaction database = (.ok requestId, later)) :
    later.devices = database.devices ∨
      ∃ row, row.status = "UNREGISTERED" ∧
        later.devices.rows = database.devices.rows ++ [row] := by
  obtain ⟨identity, first, hregister, hrest⟩ := Program.run_bind_eq_ok hok
  obtain ⟨generated, second, hrequest, hemit⟩ := Program.run_bind_eq_ok hrest
  obtain ⟨_, third, hinsert, hreturned⟩ := Program.run_bind_eq_ok hrequest
  obtain ⟨result, hrun, rfl⟩ := transaction_execute_eq_ok hinsert
  obtain ⟨requests, -, hdatabase⟩ := TableOf.insert_eq_ok hrun
  obtain ⟨_, fourth, hevent, hlast⟩ := Program.run_bind_eq_ok hemit
  have hlater : later = fourth := (congrArg Prod.snd hlast).symm
  have hsecond : second = result.database := (congrArg Prod.snd hreturned).symm
  have hdevices : later.devices = first.devices := by
    rw [hlater, emit_devices hevent, hsecond, hdatabase]
    rfl
  rw [hdevices]
  exact registerDevice_devices hregister

def Marks (database later : AuthorizationDatabase) (deviceId : String)
    (set : DeviceRow → DeviceRow) : Prop :=
  (∀ row, (set row).deviceId = row.deviceId) ∧
    later.devices.rows = database.devices.rows.map (markDevice deviceId set)

theorem updateDeviceStatus_devices {newStatus : String}
    (hok : (DeviceIdentityService.updateDeviceStatus (transactionExecutor AuthorizationDatabase)
      now deviceId newStatus).run memoryTransaction database = (.ok (), later)) :
    ∃ set, Marks database later deviceId set := by
  obtain ⟨rowsAffected, middle, hexecute, hrest⟩ := Program.run_bind_eq_ok hok
  simp only [transactionExecutor, Program.run_await, memoryTransaction] at hexecute
  cases hrun : (DeviceIdentityService.updateStatus deviceId newStatus now.iso).run database with
  | error message =>
      rw [hrun] at hexecute
      cases congrArg Prod.fst hexecute
  | ok result =>
      rw [hrun] at hexecute
      have hmiddle : middle = result.database := (congrArg Prod.snd hexecute).symm
      have hlater : later = middle := by
        split_ifs at hrest
        · cases congrArg Prod.fst hrest
        · exact (congrArg Prod.snd hrest).symm
      obtain ⟨devices, hdevices, hdatabase⟩ := TableOf.update_eq_ok hrun
      refine ⟨fun row => { row with
        status := newStatus
        updatedAt := now.iso
        lastSeenAt := some now.iso }, fun row => rfl, ?_⟩
      rw [hlater, hmiddle, hdatabase]
      exact hdevices

theorem setDeviceStatus_devices {status updatedAt : String}
    (hok : ((transactionExecutor AuthorizationDatabase).execute
      (IdentityAdminRepository.setDeviceStatus deviceId status updatedAt)).run memoryTransaction
        database = (.ok (), later)) :
    Marks database later deviceId fun row => { row with status := status, updatedAt := updatedAt } := by
  obtain ⟨result, hrun, rfl⟩ := transaction_execute_eq_ok hok
  obtain ⟨devices, hdevices, hdatabase⟩ := TableOf.update_eq_ok hrun
  refine ⟨fun row => rfl, ?_⟩
  rw [hdatabase]
  exact hdevices

theorem Marks.of_devices {before after : AuthorizationDatabase} {set : DeviceRow → DeviceRow}
    (hmarks : Marks before after deviceId set) (hbefore : before.devices = database.devices)
    (hafter : later.devices = after.devices) :
    Marks database later deviceId set := by
  refine ⟨hmarks.1, ?_⟩
  rw [hafter, hmarks.2, hbefore]

theorem Marks.eq {set : DeviceRow → DeviceRow} (hmarks : Marks database later deviceId set)
    {old new : DeviceRow} (hold : old ∈ database.devices) (hnew : new ∈ later.devices)
    (hsame : old.deviceId = new.deviceId) :
    new = if old.deviceId = deviceId then set old else old := by
  rw [Table.mem_def, hmarks.2] at hnew
  obtain ⟨source, hsource, rfl⟩ := List.mem_map.mp hnew
  have hkept : (markDevice deviceId set source).deviceId = source.deviceId := by
    unfold markDevice Table.updateRow
    split_ifs
    · exact hmarks.1 source
    · rfl
  have hrow : source = old :=
    Table.eq_of_key_eq (fun row : DeviceRow => some row.deviceId) (by simp [deviceIndexes])
      hsource hold rfl (congrArg some (hsame.trans hkept))
  rw [hrow, markDevice, Table.updateRow]
  simp only [decide_eq_true_eq]

theorem approvePairingWithin_devices {readings : PairingService.ApprovalReadings}
    {context : PairingService.PairingContext} {decision : PairingService.PairingDecisionResult}
    (hok : (PairingService.approvePairingWithin (transactionExecutor AuthorizationDatabase)
      readings requestId context).run memoryTransaction database = (.ok decision, later)) :
    ∃ request ∈ database.membershipRequests, request.id = requestId ∧
      request.status = "PENDING" ∧ ∃ set, Marks database later request.deviceId set := by
  obtain ⟨rows, first, hquery, hrest⟩ := Program.run_bind_eq_ok hok
  obtain ⟨rfl, result, hrun, hrows⟩ := transaction_query_eq_ok rfl hquery
  cases hrun
  cases rows with
  | nil => cases congrArg Prod.fst hrest
  | cons row others =>
      obtain ⟨_, second, happrove, hupdates⟩ := Program.run_bind_eq_ok hrest
      obtain ⟨hsame, request, hrequest, hid, hpending⟩ := approveMembershipWithin_devices happrove
      obtain ⟨_, third, hupdate, hemits⟩ := Program.run_bind_eq_ok hupdates
      obtain ⟨set, hmarks⟩ := updateDeviceStatus_devices hupdate
      obtain ⟨_, fourth, hemit, hlast⟩ := Program.run_bind_eq_ok hemits
      have hlater : later = fourth := (congrArg Prod.snd hlast).symm
      -- the row which was read is the request which is pending
      have hmem : row ∈ first.membershipRequests.select fun row => row.id = requestId := by
        have hfirst : row ∈ row :: others := List.mem_cons_self
        rw [hrows] at hfirst
        exact List.mem_of_mem_take hfirst
      rw [Table.mem_select, decide_eq_true_eq] at hmem
      have hrow : row = request :=
        Table.eq_of_key_eq (fun row : MembershipRequestRow => some row.id) List.mem_cons_self
          hmem.1 hrequest (congrArg some hmem.2) (congrArg some hid)
      refine ⟨request, hrequest, hid, hpending, set, ?_⟩
      rw [← hrow]
      exact hmarks.of_devices hsame (by rw [hlater, emit_devices hemit])

theorem approveDeviceWithin_devices {readings : IdentityAdminService.DeviceReadings}
    (hok : (IdentityAdminService.approveDeviceWithin (transactionExecutor AuthorizationDatabase)
      readings deviceId requestId context).run memoryTransaction database = (.ok (), later)) :
    (∃ device ∈ database.devices, device.deviceId = deviceId ∧
      IdentityAdminService.isEligible device.status = true) ∧
        ∃ set, Marks database later deviceId set := by
  obtain ⟨_, first, hpermission, hbody⟩ := Program.run_bind_eq_ok hok
  obtain ⟨rfl, -⟩ := SyncGroupService.requirePermission_eq_ok hpermission
  obtain ⟨rows, second, hquery, hrest⟩ := Program.run_bind_eq_ok hbody
  obtain ⟨rfl, result, hrun, hrows⟩ := transaction_query_eq_ok rfl hquery
  cases hrun
  split_ifs at hrest with hstatus
  · cases congrArg Prod.fst hrest
  · obtain ⟨_, third, happrove, hupdates⟩ := Program.run_bind_eq_ok hrest
    obtain ⟨hsame, -⟩ := approveMembershipWithin_devices happrove
    obtain ⟨_, fourth, hupdate, hemit⟩ := Program.run_bind_eq_ok hupdates
    have hmarks := setDeviceStatus_devices hupdate
    refine ⟨?_, _, hmarks.of_devices hsame (emit_devices hemit)⟩
    cases rows with
    | nil => exact absurd rfl hstatus
    | cons device others =>
        have hmem : device ∈ second.devices.select fun row => row.deviceId = deviceId := by
          have hfirst : device ∈ device :: others := List.mem_cons_self
          rw [hrows] at hfirst
          exact List.mem_of_mem_take hfirst
        rw [Table.mem_select, decide_eq_true_eq] at hmem
        refine ⟨device, hmem.1, hmem.2, ?_⟩
        simpa using hstatus

theorem revokeDeviceWithin_devices {readings : IdentityAdminService.DeviceReadings}
    {groupId reason : String}
    (hok : (IdentityAdminService.revokeDeviceWithin (transactionExecutor AuthorizationDatabase)
      readings deviceId groupId reason context).run memoryTransaction database =
        (.ok (), later)) :
    ∃ updatedAt, Marks database later deviceId fun row =>
      { row with status := "REVOKED", updatedAt := updatedAt } := by
  obtain ⟨_, first, hpermission, hbody⟩ := Program.run_bind_eq_ok hok
  obtain ⟨rfl, -⟩ := SyncGroupService.requirePermission_eq_ok hpermission
  obtain ⟨rows, second, hquery, hrest⟩ := Program.run_bind_eq_ok hbody
  obtain ⟨rfl, -⟩ := transaction_query_eq_ok rfl hquery
  split_ifs at hrest
  · cases congrArg Prod.fst hrest
  · obtain ⟨_, third, hrevoke, hupdates⟩ := Program.run_bind_eq_ok hrest
    obtain ⟨_, fourth, hupdate, hemit⟩ := Program.run_bind_eq_ok hupdates
    have hmarks := setDeviceStatus_devices hupdate
    exact ⟨_, hmarks.of_devices (revokeMembershipWithin_devices hrevoke) (emit_devices hemit)⟩

end Frames

/-! ## One operation -/

namespace DeviceOperation

variable {operation : DeviceOperation} {state : PairingState} {status : String}

theorem onDatabase_transaction {α : Type}
    (body : Program (TransactionCall AuthorizationDatabase) Thrown α) (state : PairingState) :
    (onDatabase (Program.await (.transaction body)) state).database = state.database ∨
      ∃ value, body.run memoryTransaction state.database =
        (.ok value, (onDatabase (Program.await (.transaction body)) state).database) := by
  unfold onDatabase
  match hbody : body.run memoryTransaction state.database with
  | (.ok value, later) =>
      rw [memory_transaction_run_ok hbody]
      exact Or.inr ⟨value, rfl⟩
  | (.error error, later) =>
      rw [memory_transaction_run_error hbody]
      exact Or.inl rfl

theorem Approves.of_unchanged (happroves : operation.Approves state status)
    (hsame : (operation.after state).database.devices = state.database.devices) :
    status = "APPROVED" := by
  obtain ⟨old, hold, new, hnew, hid, hstatus, happroved⟩ := happroves
  rw [hsame] at hnew
  have hrow : old = new :=
    Table.eq_of_key_eq (fun row : DeviceRow => some row.deviceId) (by simp [deviceIndexes])
      hold hnew (congrArg some hid) rfl
  rw [← hstatus, hrow, happroved]

theorem Approves.of_marks {deviceId : String} {set : DeviceRow → DeviceRow}
    (happroves : operation.Approves state status)
    (hmarks : Marks state.database (operation.after state).database deviceId set) :
    status = "APPROVED" ∨ ∃ device ∈ state.database.devices, device.deviceId = deviceId ∧
      device.status = status ∧ (set device).status = "APPROVED" := by
  obtain ⟨old, hold, new, hnew, hid, hstatus, happroved⟩ := happroves
  have hrow := hmarks.eq hold hnew hid
  split_ifs at hrow with hmarked
  · rw [hrow] at happroved
    exact Or.inr ⟨old, hold, hmarked, hstatus, happroved⟩
  · rw [hrow, hstatus] at happroved
    exact Or.inl happroved

theorem Approves.of_appended {row : DeviceRow} (happroves : operation.Approves state status)
    (hrow : row.status = "UNREGISTERED")
    (hrows : (operation.after state).database.devices.rows = state.database.devices.rows ++ [row]) :
    status = "APPROVED" := by
  obtain ⟨old, hold, new, hnew, hid, hstatus, happroved⟩ := happroves
  rw [Table.mem_def, hrows] at hnew
  cases List.mem_append.mp hnew with
  | inl hkept =>
      have hsame : old = new :=
        Table.eq_of_key_eq (fun row : DeviceRow => some row.deviceId) (by simp [deviceIndexes])
          hold hkept (congrArg some hid) rfl
      rw [← hstatus, hsame, happroved]
  | inr hadded =>
      rw [List.mem_singleton.mp hadded, hrow] at happroved
      exact absurd happroved (by decide)

theorem eligible_approved :
    IdentityAdminService.isEligible "APPROVED" = true ∧ "APPROVED" ≠ "REVOKED" ∧
      "APPROVED" ≠ "SUSPENDED" := by
  decide

theorem not_terminated_of_eligible (heligible : IdentityAdminService.isEligible status = true) :
    status ≠ "REVOKED" ∧ status ≠ "SUSPENDED" := by
  constructor
  · rintro rfl
    revert heligible
    decide
  · rintro rfl
    revert heligible
    decide

theorem respects_approvePairing {readings : PairingService.ApprovalReadings}
    {requestId : String} {context : PairingService.PairingContext}
    (hmeets : (approvePairing readings requestId context).Meets state) :
    (approvePairing readings requestId context).Respects state := by
  intro status happroves
  cases onDatabase_transaction (PairingService.approvePairingWithin
      (transactionExecutor AuthorizationDatabase) readings requestId context) state with
  | inl hsame =>
      rw [happroves.of_unchanged (congrArg AuthorizationDatabase.devices hsame)]
      exact eligible_approved
  | inr hran =>
      obtain ⟨decision, hrun⟩ := hran
      obtain ⟨request, hrequest, hid, hpending, set, hmarks⟩ := approvePairingWithin_devices hrun
      cases happroves.of_marks hmarks with
      | inl happroved =>
          rw [happroved]
          exact eligible_approved
      | inr hmarked =>
          obtain ⟨device, hdevice, hdeviceId, hstatus, -⟩ := hmarked
          have heligible := hmeets request hrequest hid hpending device hdevice hdeviceId
          rw [hstatus] at heligible
          exact ⟨heligible, not_terminated_of_eligible heligible⟩

theorem respects_approveDevice (readings : IdentityAdminService.DeviceReadings)
    (deviceId requestId : String) (context : CallContext) :
    (approveDevice readings deviceId requestId context).Respects state := by
  intro status happroves
  cases onDatabase_transaction (IdentityAdminService.approveDeviceWithin
      (transactionExecutor AuthorizationDatabase) readings deviceId requestId context) state with
  | inl hsame =>
      rw [happroves.of_unchanged (congrArg AuthorizationDatabase.devices hsame)]
      exact eligible_approved
  | inr hran =>
      obtain ⟨_, hrun⟩ := hran
      obtain ⟨⟨checked, hchecked, hcheckedId, heligible⟩, set, hmarks⟩ :=
        approveDeviceWithin_devices hrun
      cases happroves.of_marks hmarks with
      | inl happroved =>
          rw [happroved]
          exact eligible_approved
      | inr hmarked =>
          obtain ⟨device, hdevice, hdeviceId, hstatus, -⟩ := hmarked
          -- the device whose status was asked for is the one which is marked
          have hsame : checked = device :=
            Table.eq_of_key_eq (fun row : DeviceRow => some row.deviceId)
              (by simp [deviceIndexes]) hchecked hdevice (congrArg some hcheckedId)
              (congrArg some hdeviceId)
          rw [hsame, hstatus] at heligible
          exact ⟨heligible, not_terminated_of_eligible heligible⟩

theorem respects_revokeDevice (readings : IdentityAdminService.DeviceReadings)
    (deviceId groupId reason : String) (context : CallContext) :
    (revokeDevice readings deviceId groupId reason context).Respects state := by
  intro status happroves
  cases onDatabase_transaction (IdentityAdminService.revokeDeviceWithin
      (transactionExecutor AuthorizationDatabase) readings deviceId groupId reason context)
      state with
  | inl hsame => exact happroves.of_unchanged (congrArg AuthorizationDatabase.devices hsame)
  | inr hran =>
      obtain ⟨_, hrun⟩ := hran
      obtain ⟨updatedAt, hmarks⟩ := revokeDeviceWithin_devices hrun
      cases happroves.of_marks hmarks with
      | inl happroved => exact happroved
      | inr hmarked =>
          obtain ⟨device, -, -, -, hrevoked⟩ := hmarked
          exact absurd (show "REVOKED" = "APPROVED" from hrevoked) (by decide)

theorem requireValid_database (verifyFn : HandshakeVerifyFn)
    (program : Program HandshakeCall Thrown Unit) (state : PairingState) :
    ((program.mapCall fun _ => PairingService.PairingCall.handshake).run
      (pairingHandler verifyFn) state).2.database = state.database := by
  induction program generalizing state with
  | done outcome => rfl
  | call request rest ih =>
      have hcall : (pairingHandler verifyFn (.handshake request) state).2.database =
          state.database := by
        cases request with
        | seen nonce => rfl
        | record nonce => rfl
        | verifyFn signerPublicKey canonicalBytes signature => rfl
      exact (ih _ _).trans hcall

theorem requestPairing_devices (dateParse : DateParse) (verifyFn : HandshakeVerifyFn)
    (readings : PairingService.RequestReadings) (input : PairingService.PairingRequestInput)
    (validationOptions : HandshakeValidationOptions) (context : PairingService.PairingContext)
    (state : PairingState) :
    let later := (requestPairing dateParse verifyFn readings input validationOptions
      context).after state
    later.database.devices = state.database.devices ∨
      ∃ row, row.status = "UNREGISTERED" ∧
        later.database.devices.rows = state.database.devices.rows ++ [row] := by
  intro later
  have hchecked := requireValid_database verifyFn (HandshakeValidator.requireValid dateParse
    readings.validated (some input.handshake)
    { validationOptions with verifyFn := input.verifyFn || validationOptions.verifyFn }
    context.correlationId) state
  have hlater : later = ((PairingService.requestPairing dateParse readings input
    validationOptions context).run (pairingHandler verifyFn) state).2 := rfl
  rw [PairingService.requestPairing, Program.run_bind] at hlater
  rcases hrun : ((HandshakeValidator.requireValid dateParse
      readings.validated (some input.handshake)
      { validationOptions with verifyFn := input.verifyFn || validationOptions.verifyFn }
      context.correlationId).mapCall fun _ => PairingService.PairingCall.handshake).run
        (pairingHandler verifyFn) state with ⟨error | _, middle⟩
  · rw [hrun] at hlater hchecked
    rw [hlater, hchecked]
    exact Or.inl rfl
  · rw [hrun] at hlater hchecked
    rw [← hchecked, hlater]
    dsimp only
    split_ifs with horganisation
    · exact Or.inl rfl
    · rw [Program.run_bind, Program.run_await]
      simp only [pairingHandler, memoryConnection, Statement.run, PairingService.findPairingGroup,
        TableOf.select, Program.run_bind, Program.run_ofExcept]
      cases PairingService.requirePairingGroup _ input context with
      | error error => exact Or.inl rfl
      | ok _ =>
          dsimp only [Program.run_await]
          rcases hbody : (PairingService.requestPairingWithin
              (transactionExecutor AuthorizationDatabase) readings input context).run
                memoryTransaction middle.database with ⟨error | requestId, last⟩
          · simp only [pairingHandler, memoryConnection, hbody]
            exact Or.inl trivial
          · simp only [pairingHandler, memoryConnection, hbody]
            exact requestPairingWithin_devices hbody

theorem respects_requestPairing (dateParse : DateParse) (verifyFn : HandshakeVerifyFn)
    (readings : PairingService.RequestReadings) (input : PairingService.PairingRequestInput)
    (validationOptions : HandshakeValidationOptions) (context : PairingService.PairingContext) :
    (requestPairing dateParse verifyFn readings input validationOptions context).Respects
      state := by
  intro status happroves
  cases requestPairing_devices dateParse verifyFn readings input validationOptions context
      state with
  | inl hsame => exact happroves.of_unchanged hsame
  | inr hadded =>
      obtain ⟨row, hunregistered, hrows⟩ := hadded
      exact happroves.of_appended hunregistered hrows

theorem respects (operation : DeviceOperation) (hmeets : operation.Meets state) :
    operation.Respects state := by
  cases operation with
  | requestPairing dateParse verifyFn readings input validationOptions context =>
      exact respects_requestPairing dateParse verifyFn readings input validationOptions context
  | approvePairing readings requestId context => exact respects_approvePairing hmeets
  | approveDevice readings deviceId requestId context =>
      exact respects_approveDevice readings deviceId requestId context
  | revokeDevice readings deviceId groupId reason context =>
      exact respects_revokeDevice readings deviceId groupId reason context
  | updateDeviceStatus now deviceId newStatus => exact fun _ _ => trivial

/-! ## Every sequence -/

def RespectThroughout : PairingState → List DeviceOperation → Prop
  | _, [] => True
  | state, operation :: rest =>
      operation.Respects state ∧ RespectThroughout (operation.after state) rest

def MeetThroughout : PairingState → List DeviceOperation → Prop
  | _, [] => True
  | state, operation :: rest =>
      operation.Meets state ∧ MeetThroughout (operation.after state) rest

/-- Where pairings are approved only for devices with an eligible status, no device is
approved from another, in any sequence of operations. -/
theorem lifecycle_respected (operations : List DeviceOperation) {state : PairingState}
    (hmeets : MeetThroughout state operations) : RespectThroughout state operations := by
  induction operations generalizing state with
  | nil => trivial
  | cons operation rest ih =>
      exact ⟨operation.respects hmeets.1, ih hmeets.2⟩

/-! ## A device with two requests -/

def midday : ClockReading where
  millis := 1767268800000
  inRange := ClockReading.inRange_newYearNoon

def twoRequests : PairingState where
  database := {
    users := .single ⟨"u", "org", "ACTIVE", none, 0, none⟩
    roles := .single ⟨"r", "org"⟩
    permissions := .single ⟨"p", "*"⟩
    rolePermissions := .single ⟨"rp", "r", "p", none⟩
    userRoles := .single ⟨"ur", "u", "r", "org"⟩
    syncGroups := .single ⟨"g", "org", "ACTIVE"⟩
    membershipRequests :=
      { rows := [⟨"q1", "d", "g", none, "2026", "PENDING"⟩,
          ⟨"q2", "d", "g", none, "2026", "PENDING"⟩]
        unique := by decide }
    devices :=
      .single ⟨"dr", "2026", "2026", none, "d", "ed25519_pk_d", "linux", "app",
          "PENDING_APPROVAL", "2026", none, false⟩ }
  seenNonces := []

def deviceAdministrator : PairingService.PairingContext where
  correlationId := "c"
  userId := some "u"
  deviceId := "local"
  organisationId := "org"

def approveFirst : DeviceOperation :=
  .approvePairing ⟨"dec1", "m1", "aud1", midday, midday, midday⟩ "q1" deviceAdministrator

def revokeAfterwards : DeviceOperation :=
  .revokeDevice ⟨"rev1", "", "aud2", midday, midday, midday⟩ "d" "g" "lost"
    deviceAdministrator.toCallContext

def approvedOverRevocation : List DeviceOperation :=
  [approveFirst, revokeAfterwards,
    .approvePairing ⟨"dec2", "m2", "aud3", midday, midday, midday⟩ "q2" deviceAdministrator]

theorem revoked_device_approved :
    ¬ ∀ state operations, RespectThroughout state operations := by
  intro hrespects
  have hlast := (hrespects twoRequests approvedOverRevocation).2.2.1
  have happroves := hlast "REVOKED" (by
    simp only [Approves, Table.mem_def]
    decide +kernel)
  exact happroves.2.1 rfl

theorem approvals_before_revocation_respected :
    RespectThroughout twoRequests
      [approveFirst,
        .approveDevice ⟨"dec2", "m2", "aud3", midday, midday, midday⟩ "d" "q2"
          deviceAdministrator.toCallContext,
        revokeAfterwards] := by
  apply lifecycle_respected
  refine ⟨?_, trivial, trivial, trivial⟩
  simp only [Meets, approveFirst, Table.mem_def]
  decide +kernel

end DeviceOperation

end TauriPlatform
