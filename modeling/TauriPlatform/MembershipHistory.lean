import TauriPlatform.MembershipRevocation
import TauriPlatform.ReadingRange
import TauriPlatform.SingleRows

/-!
# Histories of memberships

A history is any sequence of calls of the membership service.  Before each call the
membership rows may come to stand in another order, which is the freedom that SQLite has
in answering a query without `ORDER BY`.
-/

namespace TauriPlatform

open Async Relational

/-! ## Histories -/

inductive MembershipCall where
  | requestMembership (requestId : String) (now : ClockReading) (groupId deviceId : String)
      (userId : Option String)
  | approveMembership (decisionId memberId : String) (now : ClockReading)
      (requestId : String) (approver : CallContext) (signature expectedDeviceId : Option String)
  | rejectMembership (decisionId : String) (now : ClockReading) (requestId : String)
      (rejector : CallContext)
  | revokeMembership (revocationId : String) (now : ClockReading) (deviceId groupId : String)
      (revokedBy : CallContext) (reason : String)

/-- The same database, whose membership rows SQLite finds in another order. -/
def Reordered (database ordered : AuthorizationDatabase) : Prop :=
  ∃ members : Table SyncGroupMemberRow String (idIndex SyncGroupMemberRow.id),
    members.rows.Perm database.syncGroupMembers.rows ∧
      ordered = { database with syncGroupMembers := members }

variable {database ordered : AuthorizationDatabase}

theorem Reordered.mem_iff (hordered : Reordered database ordered) (row : SyncGroupMemberRow) :
    row ∈ ordered.syncGroupMembers ↔ row ∈ database.syncGroupMembers := by
  obtain ⟨members, hperm, rfl⟩ := hordered
  exact hperm.mem_iff

theorem Reordered.authorised {revocationId groupId reason : String} {context : CallContext}
    (hordered : Reordered database ordered)
    (hauthorised : SyncGroupService.AuthorisedRevocation database revocationId groupId context
      reason) :
    SyncGroupService.AuthorisedRevocation ordered revocationId groupId context reason := by
  obtain ⟨members, -, rfl⟩ := hordered
  exact ⟨hauthorised.permitted, hauthorised.inOrganisation, hauthorised.reasonGiven,
    hauthorised.newId⟩

theorem Reordered.userRolesHaveUsers (hordered : Reordered database ordered)
    (hforeign : SyncGroupService.UserRolesHaveUsers database) :
    SyncGroupService.UserRolesHaveUsers ordered := by
  obtain ⟨members, -, rfl⟩ := hordered
  exact hforeign

namespace MembershipCall

open SyncGroupService

def program : MembershipCall → Program AuthorizationCall Thrown Unit
  | .requestMembership requestId now groupId deviceId userId => do
      let _ ← SyncGroupService.requestMembership (connectionExecutor AuthorizationDatabase)
        requestId now groupId deviceId userId
      pure ()
  | .approveMembership decisionId memberId now requestId approver signature
      expectedDeviceId =>
      SyncGroupService.approveMembership decisionId memberId now requestId approver signature
        expectedDeviceId
  | .rejectMembership decisionId now requestId rejector =>
      SyncGroupService.rejectMembership decisionId now requestId rejector
  | .revokeMembership revocationId now deviceId groupId revokedBy reason =>
      SyncGroupService.revokeMembership revocationId now deviceId groupId revokedBy reason

def Approves (deviceId groupId : String) (call : MembershipCall)
    (database : AuthorizationDatabase) : Prop :=
  match call with
  | .approveMembership _ _ _ requestId _ _ _ =>
      (∃ request ∈ database.membershipRequests, request.id = requestId ∧
        request.deviceId = deviceId ∧ request.groupId = groupId) ∧
      (call.program.run memoryConnection database).1.isOk
  | _ => False

inductive Step (Allowed : MembershipCall → AuthorizationDatabase → Prop) :
    AuthorizationDatabase → AuthorizationDatabase → Prop
  | call (call : MembershipCall) (database ordered : AuthorizationDatabase) :
      Reordered database ordered → Allowed call ordered →
      Step Allowed database (call.program.run memoryConnection ordered).2

def History (Allowed : MembershipCall → AuthorizationDatabase → Prop)
    (database later : AuthorizationDatabase) : Prop :=
  Relation.ReflTransGen (Step Allowed) database later

def Unapproved (deviceId groupId : String) (call : MembershipCall)
    (database : AuthorizationDatabase) : Prop :=
  ¬ call.Approves deviceId groupId database

/-- Both gates deny the device in the group, whatever order the rows are found in. -/
def DeniedIn (database : AuthorizationDatabase) (deviceId groupId : String) : Prop :=
  ∀ ordered, Reordered database ordered →
    ((canSync (connectionExecutor AuthorizationDatabase) deviceId groupId).run memoryConnection
      ordered).1 = .ok false ∧
    ∀ context, (extractContextSubject context).deviceId = deviceId →
      ∃ error, (requireActiveMembership (connectionExecutor AuthorizationDatabase) context
        groupId).run memoryConnection ordered = (.error error, ordered)

def RevocationEffective (database : AuthorizationDatabase) (revocationId : String)
    (now : ClockReading) (deviceId groupId : String) (revokedBy : CallContext)
    (reason : String) : Prop :=
  ∀ ordered, Reordered database ordered →
    ∃ later, (SyncGroupService.revokeMembership revocationId now deviceId groupId revokedBy
        reason).run memoryConnection ordered = (.ok (), later) ∧
      ∀ final, History (Unapproved deviceId groupId) later final →
        DeniedIn final deviceId groupId

/-! ## No membership which counts -/

def NoMembership (deviceId groupId : String) (database : AuthorizationDatabase) : Prop :=
  ∀ row ∈ database.syncGroupMembers, isMembershipOf deviceId groupId row →
    isApprovedOrActive row.status = false

variable {database ordered later : AuthorizationDatabase} {deviceId groupId : String}

theorem NoMembership.reordered (hnone : NoMembership deviceId groupId database)
    (hordered : Reordered database ordered) : NoMembership deviceId groupId ordered := by
  intro row hrow
  exact hnone row ((hordered.mem_iff row).mp hrow)

theorem NoMembership.of_rows (hnone : NoMembership deviceId groupId database)
    (hrows : later.syncGroupMembers = database.syncGroupMembers) :
    NoMembership deviceId groupId later := by
  unfold NoMembership
  rw [hrows]
  exact hnone

variable {reason : String}

theorem NoMembership.of_revoked {device group revokedAt revokedBy : String}
    (hnone : NoMembership deviceId groupId database)
    (hrows : later.syncGroupMembers.rows = database.syncGroupMembers.rows.map
      (Table.updateRow (isMembershipOf device group) (revoked revokedAt revokedBy reason))) :
    NoMembership deviceId groupId later := by
  intro row hrow hmembership
  rw [Table.mem_def, hrows] at hrow
  obtain ⟨old, hold, rfl⟩ := List.mem_map.mp hrow
  unfold Table.updateRow at hmembership ⊢
  split_ifs with hcondition
  · rfl
  · rw [if_neg hcondition] at hmembership
    exact hnone old hold hmembership

theorem noMembership_of_revoked {revokedAt revokedBy : String}
    (hrows : later.syncGroupMembers.rows = database.syncGroupMembers.rows.map
      (Table.updateRow (isMembershipOf deviceId groupId)
        (revoked revokedAt revokedBy reason))) :
    NoMembership deviceId groupId later := by
  intro row hrow hmembership
  rw [Table.mem_def, hrows] at hrow
  obtain ⟨old, hold, rfl⟩ := List.mem_map.mp hrow
  unfold Table.updateRow at hmembership ⊢
  split_ifs with hcondition
  · rfl
  · rw [if_neg hcondition] at hmembership
    exact absurd hmembership hcondition

theorem transaction_run_cases (body : Program (TransactionCall AuthorizationDatabase) Thrown Unit)
    (database : AuthorizationDatabase) :
    let settled := (Program.await (.transaction body) : Program AuthorizationCall Thrown
      Unit).run memoryConnection database
    settled.2 = database ∨
      (body.run memoryTransaction database = (.ok (), settled.2) ∧ settled.1 = .ok ()) := by
  match hbody : body.run memoryTransaction database with
  | (.ok (), later) =>
      rw [memory_transaction_run_ok hbody]
      exact Or.inr ⟨rfl, rfl⟩
  | (.error error, later) =>
      rw [memory_transaction_run_error hbody]
      exact Or.inl rfl

theorem requestMembership_members (requestId : String) (now : ClockReading)
    (group device : String) (userId : Option String) (database : AuthorizationDatabase) :
    ((MembershipCall.requestMembership requestId now group device userId).program.run
      memoryConnection database).2.syncGroupMembers = database.syncGroupMembers := by
  simp only [program, SyncGroupService.requestMembership, Program.run_bind]
  cases hrun : (SyncGroupRepository.insertMembershipRequest requestId device group userId
      now.iso).run database with
  | ok result =>
      rw [memory_execute_run hrun]
      obtain ⟨requests, -, hdatabase⟩ := TableOf.insert_eq_ok hrun
      simp only [Program.run_pure]
      rw [hdatabase]
      rfl
  | error message =>
      obtain ⟨error, hfails⟩ := memory_execute_run_error hrun
      rw [hfails]

theorem NoMembership.call (hnone : NoMembership deviceId groupId database)
    (call : MembershipCall) (hunapproved : Unapproved deviceId groupId call database) :
    NoMembership deviceId groupId (call.program.run memoryConnection database).2 := by
  cases call with
  | requestMembership requestId now group device userId =>
      exact hnone.of_rows (requestMembership_members requestId now group device userId database)
  | approveMembership decisionId memberId now requestId approver signature expectedDeviceId =>
      cases transaction_run_cases (approveMembershipWithin
          (transactionExecutor AuthorizationDatabase) decisionId memberId now requestId approver
          signature expectedDeviceId) database with
      | inl hsame => exact hnone.of_rows (congrArg _ hsame)
      | inr happroved =>
          obtain ⟨request, hrequest, hid, added, hdevice, hgroup, hrows⟩ :=
            approveMembershipWithin_eq_ok happroved.1
          intro row hrow hmembership
          rw [Table.mem_def] at hrow
          cases List.mem_append.mp (hrows ▸ hrow) with
          | inl hold => exact hnone row hold hmembership
          | inr hnew =>
              -- the request was of the device for the group
              rw [List.mem_singleton.mp hnew] at hmembership
              simp only [isMembershipOf, Bool.and_eq_true, decide_eq_true_eq] at hmembership
              rw [hdevice, hgroup] at hmembership
              have happroves : (MembershipCall.approveMembership decisionId memberId now requestId
                  approver signature expectedDeviceId).Approves deviceId groupId database :=
                ⟨⟨request, hrequest, hid, hmembership⟩, congrArg Except.isOk happroved.2⟩
              exact absurd happroves hunapproved
  | rejectMembership decisionId now requestId rejector =>
      cases transaction_run_cases (rejectMembershipWithin
          (transactionExecutor AuthorizationDatabase) decisionId now requestId rejector)
          database with
      | inl hsame => exact hnone.of_rows (congrArg _ hsame)
      | inr hrejected => exact hnone.of_rows (rejectMembershipWithin_eq_ok hrejected.1)
  | revokeMembership revocationId now device group revokedBy reason =>
      cases transaction_run_cases (revokeMembershipWithin
          (transactionExecutor AuthorizationDatabase) revocationId now device group revokedBy
          reason) database with
      | inl hsame => exact hnone.of_rows (congrArg _ hsame)
      | inr hrevoked => exact hnone.of_revoked (revokeMembershipWithin_eq_ok hrevoked.1).2

theorem NoMembership.history (hnone : NoMembership deviceId groupId database)
    (hhistory : History (Unapproved deviceId groupId) database later) :
    NoMembership deviceId groupId later := by
  induction hhistory with
  | refl => exact hnone
  | tail _ hstep ih =>
      cases hstep with
      | call call database ordered hordered hunapproved =>
          exact (ih.reordered hordered).call call hunapproved

/-! ## The gates -/

theorem canSync_denies (hnone : NoMembership deviceId groupId database) :
    ((canSync (connectionExecutor AuthorizationDatabase) deviceId groupId).run memoryConnection
      database).1 = .ok false := by
  have hdevices : (SyncGroupRepository.findDeviceStatus deviceId).run database =
      .ok ⟨database, (database.devices.select fun row => row.deviceId = deviceId).take 1, 0⟩ :=
    rfl
  rw [canSync, Program.run_bind_ok _ (memory_query_run hdevices)]
  split_ifs
  · rw [Program.run_bind_ok _ (memory_query_run (findMembershipStatus_run _ _ _))]
    simp only [Program.run_pure, Except.ok.injEq]
    cases hrows : database.syncGroupMembers.select (isMembershipOf deviceId groupId) with
    | nil => rfl
    | cons row rest =>
        have hrow : row ∈ database.syncGroupMembers.select (isMembershipOf deviceId groupId) := by
          rw [hrows]
          exact List.mem_cons_self
        rw [Table.mem_select] at hrow
        exact hnone row hrow.1 hrow.2
  · rfl

theorem findMembershipEligibility_run (hnone : NoMembership deviceId groupId database)
    (userId : Option String) :
    ∃ rows, (SyncGroupRepository.findMembershipEligibility groupId deviceId userId).run
        database = .ok ⟨database, rows, 0⟩ ∧
      ∀ row ∈ rows, row.membershipStatus = none := by
  refine ⟨_, rfl, ?_⟩
  intro row hrow
  obtain ⟨device, hdevice, hjoined⟩ := List.mem_flatMap.mp (List.mem_of_mem_take hrow)
  rw [Table.mem_select, decide_eq_true_eq] at hdevice
  have hnothing : (database.syncGroupMembers.select fun row =>
      row.deviceId = device.deviceId && row.groupId = groupId &&
        (row.status = "APPROVED" || row.status = "ACTIVE") &&
        (row.userId = none || row.userId = userId)) = [] := by
    apply List.filter_eq_nil_iff.mpr
    intro member hmember hcounts
    rw [hdevice.2] at hcounts
    simp only [Bool.and_eq_true] at hcounts
    have hlapsed := hnone member hmember (by simp only [isMembershipOf, hcounts, Bool.and_self])
    rw [isApprovedOrActive, hcounts.1.2] at hlapsed
    cases hlapsed
  rw [hnothing] at hjoined
  rw [List.mem_singleton.mp hjoined]

theorem requireActiveMembership_denies {context : CallContext}
    (hnone : NoMembership deviceId groupId database)
    (hdevice : (extractContextSubject context).deviceId = deviceId) :
    ∃ error, (requireActiveMembership (connectionExecutor AuthorizationDatabase) context
      groupId).run memoryConnection database = (.error error, database) := by
  have hgroups : (SyncGroupRepository.findGroup groupId).run database =
      .ok ⟨database, (database.syncGroups.select fun row => row.id = groupId).take 1, 0⟩ := rfl
  rw [requireActiveMembership, Program.run_bind_ok _ (memory_query_run hgroups)]
  cases (database.syncGroups.select fun row => row.id = groupId).take 1 with
  | nil => exact ⟨_, rfl⟩
  | cons group rest =>
      dsimp only
      split_ifs
      · exact ⟨_, rfl⟩
      · exact ⟨_, rfl⟩
      · rw [hdevice]
        obtain ⟨rows, hrun, hnull⟩ := findMembershipEligibility_run hnone
          (extractContextSubject context).userId
        rw [Program.run_bind_ok _ (memory_query_run hrun)]
        cases hfirst : rows.head?.filter fun row => isApprovedOrActive row.deviceStatus with
        | none => exact ⟨_, rfl⟩
        | some eligibility =>
            have hmem : eligibility ∈ rows :=
              List.mem_of_head? (Option.filter_eq_some_iff.mp hfirst).1
            simp only [hnull eligibility hmem, Option.all_none, if_true]
            exact ⟨_, rfl⟩

theorem NoMembership.deniedIn (hnone : NoMembership deviceId groupId database) :
    DeniedIn database deviceId groupId := by
  intro ordered hordered
  have hnone' := hnone.reordered hordered
  constructor
  · exact canSync_denies hnone'
  · intro context hdevice
    exact requireActiveMembership_denies hnone' hdevice

/-! ## Revocations -/

def AllApproved (database : AuthorizationDatabase) (deviceId groupId : String) : Prop :=
  ∀ row ∈ database.syncGroupMembers, row.deviceId = deviceId → row.groupId = groupId →
    row.status = "APPROVED" ∨ row.status = "ACTIVE"

theorem exists_reordered_first {row : SyncGroupMemberRow}
    (hrow : row ∈ database.syncGroupMembers) (hmembership : isMembershipOf deviceId groupId row) :
    ∃ ordered, Reordered database ordered ∧
      ∃ rest, ordered.syncGroupMembers.select (isMembershipOf deviceId groupId) = row :: rest := by
  obtain ⟨before, after, hrows⟩ := List.append_of_mem (Table.mem_def.mp hrow)
  have hperm : (row :: (before ++ after)).Perm database.syncGroupMembers.rows := by
    rw [hrows]
    exact List.perm_middle.symm
  have hunique : ∀ index ∈ idIndex SyncGroupMemberRow.id,
      ((row :: (before ++ after)).filterMap index).Nodup := by
    intro index hindex
    exact (hperm.filterMap index).nodup_iff.mpr (database.syncGroupMembers.unique index hindex)
  refine ⟨{ database with syncGroupMembers := ⟨_, hunique⟩ }, ⟨_, hperm, rfl⟩, ?_⟩
  exact ⟨(before ++ after).filter (isMembershipOf deviceId groupId),
    List.filter_cons_of_pos hmembership⟩

theorem AllApproved.foundApproved (hall : AllApproved database deviceId groupId)
    {member : SyncGroupMemberRow} (hmember : member ∈ database.syncGroupMembers)
    (hmembership : isMembershipOf deviceId groupId member)
    (hordered : Reordered database ordered) : FoundApproved ordered deviceId groupId := by
  have hmem : member ∈ ordered.syncGroupMembers.select (isMembershipOf deviceId groupId) := by
    rw [Table.mem_select]
    exact ⟨(hordered.mem_iff member).mpr hmember, hmembership⟩
  cases hrows : ordered.syncGroupMembers.select (isMembershipOf deviceId groupId) with
  | nil =>
      rw [hrows] at hmem
      exact absurd hmem List.not_mem_nil
  | cons first rest =>
      have hfirst : first ∈ ordered.syncGroupMembers.select
          (isMembershipOf deviceId groupId) := by
        rw [hrows]
        exact List.mem_cons_self
      rw [Table.mem_select, hordered.mem_iff] at hfirst
      simp only [isMembershipOf, Bool.and_eq_true, decide_eq_true_eq] at hfirst
      have hcounts := hall first hfirst.1 hfirst.2.1 hfirst.2.2
      refine ⟨first, rest, hrows, ?_⟩
      simpa only [isApprovedOrActive, Bool.or_eq_true, decide_eq_true_eq] using hcounts

theorem allApproved_of_effective {revocationId : String} {revokedBy : CallContext}
    {now : ClockReading}
    (heffective : RevocationEffective database revocationId now deviceId groupId revokedBy
      reason) :
    AllApproved database deviceId groupId := by
  intro row hrow hdevice hgroup
  have hmembership : isMembershipOf deviceId groupId row := by
    simp only [isMembershipOf, hdevice, hgroup, decide_true, Bool.and_self]
  obtain ⟨ordered, hordered, rest, hfirst⟩ := exists_reordered_first hrow hmembership
  obtain ⟨later, hrun, -⟩ := heffective ordered hordered
  obtain ⟨found, others, hfound, hstatus⟩ :=
    (revokeMembershipWithin_eq_ok (memory_transaction_run_eq_ok hrun)).1
  rw [hfirst] at hfound
  cases hfound
  simpa only [isApprovedOrActive, Bool.or_eq_true, decide_eq_true_eq] using hstatus

/-- An authorised revocation of an approved device is effective exactly when no membership
row of the device in the group has lapsed. -/
theorem revocation_effective_iff {revocationId reason : String} {revokedBy : CallContext}
    (hauthorised : AuthorisedRevocation database revocationId groupId revokedBy reason)
    (hforeign : UserRolesHaveUsers database)
    (happroved : ∃ row ∈ database.syncGroupMembers, row.deviceId = deviceId ∧
      row.groupId = groupId ∧ row.status = "APPROVED") (now : ClockReading) :
    RevocationEffective database revocationId now deviceId groupId revokedBy reason ↔
      AllApproved database deviceId groupId := by
  constructor
  · exact allApproved_of_effective
  · intro hall ordered hordered
    obtain ⟨member, hmember, hdevice, hgroup, -⟩ := happroved
    have hmembership : isMembershipOf deviceId groupId member := by
      simp only [isMembershipOf, hdevice, hgroup, decide_true, Bool.and_self]
    have hfound := hall.foundApproved hmember hmembership hordered
    obtain ⟨later, hbody⟩ := revokeMembershipWithin_run (hordered.authorised hauthorised)
      (hordered.userRolesHaveUsers hforeign) hfound now
    have hnone : NoMembership deviceId groupId later :=
      noMembership_of_revoked (revokeMembershipWithin_eq_ok hbody).2
    refine ⟨later, memory_transaction_run_ok hbody, ?_⟩
    intro final hhistory
    exact (hnone.history hhistory).deniedIn

/-! ## A device which was approved again -/

def morning : ClockReading where
  millis := 1767225600000
  inRange := ClockReading.inRange_newYear

def newGroup : AuthorizationDatabase where
  users := .single ⟨"u", "org", "ACTIVE", none, 0, none⟩
  roles := .single ⟨"r", "org"⟩
  permissions := .single ⟨"p", "sync.manage"⟩
  rolePermissions := .single ⟨"rp", "r", "p", none⟩
  userRoles := .single ⟨"ur", "u", "r", "org"⟩
  syncGroups := .single ⟨"g", "org", "ACTIVE"⟩
  devices :=
    .single ⟨"dr", "2026", "2026", none, "d", "ed25519_pk_d", "linux", "app", "APPROVED", "2026",
        none, false⟩

def groupAdministrator : CallContext :=
  .operation "c" (some "u") "local" "org"

def approvedAgain : List MembershipCall :=
  [.requestMembership "q1" morning "g" "d" none,
    .approveMembership "dec1" "m1" morning "q1" groupAdministrator none none,
    .revokeMembership "rev1" morning "d" "g" groupAdministrator "lost",
    .requestMembership "q2" morning "g" "d" none,
    .approveMembership "dec2" "m2" morning "q2" groupAdministrator none none]

def databaseAfter (calls : List MembershipCall) : AuthorizationDatabase :=
  calls.foldl (fun database call => (call.program.run memoryConnection database).2) newGroup

def Anything : MembershipCall → AuthorizationDatabase → Prop :=
  fun _ _ => True

theorem history_foldl (calls : List MembershipCall) (database : AuthorizationDatabase) :
    History Anything database
      (calls.foldl (fun database call => (call.program.run memoryConnection database).2)
        database) := by
  induction calls generalizing database with
  | nil => exact Relation.ReflTransGen.refl
  | cons call calls ih =>
      have hstep : Step Anything database (call.program.run memoryConnection database).2 :=
        .call call database database ⟨_, .refl _, rfl⟩ trivial
      exact (ih _).head hstep

/-- The administrator may revoke in every database with the roles and groups of `newGroup`. -/
theorem administrator_authorised {database : AuthorizationDatabase} {revocationId : String}
    (hroles : database.userRoles = newGroup.userRoles ∧ database.roles = newGroup.roles ∧
      database.rolePermissions = newGroup.rolePermissions ∧
      database.permissions = newGroup.permissions)
    (hgroups : database.syncGroups = newGroup.syncGroups)
    (hnew : ∀ row ∈ database.revocations, row.id ≠ revocationId) :
    AuthorisedRevocation database revocationId "g" groupAdministrator "lost" where
  permitted := by
    obtain ⟨huserRoles, hroles, hrolePermissions, hpermissions⟩ := hroles
    refine ⟨"u", rfl, by decide, ?_⟩
    simp only [AuthorizationEngine.decisionOn, AuthorizationRepository.grantedRoles, huserRoles,
      hroles, hrolePermissions, hpermissions]
    rfl
  inOrganisation := by
    refine ⟨⟨"g", "org", "ACTIVE"⟩, ?_, rfl, rfl⟩
    rw [hgroups]
    exact List.mem_cons_self
  reasonGiven := by decide
  newId := hnew

theorem administrator_userRolesHaveUsers {database : AuthorizationDatabase}
    (hroles : database.userRoles = newGroup.userRoles)
    (husers : database.users = newGroup.users) : UserRolesHaveUsers database := by
  intro row hrow
  rw [hroles] at hrow
  rw [List.mem_singleton.mp hrow, AuthorizationDatabase.hasUser, husers]
  decide

theorem approvedAgain_rows : (databaseAfter approvedAgain).syncGroupMembers.rows =
    [⟨"m1", "g", "d", none, "REVOKED", morning.iso, some morning.iso, some "u", some "lost"⟩,
      ⟨"m2", "g", "d", none, "APPROVED", morning.iso, none, none, none⟩] := by
  decide

theorem approvedAgain_revocations :
    ∀ row ∈ (databaseAfter approvedAgain).revocations.rows, row.id ≠ "rev2" := by
  decide

/-- The second revocation of a device finds the row which the first one left. -/
theorem second_revocation_rejected :
    ¬ ∀ start database : AuthorizationDatabase, start.syncGroupMembers.rows = [] →
      History Anything start database →
      ∀ (revocationId : String) (now : ClockReading) (deviceId groupId : String)
        (revokedBy : CallContext) (reason : String),
        AuthorisedRevocation database revocationId groupId revokedBy reason →
        UserRolesHaveUsers database →
        (∃ row ∈ database.syncGroupMembers, row.deviceId = deviceId ∧
          row.groupId = groupId ∧ row.status = "APPROVED") →
        RevocationEffective database revocationId now deviceId groupId revokedBy reason := by
  intro heffective
  have hmember : ∃ row ∈ (databaseAfter approvedAgain).syncGroupMembers,
      row.deviceId = "d" ∧ row.groupId = "g" ∧ row.status = "APPROVED" := by
    refine ⟨⟨"m2", "g", "d", none, "APPROVED", morning.iso, none, none, none⟩, ?_,
      rfl, rfl, rfl⟩
    rw [Table.mem_def, approvedAgain_rows]
    simp
  have hrevocation := heffective newGroup (databaseAfter approvedAgain) rfl
    (history_foldl approvedAgain newGroup) "rev2" morning "d" "g" groupAdministrator "lost"
    (administrator_authorised ⟨rfl, rfl, rfl, rfl⟩ rfl approvedAgain_revocations)
    (administrator_userRolesHaveUsers rfl rfl) hmember
  have hlapsed : (⟨"m1", "g", "d", none, "REVOKED", morning.iso, some morning.iso, some "u",
      some "lost"⟩ : SyncGroupMemberRow) ∈ (databaseAfter approvedAgain).syncGroupMembers := by
    rw [Table.mem_def, approvedAgain_rows]
    exact List.mem_cons_self
  have hcounts := allApproved_of_effective hrevocation _ hlapsed rfl rfl
  exact absurd hcounts (by decide)

theorem approvedOnce_rows : (databaseAfter (approvedAgain.take 2)).syncGroupMembers.rows =
    [⟨"m1", "g", "d", none, "APPROVED", morning.iso, none, none, none⟩] := by
  decide

theorem first_revocation_effective :
    RevocationEffective (databaseAfter (approvedAgain.take 2)) "rev1" morning "d" "g"
      groupAdministrator "lost" := by
  have hauthorised : AuthorisedRevocation (databaseAfter (approvedAgain.take 2)) "rev1" "g"
      groupAdministrator "lost" :=
    administrator_authorised ⟨rfl, rfl, rfl, rfl⟩ rfl
      (fun _ hrow => absurd hrow List.not_mem_nil)
  have hmember : ∃ row ∈ (databaseAfter (approvedAgain.take 2)).syncGroupMembers,
      row.deviceId = "d" ∧ row.groupId = "g" ∧ row.status = "APPROVED" := by
    refine ⟨⟨"m1", "g", "d", none, "APPROVED", morning.iso, none, none, none⟩, ?_,
      rfl, rfl, rfl⟩
    rw [Table.mem_def, approvedOnce_rows]
    exact List.mem_cons_self
  apply (revocation_effective_iff hauthorised (administrator_userRolesHaveUsers rfl rfl) hmember
    morning).mpr
  intro row hrow _ _
  rw [Table.mem_def, approvedOnce_rows] at hrow
  rw [List.mem_singleton.mp hrow]
  exact Or.inl rfl

end MembershipCall
end TauriPlatform
