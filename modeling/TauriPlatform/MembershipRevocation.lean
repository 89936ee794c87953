import TauriPlatform.SyncGroupService
import Mathlib.Logic.Relation

/-!
# Revoking a membership

`core_sync_group_members` has no index on group and device, so every approval adds a row.
A revocation rewrites all rows of the device in the group, but it first asks for the
status of one of them, and SQLite may find any.
-/

namespace TauriPlatform

open Async Relational

/-! ## Who may revoke -/

namespace AuthorizationEngine

open AuthorizationRepository

/-- The decision of `can` on a database. -/
def decisionOn (database : AuthorizationDatabase) (subject : Subject) (permission : String)
    (resource : Option ResourceScope) : AuthorizationDecision :=
  if subject.roles.isEmpty then
    .denied "Subject has no assigned roles" .noMatchingRole
  else
    decideFor (((grantedRoles database subject.userId subject.organisationId).flatMap
      fun userRole =>
        (database.rolePermissions.select fun row => row.roleId = userRole.roleId).flatMap
          fun grant =>
            (database.permissions.select fun row => row.id = grant.permissionId).map
              fun permission =>
                { permissionName := permission.name
                  scopeConstraintsJson := grant.scopeConstraintsJson }).filterMap
      grantedPermission?) permission resource

variable {database later : AuthorizationDatabase} {subject : Subject} {permission : String}
  {resource : Option ResourceScope}

theorem can_run :
    (can (transactionExecutor AuthorizationDatabase) subject permission resource).run
      memoryTransaction database =
      (.ok (decisionOn database subject permission resource), database) := by
  unfold can decisionOn
  by_cases hroles : subject.roles.isEmpty
  · rw [if_pos hroles, if_pos hroles]
    rfl
  · rw [if_neg hroles, if_neg hroles]
    rfl

theorem require_eq_ok
    (hok : (require (transactionExecutor AuthorizationDatabase) subject permission
      resource).run memoryTransaction database = (.ok (), later)) :
    later = database ∧ decisionOn database subject permission resource = .granted := by
  rw [require, Program.run_bind_ok _ can_run] at hok
  cases hdecision : decisionOn database subject permission resource with
  | granted =>
      rw [hdecision] at hok
      exact ⟨(congrArg Prod.snd hok).symm, rfl⟩
  | denied reason code =>
      rw [hdecision] at hok
      cases congrArg Prod.fst hok

theorem require_run_granted
    (hgranted : decisionOn database subject permission resource = .granted) :
    (require (transactionExecutor AuthorizationDatabase) subject permission
      resource).run memoryTransaction database = (.ok (), database) := by
  rw [require, Program.run_bind_ok _ can_run, hgranted]
  rfl

theorem exists_userRole_of_granted
    (hgranted : decisionOn database subject permission resource = .granted) :
    ∃ row ∈ database.userRoles, row.userId = subject.userId := by
  unfold decisionOn at hgranted
  split_ifs at hgranted with hroles
  cases hrows : grantedRoles database subject.userId subject.organisationId with
  | nil =>
      rw [hrows] at hgranted
      simp [decideFor] at hgranted
  | cons row rest =>
      have hmem : row ∈ grantedRoles database subject.userId subject.organisationId := by
        rw [hrows]
        exact List.mem_cons_self
      have hselected := List.mem_of_mem_filter hmem
      rw [Table.mem_select] at hselected
      refine ⟨row, hselected.1, ?_⟩
      have hboth := hselected.2
      simp only [Bool.and_eq_true, decide_eq_true_eq] at hboth
      exact hboth.1

end AuthorizationEngine

namespace SyncGroupService

variable {database later : AuthorizationDatabase} {context : CallContext}
  {permission groupId deviceId : String}

/-- The decision which `requirePermission` asks for. -/
def PermittedOn (database : AuthorizationDatabase) (context : CallContext)
    (permission : String) : Prop :=
  match context with
  | .trusted _ principal =>
      AuthorizationEngine.decisionOn database
        { userId := principal.userId
          organisationId := principal.organisationId
          roles := principal.roles } permission none = .granted
  | .operation _ userId _ organisationId =>
      ∃ user, userId = some user ∧ user ≠ "" ∧
        AuthorizationEngine.decisionOn database
          { userId := user
            organisationId := organisationId
            roles := (AuthorizationRepository.grantedRoles database user organisationId).map
              UserRoleRow.roleId } permission none = .granted

theorem requirePermission_eq_ok
    (hok : (requirePermission (transactionExecutor AuthorizationDatabase) context
      permission).run memoryTransaction database = (.ok (), later)) :
    later = database ∧ PermittedOn database context permission := by
  cases context with
  | trusted correlationId principal => exact AuthorizationEngine.require_eq_ok hok
  | operation correlationId userId device organisationId =>
      unfold requirePermission at hok
      cases huser : userId.filter (· ≠ "") with
      | none =>
          simp only [huser] at hok
          cases congrArg Prod.fst hok
      | some user =>
          simp only [huser] at hok
          have hrequired := AuthorizationEngine.require_eq_ok hok
          obtain ⟨hsome, hnonempty⟩ := Option.filter_eq_some_iff.mp huser
          exact ⟨hrequired.1, user, hsome, by simpa using hnonempty, hrequired.2⟩

theorem requirePermission_run (hpermitted : PermittedOn database context permission) :
    (requirePermission (transactionExecutor AuthorizationDatabase) context permission).run
      memoryTransaction database = (.ok (), database) := by
  cases context with
  | trusted correlationId principal =>
      exact AuthorizationEngine.require_run_granted hpermitted
  | operation correlationId userId device organisationId =>
      obtain ⟨user, rfl, hnonempty, hgranted⟩ := hpermitted
      have hfilter : (some user).filter (· ≠ "") = some user := by
        simp [Option.filter, hnonempty]
      unfold requirePermission
      simp only [hfilter]
      exact AuthorizationEngine.require_run_granted hgranted

def GroupInOrganisation (database : AuthorizationDatabase) (groupId : String)
    (context : CallContext) : Prop :=
  ∃ group ∈ database.syncGroups, group.id = groupId ∧
    group.organisationId = (extractContextSubject context).organisationId

theorem select_by_id {group : SyncGroupRow} (hgroup : group ∈ database.syncGroups) :
    (database.syncGroups.select fun row => row.id = group.id) = [group] := by
  have hselect := Table.select_eq_singleton (fun row => some (SyncGroupRow.id row))
    List.mem_cons_self hgroup rfl
  simpa only [Option.some.injEq] using hselect

theorem requireGroupOrganisation_eq_ok
    (hok : (requireGroupOrganisation (transactionExecutor AuthorizationDatabase) groupId
      context).run memoryTransaction database = (.ok (), later)) :
    later = database ∧ GroupInOrganisation database groupId context := by
  have hquery : (SyncGroupRepository.findGroup groupId).run database =
      .ok ⟨database, (database.syncGroups.select fun row => row.id = groupId).take 1, 0⟩ := rfl
  rw [requireGroupOrganisation, Program.run_bind_ok _ (transaction_query_run hquery)] at hok
  cases hrows : (database.syncGroups.select fun row => row.id = groupId).take 1 with
  | nil =>
      rw [hrows] at hok
      cases congrArg Prod.fst hok
  | cons group rest =>
      rw [hrows] at hok
      have hmem : group ∈ database.syncGroups.select fun row => row.id = groupId := by
        apply List.mem_of_mem_take (i := 1)
        rw [hrows]
        exact List.mem_cons_self
      rw [Table.mem_select, decide_eq_true_eq] at hmem
      by_cases horganisation :
          group.organisationId = (extractContextSubject context).organisationId
      · simp only [horganisation, ne_eq, not_true_eq_false, if_false, Program.run_pure,
          Prod.mk.injEq, true_and] at hok
        exact ⟨hok.symm, group, hmem.1, hmem.2, horganisation⟩
      · simp only [ne_eq, horganisation, not_false_eq_true, if_true] at hok
        cases congrArg Prod.fst hok

theorem requireGroupOrganisation_run (hgroup : GroupInOrganisation database groupId context) :
    (requireGroupOrganisation (transactionExecutor AuthorizationDatabase) groupId context).run
      memoryTransaction database = (.ok (), database) := by
  obtain ⟨group, hmem, rfl, horganisation⟩ := hgroup
  have hquery : (SyncGroupRepository.findGroup group.id).run database =
      .ok ⟨database, [group], 0⟩ := by
    rw [show [group] = (database.syncGroups.select fun row => row.id = group.id).take 1 by
      rw [select_by_id hmem]; rfl]
    rfl
  rw [requireGroupOrganisation, Program.run_bind_ok _ (transaction_query_run hquery)]
  simp only [horganisation, ne_eq, not_true_eq_false, if_false, Program.run_pure]

theorem GroupInOrganisation.hasSyncGroup
    (hgroup : GroupInOrganisation database groupId context) : database.hasSyncGroup groupId := by
  obtain ⟨group, hmem, hid, -⟩ := hgroup
  apply List.any_eq_true.mpr
  exact ⟨group, hmem, by simpa using hid⟩

/-- The foreign key of `core_user_roles` on `core_users`. -/
def UserRolesHaveUsers (database : AuthorizationDatabase) : Prop :=
  ∀ row ∈ database.userRoles, database.hasUser row.userId

theorem PermittedOn.hasUser (hpermitted : PermittedOn database context permission)
    (hforeign : UserRolesHaveUsers database) : database.hasUser (decidedBy context) := by
  cases context with
  | trusted correlationId principal =>
      obtain ⟨row, hrow, huser⟩ := AuthorizationEngine.exists_userRole_of_granted hpermitted
      have hkept := hforeign row hrow
      rwa [huser] at hkept
  | operation correlationId userId device organisationId =>
      obtain ⟨user, rfl, hnonempty, hgranted⟩ := hpermitted
      obtain ⟨row, hrow, huser⟩ := AuthorizationEngine.exists_userRole_of_granted hgranted
      have hkept := hforeign row hrow
      rwa [huser] at hkept

/-- An authorised call of `revokeMembership`, with a reason and a new id. -/
structure AuthorisedRevocation (database : AuthorizationDatabase) (revocationId groupId : String)
    (revokedBy : CallContext) (reason : String) : Prop where
  permitted : PermittedOn database revokedBy "sync.manage"
  inOrganisation : GroupInOrganisation database groupId revokedBy
  reasonGiven : isBlank reason = false
  newId : ∀ row ∈ database.revocations, row.id ≠ revocationId

/-! ## What the calls do to the membership rows -/

def isMembershipOf (deviceId groupId : String) (row : SyncGroupMemberRow) : Bool :=
  row.deviceId = deviceId && row.groupId = groupId

def revoked (revokedAt revokedBy reason : String) (row : SyncGroupMemberRow) :
    SyncGroupMemberRow :=
  { row with
    status := "REVOKED"
    revokedAt := some revokedAt
    revokedBy := some revokedBy
    revocationReason := some reason }

variable {requestId : String}

theorem pendingRequest_eq_ok {missing : String} {request : MembershipRequestRow}
    (hok : (pendingRequest (transactionExecutor AuthorizationDatabase) requestId context
      missing).run memoryTransaction database = (.ok request, later)) :
    later = database ∧ request ∈ database.membershipRequests ∧ request.id = requestId ∧
      request.status = "PENDING" ∧ GroupInOrganisation database request.groupId context := by
  have hquery : (SyncGroupRepository.findMembershipRequest requestId).run database =
      .ok ⟨database,
        (database.membershipRequests.select fun row => row.id = requestId).take 1, 0⟩ := rfl
  rw [pendingRequest, Program.run_bind_ok _ (transaction_query_run hquery)] at hok
  cases hrows : (database.membershipRequests.select fun row => row.id = requestId).take 1 with
  | nil =>
      rw [hrows] at hok
      cases congrArg Prod.fst hok
  | cons row rest =>
      rw [hrows] at hok
      have hmem : row ∈ database.membershipRequests.select fun row => row.id = requestId := by
        apply List.mem_of_mem_take (i := 1)
        rw [hrows]
        exact List.mem_cons_self
      rw [Table.mem_select, decide_eq_true_eq] at hmem
      obtain ⟨_, middle, hgroup, hrest⟩ := Program.run_bind_eq_ok hok
      obtain ⟨rfl, horganisation⟩ := requireGroupOrganisation_eq_ok hgroup
      by_cases hpending : row.status = "PENDING"
      · simp only [hpending, ne_eq, not_true_eq_false, if_false, Program.run_pure,
          Prod.mk.injEq, Except.ok.injEq] at hrest
        rw [← hrest.1, ← hrest.2]
        exact ⟨rfl, hmem.1, hmem.2, hpending, horganisation⟩
      · simp only [ne_eq, hpending, not_false_eq_true, if_true] at hrest
        cases congrArg Prod.fst hrest

variable {now : ClockReading}

theorem approveMembershipWithin_eq_ok {decisionId memberId : String}
    {signature expectedDeviceId : Option String}
    (hok : (approveMembershipWithin (transactionExecutor AuthorizationDatabase) decisionId
      memberId now requestId context signature expectedDeviceId).run memoryTransaction
        database = (.ok (), later)) :
    ∃ request ∈ database.membershipRequests, request.id = requestId ∧
      ∃ row, row.deviceId = request.deviceId ∧ row.groupId = request.groupId ∧
        later.syncGroupMembers.rows = database.syncGroupMembers.rows ++ [row] := by
  obtain ⟨_, first, hpermission, hbody⟩ := Program.run_bind_eq_ok hok
  obtain ⟨rfl, -⟩ := requirePermission_eq_ok hpermission
  obtain ⟨request, second, hrequest, hwrites⟩ := Program.run_bind_eq_ok hbody
  obtain ⟨rfl, hmem, hid, -⟩ := pendingRequest_eq_ok hrequest
  split_ifs at hwrites
  · cases congrArg Prod.fst hwrites
  · obtain ⟨_, third, hdecision, hupdates⟩ := Program.run_bind_eq_ok hwrites
    obtain ⟨decided, hdecided, rfl⟩ := transaction_execute_eq_ok hdecision
    obtain ⟨decisions, -, hdecisions⟩ := TableOf.insert_eq_ok hdecided
    obtain ⟨_, fourth, hstatus, hmember⟩ := Program.run_bind_eq_ok hupdates
    obtain ⟨updated, hupdated, rfl⟩ := transaction_execute_eq_ok hstatus
    obtain ⟨requests, -, hrequests⟩ := TableOf.update_eq_ok hupdated
    obtain ⟨inserted, hinserted, rfl⟩ := transaction_execute_eq_ok hmember
    obtain ⟨members, hmembers, hlast⟩ := TableOf.insert_eq_ok hinserted
    rw [hrequests, hdecisions] at hmembers
    refine ⟨request, hmem, hid, ⟨memberId, request.groupId, request.deviceId, request.userId,
      "APPROVED", now.iso, none, none, none⟩, rfl, rfl, ?_⟩
    rw [hlast]
    exact hmembers

theorem rejectMembershipWithin_eq_ok {decisionId : String}
    (hok : (rejectMembershipWithin (transactionExecutor AuthorizationDatabase) decisionId now
      requestId context).run memoryTransaction database = (.ok (), later)) :
    later.syncGroupMembers = database.syncGroupMembers := by
  obtain ⟨_, first, hpermission, hbody⟩ := Program.run_bind_eq_ok hok
  obtain ⟨rfl, -⟩ := requirePermission_eq_ok hpermission
  obtain ⟨request, second, hrequest, hwrites⟩ := Program.run_bind_eq_ok hbody
  obtain ⟨rfl, -⟩ := pendingRequest_eq_ok hrequest
  obtain ⟨_, third, hdecision, hstatus⟩ := Program.run_bind_eq_ok hwrites
  obtain ⟨decided, hdecided, rfl⟩ := transaction_execute_eq_ok hdecision
  obtain ⟨decisions, -, hdecisions⟩ := TableOf.insert_eq_ok hdecided
  obtain ⟨updated, hupdated, rfl⟩ := transaction_execute_eq_ok hstatus
  obtain ⟨requests, -, hrequests⟩ := TableOf.update_eq_ok hupdated
  rw [hrequests, hdecisions]
  rfl

def FoundApproved (database : AuthorizationDatabase) (deviceId groupId : String) : Prop :=
  ∃ row rest, database.syncGroupMembers.select (isMembershipOf deviceId groupId) = row :: rest ∧
    isApprovedOrActive row.status = true

theorem findMembershipStatus_run (database : AuthorizationDatabase)
    (deviceId groupId : String) :
    (SyncGroupRepository.findMembershipStatus deviceId groupId).run database =
      .ok ⟨database,
        (database.syncGroupMembers.select (isMembershipOf deviceId groupId)).take 1, 0⟩ :=
  rfl

theorem foundApproved_iff :
    FoundApproved database deviceId groupId ↔
      ¬ ((database.syncGroupMembers.select (isMembershipOf deviceId groupId)).take 1).head?.all
        fun member => member.status ≠ "APPROVED" && member.status ≠ "ACTIVE" := by
  unfold FoundApproved
  cases database.syncGroupMembers.select (isMembershipOf deviceId groupId) with
  | nil => simp
  | cons row rest =>
      simp only [List.cons.injEq, List.take_succ_cons, List.head?_cons, Option.all_some,
        isApprovedOrActive]
      constructor
      · rintro ⟨row', rest', ⟨rfl, rfl⟩, hstatus⟩
        simp only [Bool.or_eq_true, decide_eq_true_eq, Bool.and_eq_true, not_and_or] at hstatus ⊢
        tauto
      · intro hstatus
        refine ⟨row, rest, ⟨rfl, rfl⟩, ?_⟩
        simp only [Bool.or_eq_true, decide_eq_true_eq, Bool.and_eq_true, not_and_or] at hstatus ⊢
        tauto

theorem revokeMembershipWithin_eq_ok {revocationId reason : String}
    (hok : (revokeMembershipWithin (transactionExecutor AuthorizationDatabase) revocationId now
      deviceId groupId context reason).run memoryTransaction database = (.ok (), later)) :
    FoundApproved database deviceId groupId ∧
      later.syncGroupMembers.rows = database.syncGroupMembers.rows.map
        (Table.updateRow (isMembershipOf deviceId groupId)
          (revoked now.iso (decidedBy context) reason)) := by
  obtain ⟨_, first, hpermission, hbody⟩ := Program.run_bind_eq_ok hok
  obtain ⟨rfl, -⟩ := requirePermission_eq_ok hpermission
  obtain ⟨_, second, hgroup, hreason⟩ := Program.run_bind_eq_ok hbody
  obtain ⟨rfl, -⟩ := requireGroupOrganisation_eq_ok hgroup
  split_ifs at hreason
  · cases congrArg Prod.fst hreason
  · rw [Program.run_bind_ok _ (transaction_query_run (findMembershipStatus_run _ _ _))]
      at hreason
    split_ifs at hreason with hstatus
    · cases congrArg Prod.fst hreason
    · obtain ⟨_, third, hrevoke, hrecord⟩ := Program.run_bind_eq_ok hreason
      obtain ⟨updated, hupdated, rfl⟩ := transaction_execute_eq_ok hrevoke
      obtain ⟨members, hmembers, hdatabase⟩ := TableOf.update_eq_ok hupdated
      obtain ⟨inserted, hinserted, rfl⟩ := transaction_execute_eq_ok hrecord
      obtain ⟨revocations, -, hlast⟩ := TableOf.insert_eq_ok hinserted
      constructor
      · exact foundApproved_iff.mpr hstatus
      · rw [hlast, hdatabase]
        exact hmembers

theorem revokeMembershipWithin_run {revocationId reason : String}
    (hauthorised : AuthorisedRevocation database revocationId groupId context reason)
    (hforeign : UserRolesHaveUsers database) (hfound : FoundApproved database deviceId groupId)
    (now : ClockReading) :
    ∃ later, (revokeMembershipWithin (transactionExecutor AuthorizationDatabase) revocationId
      now deviceId groupId context reason).run memoryTransaction database =
        (.ok (), later) := by
  have huser := hauthorised.permitted.hasUser hforeign
  have hgroup := hauthorised.inOrganisation.hasSyncGroup
  have hkeys : ∀ index ∈ idIndex SyncGroupMemberRow.id, ∀ row,
      index (revoked now.iso (decidedBy context) reason row) = index row := by
    intro index hindex row
    rw [List.mem_singleton.mp hindex]
    rfl
  obtain ⟨updated, hupdated⟩ : ∃ result, (SyncGroupRepository.revokeMember now.iso
      (decidedBy context) reason deviceId groupId).run database = .ok result :=
    TableOf.update_run hkeys database
  obtain ⟨members, -, hdatabase⟩ := TableOf.update_eq_ok hupdated
  obtain ⟨inserted, hinserted⟩ : ∃ result, (SyncGroupRepository.insertRevocation revocationId
      deviceId groupId (decidedBy context) now.iso reason).run updated.database =
        .ok result := by
    apply TableOf.insert_run
    · intro index hindex key hkey other hother
      rw [List.mem_singleton.mp hindex] at hkey ⊢
      rw [hdatabase] at hother
      rw [← hkey]
      simpa using hauthorised.newId other hother
    · rw [hdatabase]
      simp only [Bool.and_eq_true]
      exact ⟨hgroup, huser⟩
  refine ⟨inserted.database, ?_⟩
  rw [revokeMembershipWithin, Program.run_bind_ok _ (requirePermission_run hauthorised.permitted),
    Program.run_bind_ok _ (requireGroupOrganisation_run hauthorised.inOrganisation),
    hauthorised.reasonGiven]
  simp only [Bool.false_eq_true, if_false]
  rw [Program.run_bind_ok _ (transaction_query_run (findMembershipStatus_run _ _ _)),
    if_neg (foundApproved_iff.mp hfound),
    Program.run_bind_ok _ (transaction_execute_run hupdated),
    transaction_execute_run hinserted]

end SyncGroupService
end TauriPlatform
