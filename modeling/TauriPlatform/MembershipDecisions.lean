import TauriPlatform.AsyncSystem
import TauriPlatform.MembershipHistory
import TauriPlatform.NativeAuthorization

/-!
# Deciding membership requests once

Calls of the membership service by any users are in flight together over a connection whose
transactions take effect at once or not at all.  Beside them roles and permissions come and
go.  The first decision takes a request out of `PENDING`, and every later one finds it so.
-/

namespace TauriPlatform

open Async Relational

namespace AuthorizationEngine

def IsGranted (database : AuthorizationDatabase) (userId organisationId permission : String) :
    Prop :=
  ∃ row ∈ DurableDatabase.effectiveRows database userId organisationId,
    Names permission row ∧ Covers none row

theorem isGranted_of_decisionOn {database : AuthorizationDatabase} {subject : Subject}
    {permission : String}
    (hgranted : decisionOn database subject permission none = .granted) :
    IsGranted database subject.userId subject.organisationId permission := by
  unfold decisionOn at hgranted
  split_ifs at hgranted
  obtain ⟨grant, hmem, hname, hmatches⟩ := decideFor_granted_iff.mp hgranted
  obtain ⟨row, hrow, hgrant⟩ := List.mem_filterMap.mp hmem
  have hsame := permissionName_of_grantedPermission? hgrant
  rw [hsame] at hname
  exact ⟨row, hrow, hname, covers_iff.mpr ⟨grant, hgrant, hsame, hmatches⟩⟩

end AuthorizationEngine

namespace SyncGroupService

theorem PermittedOn.isGranted {database : AuthorizationDatabase} {context : CallContext}
    {permission : String} (hpermitted : PermittedOn database context permission) :
    (extractContextSubject context).userId = some (decidedBy context) ∧
      AuthorizationEngine.IsGranted database (decidedBy context)
        (extractContextSubject context).organisationId permission := by
  cases context with
  | trusted correlationId principal =>
      exact ⟨rfl, AuthorizationEngine.isGranted_of_decisionOn hpermitted⟩
  | operation correlationId userId device organisationId =>
      obtain ⟨user, rfl, -, hgranted⟩ := hpermitted
      exact ⟨rfl, AuthorizationEngine.isGranted_of_decisionOn hgranted⟩

/-! ## What the calls do to requests and decisions -/

structure Decides (database later : AuthorizationDatabase) (context : CallContext)
    (requestId decision : String) : Prop where
  permitted : PermittedOn database context "sync.manage"
  pending : ∃ request ∈ database.membershipRequests, request.id = requestId ∧
    request.status = "PENDING" ∧ GroupInOrganisation database request.groupId context
  decisions : ∃ row : MembershipDecisionRow, row.requestId = requestId ∧
    row.decidedBy = decidedBy context ∧ row.decision = decision ∧
    later.membershipDecisions.rows = database.membershipDecisions.rows ++ [row]
  requests : later.membershipRequests.rows = database.membershipRequests.rows.map
    (Table.updateRow (fun row => row.id = requestId) fun row => { row with status := decision })

variable {database later : AuthorizationDatabase} {context : CallContext}

variable {now : ClockReading}

theorem approveMembershipWithin_decides {decisionId memberId requestId : String}
    {signature expectedDeviceId : Option String}
    (hok : (approveMembershipWithin (transactionExecutor AuthorizationDatabase) decisionId
      memberId now requestId context signature expectedDeviceId).run memoryTransaction
        database = (.ok (), later)) :
    Decides database later context requestId "APPROVED" := by
  obtain ⟨_, first, hpermission, hbody⟩ := Program.run_bind_eq_ok hok
  obtain ⟨rfl, hpermitted⟩ := requirePermission_eq_ok hpermission
  obtain ⟨request, second, hrequest, hwrites⟩ := Program.run_bind_eq_ok hbody
  obtain ⟨rfl, hpending⟩ := pendingRequest_eq_ok hrequest
  split_ifs at hwrites
  · cases congrArg Prod.fst hwrites
  · obtain ⟨_, third, hdecision, hupdates⟩ := Program.run_bind_eq_ok hwrites
    obtain ⟨decided, hdecided, rfl⟩ := transaction_execute_eq_ok hdecision
    obtain ⟨decisions, hadded, hdecisions⟩ := TableOf.insert_eq_ok hdecided
    obtain ⟨_, fourth, hstatus, hmember⟩ := Program.run_bind_eq_ok hupdates
    obtain ⟨updated, hupdated, rfl⟩ := transaction_execute_eq_ok hstatus
    obtain ⟨requests, hset, hrequests⟩ := TableOf.update_eq_ok hupdated
    obtain ⟨inserted, hinserted, rfl⟩ := transaction_execute_eq_ok hmember
    obtain ⟨members, -, hlast⟩ := TableOf.insert_eq_ok hinserted
    rw [hdecisions] at hset
    refine ⟨hpermitted, ⟨request, hpending⟩, ⟨⟨decisionId, requestId, decidedBy context,
      "APPROVED", now.iso, signature⟩, rfl, rfl, rfl, ?_⟩, ?_⟩
    · rw [hlast, hrequests, hdecisions]
      exact hadded
    · rw [hlast, hrequests]
      exact hset

theorem rejectMembershipWithin_decides {decisionId requestId : String}
    (hok : (rejectMembershipWithin (transactionExecutor AuthorizationDatabase) decisionId now
      requestId context).run memoryTransaction database = (.ok (), later)) :
    Decides database later context requestId "REJECTED" := by
  obtain ⟨_, first, hpermission, hbody⟩ := Program.run_bind_eq_ok hok
  obtain ⟨rfl, hpermitted⟩ := requirePermission_eq_ok hpermission
  obtain ⟨request, second, hrequest, hwrites⟩ := Program.run_bind_eq_ok hbody
  obtain ⟨rfl, hpending⟩ := pendingRequest_eq_ok hrequest
  obtain ⟨_, third, hdecision, hstatus⟩ := Program.run_bind_eq_ok hwrites
  obtain ⟨decided, hdecided, rfl⟩ := transaction_execute_eq_ok hdecision
  obtain ⟨decisions, hadded, hdecisions⟩ := TableOf.insert_eq_ok hdecided
  obtain ⟨updated, hupdated, rfl⟩ := transaction_execute_eq_ok hstatus
  obtain ⟨requests, hset, hrequests⟩ := TableOf.update_eq_ok hupdated
  rw [hdecisions] at hset
  refine ⟨hpermitted, ⟨request, hpending⟩, ⟨⟨decisionId, requestId, decidedBy context,
    "REJECTED", now.iso, none⟩, rfl, rfl, rfl, ?_⟩, ?_⟩
  · rw [hrequests, hdecisions]
    exact hadded
  · rw [hrequests]
    exact hset

theorem revokeMembershipWithin_requests {revocationId deviceId groupId reason : String}
    (hok : (revokeMembershipWithin (transactionExecutor AuthorizationDatabase) revocationId now
      deviceId groupId context reason).run memoryTransaction database = (.ok (), later)) :
    later.membershipDecisions = database.membershipDecisions ∧
      later.membershipRequests = database.membershipRequests := by
  obtain ⟨_, first, hpermission, hbody⟩ := Program.run_bind_eq_ok hok
  obtain ⟨rfl, -⟩ := requirePermission_eq_ok hpermission
  obtain ⟨_, second, hgroup, hreason⟩ := Program.run_bind_eq_ok hbody
  obtain ⟨rfl, -⟩ := requireGroupOrganisation_eq_ok hgroup
  split_ifs at hreason
  · cases congrArg Prod.fst hreason
  · rw [Program.run_bind_ok _ (transaction_query_run (findMembershipStatus_run _ _ _))]
      at hreason
    split_ifs at hreason
    · cases congrArg Prod.fst hreason
    · obtain ⟨_, third, hrevoke, hrecord⟩ := Program.run_bind_eq_ok hreason
      obtain ⟨updated, hupdated, rfl⟩ := transaction_execute_eq_ok hrevoke
      obtain ⟨members, -, hdatabase⟩ := TableOf.update_eq_ok hupdated
      obtain ⟨inserted, hinserted, rfl⟩ := transaction_execute_eq_ok hrecord
      obtain ⟨revocations, -, hlast⟩ := TableOf.insert_eq_ok hinserted
      rw [hlast, hdatabase]
      exact ⟨rfl, rfl⟩

end SyncGroupService

/-! ## Decided requests -/

structure DecidedOnce (database : AuthorizationDatabase) : Prop where
  /-- The foreign key of `core_membership_decisions`. -/
  requested : ∀ decision ∈ database.membershipDecisions,
    ∃ request ∈ database.membershipRequests, request.id = decision.requestId
  once : database.membershipDecisions.rows.Pairwise fun first second =>
    first.requestId ≠ second.requestId
  decided : ∀ decision ∈ database.membershipDecisions,
    decision.decision = "APPROVED" ∨ decision.decision = "REJECTED"
  status : ∀ decision ∈ database.membershipDecisions, ∀ request ∈ database.membershipRequests,
    request.id = decision.requestId → request.status = decision.decision

namespace DecidedOnce

variable {database later : AuthorizationDatabase}

theorem of_rows (honce : DecidedOnce database)
    (hdecisions : later.membershipDecisions = database.membershipDecisions)
    (hrequests : later.membershipRequests = database.membershipRequests) : DecidedOnce later := by
  constructor
  · rw [hdecisions, hrequests]
    exact honce.requested
  · rw [hdecisions]
    exact honce.once
  · rw [hdecisions]
    exact honce.decided
  · rw [hdecisions, hrequests]
    exact honce.status

theorem not_pending (honce : DecidedOnce database) {decision : MembershipDecisionRow}
    {request : MembershipRequestRow} (hdecision : decision ∈ database.membershipDecisions)
    (hrequest : request ∈ database.membershipRequests) (hid : request.id = decision.requestId) :
    request.status ≠ "PENDING" := by
  rw [honce.status decision hdecision request hrequest hid]
  cases honce.decided decision hdecision with
  | inl happroved =>
      rw [happroved]
      decide
  | inr hrejected =>
      rw [hrejected]
      decide

theorem of_requested (honce : DecidedOnce database) {new : MembershipRequestRow}
    (hdecisions : later.membershipDecisions = database.membershipDecisions)
    (hrequests : later.membershipRequests.rows = database.membershipRequests.rows ++ [new]) :
    DecidedOnce later := by
  have hkept : ∀ request ∈ database.membershipRequests, request ∈ later.membershipRequests := by
    intro request hrequest
    rw [Table.mem_def, hrequests]
    exact List.mem_append_left _ hrequest
  constructor
  · rw [hdecisions]
    intro decision hdecision
    obtain ⟨request, hrequest, hid⟩ := honce.requested decision hdecision
    exact ⟨request, hkept request hrequest, hid⟩
  · rw [hdecisions]
    exact honce.once
  · rw [hdecisions]
    exact honce.decided
  · rw [hdecisions]
    intro decision hdecision request hrequest hid
    -- the request which the decision refers to has the id already
    obtain ⟨old, hold, holdId⟩ := honce.requested decision hdecision
    have hsame : request = old := Table.eq_of_key_eq _ List.mem_cons_self hrequest
      (hkept old hold) rfl (congrArg some (holdId.trans hid.symm))
    rw [hsame]
    exact honce.status decision hdecision old hold holdId

/-- A decision takes its request out of `PENDING`. -/
theorem of_decides (honce : DecidedOnce database) {context : CallContext}
    {requestId decision : String}
    (hdecides : SyncGroupService.Decides database later context requestId decision)
    (hvalue : decision = "APPROVED" ∨ decision = "REJECTED") : DecidedOnce later := by
  obtain ⟨pending, hpending, hpendingId, hstatus, -⟩ := hdecides.pending
  obtain ⟨row, hrowRequest, -, hrowDecision, hdecisions⟩ := hdecides.decisions
  have hcases : ∀ other ∈ later.membershipDecisions,
      other ∈ database.membershipDecisions ∨ other = row := by
    intro other hother
    rw [Table.mem_def, hdecisions] at hother
    simpa [Table.mem_def] using hother
  have hundecided : ∀ other ∈ database.membershipDecisions, other.requestId ≠ requestId := by
    intro other hother hsame
    exact honce.not_pending hother hpending (hpendingId.trans hsame.symm) hstatus
  constructor
  · intro other hother
    have hold : ∃ request ∈ database.membershipRequests, request.id = other.requestId := by
      cases hcases other hother with
      | inl hold => exact honce.requested other hold
      | inr hnew => exact ⟨pending, hpending, by rw [hnew, hrowRequest, hpendingId]⟩
    obtain ⟨request, hrequest, hid⟩ := hold
    refine ⟨Table.updateRow (fun row => row.id = requestId)
      (fun row => { row with status := decision }) request, ?_, ?_⟩
    · rw [Table.mem_def, hdecides.requests]
      exact List.mem_map_of_mem hrequest
    · unfold Table.updateRow
      split_ifs
      · exact hid
      · exact hid
  · rw [hdecisions, List.pairwise_append]
    refine ⟨honce.once, List.pairwise_singleton _ _, ?_⟩
    intro other hother new hnew
    rw [List.mem_singleton.mp hnew, hrowRequest]
    exact hundecided other hother
  · intro other hother
    cases hcases other hother with
    | inl hold => exact honce.decided other hold
    | inr hnew =>
        rw [hnew, hrowDecision]
        exact hvalue
  · intro other hother request hrequest hid
    rw [Table.mem_def, hdecides.requests] at hrequest
    obtain ⟨old, hold, rfl⟩ := List.mem_map.mp hrequest
    unfold Table.updateRow at hid ⊢
    cases hcases other hother with
    | inl hother =>
        split_ifs at hid ⊢ with hdecided
        · exact absurd (hid.symm.trans (by simpa using hdecided)) (hundecided other hother)
        · exact honce.status other hother old hold hid
    | inr hnew =>
        rw [hnew, hrowRequest] at hid
        rw [hnew, hrowDecision]
        split_ifs at hid ⊢ with hdecided
        · rfl
        · exact absurd (by simpa using hid) hdecided

end DecidedOnce

/-! ## Calls in flight -/

namespace MembershipCall

open SyncGroupService

def Acts (database later : AuthorizationDatabase) : MembershipCall → Prop
  | .requestMembership _ _ _ _ _ =>
      later.membershipDecisions = database.membershipDecisions ∧
        ∃ new, later.membershipRequests.rows = database.membershipRequests.rows ++ [new]
  | .approveMembership _ _ _ requestId approver _ _ =>
      Decides database later approver requestId "APPROVED"
  | .rejectMembership _ _ requestId rejector =>
      Decides database later rejector requestId "REJECTED"
  | .revokeMembership _ _ _ _ _ _ =>
      later.membershipDecisions = database.membershipDecisions ∧
        later.membershipRequests = database.membershipRequests

theorem program_run_cases (call : MembershipCall) (database : AuthorizationDatabase) :
    (call.program.run memoryConnection database).2 = database ∨
      (call.program.run memoryConnection database).1 = .ok () ∧
        call.Acts database (call.program.run memoryConnection database).2 := by
  cases call with
  | requestMembership requestId now groupId deviceId userId =>
      simp only [program, SyncGroupService.requestMembership, Program.run_bind]
      cases hrun : (SyncGroupRepository.insertMembershipRequest requestId deviceId groupId userId
          now.iso).run database with
      | ok result =>
          obtain ⟨requests, hrows, hdatabase⟩ := TableOf.insert_eq_ok hrun
          rw [memory_execute_run hrun]
          simp only [Program.run_pure]
          refine Or.inr ⟨trivial, ?_,
            ⟨requestId, deviceId, groupId, userId, now.iso, "PENDING"⟩, ?_⟩
          · rw [hdatabase]
            rfl
          · rw [hdatabase]
            exact hrows
      | error message =>
          obtain ⟨error, hfails⟩ := memory_execute_run_error hrun
          rw [hfails]
          exact Or.inl rfl
  | approveMembership decisionId memberId now requestId approver signature expectedDeviceId =>
      cases transaction_run_cases (approveMembershipWithin
          (transactionExecutor AuthorizationDatabase) decisionId memberId now requestId approver
          signature expectedDeviceId) database with
      | inl hsame => exact Or.inl hsame
      | inr happroved =>
          exact Or.inr ⟨happroved.2, approveMembershipWithin_decides happroved.1⟩
  | rejectMembership decisionId now requestId rejector =>
      cases transaction_run_cases (rejectMembershipWithin
          (transactionExecutor AuthorizationDatabase) decisionId now requestId rejector)
          database with
      | inl hsame => exact Or.inl hsame
      | inr hrejected =>
          exact Or.inr ⟨hrejected.2, rejectMembershipWithin_decides hrejected.1⟩
  | revokeMembership revocationId now deviceId groupId revokedBy reason =>
      cases transaction_run_cases (revokeMembershipWithin
          (transactionExecutor AuthorizationDatabase) revocationId now deviceId groupId revokedBy
          reason) database with
      | inl hsame => exact Or.inl hsame
      | inr hrevoked =>
          exact Or.inr ⟨hrevoked.2, revokeMembershipWithin_requests hrevoked.1⟩

theorem settles_of_program {call : MembershipCall} {β : Type} {request : AuthorizationCall β}
    {rest : Except Thrown β → Program AuthorizationCall Thrown Unit}
    (hprogram : call.program = .call request rest) (answer : Except Thrown β) :
    ∃ outcome, rest answer = .done outcome ∧
      ∀ error, answer = .error error → outcome = .error error := by
  cases call with
  | requestMembership requestId now groupId deviceId userId =>
      cases hprogram
      cases answer with
      | ok rowsAffected => exact ⟨.ok (), rfl, by simp⟩
      | error error => exact ⟨.error error, rfl, by simp⟩
  | approveMembership decisionId memberId now requestId approver signature expectedDeviceId =>
      cases hprogram
      exact ⟨answer, rfl, fun _ hanswer => hanswer⟩
  | rejectMembership decisionId now requestId rejector =>
      cases hprogram
      exact ⟨answer, rfl, fun _ hanswer => hanswer⟩
  | revokeMembership revocationId now deviceId groupId revokedBy reason =>
      cases hprogram
      exact ⟨answer, rfl, fun _ hanswer => hanswer⟩

end MembershipCall

abbrev MembershipSystem :=
  System MembershipCall SyncGroupService.AuthorizationCall Thrown Unit AuthorizationDatabase

/-- A transaction, or a statement outside of one, takes effect at once, or it fails without an
effect. -/
abbrev MembershipCallStep : MembershipSystem → MembershipSystem → Prop :=
  System.Step (fallible memoryConnection) MembershipCall.program fun _ _ => True

/-- The tables of the claims on memberships are as before, up to the order in which the rows of
`core_sync_group_members` are found; users, roles, permissions, groups and devices may differ. -/
structure ElsewhereChanged (database later : AuthorizationDatabase) : Prop where
  requests : later.membershipRequests = database.membershipRequests
  decisions : later.membershipDecisions = database.membershipDecisions
  members : later.syncGroupMembers.rows.Perm database.syncGroupMembers.rows
  revocations : later.revocations = database.revocations

inductive MembershipStep : MembershipSystem → MembershipSystem → Prop
  | call {system later : MembershipSystem} : MembershipCallStep system later →
      MembershipStep system later
  | elsewhere {system : MembershipSystem} {database : AuthorizationDatabase} :
      ElsewhereChanged system.state database →
      MembershipStep system ⟨database, system.threads⟩

def MembershipReaches (initial : AuthorizationDatabase) (system : MembershipSystem) : Prop :=
  Relation.ReflTransGen MembershipStep ⟨initial, []⟩ system

def InFlight (system : MembershipSystem) : Prop :=
  ∀ thread ∈ system.threads, thread.program = thread.label.program ∨
    ∃ outcome, thread.program = .done outcome

def CallSucceeds (call : MembershipCall) (system later : MembershipSystem) : Prop :=
  ∃ before after, system.threads = before ++ ⟨call, call.program⟩ :: after ∧
    later.threads = before ++ ⟨call, .done (.ok ())⟩ :: after

variable {system later : MembershipSystem}

theorem MembershipCallStep.effect (hflight : InFlight system)
    (hstep : MembershipCallStep system later) :
    later.state = system.state ∨
      ∃ call, CallSucceeds call system later ∧ call.Acts system.state later.state := by
  cases hstep with
  | start call database threads => exact Or.inl rfl
  | drop thread database before after => exact Or.inl rfl
  | advance request rest call database before after answer next hallowed hanswer =>
      have hprogram : call.program = .call request rest := by
        cases hflight ⟨call, .call request rest⟩ (by simp) with
        | inl hwaits => exact hwaits.symm
        | inr hdone =>
            obtain ⟨outcome, hdone⟩ := hdone
            cases hdone
      cases hanswer with
      | inr hfails => exact Or.inl hfails.2
      | inl hanswered =>
          obtain ⟨outcome, hdone, -⟩ := MembershipCall.settles_of_program hprogram answer
          have hrun : call.program.run memoryConnection database = (outcome, next) := by
            rw [hprogram, Program.run, hanswered, hdone]
            rfl
          cases call.program_run_cases database with
          | inl hsame =>
              rw [hrun] at hsame
              exact Or.inl hsame
          | inr hacts =>
              rw [hrun] at hacts
              obtain ⟨hok, hacts⟩ := hacts
              cases hok
              refine Or.inr ⟨call, ⟨before, after, ?_, ?_⟩, hacts⟩
              · rw [hprogram]
              · rw [hdone]

theorem InFlight.step (hflight : InFlight system) (hstep : MembershipStep system later) :
    InFlight later := by
  cases hstep with
  | elsewhere hchanged => exact hflight
  | call hstep =>
      cases hstep with
      | start call database threads =>
          intro thread hthread
          cases List.mem_cons.mp hthread with
          | inl hnew =>
              rw [hnew]
              exact Or.inl rfl
          | inr hold => exact hflight thread hold
      | drop thread database before after =>
          intro other hother
          apply hflight other
          simp only [List.mem_append, List.mem_cons] at hother ⊢
          tauto
      | advance request rest call database before after answer next hallowed hanswer =>
          intro thread hthread
          rw [List.mem_append, List.mem_cons] at hthread
          have hother : thread ∈ before ∨ thread ∈ after → thread.program = thread.label.program ∨
              ∃ outcome, thread.program = .done outcome := by
            intro hother
            apply hflight thread
            simp only [List.mem_append, List.mem_cons]
            tauto
          rcases hthread with hbefore | rfl | hafter
          · exact hother (Or.inl hbefore)
          · cases hflight ⟨call, .call request rest⟩ (by simp) with
            | inl hwaits =>
                obtain ⟨outcome, hdone, -⟩ :=
                  MembershipCall.settles_of_program hwaits.symm answer
                exact Or.inr ⟨outcome, hdone⟩
            | inr hdone =>
                obtain ⟨outcome, hdone⟩ := hdone
                cases hdone
          · exact hother (Or.inr hafter)

theorem DecidedOnce.acts {call : MembershipCall} {database later : AuthorizationDatabase}
    (honce : DecidedOnce database) (hacts : call.Acts database later) : DecidedOnce later := by
  cases call with
  | requestMembership requestId now groupId deviceId userId =>
      obtain ⟨hdecisions, new, hrequests⟩ := hacts
      exact honce.of_requested hdecisions hrequests
  | approveMembership decisionId memberId now requestId approver signature expectedDeviceId =>
      exact honce.of_decides hacts (Or.inl rfl)
  | rejectMembership decisionId now requestId rejector =>
      exact honce.of_decides hacts (Or.inr rfl)
  | revokeMembership revocationId now deviceId groupId revokedBy reason =>
      exact honce.of_rows hacts.1 hacts.2

theorem DecidedOnce.step (honce : DecidedOnce system.state) (hflight : InFlight system)
    (hstep : MembershipStep system later) :
    DecidedOnce later.state := by
  cases hstep with
  | elsewhere hchanged => exact honce.of_rows hchanged.decisions hchanged.requests
  | call hstep =>
      cases hstep.effect hflight with
      | inl hsame => rwa [hsame]
      | inr hacts =>
          obtain ⟨call, -, hacts⟩ := hacts
          exact honce.acts hacts

theorem MembershipReaches.decidedOnce {initial : AuthorizationDatabase}
    (hinitial : DecidedOnce initial) (hreaches : MembershipReaches initial system) :
    DecidedOnce system.state ∧ InFlight system := by
  induction hreaches with
  | refl => exact ⟨hinitial, by simp [InFlight]⟩
  | tail _ hstep ih => exact ⟨ih.1.step ih.2 hstep, ih.2.step hstep⟩

/-! ## One call after the other -/

theorem MembershipCall.asks (call : MembershipCall) :
    ∃ (β : Type) (request : SyncGroupService.AuthorizationCall β)
      (rest : Except Thrown β → Program SyncGroupService.AuthorizationCall Thrown Unit),
      call.program = .call request rest := by
  cases call with
  | requestMembership requestId now groupId deviceId userId => exact ⟨_, _, _, rfl⟩
  | approveMembership decisionId memberId now requestId approver signature expectedDeviceId =>
      exact ⟨_, _, _, rfl⟩
  | rejectMembership decisionId now requestId rejector => exact ⟨_, _, _, rfl⟩
  | revokeMembership revocationId now deviceId groupId revokedBy reason => exact ⟨_, _, _, rfl⟩

theorem reaches_after_call (call : MembershipCall) (database : AuthorizationDatabase) :
    MembershipReaches database ⟨(call.program.run memoryConnection database).2, []⟩ := by
  obtain ⟨β, request, rest, hprogram⟩ := call.asks
  obtain ⟨outcome, hdone, -⟩ :=
    MembershipCall.settles_of_program hprogram (memoryConnection request database).1
  have hrun : (call.program.run memoryConnection database).2 =
      (memoryConnection request database).2 := by
    rw [hprogram, Program.run, hdone]
    rfl
  have hstart : MembershipCallStep ⟨database, []⟩ ⟨database, [⟨call, .call request rest⟩]⟩ := by
    rw [← hprogram]
    exact .start call database []
  have hadvance : MembershipCallStep ⟨database, [⟨call, .call request rest⟩]⟩
      ⟨(memoryConnection request database).2,
        [⟨call, rest (memoryConnection request database).1⟩]⟩ :=
    .advance request rest call database [] [] _ _ trivial (Or.inl rfl)
  have hdrop : MembershipCallStep ⟨(memoryConnection request database).2,
        [⟨call, rest (memoryConnection request database).1⟩]⟩
      ⟨(memoryConnection request database).2, []⟩ :=
    .drop ⟨call, rest (memoryConnection request database).1⟩ _ [] []
  rw [hrun]
  exact ((Relation.ReflTransGen.single (.call hstart)).tail (.call hadvance)).tail (.call hdrop)

theorem reaches_after_calls (calls : List MembershipCall) (database : AuthorizationDatabase) :
    MembershipReaches database
      ⟨calls.foldl (fun database call => (call.program.run memoryConnection database).2) database,
        []⟩ := by
  induction calls generalizing database with
  | nil => exact .refl
  | cons call calls ih => exact (reaches_after_call call database).trans (ih _)

/-! ## Who decided -/

def MembershipCall.decides? : MembershipCall → Option (String × CallContext)
  | .requestMembership _ _ _ _ _ => none
  | .approveMembership _ _ _ requestId approver _ _ => some (requestId, approver)
  | .rejectMembership _ _ requestId rejector => some (requestId, rejector)
  | .revokeMembership _ _ _ _ _ _ => none

/-- In this step the decision is recorded by a call of the subject it names, who is granted
`sync.manage` in the organisation of the group. -/
def RecordedByManager (decision : MembershipDecisionRow) (system later : MembershipSystem) :
    Prop :=
  ∃ call context, CallSucceeds call system later ∧
    call.decides? = some (decision.requestId, context) ∧
    (extractContextSubject context).userId = some decision.decidedBy ∧
    ∃ request ∈ system.state.membershipRequests, request.id = decision.requestId ∧
      ∃ group ∈ system.state.syncGroups, group.id = request.groupId ∧
        AuthorizationEngine.IsGranted system.state decision.decidedBy group.organisationId
          "sync.manage"

theorem SyncGroupService.Decides.recorded {database later : AuthorizationDatabase}
    {context : CallContext} {requestId value : String} {decision : MembershipDecisionRow}
    (hdecides : Decides database later context requestId value)
    (hnew : decision ∈ later.membershipDecisions) (hold : decision ∉ database.membershipDecisions) :
    decision.requestId = requestId ∧
      (extractContextSubject context).userId = some decision.decidedBy ∧
      ∃ request ∈ database.membershipRequests, request.id = decision.requestId ∧
        ∃ group ∈ database.syncGroups, group.id = request.groupId ∧
          AuthorizationEngine.IsGranted database decision.decidedBy group.organisationId
            "sync.manage" := by
  obtain ⟨row, hrequestId, hdecidedBy, -, hrows⟩ := hdecides.decisions
  have hsame : decision = row := by
    rw [Table.mem_def, hrows, List.mem_append, List.mem_singleton] at hnew
    exact hnew.resolve_left hold
  obtain ⟨request, hrequest, hid, -, group, hgroup, hgroupId, horganisation⟩ := hdecides.pending
  obtain ⟨hsubject, hgranted⟩ := hdecides.permitted.isGranted
  rw [hsame, hrequestId, hdecidedBy]
  refine ⟨rfl, hsubject, request, hrequest, hid, group, hgroup, hgroupId, ?_⟩
  rwa [horganisation]

theorem MembershipStep.recorded (hflight : InFlight system) (hstep : MembershipStep system later)
    {decision : MembershipDecisionRow} (hold : decision ∉ system.state.membershipDecisions)
    (hnew : decision ∈ later.state.membershipDecisions) :
    RecordedByManager decision system later := by
  cases hstep with
  | elsewhere hchanged =>
      rw [hchanged.decisions] at hnew
      exact absurd hnew hold
  | call hstep =>
      cases hstep.effect hflight with
      | inl hsame =>
          rw [hsame] at hnew
          exact absurd hnew hold
      | inr hacts =>
          obtain ⟨call, hsucceeds, hacts⟩ := hacts
          cases call with
          | requestMembership requestId now groupId deviceId userId =>
              rw [hacts.1] at hnew
              exact absurd hnew hold
          | approveMembership decisionId memberId now requestId approver signature
              expectedDeviceId =>
              obtain ⟨rfl, hrecorded⟩ := hacts.recorded hnew hold
              exact ⟨_, approver, hsucceeds, rfl, hrecorded⟩
          | rejectMembership decisionId now requestId rejector =>
              obtain ⟨rfl, hrecorded⟩ := hacts.recorded hnew hold
              exact ⟨_, rejector, hsucceeds, rfl, hrecorded⟩
          | revokeMembership revocationId now deviceId groupId revokedBy reason =>
              rw [hacts.1] at hnew
              exact absurd hnew hold

theorem exists_step_of_reached {σ : Type*} {R : σ → σ → Prop} {P : σ → Prop} {start final : σ}
    (hreached : Relation.ReflTransGen R start final) (hstart : ¬ P start) (hfinal : P final) :
    ∃ before after, Relation.ReflTransGen R start before ∧ R before after ∧
      Relation.ReflTransGen R after final ∧ ¬ P before ∧ P after := by
  induction hreached with
  | refl => exact absurd hfinal hstart
  | tail hreached hstep ih =>
      rename_i middle last
      by_cases hmiddle : P middle
      · obtain ⟨before, after, hbefore, hbetween, hafter, hholds⟩ := ih hmiddle
        exact ⟨before, after, hbefore, hbetween, hafter.tail hstep, hholds⟩
      · exact ⟨middle, last, hreached, hstep, .refl, hmiddle, hfinal⟩

/-- However the calls interleave, a request is decided once, by a manager of its group, and a
call which throws has changed nothing. -/
theorem requests_decided_once {initial : AuthorizationDatabase} (hinitial : DecidedOnce initial)
    {system : MembershipSystem} (hreaches : MembershipReaches initial system) :
    DecidedOnce system.state ∧
    (∀ decision ∈ system.state.membershipDecisions, decision ∉ initial.membershipDecisions →
      ∃ before after, MembershipReaches initial before ∧ MembershipStep before after ∧
        Relation.ReflTransGen MembershipStep after system ∧
        decision ∉ before.state.membershipDecisions ∧
        decision ∈ after.state.membershipDecisions ∧ RecordedByManager decision before after) ∧
    ∀ later, MembershipCallStep system later →
      later.state = system.state ∨ ∃ call, CallSucceeds call system later := by
  obtain ⟨honce, hflight⟩ := hreaches.decidedOnce hinitial
  refine ⟨honce, ?_, ?_⟩
  · intro decision hdecision hinitially
    obtain ⟨before, after, hbefore, hstep, hafter, hold, hnew⟩ := exists_step_of_reached
      (P := fun system : MembershipSystem => decision ∈ system.state.membershipDecisions)
      hreaches hinitially hdecision
    have hflight := (MembershipReaches.decidedOnce hinitial hbefore).2
    exact ⟨before, after, hbefore, hstep, hafter, hold, hnew, hstep.recorded hflight hold hnew⟩
  · intro later hstep
    cases hstep.effect hflight with
    | inl hsame => exact Or.inl hsame
    | inr hacts =>
        obtain ⟨call, hsucceeds, -⟩ := hacts
        exact Or.inr ⟨call, hsucceeds⟩

theorem approvals_decided_once :
    DecidedOnce (MembershipCall.databaseAfter MembershipCall.approvedAgain) ∧
      (MembershipCall.databaseAfter
        MembershipCall.approvedAgain).membershipDecisions.rows.map
          (fun decision => (decision.requestId, decision.decidedBy, decision.decision)) =
        [("q1", "u", "APPROVED"), ("q2", "u", "APPROVED")] := by
  have hinitial : DecidedOnce MembershipCall.newGroup := by
    constructor
    · intro decision hdecision
      cases hdecision
    · exact List.Pairwise.nil
    · intro decision hdecision
      cases hdecision
    · intro decision hdecision
      cases hdecision
  constructor
  · exact (requests_decided_once hinitial
      (reaches_after_calls MembershipCall.approvedAgain MembershipCall.newGroup)).1
  · decide +kernel

end TauriPlatform
