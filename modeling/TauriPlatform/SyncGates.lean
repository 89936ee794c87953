import TauriPlatform.DatabaseParts
import TauriPlatform.MembershipHistory
import TauriPlatform.PairingService

/-!
# The two gates of synchronisation

`canSync` looks at the device and at one membership row of it in the group;
`requireActiveMembership` looks at the group, the device and every row which counts for
the user.  Which row is found first is up to SQLite.
-/

namespace TauriPlatform

open Async Relational MembershipCall

namespace SyncGroupService

variable {database ordered : AuthorizationDatabase} {deviceId groupId : String}
  {context : CallContext}

/-! ## What each gate asks for -/

def DeviceAdmitted (database : AuthorizationDatabase) (deviceId : String) : Prop :=
  ∃ device ∈ database.devices, device.deviceId = deviceId ∧
    isApprovedOrActive device.status = true

def GroupOpen (database : AuthorizationDatabase) (groupId organisationId : String) : Prop :=
  ∃ group ∈ database.syncGroups, group.id = groupId ∧
    group.organisationId = organisationId ∧ group.status = "ACTIVE"

def MemberFor (database : AuthorizationDatabase) (groupId : String)
    (subject : ContextSubject) : Prop :=
  ∃ row ∈ database.syncGroupMembers, isMembershipOf subject.deviceId groupId row = true ∧
    isApprovedOrActive row.status = true ∧ (row.userId = none ∨ row.userId = subject.userId)

theorem deviceAdmitted_iff :
    DeviceAdmitted database deviceId ↔
      (((database.devices.select fun row => row.deviceId = deviceId).take 1).head?.any
        fun device => isApprovedOrActive device.status) = true := by
  have hhead : ∀ device : DeviceRow,
      (database.devices.select fun row => some row.deviceId = some deviceId).head? = some device ↔
        device ∈ database.devices ∧ some device.deviceId = some deviceId := by
    intro device
    exact Table.head?_select_eq_some_iff (fun row : DeviceRow => some row.deviceId)
      (by simp [deviceIndexes])
  simp only [Option.some.injEq] at hhead
  rw [List.head?_take, if_neg one_ne_zero, Option.any_eq_true]
  constructor
  · rintro ⟨device, hmem, hid, hstatus⟩
    exact ⟨device, (hhead device).mpr ⟨hmem, hid⟩, hstatus⟩
  · rintro ⟨device, hfirst, hstatus⟩
    obtain ⟨hmem, hid⟩ := (hhead device).mp hfirst
    exact ⟨device, hmem, hid, hstatus⟩

theorem foundApproved_iff_head :
    FoundApproved database deviceId groupId ↔
      (((database.syncGroupMembers.select (isMembershipOf deviceId groupId)).take 1).head?.any
        fun member => isApprovedOrActive member.status) = true := by
  unfold FoundApproved
  cases database.syncGroupMembers.select (isMembershipOf deviceId groupId) with
  | nil => simp
  | cons row rest => simp

/-- `canSync` answers true for an admitted device whose membership found first counts. -/
theorem canSync_iff :
    ((canSync (connectionExecutor AuthorizationDatabase) deviceId groupId).run memoryConnection
        database).1 = .ok true ↔
      DeviceAdmitted database deviceId ∧ FoundApproved database deviceId groupId := by
  have hdevices : (SyncGroupRepository.findDeviceStatus deviceId).run database =
      .ok ⟨database, (database.devices.select fun row => row.deviceId = deviceId).take 1, 0⟩ :=
    rfl
  rw [deviceAdmitted_iff, foundApproved_iff_head, canSync,
    Program.run_bind_ok _ (memory_query_run hdevices)]
  split_ifs with hadmitted
  · rw [Program.run_bind_ok _ (memory_query_run (findMembershipStatus_run _ _ _))]
    simp only [Program.run_pure, Except.ok.injEq]
    exact ⟨fun hfound => ⟨hadmitted, hfound⟩, fun hboth => hboth.2⟩
  · simp [hadmitted]

theorem pairing_canSync_iff :
    ((PairingService.canSync deviceId groupId).run memoryConnection database).1 = .ok true ↔
      ((canSync (connectionExecutor AuthorizationDatabase) deviceId groupId).run
        memoryConnection database).1 = .ok true := by
  have hdevices : (DeviceIdentityService.findByDeviceId deviceId).run database =
      .ok ⟨database, (database.devices.select fun row => row.deviceId = deviceId).take 1, 0⟩ :=
    rfl
  rw [PairingService.canSync, Program.run_bind_ok _ (memory_query_run hdevices)]
  split_ifs with hdenied
  · constructor
    · intro hok
      simp at hok
    · intro hok
      have hadmitted := deviceAdmitted_iff.mp (canSync_iff.mp hok).1
      generalize ((database.devices.select fun row => row.deviceId = deviceId).take 1).head? =
        first at hdenied hadmitted
      cases first with
      | none => cases hadmitted
      | some device => simp_all
  · exact Iff.rfl

/-! ### The membership for a user -/

/-- The rows which `findMembershipEligibility` joins with the device. -/
def countsFor (groupId : String) (subject : ContextSubject) (row : SyncGroupMemberRow) : Bool :=
  row.deviceId = subject.deviceId && row.groupId = groupId &&
    (row.status = "APPROVED" || row.status = "ACTIVE") &&
    (row.userId = none || row.userId = subject.userId)

theorem countsFor_iff {subject : ContextSubject} {row : SyncGroupMemberRow} :
    countsFor groupId subject row = true ↔
      isMembershipOf subject.deviceId groupId row = true ∧
        isApprovedOrActive row.status = true ∧
          (row.userId = none ∨ row.userId = subject.userId) := by
  simp only [countsFor, isMembershipOf, isApprovedOrActive, Bool.and_eq_true, Bool.or_eq_true,
    decide_eq_true_eq, and_assoc]

def eligibilityRows (device : DeviceRow) :
    List SyncGroupMemberRow → List SyncGroupRepository.MembershipEligibilityRow
  | [] => [{ deviceStatus := device.status, membershipStatus := none }]
  | members => members.map fun member =>
      { deviceStatus := device.status, membershipStatus := some member.status }

theorem findMembershipEligibility_head (groupId : String) {subject : ContextSubject}
    {device : DeviceRow} (hdevice : device ∈ database.devices) (hid : device.deviceId = subject.deviceId) :
    ∃ eligibility rest,
      (SyncGroupRepository.findMembershipEligibility groupId subject.deviceId
        subject.userId).run database = .ok ⟨database, eligibility :: rest, 0⟩ ∧
      eligibility.deviceStatus = device.status ∧
      (eligibility.membershipStatus.all (· = "") = false ↔
        MemberFor database groupId subject) := by
  have hselect : (database.devices.select fun row => row.deviceId = subject.deviceId) =
      [device] := by
    have hsingle := Table.select_eq_singleton (fun row : DeviceRow => some row.deviceId)
      (by simp [deviceIndexes]) hdevice (congrArg some hid)
    simpa only [Option.some.injEq] using hsingle
  have hrun : (SyncGroupRepository.findMembershipEligibility groupId subject.deviceId
      subject.userId).run database = .ok ⟨database, (eligibilityRows device
        (database.syncGroupMembers.select (countsFor groupId subject))).take 1, 0⟩ := by
    simp only [SyncGroupRepository.findMembershipEligibility, Statement.run, hselect,
      List.flatMap_cons, List.flatMap_nil, List.append_nil, hid]
    rfl
  cases hmembers : database.syncGroupMembers.select (countsFor groupId subject) with
  | nil =>
      rw [hmembers] at hrun
      refine ⟨_, _, hrun, rfl, ?_⟩
      simp only [Option.all_none, reduceCtorEq, false_iff]
      rintro ⟨row, hrow, hcounts⟩
      have hmem := Table.mem_select.mpr ⟨hrow, countsFor_iff.mpr hcounts⟩
      rw [hmembers] at hmem
      exact List.not_mem_nil hmem
  | cons member others =>
      rw [hmembers] at hrun
      refine ⟨_, _, hrun, rfl, ?_⟩
      have hmem : member ∈ database.syncGroupMembers.select (countsFor groupId subject) := by
        rw [hmembers]
        exact List.mem_cons_self
      obtain ⟨hrow, hcounts⟩ := Table.mem_select.mp hmem
      have hmember := countsFor_iff.mp hcounts
      refine iff_of_true ?_ ⟨member, hrow, hmember⟩
      have hstatus : member.status ≠ "" := by
        intro hempty
        rw [hempty] at hmember
        exact absurd hmember.2.1 (by decide)
      simpa using hstatus

section Answers

variable {Call : Type → Type 1} {σ : Type} {handler : Program.Handler Call Thrown σ}
  {executor : Executor AuthorizationDatabase Call} {state : σ}

/-- `requireActiveMembership` succeeds for an open group, an admitted device and a member,
whichever executor it reads through. -/
theorem requireActiveMembership_of_answers
    (hanswers : executor.AnswersFrom handler state database) :
    ((requireActiveMembership executor context groupId).run handler state).1 = .ok () ↔
      GroupOpen database groupId (extractContextSubject context).organisationId ∧
        DeviceAdmitted database (extractContextSubject context).deviceId ∧
          MemberFor database groupId (extractContextSubject context) := by
  have hgroups : (SyncGroupRepository.findGroup groupId).run database =
      .ok ⟨database, (database.syncGroups.select fun row => row.id = groupId).take 1, 0⟩ := rfl
  rw [requireActiveMembership, Program.run_bind_ok _ (hanswers.query rfl hgroups)]
  by_cases hexists : ∃ group ∈ database.syncGroups, group.id = groupId
  · obtain ⟨group, hgroup, rfl⟩ := hexists
    have hopen : GroupOpen database group.id (extractContextSubject context).organisationId ↔
        group.organisationId = (extractContextSubject context).organisationId ∧
          group.status = "ACTIVE" := by
      constructor
      · rintro ⟨other, hother, hid, hrest⟩
        have hsame : other = group :=
          Table.eq_of_key_eq (fun row : SyncGroupRow => some row.id) List.mem_cons_self hother
            hgroup (congrArg some hid) rfl
        rw [← hsame]
        exact hrest
      · intro hrest
        exact ⟨group, hgroup, rfl, hrest⟩
    rw [select_by_id hgroup, hopen]
    dsimp only [List.take_succ_cons]
    split_ifs with horganisation hstatus
    · simp [horganisation]
    · simp [hstatus]
    · rw [not_not] at horganisation hstatus
      rw [and_iff_right ⟨horganisation, hstatus⟩]
      by_cases hregistered : ∃ device ∈ database.devices,
          device.deviceId = (extractContextSubject context).deviceId
      · obtain ⟨device, hdevice, hid⟩ := hregistered
        obtain ⟨eligibility, rest, hrun, hdeviceStatus, hmember⟩ :=
          findMembershipEligibility_head group.id hdevice hid
        have hadmitted : DeviceAdmitted database (extractContextSubject context).deviceId ↔
            isApprovedOrActive eligibility.deviceStatus = true := by
          rw [hdeviceStatus]
          constructor
          · rintro ⟨other, hother, hotherId, hstatus⟩
            have hsame : other = device :=
              Table.eq_of_key_eq (fun row : DeviceRow => some row.deviceId)
                (by simp [deviceIndexes]) hother hdevice (congrArg some hotherId)
                (congrArg some hid)
            rwa [← hsame]
          · intro hstatus
            exact ⟨device, hdevice, hid, hstatus⟩
        rw [Program.run_bind_ok _ (hanswers.query rfl hrun), hadmitted, ← hmember]
        simp only [List.head?_cons, Option.filter_some]
        cases happroved : isApprovedOrActive eligibility.deviceStatus with
        | false => simp
        | true =>
            cases hnull : eligibility.membershipStatus.all (· = "") with
            | false => simp [hnull]
            | true => simp [hnull]
      · have hunregistered : (database.devices.select fun row =>
            row.deviceId = (extractContextSubject context).deviceId) = [] := by
          apply List.filter_eq_nil_iff.mpr
          intro device hdevice hid
          exact hregistered ⟨device, hdevice, of_decide_eq_true hid⟩
        have hrun : (SyncGroupRepository.findMembershipEligibility group.id
            (extractContextSubject context).deviceId (extractContextSubject context).userId).run
              database = .ok ⟨database, [], 0⟩ := by
          simp only [SyncGroupRepository.findMembershipEligibility, Statement.run, hunregistered,
            List.flatMap_nil, List.take_nil]
        rw [Program.run_bind_ok _ (hanswers.query rfl hrun)]
        constructor
        · intro hok
          cases hok
        · rintro ⟨⟨device, hdevice, hid, -⟩, -⟩
          exact absurd ⟨device, hdevice, hid⟩ hregistered
  · have hnone : (database.syncGroups.select fun row => row.id = groupId) = [] := by
      apply List.filter_eq_nil_iff.mpr
      intro group hgroup hid
      exact hexists ⟨group, hgroup, of_decide_eq_true hid⟩
    rw [hnone]
    constructor
    · intro hok
      cases hok
    · rintro ⟨⟨group, hgroup, hid, -⟩, -⟩
      exact absurd ⟨group, hgroup, hid⟩ hexists

theorem requireActiveMembership_keeps (hreads : executor.ReadsOnly handler) :
    (requireActiveMembership executor context groupId).Keeps handler id := by
  refine (hreads.query rfl).bind fun groups => ?_
  cases groups with
  | nil => exact Program.keeps_throw _
  | cons group others =>
      dsimp only
      split_ifs
      · exact Program.keeps_throw _
      · exact Program.keeps_throw _
      · refine (hreads.query rfl).bind fun rows => ?_
        cases rows.head?.filter fun row => isApprovedOrActive row.deviceStatus with
        | none => exact Program.keeps_throw _
        | some eligibility =>
            dsimp only
            split_ifs
            · exact Program.keeps_throw _
            · exact Program.keeps_pure _

end Answers

theorem requireActiveMembership_iff :
    ((requireActiveMembership (connectionExecutor AuthorizationDatabase) context groupId).run
        memoryConnection database).1 = .ok () ↔
      GroupOpen database groupId (extractContextSubject context).organisationId ∧
        DeviceAdmitted database (extractContextSubject context).deviceId ∧
          MemberFor database groupId (extractContextSubject context) :=
  requireActiveMembership_of_answers (answersFrom_connection database)

/-! ## Agreement -/

/-- The two gates give one answer, whatever order the membership rows are found in. -/
def GatesAgree (database : AuthorizationDatabase) (groupId : String) (context : CallContext) :
    Prop :=
  ∀ ordered, Reordered database ordered →
    (((canSync (connectionExecutor AuthorizationDatabase)
        (extractContextSubject context).deviceId groupId).run memoryConnection ordered).1 =
          .ok true ↔
      ((requireActiveMembership (connectionExecutor AuthorizationDatabase) context groupId).run
        memoryConnection ordered).1 = .ok ())

/-- What `requireActiveMembership` asks of the group and of the memberships. -/
def Eligible (database : AuthorizationDatabase) (groupId : String) (context : CallContext) :
    Prop :=
  GroupOpen database groupId (extractContextSubject context).organisationId ∧
    MemberFor database groupId (extractContextSubject context)

theorem deviceAdmitted_reordered (hordered : Reordered database ordered) :
    DeviceAdmitted ordered deviceId ↔ DeviceAdmitted database deviceId := by
  obtain ⟨members, -, rfl⟩ := hordered
  exact Iff.rfl

theorem eligible_reordered (hordered : Reordered database ordered) :
    GroupOpen ordered groupId (extractContextSubject context).organisationId ∧
        MemberFor ordered groupId (extractContextSubject context) ↔
      Eligible database groupId context := by
  have hmembers : MemberFor ordered groupId (extractContextSubject context) ↔
      MemberFor database groupId (extractContextSubject context) := by
    unfold MemberFor
    simp only [hordered.mem_iff]
  rw [hmembers]
  obtain ⟨members, -, rfl⟩ := hordered
  exact Iff.rfl

theorem gatesAgree_iff_forall :
    GatesAgree database groupId context ↔
      (DeviceAdmitted database (extractContextSubject context).deviceId →
        ∀ ordered, Reordered database ordered →
          (FoundApproved ordered (extractContextSubject context).deviceId groupId ↔
            Eligible database groupId context)) := by
  unfold GatesAgree
  constructor
  · intro hagree hadmitted ordered hordered
    have hgates := hagree ordered hordered
    rw [canSync_iff, requireActiveMembership_iff, deviceAdmitted_reordered hordered, and_iff_right hadmitted,
      and_iff_right hadmitted, eligible_reordered hordered] at hgates
    exact hgates
  · intro hagree ordered hordered
    rw [canSync_iff, requireActiveMembership_iff, deviceAdmitted_reordered hordered]
    by_cases hadmitted : DeviceAdmitted database (extractContextSubject context).deviceId
    · rw [and_iff_right hadmitted, and_iff_right hadmitted, eligible_reordered hordered]
      exact hagree hadmitted ordered hordered
    · exact iff_of_false (fun hboth => hadmitted hboth.1) (fun hall => hadmitted hall.2.1)

theorem foundApproved_of_mem {row : SyncGroupMemberRow} {rest : List SyncGroupMemberRow}
    (hfirst : database.syncGroupMembers.select (isMembershipOf deviceId groupId) = row :: rest) :
    FoundApproved database deviceId groupId ↔ isApprovedOrActive row.status = true := by
  constructor
  · rintro ⟨found, others, hfound, hstatus⟩
    rw [hfirst] at hfound
    cases hfound
    exact hstatus
  · intro hstatus
    exact ⟨row, rest, hfirst, hstatus⟩

theorem FoundApproved.exists_member (hfound : FoundApproved ordered deviceId groupId)
    (hordered : Reordered database ordered) :
    ∃ row ∈ database.syncGroupMembers, isMembershipOf deviceId groupId row = true ∧
      isApprovedOrActive row.status = true := by
  obtain ⟨row, rest, hfirst, hstatus⟩ := hfound
  have hmem : row ∈ ordered.syncGroupMembers.select (isMembershipOf deviceId groupId) := by
    rw [hfirst]
    exact List.mem_cons_self
  rw [Table.mem_select, hordered.mem_iff] at hmem
  exact ⟨row, hmem.1, hmem.2, hstatus⟩

/-- The gates agree exactly when the device is not admitted, or none of its memberships in
the group counts, or all of them count and the second gate admits the subject. -/
theorem gates_agree_iff (database : AuthorizationDatabase) (groupId : String)
    (context : CallContext) :
    GatesAgree database groupId context ↔
      (DeviceAdmitted database (extractContextSubject context).deviceId →
        NoMembership (extractContextSubject context).deviceId groupId database ∨
          AllApproved database (extractContextSubject context).deviceId groupId ∧
            Eligible database groupId context) := by
  rw [gatesAgree_iff_forall]
  refine imp_congr_right fun _ => ?_
  constructor
  · intro hagree
    by_cases heligible : Eligible database groupId context
    · -- whichever row is found first, the first gate has to accept it
      right
      refine ⟨?_, heligible⟩
      intro row hrow hdevice hgroup
      have hmembership : isMembershipOf (extractContextSubject context).deviceId groupId row := by
        simp only [isMembershipOf, hdevice, hgroup, decide_true, Bool.and_self]
      obtain ⟨ordered, hordered, rest, hfirst⟩ := exists_reordered_first hrow hmembership
      have hcounts := (foundApproved_of_mem hfirst).mp ((hagree ordered hordered).mpr heligible)
      simpa only [isApprovedOrActive, Bool.or_eq_true, decide_eq_true_eq] using hcounts
    · left
      intro row hrow hmembership
      obtain ⟨ordered, hordered, rest, hfirst⟩ := exists_reordered_first hrow hmembership
      have hnotFound := mt (hagree ordered hordered).mp heligible
      rw [foundApproved_of_mem hfirst] at hnotFound
      exact Bool.eq_false_of_not_eq_true hnotFound
  · intro hcondition ordered hordered
    cases hcondition with
    | inl hnone =>
        apply iff_of_false
        · intro hfound
          obtain ⟨row, hrow, hmembership, hcounts⟩ := hfound.exists_member hordered
          rw [hnone row hrow hmembership] at hcounts
          cases hcounts
        · rintro ⟨-, row, hrow, hmembership, hcounts, -⟩
          rw [hnone row hrow hmembership] at hcounts
          cases hcounts
    | inr hall =>
        obtain ⟨hall, heligible⟩ := hall
        have hmember := heligible.2
        obtain ⟨row, hrow, hmembership, -⟩ := hmember
        exact iff_of_true (hall.foundApproved hrow hmembership hordered) heligible

/-! ## A device which was approved again -/

def memberContext : CallContext :=
  .operation "c" (some "u") "d" "org"

/-- After an approval, a revocation and another approval the second gate admits the device,
and the first one finds the row which was revoked. -/
theorem gates_disagree_after_revocation :
    ¬ ∀ start database : AuthorizationDatabase, start.syncGroupMembers.rows = [] →
      History Anything start database →
      ∀ (groupId : String) (context : CallContext),
        (∀ group ∈ database.syncGroups, group.id = groupId →
          group.organisationId = (extractContextSubject context).organisationId) →
        GatesAgree database groupId context := by
  intro hagree
  have hgates := hagree newGroup (databaseAfter approvedAgain) rfl
    (history_foldl approvedAgain newGroup) "g" memberContext
    (by
      intro group hgroup _
      rw [List.mem_singleton.mp hgroup]
      rfl)
    (databaseAfter approvedAgain) ⟨_, .refl _, rfl⟩
  have hadmitted : DeviceAdmitted (databaseAfter approvedAgain) "d" :=
    ⟨_, List.mem_cons_self, rfl, rfl⟩
  have hmember : MemberFor (databaseAfter approvedAgain) "g"
      (extractContextSubject memberContext) := by
    refine ⟨⟨"m2", "g", "d", none, "APPROVED", morning.iso, none, none, none⟩, ?_, rfl, rfl,
      Or.inl rfl⟩
    rw [Table.mem_def, approvedAgain_rows]
    simp
  have hopen : GroupOpen (databaseAfter approvedAgain) "g" "org" :=
    ⟨_, List.mem_cons_self, rfl, rfl, rfl⟩
  have hsecond := requireActiveMembership_iff.mpr ⟨hopen, hadmitted, hmember⟩
  have hfound := (canSync_iff.mp (hgates.mpr hsecond)).2
  obtain ⟨first, rest, hrows, hstatus⟩ := hfound
  have hselect : (databaseAfter approvedAgain).syncGroupMembers.select (isMembershipOf "d" "g") =
      [⟨"m1", "g", "d", none, "REVOKED", morning.iso, some morning.iso, some "u", some "lost"⟩,
        ⟨"m2", "g", "d", none, "APPROVED", morning.iso, none, none, none⟩] := by
    rw [Table.select, approvedAgain_rows]
    rfl
  have hfirst := (List.cons.inj (hselect.symm.trans hrows)).1
  rw [← hfirst] at hstatus
  exact absurd hstatus (by decide)

end SyncGroupService
end TauriPlatform
