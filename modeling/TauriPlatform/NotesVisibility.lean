import TauriPlatform.NotesService
import TauriPlatform.SyncGates
import TauriPlatform.SingleRows

/-!
# Which notes are listed, and which are read

The SQL of a list asks for the group and the membership of each note in subqueries;
`getNote` fetches the row and asks `requireActiveMembership`.  Both admit the same notes.
-/

namespace TauriPlatform.NotesService

open Async Relational NotesRepository SyncGroupService

/-! ## What is visible -/

section Visible

variable {database : AuthorizationDatabase} {subject : ContextSubject} {note : NoteRecord}

theorem groupExists_iff (horganisation : note.organisationId = subject.organisationId) :
    groupExists database note = true ↔
      GroupOpen database note.syncGroupId subject.organisationId := by
  simp only [groupExists, GroupOpen, List.any_eq_true, Bool.and_eq_true, decide_eq_true_eq,
    and_assoc, Table.mem_def, horganisation]

theorem membershipExists_iff :
    membershipExists database subject.deviceId subject.userId note = true ↔
      DeviceAdmitted database subject.deviceId ∧ MemberFor database note.syncGroupId subject := by
  simp only [membershipExists, DeviceAdmitted, MemberFor, isMembershipOf, isApprovedOrActive,
    List.any_eq_true, Bool.and_eq_true, Bool.or_eq_true, decide_eq_true_eq, Table.mem_def]
  constructor
  · rintro ⟨member, hmember, device, hdevice, hjoined⟩
    obtain ⟨⟨⟨⟨⟨hid, hgroup⟩, hmemberId⟩, hmemberStatus⟩, hdeviceStatus⟩, huser⟩ := hjoined
    exact ⟨⟨device, hdevice, hid.trans hmemberId, hdeviceStatus⟩,
      ⟨member, hmember, ⟨hmemberId, hgroup⟩, hmemberStatus, huser⟩⟩
  · rintro ⟨⟨device, hdevice, hid, hdeviceStatus⟩,
      ⟨member, hmember, ⟨hmemberId, hgroup⟩, hmemberStatus, huser⟩⟩
    exact ⟨member, hmember, device, hdevice,
      ⟨⟨⟨⟨⟨hid.trans hmemberId.symm, hgroup⟩, hmemberId⟩, hmemberStatus⟩, hdeviceStatus⟩, huser⟩⟩

end Visible

/-! ## Reading through an executor -/

section Reading

variable {Call : Type → Type 1} {handler : Program.Handler Call Thrown NotesDatabase}
  {executor : Executor NotesDatabase Call} {database : NotesDatabase} {context : CallContext}

/-- Every read is answered from the database as it is: on the connection, and on the client of
a transaction. -/
def AnswersAsIs (executor : Executor NotesDatabase Call)
    (handler : Program.Handler Call Thrown NotesDatabase) : Prop :=
  ∀ database, executor.AnswersFrom handler database database

theorem AnswersAsIs.readsOnly (hanswers : AnswersAsIs executor handler) :
    executor.ReadsOnly handler :=
  readsOnly_of_answers fun database => ⟨database, hanswers database⟩

theorem requirePermission_keeps (hreads : executor.ReadsOnly handler) (permission : String) :
    (requirePermission executor context permission).Keeps handler id := by
  have hpart := hreads.within NotesDatabase.authorizationPart
  have hrequire : ∀ (subject : Subject) (resource : Option ResourceScope),
      (AuthorizationEngine.require (executor.within NotesDatabase.authorizationPart) subject
        permission resource).Keeps handler id := by
    intro subject resource
    refine Program.Keeps.bind ?_ fun decision => ?_
    · unfold AuthorizationEngine.can
      split_ifs
      · exact Program.keeps_pure _
      · exact ((hpart.query rfl).bind fun rows => Program.keeps_pure _).bind
          fun permissions => Program.keeps_pure _
    · cases decision with
      | granted => exact Program.keeps_pure _
      | denied reason code => exact Program.keeps_throw _
  cases context with
  | trusted correlationId principal => exact hrequire _ _
  | operation correlationId userId deviceId organisationId =>
      unfold requirePermission
      dsimp only
      cases userId.filter (· ≠ "") with
      | none => exact Program.keeps_throw _
      | some userId => exact (hpart.query rfl).bind fun roles => hrequire _ _

theorem requireActiveMembership_iff (hanswers : AnswersAsIs executor handler)
    (groupId : String) :
    ((requireActiveMembership executor context groupId).run handler database).1 = .ok () ↔
      GroupOpen database.authorization groupId (extractContextSubject context).organisationId ∧
        DeviceAdmitted database.authorization (extractContextSubject context).deviceId ∧
          MemberFor database.authorization groupId (extractContextSubject context) :=
  requireActiveMembership_of_answers ((hanswers database).within NotesDatabase.authorizationPart)

theorem requireActiveMembership_run (hanswers : AnswersAsIs executor handler)
    {groupId : String} {outcome : Except Thrown Unit}
    (houtcome : ((requireActiveMembership executor context groupId).run handler database).1 =
      outcome) :
    (requireActiveMembership executor context groupId).run handler database =
      (outcome, database) :=
  (requireActiveMembership_keeps (hanswers.readsOnly.within _)).run_eq houtcome

def listed (database : NotesDatabase) (subject : ContextSubject) : List NoteRecord :=
  newestFirst (database.notes.select fun row =>
    row.organisationId = subject.organisationId && row.deletedAt.isNone &&
      groupExists database.authorization row &&
      membershipExists database.authorization subject.deviceId subject.userId row)

theorem listed_of_group (hanswers : AnswersAsIs executor handler) {groupId : String}
    (hactive : ((requireActiveMembership executor context groupId).run handler database).1 =
      .ok ()) :
    (newestFirst (database.notes.select fun row =>
      row.syncGroupId = groupId &&
        row.organisationId = (extractContextSubject context).organisationId &&
        row.deletedAt.isNone)).Perm
      ((listed database (extractContextSubject context)).filter fun note =>
        note.syncGroupId = groupId) := by
  obtain ⟨hopen, hmember⟩ := (requireActiveMembership_iff hanswers groupId).mp hactive
  refine (List.perm_insertionSort _ _).trans
    (List.Perm.trans ?_ ((List.perm_insertionSort _ _).filter _).symm)
  simp only [Table.select, List.filter_filter]
  refine List.Perm.of_eq (List.filter_congr fun note _ => ?_)
  rw [Bool.eq_iff_iff]
  simp only [Bool.and_eq_true, decide_eq_true_eq]
  constructor
  · rintro ⟨⟨hgroup, horganisation⟩, hkept⟩
    rw [← hgroup] at hopen hmember
    exact ⟨hgroup, ⟨⟨horganisation, hkept⟩, (groupExists_iff horganisation).mpr hopen⟩,
      membershipExists_iff.mpr hmember⟩
  · rintro ⟨hgroup, ⟨⟨horganisation, hkept⟩, -⟩, -⟩
    exact ⟨⟨hgroup, horganisation⟩, hkept⟩

section Granted

variable (hanswers : AnswersAsIs executor handler)
  (hgranted : ((requirePermission executor context "notes.read").run handler database).1 = .ok ())
include hanswers hgranted

theorem listNotes_run_none :
    (listNotes executor context none).run handler database =
      (.ok (listed database (extractContextSubject context)), database) := by
  rw [listNotes, Program.run_bind_ok _ ((requirePermission_keeps hanswers.readsOnly _).run_eq
    hgranted)]
  exact (hanswers database).read _ _ _ _

theorem listNotes_run_some {groupId : String} (hgroupId : groupId ≠ "")
    (hactive : ((requireActiveMembership executor context groupId).run handler database).1 =
      .ok ()) :
    (listNotes executor context (some groupId)).run handler database =
      (.ok (newestFirst (database.notes.select fun row =>
        row.syncGroupId = groupId &&
          row.organisationId = (extractContextSubject context).organisationId &&
          row.deletedAt.isNone)), database) := by
  rw [listNotes, Program.run_bind_ok _ ((requirePermission_keeps hanswers.readsOnly _).run_eq
    hgranted)]
  have hsome : (some groupId).filter (fun id => decide (id ≠ "")) = some groupId := by
    simp [hgroupId]
  simp only [hsome]
  rw [Program.run_bind_ok _ (requireActiveMembership_run hanswers hactive)]
  exact (hanswers database).read _ _ _ _

/-- A note is read when its row is one of the organisation which is not deleted, and the gate of
its group lets the subject through. -/
theorem getNote_iff (note : NoteRecord) :
    ((getNote executor context note.id).run handler database).1 = .ok (some note) ↔
      note ∈ database.notes ∧
        note.organisationId = (extractContextSubject context).organisationId ∧
        note.deletedAt.isNone = true ∧
        ((requireActiveMembership executor context note.syncGroupId).run handler database).1 =
          .ok () := by
  have hquery : (executor.query (findByIdWithinOrganisation note.id
      (extractContextSubject context).organisationId)).run handler database =
        (.ok ((database.notes.select fun row =>
          row.id = note.id &&
            row.organisationId = (extractContextSubject context).organisationId &&
            row.deletedAt.isNone).take 1), database) :=
    (hanswers database).read _ _ _ _
  rw [getNote, Program.run_bind_ok _ ((requirePermission_keeps hanswers.readsOnly _).run_eq
    hgranted), Program.run_bind_ok _ hquery]
  cases hrows : database.notes.select fun row =>
      row.id = note.id && row.organisationId = (extractContextSubject context).organisationId &&
        row.deletedAt.isNone with
  | nil =>
      constructor
      · intro hread
        cases hread
      · rintro ⟨hmem, horganisation, hkept, -⟩
        have hselected := List.filter_eq_nil_iff.mp hrows note hmem
        simp [horganisation, hkept] at hselected
  | cons first rest =>
      have hfirst : first ∈ database.notes.select fun row =>
          row.id = note.id &&
            row.organisationId = (extractContextSubject context).organisationId &&
            row.deletedAt.isNone := by
        rw [hrows]
        exact List.mem_cons_self
      simp only [Table.mem_select, Bool.and_eq_true, decide_eq_true_eq] at hfirst
      obtain ⟨hmem, ⟨hid, horganisation⟩, hkept⟩ := hfirst
      have hsame : note ∈ database.notes → first = note := by
        intro hnote
        exact Table.eq_of_key_eq (fun row : NoteRecord => some row.id) List.mem_cons_self hmem
          hnote (congrArg some hid) rfl
      dsimp only [List.take_succ_cons, List.take_zero]
      cases hgate : ((requireActiveMembership executor context first.syncGroupId).run handler
          database).1 with
      | ok value =>
          rw [Program.run_bind_ok _ (requireActiveMembership_run hanswers hgate)]
          constructor
          · intro hread
            cases hread
            exact ⟨hmem, horganisation, hkept, hgate⟩
          · rintro ⟨hnote, -⟩
            rw [hsame hnote]
            rfl
      | error error =>
          rw [Program.run_bind_error _ (requireActiveMembership_run hanswers hgate)]
          constructor
          · intro hread
            cases hread
          · rintro ⟨hnote, -, -, hopen⟩
            rw [hsame hnote, hopen] at hgate
            cases hgate

theorem mem_listed_iff {note : NoteRecord} :
    note ∈ listed database (extractContextSubject context) ↔
      ((getNote executor context note.id).run handler database).1 = .ok (some note) := by
  rw [getNote_iff hanswers hgranted, requireActiveMembership_iff hanswers, listed, newestFirst,
    Table.mem_orderBy, Table.mem_select]
  simp only [Bool.and_eq_true, decide_eq_true_eq, and_assoc]
  refine and_congr_right fun _ => and_congr_right fun horganisation => ?_
  rw [groupExists_iff horganisation, membershipExists_iff]

end Granted

end Reading

/-! ## A group without a name -/

/-- A user who may do anything with notes, on an approved device in the group `g`. -/
def office : NotesDatabase where
  authorization :=
    { users := .single ⟨"u", "org", "ACTIVE", none, 0, none⟩
      roles := .single ⟨"r", "org"⟩
      permissions := .single ⟨"p", "*"⟩
      rolePermissions := .single ⟨"rp", "r", "p", none⟩
      userRoles := .single ⟨"ur", "u", "r", "org"⟩
      syncGroups := .single ⟨"g", "org", "ACTIVE"⟩
      syncGroupMembers :=
        .single ⟨"m", "g", "d", none, "APPROVED", "2026", none, none, none⟩
      devices :=
        .single ⟨"dr", "2026", "2026", none, "d", "ed25519_pk_d", "linux", "app", "APPROVED",
            "2026", none, false⟩ }

def officeUser : CallContext :=
  .operation "c" (some "u") "d" "org"

def fieldNote (id syncGroupId : String) : NoteRecord :=
  ⟨id, "2026", "2026", "org", syncGroupId, "Fence", "Broken", "u", none, none, none⟩

def namelessGroup : NotesDatabase where
  authorization :=
    { office.authorization with
      syncGroups :=
        { rows := [⟨"g", "org", "ACTIVE"⟩, ⟨"", "org", "ACTIVE"⟩], unique := by decide }
      syncGroupMembers :=
        { rows := [⟨"m", "g", "d", none, "APPROVED", "2026", none, none, none⟩,
            ⟨"m'", "", "d", none, "ACTIVE", "2026", none, none, none⟩]
          unique := by decide } }
  notes := { rows := [fieldNote "n1" "g", fieldNote "n2" ""], unique := by decide }

theorem answersAsIs_connection : AnswersAsIs (connectionExecutor NotesDatabase) memoryConnection :=
  answersFrom_connection

theorem answersAsIs_transaction :
    AnswersAsIs (transactionExecutor NotesDatabase) memoryTransaction :=
  answersFrom_transaction

theorem namelessGroup_granted :
    ((requirePermission (connectionExecutor NotesDatabase) officeUser "notes.read").run
      memoryConnection namelessGroup).1 = .ok () := by
  rfl

/-! ## Agreement -/

variable {Call : Type → Type 1} {handler : Program.Handler Call Thrown NotesDatabase}
  {executor : Executor NotesDatabase Call} {database : NotesDatabase} {context : CallContext}

/-- The notes which are listed without a group are those which can be read, and the list of a
group with a name has the ones of that group. -/
theorem lists_agree_with_reads (hanswers : AnswersAsIs executor handler)
    (hgranted : ((requirePermission executor context "notes.read").run handler database).1 =
      .ok ()) :
    ∃ notes, (listNotes executor context none).run handler database = (.ok notes, database) ∧
      (∀ note, note ∈ notes ↔
        ((getNote executor context note.id).run handler database).1 = .ok (some note)) ∧
      ∀ groupId, groupId ≠ "" →
        ((requireActiveMembership executor context groupId).run handler database).1 = .ok () →
          ∃ ofGroup,
            (listNotes executor context (some groupId)).run handler database =
              (.ok ofGroup, database) ∧
            ofGroup.Perm (notes.filter fun note => note.syncGroupId = groupId) := by
  refine ⟨_, listNotes_run_none hanswers hgranted, fun note => mem_listed_iff hanswers hgranted,
    ?_⟩
  intro groupId hgroupId hactive
  exact ⟨_, listNotes_run_some hanswers hgranted hgroupId hactive,
    listed_of_group hanswers hactive⟩

theorem lists_agree_with_reads_office :
    ∃ notes, (listNotes (connectionExecutor NotesDatabase) officeUser none).run memoryConnection
        namelessGroup = (.ok notes, namelessGroup) ∧
      (∀ note, note ∈ notes ↔ ((getNote (connectionExecutor NotesDatabase) officeUser note.id).run
        memoryConnection namelessGroup).1 = .ok (some note)) ∧
      ∃ ofGroup, (listNotes (connectionExecutor NotesDatabase) officeUser (some "g")).run
          memoryConnection namelessGroup = (.ok ofGroup, namelessGroup) ∧
        ofGroup.Perm (notes.filter fun note => note.syncGroupId = "g") := by
  obtain ⟨notes, hlisted, hread, hgroup⟩ := lists_agree_with_reads
    answersAsIs_connection namelessGroup_granted
  exact ⟨notes, hlisted, hread, hgroup "g" (by decide) (by rfl)⟩

/-- Asked for the notes of the group without a name, the list has those of the other one too. -/
theorem lists_disagree_nameless :
    ¬ ∀ (database : NotesDatabase) (context : CallContext) (notes : List NoteRecord),
      ((requirePermission (connectionExecutor NotesDatabase) context "notes.read").run
        memoryConnection database).1 = .ok () →
      ((listNotes (connectionExecutor NotesDatabase) context none).run memoryConnection
        database).1 = .ok notes →
      ∀ groupId, ((requireActiveMembership (connectionExecutor NotesDatabase) context
          groupId).run memoryConnection database).1 = .ok () →
        ∃ ofGroup, ((listNotes (connectionExecutor NotesDatabase) context (some groupId)).run
            memoryConnection database).1 = .ok ofGroup ∧
          ofGroup.Perm (notes.filter fun note => note.syncGroupId = groupId) := by
  intro hagree
  obtain ⟨ofGroup, hlisted, hperm⟩ := hagree namelessGroup officeUser
    [fieldNote "n1" "g", fieldNote "n2" ""] namelessGroup_granted (by rfl) "" (by rfl)
  have hboth : ofGroup = [fieldNote "n1" "g", fieldNote "n2" ""] :=
    Except.ok.inj (hlisted.symm.trans (by rfl))
  rw [hboth] at hperm
  exact absurd hperm.length_eq (by decide)

end TauriPlatform.NotesService
