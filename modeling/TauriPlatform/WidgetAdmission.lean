import TauriPlatform.NativeWidgets

/-!
# Sync groups and the native widget commands

A widget command reaches the rows of an organisation whatever their sync group is.  It
keeps to the groups of the session exactly where the rows which it is about already do.
-/

namespace TauriPlatform

open Async Relational SyncGroupService

namespace DurableDatabase

variable {toUppercase : String → String} {database later : WidgetDatabase}
  {principal : NativePrincipal}

/-! ## What a command asks for -/

def May (permission : String) (principal : NativePrincipal) (organisationId : String) : Prop :=
  principal.can permission = true ∧ principal.organisationId = organisationId

theorem authorizeWidget_cases (permission refused refusedOrganisation code organisationCode : String)
    (principal : NativePrincipal) (organisationId : String) :
    (authorizeWidget permission refused refusedOrganisation code organisationCode principal
        organisationId = .ok () ∧ May permission principal organisationId) ∨
      (∃ error, authorizeWidget permission refused refusedOrganisation code organisationCode
        principal organisationId = .error error ∧ ¬ May permission principal organisationId) := by
  unfold authorizeWidget
  by_cases hcan : principal.can permission = true
  · rw [if_neg (not_not.mpr hcan)]
    by_cases horganisation : principal.organisationId = organisationId
    · rw [if_neg (not_not.mpr horganisation)]
      exact .inl ⟨rfl, hcan, horganisation⟩
    · rw [if_pos horganisation]
      exact .inr ⟨_, rfl, fun hmay => horganisation hmay.2⟩
  · rw [if_pos hcan]
    exact .inr ⟨_, rfl, fun hmay => hcan hmay.1⟩

/-- The request passes every check of the command and of the database. -/
structure Accepted (toUppercase : String → String) (database : WidgetDatabase)
    (principal : NativePrincipal) (organisationId : String)
    (items : List NativeWidgetCreateItem) (rows : List WidgetRow) (audit : NativeReading) :
    Prop where
  may : May "widgets.create" principal organisationId
  valid : ∀ item ∈ items, isInvalid toUppercase item = false
  keysFree : KeysFree database rows
  eventFree : EventFree database s!"audit_native_{audit.nanos}"

/-- The rows which `create_widgets` inserts. -/
def widgetsOf (toUppercase : String → String) (widgets : Nat → NativeReading)
    (principal : NativePrincipal) (request : NativeWidgetBulkCreateRequest) : List WidgetRow :=
  newWidgets widgets principal request.organisationId request.syncGroupId 0
    (request.widgets.map (normalized toUppercase))

/-! ## What a command inserts -/

def Settles (accepted : Prop) (rows : List WidgetRow) (database later : WidgetDatabase) : Prop :=
  (accepted ∧ later.widgets.rows = database.widgets.rows ++ rows) ∨
    (¬ accepted ∧ later.widgets = database.widgets)

variable {rows : List WidgetRow}

theorem audited_settles {α β : Type} {insert : NativeTransaction WidgetDatabase α} (code : String)
    (event : AuditEventRow) (outcome : Except NativeError β)
    (hinsert : (∃ value widgets, insert database =
        .ok (value, { database with widgets := widgets }) ∧
      widgets.rows = database.widgets.rows ++ rows ∧ KeysFree database rows) ∨
      (∃ error, insert database = .error error ∧ ¬ KeysFree database rows)) :
    Settles (KeysFree database rows ∧ EventFree database event.id) rows database
      (transact (do
        let _ ← insert
        let _ ← runStatement code (insertAuditEvent event)
        pure outcome) database).2 := by
  rcases hinsert with ⟨value, widgets, hrun, hrows, hfree⟩ | ⟨error, hrun, hfree⟩
  · rcases insertAuditEvent_run { database with widgets := widgets } code event with
      ⟨events, haudit, hevent⟩ | ⟨error, haudit, hevent⟩
    · refine .inl ⟨⟨hfree, hevent⟩, ?_⟩
      rw [transact_ok ((bind_ok _ hrun).trans (bind_ok _ haudit))]
      exact hrows
    · refine .inr ⟨fun hboth => hevent hboth.2, ?_⟩
      rw [transact_error ((bind_ok _ hrun).trans (bind_error _ haudit))]
  · refine .inr ⟨fun hboth => hfree hboth.1, ?_⟩
    rw [transact_error (bind_error _ hrun)]

theorem Settles.imp {accepted accepted' : Prop} (hsettles : Settles accepted rows database later)
    (hiff : accepted ↔ accepted') :
    Settles accepted' rows database later := by
  rwa [Settles, ← hiff]

theorem createWidget_settles (widget audit : NativeReading) (request : NativeWidgetCreateRequest) :
    Settles
      (Accepted toUppercase database principal request.organisationId
        [request.toNativeWidgetCreateItem] [widgetOf toUppercase widget principal request] audit)
      [widgetOf toUppercase widget principal request] database
      (createWidget toUppercase widget audit principal request database).2 := by
  unfold createWidget
  rcases authorizeWidget_cases "widgets.create" _ _ _ _ principal request.organisationId with
    ⟨hauthorized, hmay⟩ | ⟨error, hauthorized, hmay⟩
  · rw [authorizeWidgetCreate, hauthorized]
    cases hinvalid : isInvalid toUppercase request.toNativeWidgetCreateItem with
    | true =>
        refine .inr ⟨fun haccepted => ?_, refusal_widgets _ _ _ _ _ _ _ _⟩
        have hvalid := haccepted.valid _ List.mem_cons_self
        rw [hinvalid] at hvalid
        cases hvalid
    | false =>
        refine (audited_settles _ _ _ ?_).imp ?_
        · rcases insertWidget_run database "widget_create_insert"
              (widgetOf toUppercase widget principal request) with
            ⟨widgets, hrun, hinserted⟩ | hrefused
          · exact .inl ⟨_, widgets, hrun, hinserted⟩
          · exact .inr hrefused
        · constructor
          · rintro ⟨hkeys, hevent⟩
            refine ⟨hmay, ?_, hkeys, hevent⟩
            intro item hitem
            rw [List.mem_singleton.mp hitem, hinvalid]
          · intro haccepted
            exact ⟨haccepted.keysFree, haccepted.eventFree⟩
  · rw [authorizeWidgetCreate, hauthorized]
    exact .inr ⟨fun haccepted => hmay haccepted.may, refusal_widgets _ _ _ _ _ _ _ _⟩

/-! ### Many widgets -/

theorem keysFree_append {rest : List WidgetRow}
    {widgets : Table WidgetRow (List String) widgetIndexes}
    (hrows : widgets.rows = database.widgets.rows ++ rows) :
    KeysFree { database with widgets := widgets } rest ↔ KeysFree database (rows ++ rest) := by
  simp only [KeysFree, hrows, List.append_assoc]

theorem KeysFree.left {rest : List WidgetRow} (hfree : KeysFree database (rows ++ rest)) :
    KeysFree database rows := by
  intro index hindex
  refine List.Nodup.sublist ?_ (hfree index hindex)
  rw [← List.append_assoc]
  exact (List.sublist_append_left _ _).filterMap index

/-- The `INSERT`s go through when no key is found twice in the end. -/
theorem insertWidgets_run (rows : List WidgetRow) (database : WidgetDatabase) :
    (∃ value widgets, insertWidgets rows database =
        .ok (value, { database with widgets := widgets }) ∧
      widgets.rows = database.widgets.rows ++ rows ∧ KeysFree database rows) ∨
    (∃ error, insertWidgets rows database = .error error ∧ ¬ KeysFree database rows) := by
  induction rows generalizing database with
  | nil =>
      refine .inl ⟨(), database.widgets, rfl, (List.append_nil _).symm, ?_⟩
      intro index hindex
      rw [List.append_nil]
      exact database.widgets.unique index hindex
  | cons row rest ih =>
      rcases insertWidget_run database "widget_bulk_create_insert" row with
        ⟨widgets, hrun, hrows, hfree⟩ | ⟨error, hrun, hfree⟩
      · rcases ih { database with widgets := widgets } with
          ⟨value, later, hrest, hlater, hkeys⟩ | ⟨error, hrest, hkeys⟩
        · refine .inl ⟨value, later, (bind_ok _ hrun).trans hrest, ?_,
            (keysFree_append hrows).mp hkeys⟩
          rw [hlater, hrows, List.append_assoc]
          rfl
        · refine .inr ⟨error, (bind_ok _ hrun).trans hrest, ?_⟩
          intro hall
          exact hkeys ((keysFree_append hrows).mpr hall)
      · refine .inr ⟨error, bind_error _ hrun, ?_⟩
        intro hall
        have hfirst : KeysFree database ([row] ++ rest) := hall
        exact hfree hfirst.left

theorem mapM_normalizeWidgetItem (toUppercase : String → String)
    (items : List NativeWidgetCreateItem) :
    (items.mapM (normalizeWidgetItem toUppercase) = .ok (items.map (normalized toUppercase)) ∧
        ∀ item ∈ items, isInvalid toUppercase item = false) ∨
      (∃ error, items.mapM (normalizeWidgetItem toUppercase) = .error error ∧
        ¬ ∀ item ∈ items, isInvalid toUppercase item = false) := by
  induction items with
  | nil => exact .inl ⟨rfl, by simp⟩
  | cons item rest ih =>
      rw [List.mapM_cons, normalizeWidgetItem]
      cases hinvalid : isInvalid toUppercase item with
      | true =>
          refine .inr ⟨_, rfl, ?_⟩
          intro hvalid
          rw [hvalid item List.mem_cons_self] at hinvalid
          cases hinvalid
      | false =>
          rcases ih with ⟨hrest, hvalid⟩ | ⟨error, hrest, hvalid⟩
          · rw [hrest]
            exact .inl ⟨rfl, List.forall_mem_cons.mpr ⟨hinvalid, hvalid⟩⟩
          · rw [hrest]
            refine .inr ⟨error, rfl, ?_⟩
            intro hall
            exact hvalid fun other hother => hall other (List.mem_cons_of_mem _ hother)

theorem createWidgets_settles (widgets : Nat → NativeReading) (audit : NativeReading)
    (request : NativeWidgetBulkCreateRequest) :
    Settles
      (Accepted toUppercase database principal request.organisationId request.widgets
        (widgetsOf toUppercase widgets principal request) audit)
      (widgetsOf toUppercase widgets principal request) database
      (createWidgets toUppercase widgets audit principal request database).2 := by
  unfold createWidgets
  rcases authorizeWidget_cases "widgets.create" _ _ _ _ principal request.organisationId with
    ⟨hauthorized, hmay⟩ | ⟨error, hauthorized, hmay⟩
  · rw [authorizeWidgetCreate, hauthorized]
    dsimp only
    rcases mapM_normalizeWidgetItem toUppercase request.widgets with
      ⟨hitems, hvalid⟩ | ⟨error, hitems, hvalid⟩
    · rw [hitems]
      refine (audited_settles _ _ _ (insertWidgets_run _ _)).imp ?_
      constructor
      · rintro ⟨hkeys, hevent⟩
        exact ⟨hmay, hvalid, hkeys, hevent⟩
      · intro haccepted
        exact ⟨haccepted.keysFree, haccepted.eventFree⟩
    · rw [hitems]
      exact .inr ⟨fun haccepted => hvalid haccepted.valid, refusal_widgets _ _ _ _ _ _ _ _⟩
  · rw [authorizeWidgetCreate, hauthorized]
    exact .inr ⟨fun haccepted => hmay haccepted.may, rfl⟩

/-! ## The rows which a command reaches -/

/-- The commands on widgets, with the readings of the clock for the rows which they add. -/
inductive WidgetCommand where
  | list (organisationId : String)
  | create (widget audit : NativeReading) (request : NativeWidgetCreateRequest)
  | createMany (widgets : Nat → NativeReading) (audit : NativeReading)
      (request : NativeWidgetBulkCreateRequest)

def Reaches (toUppercase : String → String) (principal : NativePrincipal)
    (database : WidgetDatabase) : WidgetCommand → WidgetRow → Prop
  | .list organisationId, row =>
      row ∈ database.widgets ∧
        ∃ records, listWidgets principal organisationId database = .ok records ∧
          ∃ record ∈ records, record.id = row.id
  | .create widget audit request, row =>
      row ∉ database.widgets ∧
        row ∈ (createWidget toUppercase widget audit principal request database).2.widgets
  | .createMany widgets audit request, row =>
      row ∉ database.widgets ∧
        row ∈ (createWidgets toUppercase widgets audit principal request database).2.widgets

/-- Every row reached is in a group in which the session is an active member. -/
def RespectsGroups (toUppercase : String → String) (correlationId : String)
    (principal : NativePrincipal) (database : WidgetDatabase) (command : WidgetCommand) : Prop :=
  ∀ row, Reaches toUppercase principal database command row →
    ((requireActiveMembership (connectionExecutor AuthorizationDatabase)
      (.operation correlationId (some principal.userId) principal.deviceId
        principal.organisationId) row.syncGroupId).run memoryConnection
          database.toAuthorizationDatabase).1 = .ok ()

/-- The group is open, and the session's device and user are members of it. -/
def Belongs (principal : NativePrincipal) (database : WidgetDatabase) (groupId : String) : Prop :=
  GroupOpen database.toAuthorizationDatabase groupId principal.organisationId ∧
    DeviceAdmitted database.toAuthorizationDatabase principal.deviceId ∧
      MemberFor database.toAuthorizationDatabase groupId
        ⟨some principal.userId, principal.deviceId, principal.organisationId⟩

def KeepsToGroups (toUppercase : String → String) (principal : NativePrincipal)
    (database : WidgetDatabase) : WidgetCommand → Prop
  | .list organisationId =>
      May "widgets.read" principal organisationId →
        ∀ row ∈ database.widgets, row.organisationId = organisationId → row.deletedAt = none →
          Belongs principal database row.syncGroupId
  | .create widget audit request =>
      Accepted toUppercase database principal request.organisationId
          [request.toNativeWidgetCreateItem] [widgetOf toUppercase widget principal request]
          audit →
        Belongs principal database request.syncGroupId
  | .createMany widgets audit request =>
      Accepted toUppercase database principal request.organisationId request.widgets
          (widgetsOf toUppercase widgets principal request) audit →
        request.widgets ≠ [] → Belongs principal database request.syncGroupId

variable {organisationId : String}

theorem listWidgets_eq_ok_iff {records : List NativeWidgetRecord} :
    listWidgets principal organisationId database = .ok records ↔
      May "widgets.read" principal organisationId ∧
        records = (Table.orderBy WidgetRow.before (database.widgets.select fun row =>
          row.organisationId = organisationId && row.deletedAt = none)).map WidgetRow.record := by
  unfold listWidgets authorizeWidgetRead
  rcases authorizeWidget_cases "widgets.read" "You are not authorized to view widgets"
      "You are not authorized to view this organisation" "widget_read_permission_denied"
      "widget_read_scope_denied" principal organisationId with
    ⟨hauthorized, hmay⟩ | ⟨error, hauthorized, hmay⟩
  · rw [hauthorized, and_iff_right hmay]
    constructor
    · intro hrecords
      cases hrecords
      rfl
    · intro hrecords
      rw [hrecords]
      rfl
  · rw [hauthorized]
    constructor
    · intro hrecords
      cases hrecords
    · rintro ⟨hallowed, -⟩
      exact absurd hallowed hmay

variable {row : WidgetRow}

theorem reaches_list_iff :
    Reaches toUppercase principal database (.list organisationId) row ↔
      May "widgets.read" principal organisationId ∧ row ∈ database.widgets ∧
        row.organisationId = organisationId ∧ row.deletedAt = none := by
  simp only [Reaches, listWidgets_eq_ok_iff]
  constructor
  · rintro ⟨hrow, records, ⟨hmay, rfl⟩, record, hrecord, hid⟩
    obtain ⟨found, hfound, rfl⟩ := List.mem_map.mp hrecord
    obtain ⟨hmem, hselected⟩ := Table.mem_select.mp (Table.mem_orderBy.mp hfound)
    have hsame : found = row :=
      Table.eq_of_key_eq (fun row : WidgetRow => some [row.id]) List.mem_cons_self hmem hrow
        rfl (congrArg (fun id => some [id]) hid.symm)
    subst hsame
    simp only [Bool.and_eq_true, decide_eq_true_eq] at hselected
    exact ⟨hmay, hmem, hselected⟩
  · rintro ⟨hmay, hrow, hselected⟩
    refine ⟨hrow, _, ⟨hmay, rfl⟩, row.record, ?_, rfl⟩
    apply List.mem_map_of_mem
    apply Table.mem_orderBy.mpr
    exact Table.mem_select.mpr ⟨hrow, by simpa using hselected⟩

theorem Settles.mem_iff {accepted : Prop} (hsettles : Settles accepted rows database later) :
    row ∉ database.widgets ∧ row ∈ later.widgets ↔ accepted ∧ row ∈ rows := by
  rcases hsettles with ⟨haccepted, hrows⟩ | ⟨hrefused, hsame⟩
  · rw [and_iff_right haccepted, Table.mem_def, Table.mem_def, hrows, List.mem_append]
    constructor
    · rintro ⟨hnew, hold | hadded⟩
      · exact absurd hold hnew
      · exact hadded
    · intro hadded
      refine ⟨?_, .inr hadded⟩
      intro hold
      have hunique := later.widgets.unique _ List.mem_cons_self
      rw [hrows, List.filterMap_append, List.nodup_append] at hunique
      exact hunique.2.2 [row.id] (List.mem_filterMap.mpr ⟨row, hold, rfl⟩) [row.id]
        (List.mem_filterMap.mpr ⟨row, hadded, rfl⟩) rfl
  · rw [hsame]
    exact iff_of_false (fun hboth => hboth.1 hboth.2) (fun hboth => hrefused hboth.1)

theorem syncGroupId_of_mem_newWidgets {widgets : Nat → NativeReading} {syncGroupId : String}
    {count : Nat} {items : List NativeWidgetCreateItem}
    (hrow : row ∈ newWidgets widgets principal organisationId syncGroupId count items) :
    row.syncGroupId = syncGroupId := by
  induction items generalizing count with
  | nil => cases hrow
  | cons item rest ih =>
      rcases List.mem_cons.mp hrow with rfl | hrest
      · rfl
      · exact ih hrest

/-- A command keeps to the groups of the session exactly where the widgets of the
organisation, or the group which the request names, already do. -/
theorem respectsGroups_iff (toUppercase : String → String) (correlationId : String)
    (principal : NativePrincipal) (database : WidgetDatabase) (command : WidgetCommand) :
    RespectsGroups toUppercase correlationId principal database command ↔
      KeepsToGroups toUppercase principal database command := by
  unfold RespectsGroups
  simp only [requireActiveMembership_iff, extractContextSubject]
  change (∀ row : WidgetRow, _ → Belongs principal database row.syncGroupId) ↔ _
  cases command with
  | list organisationId =>
      simp only [reaches_list_iff, KeepsToGroups]
      constructor
      · intro hrespects hmay row hrow horganisation hlive
        exact hrespects row ⟨hmay, hrow, horganisation, hlive⟩
      · rintro hkeeps row ⟨hmay, hrow, horganisation, hlive⟩
        exact hkeeps hmay row hrow horganisation hlive
  | create widget audit request =>
      simp only [Reaches, (createWidget_settles widget audit request).mem_iff, KeepsToGroups,
        List.mem_singleton]
      constructor
      · intro hrespects haccepted
        exact hrespects _ ⟨haccepted, rfl⟩
      · rintro hkeeps row ⟨haccepted, rfl⟩
        exact hkeeps haccepted
  | createMany widgets audit request =>
      simp only [Reaches, (createWidgets_settles widgets audit request).mem_iff, KeepsToGroups]
      constructor
      · intro hrespects haccepted hnonempty
        obtain ⟨item, rest, hitems⟩ := List.exists_cons_of_ne_nil hnonempty
        refine hrespects (newWidget (widgets 0) principal request.organisationId
          request.syncGroupId (normalized toUppercase item)) ⟨haccepted, ?_⟩
        rw [widgetsOf, hitems]
        exact List.mem_cons_self
      · rintro hkeeps row ⟨haccepted, hrow⟩
        rw [syncGroupId_of_mem_newWidgets hrow]
        apply hkeeps haccepted
        intro hempty
        rw [widgetsOf, hempty] at hrow
        cases hrow

def widgetCreator : NativePrincipal where
  userId := "u"
  deviceId := "d"
  organisationId := "org"
  permissions := ["widgets.create"]

def unknownGroupRequest : NativeWidgetCreateRequest where
  name := "W"
  sku := "S"
  quantity := 1
  description := none
  organisationId := "org"
  syncGroupId := "unknown"
  correlationId := "c"

/-- A widget is created in a group which does not exist. -/
theorem widget_of_unknown_group_created :
    ¬ ∀ (toUppercase : String → String) (correlationId : String) (principal : NativePrincipal)
      (database : WidgetDatabase) (command : WidgetCommand),
      RespectsGroups toUppercase correlationId principal database command := by
  intro hrespects
  have haccepted : Accepted id {} widgetCreator unknownGroupRequest.organisationId
      [unknownGroupRequest.toNativeWidgetCreateItem]
      [widgetOf id ⟨1, 1⟩ widgetCreator unknownGroupRequest] ⟨2, 1⟩ := {
    may := ⟨by decide, rfl⟩
    valid := by decide +kernel
    keysFree := by
      intro index hindex
      change ([widgetOf id ⟨1, 1⟩ widgetCreator unknownGroupRequest].filterMap index).Nodup
      cases hkey : index (widgetOf id ⟨1, 1⟩ widgetCreator unknownGroupRequest) with
      | none => simp [hkey]
      | some key => simp [hkey]
    eventFree := by
      intro event hevent
      cases hevent }
  have hreached := (createWidget_settles ⟨1, 1⟩ ⟨2, 1⟩ unknownGroupRequest).mem_iff.mpr
    ⟨haccepted, List.mem_singleton_self _⟩
  have hmember := hrespects id "c" widgetCreator {}
    (.create ⟨1, 1⟩ ⟨2, 1⟩ unknownGroupRequest) _ hreached
  obtain ⟨⟨group, hgroup, -⟩, -⟩ := requireActiveMembership_iff.mp hmember
  cases hgroup

end DurableDatabase
end TauriPlatform
