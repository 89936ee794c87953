import TauriPlatform.NativeAuthentication
import TauriPlatform.SyncGates

/-!
# The native widget commands

`list_widgets`, `create_widget` and `create_widgets` ask the principal for a permission and
for its organisation.  `WidgetService` also asks for an active membership in the sync group
of the widgets; the native commands do so where the caller has arranged for it.
-/

namespace TauriPlatform

open Async Relational SyncGroupService

/-! ## The table -/

structure WidgetRow where
  id : String
  createdAt : String
  updatedAt : String
  createdBy : Option String
  updatedBy : Option String
  entityId : String
  organisationId : String
  syncGroupId : String
  schemaVersion : Int
  syncVersion : Int
  deletedAt : Option String
  dataClassification : Option String
  name : String
  sku : String
  quantity : Int
  description : Option String
  deriving DecidableEq

/-- An SKU is unique among the widgets of an organisation which are not deleted. -/
def widgetIndexes : List (UniqueIndex WidgetRow (List String)) :=
  [fun row => some [row.id], fun row => some [row.entityId],
    fun row => if row.deletedAt = none then some [row.organisationId, row.sku] else none]

structure WidgetDatabase extends AuthorizationDatabase where
  widgets : Table WidgetRow (List String) widgetIndexes := Table.empty

/-- `ORDER BY name ASC, id ASC`. -/
def WidgetRow.before (left right : WidgetRow) : Prop :=
  left.name < right.name ∨ left.name = right.name ∧ left.id ≤ right.id

instance : DecidableRel WidgetRow.before :=
  fun left right =>
    inferInstanceAs (Decidable (left.name < right.name ∨ left.name = right.name ∧ left.id ≤ right.id))

structure NativeWidgetRecord where
  id : String
  organisationId : String
  name : String
  sku : String
  quantity : Int
  deletedAt : Option String

def WidgetRow.record (row : WidgetRow) : NativeWidgetRecord where
  id := row.id
  organisationId := row.organisationId
  name := row.name
  sku := row.sku
  quantity := row.quantity
  deletedAt := row.deletedAt

namespace DurableDatabase

def findWidgets (organisationId : String) : Statement WidgetDatabase WidgetRow where
  sql := "SELECT id, organisation_id, name, sku, quantity, deleted_at
                 FROM widgets
                 WHERE organisation_id = ?1 AND deleted_at IS NULL
                 ORDER BY name ASC, id ASC"
  params := [.string organisationId]
  columns := [⟨"id", fun row => .text row.id⟩,
    ⟨"organisation_id", fun row => .text row.organisationId⟩,
    ⟨"name", fun row => .text row.name⟩, ⟨"sku", fun row => .text row.sku⟩,
    ⟨"quantity", fun row => .integer row.quantity⟩,
    ⟨"deleted_at", fun row => .ofText? row.deletedAt⟩]
  effect := .read fun database =>
    Table.orderBy WidgetRow.before (database.widgets.select fun row =>
      row.organisationId = organisationId && row.deletedAt = none)

def insertWidget (row : WidgetRow) : Statement WidgetDatabase Unit where
  sql := "INSERT INTO widgets
                 (id, created_at, updated_at, created_by, updated_by, entity_id,
                  organisation_id, sync_group_id, schema_version, sync_version,
                  data_classification, name, sku, quantity, description)
                 VALUES (?1, ?2, ?2, ?3, ?3, ?1, ?4, ?5, 1, 1, 'INTERNAL', ?6, ?7, ?8, ?9)"
  params := [.string row.id, .string row.createdAt, .ofString? row.createdBy,
    .string row.organisationId, .string row.syncGroupId, .string row.name, .string row.sku,
    .number (.integer row.quantity), .ofString? row.description]
  columns := []
  effect := .write fun database =>
    match database.widgets.insert? row with
    | none => .error "UNIQUE constraint failed: widgets"
    | some later =>
        .ok { database := { database with widgets := later }, rows := [], rowsAffected := 1 }

def insertAuditEvent (row : AuditEventRow) : Statement WidgetDatabase Unit where
  sql := "INSERT INTO core_audit_events
                 (id, event_type, user_id, device_id, organisation_id,
                  correlation_id, timestamp, metadata_json)
                 VALUES (?1, ?2, ?3, ?4, ?5, ?6, ?7, ?8)"
  params := [.string row.id, .string row.eventType, .ofString? row.userId,
    .string row.deviceId, .string row.organisationId, .string row.correlationId,
    .string row.timestamp, .ofString? row.metadataJson]
  columns := []
  effect := .write fun database =>
    match database.auditEvents.insert? row with
    | none => .error "UNIQUE constraint failed: core_audit_events.id"
    | some later =>
        .ok { database := { database with auditEvents := later }, rows := [], rowsAffected := 1 }

/-! ## Requests -/

structure NativeWidgetCreateItem where
  name : String
  sku : String
  quantity : Int
  description : Option String

structure NativeWidgetCreateRequest extends NativeWidgetCreateItem where
  organisationId : String
  syncGroupId : String
  correlationId : String

structure NativeWidgetBulkCreateRequest where
  organisationId : String
  syncGroupId : String
  widgets : List NativeWidgetCreateItem
  correlationId : String

/-- The clock in nanoseconds for an id and in seconds for a timestamp. -/
structure NativeReading where
  nanos : Nat
  seconds : Nat

def isWhitespace (c : Char) : Bool :=
  (9 ≤ c.toNat && c.toNat ≤ 13) || (0x2000 ≤ c.toNat && c.toNat ≤ 0x200A) ||
    c.toNat ∈ [0x20, 0x85, 0xA0, 0x1680, 0x2028, 0x2029, 0x202F, 0x205F, 0x3000]

def trim (text : String) : String :=
  .ofList ((text.toList.dropWhile isWhitespace).reverse.dropWhile isWhitespace).reverse

/-! ## Admission -/

/-- What `authorize_widget_read` and `authorize_widget_create` have in common. -/
def authorizeWidget (permission refused refusedOrganisation code organisationCode : String)
    (principal : NativePrincipal) (organisationId : String) : Except NativeError Unit :=
  if ¬ principal.can permission then
    .error (.new "AUTHORIZATION_ERROR" s!"Native principal lacks {permission}" refused code)
  else if principal.organisationId ≠ organisationId then
    .error (.new "AUTHORIZATION_ERROR"
      "Widget organisation scope does not match native principal" refusedOrganisation
      organisationCode)
  else .ok ()

def authorizeWidgetRead : NativePrincipal → String → Except NativeError Unit :=
  authorizeWidget "widgets.read" "You are not authorized to view widgets"
    "You are not authorized to view this organisation" "widget_read_permission_denied"
    "widget_read_scope_denied"

def authorizeWidgetCreate : NativePrincipal → String → Except NativeError Unit :=
  authorizeWidget "widgets.create" "You are not authorized to create widgets"
    "You are not authorized to modify this organisation" "widget_create_permission_denied"
    "widget_create_scope_denied"

section Commands

-- `to_uppercase` of the standard library
variable (toUppercase : String → String)

def isInvalid (item : NativeWidgetCreateItem) : Bool :=
  trim item.name = "" || toUppercase (trim item.sku) = "" || item.quantity < 0

def validationError (message code : String) : NativeError :=
  .new "VALIDATION_ERROR" message "Provide a name, SKU, and non-negative quantity" code

/-- What `normalize_widget_item` makes of a valid item. -/
def normalized (item : NativeWidgetCreateItem) : NativeWidgetCreateItem :=
  { item with name := trim item.name, sku := toUppercase (trim item.sku) }

def normalizeWidgetItem (item : NativeWidgetCreateItem) :
    Except NativeError NativeWidgetCreateItem :=
  if isInvalid toUppercase item then
    .error (validationError "Invalid widget bulk create input" "widget_bulk_create_validation")
  else .ok (normalized toUppercase item)

def newWidget (reading : NativeReading) (principal : NativePrincipal)
    (organisationId syncGroupId : String) (item : NativeWidgetCreateItem) : WidgetRow where
  id := s!"wid_native_{reading.nanos}"
  createdAt := toString reading.seconds
  updatedAt := toString reading.seconds
  createdBy := some principal.userId
  updatedBy := some principal.userId
  entityId := s!"wid_native_{reading.nanos}"
  organisationId := organisationId
  syncGroupId := syncGroupId
  schemaVersion := 1
  syncVersion := 1
  deletedAt := none
  dataClassification := some "INTERNAL"
  name := item.name
  sku := item.sku
  quantity := item.quantity
  description := item.description

/-- The row of a valid `create_widget`. -/
def widgetOf (widget : NativeReading) (principal : NativePrincipal)
    (request : NativeWidgetCreateRequest) : WidgetRow :=
  newWidget widget principal request.organisationId request.syncGroupId
    (normalized toUppercase request.toNativeWidgetCreateItem)

def newAuditEvent (reading : NativeReading) (eventType : String) (principal : NativePrincipal)
    (organisationId correlationId : String) (metadata : List (String × JsonValue)) :
    AuditEventRow where
  id := s!"audit_native_{reading.nanos}"
  eventType := eventType
  userId := some principal.userId
  deviceId := principal.deviceId
  organisationId := organisationId
  correlationId := correlationId
  timestamp := toString reading.seconds
  metadataJson := some (JsonValue.object metadata).stringify

/-- `record_mutation_failure` and `record_import_failure`. -/
def recordFailure (code eventType : String) (audit : NativeReading)
    (principal : NativePrincipal) (organisationId correlationId entityName : String)
    (error : NativeError) : NativeTransaction WidgetDatabase (List Unit) :=
  runStatement code (insertAuditEvent (newAuditEvent audit eventType principal organisationId
    correlationId [("entityName", .string entityName), ("errorCode", .string error.code)]))

/-! ## Commands -/

def listWidgets (principal : NativePrincipal) (organisationId : String)
    (database : WidgetDatabase) : Except NativeError (List NativeWidgetRecord) := do
  authorizeWidgetRead principal organisationId
  match (findWidgets organisationId).run database with
  | .ok result => pure (result.rows.map WidgetRow.record)
  | .error message => throw (databaseError "widget_list_query" message)

def createWidget (widget audit : NativeReading) (principal : NativePrincipal)
    (request : NativeWidgetCreateRequest) (database : WidgetDatabase) :
    Except NativeError NativeWidgetRecord × WidgetDatabase :=
  transact (match authorizeWidgetCreate principal request.organisationId with
    | .error error => do
        let _ ← recordFailure "mutation_failure_audit_insert" "WIDGET_CREATE_FAILED" audit
          principal principal.organisationId request.correlationId "Widget" error
        pure (.error error)
    | .ok () =>
        if isInvalid toUppercase request.toNativeWidgetCreateItem then do
          let error := validationError "Invalid widget create input" "widget_create_validation"
          let _ ← recordFailure "mutation_failure_audit_insert" "WIDGET_CREATE_FAILED" audit
            principal request.organisationId request.correlationId "Widget" error
          pure (.error error)
        else do
          let row := widgetOf toUppercase widget principal request
          let _ ← runStatement "widget_create_insert" (insertWidget row)
          let _ ← runStatement "widget_audit_insert" (insertAuditEvent (newAuditEvent audit
            "WIDGET_CREATED" principal request.organisationId request.correlationId
            [("entityName", .string "Widget"), ("sku", .string row.sku),
              ("widgetId", .string row.id)]))
          pure (.ok row.record))
    database

/-- The `INSERT`s of the loop. -/
def insertWidgets : List WidgetRow → NativeTransaction WidgetDatabase Unit
  | [] => pure ()
  | row :: rest => do
      let _ ← runStatement "widget_bulk_create_insert" (insertWidget row)
      insertWidgets rest

/-- The rows for the given items, the first of them under the reading of the given number. -/
def newWidgets (widgets : Nat → NativeReading) (principal : NativePrincipal)
    (organisationId syncGroupId : String) : Nat → List NativeWidgetCreateItem → List WidgetRow
  | _, [] => []
  | count, item :: rest =>
      newWidget (widgets count) principal organisationId syncGroupId item ::
        newWidgets widgets principal organisationId syncGroupId (count + 1) rest

def createWidgets (widgets : Nat → NativeReading) (audit : NativeReading)
    (principal : NativePrincipal) (request : NativeWidgetBulkCreateRequest)
    (database : WidgetDatabase) :
    Except NativeError (List NativeWidgetRecord) × WidgetDatabase :=
  transact (match authorizeWidgetCreate principal request.organisationId with
    | .error error => pure (.error error)
    | .ok () =>
        match request.widgets.mapM (normalizeWidgetItem toUppercase) with
        | .error error => do
            let _ ← recordFailure "widget_failure_audit_insert" "IMPORT_FAILED" audit principal
              request.organisationId request.correlationId "Widgets" error
            pure (.error error)
        | .ok items => do
            let rows := newWidgets widgets principal request.organisationId
              request.syncGroupId 0 items
            let _ ← insertWidgets rows
            let _ ← runStatement "widget_bulk_audit_insert" (insertAuditEvent (newAuditEvent
              audit "IMPORT_COMPLETED" principal request.organisationId request.correlationId
              [("entityName", .string "Widgets"),
                ("importedCount", .number (.integer rows.length))]))
            pure (.ok (rows.map WidgetRow.record)))
    database

end Commands

/-! ## What the statements do -/

section Statements

variable {database : WidgetDatabase}

def KeysFree (database : WidgetDatabase) (rows : List WidgetRow) : Prop :=
  ∀ index ∈ widgetIndexes, ((database.widgets.rows ++ rows).filterMap index).Nodup

def EventFree (database : WidgetDatabase) (id : String) : Prop :=
  ∀ event ∈ database.auditEvents, event.id ≠ id

theorem insertWidget_run (database : WidgetDatabase) (code : String) (row : WidgetRow) :
    (∃ later, runStatement code (insertWidget row) database =
        .ok ([], { database with widgets := later }) ∧
      later.rows = database.widgets.rows ++ [row] ∧ KeysFree database [row]) ∨
    (∃ error, runStatement code (insertWidget row) database = .error error ∧
      ¬ KeysFree database [row]) := by
  simp only [runStatement, insertWidget, Statement.run]
  cases hinsert : database.widgets.insert? row with
  | some later =>
      have hrows := Table.insert?_eq_some_iff.mp hinsert
      refine .inl ⟨later, rfl, hrows, ?_⟩
      intro index hindex
      rw [← hrows]
      exact later.unique index hindex
  | none =>
      refine .inr ⟨_, rfl, ?_⟩
      intro hfree
      have hsome := Table.ofRows?_isSome hfree
      rw [← Table.insert?, hinsert] at hsome
      cases hsome

theorem insertAuditEvent_run (database : WidgetDatabase) (code : String)
    (event : AuditEventRow) :
    (∃ events, runStatement code (insertAuditEvent event) database =
        .ok ([], { database with auditEvents := events }) ∧ EventFree database event.id) ∨
    (∃ error, runStatement code (insertAuditEvent event) database = .error error ∧
      ¬ EventFree database event.id) := by
  simp only [runStatement, insertAuditEvent, Statement.run]
  cases hinsert : database.auditEvents.insert? event with
  | some later =>
      have hrows := Table.insert?_eq_some_iff.mp hinsert
      refine .inl ⟨later, rfl, ?_⟩
      intro other hother hsame
      have hunique := later.unique _ List.mem_cons_self
      rw [hrows, List.filterMap_append, List.nodup_append] at hunique
      exact hunique.2.2 _ (List.mem_filterMap.mpr ⟨other, hother, rfl⟩) event.id (by simp) hsame
  | none =>
      refine .inr ⟨_, rfl, ?_⟩
      intro hfree
      have hsome : (database.auditEvents.insert? event).isSome := by
        apply Table.insert?_isSome
        intro index hindex key hkey other hother
        rw [List.mem_singleton.mp hindex] at hkey ⊢
        rw [← hkey]
        simpa using hfree other hother
      rw [hinsert] at hsome
      cases hsome

theorem refusal_widgets {α : Type} (code eventType : String) (audit : NativeReading)
    (principal : NativePrincipal) (organisationId correlationId entityName : String)
    (error : NativeError) :
    (transact (do
      let _ ← recordFailure code eventType audit principal organisationId correlationId
        entityName error
      pure (.error error : Except NativeError α)) database).2.widgets = database.widgets := by
  unfold recordFailure
  rcases insertAuditEvent_run database code (newAuditEvent audit eventType principal organisationId
    correlationId [("entityName", .string entityName), ("errorCode", .string error.code)]) with
      ⟨events, hrun, -⟩ | ⟨thrown, hrun, -⟩
  · rw [transact_ok (bind_ok _ hrun)]
  · rw [transact_error (bind_error _ hrun)]

end Statements

end DurableDatabase
end TauriPlatform
