import TauriPlatform.DatabaseParts
import TauriPlatform.LiveOutbox
import TauriPlatform.PlainValue
import TauriPlatform.SyncGroupService

/-!
# The notes of the minimal consumer

`NotesService` writes a note, its operation in the outbox and the tombstone of a deleted one in
one transaction.  What may be read is decided twice: by the SQL of a list, and by
`requireActiveMembership` for a single note.
-/

namespace TauriPlatform

open Async Relational

/-! ## Tables -/

structure NoteRecord where
  id : String
  createdAt : String
  updatedAt : String
  organisationId : String
  syncGroupId : String
  title : String
  content : String
  authorId : String
  deletedAt : Option String
  deletedBy : Option String
  deleteOperationId : Option String
  deriving DecidableEq

structure TombstoneRow where
  id : String
  createdAt : String
  organisationId : String
  syncGroupId : String
  featureId : String
  entityType : String
  entityId : String
  deletedAt : String
  deletedBy : String
  deleteOperationId : String
  replicatedAt : Option String
  deriving DecidableEq

def tombstoneIndexes : List (UniqueIndex TombstoneRow String) :=
  [fun row => some row.id, fun row => some row.deleteOperationId]

structure NotesDatabase where
  authorization : AuthorizationDatabase := {}
  notes : Table NoteRecord String (idIndex NoteRecord.id) := Table.empty
  outbox : OutboxTable := Table.empty
  tombstones : Table TombstoneRow String tombstoneIndexes := Table.empty

namespace NotesDatabase

def authorizationPart : Part NotesDatabase AuthorizationDatabase where
  get database := database.authorization
  set authorization database := { database with authorization := authorization }

def outboxPart : Part NotesDatabase OutboxDatabase where
  get database :=
    { syncGroupIds := database.authorization.syncGroups.rows.map SyncGroupRow.id
      outbox := database.outbox }
  set changed database := { database with outbox := changed.outbox }

end NotesDatabase

/-! ## Statements -/

/-- The columns of `notes`, which `mapRow` reads into a record. -/
def noteColumns : List (Column NoteRecord) :=
  [⟨"id", fun row => .text row.id⟩, ⟨"created_at", fun row => .text row.createdAt⟩,
    ⟨"updated_at", fun row => .text row.updatedAt⟩,
    ⟨"organisation_id", fun row => .text row.organisationId⟩,
    ⟨"sync_group_id", fun row => .text row.syncGroupId⟩,
    ⟨"title", fun row => .text row.title⟩, ⟨"content", fun row => .text row.content⟩,
    ⟨"author_id", fun row => .text row.authorId⟩,
    ⟨"deleted_at", fun row => .ofText? row.deletedAt⟩,
    ⟨"deleted_by", fun row => .ofText? row.deletedBy⟩,
    ⟨"delete_operation_id", fun row => .ofText? row.deleteOperationId⟩]

namespace NotesRepository

/-- `ORDER BY created_at DESC`. -/
def newestFirst (rows : List NoteRecord) : List NoteRecord :=
  Table.orderBy (fun left right => right.createdAt ≤ left.createdAt) rows

def findBySyncGroup (syncGroupId organisationId : String) :
    Statement NotesDatabase NoteRecord where
  sql := "SELECT * FROM notes WHERE sync_group_id = ? AND organisation_id = ? " ++
    "AND deleted_at IS NULL ORDER BY created_at DESC"
  params := [.string syncGroupId, .string organisationId]
  columns := noteColumns
  effect := .read fun database =>
    newestFirst (database.notes.select fun row =>
      row.syncGroupId = syncGroupId && row.organisationId = organisationId &&
        row.deletedAt.isNone)

/-- `EXISTS (SELECT 1 FROM core_sync_groups g …)`. -/
def groupExists (database : AuthorizationDatabase) (note : NoteRecord) : Bool :=
  database.syncGroups.rows.any fun group =>
    group.id = note.syncGroupId && group.organisationId = note.organisationId &&
      group.status = "ACTIVE"

/-- `EXISTS (SELECT 1 FROM core_sync_group_members m INNER JOIN core_devices d …)`. -/
def membershipExists (database : AuthorizationDatabase) (deviceId : String)
    (userId : Option String) (note : NoteRecord) : Bool :=
  database.syncGroupMembers.rows.any fun member =>
    database.devices.rows.any fun device =>
      device.deviceId = member.deviceId && member.groupId = note.syncGroupId &&
        member.deviceId = deviceId &&
        (member.status = "APPROVED" || member.status = "ACTIVE") &&
        (device.status = "APPROVED" || device.status = "ACTIVE") &&
        (member.userId = none || member.userId = userId)

def findAllWithinOrganisation (organisationId deviceId : String) (userId : Option String) :
    Statement NotesDatabase NoteRecord where
  sql := "SELECT * FROM notes n
       WHERE n.organisation_id = ? AND n.deleted_at IS NULL
         AND EXISTS (
           SELECT 1 FROM core_sync_groups g
           WHERE g.id = n.sync_group_id
             AND g.organisation_id = n.organisation_id
             AND g.status = 'ACTIVE'
         )
         AND EXISTS (
           SELECT 1
           FROM core_sync_group_members m
           INNER JOIN core_devices d ON d.device_id = m.device_id
           WHERE m.group_id = n.sync_group_id
             AND m.device_id = ?
             AND m.status IN ('APPROVED', 'ACTIVE')
             AND d.status IN ('APPROVED', 'ACTIVE')
             AND (m.user_id IS NULL OR m.user_id = ?)
         )
       ORDER BY n.created_at DESC"
  params := [.string organisationId, .string deviceId, .ofString? userId]
  columns := noteColumns
  effect := .read fun database =>
    newestFirst (database.notes.select fun row =>
      row.organisationId = organisationId && row.deletedAt.isNone &&
        groupExists database.authorization row &&
        membershipExists database.authorization deviceId userId row)

def findByIdWithinOrganisation (id organisationId : String) :
    Statement NotesDatabase NoteRecord where
  sql := "SELECT * FROM notes WHERE id = ? AND organisation_id = ? AND deleted_at IS NULL LIMIT 1"
  params := [.string id, .string organisationId]
  columns := noteColumns
  effect := .read fun database =>
    (database.notes.select fun row =>
      row.id = id && row.organisationId = organisationId && row.deletedAt.isNone).take 1

/-- The statement which `BaseRepository.insert` makes of a record. -/
def insert (record : NoteRecord) : Statement NotesDatabase Unit where
  sql := "INSERT INTO notes (id, created_at, updated_at, organisation_id, sync_group_id, title, " ++
    "content, author_id, deleted_at, deleted_by, delete_operation_id) " ++
    "VALUES (?, ?, ?, ?, ?, ?, ?, ?, ?, ?, ?)"
  params := [.string record.id, .string record.createdAt, .string record.updatedAt,
    .string record.organisationId, .string record.syncGroupId, .string record.title,
    .string record.content, .string record.authorId, .ofString? record.deletedAt,
    .ofString? record.deletedBy, .ofString? record.deleteOperationId]
  columns := []
  effect := .write fun database =>
    match database.notes.insert? record with
    | none => .error "UNIQUE constraint failed: notes.id"
    | some later =>
        .ok { database := { database with notes := later }, rows := [], rowsAffected := 1 }

/-- `UPDATE notes SET … WHERE`, which leaves the id of every row. -/
def updateStatement (sql : String) (params : List JsonValue) (condition : NoteRecord → Bool)
    (set : NoteRecord → NoteRecord) : Statement NotesDatabase Unit where
  sql := sql
  params := params
  columns := []
  effect := .write fun database =>
    match database.notes.update? condition fun row => { set row with id := row.id } with
    | none => .error "UNIQUE constraint failed: notes.id"
    | some later =>
        .ok { database := { database with notes := later }
              rows := []
              rowsAffected := (database.notes.select condition).length }

/-- The statement which `BaseRepository.update` makes of a whole record. -/
def update (id : String) (updates : NoteRecord) : Statement NotesDatabase Unit :=
  updateStatement
    ("UPDATE notes SET created_at = ?, updated_at = ?, organisation_id = ?, sync_group_id = ?, " ++
      "title = ?, content = ?, author_id = ?, deleted_at = ?, deleted_by = ?, " ++
      "delete_operation_id = ? WHERE id = ?")
    [.string updates.createdAt, .string updates.updatedAt, .string updates.organisationId,
      .string updates.syncGroupId, .string updates.title, .string updates.content,
      .string updates.authorId, .ofString? updates.deletedAt, .ofString? updates.deletedBy,
      .ofString? updates.deleteOperationId, .string id]
    (fun row => row.id = id) (fun _ => updates)

def softDeleteWithOperationId (id deletedBy deleteOperationId deletedAt : String) :
    Statement NotesDatabase Unit :=
  updateStatement
    "UPDATE notes
       SET deleted_at = ?, deleted_by = ?, delete_operation_id = ?
       WHERE id = ? AND deleted_at IS NULL"
    [.string deletedAt, .string deletedBy, .string deleteOperationId, .string id]
    (fun row => row.id = id && row.deletedAt.isNone)
    (fun row =>
      { row with
        deletedAt := some deletedAt
        deletedBy := some deletedBy
        deleteOperationId := some deleteOperationId })

end NotesRepository

/-- `INSERT INTO core_sync_tombstones`. -/
def TombstoneService.insertStatement (row : TombstoneRow) : Statement NotesDatabase Unit where
  sql := "INSERT INTO core_sync_tombstones (
        id, created_at, organisation_id, sync_group_id, feature_id,
        entity_type, entity_id, deleted_at, deleted_by, delete_operation_id
      ) VALUES (?, ?, ?, ?, ?, ?, ?, ?, ?, ?)"
  params := [.string row.id, .string row.createdAt, .string row.organisationId,
    .string row.syncGroupId, .string row.featureId, .string row.entityType,
    .string row.entityId, .string row.deletedAt, .string row.deletedBy,
    .string row.deleteOperationId]
  columns := []
  effect := .write fun database =>
    match database.tombstones.insert? row with
    | none => .error "UNIQUE constraint failed: core_sync_tombstones"
    | some later =>
        .ok { database := { database with tombstones := later }, rows := [], rowsAffected := 1 }

/-! ## The service -/

structure NotesSyncSigner where
  publicKey : String
  sign : ByteArray → Except String String

structure NoteCallDraws where
  now : ClockReading
  signedAt : ClockReading
  enqueuedAt : ClockReading
  noteId : String
  operationId : String
  tombstoneId : String
  outboxId : String

structure CreateNoteInput where
  title : PlainValue
  content : PlainValue
  syncGroupId : String

structure UpdateNoteInput where
  id : String
  title : PlainValue
  content : PlainValue

namespace NotesService

open NotesRepository

def trim (text : String) : String :=
  String.ofList ((text.toList.dropWhile isJsWhitespace).rdropWhile isJsWhitespace)

/-- `${now}:0001:${subject.deviceId}`. -/
def logicalTimestamp (now : ClockReading) (deviceId : String) : String :=
  s!"{now.iso}:0001:{deviceId}"

def authorOf (subject : ContextSubject) : String :=
  subject.userId.getD "system"

def textValue (text : String) : JsValue :=
  .primitive (.string text)

def textValue? : Option String → JsValue
  | none => .null
  | some text => textValue text

def payloadOf (note : NoteRecord) : JsValue :=
  .object [("id", textValue note.id), ("createdAt", textValue note.createdAt),
    ("updatedAt", textValue note.updatedAt), ("organisationId", textValue note.organisationId),
    ("syncGroupId", textValue note.syncGroupId), ("title", textValue note.title),
    ("content", textValue note.content), ("authorId", textValue note.authorId),
    ("deletedAt", textValue? note.deletedAt), ("deletedBy", textValue? note.deletedBy),
    ("deleteOperationId", textValue? note.deleteOperationId)]

def noteOperation (draws : NoteCallDraws) (subject : ContextSubject)
    (syncGroupId entityId operation : String) (payload : JsValue) : JsValue :=
  .object [("operationId", textValue draws.operationId),
    ("applicationId", textValue "minimal-consumer"),
    ("organisationId", textValue subject.organisationId),
    ("syncGroupId", textValue syncGroupId), ("featureId", textValue "notes"),
    ("entityType", textValue "notes"), ("entityId", textValue entityId),
    ("operation", textValue operation), ("payload", payload),
    ("authorId", textValue (authorOf subject)), ("deviceId", textValue subject.deviceId),
    ("logicalTimestamp", textValue (logicalTimestamp draws.now subject.deviceId)),
    ("schemaVersion", .primitive (.number (.finite (.integer 1)))),
    ("protocolVersion", .primitive (.number (.finite (.integer 1))))]

variable {Call : Type → Type 1} (executor : Executor NotesDatabase Call)

/-- The failure of `build` is an `Error`, or a `RangeError` for the logical timestamp. -/
def enqueueOperation (signer : NotesSyncSigner) (draws : NoteCallDraws) (operation : JsValue) :
    Program Call Thrown Unit :=
  match SyncEnvelopeBuilder.build operation signer.publicKey signer.sign draws.signedAt with
  | .error message => throw (.builtin "Error" message)
  | .ok envelope => do
      let _row ← OutboxService.enqueueLive (executor.within NotesDatabase.outboxPart)
        draws.outboxId draws.enqueuedAt.iso envelope
      pure ()

def requirePermission (context : CallContext) (permission : String) :
    Program Call Thrown Unit :=
  let authorization := executor.within NotesDatabase.authorizationPart
  match context with
  | .trusted _ principal =>
      AuthorizationEngine.requireTrusted authorization principal permission none
  | .operation correlationId userId _ organisationId =>
      match userId.filter (· ≠ "") with
      | none =>
          throw (authorizationError
            s!"Unauthenticated subject cannot perform operation '{permission}'"
            "You are not authorized to perform this operation" correlationId none)
      | some userId =>
          AuthorizationEngine.requireForSubject authorization userId organisationId permission
            none

def requireActiveMembership (context : CallContext) (syncGroupId : String) :
    Program Call Thrown Unit :=
  SyncGroupService.requireActiveMembership (executor.within NotesDatabase.authorizationPart)
    context syncGroupId

/-! ### Reading -/

def listNotes (context : CallContext) (syncGroupId : Option String) :
    Program Call Thrown (List NoteRecord) := do
  requirePermission executor context "notes.read"
  let subject := extractContextSubject context
  match syncGroupId.filter (· ≠ "") with
  | some syncGroupId => do
      requireActiveMembership executor context syncGroupId
      executor.query (findBySyncGroup syncGroupId subject.organisationId)
  | none =>
      executor.query (findAllWithinOrganisation subject.organisationId subject.deviceId
        subject.userId)

def getNote (context : CallContext) (id : String) : Program Call Thrown (Option NoteRecord) := do
  requirePermission executor context "notes.read"
  let subject := extractContextSubject context
  match ← executor.query (findByIdWithinOrganisation id subject.organisationId) with
  | [] => pure none
  | note :: _ => do
      requireActiveMembership executor context note.syncGroupId
      pure (some note)

/-! ### Writing -/

/-- The checks of `createNote`, with the title and the content. -/
def checkCreateInput (context : CallContext) (input : CreateNoteInput) :
    Except Thrown (String × String) :=
  match input.title.string?.filter fun title => !isBlank title with
  | none =>
      .error (validationError "Note title cannot be empty" "Title is required"
        context.correlationId)
  | some title =>
      match input.content with
      | .string content => .ok (title, content)
      | _ =>
          .error (validationError "Note content must be a string" "Note content is invalid"
            context.correlationId)

/-- The `noteRecord` of `createNote`. -/
def createdNote (draws : NoteCallDraws) (subject : ContextSubject)
    (syncGroupId title content : String) : NoteRecord where
  id := draws.noteId
  createdAt := draws.now.iso
  updatedAt := draws.now.iso
  organisationId := subject.organisationId
  syncGroupId := syncGroupId
  title := trim title
  content := content
  authorId := authorOf subject
  deletedAt := none
  deletedBy := none
  deleteOperationId := none

def doCreate (signer : NotesSyncSigner) (draws : NoteCallDraws) (context : CallContext)
    (syncGroupId title content : String) : Program Call Thrown NoteRecord := do
  let subject := extractContextSubject context
  let noteRecord := createdNote draws subject syncGroupId title content
  requirePermission executor context "notes.create"
  requireActiveMembership executor context syncGroupId
  executor.execute (insert noteRecord)
  enqueueOperation executor signer draws
    (noteOperation draws subject syncGroupId draws.noteId "create" (payloadOf noteRecord))
  pure noteRecord

/-- The checks of `updateNote`, with the fields which are to be changed. -/
def checkUpdateInput (context : CallContext) (input : UpdateNoteInput) :
    Except Thrown (Option String × Option String) :=
  if input.title.isUndefined && input.content.isUndefined then
    .error (validationError "Note update must include at least one field"
      "Provide a title or content change" context.correlationId)
  else if !input.title.isUndefined && !(input.title.string?.any fun title => !isBlank title) then
    .error (validationError "Updated note title cannot be empty" "Title is required"
      context.correlationId)
  else if !input.content.isUndefined && input.content.string?.isNone then
    .error (validationError "Updated note content must be a string" "Note content is invalid"
      context.correlationId)
  else .ok (input.title.string?, input.content.string?)

/-- The `updated` record of `updateNote`. -/
def updatedNote (draws : NoteCallDraws) (existing : NoteRecord)
    (title content : Option String) : NoteRecord :=
  { existing with
    title := (title.map trim).getD existing.title
    content := content.getD existing.content
    updatedAt := draws.now.iso }

def doUpdate (signer : NotesSyncSigner) (draws : NoteCallDraws) (context : CallContext)
    (id : String) (title content : Option String) : Program Call Thrown NoteRecord := do
  let subject := extractContextSubject context
  requirePermission executor context "notes.update"
  match ← executor.query (findByIdWithinOrganisation id subject.organisationId) with
  | [] => throw (.builtin "Error" s!"Note '{id}' not found")
  | existing :: _ => do
      requireActiveMembership executor context existing.syncGroupId
      let updated := updatedNote draws existing title content
      executor.execute (update id updated)
      enqueueOperation executor signer draws
        (noteOperation draws subject existing.syncGroupId id "update" (payloadOf updated))
      pure updated

def doDelete (signer : NotesSyncSigner) (draws : NoteCallDraws) (context : CallContext)
    (id : String) : Program Call Thrown Unit := do
  let subject := extractContextSubject context
  requirePermission executor context "notes.delete"
  match ← executor.query (findByIdWithinOrganisation id subject.organisationId) with
  | [] => pure ()
  | existing :: _ => do
      requireActiveMembership executor context existing.syncGroupId
      executor.execute (TombstoneService.insertStatement
        { id := draws.tombstoneId
          createdAt := draws.now.iso
          organisationId := subject.organisationId
          syncGroupId := existing.syncGroupId
          featureId := "notes"
          entityType := "notes"
          entityId := id
          deletedAt := draws.now.iso
          deletedBy := authorOf subject
          deleteOperationId := draws.operationId
          replicatedAt := none })
      executor.execute (softDeleteWithOperationId id (authorOf subject) draws.operationId
        draws.now.iso)
      enqueueOperation executor signer draws
        (noteOperation draws subject existing.syncGroupId id "delete"
          (.object [("id", textValue id), ("deletedAt", textValue draws.now.iso)]))

/-! ### The transaction of an edit -/

/-- `this.db.transaction(body)`. -/
def ownTransaction {α : Type} (body : Program (TransactionCall NotesDatabase) Thrown α) :
    Program (DbCall NotesDatabase) Thrown α :=
  Program.await (.transaction body)

/-- `body(tx)`, on the client of the caller. -/
def callersTransaction {α : Type} (body : Program (TransactionCall NotesDatabase) Thrown α) :
    Program (TransactionCall NotesDatabase) Thrown α :=
  body

variable (transact : ∀ {α : Type},
  Program (TransactionCall NotesDatabase) Thrown α → Program Call Thrown α)
  (signer : NotesSyncSigner) (draws : NoteCallDraws) (context : CallContext)

def createNote (input : CreateNoteInput) : Program Call Thrown NoteRecord :=
  match checkCreateInput context input with
  | .error thrown => throw thrown
  | .ok (title, content) =>
      transact (doCreate (transactionExecutor NotesDatabase) signer draws context
        input.syncGroupId title content)

def updateNote (input : UpdateNoteInput) : Program Call Thrown NoteRecord :=
  match checkUpdateInput context input with
  | .error thrown => throw thrown
  | .ok (title, content) =>
      transact (doUpdate (transactionExecutor NotesDatabase) signer draws context input.id title
        content)

def deleteNote (id : String) : Program Call Thrown Unit :=
  transact (doDelete (transactionExecutor NotesDatabase) signer draws context id)

end NotesService
end TauriPlatform
