import TauriPlatform.JsonRoundTrip
import TauriPlatform.NativeAgreement
import TauriPlatform.OutboxService

/-!
# Reading back what was enqueued

Enqueueing stores an envelope twice, whole and as its payload, in a request which
the native database bounds.  Reading a batch returns all columns of its rows, in a
result which is bounded as a whole.  A batch is read back exactly when the estimate
for its rows stays below that bound.
-/

namespace TauriPlatform

open Async DurableDatabase Relational

namespace OutboxService

/-! ## Enqueueing over the native connection -/

/-- A call of `enqueue` in a transaction of its own. -/
structure EnqueueCall where
  id : String
  now : String
  envelope : JsonValue
  enumerated : envelope.IsEnumerated

def EnqueueCall.program (call : EnqueueCall) :
    Program (DbCall OutboxDatabase) Thrown OutboxRow :=
  Program.await (.transaction
    (enqueue (transactionExecutor OutboxDatabase) call.id call.now call.envelope))

def afterEnqueues (calls : List EnqueueCall) (database : OutboxDatabase) :
    OutboxDatabase :=
  calls.foldl (fun database call => (call.program.run nativeConnection database).2)
    database

def emptyOutbox (syncGroupIds : List String) : OutboxDatabase where
  syncGroupIds := syncGroupIds
  outbox := Table.empty

def AllAccepted : List EnqueueCall → OutboxDatabase → Prop
  | [], _ => True
  | call :: calls, database =>
      (∃ row, (call.program.run nativeConnection database).1 = .ok row) ∧
        AllAccepted calls (call.program.run nativeConnection database).2

/-- A row as `enqueue` wrote it. -/
def IsEnqueued (row : OutboxRow) : Prop :=
  ∃ (call : EnqueueCall) (validated : SyncEnvelope),
    SyncEnvelopeBuilder.validateEnvelope call.envelope = .ok validated ∧
      row = newRow call.id call.now call.envelope validated

theorem program_run_of_invalid {call : EnqueueCall} {message : String}
    (hinvalid : SyncEnvelopeBuilder.validateEnvelope call.envelope = .error message)
    (database : OutboxDatabase) :
    (call.program.run nativeConnection database).2 = database := by
  simp only [EnqueueCall.program, enqueue, hinvalid, Program.run_await, nativeConnection,
    Program.run_throw]
  split <;> rfl

section SingleStatement

variable {Db Row α : Type} {statement : Statement Db Row} {value : α} {database : Db}

def executeWithin (statement : Statement Db Row) (value : α) :
    Program (TransactionCall Db) Thrown α := do
  (transactionExecutor Db).execute statement
  pure value

theorem executeWithin_run_ok {later : Db}
    (htransaction : transactionJson [collect statement] database = .ok later) :
    (Program.await (.transaction (executeWithin statement value)) :
        Program (DbCall Db) Thrown α).run nativeConnection database = (.ok value, later) := by
  simp only [executeWithin, Program.run_await, nativeConnection, Program.run_bind,
    transactionExecutor, nativeTransaction, Program.run_pure, List.nil_append, htransaction]

theorem executeWithin_run_error {message : String}
    (htransaction : transactionJson [collect statement] database = .error message) :
    ((Program.await (.transaction (executeWithin statement value)) :
        Program (DbCall Db) Thrown α).run nativeConnection database).2 = database := by
  simp only [executeWithin, Program.run_await, nativeConnection, Program.run_bind,
    transactionExecutor, nativeTransaction, Program.run_pure, List.nil_append, htransaction]

end SingleStatement

theorem program_of_valid {call : EnqueueCall} {validated : SyncEnvelope}
    (hvalid : SyncEnvelopeBuilder.validateEnvelope call.envelope = .ok validated) :
    call.program = Program.await (.transaction (executeWithin
      (insertStatement (newRow call.id call.now call.envelope validated))
      (newRow call.id call.now call.envelope validated))) := by
  simp only [EnqueueCall.program, enqueue, hvalid, executeWithin]

theorem insertStatement_run_ok {row : OutboxRow} {database : OutboxDatabase}
    {result : StatementResult OutboxDatabase Unit}
    (hrun : (insertStatement row).run database = .ok result) :
    result.database.outbox.rows = database.outbox.rows ++ [row] := by
  unfold insertStatement Statement.run at hrun
  cases hinsert : database.outbox.insert? row with
  | none =>
      simp only [hinsert] at hrun
      cases hrun
  | some later =>
      simp only [hinsert] at hrun
      split_ifs at hrun
      cases hrun
      exact Table.insert?_eq_some_iff.mp hinsert

theorem collect_run_eq_ok_iff {Db Row : Type} {statement : Statement Db Row}
    {database later : Db} :
    (collect statement).run database = .ok later ↔
      ∃ result, statement.run database = .ok result ∧ result.rows = [] ∧
        result.database = later := by
  cases hrun : statement.run database with
  | error message =>
      constructor
      · intro hlater
        simp only [collect, hrun] at hlater
        cases hlater
      · rintro ⟨result, hresult, -⟩
        cases hresult
  | ok result =>
      cases hrows : result.rows with
      | nil => simp [collect, hrun, hrows, bind, Except.bind, pure, Except.pure]
      | cons row rows =>
          simp [collect, hrun, hrows, bind, Except.bind, throw, throwThe,
            MonadExceptOf.throw]

theorem transactionJson_single {Db Row : Type} {statement : Statement Db Row}
    {database later : Db} :
    transactionJson [collect statement] database = .ok later ↔
      validateSafeSql statement.sql = .ok () ∧
        (∃ requestBytes ≤ maxSqlRequestBytes,
          validateSqlRequest statement.sql statement.params = .ok requestBytes) ∧
        (collect statement).run database = .ok later := by
  have hcount : ¬ ([collect statement].length > maxSqlTransactionOperations) := by
    rw [List.length_singleton]
    decide
  have hsql : (collect statement).sql = statement.sql := rfl
  have hparams : (collect statement).params = statement.params := rfl
  unfold transactionJson
  simp only [if_neg hcount, validateOperations, hsql, hparams, List.foldlM_cons,
    List.foldlM_nil, bind_pure]
  cases validateSafeSql statement.sql with
  | error message => simp [bind, Except.bind]
  | ok _ =>
      cases validateSqlRequest statement.sql statement.params with
      | error message => simp [bind, Except.bind]
      | ok requestBytes =>
          by_cases hbytes : requestBytes ≤ maxSqlRequestBytes
          · simp [bind, Except.bind, hbytes, not_lt.mpr hbytes]
          · have hexceeds : maxSqlRequestBytes < requestBytes := not_le.mp hbytes
            simp [bind, Except.bind, hexceeds, throw, throwThe, MonadExceptOf.throw]

theorem program_run_rows (call : EnqueueCall) (database : OutboxDatabase) :
    (call.program.run nativeConnection database).2 = database ∨
      ∃ row, IsEnqueued row ∧
        (call.program.run nativeConnection database).2.outbox.rows =
          database.outbox.rows ++ [row] := by
  cases hvalid : SyncEnvelopeBuilder.validateEnvelope call.envelope with
  | error message => exact .inl (program_run_of_invalid hvalid database)
  | ok validated =>
      rw [program_of_valid hvalid]
      cases htransaction : transactionJson
          [collect (insertStatement (newRow call.id call.now call.envelope validated))]
          database with
      | error message => exact .inl (executeWithin_run_error htransaction)
      | ok later =>
          rw [executeWithin_run_ok htransaction]
          have hrun := (transactionJson_single.mp htransaction).2.2
          obtain ⟨result, hresult, -, hlater⟩ := collect_run_eq_ok_iff.mp hrun
          refine .inr ⟨_, ⟨call, validated, hvalid, rfl⟩, ?_⟩
          rw [← hlater]
          exact insertStatement_run_ok hresult

/-- Every row of the outbox is as `enqueue` wrote it. -/
theorem isEnqueued_of_mem_afterEnqueues (calls : List EnqueueCall)
    {database : OutboxDatabase} (hrows : ∀ row ∈ database.outbox, IsEnqueued row) :
    ∀ row ∈ (afterEnqueues calls database).outbox, IsEnqueued row := by
  induction calls generalizing database with
  | nil => exact hrows
  | cons call calls ih =>
      apply ih
      intro row hrow
      rcases program_run_rows call database with hsame | ⟨added, hadded, hlater⟩
      · simp only [hsame] at hrow
        exact hrows row hrow
      · simp only [Table.mem_def, hlater] at hrow
        rcases List.mem_append.mp hrow with hold | hnew
        · exact hrows row hold
        · rw [List.mem_singleton.mp hnew]
          exact hadded

/-! ## Reading a batch -/

/-- What `enqueue` stored agrees with itself. -/
theorem readRecord_of_isEnqueued {row : OutboxRow} (hrow : IsEnqueued row) :
    ∃ record, readRecord row = .ok record := by
  obtain ⟨call, validated, hvalid, rfl⟩ := hrow
  have hparse := parseJson?_stringify call.enumerated
  simp [readRecord, checkPersisted, newRow, hparse, hvalid, SyncEnvelopeBuilder.ensure,
    bind, Except.bind, pure, Except.pure]

theorem mapM_readRecord {rows : List OutboxRow} (hrows : ∀ row ∈ rows, IsEnqueued row) :
    ∃ records, rows.mapM readRecord = .ok records := by
  induction rows with
  | nil => exact ⟨[], rfl⟩
  | cons row rows ih =>
      obtain ⟨record, hrecord⟩ := readRecord_of_isEnqueued (hrows row List.mem_cons_self)
      obtain ⟨records, hrecords⟩ :=
        ih fun other hother => hrows other (List.mem_cons_of_mem _ hother)
      refine ⟨record :: records, ?_⟩
      simp [List.mapM_cons, hrecord, hrecords, bind, Except.bind, pure, Except.pure]

theorem length_pendingStatement_le {limit : NumberValue} {size : Int}
    (hlimit : admittedLimit? limit = some size) (rows : List OutboxRow) :
    (rows.take size.toNat).length ≤ maxQueryResultRows := by
  obtain ⟨-, hsize⟩ := Option.filter_eq_some_iff.mp hlimit
  have hbound : size ≤ maxOutboxBatchSize := by
    simp only [decide_eq_true_eq] at hsize
    exact hsize.2
  have hfifty : size ≤ 50 := hbound
  have htake := List.length_take_le size.toNat rows
  have hrows : maxQueryResultRows = 10000 := rfl
  omega

set_option maxRecDepth 4000 in
theorem pendingStatement_admitted (organisationId : String) (size : Int) :
    validateSafeSql (pendingStatement organisationId size).sql = .ok () :=
  validateSafeSql_of_command "SELECT" (by decide) (by decide)

theorem pendingBatch_run_isOk {organisationId : String} {limit : NumberValue} {size : Int}
    (horganisation : isBlank organisationId = false)
    (hlimit : admittedLimit? limit = some size) {database : OutboxDatabase}
    (hrows : ∀ row ∈ database.outbox, IsEnqueued row) :
    (∃ records, ((pendingBatch organisationId limit).run nativeConnection database).1 =
        .ok records) ↔
      RequestFits (pendingStatement organisationId size) ∧
        ResultFits outboxColumns
          ((pendingRows organisationId database.outbox).take size.toNat) := by
  have hcolumns :
      (pendingStatement organisationId size).columns.length ≤ maxQueryResultColumns := by
    have hlength : (pendingStatement organisationId size).columns.length = 22 := rfl
    rw [hlength]
    decide
  have hread : ∀ rows, queryJson (pendingStatement organisationId size) database =
      .ok rows ↔ rows = (pendingRows organisationId database.outbox).take size.toNat ∧
        RequestFits (pendingStatement organisationId size) ∧
        ResultFits outboxColumns rows := by
    intro rows
    exact queryJson_eq_ok_iff (pendingStatement_admitted organisationId size) hcolumns rfl
  have hrun : (pendingBatch organisationId limit).run nativeConnection database =
      match queryJson (pendingStatement organisationId size) database with
      | .ok rows => (rows.mapM readRecord, database)
      | .error message =>
          (.error (databaseError s!"Database query failed: {message}"
            "Failed to retrieve data" "db-query"
            (some s!"SQL: {(pendingStatement organisationId size).sql}")), database) := by
    simp only [pendingBatch, horganisation, hlimit, Bool.false_eq_true, if_false,
      Program.run_bind, connectionExecutor, Program.run_await, nativeConnection]
    generalize queryJson (pendingStatement organisationId size) database = answer
    cases answer <;> rfl
  rw [hrun]
  constructor
  · rintro ⟨records, hrecords⟩
    cases hanswer : queryJson (pendingStatement organisationId size) database with
    | error message =>
        rw [hanswer] at hrecords
        cases hrecords
    | ok rows =>
        obtain ⟨rfl, hfits⟩ := (hread rows).mp hanswer
        exact hfits
  · intro hfits
    have hanswer := (hread _).mpr ⟨rfl, hfits⟩
    have hselected : ∀ row ∈ (pendingRows organisationId database.outbox).take size.toNat,
        IsEnqueued row := by
      intro row hrow
      have hpending := List.mem_of_mem_take hrow
      rw [pendingRows, Table.mem_orderBy, Table.mem_select] at hpending
      exact hrows row hpending.1
    obtain ⟨records, hrecords⟩ := mapM_readRecord hselected
    rw [hanswer]
    exact ⟨records, hrecords⟩

/-- After any calls, a batch is read back exactly when its query is admitted and the
estimate for its rows is within the bound of a result. -/
theorem pendingBatch_reads_back_iff (calls : List EnqueueCall) (syncGroupIds : List String)
    (organisationId : String) (limit : NumberValue) (size : Int)
    (horganisation : isBlank organisationId = false)
    (hlimit : admittedLimit? limit = some size) :
    (∃ records, ((pendingBatch organisationId limit).run nativeConnection
        (afterEnqueues calls (emptyOutbox syncGroupIds))).1 = .ok records) ↔
      RequestFits (pendingStatement organisationId size) ∧
        resultBytes outboxColumns ((pendingRows organisationId
          (afterEnqueues calls (emptyOutbox syncGroupIds)).outbox).take size.toNat) ≤
            maxQueryResultBytes := by
  have hempty : ∀ row ∈ (emptyOutbox syncGroupIds).outbox, IsEnqueued row := by
    intro row hrow
    cases hrow
  have hcount := length_pendingStatement_le hlimit
    (pendingRows organisationId (afterEnqueues calls (emptyOutbox syncGroupIds)).outbox)
  rw [pendingBatch_run_isOk horganisation hlimit
    (isEnqueued_of_mem_afterEnqueues calls hempty), ResultFits]
  constructor
  · rintro ⟨hrequest, -, hbytes⟩
    exact ⟨hrequest, hbytes⟩
  · rintro ⟨hrequest, hbytes⟩
    exact ⟨hrequest, hcount, hbytes⟩

/-! ## Notes of one organisation -/

def noteOperation (id : String) (payload : JsonValue) : SyncOperation where
  operationId := id
  applicationId := "app"
  organisationId := "org"
  syncGroupId := "group"
  featureId := "notes"
  entityType := "note"
  entityId := "note-1"
  operation := .create
  payload := payload
  authorId := "user"
  deviceId := "device"
  logicalTimestamp := "1_0_device"
  schemaVersion := 1
  protocolVersion := 1

def noteOperationJson (id : String) (payload : JsonValue) : JsonValue :=
  .object [("operationId", .string id), ("applicationId", .string "app"),
    ("organisationId", .string "org"), ("syncGroupId", .string "group"),
    ("featureId", .string "notes"), ("entityType", .string "note"),
    ("entityId", .string "note-1"), ("operation", .string "create"),
    ("payload", payload), ("authorId", .string "user"), ("deviceId", .string "device"),
    ("logicalTimestamp", .string "1_0_device"),
    ("schemaVersion", .number (.integer 1)), ("protocolVersion", .number (.integer 1))]

def noteSignedAt : String := "2026-01-01T00:00:00.000Z"

def notePublicKeyChars : List Char :=
  "ed25519_pk_".toList ++ List.replicate 64 'a'

def notePublicKey : String :=
  String.ofList notePublicKeyChars

def noteSignatureChars : List Char :=
  List.replicate 128 'a'

def noteSignature : String :=
  String.ofList noteSignatureChars

theorem notePublicKey_toList : notePublicKey.toList = notePublicKeyChars :=
  String.toList_ofList

theorem noteSignature_toList : noteSignature.toList = noteSignatureChars :=
  String.toList_ofList

def noteEnvelopeJson (id : String) (payload : JsonValue) : JsonValue :=
  .object [("envelopeId", .string id), ("signedAt", .string noteSignedAt),
    ("signerPublicKey", .string notePublicKey), ("signature", .string noteSignature),
    ("operation", noteOperationJson id payload)]

def noteEnvelope (id : String) (payload : JsonValue) : SyncEnvelope where
  envelopeId := id
  signedAt := noteSignedAt
  signerPublicKey := notePublicKey
  signature := noteSignature
  operation := noteOperation id payload

def noteIds : List String :=
  ["op-1", "op-2", "op-3", "op-4", "op-5", "op-6"]

set_option maxRecDepth 8000 in
theorem validateOperation_note {id : String} (hid : id ∈ noteIds) (payload : JsonValue) :
    SyncEnvelopeBuilder.validateOperation (noteOperationJson id payload) =
      .ok (noteOperation id payload) := by
  simp only [noteIds, List.mem_cons, List.not_mem_nil, or_false] at hid
  rcases hid with rfl | rfl | rfl | rfl | rfl | rfl <;> rfl

theorem isPublicKey_notePublicKey : SyncEnvelopeBuilder.isPublicKey notePublicKey := by
  simp only [SyncEnvelopeBuilder.isPublicKey, notePublicKey_toList]
  decide

theorem isValidSignatureHex_noteSignature :
    SyncEnvelopeBuilder.isValidSignatureHex noteSignature := by
  simp only [SyncEnvelopeBuilder.isValidSignatureHex, noteSignature_toList]
  decide +kernel

theorem validateEnvelope_note {id : String} (hid : id ∈ noteIds) {payload : JsonValue}
    (hsize : utf8Length (noteEnvelopeJson id payload).serialize ≤
      maxSyncEnvelopeSizeBytes) :
    SyncEnvelopeBuilder.validateEnvelope (noteEnvelopeJson id payload) =
      .ok (noteEnvelope id payload) := by
  have hrecord : (noteEnvelopeJson id payload).isRecord = true := rfl
  have hoperation : ((noteEnvelopeJson id payload).get? "operation").getD .null =
      noteOperationJson id payload := rfl
  have henvelopeId : ((noteEnvelopeJson id payload).get? "envelopeId").bind
      JsonValue.string? = some id := rfl
  have hsignedAt : SyncEnvelopeBuilder.validateSignedAt
      ((noteEnvelopeJson id payload).get? "signedAt") = .ok noteSignedAt := rfl
  have hpublicKey : SyncEnvelopeBuilder.validatePublicKeyFormat
      ((noteEnvelopeJson id payload).get? "signerPublicKey") = .ok notePublicKey := by
    change SyncEnvelopeBuilder.validatePublicKeyFormat (some (.string notePublicKey)) = _
    rw [SyncEnvelopeBuilder.validatePublicKeyFormat, if_pos isPublicKey_notePublicKey]
  have hsignature : SyncEnvelopeBuilder.validateSignature
      ((noteEnvelopeJson id payload).get? "signature") = .ok noteSignature := by
    change SyncEnvelopeBuilder.validateSignature (some (.string noteSignature)) = _
    rw [SyncEnvelopeBuilder.validateSignature, if_pos isValidSignatureHex_noteSignature]
  have hsame : (noteOperation id payload).operationId = id := rfl
  simp only [SyncEnvelopeBuilder.validateEnvelope, hrecord, hoperation, henvelopeId,
    hsignedAt, hpublicKey, hsignature, validateOperation_note hid,
    SyncEnvelopeBuilder.ensure, hsize, hsame, if_true, bind, Except.bind, pure,
    Except.pure, noteEnvelope]

theorem utf8Length_noteEnvelope {id : String} (hid : id ∈ noteIds) (payload : JsonValue) :
    utf8Length (noteEnvelopeJson id payload).serialize =
      600 + utf8Length payload.serialize := by
  have hframe : utf8Length (noteEnvelopeJson id payload).serialize +
        utf8Length JsonValue.null.serialize =
      utf8Length (noteEnvelopeJson id .null).serialize + utf8Length payload.serialize := by
    simp only [noteEnvelopeJson, noteOperationJson, JsonValue.serialize, serializeEntries,
      utf8Length_append, utf8Length_cons, utf8Length_nil]
    omega
  have hnull : utf8Length JsonValue.null.serialize = 4 := by decide
  have hwhole : ∀ id ∈ noteIds,
      utf8Length (noteEnvelopeJson id .null).serialize = 604 := by
    simp only [noteEnvelopeJson, JsonValue.serialize, serializeEntries, quoteText,
      notePublicKey_toList, noteSignature_toList]
    decide +kernel
  have hid' := hwhole id hid
  omega

/-! ### Enqueueing a note -/

theorem addParameterBytes_of_estimates {params : List JsonValue} {bounds : List Nat}
    (hparams : List.Forall₂ (fun value bound => isLargeUnsigned value = false ∧
      ∃ estimate ≤ bound, estimateJsonValueBytes value 0 = some estimate) params bounds)
    {requestBytes : Nat} (hsum : requestBytes + bounds.sum ≤ maxSqlRequestBytes) :
    ∃ total ≤ maxSqlRequestBytes, addParameterBytes params requestBytes = .ok total := by
  induction hparams generalizing requestBytes with
  | nil => exact ⟨requestBytes, by simpa using hsum, rfl⟩
  | cons hvalue _ ih =>
      obtain ⟨hsmall, estimate, hbound, hestimate⟩ := hvalue
      rw [List.sum_cons] at hsum
      have hwithin : ¬ (requestBytes + estimate > maxSqlRequestBytes) := by omega
      have hremaining : requestBytes + estimate + _ ≤ maxSqlRequestBytes :=
        (Nat.add_le_add_right (Nat.add_le_add_left hbound requestBytes) _).trans
          (by rw [Nat.add_assoc]; exact hsum)
      obtain ⟨total, htotal, hrest⟩ := ih hremaining
      refine ⟨total, htotal, ?_⟩
      simp only [addParameterBytes, hsmall, hestimate, if_neg hwithin, hrest,
        Bool.false_eq_true, if_false]

theorem text_estimate {text : String} {bound : Nat}
    (hbound : textEstimate (utf8Length text.toList) ≤ bound)
    (hparameter : bound ≤ maxSqlParameterBytes) :
    isLargeUnsigned (.string text) = false ∧
      ∃ estimate ≤ bound, estimateJsonValueBytes (.string text) 0 = some estimate := by
  refine ⟨rfl, _, hbound, ?_⟩
  rw [estimateJsonValueBytes, if_neg (by decide), boundedEstimate,
    if_pos (hbound.trans hparameter)]

theorem noteOperationJson_enumerated (id : String) {payload : JsonValue}
    (hpayload : payload.IsEnumerated) : (noteOperationJson id payload).IsEnumerated := by
  apply JsonValue.IsEnumerated.object
  · apply spread_append
    · change ["operationId", "applicationId", "organisationId", "syncGroupId", "featureId",
        "entityType", "entityId", "operation", "payload", "authorId", "deviceId",
        "logicalTimestamp", "schemaVersion", "protocolVersion"].Nodup
      decide
    · change ∀ key ∈ ["operationId", "applicationId", "organisationId", "syncGroupId",
        "featureId", "entityType", "entityId", "operation", "payload", "authorId",
        "deviceId", "logicalTimestamp", "schemaVersion", "protocolVersion"],
          arrayIndex? key = none
      decide
  · intro entry hentry
    simp only [List.mem_cons, List.not_mem_nil, or_false] at hentry
    rcases hentry with rfl | rfl | rfl | rfl | rfl | rfl | rfl | rfl | rfl | rfl | rfl | rfl |
      rfl | rfl <;> first | exact hpayload | constructor

theorem noteEnvelopeJson_enumerated (id : String) {payload : JsonValue}
    (hpayload : payload.IsEnumerated) : (noteEnvelopeJson id payload).IsEnumerated := by
  apply JsonValue.IsEnumerated.object
  · apply spread_append
    · change ["envelopeId", "signedAt", "signerPublicKey", "signature", "operation"].Nodup
      decide
    · change ∀ key ∈ ["envelopeId", "signedAt", "signerPublicKey", "signature",
        "operation"], arrayIndex? key = none
      decide
  · intro entry hentry
    simp only [List.mem_cons, List.not_mem_nil, or_false] at hentry
    rcases hentry with rfl | rfl | rfl | rfl | rfl
    · constructor
    · constructor
    · constructor
    · constructor
    · exact noteOperationJson_enumerated id hpayload

def noteCall (id payload : String) : EnqueueCall where
  id := id
  now := noteSignedAt
  envelope := noteEnvelopeJson id (.string payload)
  enumerated := noteEnvelopeJson_enumerated id (.string payload)

def noteRow (id payload : String) : OutboxRow :=
  newRow id noteSignedAt (noteEnvelopeJson id (.string payload))
    (noteEnvelope id (.string payload))

theorem noteRow_params {id payload : String} (hid : id ∈ noteIds)
    (hpayload : utf8Length (JsonValue.string payload).serialize ≤ 173000) :
    List.Forall₂ (fun value bound => isLargeUnsigned value = false ∧
      ∃ estimate ≤ bound, estimateJsonValueBytes value 0 = some estimate)
      (insertStatement (noteRow id payload)).params
      [1000, 1000, 1000, maxSqlParameterBytes, 1000, 1000, 1000, 1000, 1000, 1000,
        maxSqlParameterBytes, 1000, 1000, 1000, 1000, 1000, 1000, 1000] := by
  have henvelope : textEstimate (utf8Length
      (noteEnvelopeJson id (.string payload)).stringify.toList) ≤ maxSqlParameterBytes := by
    rw [JsonValue.stringify, String.toList_ofList, utf8Length_noteEnvelope hid, textEstimate,
      maxSqlParameterBytes]
    omega
  have hpayloadText : textEstimate (utf8Length
      (JsonValue.string payload).stringify.toList) ≤ maxSqlParameterBytes := by
    rw [JsonValue.stringify, String.toList_ofList, textEstimate, maxSqlParameterBytes]
    omega
  have hids : ∀ id ∈ noteIds, textEstimate (utf8Length id.toList) ≤ 1000 := by decide
  have hkeys : textEstimate (utf8Length notePublicKey.toList) ≤ 1000 ∧
      textEstimate (utf8Length noteSignature.toList) ≤ 1000 := by
    simp only [notePublicKey_toList, noteSignature_toList]
    decide
  have hsmall : 1000 ≤ maxSqlParameterBytes := by decide
  have hversion : isLargeUnsigned (.number (.integer 1)) = false ∧
      ∃ estimate ≤ 1000, estimateJsonValueBytes (.number (.integer 1)) 0 = some estimate :=
    ⟨by decide, 1, by decide, by decide⟩
  have hform : (insertStatement (noteRow id payload)).params =
      [.string id, .string noteSignedAt, .string id,
        .string (noteEnvelopeJson id (.string payload)).stringify, .string "org",
        .string "group", .string "notes", .string "note", .string "note-1",
        .string "create", .string (JsonValue.string payload).stringify, .string "user",
        .string "device", .string "1_0_device", .number (.integer 1),
        .number (.integer 1), .string notePublicKey, .string noteSignature] := rfl
  rw [hform]
  refine .cons (text_estimate (hids id hid) hsmall) ?_
  refine .cons (text_estimate (by decide) hsmall) ?_
  refine .cons (text_estimate (hids id hid) hsmall) ?_
  refine .cons (text_estimate henvelope le_rfl) ?_
  refine .cons (text_estimate (by decide) hsmall) ?_
  refine .cons (text_estimate (by decide) hsmall) ?_
  refine .cons (text_estimate (by decide) hsmall) ?_
  refine .cons (text_estimate (by decide) hsmall) ?_
  refine .cons (text_estimate (by decide) hsmall) ?_
  refine .cons (text_estimate (by decide) hsmall) ?_
  refine .cons (text_estimate hpayloadText le_rfl) ?_
  refine .cons (text_estimate (by decide) hsmall) ?_
  refine .cons (text_estimate (by decide) hsmall) ?_
  refine .cons (text_estimate (by decide) hsmall) ?_
  refine .cons hversion ?_
  refine .cons hversion ?_
  refine .cons (text_estimate hkeys.1 hsmall) ?_
  exact .cons (text_estimate hkeys.2 hsmall) .nil

theorem utf8Length_toList_ofList {chars : List Char} {bound : Nat}
    (hbound : utf8Length chars ≤ bound) :
    utf8Length (String.ofList chars).toList ≤ bound := by
  rwa [String.toList_ofList]

set_option maxRecDepth 4000 in
theorem noteRow_sql (id payload : String) :
    validateSafeSql (insertStatement (noteRow id payload)).sql = .ok () ∧
      utf8Length (insertStatement (noteRow id payload)).sql.toList ≤ 1000 :=
  ⟨validateSafeSql_of_command "INSERT" (by decide) (by decide),
    utf8Length_toList_ofList (by decide)⟩

theorem noteRow_request {id payload : String} (hid : id ∈ noteIds)
    (hpayload : utf8Length (JsonValue.string payload).serialize ≤ 173000) :
    ∃ requestBytes ≤ maxSqlRequestBytes,
      validateSqlRequest (insertStatement (noteRow id payload)).sql
        (insertStatement (noteRow id payload)).params = .ok requestBytes := by
  obtain ⟨-, hsql⟩ := noteRow_sql id payload
  have hstatement : ¬ (utf8Length (insertStatement (noteRow id payload)).sql.toList >
      maxSqlStatementBytes) := by
    have hbound : maxSqlStatementBytes = 1048576 := rfl
    omega
  have hcount : ¬ ((insertStatement (noteRow id payload)).params.length >
      maxSqlParameters) := by
    have hlength : (insertStatement (noteRow id payload)).params.length = 18 := rfl
    rw [hlength]
    decide
  have hsum : utf8Length (insertStatement (noteRow id payload)).sql.toList +
      [1000, 1000, 1000, maxSqlParameterBytes, 1000, 1000, 1000, 1000, 1000, 1000,
        maxSqlParameterBytes, 1000, 1000, 1000, 1000, 1000, 1000, 1000].sum ≤
      maxSqlRequestBytes := by
    simp only [List.sum_cons, List.sum_nil, maxSqlParameterBytes, maxSqlRequestBytes]
    omega
  rw [validateSqlRequest, if_neg hstatement, if_neg hcount]
  exact addParameterBytes_of_estimates (noteRow_params hid hpayload) hsum

theorem noteCall_accepted {id payload : String} (hid : id ∈ noteIds)
    (hpayload : utf8Length (JsonValue.string payload).serialize ≤ 173000)
    {database : OutboxDatabase} (hgroup : "group" ∈ database.syncGroupIds)
    (hfresh : ∀ row ∈ database.outbox, row.id ≠ id ∧ row.envelopeId ≠ id) :
    ∃ later, (noteCall id payload).program.run nativeConnection database =
        (.ok (noteRow id payload), later) ∧
      later.syncGroupIds = database.syncGroupIds ∧
      later.outbox.rows = database.outbox.rows ++ [noteRow id payload] := by
  have hsize : utf8Length (noteEnvelopeJson id (.string payload)).serialize ≤
      maxSyncEnvelopeSizeBytes := by
    rw [utf8Length_noteEnvelope hid, maxSyncEnvelopeSizeBytes]
    omega
  have hinsert : (database.outbox.insert? (noteRow id payload)).isSome := by
    apply Table.insert?_isSome
    intro index hindex key hkey other hother hsame
    simp only [outboxIndexes, List.mem_cons, List.not_mem_nil, or_false] at hindex
    rcases hindex with rfl | rfl
    · have hid' : id = key := Option.some.inj hkey
      exact (hfresh other hother).1 ((Option.some.inj hsame).trans hid'.symm)
    · have hid' : id = key := Option.some.inj hkey
      exact (hfresh other hother).2 ((Option.some.inj hsame).trans hid'.symm)
  obtain ⟨table, htable⟩ := Option.isSome_iff_exists.mp hinsert
  have hmember : (noteRow id payload).syncGroupId ∈ database.syncGroupIds := hgroup
  have hrun : (insertStatement (noteRow id payload)).run database =
      .ok { database := { database with outbox := table }, rows := [], rowsAffected := 1 } := by
    simp only [insertStatement, Statement.run, htable, if_pos hmember]
  have htransaction : transactionJson [collect (insertStatement (noteRow id payload))]
      database = .ok { database with outbox := table } :=
    transactionJson_single.mpr ⟨(noteRow_sql id payload).1, noteRow_request hid hpayload,
      collect_run_eq_ok_iff.mpr ⟨_, hrun, rfl, rfl⟩⟩
  refine ⟨{ database with outbox := table }, ?_, rfl, Table.insert?_eq_some_iff.mp htable⟩
  rw [program_of_valid (validateEnvelope_note hid hsize)]
  exact executeWithin_run_ok htransaction

theorem notes_accepted {ids : List String} (hids : ∀ id ∈ ids, id ∈ noteIds)
    (hdistinct : ids.Nodup) {payload : String}
    (hpayload : utf8Length (JsonValue.string payload).serialize ≤ 173000)
    {database : OutboxDatabase} (hgroup : "group" ∈ database.syncGroupIds)
    (hfresh : ∀ row ∈ database.outbox, row.id ∉ ids ∧ row.envelopeId ∉ ids) :
    AllAccepted (ids.map fun id => noteCall id payload) database ∧
      (afterEnqueues (ids.map fun id => noteCall id payload) database).outbox.rows =
        database.outbox.rows ++ ids.map fun id => noteRow id payload := by
  induction ids generalizing database with
  | nil => exact ⟨trivial, (List.append_nil _).symm⟩
  | cons id ids ih =>
      obtain ⟨hnew, hdistinct⟩ := List.nodup_cons.mp hdistinct
      have hidFresh : ∀ row ∈ database.outbox, row.id ≠ id ∧ row.envelopeId ≠ id := by
        intro row hrow
        obtain ⟨hid, henvelope⟩ := hfresh row hrow
        constructor
        · rintro rfl
          exact hid List.mem_cons_self
        · rintro rfl
          exact henvelope List.mem_cons_self
      obtain ⟨later, hrun, hgroups, hrows⟩ :=
        noteCall_accepted (hids id List.mem_cons_self) hpayload hgroup hidFresh
      have hlaterFresh : ∀ row ∈ later.outbox, row.id ∉ ids ∧ row.envelopeId ∉ ids := by
        intro row hrow
        rw [Table.mem_def, hrows] at hrow
        rcases List.mem_append.mp hrow with hold | hadded
        · obtain ⟨hid, henvelope⟩ := hfresh row hold
          exact ⟨fun hmem => hid (List.mem_cons_of_mem _ hmem),
            fun hmem => henvelope (List.mem_cons_of_mem _ hmem)⟩
        · rw [List.mem_singleton.mp hadded]
          exact ⟨hnew, hnew⟩
      have hstep : ((noteCall id payload).program.run nativeConnection database).2 = later := by
        rw [hrun]
      obtain ⟨haccepted, hafter⟩ := ih
        (fun other hother => hids other (List.mem_cons_of_mem _ hother)) hdistinct
        (hgroups ▸ hgroup) hlaterFresh
      rw [List.map_cons, List.map_cons, AllAccepted, afterEnqueues, List.foldl_cons, hstep]
      constructor
      · exact ⟨⟨_, congrArg Prod.fst hrun⟩, haccepted⟩
      · rw [afterEnqueues, hrows, List.append_assoc] at hafter
        exact hafter

theorem rowBytes_noteRow {id : String} (hid : id ∈ noteIds) (payload : String) :
    12 * utf8Length (JsonValue.string payload).serialize ≤
      rowBytes outboxColumns (noteRow id payload) := by
  have henvelope := utf8Length_noteEnvelope hid (.string payload)
  simp only [rowBytes, outboxColumns, List.map_cons, List.map_nil, List.sum_cons,
    List.sum_nil, cellBytes, rawSize, noteRow, newRow, noteEnvelope, noteOperation,
    SqlValue.ofText?, JsonValue.stringify, String.toList_ofList]
  omega

theorem le_resultBytes {Row : Type} {columns : List (Column Row)} {rows : List Row}
    {bound : Nat} (hrows : ∀ row ∈ rows, bound ≤ rowBytes columns row) :
    rows.length * bound ≤ resultBytes columns rows := by
  induction rows with
  | nil => simp
  | cons row rows ih =>
      have hrow := hrows row List.mem_cons_self
      have hrest := ih fun other hother => hrows other (List.mem_cons_of_mem _ hother)
      rw [List.length_cons, resultBytes_cons, Nat.add_mul]
      omega

def noteText (length : Nat) : String :=
  String.ofList (List.replicate length 'a')

theorem utf8Length_noteText (length : Nat) :
    utf8Length (JsonValue.string (noteText length)).serialize = length + 2 := by
  have hplain : (List.replicate length 'a').flatMap quoteChar =
      List.replicate length 'a' := by
    induction length with
    | zero => rfl
    | succ length ih =>
        have hletter : quoteChar 'a' = ['a'] := by decide
        rw [List.replicate_succ, List.flatMap_cons, ih, hletter]
        rfl
  have hquote : ('"' : Char).utf8Size = 1 := by decide
  have hletter : ('a' : Char).utf8Size = 1 := by decide
  have hsum : utf8Length (List.replicate length 'a') = length := by
    rw [utf8Length, List.map_replicate, List.sum_replicate, hletter]
    simp
  rw [JsonValue.serialize, quoteText, noteText, String.toList_ofList, hplain,
    utf8Length_append, utf8Length_cons, hsum, utf8Length_cons, utf8Length_nil, hquote]
  omega

def sixNotes (length : Nat) : List EnqueueCall :=
  noteIds.map fun id => noteCall id (noteText length)

theorem not_mem_emptyOutbox {syncGroupIds : List String} {row : OutboxRow} :
    row ∉ (emptyOutbox syncGroupIds).outbox := by
  intro hrow
  cases hrow

theorem sixNotes_wedge {length : Nat} (hwide : 145634 ≤ length) (hlength : length ≤ 172998) :
    AllAccepted (sixNotes length) (emptyOutbox ["group"]) ∧
      ¬ ∃ records, ((pendingBatch "org" (.finite (.integer 50))).run nativeConnection
        (afterEnqueues (sixNotes length) (emptyOutbox ["group"]))).1 = .ok records := by
  have hwidth := utf8Length_noteText length
  have hfits : utf8Length (JsonValue.string (noteText length)).serialize ≤ 173000 := by omega
  obtain ⟨haccepted, hrows⟩ := notes_accepted (fun _ hid => hid) (by decide) hfits
    (List.mem_singleton_self "group")
    (fun row hrow => absurd hrow not_mem_emptyOutbox)
  refine ⟨haccepted, ?_⟩
  have hnone : ∀ row ∈ (emptyOutbox ["group"]).outbox, IsEnqueued row :=
    fun row hrow => absurd hrow not_mem_emptyOutbox
  have henqueued := isEnqueued_of_mem_afterEnqueues (sixNotes length) hnone
  have hlimit : admittedLimit? (.finite (.integer 50)) = some 50 := by decide
  rw [pendingBatch_run_isOk (by decide) hlimit henqueued]
  have hempty : (emptyOutbox ["group"]).outbox.rows = [] := rfl
  rw [← sixNotes, hempty] at hrows
  generalize (afterEnqueues (sixNotes length) (emptyOutbox ["group"])).outbox = outbox
    at hrows
  have hnotes : ∀ row ∈ outbox, ∃ id ∈ noteIds, row = noteRow id (noteText length) := by
    intro row hrow
    rw [Table.mem_def, hrows, List.nil_append] at hrow
    obtain ⟨id, hid, hsame⟩ := List.mem_map.mp hrow
    exact ⟨id, hid, hsame.symm⟩
  have hbound : ∀ row ∈ (pendingRows "org" outbox).take (50 : Int).toNat,
      12 * (length + 2) ≤ rowBytes outboxColumns row := by
    intro row hrow
    have hpending := List.mem_of_mem_take hrow
    rw [pendingRows, Table.mem_orderBy, Table.mem_select] at hpending
    obtain ⟨id, hid, rfl⟩ := hnotes row hpending.1
    have hbytes := rowBytes_noteRow hid (noteText length)
    rwa [hwidth] at hbytes
  have hcount : ((pendingRows "org" outbox).take (50 : Int).toNat).length = 6 := by
    have hall : outbox.rows.filter (fun row =>
        decide (row.status = .pending) && decide (row.organisationId = "org")) =
          outbox.rows := by
      rw [List.filter_eq_self]
      intro row hrow
      obtain ⟨id, -, rfl⟩ := hnotes row hrow
      rfl
    have hsix : outbox.rows.length = 6 := by
      rw [hrows, List.nil_append, List.length_map]
      rfl
    rw [List.length_take, pendingRows, Table.length_orderBy, Table.select, hall, hsix]
    rfl
  have hestimate := le_resultBytes hbound
  rw [hcount] at hestimate
  rintro ⟨-, -, hbytes⟩
  rw [maxQueryResultBytes] at hbytes
  omega

/-- All six are accepted, and no batch of their organisation is read any more. -/
theorem wideNotes_wedge :
    AllAccepted (sixNotes 170000) (emptyOutbox ["group"]) ∧
      ¬ ∃ records, ((pendingBatch "org" (.finite (.integer 50))).run nativeConnection
        (afterEnqueues (sixNotes 170000) (emptyOutbox ["group"]))).1 = .ok records :=
  sixNotes_wedge (by decide) (by decide)

theorem wideNotes_exceed :
    ¬ (RequestFits (pendingStatement "org" 50) ∧
      resultBytes outboxColumns ((pendingRows "org"
        (afterEnqueues (sixNotes 170000) (emptyOutbox ["group"])).outbox).take
          (50 : Int).toNat) ≤ maxQueryResultBytes) := by
  intro hfits
  have hwide : 145634 ≤ 170000 := by decide
  apply (sixNotes_wedge hwide (by decide)).2
  exact (pendingBatch_reads_back_iff (sixNotes 170000) ["group"] "org"
    (.finite (.integer 50)) 50 (by decide) (by decide)).mpr hfits

end OutboxService
end TauriPlatform
