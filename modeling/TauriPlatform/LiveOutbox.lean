import TauriPlatform.LiveEnvelope
import TauriPlatform.OutboxSending

/-!
# Reading back a built envelope

`enqueue` takes the envelope which `build` has made, as JavaScript code holds it, and stores
its JSON beside its columns.  Reading compares the columns with the JSON again; whatever the
payload holds, the two still agree.
-/

namespace TauriPlatform.OutboxService

open Async Relational SyncEnvelopeBuilder

/-! ## Enqueueing a live envelope -/

def liveText (value : JsValue) (field : String) : String :=
  ((value.get? field).bind JsValue.string?).getD ""

def liveVersion (value : JsValue) (field : String) : Int :=
  ((value.get? field).bind JsValue.safeInteger?).getD 0

def liveOperationType (operation : JsValue) : OperationType :=
  match liveText operation "operation" with
  | "create" => .create
  | "update" => .update
  | _ => .delete

/-- `JSON.stringify` of a value which validation has written already. -/
def liveJson (value : JsValue) : String :=
  match value.stringify with
  | .ok (some text) => text
  | _ => "undefined"

/-- The row which `enqueue` inserts for a live envelope. -/
def newLiveRow (id now : String) (envelope : JsValue) : OutboxRow :=
  let operation := (envelope.get? "operation").getD .undefined
  { id := id
    createdAt := now
    envelopeId := liveText envelope "envelopeId"
    organisationId := liveText operation "organisationId"
    syncGroupId := liveText operation "syncGroupId"
    featureId := liveText operation "featureId"
    entityType := liveText operation "entityType"
    entityId := liveText operation "entityId"
    operation := liveOperationType operation
    payloadJson := liveJson ((operation.get? "payload").getD .undefined)
    authorId := liveText operation "authorId"
    deviceId := liveText operation "deviceId"
    logicalTimestamp := liveText operation "logicalTimestamp"
    schemaVersion := liveVersion operation "schemaVersion"
    protocolVersion := liveVersion operation "protocolVersion"
    signerPublicKey := liveText envelope "signerPublicKey"
    signature := liveText envelope "signature"
    status := .pending
    attemptCount := 0
    lastAttemptAt := none
    sentAt := none
    envelopeJson := some (liveJson envelope) }

/-- `OutboxService.enqueue` of a live envelope. -/
def enqueueLive {Call : Type → Type 1} (executor : Executor OutboxDatabase Call)
    (id now : String) (envelope : JsValue) : Program Call Thrown OutboxRow :=
  match validateLiveEnvelope envelope with
  | .error message =>
      throw (validationError s!"Invalid outbox envelope: {message}"
        "The sync operation is invalid or too large" "outbox_envelope_invalid")
  | .ok _ => do
      executor.execute (insertStatement (newLiveRow id now envelope))
      pure (newLiveRow id now envelope)

/-! ## What is stored -/

structure FieldsOf (operation : JsonValue) (validated : SyncOperation) : Prop where
  operationId : operation.get? "operationId" = some (.string validated.operationId)
  organisationId : operation.get? "organisationId" = some (.string validated.organisationId)
  syncGroupId : operation.get? "syncGroupId" = some (.string validated.syncGroupId)
  featureId : operation.get? "featureId" = some (.string validated.featureId)
  entityType : operation.get? "entityType" = some (.string validated.entityType)
  entityId : operation.get? "entityId" = some (.string validated.entityId)
  authorId : operation.get? "authorId" = some (.string validated.authorId)
  deviceId : operation.get? "deviceId" = some (.string validated.deviceId)
  logicalTimestamp :
    operation.get? "logicalTimestamp" = some (.string validated.logicalTimestamp)
  operationType : requireOperationType operation = .ok validated.operation
  schemaVersion : (operation.get? "schemaVersion").bind JsonValue.safeInteger? =
    some validated.schemaVersion
  protocolVersion : (operation.get? "protocolVersion").bind JsonValue.safeInteger? =
    some validated.protocolVersion
  payload : operation.get? "payload" = some validated.payload

variable {operation : JsonValue}

theorem requireField_eq_ok {field text : String}
    (hfield : requireField operation field = .ok text) :
    operation.get? field = some (.string text) := by
  unfold requireField at hfield
  split at hfield
  · rename_i value hvalue
    split_ifs at hfield
    cases hfield
    exact hvalue
  · cases hfield

theorem requireVersion_eq_ok {field : String} {version : Int}
    (hversion : requireVersion operation field = .ok version) :
    (operation.get? field).bind JsonValue.safeInteger? = some version := by
  unfold requireVersion at hversion
  split at hversion
  · rename_i found hfound
    split_ifs at hversion
    cases hversion
    exact hfound
  · cases hversion

theorem validateOperation_fields {validated : SyncOperation}
    (haccepted : validateOperation operation = .ok validated) : FieldsOf operation validated := by
  have hchecks := validateOperation_eq_ok_iff.mp haccepted
  exact ⟨requireField_eq_ok hchecks.operationId, requireField_eq_ok hchecks.organisationId,
    requireField_eq_ok hchecks.syncGroupId, requireField_eq_ok hchecks.featureId,
    requireField_eq_ok hchecks.entityType, requireField_eq_ok hchecks.entityId,
    requireField_eq_ok hchecks.authorId, requireField_eq_ok hchecks.deviceId,
    requireField_eq_ok hchecks.logicalTimestamp, hchecks.operationType,
    requireVersion_eq_ok hchecks.schemaVersion, requireVersion_eq_ok hchecks.protocolVersion,
    hchecks.payload⟩

theorem validateEnvelope_keys {envelope : JsonValue} {validated : SyncEnvelope}
    (haccepted : validateEnvelope envelope = .ok validated) :
    envelope.get? "signerPublicKey" = some (.string validated.signerPublicKey) ∧
      envelope.get? "signature" = some (.string validated.signature) := by
  have hchecks := validateEnvelope_eq_ok_iff.mp haccepted
  exact ⟨(validatePublicKeyFormat_eq_ok hchecks.signerPublicKey).1,
    (validateSignature_eq_ok hchecks.signature).1⟩

theorem holdsBigInt_get? {value found : JsValue} {key : String}
    (hnone : value.holdsBigInt = false) (hfound : value.get? key = some found) :
    found.holdsBigInt = false := by
  cases value with
  | object entries =>
      rw [JsValue.holdsBigInt, JsValue.entriesHoldBigInt_eq_false] at hnone
      obtain ⟨front, back, hsplit, -⟩ := List.lookup_eq_some_iff.mp hfound
      apply hnone (key, found)
      rw [hsplit]
      exact List.mem_append_right _ List.mem_cons_self
  | _ => cases hfound

theorem liveJson_eq {value : JsValue} {written : JsonValue}
    (hnone : value.holdsBigInt = false)
    (hwritten : value.json JsValue.stringifying = some written) :
    liveJson value = written.stringify := by
  rw [liveJson, JsValue.stringify, if_neg (by simp [hnone]), hwritten]
  rfl

section Built

variable {operation : JsValue} {entries : List (String × JsValue)} {signedAt publicKey
  signature : String}

/-- What `JSON.parse(JSON.stringify(envelope))` gives for a valid envelope, with how it was
validated. -/
structure Transported (envelope : JsValue) (received : JsonValue) (validated : SyncEnvelope) :
    Prop where
  written : envelope.json JsValue.stringifying = some received
  noBigInt : envelope.holdsBigInt = false
  enumerated : received.IsEnumerated
  valid : validateEnvelope received = .ok validated

theorem Transported.transported {envelope : JsValue} {received : JsonValue}
    {validated : SyncEnvelope} (htransported : Transported envelope received validated) :
    SyncEnvelopeBuilder.transported envelope = some received := by
  rw [SyncEnvelopeBuilder.transported, JsValue.stringify,
    if_neg (by simp [htransported.noBigInt]), htransported.written]
  exact parseJson?_stringify htransported.enumerated

theorem exists_transported (henumerated : operation.IsEnumerated)
    (hlive : validateLiveEnvelope (liveEnvelope operation signedAt publicKey signature) = .ok ()) :
    ∃ received validated,
      Transported (liveEnvelope operation signedAt publicKey signature) received validated := by
  obtain ⟨received, _, validated, htext, hreceived, hvalid, -, -⟩ :=
    validateEnvelope_json henumerated hlive
  have hjson : ∃ written, (liveEnvelope operation signedAt publicKey signature).json
      JsValue.stringifying = some written := ⟨_, rfl⟩
  obtain ⟨written, hwritten⟩ := hjson
  have hnone : (liveEnvelope operation signedAt publicKey signature).holdsBigInt = false := by
    rw [← Bool.not_eq_true]
    intro hsome
    rw [JsValue.stringify, if_pos hsome] at htext
    cases htext
  -- both are parsed from the text of the envelope
  have hsame : written = received := by
    rw [JsValue.stringify, if_neg (by simp [hnone]), hwritten] at htext
    have htexts : written.stringify = received.stringify :=
      Option.some.inj (Except.ok.inj htext)
    have hparsed := parseJson?_stringify (JsValue.isEnumerated_json _
      (isEnumerated_liveEnvelope henumerated signedAt publicKey signature) _ hwritten)
    rw [htexts, parseJson?_stringify hreceived] at hparsed
    exact (Option.some.inj hparsed).symm
  rw [hsame] at hwritten
  exact ⟨received, validated, hwritten, hnone, hreceived, hvalid⟩

/-! ## The columns -/

theorem liveText_eq (hnodup : (entries.map Prod.fst).Nodup) {field text : String}
    (hfield : requireLiveField (.object entries) field = .ok ())
    (hwritten : (JsonValue.object (JsValue.jsonEntries JsValue.stringifying entries)).get? field =
      some (.string text)) :
    liveText (.object entries) field = text := by
  obtain ⟨found, hfound, -⟩ := requireField_json hnodup hfield
  rw [get?_json_string hnodup hfound] at hwritten
  cases hwritten
  rw [liveText, hfound, Option.getD_some]

theorem liveVersion_eq (hnodup : (entries.map Prod.fst).Nodup) {field : String} {version : Int}
    (hversion : requireLiveVersion (.object entries) field = .ok ())
    (hwritten : ((JsonValue.object (JsValue.jsonEntries JsValue.stringifying entries)).get?
      field).bind JsonValue.safeInteger? = some version) :
    liveVersion (.object entries) field = version := by
  unfold requireLiveVersion at hversion
  split at hversion
  · rename_i found hfound
    obtain ⟨value, hvalue, hsafe⟩ := Option.bind_eq_some_iff.mp hfound
    rw [get?_json hnodup, hvalue] at hwritten
    cases value with
    | primitive value =>
        cases value with
        | number value =>
            cases value with
            | finite value =>
                have hsame : found = version := Option.some.inj (hsafe.symm.trans hwritten)
                rw [liveVersion, hfound, Option.getD_some, hsame]
            | nonFinite _ => cases hsafe
        | _ => cases hsafe
    | _ => cases hsafe
  · cases hversion

theorem liveOperationType_eq (hnodup : (entries.map Prod.fst).Nodup)
    {operationType : OperationType}
    (htype : requireLiveOperationType (.object entries) = .ok ())
    (hwritten : requireOperationType
      (.object (JsValue.jsonEntries JsValue.stringifying entries)) = .ok operationType) :
    liveOperationType (.object entries) = operationType := by
  unfold requireLiveOperationType at htype
  unfold requireOperationType at hwritten
  split at htype
  · rename_i hfound
    rw [get?_json_string hnodup hfound] at hwritten
    cases hwritten
    rw [liveOperationType, liveText, hfound]
    rfl
  · rename_i hfound
    rw [get?_json_string hnodup hfound] at hwritten
    cases hwritten
    rw [liveOperationType, liveText, hfound]
    rfl
  · rename_i hfound
    rw [get?_json_string hnodup hfound] at hwritten
    cases hwritten
    rw [liveOperationType, liveText, hfound]
    rfl
  · cases htype

theorem newLiveRow_eq (henumerated : operation.IsEnumerated)
    (hlive : validateLiveEnvelope (liveEnvelope operation signedAt publicKey signature) = .ok ())
    {received : JsonValue} {validated : SyncEnvelope}
    (htransported : Transported (liveEnvelope operation signedAt publicKey signature) received
      validated) (id now : String) :
    newLiveRow id now (liveEnvelope operation signedAt publicKey signature) =
      newRow id now received validated := by
  unfold validateLiveEnvelope at hlive
  obtain ⟨_, -, hlive⟩ := check_bind_eq_ok hlive
  obtain ⟨_, hoperation, -⟩ := check_bind_eq_ok hlive
  obtain ⟨entries, rfl⟩ := validateLiveOperation_object hoperation
  unfold validateLiveOperation at hoperation
  obtain ⟨_, -, hoperation⟩ := check_bind_eq_ok hoperation
  obtain ⟨_, hrequired, hoperation⟩ := check_bind_eq_ok hoperation
  obtain ⟨_, htype, hoperation⟩ := check_bind_eq_ok hoperation
  obtain ⟨_, hschemaVersion, hoperation⟩ := check_bind_eq_ok hoperation
  obtain ⟨_, hprotocolVersion, hoperation⟩ := check_bind_eq_ok hoperation
  have hchecked := MigrationEngine.forM_eq_ok hrequired
  simp only [requiredOperationFields, List.forall_mem_cons] at hchecked
  obtain ⟨h1, -, h3, h4, h5, h6, h7, h8, h9, h10, -⟩ := hchecked
  have hnodup := henumerated.nodup
  have houter := (isEnumerated_liveEnvelope henumerated signedAt publicKey signature).nodup
  obtain ⟨hwritten, hnone, -, hvalid⟩ := htransported
  have hlook : ∀ key, received.get? key =
      ((liveEnvelope (.object entries) signedAt publicKey signature).get? key).bind
        (JsValue.json JsValue.stringifying) := by
    intro key
    cases hwritten
    exact get?_json houter key
  obtain ⟨haccepted, henvelopeId⟩ := validateEnvelope_operation hvalid
  have hinner : (received.get? "operation").getD .null =
      .object (JsValue.jsonEntries JsValue.stringifying entries) := by
    rw [hlook]
    rfl
  rw [hinner] at haccepted
  have hfields := validateOperation_fields haccepted
  obtain ⟨hkey, hsignature⟩ := validateEnvelope_keys hvalid
  rw [hlook] at hkey hsignature
  have hpublicKey : liveText (liveEnvelope (.object entries) signedAt publicKey signature)
      "signerPublicKey" = validated.signerPublicKey := by
    cases hkey
    rfl
  have hsigned : liveText (liveEnvelope (.object entries) signedAt publicKey signature)
      "signature" = validated.signature := by
    cases hsignature
    rfl
  have hid : liveText (liveEnvelope (.object entries) signedAt publicKey signature)
      "envelopeId" = validated.envelopeId := by
    rw [henvelopeId, ← liveText_eq hnodup h1 hfields.operationId]
    change ((((JsValue.object entries).get? "operationId").getD .undefined).string?).getD "" =
      (((JsValue.object entries).get? "operationId").bind JsValue.string?).getD ""
    cases (JsValue.object entries).get? "operationId" with
    | none => rfl
    | some value => rfl
  have hpayload : liveJson (((JsValue.object entries).get? "payload").getD .undefined) =
      validated.operation.payload.stringify := by
    have hfound := hfields.payload
    rw [get?_json hnodup] at hfound
    obtain ⟨payload, hpayload, hjson⟩ := Option.bind_eq_some_iff.mp hfound
    have hoperation : (liveEnvelope (.object entries) signedAt publicKey signature).get?
        "operation" = some (.object entries) := rfl
    have hplain := holdsBigInt_get? hnone hoperation
    rw [hpayload, Option.getD_some, liveJson_eq (holdsBigInt_get? hplain hpayload) hjson]
  have hinside : ((liveEnvelope (.object entries) signedAt publicKey signature).get?
      "operation").getD .undefined = .object entries := rfl
  simp only [newLiveRow, newRow, hinside, hid, hpublicKey, hsigned, hpayload,
    liveJson_eq hnone hwritten, liveOperationType_eq hnodup htype hfields.operationType,
    liveVersion_eq hnodup hschemaVersion hfields.schemaVersion,
    liveVersion_eq hnodup hprotocolVersion hfields.protocolVersion,
    liveText_eq hnodup h3 hfields.organisationId, liveText_eq hnodup h4 hfields.syncGroupId,
    liveText_eq hnodup h5 hfields.featureId, liveText_eq hnodup h6 hfields.entityType,
    liveText_eq hnodup h7 hfields.entityId, liveText_eq hnodup h8 hfields.authorId,
    liveText_eq hnodup h9 hfields.deviceId,
    liveText_eq hnodup h10 hfields.logicalTimestamp]

end Built

/-! ## Later on -/

inductive LiveOperation where
  | enqueue (id now : String) (envelope : JsValue)
  | markSent (now : ClockReading) (envelopeId : String)
  | markFailed (now : ClockReading) (envelopeId : String) (maxAttempts : NumberValue)

def LiveOperation.program : LiveOperation → Program (DbCall OutboxDatabase) Thrown Unit
  | .enqueue id now envelope => do
      let _row ← enqueueLive (connectionExecutor OutboxDatabase) id now envelope
      pure ()
  | .markSent now envelopeId => OutboxService.markSent now envelopeId
  | .markFailed now envelopeId maxAttempts => OutboxService.markFailed now envelopeId maxAttempts

def afterLiveOperations (operations : List LiveOperation) (database : OutboxDatabase) :
    OutboxDatabase :=
  operations.foldl
    (fun database operation => (operation.program.run memoryConnection database).2) database

def content (row : OutboxRow) : OutboxRow :=
  { row with status := .pending, attemptCount := 0, lastAttemptAt := none, sentAt := none }

def KeepsContent (database later : OutboxDatabase) : Prop :=
  ∀ row ∈ database.outbox, ∃ new ∈ later.outbox, content new = content row

theorem keepsContent_refl (database : OutboxDatabase) : KeepsContent database database :=
  fun row hrow => ⟨row, hrow, rfl⟩

theorem keepsContent_execute {statement : Statement OutboxDatabase Unit}
    {database : OutboxDatabase}
    (hstatement : ∀ result, statement.run database = .ok result →
      KeepsContent database result.database) :
    KeepsContent database
      (((connectionExecutor OutboxDatabase).execute statement).run memoryConnection
        database).2 := by
  cases hrun : statement.run database with
  | ok result =>
      rw [memory_execute_run hrun]
      exact hstatement result hrun
  | error message =>
      obtain ⟨error, herror⟩ := memory_execute_run_error hrun
      rw [herror]
      exact keepsContent_refl database

theorem keepsContent_insert (row : OutboxRow) (database : OutboxDatabase) :
    KeepsContent database
      (((connectionExecutor OutboxDatabase).execute (insertStatement row)).run memoryConnection
        database).2 := by
  apply keepsContent_execute
  intro result hrun old hold
  refine ⟨old, ?_, rfl⟩
  rw [Table.mem_def, insertStatement_run_ok hrun]
  exact List.mem_append_left _ hold

theorem keepsContent_update {sql envelopeId : String} {params : List JsonValue}
    {set : OutboxRow → OutboxRow} (hset : ∀ row, content (set row) = content row)
    (database : OutboxDatabase) :
    KeepsContent database
      (((connectionExecutor OutboxDatabase).execute
        (updateStatement sql params envelopeId set)).run memoryConnection database).2 := by
  apply keepsContent_execute
  intro result hrun row hrow
  have hid : ∀ row, (set row).id = row.id := by
    intro row
    have hsame := congrArg OutboxRow.id (hset row)
    exact hsame
  have henvelope : ∀ row, (set row).envelopeId = row.envelopeId := by
    intro row
    have hsame := congrArg OutboxRow.envelopeId (hset row)
    exact hsame
  obtain ⟨updated, hupdated, -, hrows⟩ :=
    OutboxSyncWorker.updateStatement_run_ok sql params envelopeId hid henvelope database
  rw [hrun] at hupdated
  obtain rfl := Except.ok.inj hupdated
  refine ⟨Table.updateRow (fun row => row.envelopeId = envelopeId)
    (OutboxSyncWorker.whilePending set) row, ?_, ?_⟩
  · rw [Table.mem_def, hrows]
    exact List.mem_map_of_mem hrow
  · unfold Table.updateRow OutboxSyncWorker.whilePending
    split_ifs
    · exact hset row
    · rfl
    · rfl

theorem keepsContent_operation (operation : LiveOperation) (database : OutboxDatabase) :
    KeepsContent database (operation.program.run memoryConnection database).2 := by
  cases operation with
  | enqueue id now envelope =>
      simp only [LiveOperation.program, enqueueLive]
      rw [Program.run_bind_pure_state]
      split
      · exact keepsContent_refl database
      · rw [Program.run_bind_pure_state]
        exact keepsContent_insert _ database
  | markSent now envelopeId =>
      have hset : ∀ row, content (sent now.iso row) = content row := fun _ => rfl
      exact keepsContent_update hset database
  | markFailed now envelopeId maxAttempts =>
      simp only [LiveOperation.program, OutboxService.markFailed]
      split
      · exact keepsContent_refl database
      · rename_i limit _
        have hset : ∀ row, content (failedAttempt now.iso limit row) = content row :=
          fun _ => rfl
        exact keepsContent_update hset database

theorem keepsContent_afterLiveOperations (operations : List LiveOperation)
    (database : OutboxDatabase) :
    KeepsContent database (afterLiveOperations operations database) := by
  induction operations generalizing database with
  | nil => exact keepsContent_refl database
  | cons operation operations ih =>
      intro row hrow
      obtain ⟨new, hnew, hcontent⟩ := keepsContent_operation operation database row hrow
      obtain ⟨last, hlast, hcontent'⟩ := ih _ new hnew
      exact ⟨last, hlast, hcontent'.trans hcontent⟩

/-! ## Reading a batch -/

theorem readRecord_of_content {row : OutboxRow} {id now : String} {received : JsonValue}
    {validated : SyncEnvelope} (hcontent : content row = newRow id now received validated)
    (henumerated : received.IsEnumerated) (hvalid : validateEnvelope received = .ok validated) :
    readRecord row = .ok ⟨row, received.stringify⟩ := by
  have hparse := parseJson?_stringify henumerated
  cases row
  simp only [content, newRow, OutboxRow.mk.injEq] at hcontent
  obtain ⟨rfl, rfl, rfl, rfl, rfl, rfl, rfl, rfl, rfl, rfl, rfl, rfl, rfl, rfl, rfl, rfl, rfl, -, -,
    -, -, rfl⟩ := hcontent
  simp [readRecord, checkPersisted, hparse, hvalid, ensure, bind, Except.bind, pure, Except.pure]

theorem exists_of_mapM_eq_error {ε α β : Type} {f : α → Except ε β} {items : List α} {error : ε}
    (herror : items.mapM f = .error error) : ∃ item ∈ items, f item = .error error := by
  induction items with
  | nil => cases herror
  | cons item items ih =>
      rw [List.mapM_cons] at herror
      cases hfirst : f item with
      | error first =>
          rw [hfirst] at herror
          cases herror
          exact ⟨item, List.mem_cons_self, hfirst⟩
      | ok result =>
          rw [hfirst] at herror
          cases hrest : items.mapM f with
          | error error =>
              rw [hrest] at herror
              cases herror
              obtain ⟨other, hother, herror⟩ := ih hrest
              exact ⟨other, List.mem_cons_of_mem _ hother, herror⟩
          | ok rest =>
              rw [hrest] at herror
              cases herror

/-- No batch fails because of the row of the envelope, and a batch which selects the row
returns it with the envelope. -/
structure ReadsBack (database : OutboxDatabase) (envelopeId : String) (received : JsonValue) :
    Prop where
  blameless : ∀ organisationId limit error,
    ((pendingBatch organisationId limit).run memoryConnection database).1 = .error error →
      isBlank organisationId = true ∨ admittedLimit? limit = none ∨
        ∃ size, admittedLimit? limit = some size ∧
          ∃ row ∈ (pendingRows organisationId database.outbox).take size.toNat,
            row.envelopeId ≠ envelopeId ∧ readRecord row = .error error
  returned : ∀ organisationId limit size batch,
    ((pendingBatch organisationId limit).run memoryConnection database).1 = .ok batch →
      admittedLimit? limit = some size →
        ∀ row ∈ (pendingRows organisationId database.outbox).take size.toNat,
          row.envelopeId = envelopeId →
            ∃ record ∈ batch, record.row = row ∧ parseJson? record.envelopeJson = some received

theorem readsBack_of_read {database : OutboxDatabase} {envelopeId : String}
    {received : JsonValue}
    (hread : ∀ row ∈ database.outbox, row.envelopeId = envelopeId →
      ∃ text, readRecord row = .ok ⟨row, text⟩ ∧ parseJson? text = some received) :
    ReadsBack database envelopeId received where
  blameless organisationId limit error herror := by
    unfold pendingBatch at herror
    split at herror
    · rename_i hblank
      exact .inl hblank
    · split at herror
      · rename_i hlimit
        exact .inr (.inl hlimit)
      · rename_i size hlimit
        change ((pendingRows organisationId database.outbox).take size.toNat).mapM readRecord =
          .error error at herror
        obtain ⟨row, hrow, hfailed⟩ := exists_of_mapM_eq_error herror
        refine .inr (.inr ⟨size, hlimit, row, hrow, ?_, hfailed⟩)
        intro hsame
        have hselected := List.mem_of_mem_take hrow
        obtain ⟨text, hok, -⟩ := hread row (mem_pendingRows.mp hselected).1 hsame
        rw [hok] at hfailed
        cases hfailed
  returned organisationId limit size batch hok hlimit row hrow hsame := by
    obtain ⟨size', hlimit', hbatch⟩ := OutboxSyncWorker.pendingBatch_run_eq_ok hok
    rw [hlimit] at hlimit'
    cases hlimit'
    have hselected := List.mem_of_mem_take hrow
    obtain ⟨text, hrecord, hparse⟩ := hread row (mem_pendingRows.mp hselected).1 hsame
    obtain ⟨record, hrecordMem, hrecord'⟩ := OutboxSyncWorker.exists_record_of_read hbatch hrow
    rw [hrecord] at hrecord'
    cases hrecord'
    exact ⟨_, hrecordMem, rfl, hparse⟩

/-- An envelope which has been built and stored is read back as what is sent for it, whatever
happens to the outbox afterwards. -/
theorem built_reads_back {operation envelope : JsValue} {signerPublicKey : String}
    {signFn : ByteArray → Except String String} {builtAt : ClockReading}
    (henumerated : operation.IsEnumerated)
    (hbuilt : build operation signerPublicKey signFn builtAt = .ok envelope)
    {id now : String} {database stored : OutboxDatabase} {row : OutboxRow}
    (hstored : (enqueueLive (connectionExecutor OutboxDatabase) id now envelope).run
      memoryConnection database = (.ok row, stored)) (operations : List LiveOperation) :
    ∃ received, transported envelope = some received ∧
      ReadsBack (afterLiveOperations operations stored) row.envelopeId received := by
  obtain ⟨signature, rfl, hlive⟩ := build_eq_ok hbuilt
  obtain ⟨received, validated, htransported⟩ := exists_transported henumerated hlive
  refine ⟨received, htransported.transported, ?_⟩
  have hrow := newLiveRow_eq henumerated hlive htransported id now
  simp only [enqueueLive, hlive] at hstored
  obtain ⟨_, inserted, hinsert, hdone⟩ := Program.run_bind_eq_ok hstored
  cases hdone
  rw [hrow] at hinsert ⊢
  have hmem : newRow id now received validated ∈ stored.outbox := by
    cases hrun : (insertStatement (newRow id now received validated)).run database with
    | ok result =>
        rw [memory_execute_run hrun] at hinsert
        cases hinsert
        rw [Table.mem_def, insertStatement_run_ok hrun]
        exact List.mem_append_right _ (List.mem_singleton_self _)
    | error message =>
        obtain ⟨error, herror⟩ := memory_execute_run_error hrun
        rw [herror] at hinsert
        cases hinsert
  obtain ⟨new, hnew, hcontent⟩ := keepsContent_afterLiveOperations operations stored _ hmem
  apply readsBack_of_read
  intro other hother hsame
  have hsame' : other = new :=
    OutboxSyncWorker.eq_of_envelopeId_eq hother hnew
      (hsame.trans (congrArg OutboxRow.envelopeId hcontent).symm)
  rw [hsame']
  exact ⟨received.stringify, readRecord_of_content hcontent htransported.enumerated
    htransported.valid, parseJson?_stringify htransported.enumerated⟩

theorem exists_enqueueLive_run {envelope : JsValue} {syncGroupIds : List String}
    (id now : String) (hlive : validateLiveEnvelope envelope = .ok ())
    (hgroup : (newLiveRow id now envelope).syncGroupId ∈ syncGroupIds) :
    ∃ stored, (enqueueLive (connectionExecutor OutboxDatabase) id now envelope).run
      memoryConnection (emptyOutbox syncGroupIds) =
        (.ok (newLiveRow id now envelope), stored) := by
  generalize hrow : newLiveRow id now envelope = row at hgroup ⊢
  have hinsert : ((emptyOutbox syncGroupIds).outbox.insert? row).isSome :=
    Table.insert?_isSome fun _ _ _ _ other hother => absurd hother List.not_mem_nil
  obtain ⟨table, htable⟩ := Option.isSome_iff_exists.mp hinsert
  have hresult : (insertStatement row).run (emptyOutbox syncGroupIds) = .ok {
      database := { emptyOutbox syncGroupIds with outbox := table }
      rows := []
      rowsAffected := 1 } := by
    have hknown : row.syncGroupId ∈ (emptyOutbox syncGroupIds).syncGroupIds := hgroup
    simp only [insertStatement, Statement.run, htable, if_pos hknown]
  refine ⟨{ emptyOutbox syncGroupIds with outbox := table }, ?_⟩
  simp only [enqueueLive, hlive, hrow]
  rw [Program.run_bind_ok _ (memory_execute_run hresult)]
  rfl

theorem datedNote_reads_back :
    ∃ envelope row stored received,
      build (liveNote datedPayload) notePublicKey (fun _ => .ok noteSignature) noteReading =
        .ok envelope ∧
      (enqueueLive (connectionExecutor OutboxDatabase) "outbox-1" noteReading.iso envelope).run
        memoryConnection (emptyOutbox ["group"]) = (.ok row, stored) ∧
      transported envelope = some received ∧
      ReadsBack (afterLiveOperations [.markFailed noteReading "op-1" defaultMaxAttempts] stored)
        row.envelopeId received := by
  obtain ⟨hbuilt, -⟩ := build_datedNote
  obtain ⟨_, -, hlive⟩ := build_eq_ok hbuilt
  obtain ⟨stored, hstored⟩ :=
    exists_enqueueLive_run "outbox-1" noteReading.iso hlive List.mem_cons_self
  obtain ⟨received, htransported, hreads⟩ := built_reads_back
    (isEnumerated_liveNote isEnumerated_datedPayload) hbuilt hstored
    [.markFailed noteReading "op-1" defaultMaxAttempts]
  exact ⟨_, _, stored, received, hbuilt, hstored, htransported, hreads⟩

end TauriPlatform.OutboxService
