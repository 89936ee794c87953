import TauriPlatform.AtomicConnections
import TauriPlatform.DatabaseParts
import TauriPlatform.ImportParsing
import TauriPlatform.PairingService
import TauriPlatform.ReadingRange

/-!
# Importing rows

`ImportEngine.executeImport` records the start of an import, validates all rows, and commits them
in one transaction together with the event of their completion.  A failure is recorded outside of
the transaction.
-/

namespace TauriPlatform

open Async Relational

/-! ## The metadata of events -/

namespace PlainValue

mutual

/-- What `JSON.stringify` writes; an `undefined` is not written. -/
def json : PlainValue → Except Thrown (Option JsonValue)
  | .undefined => .ok none
  | .null => .ok (some .null)
  | .bool value => .ok (some (.bool value))
  | .number (.finite value) => .ok (some (.number value))
  | .number (.nonFinite _) => .ok (some .null)
  | .bigint _ => .error (.builtin "TypeError" "Do not know how to serialize a BigInt")
  | .string value => .ok (some (.string value))
  | .array items => (jsonItems items).map fun items => some (.array items)
  | .object entries => (jsonEntries entries).map fun entries => some (.object entries)
termination_by structural value => value

def jsonItems : List PlainValue → Except Thrown (List JsonValue)
  | [] => .ok []
  | item :: rest =>
      (json item).bind fun first => (jsonItems rest).map fun rest => first.getD .null :: rest
termination_by structural items => items

def jsonEntries : List (String × PlainValue) → Except Thrown (List (String × JsonValue))
  | [] => .ok []
  | (key, value) :: rest =>
      (json value).bind fun first => (jsonEntries rest).map fun rest =>
        match first with
        | none => rest
        | some first => (key, first) :: rest
termination_by structural entries => entries

end

def count (value : Int) : PlainValue :=
  .number (.finite (.integer value))

end PlainValue

def RowValidationError.plain (error : RowValidationError) : PlainValue :=
  .object [("rowIndex", .count error.rowIndex), ("columnKey", .string error.columnKey),
    ("message", .string error.message), ("invalidValue", error.invalidValue)]

/-! ## Databases and definitions -/

/-- The tables of the platform next to those of the entity which is imported. -/
structure ImportDatabase (Data : Type) where
  platform : AuthorizationDatabase := {}
  data : Data

def platformPart (Data : Type) : Part (ImportDatabase Data) AuthorizationDatabase where
  get database := database.platform
  set platform database := { database with platform := platform }

structure OperationContext where
  correlationId : String
  userId : Option String
  deviceId : String
  organisationId : String

def isTerminal (event : AuditEventRow) : Bool :=
  event.eventType = "IMPORT_COMPLETED" || event.eventType = "IMPORT_FAILED"

def terminalEvents {Data : Type} (database : ImportDatabase Data) : List AuditEventRow :=
  database.platform.auditEvents.rows.filter isTerminal

def LeavesTerminalEvents {Data : Type} ⦃β : Type⦄ :
    TransactionCall (ImportDatabase Data) β → Prop
  | .query statement => ∀ database result, statement.run database = .ok result →
      terminalEvents result.database = terminalEvents database
  | .execute statement => ∀ database result, statement.run database = .ok result →
      terminalEvents result.database = terminalEvents database

/-- A definition whose `commit` writes through its client whatever it likes, except events of the
engine.  A savepoint is one statement: it leaves what its callback has written, or it fails. -/
structure ImportDefinition (Data State : Type) where
  entityName : String
  acceptedFormats : List ImportEngine.ImportFormat
  validateRow : RowValidator State RawRow
  commit : List PlainValue → OperationContext →
    Program (TransactionCall (ImportDatabase Data)) Thrown PlainValue
  commit_leaves : ∀ rows ctx, (commit rows ctx).Makes LeavesTerminalEvents

structure ImportSummary where
  totalRowsProcessed : Nat
  successfulRows : Int
  failedRows : Nat
  errors : List RowValidationError
  durationMs : Int

namespace ImportEngine

/-! ## Events -/

structure ImportEvent where
  id : String
  now : ClockReading
  eventType : String
  metadata : List (String × PlainValue)

/-- The readings of a call: ids of its events, instants and durations. -/
structure ImportReadings where
  startedId : String
  startedAt : ClockReading
  endedId : String
  endedAt : ClockReading
  committedAfterMs : Int
  durationMs : Int

def emit {Call : Type → Type 1} (executor : Executor AuthorizationDatabase Call)
    (ctx : OperationContext) (event : ImportEvent) : Program Call Thrown Unit := do
  let metadata ← Program.ofExcept (PlainValue.jsonEntries event.metadata)
  AuditService.emit executor event.id event.now
    { eventType := event.eventType
      userId := ctx.userId
      deviceId := ctx.deviceId
      organisationId := ctx.organisationId
      correlationId := ctx.correlationId
      metadata := some metadata }

section Events

variable (entityName : String) (readings : ImportReadings)

def startedEvent (rows : List RawRow) : ImportEvent where
  id := readings.startedId
  now := readings.startedAt
  eventType := "IMPORT_STARTED"
  metadata := [("entityName", .string entityName), ("totalRows", .count rows.length)]

def rejectedEvent (validation : ImportValidationResult) : ImportEvent where
  id := readings.endedId
  now := readings.endedAt
  eventType := "IMPORT_FAILED"
  metadata :=
    [("entityName", .string entityName), ("errorCount", .count validation.errors.length),
      ("errors", .array ((validation.errors.take 10).map RowValidationError.plain))]

def completedEvent (importedCount : Int) : ImportEvent where
  id := readings.endedId
  now := readings.endedAt
  eventType := "IMPORT_COMPLETED"
  metadata :=
    [("entityName", .string entityName), ("importedCount", .count importedCount),
      ("durationMs", .count readings.committedAfterMs)]

def failedEvent (validation : ImportValidationResult) (error : Thrown) : ImportEvent where
  id := readings.endedId
  now := readings.endedAt
  eventType := "IMPORT_FAILED"
  metadata :=
    [("entityName", .string entityName), ("totalRows", .count validation.totalRows),
      ("phase", .string "commit"),
      ("errorName",
        match error.raised with
        | .error name _ => name
        | .value _ => .string "UnknownError")]

end Events

/-! ## The import -/

/-- The calls of an import: events outside of a transaction, and transactions. -/
inductive ImportCall (Data : Type) : Type → Type 1 where
  | emit (event : ImportEvent) : ImportCall Data Unit
  | transaction {α : Type} (body : Program (TransactionCall (ImportDatabase Data)) Thrown α) :
      ImportCall Data α

def importHandler {Data σ : Type} (ctx : OperationContext)
    (connection : Program.Handler (DbCall (ImportDatabase Data)) Thrown σ) :
    Program.Handler (ImportCall Data) Thrown σ
  | _, .emit event, state =>
      (emit ((connectionExecutor (ImportDatabase Data)).within (platformPart Data)) ctx event).run
        connection state
  | _, .transaction body, state => connection (.transaction body) state

/-- `const { importedCount } = …` with its check. -/
def checkCount (result : PlainValue) (validRows : Nat) : Except Thrown Int := do
  let importedCount ← match result with
    | .undefined | .null =>
        throw (.builtin "TypeError" "Cannot destructure property 'importedCount'")
    | result => result.get "importedCount"
  match (importedCount.number?.bind NumberValue.safeInteger?).filter fun count : Int =>
      0 ≤ count && count ≤ validRows with
  | some count => return count
  | none =>
      let text ← importedCount.text
      throw (validationError
        s!"Import commit returned invalid importedCount {text} for {validRows} valid row(s)"
        "The import could not be completed consistently." "imp_invalid_commit_count")

section Import

variable {Data State : Type} (definition : ImportDefinition Data State)
  (readings : ImportReadings) (ctx : OperationContext)

def commitWithin (validation : ImportValidationResult) :
    Program (TransactionCall (ImportDatabase Data)) Thrown ImportSummary := do
  let result ← definition.commit validation.validRows ctx
  let importedCount ← Program.ofExcept (checkCount result validation.validRows.length)
  emit ((transactionExecutor (ImportDatabase Data)).within (platformPart Data)) ctx
    (completedEvent definition.entityName readings importedCount)
  return {
    totalRowsProcessed := validation.totalRows
    successfulRows := importedCount
    failedRows := 0
    errors := []
    durationMs := readings.durationMs }

/-- The `catch` of the transaction. -/
def recordFailure (validation : ImportValidationResult) (error : Thrown) :
    Program (ImportCall Data) Thrown ImportSummary := do
  tryCatch (Program.await (.emit (failedEvent definition.entityName readings validation error)))
    fun _ => throw (databaseError
      "Import transaction failed and its failure audit could not be recorded"
      "The import failed and the failure could not be recorded" ctx.correlationId none)
  throw error

/-- `executeImport` once the rows have been validated. -/
def importValidated (validation : ImportValidationResult) :
    Program (ImportCall Data) Thrown ImportSummary :=
  if 0 < validation.errors.length then do
    Program.await (.emit (rejectedEvent definition.entityName readings validation))
    return {
      totalRowsProcessed := validation.totalRows
      successfulRows := 0
      failedRows := (validation.errors.map RowValidationError.rowIndex).dedup.length
      errors := validation.errors
      durationMs := readings.durationMs }
  else
    tryCatch (Program.await (.transaction (commitWithin definition readings ctx validation)))
      (recordFailure definition readings ctx validation)

def executeImport (package : XlsxPackage) (toLocaleLowerCase : String → String)
    (parsing : ParseReadings) (buffer : List UInt8) (callback : State) :
    Program (ImportCall Data) Thrown ImportSummary := do
  let rows ← Program.ofExcept
    (acceptedRows package toLocaleLowerCase parsing buffer definition.acceptedFormats)
  Program.await (.emit (startedEvent definition.entityName readings rows))
  let validation ← Program.ofExcept (validate definition.validateRow rows callback).1
  importValidated definition readings ctx validation

end Import

/-! ## What an event leaves -/

section Recording

variable {Data : Type}

def Recorded (eventType : String) (before later : ImportDatabase Data) : Prop :=
  ∃ row : AuditEventRow, row.eventType = eventType ∧
    later.platform.auditEvents.rows = before.platform.auditEvents.rows ++ [row] ∧
    later.data = before.data

theorem recorded_of_run {row : AuditEventRow} {database : ImportDatabase Data}
    {result : StatementResult (ImportDatabase Data) Unit}
    (hrun : ((AuditService.insertEvent row).within (platformPart Data)).run database =
      .ok result) :
    result.rows = [] ∧ Recorded row.eventType database result.database := by
  simp only [Statement.run, Statement.within, StatementEffect.within, AuditService.insertEvent,
    TableOf.insert] at hrun
  cases hinsert : (auditEventTable.get ((platformPart Data).get database)).insert? row with
  | none =>
      rw [hinsert] at hrun
      cases hrun
  | some events =>
      rw [hinsert] at hrun
      cases hrun
      exact ⟨rfl, row, rfl, Table.insert?_eq_some_iff.mp hinsert, rfl⟩

theorem recorded_of_emit {ctx : OperationContext} {event : ImportEvent}
    {before later : ImportDatabase Data}
    (hemit : (emit ((transactionExecutor (ImportDatabase Data)).within (platformPart Data)) ctx
      event).MayRun AnswersWithin before (.ok ()) later) :
    Recorded event.eventType before later := by
  obtain ⟨metadata, middle, ⟨-, rfl⟩, hexecute⟩ := hemit.of_bind
  obtain ⟨count, last, hstep, -, rfl⟩ := hexecute.of_bind
  obtain ⟨⟨error, herror⟩, -⟩ | ⟨result, affected, hrun, -, rfl⟩ := Program.mayRun_await.mp hstep
  · cases herror
  · exact (recorded_of_run hrun).2

variable {σ : Type} {connection : Program.Handler (DbCall (ImportDatabase Data)) Thrown σ}
  {view : σ → ImportDatabase Data}

theorem emit_cases (hatomic : Atomic connection view) (ctx : OperationContext)
    (event : ImportEvent) (state : σ) :
    (∃ error later, importHandler ctx connection (.emit event) state = (.error error, later) ∧
        view later = view state) ∨
      ∃ later, importHandler ctx connection (.emit event) state = (.ok (), later) ∧
        Recorded event.eventType (view state) (view later) := by
  simp only [importHandler, emit, Program.run_bind, Program.run_ofExcept]
  cases PlainValue.jsonEntries event.metadata with
  | error thrown => exact .inl ⟨thrown, state, rfl, rfl⟩
  | ok metadata =>
      simp only [AuditService.emit, Executor.within, connectionExecutor, Program.run_bind,
        Program.run_await]
      rcases hatomic.execute _ state fun result hrun => (recorded_of_run hrun).1 with
        ⟨error, later, hcall, hsame⟩ | ⟨count, later, result, hcall, hrun, hlater⟩
      · rw [hcall]
        exact .inl ⟨error, later, rfl, hsame⟩
      · rw [hcall]
        refine .inr ⟨later, rfl, ?_⟩
        rw [hlater]
        exact (recorded_of_run hrun).2

end Recording
/-! ## What an import leaves -/

section Leaving

variable {Data State : Type} {before later : ImportDatabase Data}

theorem Recorded.terminal {eventType : String} (hrecorded : Recorded eventType before later)
    (hends : eventType = "IMPORT_COMPLETED" ∨ eventType = "IMPORT_FAILED") :
    ∃ event : AuditEventRow, event.eventType = eventType ∧
      terminalEvents later = terminalEvents before ++ [event] := by
  obtain ⟨event, htype, hrows, -⟩ := hrecorded
  have hterminal : isTerminal event = true := by
    rcases hends with rfl | rfl
    · simp [isTerminal, htype]
    · simp [isTerminal, htype]
  refine ⟨event, htype, ?_⟩
  rw [terminalEvents, hrows, List.filter_append, List.filter_singleton, hterminal]
  rfl

theorem Recorded.started (hrecorded : Recorded "IMPORT_STARTED" before later) :
    terminalEvents later = terminalEvents before := by
  obtain ⟨event, htype, hrows, -⟩ := hrecorded
  have hstarted : isTerminal event = false := by simp [isTerminal, htype]
  rw [terminalEvents, hrows, List.filter_append, List.filter_singleton, hstarted]
  exact List.append_nil _

theorem answersWithin_leaves ⦃β : Type⦄ (request : TransactionCall (ImportDatabase Data) β)
    (database : ImportDatabase Data) (answer : Except Thrown β) (later : ImportDatabase Data)
    (hleaves : LeavesTerminalEvents request)
    (hanswer : AnswersWithin request database answer later) :
    terminalEvents later = terminalEvents database := by
  cases request with
  | query statement =>
      rcases hanswer with ⟨-, rfl⟩ | ⟨result, hrun, -, rfl⟩
      · rfl
      · exact hleaves database result hrun
  | execute statement =>
      rcases hanswer with ⟨-, rfl⟩ | ⟨result, count, hrun, -, rfl⟩
      · rfl
      · exact hleaves database result hrun

/-- The data are those which `commit` has written for the validated rows. -/
def Imported (definition : ImportDefinition Data State) (ctx : OperationContext)
    (rows : List RawRow) (callback : State) (before later : ImportDatabase Data) : Prop :=
  ∃ validation start result last,
    (validate definition.validateRow rows callback).1 = .ok validation ∧
    validation.errors = [] ∧ start.data = before.data ∧
    (definition.commit validation.validRows ctx).MayRun AnswersWithin start (.ok result) last ∧
    later.data = last.data

/-- At most one event of the end is left; the imported data are left with an event of completion,
and none of them without it. -/
structure Leaves (definition : ImportDefinition Data State) (ctx : OperationContext)
    (rows : List RawRow) (callback : State) (before later : ImportDatabase Data)
    (ends : List AuditEventRow) : Prop where
  terminal : terminalEvents later = terminalEvents before ++ ends
  single : ends.length ≤ 1
  imported : (∃ event ∈ ends, event.eventType = "IMPORT_COMPLETED") →
    Imported definition ctx rows callback before later
  untouched : (¬ ∃ event ∈ ends, event.eventType = "IMPORT_COMPLETED") →
    later.data = before.data

variable {definition : ImportDefinition Data State} {ctx : OperationContext}
  {rows : List RawRow} {callback : State}

theorem leaves_nothing (hterminal : terminalEvents later = terminalEvents before)
    (hdata : later.data = before.data) :
    Leaves definition ctx rows callback before later [] where
  terminal := by rw [hterminal, List.append_nil]
  single := Nat.zero_le 1
  imported := fun ⟨_, hmem, _⟩ => nomatch hmem
  untouched _ := hdata

theorem leaves_failed {middle : ImportDatabase Data}
    (hterminal : terminalEvents middle = terminalEvents before)
    (hdata : middle.data = before.data) (hrecorded : Recorded "IMPORT_FAILED" middle later) :
    ∃ ends, Leaves definition ctx rows callback before later ends ∧ ends.length = 1 := by
  obtain ⟨event, htype, hevents⟩ := hrecorded.terminal (.inr rfl)
  obtain ⟨-, -, -, hsame⟩ := hrecorded
  refine ⟨[event], ⟨by rw [hevents, hterminal], le_rfl, ?_, fun _ => hsame.trans hdata⟩, rfl⟩
  rintro ⟨other, hmem, hcompleted⟩
  rw [List.mem_singleton.mp hmem, htype] at hcompleted
  exact absurd hcompleted (by decide)

theorem leaves_completed {readings : ImportReadings} {validation : ImportValidationResult}
    {summary : ImportSummary} {middle : ImportDatabase Data}
    (hterminal : terminalEvents middle = terminalEvents before)
    (hdata : middle.data = before.data)
    (hvalidated : (validate definition.validateRow rows callback).1 = .ok validation)
    (hvalid : validation.errors = [])
    (hcommit : (commitWithin definition readings ctx validation).MayRun AnswersWithin middle
      (.ok summary) later) :
    ∃ ends, Leaves definition ctx rows callback before later ends ∧ ends.length = 1 := by
  obtain ⟨result, written, hwrites, hrest⟩ := hcommit.of_bind
  obtain ⟨importedCount, _, ⟨-, rfl⟩, hrest⟩ := hrest.of_bind
  obtain ⟨_, last, hemit, -, rfl⟩ := hrest.of_bind
  have hrecorded := recorded_of_emit hemit
  have hkept := hwrites.keeps answersWithin_leaves
    (definition.commit_leaves validation.validRows ctx)
  obtain ⟨event, htype, hevents⟩ := hrecorded.terminal (.inl rfl)
  obtain ⟨-, -, -, hsame⟩ := hrecorded
  refine ⟨[event], ⟨by rw [hevents, hkept, hterminal], le_rfl, fun _ => ?_, fun hnone => ?_⟩, rfl⟩
  · exact ⟨validation, middle, result, written, hvalidated, hvalid, hdata, hwrites, hsame⟩
  · exact absurd ⟨event, List.mem_singleton_self event, htype⟩ hnone

/-! ## Runs -/

variable {σ : Type} {connection : Program.Handler (DbCall (ImportDatabase Data)) Thrown σ}
  {view : σ → ImportDatabase Data} {state : σ} {readings : ImportReadings}

def EmitsSucceed (handler : Program.Handler (ImportCall Data) Thrown σ) ⦃β : Type⦄ :
    ImportCall Data β → σ → Prop
  | .emit event, state => ∃ later, handler (.emit event) state = (.ok (), later)
  | .transaction _, _ => True

/-- The import leaves one end, unless an event cannot be written outside of a transaction. -/
def SettlesFrom (definition : ImportDefinition Data State) (ctx : OperationContext)
    (rows : List RawRow) (callback : State)
    (connection : Program.Handler (DbCall (ImportDatabase Data)) Thrown σ)
    (view : σ → ImportDatabase Data) (before : ImportDatabase Data)
    (program : Program (ImportCall Data) Thrown ImportSummary) (state : σ) : Prop :=
  ∃ ends, Leaves definition ctx rows callback before
      (view (program.run (importHandler ctx connection) state).2) ends ∧
    (program.Along (importHandler ctx connection)
      (EmitsSucceed (importHandler ctx connection)) state → ends.length = 1)

variable {event : ImportEvent}

theorem settles_of_failure (hatomic : Atomic connection view)
    (hevent : event.eventType = "IMPORT_FAILED")
    {rest : Except Thrown Unit → Program (ImportCall Data) Thrown ImportSummary}
    (hrest : ∀ answer, ∃ outcome, rest answer = .done outcome)
    (hterminal : terminalEvents (view state) = terminalEvents before)
    (hdata : (view state).data = before.data) :
    SettlesFrom definition ctx rows callback connection view before
      (.call (.emit event) rest) state := by
  rcases emit_cases hatomic ctx event state with
    ⟨error, later, hemit, hsame⟩ | ⟨later, hemit, hrecorded⟩
  · obtain ⟨outcome, hdone⟩ := hrest (.error error)
    refine ⟨[], ?_, ?_⟩
    · rw [Program.run, hemit, hdone, Program.run, hsame]
      exact leaves_nothing hterminal hdata
    · rintro ⟨⟨other, hok⟩, -⟩
      cases hemit.symm.trans hok
  · obtain ⟨outcome, hdone⟩ := hrest (.ok ())
    rw [hevent] at hrecorded
    obtain ⟨ends, hleaves, hone⟩ := leaves_failed hterminal hdata hrecorded
    refine ⟨ends, ?_, fun _ => hone⟩
    rw [Program.run, hemit, hdone, Program.run]
    exact hleaves

/-- A program which is caught settles as its `catch` does. -/
theorem SettlesFrom.of_catch {program : Program (ImportCall Data) Thrown ImportSummary}
    {recover : Thrown → Program (ImportCall Data) Thrown ImportSummary} {error : Thrown}
    {later : σ}
    (hrun : program.run (importHandler ctx connection) state = (.error error, later))
    (hsettles : SettlesFrom definition ctx rows callback connection view before (recover error)
      later) :
    SettlesFrom definition ctx rows callback connection view before (tryCatch program recover)
      state := by
  obtain ⟨ends, hleaves, hone⟩ := hsettles
  refine ⟨ends, ?_, fun halong => ?_⟩
  · rw [Program.run_tryCatch, hrun]
    exact hleaves
  · exact hone (((Program.along_tryCatch program recover).mp halong).2 error later hrun)

theorem importValidated_settles (hatomic : Atomic connection view)
    {validation : ImportValidationResult}
    (hvalidated : (validate definition.validateRow rows callback).1 = .ok validation)
    (hterminal : terminalEvents (view state) = terminalEvents before)
    (hdata : (view state).data = before.data) :
    SettlesFrom definition ctx rows callback connection view before
      (importValidated definition readings ctx validation) state := by
  unfold importValidated
  split_ifs with herrors
  · refine settles_of_failure hatomic rfl (fun answer => ?_) hterminal hdata
    cases answer with
    | ok value => exact ⟨_, rfl⟩
    | error error => exact ⟨_, rfl⟩
  · have hvalid : validation.errors = [] := List.length_eq_zero_iff.mp (by omega)
    rcases hatomic.transaction (commitWithin definition readings ctx validation) state with
      ⟨error, later, hcall, hsame⟩ | ⟨summary, later, hcall, hcommit⟩
    · -- nothing of the transaction is left, so its failure is recorded in the state before it
      have hrun : (Program.await (.transaction (commitWithin definition readings ctx validation)) :
          Program (ImportCall Data) Thrown ImportSummary).run (importHandler ctx connection)
            state = (.error error, later) := hcall
      refine .of_catch hrun (settles_of_failure hatomic rfl (fun answer => ?_)
        (hsame.symm ▸ hterminal) (hsame.symm ▸ hdata))
      cases answer with
      | ok value => exact ⟨_, rfl⟩
      | error error => exact ⟨_, rfl⟩
    · have hrun : (Program.await (.transaction (commitWithin definition readings ctx validation)) :
          Program (ImportCall Data) Thrown ImportSummary).run (importHandler ctx connection)
            state = (.ok summary, later) := hcall
      obtain ⟨ends, hleaves, hone⟩ := leaves_completed hterminal hdata hvalidated hvalid hcommit
      refine ⟨ends, ?_, fun _ => hone⟩
      rw [Program.run_tryCatch, hrun]
      exact hleaves

theorem settlesFrom_unwritten {error : Thrown} {later : σ}
    (hemit : importHandler ctx connection (.emit event) state = (.error error, later))
    (hsame : view later = before) (next : Unit → Program (ImportCall Data) Thrown ImportSummary) :
    SettlesFrom definition ctx rows callback connection view before
      (Program.await (.emit event) >>= next) state := by
  refine ⟨[], ?_, fun halong => ?_⟩
  · rw [Program.run_bind, Program.run_await, hemit, hsame]
    exact leaves_nothing rfl rfl
  · rw [Program.along_bind, Program.along_await] at halong
    obtain ⟨other, hok⟩ := halong.1
    cases hemit.symm.trans hok

theorem settlesFrom_written {later : σ}
    (hemit : importHandler ctx connection (.emit event) state = (.ok (), later))
    (next : Unit → Program (ImportCall Data) Thrown ImportSummary) :
    SettlesFrom definition ctx rows callback connection view before
        (Program.await (.emit event) >>= next) state ↔
      SettlesFrom definition ctx rows callback connection view before (next ()) later := by
  have halong : (Program.await (.emit event) >>= next).Along (importHandler ctx connection)
        (EmitsSucceed (importHandler ctx connection)) state ↔
      (next ()).Along (importHandler ctx connection)
        (EmitsSucceed (importHandler ctx connection)) later := by
    rw [Program.along_bind, Program.along_await, Program.run_await, hemit]
    constructor
    · exact fun hall => hall.2 () later rfl
    · intro hnext
      refine ⟨⟨later, hemit⟩, fun value last hsame => ?_⟩
      cases hsame
      exact hnext
  unfold SettlesFrom
  rw [Program.run_bind, Program.run_await, hemit, halong]

theorem not_settlesFrom_error (thrown : Thrown)
    (hterminal : terminalEvents (view state) = terminalEvents before) :
    ¬ SettlesFrom definition ctx rows callback connection view before
      (.done (.error thrown)) state := by
  rintro ⟨ends, hleaves, hone⟩
  have hends := hleaves.terminal
  rw [Program.run, hterminal, List.self_eq_append_right] at hends
  have hlength := hone trivial
  rw [hends] at hlength
  cases hlength

/-- An import of a parsed file settles from every state and with any failures, unless validation
throws behind the event of its start. -/
theorem executeImport_settles_iff {package : XlsxPackage} {toLocaleLowerCase : String → String}
    {parsing : ParseReadings} {buffer : List UInt8}
    (hparsed : acceptedRows package toLocaleLowerCase parsing buffer
      definition.acceptedFormats = .ok rows) (readings : ImportReadings) (driver : Driver)
    (state : FailingDatabase (ImportDatabase Data)) :
    SettlesFrom definition ctx rows callback driver.connection FailingDatabase.database
        state.database
        (executeImport definition readings ctx package toLocaleLowerCase parsing buffer callback)
        state ↔
      (∃ error later, importHandler ctx driver.connection
          (.emit (startedEvent definition.entityName readings rows)) state =
            (.error error, later)) ∨
        ∀ answer ∈ answers definition.validateRow 0 rows callback, HasText answer := by
  unfold executeImport
  rw [hparsed]
  change SettlesFrom _ _ _ _ _ _ _
    (Program.await (.emit (startedEvent definition.entityName readings rows)) >>= _) state ↔ _
  rcases emit_cases driver.atomic ctx (startedEvent definition.entityName readings rows) state with
    ⟨error, later, hemit, hsame⟩ | ⟨later, hemit, hrecorded⟩
  · exact ⟨fun _ => .inl ⟨error, later, hemit⟩, fun _ => settlesFrom_unwritten hemit hsame _⟩
  · have hterminal := hrecorded.started
    obtain ⟨-, -, -, hdata⟩ := hrecorded
    have hwritten : ¬ ∃ error later, importHandler ctx driver.connection
        (.emit (startedEvent definition.entityName readings rows)) state =
          (.error error, later) := by
      rintro ⟨error, other, hother⟩
      cases hemit.symm.trans hother
    rw [settlesFrom_written hemit]
    rcases validate_cases definition.validateRow rows callback with
      ⟨htexts, validation, last, hvalidated, -⟩ | ⟨hthrows, thrown, last, hvalidated⟩
    · refine ⟨fun _ => .inr htexts, fun _ => ?_⟩
      rw [hvalidated]
      exact importValidated_settles driver.atomic (by rw [hvalidated]) hterminal hdata
    · rw [hvalidated]
      constructor
      · exact fun hsettles => absurd hsettles (not_settlesFrom_error thrown hterminal)
      · rintro (hunwritten | htexts)
        · exact absurd hunwritten hwritten
        · exact absurd htexts hthrows

end Leaving

/-! ## One import -/

def emptyDefinition (validateRow : RowValidator Unit RawRow) : ImportDefinition Unit Unit where
  entityName := "asset"
  acceptedFormats := [.csv]
  validateRow := validateRow
  commit _ _ := pure (.object [("importedCount", .count 0)])
  commit_leaves _ _ := Program.makes_done _

def officeContext : OperationContext where
  correlationId := "corr-1"
  userId := none
  deviceId := "dev-1"
  organisationId := "org-1"

def epochReadings : ImportReadings where
  startedId := "aud-1"
  startedAt := ⟨0, ClockReading.inRange_epoch⟩
  endedId := "aud-2"
  endedAt := ⟨0, ClockReading.inRange_epoch⟩
  committedAfterMs := 0
  durationMs := 0

def emptyState : FailingDatabase (ImportDatabase Unit) where
  database := { data := () }
  faults _ := none

theorem executeImport_settles_iff_gapped :
    SettlesFrom (emptyDefinition rejectAll) officeContext gappedRows () Driver.memory.connection
        FailingDatabase.database emptyState.database
        (executeImport (emptyDefinition rejectAll) epochReadings officeContext gappedPackage id
          firstReadings gappedBuffer ()) emptyState ↔
      (∃ error later, importHandler officeContext Driver.memory.connection
          (.emit (startedEvent "asset" epochReadings gappedRows)) emptyState =
            (.error error, later)) ∨
        ∀ answer ∈ answers rejectAll 0 gappedRows (), HasText answer :=
  executeImport_settles_iff (by rfl) epochReadings Driver.memory emptyState

/-- A callback which throws a plain object whose `toString` is no function. -/
def throwUnprintableRow : RowValidator Unit RawRow :=
  fun state _ _ => (.error (.value (.object [("toString", .null)])), state)

/-- No event ends the import, although every event which is attempted is written. -/
theorem gapped_endless :
    ¬ SettlesFrom (emptyDefinition throwUnprintableRow) officeContext gappedRows ()
      Driver.memory.connection FailingDatabase.database emptyState.database
      (executeImport (emptyDefinition throwUnprintableRow) epochReadings officeContext
        gappedPackage id firstReadings gappedBuffer ()) emptyState := by
  have hparsed : acceptedRows gappedPackage id firstReadings gappedBuffer [.csv] =
      .ok gappedRows := by rfl
  have hvalidated : (validate throwUnprintableRow gappedRows ()).1 =
      .error conversionError := by rfl
  obtain ⟨later, hemit, hsame⟩ : ∃ later, importHandler officeContext Driver.memory.connection
      (.emit (startedEvent "asset" epochReadings gappedRows)) emptyState = (.ok (), later) ∧
        terminalEvents later.database = terminalEvents emptyState.database :=
    ⟨_, rfl, rfl⟩
  unfold executeImport
  change ¬ SettlesFrom _ _ _ _ _ _ _
    (Program.ofExcept (acceptedRows gappedPackage id firstReadings gappedBuffer [.csv]) >>= _) _
  rw [hparsed]
  change ¬ SettlesFrom _ _ _ _ _ _ _
    (Program.await (.emit (startedEvent "asset" epochReadings gappedRows)) >>= _) _
  rw [settlesFrom_written hemit]
  change ¬ SettlesFrom _ _ _ _ _ _ _
    (Program.ofExcept (validate throwUnprintableRow gappedRows ()).1 >>= _) _
  rw [hvalidated]
  exact not_settlesFrom_error _ hsame

end ImportEngine
end TauriPlatform
