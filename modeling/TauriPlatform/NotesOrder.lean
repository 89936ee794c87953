import TauriPlatform.HlcText
import TauriPlatform.NotesVisibility
import TauriPlatform.TimestampOrder

/-!
# The timestamps of local edits

Every edit stamps its operation with a reading of the wall clock, the counter 1 and the device,
in the legacy form of a timestamp.  The stamps of a history are in order as long as the readings
are.
-/

namespace TauriPlatform

open Async Relational

/-! ## Texts of instants -/

section Texts

variable {instant other : Int}

theorem fourDigitYear_of_year
    (hlow : 0 ≤ yearOf instant) (hhigh : yearOf instant ≤ 9999) : FourDigitYear instant := by
  have hbefore : (civilOfDays (-719529)).year = -1 := by decide
  have hbehind : (civilOfDays 2932897).year = 10000 := by decide
  simp only [FourDigitYear, firstFourDigit, lastFourDigit]
  unfold yearOf at hlow hhigh
  constructor
  · by_contra hless
    have hdays : instant / millisPerDay ≤ -719529 := by
      simp only [millisPerDay]
      omega
    have hyear := year_mono hdays
    simp only [hbefore] at hyear
    omega
  · by_contra hmore
    have hdays : 2932897 ≤ instant / millisPerDay := by
      simp only [millisPerDay]
      omega
    have hyear := year_mono hdays
    simp only [hbehind] at hyear
    omega

theorem isoChars_cases (instant : Int) :
    (FourDigitYear instant ∧ (isoChars instant).length = 24 ∧
        ∃ digit tail, isoChars instant = digit :: tail ∧ '0' ≤ digit) ∨
      (isoChars instant).length = 27 ∧
        ∃ sign tail, isoChars instant = sign :: tail ∧ (sign = '-' ∨ sign = '+') := by
  by_cases hyear : 0 ≤ yearOf instant ∧ yearOf instant ≤ 9999
  · left
    have hfour := fourDigitYear_of_year hyear.1 hyear.2
    have htext := (yearText_eq hfour).1
    refine ⟨hfour, by simp [isoChars_eq, htext, timeText], ?_⟩
    obtain ⟨digit, more, hdigits, hlow, -⟩ :=
      exists_fixedDigits_succ 3 (civilOfDays (instant / millisPerDay)).year.toNat
    rw [isoChars_eq, htext, hdigits, List.cons_append]
    exact ⟨_, _, rfl, hlow⟩
  · right
    have htext : yearText (civilOfDays (instant / millisPerDay)).year =
        (if (civilOfDays (instant / millisPerDay)).year < 0 then '-' else '+') ::
          fixedDigits 10 6 (civilOfDays (instant / millisPerDay)).year.natAbs :=
      if_neg hyear
    refine ⟨by simp [isoChars_eq, htext, timeText], ?_⟩
    rw [isoChars_eq, htext, List.cons_append]
    refine ⟨_, _, rfl, ?_⟩
    split_ifs
    · exact .inl rfl
    · exact .inr rfl

theorem isoChars_injective (hinstant : FourDigitYear instant) (hother : FourDigitYear other)
    (hsame : isoChars instant = isoChars other) : instant = other := by
  rcases lt_trichotomy instant other with hlt | heq | hlt
  · exact absurd hsame (isoChars_lt hinstant hother hlt).ne
  · exact heq
  · exact absurd hsame.symm (isoChars_lt hother hinstant hlt).ne

end Texts

/-! ## Reading a stamp back -/

namespace HybridLogicalClock

theorem parseCanonical_isoChars (instant : Int) (rest : List Char) :
    parseCanonical (isoChars instant ++ rest) = none := by
  have hdash : isLowerHexDigit '-' = false := by decide
  have hplus : isLowerHexDigit '+' = false := by decide
  rcases isoChars_cases instant with ⟨hfour, -⟩ | ⟨-, sign, tail, htext, hsign⟩
  · have hdigits : ∀ c ∈ fixedDigits 10 4 (civilOfDays (instant / millisPerDay)).year.toNat,
        isLowerHexDigit c = true := by
      intro c hc
      obtain ⟨hlow, hhigh⟩ := fixedDigits_bounds hc
      simp [isLowerHexDigit, isDecimalDigit, hlow, hhigh]
    rw [isoChars_eq, (yearText_eq hfour).1, List.append_assoc, List.cons_append]
    unfold parseCanonical
    rw [dropWhile_of_stop hdigits hdash]
    rfl
  · rw [htext, List.cons_append]
    unfold parseCanonical
    rcases hsign with rfl | rfl
    · rw [List.dropWhile_cons_of_neg (by simp [hdash])]
      rfl
    · rw [List.dropWhile_cons_of_neg (by simp [hplus])]
      rfl

theorem parseLegacy_isoChars {instant : Int} {rest : List Char} {timestamp : HlcTimestamp}
    (hparse : parseLegacy (isoChars instant ++ rest) = some timestamp) :
    (isoChars instant).length = 24 ∧ isoInstant? (String.ofList (isoChars instant)) = some instant ∧
      timestamp.physicalTime = instant := by
  have hread := (parseLegacy_fields hparse).1
  have hprinted := isoInstant?_text hread
  unfold toIsoString? at hprinted
  split_ifs at hprinted
  have hsame : isoChars timestamp.physicalTime = (isoChars instant ++ rest).take 24 :=
    String.ofList_inj.mp (Option.some.inj hprinted)
  rcases isoChars_cases instant with ⟨hfour, hlength, -⟩ | ⟨hlength, sign, tail, htext, hsign⟩
  · rw [List.take_append_of_le_length hlength.ge, List.take_of_length_le hlength.le] at hsame
    rw [List.take_append_of_le_length hlength.ge, List.take_of_length_le hlength.le] at hread
    rcases isoChars_cases timestamp.physicalTime with ⟨hreadFour, -⟩ | ⟨hlong, -⟩
    · have hinstant := isoChars_injective hreadFour hfour hsame
      rw [hinstant] at hread
      exact ⟨hlength, hread, hinstant⟩
    · rw [hsame, hlength] at hlong
      cases hlong
  · -- the first 24 of 27 characters are no text of an instant
    have hshort : (isoChars timestamp.physicalTime).length = 24 := by
      rw [hsame, List.length_take, List.length_append]
      omega
    rcases isoChars_cases timestamp.physicalTime with ⟨-, -, digit, more, hfirst, hdigit⟩ | ⟨hlong, -⟩
    · rw [hfirst, htext] at hsame
      have hsign' : digit = sign := (List.cons.inj hsame).1
      rw [hsign'] at hdigit
      rcases hsign with rfl | rfl
      · exact absurd hdigit (by decide)
      · exact absurd hdigit (by decide)
    · rw [hshort] at hlong
      cases hlong

theorem parse_stamp {reading : ClockReading} {deviceId : String} {timestamp : HlcTimestamp}
    (hparse : parse (NotesService.logicalTimestamp reading deviceId) = .ok timestamp) :
    timestamp = ⟨reading.millis, 1, deviceId⟩ := by
  have hchars : (NotesService.logicalTimestamp reading deviceId).toList =
      isoChars reading.millis ++ (':' :: '0' :: '0' :: '0' :: '1' :: ':' :: deviceId.toList) := by
    simp [NotesService.logicalTimestamp, ClockReading.iso, toString]
  rw [parse, hchars, parseCanonical_isoChars] at hparse
  cases hlegacy : parseLegacy (isoChars reading.millis ++
      (':' :: '0' :: '0' :: '0' :: '1' :: ':' :: deviceId.toList)) with
  | none =>
      rw [hlegacy] at hparse
      cases hparse
  | some read =>
      rw [hlegacy] at hparse
      cases hparse
      obtain ⟨hlength, hinstant, -⟩ := parseLegacy_isoChars hlegacy
      unfold parseLegacy at hlegacy
      rw [List.take_append_of_le_length hlength.ge, List.take_of_length_le hlength.le,
        List.drop_append_of_le_length hlength.ge, List.drop_of_length_le hlength.le,
        hinstant] at hlegacy
      cases hnode : parseNodeId deviceId.toList with
      | none => simp [takeChar, isDecimalDigit, hnode] at hlegacy
      | some nodeId =>
          obtain ⟨-, rfl⟩ := parseNodeId_eq_some_iff.mp hnode
          have hfields : (reading.millis.natAbs ≤ maxSafeInteger ∧
                parseDigits 10 ['0', '0', '0', '1'] ≤ maxSafeInteger) ∧
              (⟨reading.millis, parseDigits 10 ['0', '0', '0', '1'], deviceId⟩ : HlcTimestamp) =
                timestamp := by
            simpa [takeChar, isDecimalDigit, hnode] using hlegacy
          exact hfields.2.symm

variable {collation : Collation} {earlier later : ClockReading} {deviceId : String}

/-- `compare` of two texts is negative. -/
def ComparesBelow (collation : Collation) (left right : String) : Prop :=
  ∃ order, compare collation left right = .ok order ∧ order < 0

theorem localeCompare_self (text : String) : collation.localeCompare text text = 0 := by
  have hswap := collation.swap text text
  omega

theorem precedes_stamp_iff
    (hearlier : ∃ timestamp, parse (NotesService.logicalTimestamp earlier deviceId) = .ok timestamp)
    (hlater : ∃ timestamp, parse (NotesService.logicalTimestamp later deviceId) = .ok timestamp) :
    ComparesBelow collation (NotesService.logicalTimestamp earlier deviceId)
        (NotesService.logicalTimestamp later deviceId) ↔
      earlier.millis < later.millis := by
  obtain ⟨left, hleft⟩ := hearlier
  obtain ⟨right, hright⟩ := hlater
  have hcompare : compare collation (NotesService.logicalTimestamp earlier deviceId)
      (NotesService.logicalTimestamp later deviceId) =
        .ok (compareParsed collation ⟨earlier.millis, 1, deviceId⟩
          ⟨later.millis, 1, deviceId⟩) := by
    rw [← parse_stamp hleft, ← parse_stamp hright, compare, hleft, hright]
    rfl
  have hsign : compareParsed collation ⟨earlier.millis, 1, deviceId⟩ ⟨later.millis, 1, deviceId⟩ <
      0 ↔ earlier.millis < later.millis := by
    simp only [compareParsed, ne_eq, not_true_eq_false, if_false, localeCompare_self]
    split_ifs with hsame hlt
    · exact iff_of_false (by decide) hsame.not_lt
    · exact iff_of_true (by decide) hlt
    · exact iff_of_false (by decide) hlt
  constructor
  · rintro ⟨order, horder, hnegative⟩
    rw [hcompare] at horder
    cases horder
    exact hsign.mp hnegative
  · intro hlt
    exact ⟨_, hcompare, hsign.mpr hlt⟩

end HybridLogicalClock

/-! ## What an edit enqueues -/

namespace NotesService

open HybridLogicalClock NotesRepository SyncEnvelopeBuilder

def Appends (stamp : String) (database later : NotesDatabase) : Prop :=
  later.outbox.rows = database.outbox.rows ∨
    ∃ row, later.outbox.rows = database.outbox.rows ++ [row] ∧ row.logicalTimestamp = stamp ∧
      ∃ timestamp, parse stamp = .ok timestamp

theorem Appends.refl (stamp : String) (database : NotesDatabase) :
    Appends stamp database database :=
  .inl rfl

def AppendsAtMost {α : Type} (stamp : String)
    (program : Program (TransactionCall NotesDatabase) Thrown α) : Prop :=
  ∀ database, Appends stamp database (program.run memoryTransaction database).2

section Programs

variable {α β : Type} {stamp : String} {program : Program (TransactionCall NotesDatabase) Thrown α}

abbrev KeepsOutbox (program : Program (TransactionCall NotesDatabase) Thrown α) : Prop :=
  program.Keeps memoryTransaction fun database => database.outbox.rows

theorem KeepsOutbox.appends (hkeeps : KeepsOutbox program) : AppendsAtMost stamp program :=
  fun database => .inl (hkeeps database)

theorem KeepsOutbox.bind_appends {next : α → Program (TransactionCall NotesDatabase) Thrown β}
    (hkeeps : KeepsOutbox program) (hnext : ∀ value, AppendsAtMost stamp (next value)) :
    AppendsAtMost stamp (program >>= next) := by
  intro database
  have hfirst : (program.run memoryTransaction database).2.outbox.rows = database.outbox.rows :=
    hkeeps database
  rw [Program.run_bind]
  match hrun : program.run memoryTransaction database with
  | (.ok value, later) =>
      rw [hrun] at hfirst
      have happends := hnext value later
      unfold Appends at happends ⊢
      rw [← hfirst]
      exact happends
  | (.error error, later) =>
      rw [hrun] at hfirst
      exact .inl hfirst

theorem AppendsAtMost.bind_pure (happends : AppendsAtMost stamp program) (result : α → β) :
    AppendsAtMost stamp (program >>= fun value => pure (result value)) := by
  intro database
  rw [Program.run_bind_pure_state]
  exact happends database

theorem keepsOutbox_execute {Row : Type} {statement : Statement NotesDatabase Row}
    (hkeeps : ∀ database result, statement.run database = .ok result →
      result.database.outbox = database.outbox) :
    KeepsOutbox ((transactionExecutor NotesDatabase).execute statement) := by
  intro database
  exact transaction_execute_relates (R := fun database later =>
    later.outbox.rows = database.outbox.rows) rfl fun result hrun =>
      congrArg Table.rows (hkeeps database result hrun)

theorem readsOnly_transaction : (transactionExecutor NotesDatabase).ReadsOnly memoryTransaction :=
  answersAsIs_transaction.readsOnly

theorem keepsOutbox_requirePermission (context : CallContext) (permission : String) :
    KeepsOutbox (requirePermission (transactionExecutor NotesDatabase) context permission) :=
  (requirePermission_keeps readsOnly_transaction permission).of_id

theorem keepsOutbox_requireActiveMembership (context : CallContext) (groupId : String) :
    KeepsOutbox (requireActiveMembership (transactionExecutor NotesDatabase) context groupId) :=
  (SyncGroupService.requireActiveMembership_keeps (readsOnly_transaction.within _)).of_id

theorem keepsOutbox_find (id organisationId : String) :
    KeepsOutbox ((transactionExecutor NotesDatabase).query
      (findByIdWithinOrganisation id organisationId)) :=
  (readsOnly_transaction.query rfl).of_id

theorem keepsOutbox_insert (note : NoteRecord) :
    KeepsOutbox ((transactionExecutor NotesDatabase).execute (NotesRepository.insert note)) := by
  refine keepsOutbox_execute fun database result hrun => ?_
  unfold NotesRepository.insert Statement.run at hrun
  cases hinsert : database.notes.insert? note with
  | none =>
      simp only [hinsert] at hrun
      cases hrun
  | some later =>
      simp only [hinsert] at hrun
      cases hrun
      rfl

theorem keepsOutbox_updateStatement (sql : String) (params : List JsonValue)
    (condition : NoteRecord → Bool) (set : NoteRecord → NoteRecord) :
    KeepsOutbox ((transactionExecutor NotesDatabase).execute
      (updateStatement sql params condition set)) := by
  refine keepsOutbox_execute fun database result hrun => ?_
  unfold updateStatement Statement.run at hrun
  cases hupdate : database.notes.update? condition fun row => { set row with id := row.id } with
  | none =>
      simp only [hupdate] at hrun
      cases hrun
  | some later =>
      simp only [hupdate] at hrun
      cases hrun
      rfl

theorem keepsOutbox_tombstone (row : TombstoneRow) :
    KeepsOutbox ((transactionExecutor NotesDatabase).execute
      (TombstoneService.insertStatement row)) := by
  refine keepsOutbox_execute fun database result hrun => ?_
  unfold TombstoneService.insertStatement Statement.run at hrun
  cases hinsert : database.tombstones.insert? row with
  | none =>
      simp only [hinsert] at hrun
      cases hrun
  | some later =>
      simp only [hinsert] at hrun
      cases hrun
      rfl

end Programs

section Edits

variable (signer : NotesSyncSigner) (draws : NoteCallDraws) (context : CallContext)

theorem parse_of_build {subject : ContextSubject} {syncGroupId entityId operation : String}
    {payload envelope : JsValue}
    (hbuilt : SyncEnvelopeBuilder.build
      (noteOperation draws subject syncGroupId entityId operation payload) signer.publicKey
      signer.sign draws.signedAt = .ok envelope) :
    (∀ id now, (OutboxService.newLiveRow id now envelope).logicalTimestamp =
      logicalTimestamp draws.now subject.deviceId) ∧
      ∃ timestamp, parse (logicalTimestamp draws.now subject.deviceId) = .ok timestamp := by
  obtain ⟨signature, rfl, -⟩ := SyncEnvelopeBuilder.build_eq_ok hbuilt
  refine ⟨fun id now => rfl, ?_⟩
  unfold SyncEnvelopeBuilder.build at hbuilt
  obtain ⟨_, hvalid, -⟩ := check_bind_eq_ok hbuilt
  unfold SyncEnvelopeBuilder.validateLiveOperation at hvalid
  obtain ⟨_, -, hvalid⟩ := check_bind_eq_ok hvalid
  obtain ⟨_, -, hvalid⟩ := check_bind_eq_ok hvalid
  obtain ⟨_, -, hvalid⟩ := check_bind_eq_ok hvalid
  obtain ⟨_, -, hvalid⟩ := check_bind_eq_ok hvalid
  obtain ⟨_, -, hvalid⟩ := check_bind_eq_ok hvalid
  obtain ⟨_, -, hvalid⟩ := check_bind_eq_ok hvalid
  obtain ⟨timestamp, hparse, -⟩ := check_bind_eq_ok hvalid
  exact ⟨timestamp, hparse⟩

theorem appends_insert {row : OutboxRow} {stamp : String} (hstamp : row.logicalTimestamp = stamp)
    (hparse : ∃ timestamp, parse stamp = .ok timestamp) :
    AppendsAtMost stamp (((transactionExecutor NotesDatabase).within
      NotesDatabase.outboxPart).execute (OutboxService.insertStatement row)) := by
  intro database
  refine transaction_execute_relates (.refl stamp database) fun result hrun => ?_
  obtain ⟨inner, hinner, hset | hread⟩ := Statement.run_within_eq_ok hrun
  · right
    refine ⟨row, ?_, hstamp, hparse⟩
    rw [hset]
    exact OutboxService.insertStatement_run_ok hinner
  · rw [hread]
    exact .refl stamp database

theorem appends_enqueueOperation (subject : ContextSubject)
    (syncGroupId entityId operation : String) (payload : JsValue) :
    AppendsAtMost (logicalTimestamp draws.now subject.deviceId)
      (enqueueOperation (transactionExecutor NotesDatabase) signer draws
        (noteOperation draws subject syncGroupId entityId operation payload)) := by
  intro database
  unfold enqueueOperation
  cases hbuilt : SyncEnvelopeBuilder.build
      (noteOperation draws subject syncGroupId entityId operation payload) signer.publicKey
      signer.sign draws.signedAt with
  | error message => exact .refl _ _
  | ok envelope =>
      obtain ⟨hstamp, hparse⟩ := parse_of_build signer draws hbuilt
      dsimp only
      rw [Program.run_bind_pure_state _ fun _ => ()]
      unfold OutboxService.enqueueLive
      cases SyncEnvelopeBuilder.validateLiveEnvelope envelope with
      | error message => exact .refl _ _
      | ok _ =>
          dsimp only
          rw [Program.run_bind_pure_state]
          exact appends_insert (hstamp _ _) hparse database

theorem appends_doCreate (syncGroupId title content : String) :
    AppendsAtMost (logicalTimestamp draws.now (extractContextSubject context).deviceId)
      (doCreate (transactionExecutor NotesDatabase) signer draws context syncGroupId title
        content) := by
  refine (keepsOutbox_requirePermission _ _).bind_appends fun _ => ?_
  refine (keepsOutbox_requireActiveMembership _ _).bind_appends fun _ => ?_
  refine (keepsOutbox_insert _).bind_appends fun _ => ?_
  exact (appends_enqueueOperation signer draws _ _ _ _ _).bind_pure _

theorem appends_doUpdate (id : String) (title content : Option String) :
    AppendsAtMost (logicalTimestamp draws.now (extractContextSubject context).deviceId)
      (doUpdate (transactionExecutor NotesDatabase) signer draws context id title content) := by
  refine (keepsOutbox_requirePermission _ _).bind_appends fun _ => ?_
  refine (keepsOutbox_find _ _).bind_appends fun found => ?_
  cases found with
  | nil => exact KeepsOutbox.appends (Program.keeps_throw _)
  | cons existing others =>
      refine (keepsOutbox_requireActiveMembership _ _).bind_appends fun _ => ?_
      refine (keepsOutbox_updateStatement _ _ _ _).bind_appends fun _ => ?_
      exact (appends_enqueueOperation signer draws _ _ _ _ _).bind_pure _

theorem appends_doDelete (id : String) :
    AppendsAtMost (logicalTimestamp draws.now (extractContextSubject context).deviceId)
      (doDelete (transactionExecutor NotesDatabase) signer draws context id) := by
  refine (keepsOutbox_requirePermission _ _).bind_appends fun _ => ?_
  refine (keepsOutbox_find _ _).bind_appends fun found => ?_
  cases found with
  | nil => exact KeepsOutbox.appends (Program.keeps_pure _)
  | cons existing others =>
      refine (keepsOutbox_requireActiveMembership _ _).bind_appends fun _ => ?_
      refine (keepsOutbox_tombstone _).bind_appends fun _ => ?_
      refine (keepsOutbox_updateStatement _ _ _ _).bind_appends fun _ => ?_
      exact appends_enqueueOperation signer draws _ _ _ _ _

end Edits

/-! ## Histories -/

inductive NoteEdit where
  | create (input : CreateNoteInput)
  | update (input : UpdateNoteInput)
  | delete (id : String)

/-- One call of the service.  Between two calls of a history anything may happen to the
database. -/
structure NoteCall where
  signer : NotesSyncSigner
  draws : NoteCallDraws
  context : CallContext
  edit : NoteEdit
  /-- Whether the caller passes the client of a transaction of its own. -/
  withClient : Bool
  before : NotesDatabase

namespace NoteCall

variable {Call : Type → Type 1}

def program (call : NoteCall) (transact : ∀ {α : Type},
    Program (TransactionCall NotesDatabase) Thrown α → Program Call Thrown α) :
    Program Call Thrown Unit :=
  match call.edit with
  | .create input => do
      let _note ← createNote transact call.signer call.draws call.context input
      pure ()
  | .update input => do
      let _note ← updateNote transact call.signer call.draws call.context input
      pure ()
  | .delete id => deleteNote transact call.signer call.draws call.context id

def after (call : NoteCall) : NotesDatabase :=
  if call.withClient then
    ((call.program callersTransaction).run memoryTransaction call.before).2
  else ((call.program ownTransaction).run memoryConnection call.before).2

def enqueued (call : NoteCall) : List OutboxRow :=
  call.after.outbox.rows.drop call.before.outbox.rows.length

def deviceId (call : NoteCall) : String :=
  (extractContextSubject call.context).deviceId

def stamp (call : NoteCall) : String :=
  logicalTimestamp call.draws.now call.deviceId

theorem appends_callersTransaction (call : NoteCall) :
    AppendsAtMost call.stamp (call.program callersTransaction) := by
  unfold program
  cases call.edit with
  | create input =>
      refine AppendsAtMost.bind_pure ?_ fun _ => ()
      unfold createNote
      cases checkCreateInput call.context input with
      | error thrown => exact KeepsOutbox.appends (Program.keeps_throw _)
      | ok fields => exact appends_doCreate _ _ _ _ _ _
  | update input =>
      refine AppendsAtMost.bind_pure ?_ fun _ => ()
      unfold updateNote
      cases checkUpdateInput call.context input with
      | error thrown => exact KeepsOutbox.appends (Program.keeps_throw _)
      | ok fields => exact appends_doUpdate _ _ _ _ _ _
  | delete id => exact appends_doDelete _ _ _ _

def settled {α : Type} (database : NotesDatabase) :
    Except Thrown α × NotesDatabase → Except Thrown α × NotesDatabase
  | (.ok value, later) => (.ok value, later)
  | (.error error, _) => (.error error, database)

theorem run_ownTransaction (call : NoteCall) (database : NotesDatabase) :
    (call.program ownTransaction).run memoryConnection database =
      settled database ((call.program callersTransaction).run memoryTransaction database) := by
  have hbody : ∀ {α : Type} (body : Program (TransactionCall NotesDatabase) Thrown α),
      (ownTransaction body).run memoryConnection database =
        settled database ((callersTransaction body).run memoryTransaction database) := by
    intro α body
    simp only [ownTransaction, callersTransaction, Program.run_await, memoryConnection]
    cases body.run memoryTransaction database with
    | mk outcome later => cases outcome <;> rfl
  have hunit : ∀ {α : Type} (own : Program (DbCall NotesDatabase) Thrown α)
      (callers : Program (TransactionCall NotesDatabase) Thrown α),
      own.run memoryConnection database =
          settled database (callers.run memoryTransaction database) →
        (own >>= fun _ => pure ()).run memoryConnection database =
          settled database ((callers >>= fun _ => pure ()).run memoryTransaction database) := by
    intro α own callers hsame
    rw [Program.run_bind, Program.run_bind, hsame]
    cases callers.run memoryTransaction database with
    | mk outcome later => cases outcome <;> rfl
  unfold program
  cases call.edit with
  | create input =>
      refine hunit _ _ ?_
      unfold createNote
      cases checkCreateInput call.context input with
      | error thrown => rfl
      | ok fields => exact hbody _
  | update input =>
      refine hunit _ _ ?_
      unfold updateNote
      cases checkUpdateInput call.context input with
      | error thrown => rfl
      | ok fields => exact hbody _
  | delete id => exact hbody _

theorem appends_after (call : NoteCall) : Appends call.stamp call.before call.after := by
  have happends := call.appends_callersTransaction call.before
  unfold after
  split_ifs
  · exact happends
  · rw [run_ownTransaction]
    match hrun : (call.program callersTransaction).run memoryTransaction call.before with
    | (.ok value, later) =>
        rw [hrun] at happends
        exact happends
    | (.error error, later) => exact .refl _ _

theorem enqueued_cases (call : NoteCall) :
    call.enqueued = [] ∨
      ∃ row, call.enqueued = [row] ∧ row.logicalTimestamp = call.stamp ∧
        ∃ timestamp, parse call.stamp = .ok timestamp := by
  unfold enqueued
  rcases call.appends_after with hsame | ⟨row, hrows, hstamp, hparse⟩
  · left
    rw [hsame, List.drop_length]
  · right
    refine ⟨row, ?_, hstamp, hparse⟩
    rw [hrows, List.drop_left]

end NoteCall

def stamps (calls : List NoteCall) : List String :=
  (calls.flatMap NoteCall.enqueued).map OutboxRow.logicalTimestamp

def enqueuing (calls : List NoteCall) : List NoteCall :=
  calls.filter fun call => !call.enqueued.isEmpty

theorem stamps_eq (calls : List NoteCall) : stamps calls = (enqueuing calls).map NoteCall.stamp := by
  induction calls with
  | nil => rfl
  | cons call rest ih =>
      unfold stamps enqueuing at ih ⊢
      rw [List.flatMap_cons, List.map_append, ih, List.filter_cons]
      rcases call.enqueued_cases with hnone | ⟨row, hrow, hstamp, -⟩
      · simp [hnone]
      · simp [hrow, hstamp]

/-! ## What a permitted edit leaves -/

open OutboxService

section Accepted

variable {signer : NotesSyncSigner} {draws : NoteCallDraws} {context : CallContext}
  {database : NotesDatabase} {envelope : JsValue} {outbox : OutboxTable}

theorem run_enqueueOperation {operation : JsValue}
    (hbuilt : build operation signer.publicKey signer.sign draws.signedAt = .ok envelope)
    (hinsert : database.outbox.insert? (newLiveRow draws.outboxId draws.enqueuedAt.iso envelope) =
      some outbox)
    (hgroup : (newLiveRow draws.outboxId draws.enqueuedAt.iso envelope).syncGroupId ∈
      database.authorization.syncGroups.rows.map SyncGroupRow.id) :
    (enqueueOperation (transactionExecutor NotesDatabase) signer draws operation).run
      memoryTransaction database = (.ok (), { database with outbox := outbox }) := by
  obtain ⟨_, -, hvalid⟩ := build_eq_ok hbuilt
  have hpart : (insertStatement (newLiveRow draws.outboxId draws.enqueuedAt.iso envelope)).run
      (NotesDatabase.outboxPart.get database) =
        .ok ⟨{ NotesDatabase.outboxPart.get database with outbox := outbox }, [], 1⟩ := by
    generalize newLiveRow draws.outboxId draws.enqueuedAt.iso envelope = row at hinsert hgroup
    have hknown : row.syncGroupId ∈ (NotesDatabase.outboxPart.get database).syncGroupIds := hgroup
    have hfresh : (NotesDatabase.outboxPart.get database).outbox.insert? row = some outbox :=
      hinsert
    simp only [insertStatement, Statement.run, hfresh, if_pos hknown]
  have hresult := Statement.run_within_of_write rfl hpart
  simp only [enqueueOperation, hbuilt, enqueueLive, hvalid]
  rw [Program.run_bind_ok _ (Program.run_bind_ok _ (transaction_execute_run hresult))]
  rfl

variable {note : NoteRecord} {notes : Table NoteRecord String (idIndex NoteRecord.id)}

theorem run_insert (hnote : database.notes.insert? note = some notes) :
    (NotesRepository.insert note).run database =
      .ok ⟨{ database with notes := notes }, [], 1⟩ := by
  unfold NotesRepository.insert Statement.run
  simp only [hnote]

theorem run_doCreate {syncGroupId title content : String}
    (hpermission : ((requirePermission (transactionExecutor NotesDatabase) context
      "notes.create").run memoryTransaction database).1 = .ok ())
    (hmember : ((requireActiveMembership (transactionExecutor NotesDatabase) context
      syncGroupId).run memoryTransaction database).1 = .ok ())
    (hcreated : createdNote draws (extractContextSubject context) syncGroupId title content = note)
    (hnote : database.notes.insert? note = some notes)
    (hbuilt : build (noteOperation draws (extractContextSubject context) syncGroupId draws.noteId
      "create" (payloadOf note)) signer.publicKey signer.sign draws.signedAt = .ok envelope)
    (hinsert : database.outbox.insert? (newLiveRow draws.outboxId draws.enqueuedAt.iso envelope) =
      some outbox)
    (hgroup : (newLiveRow draws.outboxId draws.enqueuedAt.iso envelope).syncGroupId ∈
      database.authorization.syncGroups.rows.map SyncGroupRow.id) :
    (doCreate (transactionExecutor NotesDatabase) signer draws context syncGroupId title
        content).run memoryTransaction database =
      (.ok note, { database with notes := notes, outbox := outbox }) := by
  have hoperation : (enqueueOperation (transactionExecutor NotesDatabase) signer draws
      (noteOperation draws (extractContextSubject context) syncGroupId draws.noteId "create"
        (payloadOf note))).run memoryTransaction { database with notes := notes } =
          (.ok (), { database with notes := notes, outbox := outbox }) :=
    run_enqueueOperation hbuilt hinsert hgroup
  simp only [doCreate, hcreated]
  rw [Program.run_bind_ok _
      ((requirePermission_keeps readsOnly_transaction _).run_eq hpermission),
    Program.run_bind_ok _ (requireActiveMembership_run answersAsIs_transaction hmember),
    Program.run_bind_ok _ (transaction_execute_run (run_insert hnote)),
    Program.run_bind_ok _ hoperation]
  rfl

theorem run_doUpdate {id : String} {title content : Option String} {existing : NoteRecord}
    {others : List NoteRecord}
    (hpermission : ((requirePermission (transactionExecutor NotesDatabase) context
      "notes.update").run memoryTransaction database).1 = .ok ())
    (hfound : ((transactionExecutor NotesDatabase).query (findByIdWithinOrganisation id
      (extractContextSubject context).organisationId)).run memoryTransaction database =
        (.ok (existing :: others), database))
    (hmember : ((requireActiveMembership (transactionExecutor NotesDatabase) context
      existing.syncGroupId).run memoryTransaction database).1 = .ok ())
    (hupdated : updatedNote draws existing title content = note)
    (hnote : database.notes.update? (fun row => row.id = id) (fun row => { note with id := row.id }) =
      some notes)
    (hbuilt : build (noteOperation draws (extractContextSubject context) existing.syncGroupId id
      "update" (payloadOf note)) signer.publicKey signer.sign draws.signedAt = .ok envelope)
    (hinsert : database.outbox.insert? (newLiveRow draws.outboxId draws.enqueuedAt.iso envelope) =
      some outbox)
    (hgroup : (newLiveRow draws.outboxId draws.enqueuedAt.iso envelope).syncGroupId ∈
      database.authorization.syncGroups.rows.map SyncGroupRow.id) :
    (doUpdate (transactionExecutor NotesDatabase) signer draws context id title content).run
        memoryTransaction database =
      (.ok note, { database with notes := notes, outbox := outbox }) := by
  have hwrite : (NotesRepository.update id note).run database =
      .ok ⟨{ database with notes := notes }, [], (database.notes.select fun row =>
        row.id = id).length⟩ := by
    unfold NotesRepository.update NotesRepository.updateStatement Statement.run
    simp only [hnote]
  have hoperation : (enqueueOperation (transactionExecutor NotesDatabase) signer draws
      (noteOperation draws (extractContextSubject context) existing.syncGroupId id "update"
        (payloadOf note))).run memoryTransaction { database with notes := notes } =
          (.ok (), { database with notes := notes, outbox := outbox }) :=
    run_enqueueOperation hbuilt hinsert hgroup
  rw [doUpdate, Program.run_bind_ok _
      ((requirePermission_keeps readsOnly_transaction _).run_eq hpermission),
    Program.run_bind_ok _ hfound]
  simp only [hupdated]
  rw [Program.run_bind_ok _ (requireActiveMembership_run answersAsIs_transaction hmember),
    Program.run_bind_ok _ (transaction_execute_run hwrite), Program.run_bind_ok _ hoperation]
  rfl

end Accepted

/-! ## Two edits in one millisecond -/

def officeSigner : NotesSyncSigner where
  publicKey := notePublicKey
  sign _ := .ok noteSignature

def officeDraws (now : ClockReading) (operationId outboxId : String) : NoteCallDraws :=
  ⟨now, now, now, "note_1", operationId, "tomb_1", outboxId⟩

def officeNote (content : String) : NoteRecord :=
  ⟨"note_1", noteReading.iso, noteReading.iso, "org", "g", "Fence", content, "u", none, none, none⟩

def officeOperation (operationId operation content : String) : JsValue :=
  noteOperation (officeDraws noteReading operationId "") (extractContextSubject officeUser) "g"
    "note_1" operation (payloadOf (officeNote content))

def officeEnvelope (operationId operation content : String) : JsValue :=
  liveEnvelope (officeOperation operationId operation content) noteReading.iso notePublicKey
    noteSignature

def envelopeJson (operationId : String) (operation : JsonValue) : JsonValue :=
  .object [("envelopeId", .string operationId), ("signedAt", .string noteReading.iso),
    ("signerPublicKey", .string notePublicKey), ("signature", .string noteSignature),
    ("operation", operation)]

def officeEdits : List (String × String × String) :=
  [("op_1", "create", "Broken"), ("op_2", "update", "Mended")]

theorem stringify_of_json {value : JsValue} (hbigint : value.holdsBigInt = false)
    (hjson : (value.json JsValue.stringifying).isSome) :
    value.stringify = .ok (some ((value.json JsValue.stringifying).getD .null).stringify) := by
  obtain ⟨written, hwritten⟩ := Option.isSome_iff_exists.mp hjson
  rw [JsValue.stringify, hbigint, hwritten]
  rfl

theorem build_officeOperation : ∀ edit ∈ officeEdits,
    build (officeOperation edit.1 edit.2.1 edit.2.2) notePublicKey (fun _ => .ok noteSignature)
      noteReading = .ok (officeEnvelope edit.1 edit.2.1 edit.2.2) := by
  have hvalid : ∀ edit ∈ officeEdits,
      validateLiveOperation (officeOperation edit.1 edit.2.1 edit.2.2) = .ok () := by
    decide +kernel
  have hbytes : ∀ edit ∈ officeEdits,
      utf8Length (((JsValue.sortedKeys (officeOperation edit.1 edit.2.1 edit.2.2)).json
        JsValue.stringifying).getD .null).serialize ≤ maxSyncEnvelopeSizeBytes := by
    decide +kernel
  have hsize : ∀ edit ∈ officeEdits,
      utf8Length (envelopeJson edit.1 (((officeOperation edit.1 edit.2.1 edit.2.2).json
        JsValue.stringifying).getD .null)).serialize ≤ maxSyncEnvelopeSizeBytes := by
    simp only [envelopeJson, JsonValue.serialize, serializeEntries, quoteText,
      notePublicKey_toList, noteSignature_toList]
    decide +kernel
  have hbigint : ∀ edit ∈ officeEdits,
      (JsValue.sortedKeys (officeOperation edit.1 edit.2.1 edit.2.2)).holdsBigInt = false ∧
        (officeEnvelope edit.1 edit.2.1 edit.2.2).holdsBigInt = false ∧
        ((JsValue.sortedKeys (officeOperation edit.1 edit.2.1 edit.2.2)).json
          JsValue.stringifying).isSome := by
    decide +kernel
  intro edit hedit
  obtain ⟨hsorted, henvelope, hjson⟩ := hbigint edit hedit
  have hwritten : ((officeEnvelope edit.1 edit.2.1 edit.2.2).json JsValue.stringifying) =
      some (envelopeJson edit.1 (((officeOperation edit.1 edit.2.1 edit.2.2).json
        JsValue.stringifying).getD .null)) := by
    rfl
  refine build_of_written (hvalid edit hedit) (stringify_of_json hsorted hjson) ?_
    isPublicKey_notePublicKey isValidSignatureHex_noteSignature (fun _ => rfl) rfl
    (hbytes edit hedit) (hsize edit hedit)
  change (officeEnvelope edit.1 edit.2.1 edit.2.2).stringify = _
  rw [JsValue.stringify, henvelope, hwritten]
  rfl

def officeRow (outboxId operationId operation content : String) : OutboxRow :=
  newLiveRow outboxId noteReading.iso (officeEnvelope operationId operation content)

def createCall : NoteCall where
  signer := officeSigner
  draws := officeDraws noteReading "op_1" "outbox_1"
  context := officeUser
  edit := .create ⟨.string "Fence", .string "Broken", "g"⟩
  withClient := false
  before := office

def officeCreated : NotesDatabase :=
  { office with
    notes := { rows := [officeNote "Broken"], unique := by simp }
    outbox :=
      { rows := [officeRow "outbox_1" "op_1" "create" "Broken"]
        unique := by simp [outboxIndexes] } }

def updateCall : NoteCall where
  signer := officeSigner
  draws := officeDraws noteReading "op_2" "outbox_2"
  context := officeUser
  edit := .update ⟨"note_1", .undefined, .string "Mended"⟩
  withClient := false
  before := officeCreated

theorem NoteCall.after_of_ok {call : NoteCall} {later : NotesDatabase}
    (hrun : (call.program callersTransaction).run memoryTransaction call.before =
      (.ok (), later)) : call.after = later := by
  unfold NoteCall.after
  split_ifs
  · rw [hrun]
  · rw [call.run_ownTransaction, hrun]
    rfl

theorem createCall_after : createCall.after = officeCreated := by
  apply NoteCall.after_of_ok
  have hpermission : ((requirePermission (transactionExecutor NotesDatabase) officeUser
      "notes.create").run memoryTransaction office).1 = .ok () := by rfl
  have hmember : ((requireActiveMembership (transactionExecutor NotesDatabase) officeUser
      "g").run memoryTransaction office).1 = .ok () := by rfl
  have hcreated : createdNote (officeDraws noteReading "op_1" "outbox_1")
      (extractContextSubject officeUser) "g" "Fence" "Broken" = officeNote "Broken" := by rfl
  have hbuilt := build_officeOperation ("op_1", "create", "Broken") (by simp [officeEdits])
  have hcreate : (doCreate (transactionExecutor NotesDatabase) officeSigner
      (officeDraws noteReading "op_1" "outbox_1") officeUser "g" "Fence" "Broken").run
        memoryTransaction office = (.ok (officeNote "Broken"), officeCreated) :=
    run_doCreate hpermission hmember hcreated (Table.insert?_eq_some_iff.mpr rfl) hbuilt
      (Table.insert?_eq_some_iff.mpr rfl) (by decide)
  have hcheck : checkCreateInput officeUser ⟨.string "Fence", .string "Broken", "g"⟩ =
      .ok ("Fence", "Broken") := by rfl
  simp only [NoteCall.program, createCall, createNote, hcheck, callersTransaction]
  rw [Program.run_bind_ok _ hcreate]
  rfl

def officeChanged : NotesDatabase :=
  { office with
    notes := { rows := [officeNote "Mended"], unique := by simp }
    outbox :=
      { rows := [officeRow "outbox_1" "op_1" "create" "Broken",
          officeRow "outbox_2" "op_2" "update" "Mended"]
        unique := by decide } }

theorem updateCall_after : updateCall.after = officeChanged := by
  apply NoteCall.after_of_ok
  have hpermission : ((requirePermission (transactionExecutor NotesDatabase) officeUser
      "notes.update").run memoryTransaction officeCreated).1 = .ok () := by decide
  have hfound : ((transactionExecutor NotesDatabase).query (findByIdWithinOrganisation "note_1"
      (extractContextSubject officeUser).organisationId)).run memoryTransaction officeCreated =
        (.ok [officeNote "Broken"], officeCreated) := by rfl
  have hmember : ((requireActiveMembership (transactionExecutor NotesDatabase) officeUser
      "g").run memoryTransaction officeCreated).1 = .ok () := by decide
  have hupdated : updatedNote (officeDraws noteReading "op_2" "outbox_2") (officeNote "Broken")
      none (some "Mended") = officeNote "Mended" := by rfl
  have hbuilt := build_officeOperation ("op_2", "update", "Mended") (by simp [officeEdits])
  have hupdate : (doUpdate (transactionExecutor NotesDatabase) officeSigner
      (officeDraws noteReading "op_2" "outbox_2") officeUser "note_1" none (some "Mended")).run
        memoryTransaction officeCreated = (.ok (officeNote "Mended"), officeChanged) :=
    run_doUpdate hpermission hfound hmember hupdated (Table.update?_eq_some_iff.mpr rfl) hbuilt
      (Table.insert?_eq_some_iff.mpr rfl) (by decide)
  have hcheck : checkUpdateInput officeUser ⟨"note_1", .undefined, .string "Mended"⟩ =
      .ok (none, some "Mended") := by rfl
  simp only [NoteCall.program, updateCall, updateNote, hcheck, callersTransaction]
  rw [Program.run_bind_ok _ hupdate]
  rfl

def NoteCall.noteId (call : NoteCall) : String :=
  match call.edit with
  | .create _ => call.draws.noteId
  | .update input => input.id
  | .delete id => id

theorem officeCalls_of_device :
    ∀ call ∈ [createCall, updateCall], call.deviceId = "d" ∧ call.noteId = "note_1" := by
  simp only [List.forall_mem_cons]
  exact ⟨⟨rfl, rfl⟩, ⟨rfl, rfl⟩, fun _ hmem => nomatch hmem⟩

theorem officeCalls_stamps :
    stamps [createCall, updateCall] = [logicalTimestamp noteReading "d",
      logicalTimestamp noteReading "d"] := by
  have hcreate : createCall.enqueued = [officeRow "outbox_1" "op_1" "create" "Broken"] := by
    rw [NoteCall.enqueued, createCall_after]
    rfl
  have hupdate : updateCall.enqueued = [officeRow "outbox_2" "op_2" "update" "Mended"] := by
    rw [NoteCall.enqueued, updateCall_after]
    rfl
  rw [stamps_eq]
  simp only [enqueuing, List.filter_cons, hcreate, hupdate]
  rfl

/-! ## Order -/

/-- The operations which a device enqueues have increasing timestamps exactly when the readings
of the wall clock, taken by the calls which enqueue them, increase. -/
theorem stamps_increase_iff (collation : Collation) (deviceId : String) (calls : List NoteCall)
    (hdevice : ∀ call ∈ calls, call.deviceId = deviceId) :
    (stamps calls).Pairwise (ComparesBelow collation) ↔
      ((enqueuing calls).map fun call => call.draws.now.millis).Pairwise (· < ·) := by
  rw [stamps_eq, List.pairwise_map, List.pairwise_map]
  apply List.Pairwise.iff_of_mem
  intro earlier later hearlier hlater
  have haccepted : ∀ call ∈ enqueuing calls, call.deviceId = deviceId ∧
      ∃ timestamp, parse (logicalTimestamp call.draws.now deviceId) = .ok timestamp := by
    intro call hcall
    obtain ⟨hmem, henqueues⟩ := List.mem_filter.mp hcall
    refine ⟨hdevice call hmem, ?_⟩
    rcases call.enqueued_cases with hnone | ⟨row, -, -, hparse⟩
    · simp [hnone] at henqueues
    · rw [← hdevice call hmem]
      exact hparse
  obtain ⟨hearlierDevice, hearlierRead⟩ := haccepted earlier hearlier
  obtain ⟨hlaterDevice, hlaterRead⟩ := haccepted later hlater
  unfold NoteCall.stamp
  rw [hearlierDevice, hlaterDevice]
  exact precedes_stamp_iff hearlierRead hlaterRead

theorem stamps_increase_iff_office :
    (stamps [createCall, updateCall]).Pairwise (ComparesBelow .codePoint) ↔
      ((enqueuing [createCall, updateCall]).map fun call => call.draws.now.millis).Pairwise
        (· < ·) :=
  stamps_increase_iff .codePoint "d" [createCall, updateCall]
    fun call hcall => (officeCalls_of_device call hcall).1

/-- A note which is created and changed within one millisecond gets one timestamp twice. -/
theorem stamps_tie_within_millisecond :
    ¬ ∀ (collation : Collation) (deviceId noteId : String) (calls : List NoteCall),
      (∀ call ∈ calls, call.deviceId = deviceId ∧ call.noteId = noteId) →
      calls.IsChain (fun call next => next.before = call.after) →
        (stamps calls).Pairwise (ComparesBelow collation) := by
  intro hincrease
  have hchain : [createCall, updateCall].IsChain fun call next => next.before = call.after := by
    rw [List.isChain_pair, createCall_after]
    rfl
  have hpairwise := hincrease .codePoint "d" "note_1" [createCall, updateCall]
    officeCalls_of_device hchain
  rw [officeCalls_stamps, List.pairwise_pair] at hpairwise
  have hparse : ∃ timestamp, parse (logicalTimestamp noteReading "d") = .ok timestamp := by
    rcases createCall.enqueued_cases with hnone | ⟨row, -, -, hparse⟩
    · rw [NoteCall.enqueued, createCall_after] at hnone
      cases hnone
    · exact hparse
  exact absurd ((precedes_stamp_iff hparse hparse).mp hpairwise) (lt_irrefl _)

end NotesService
end TauriPlatform
