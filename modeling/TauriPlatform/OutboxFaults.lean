import TauriPlatform.OutboxSending
import TauriPlatform.SyncLoss
import TauriPlatform.TableUpdates

/-!
# A run of the worker in which writes fail

`handle` dispatches an envelope and marks it as sent within one `try`, whose `catch` charges
the row with a failed attempt unless the task has been aborted.  A dispatched envelope which
cannot be marked as sent is thus charged.
-/

namespace TauriPlatform.OutboxSyncWorker

open Async Relational OutboxService

/-- What fails in a run: the dispatches by the text of their envelope, and the writes by their
text and the envelope id they end with, which differ between any two writes of a run. -/
structure SendFaults where
  dispatch : (payloadJson : String) → Except Thrown Unit
  write : (sql : String) → (key : Option JsonValue) → Option Thrown
  cursor : Except Thrown Unit

/-- The state of a run, with what the signal and the clock will be read as. -/
structure SendRun where
  database : OutboxDatabase
  signals : Nat → Bool
  clock : Nat → ClockReading
  dispatches : List Dispatched

def readingsFrom {α : Type} (count : Nat) (readings : Nat → α) : Nat → α :=
  fun index => readings (index + count)

theorem readingsFrom_readingsFrom {α : Type} (first second : Nat) (readings : Nat → α) :
    readingsFrom second (readingsFrom first readings) = readingsFrom (first + second) readings := by
  funext index
  simp only [readingsFrom]
  congr 1
  omega

def sendHandler (faults : SendFaults) : Program.Handler SendCall Thrown SendRun
  | _, .database (.execute statement), run =>
      match faults.write statement.sql statement.params.getLast? with
      | some thrown => (.error thrown, run)
      | none =>
          let (answer, later) := memoryConnection (.execute statement) run.database
          (answer, { run with database := later })
  | _, .database request, run =>
      let (answer, later) := memoryConnection request run.database
      (answer, { run with database := later })
  | _, .dispatch _ _ payloadJson, run =>
      (faults.dispatch payloadJson, { run with
        dispatches := run.dispatches ++ [⟨payloadJson, (faults.dispatch payloadJson).isOk⟩] })
  | _, .upsertCursor _, run => (faults.cursor, run)
  | _, .aborted, run =>
      (.ok (run.signals 0), { run with signals := readingsFrom 1 run.signals })
  | _, .readClock, run => (.ok (run.clock 0), { run with clock := readingsFrom 1 run.clock })

namespace SendFaults

variable (faults : SendFaults)

/-- The error of `markSent`. -/
def sentError (envelopeId : String) : Option Thrown :=
  faults.write (sentStatement "" "").sql (some (.string envelopeId))

/-- The error of `markFailed`. -/
def failedError (envelopeId : String) : Option Thrown :=
  faults.write (failedStatement "" "" 0).sql (some (.string envelopeId))

/-- The error with which the `try` of a round ends. -/
def roundError (entry : OutboxRecord) : Option Thrown :=
  match faults.dispatch entry.envelopeJson with
  | .error thrown => some thrown
  | .ok _ => faults.sentError entry.row.envelopeId

/-- A round of the loop, with the signal as its `catch` reads it. -/
structure Round where
  entry : OutboxRecord
  aborted : Bool

def Round.ends (round : Round) : Bool :=
  (faults.roundError round.entry).isSome &&
    (round.aborted || (faults.failedError round.entry.row.envelopeId).isSome)

/-- The envelope has been dispatched, and its row is charged with a failed attempt. -/
def Round.mischarges (round : Round) : Bool :=
  (faults.dispatch round.entry.envelopeJson).isOk &&
    (faults.sentError round.entry.row.envelopeId).isSome && !round.aborted &&
    (faults.failedError round.entry.row.envelopeId).isNone

def Round.settle (round : Round) (now : String) : OutboxRow → OutboxRow :=
  if (faults.roundError round.entry).isNone then sent now
  else if round.ends faults then id
  else failedAttempt now 5

def signalsRead (entry : OutboxRecord) : Nat :=
  if (faults.roundError entry).isSome then 1 else 0

def rounds : (signals : Nat → Bool) → List OutboxRecord → List Round
  | _, [] => []
  | signals, entry :: entries =>
      if signals 0 then []
      else
        ⟨entry, signals 1⟩ ::
          if Round.ends faults ⟨entry, signals 1⟩ then []
          else rounds (readingsFrom (1 + faults.signalsRead entry) signals) entries

def dispatches (rounds : List Round) : List Dispatched :=
  rounds.map fun round =>
    ⟨round.entry.envelopeJson, (faults.dispatch round.entry.envelopeJson).isOk⟩

def Marks (round : Round) (update : String × (OutboxRow → OutboxRow)) : Prop :=
  ∃ now, update = (round.entry.row.envelopeId, whilePending (round.settle faults now))

end SendFaults

def loadedBatch (database : OutboxDatabase) (signals : Nat → Bool) (organisationId : String)
    (payload : JsonValue) : List OutboxRecord :=
  if (payload.get? "organisationId").bind JsonValue.string? ≠ some organisationId ∨
      signals 0 = true then
    []
  else
    match ((pendingBatch organisationId (batchLimitOf payload)).run memoryConnection
      database).1 with
    | .error _ => []
    | .ok batch => batch

/-! ## Runs -/

section Runs

variable {faults : SendFaults}

theorem execute_run_fault {statement : Statement OutboxDatabase Unit} {thrown : Thrown}
    (hfault : faults.write statement.sql statement.params.getLast? = some thrown)
    (run : SendRun) :
    (((connectionExecutor OutboxDatabase).execute statement).mapCall fun _ =>
      SendCall.database).run (sendHandler faults) run = (.error thrown, run) := by
  rw [connectionExecutor, Program.mapCall_bind, Program.run_bind]
  simp only [Program.await, Program.mapCall, Program.run, sendHandler, hfault]

theorem execute_run_ok {statement : Statement OutboxDatabase Unit}
    (hfault : faults.write statement.sql statement.params.getLast? = none) {run : SendRun}
    {result : StatementResult OutboxDatabase Unit}
    (hrun : statement.run run.database = .ok result) :
    (((connectionExecutor OutboxDatabase).execute statement).mapCall fun _ =>
      SendCall.database).run (sendHandler faults) run =
      (.ok (), { run with database := result.database }) := by
  rw [connectionExecutor, Program.mapCall_bind, Program.run_bind]
  simp only [Program.await, Program.mapCall, Program.run, sendHandler, hfault, memoryConnection,
    hrun]
  rfl

theorem updateRow_whilePending_id (envelopeId : String) :
    Table.updateRow (fun row : OutboxRow => row.envelopeId = envelopeId) (whilePending id) =
      id := by
  funext row
  simp [Table.updateRow, whilePending]

theorem mark_run (faults : SendFaults) (sql : String) (params : String → List JsonValue)
    {envelopeId : String} (set : String → OutboxRow → OutboxRow)
    (hkey : ∀ now, (params now).getLast? = some (.string envelopeId))
    (hid : ∀ now row, (set now row).id = row.id)
    (henvelope : ∀ now row, (set now row).envelopeId = row.envelopeId) (run : SendRun) :
    ∃ answer later, (do
        let now ← Program.await .readClock
        ((connectionExecutor OutboxDatabase).execute
          (updateStatement sql (params now.iso) envelopeId (set now.iso))).mapCall
            fun _ => SendCall.database : Program SendCall Thrown Unit).run
        (sendHandler faults) run = (answer, later) ∧
      answer = (faults.write sql (some (.string envelopeId))).elim (.ok ()) .error ∧
      later.signals = run.signals ∧ later.dispatches = run.dispatches ∧
      later.database.outbox.rows = run.database.outbox.rows.map
        (Table.updateRow (fun row => row.envelopeId = envelopeId)
          (whilePending
            (if (faults.write sql (some (.string envelopeId))).isNone
              then set (run.clock 0).iso else id))) := by
  let read : SendRun := { run with clock := readingsFrom 1 run.clock }
  have hread : (Program.await .readClock : Program SendCall Thrown ClockReading).run
      (sendHandler faults) run = (.ok (run.clock 0), read) := rfl
  rw [Program.run_bind_ok _ hread]
  have hlast : faults.write sql (params (run.clock 0).iso).getLast? =
      faults.write sql (some (.string envelopeId)) := by
    rw [hkey]
  cases hfault : faults.write sql (some (.string envelopeId)) with
  | some thrown =>
      refine ⟨.error thrown, read, execute_run_fault (hlast.trans hfault) read, rfl, rfl, rfl, ?_⟩
      change _ = List.map (Table.updateRow _ (whilePending id)) _
      rw [updateRow_whilePending_id, List.map_id]
  | none =>
      obtain ⟨result, hrun, -, hrows⟩ := updateStatement_run_ok sql (params (run.clock 0).iso)
        envelopeId (hid (run.clock 0).iso) (henvelope (run.clock 0).iso) run.database
      exact ⟨.ok (), { read with database := result.database },
        execute_run_ok (hlast.trans hfault) hrun, rfl, rfl, rfl, hrows⟩

theorem markSent_run (faults : SendFaults) (envelopeId : String) (run : SendRun) :
    ∃ answer later, (outboxServices.markSent envelopeId).run (sendHandler faults) run =
        (answer, later) ∧
      answer = (faults.sentError envelopeId).elim (.ok ()) .error ∧
      later.signals = run.signals ∧ later.dispatches = run.dispatches ∧
      later.database.outbox.rows = run.database.outbox.rows.map
        (Table.updateRow (fun row => row.envelopeId = envelopeId)
          (whilePending
            (if (faults.sentError envelopeId).isNone then sent (run.clock 0).iso else id))) :=
  mark_run faults (sentStatement "" "").sql (fun now => [.string now, .string envelopeId]) sent
    (fun _ => rfl) (fun _ _ => rfl) (fun _ _ => rfl) run

theorem markFailed_run (faults : SendFaults) (envelopeId : String) (run : SendRun) :
    ∃ answer later, (outboxServices.markFailed envelopeId).run (sendHandler faults) run =
        (answer, later) ∧
      answer = (faults.failedError envelopeId).elim (.ok ()) .error ∧
      later.signals = run.signals ∧ later.dispatches = run.dispatches ∧
      later.database.outbox.rows = run.database.outbox.rows.map
        (Table.updateRow (fun row => row.envelopeId = envelopeId)
          (whilePending
            (if (faults.failedError envelopeId).isNone then failedAttempt (run.clock 0).iso 5
              else id))) :=
  mark_run faults (failedStatement "" "" 0).sql
    (fun now => [.string now, .number (.integer 5), .string envelopeId])
    (fun now => failedAttempt now 5) (fun _ => rfl) (fun _ _ => rfl) (fun _ _ => rfl) run

/-- The `catch` of a round. -/
theorem recover_run (faults : SendFaults) (thrown : Thrown) (entry : OutboxRecord)
    (run : SendRun) :
    ∃ answer later now, (do
        if ← outboxServices.aborted then throw thrown
        else
          outboxServices.markFailed entry.row.envelopeId
          pure false : Program SendCall Thrown Bool).run (sendHandler faults) run =
        (answer, later) ∧
      answer.isOk =
        !(run.signals 0 || (faults.failedError entry.row.envelopeId).isSome) ∧
      later.signals = readingsFrom 1 run.signals ∧ later.dispatches = run.dispatches ∧
      later.database.outbox.rows = run.database.outbox.rows.map
        (Table.updateRow (fun row => row.envelopeId = entry.row.envelopeId)
          (whilePending
            (if run.signals 0 || (faults.failedError entry.row.envelopeId).isSome then id
              else failedAttempt now 5))) := by
  let read : SendRun := { run with signals := readingsFrom 1 run.signals }
  have hread : outboxServices.aborted.run (sendHandler faults) run =
      (.ok (run.signals 0), read) := rfl
  rw [Program.run_bind_ok _ hread]
  cases habort : run.signals 0 with
  | true =>
      refine ⟨.error thrown, read, "", rfl, rfl, rfl, rfl, ?_⟩
      change _ = List.map (Table.updateRow _ (whilePending id)) _
      rw [updateRow_whilePending_id, List.map_id]
  | false =>
      obtain ⟨answer, later, hrun, hanswer, hsignals, hdispatches, hrows⟩ :=
        markFailed_run faults entry.row.envelopeId read
      cases hfailed : faults.failedError entry.row.envelopeId with
      | none =>
          rw [hfailed] at hanswer hrows
          rw [hanswer] at hrun
          exact ⟨.ok false, later, (run.clock 0).iso, Program.run_bind_ok _ hrun, rfl, hsignals,
            hdispatches, hrows⟩
      | some error =>
          rw [hfailed] at hanswer hrows
          rw [hanswer] at hrun
          exact ⟨.error error, later, "", Program.run_bind_error _ hrun, rfl, hsignals,
            hdispatches, hrows⟩

theorem dispatchEntry_run (faults : SendFaults) (entry : OutboxRecord) (run : SendRun) :
    ∃ answer later now, (dispatchEntry outboxServices entry).run (sendHandler faults) run =
        (answer, later) ∧
      answer.isOk = !SendFaults.Round.ends faults ⟨entry, run.signals 0⟩ ∧
      later.signals = readingsFrom (faults.signalsRead entry) run.signals ∧
      later.dispatches = run.dispatches ++
        [⟨entry.envelopeJson, (faults.dispatch entry.envelopeJson).isOk⟩] ∧
      later.database.outbox.rows = run.database.outbox.rows.map
        (Table.updateRow (fun row => row.envelopeId = entry.row.envelopeId)
          (whilePending (SendFaults.Round.settle faults ⟨entry, run.signals 0⟩ now))) := by
  let dispatched : SendRun := { run with dispatches := run.dispatches ++
    [⟨entry.envelopeJson, (faults.dispatch entry.envelopeJson).isOk⟩] }
  have hdispatch : (outboxServices.dispatch entry.row.organisationId entry.row.syncGroupId
      entry.envelopeJson).run (sendHandler faults) run =
      (faults.dispatch entry.envelopeJson, dispatched) := rfl
  cases houtcome : faults.dispatch entry.envelopeJson with
  | error thrown =>
      have hround : faults.roundError entry = some thrown := by
        rw [SendFaults.roundError, houtcome]
      rw [houtcome] at hdispatch
      obtain ⟨answer, later, now, hrun, hanswer, hsignals, hdispatches, hrows⟩ :=
        recover_run faults thrown entry dispatched
      refine ⟨answer, later, now, ?_, ?_, ?_, ?_, ?_⟩
      · rw [dispatchEntry, Program.run_tryCatch, Program.run_bind_error _ hdispatch]
        exact hrun
      · rw [hanswer, SendFaults.Round.ends, hround]
        rfl
      · rw [hsignals, SendFaults.signalsRead, hround]
        rfl
      · rw [hdispatches, ← houtcome]
      · rw [hrows, SendFaults.Round.settle, SendFaults.Round.ends, hround]
        rfl
  | ok _ =>
      rw [houtcome] at hdispatch
      obtain ⟨marked, later, hrun, hanswer, hsignals, hdispatches, hrows⟩ :=
        markSent_run faults entry.row.envelopeId dispatched
      have hround : faults.roundError entry = faults.sentError entry.row.envelopeId := by
        rw [SendFaults.roundError, houtcome]
      cases hsent : faults.sentError entry.row.envelopeId with
      | none =>
          rw [hsent] at hanswer hrows hround
          rw [hanswer] at hrun
          refine ⟨.ok true, later, (run.clock 0).iso, ?_, ?_, ?_, ?_, ?_⟩
          · rw [dispatchEntry, Program.run_tryCatch, Program.run_bind_ok _ hdispatch,
              Program.run_bind_ok _ hrun]
            rfl
          · rw [SendFaults.Round.ends, hround]
            rfl
          · rw [hsignals, SendFaults.signalsRead, hround]
            rfl
          · rw [hdispatches, ← houtcome]
          · rw [hrows, SendFaults.Round.settle, hround]
            rfl
      | some thrown =>
          rw [hsent] at hanswer hrows hround
          rw [hanswer] at hrun
          obtain ⟨answer, last, now, hrecover, hanswer, hsignals', hdispatches', hrows'⟩ :=
            recover_run faults thrown entry later
          rw [hsignals] at hanswer hsignals' hrows'
          refine ⟨answer, last, now, ?_, ?_, ?_, ?_, ?_⟩
          · rw [dispatchEntry, Program.run_tryCatch, Program.run_bind_ok _ hdispatch,
              Program.run_bind_error _ hrun]
            exact hrecover
          · rw [hanswer, SendFaults.Round.ends, hround]
            rfl
          · rw [hsignals', SendFaults.signalsRead, hround]
            rfl
          · rw [hdispatches', hdispatches, ← houtcome]
          · have hkept : later.database.outbox.rows = run.database.outbox.rows := by
              change _ = List.map (Table.updateRow _ (whilePending id)) _ at hrows
              rw [hrows, updateRow_whilePending_id, List.map_id]
            rw [hrows', hkept, SendFaults.Round.settle, SendFaults.Round.ends, hround]
            rfl

theorem dispatchAll_run (faults : SendFaults) (entries : List OutboxRecord)
    (dispatched failed : Nat) (run : SendRun) :
    ∃ answer later updates,
      (dispatchAll outboxServices entries dispatched failed).run (sendHandler faults) run =
        (answer, later) ∧
      List.Forall₂ faults.Marks (faults.rounds run.signals entries) updates ∧
      later.dispatches =
        run.dispatches ++ faults.dispatches (faults.rounds run.signals entries) ∧
      later.database.outbox.rows =
        Table.updateEach OutboxRow.envelopeId updates run.database.outbox.rows := by
  induction entries generalizing dispatched failed run with
  | nil => exact ⟨_, run, [], rfl, .nil, (List.append_nil _).symm, rfl⟩
  | cons entry entries ih =>
      let read : SendRun := { run with signals := readingsFrom 1 run.signals }
      have hread : outboxServices.aborted.run (sendHandler faults) run =
          (.ok (run.signals 0), read) := rfl
      rw [dispatchAll, Program.run_bind_ok _ hread, SendFaults.rounds]
      cases habort : run.signals 0 with
      | true => exact ⟨_, read, [], rfl, .nil, (List.append_nil _).symm, rfl⟩
      | false =>
          obtain ⟨answer, next, now, hrun, hanswer, hsignals, hdispatches, hrows⟩ :=
            dispatchEntry_run faults entry read
          change answer.isOk = !SendFaults.Round.ends faults ⟨entry, run.signals 1⟩ at hanswer
          rw [readingsFrom_readingsFrom] at hsignals
          have hmarks : faults.Marks ⟨entry, run.signals 1⟩
              (entry.row.envelopeId, whilePending
                (SendFaults.Round.settle faults ⟨entry, run.signals 1⟩ now)) := ⟨now, rfl⟩
          rw [if_neg Bool.false_ne_true, if_neg Bool.false_ne_true]
          cases answer with
          | error thrown =>
              have hends : SendFaults.Round.ends faults ⟨entry, run.signals 1⟩ = true :=
                Bool.not_inj hanswer.symm
              rw [if_pos hends]
              exact ⟨_, next, [_], Program.run_bind_error _ hrun, .cons hmarks .nil, hdispatches,
                hrows⟩
          | ok sent =>
              have hends : SendFaults.Round.ends faults ⟨entry, run.signals 1⟩ = false :=
                Bool.not_inj hanswer.symm
              rw [if_neg (by simp [hends]), ← hsignals]
              -- whichever counter is raised, the loop goes on with the other entries
              have hcounters : ∃ dispatched' failed',
                  (if sent then dispatchAll outboxServices entries (dispatched + 1) failed
                    else dispatchAll outboxServices entries dispatched (failed + 1)) =
                  dispatchAll outboxServices entries dispatched' failed' := by
                cases sent with
                | true => exact ⟨_, _, rfl⟩
                | false => exact ⟨_, _, rfl⟩
              obtain ⟨dispatched', failed', hloop⟩ := hcounters
              obtain ⟨last, later, updates, hrest, hforall, hmore, hlater⟩ :=
                ih dispatched' failed' next
              refine ⟨last, later, _ :: updates, ?_, .cons hmarks hforall, ?_, ?_⟩
              · rw [Program.run_bind_ok _ hrun, hloop]
                exact hrest
              · rw [hmore, hdispatches]
                simp [SendFaults.dispatches, read]
              · rw [hlater, hrows]
                rfl

theorem reads_run (faults : SendFaults) {α : Type}
    {program : Program (DbCall OutboxDatabase) Thrown α} (hreads : program.Makes Reads)
    (run : SendRun) :
    (program.mapCall fun _ => SendCall.database).run (sendHandler faults) run =
      ((program.run memoryConnection run.database).1, run) := by
  induction program with
  | done outcome => rfl
  | call request rest ih =>
      match request, hreads with
      | .query statement, hreads =>
          have hsame : (memoryConnection (.query statement) run.database).2 = run.database := by
            apply memory_query_relates (R := fun old new => new = old) rfl
            intro result hrun
            exact Statement.run_database_of_readonly hreads.1 hrun
          have hcall : sendHandler faults (.database (.query statement)) run =
              ((memoryConnection (.query statement) run.database).1, run) := by
            simp only [sendHandler]
            rw [hsame]
          simp only [Program.mapCall, Program.run, hcall, hsame]
          exact ih _ (hreads.2 _)

def Idle : ∀ ⦃β : Type⦄, SendCall β → Prop
  | _, .upsertCursor _ => True
  | _, .aborted => True
  | _, _ => False

theorem idle_run (faults : SendFaults) {α : Type} {program : Program SendCall Thrown α}
    (hidle : program.Makes Idle) (run : SendRun) :
    (program.run (sendHandler faults) run).2.database = run.database ∧
      (program.run (sendHandler faults) run).2.dispatches = run.dispatches := by
  induction program generalizing run with
  | done outcome => exact ⟨rfl, rfl⟩
  | call request rest ih =>
      match request, hidle with
      | .upsertCursor _, hidle => exact ih _ (hidle.2 _) _
      | .aborted, hidle => exact ih _ (hidle.2 _) _

theorem handleBatch_run (faults : SendFaults) (organisationId : String)
    (batch : List OutboxRecord) (run : SendRun) :
    ∃ later updates,
      ((handleBatch outboxServices organisationId batch).run (sendHandler faults) run).2 =
        later ∧
      List.Forall₂ faults.Marks (faults.rounds run.signals batch) updates ∧
      later.dispatches = run.dispatches ++ faults.dispatches (faults.rounds run.signals batch) ∧
      later.database.outbox.rows =
        Table.updateEach OutboxRow.envelopeId updates run.database.outbox.rows := by
  cases batch with
  | nil =>
      obtain ⟨hdatabase, hdispatches⟩ := idle_run faults
        (emptyBatch_makes Idle organisationId trivial trivial) run
      refine ⟨_, [], rfl, .nil, ?_, ?_⟩
      · rw [hdispatches]
        exact (List.append_nil _).symm
      · rw [hdatabase]
        rfl
  | cons entry entries =>
      obtain ⟨answer, looped, updates, hrun, hmarks, hdispatches, hrows⟩ :=
        dispatchAll_run faults (entry :: entries) 0 0 run
      refine ⟨_, updates, rfl, hmarks, ?_⟩
      cases answer with
      | error thrown =>
          rw [handleBatch, Program.run_bind_error _ hrun]
          exact ⟨hdispatches, hrows⟩
      | ok counts =>
          obtain ⟨dispatched, failed⟩ := counts
          rw [handleBatch, Program.run_bind_ok _ hrun]
          obtain ⟨hdatabase, hsame⟩ := idle_run faults
            (afterLoop_makes Idle organisationId trivial trivial dispatched failed) looped
          exact ⟨hsame.trans hdispatches, (congrArg (fun database => database.outbox.rows)
            hdatabase).trans hrows⟩

def roundsOf (faults : SendFaults) (database : OutboxDatabase) (signals : Nat → Bool)
    (organisationId : String) (payload : JsonValue) : List SendFaults.Round :=
  faults.rounds (readingsFrom 1 signals) (loadedBatch database signals organisationId payload)

theorem handle_run (faults : SendFaults) (database : OutboxDatabase) (signals : Nat → Bool)
    (clock : Nat → ClockReading) (organisationId : String) (payload : JsonValue) :
    ∃ later updates,
      ((handle outboxServices organisationId payload).run (sendHandler faults)
        ⟨database, signals, clock, []⟩).2 = later ∧
      List.Forall₂ faults.Marks (roundsOf faults database signals organisationId payload)
        updates ∧
      later.dispatches =
        faults.dispatches (roundsOf faults database signals organisationId payload) ∧
      later.database.outbox.rows =
        Table.updateEach OutboxRow.envelopeId updates database.outbox.rows := by
  let run : SendRun := ⟨database, signals, clock, []⟩
  let read : SendRun := ⟨database, readingsFrom 1 signals, clock, []⟩
  have hread : outboxServices.aborted.run (sendHandler faults) run = (.ok (signals 0), read) := rfl
  have hload := reads_run faults (pendingBatch_reads organisationId (batchLimitOf payload)) read
  unfold handle roundsOf
  by_cases hcontext : (payload.get? "organisationId").bind JsonValue.string? = some organisationId
  · rw [if_neg (not_not.mpr hcontext), Program.run_bind_ok _ hread]
    cases habort : signals 0 with
    | true =>
        have hloaded : loadedBatch database signals organisationId payload = [] :=
          if_pos (.inr habort)
        rw [hloaded]
        exact ⟨read, [], rfl, .nil, rfl, rfl⟩
    | false =>
        have hloaded : loadedBatch database signals organisationId payload =
            match ((pendingBatch organisationId (batchLimitOf payload)).run memoryConnection
              database).1 with
            | .error _ => []
            | .ok batch => batch := if_neg (by simp [hcontext, habort])
        rw [hloaded]
        cases hbatch : ((pendingBatch organisationId (batchLimitOf payload)).run memoryConnection
            database).1 with
        | error thrown =>
            rw [hbatch] at hload
            exact ⟨read, [], congrArg Prod.snd (Program.run_bind_error _ hload), .nil, rfl, rfl⟩
        | ok batch =>
            rw [hbatch] at hload
            obtain ⟨later, updates, hlater, hrest⟩ :=
              handleBatch_run faults organisationId batch read
            exact ⟨later, updates, (congrArg Prod.snd (Program.run_bind_ok _ hload)).trans hlater,
              hrest⟩
  · have hloaded : loadedBatch database signals organisationId payload = [] :=
      if_pos (.inl hcontext)
    rw [if_pos hcontext, hloaded]
    exact ⟨run, [], rfl, .nil, rfl, rfl⟩

theorem rounds_sublist (faults : SendFaults) (signals : Nat → Bool) (entries : List OutboxRecord) :
    ((faults.rounds signals entries).map SendFaults.Round.entry).Sublist entries := by
  induction entries generalizing signals with
  | nil => exact List.nil_sublist _
  | cons entry entries ih =>
      rw [SendFaults.rounds]
      split
      · exact List.nil_sublist _
      · split
        · exact (List.nil_sublist entries).cons_cons entry
        · exact (ih _).cons_cons entry

end Runs

/-! ## The rows of a run -/

theorem loadedBatch_rows (database : OutboxDatabase) (signals : Nat → Bool)
    (organisationId : String) (payload : JsonValue) :
    (∀ entry ∈ loadedBatch database signals organisationId payload,
      entry.row ∈ database.outbox ∧ entry.row.status = .pending ∧
        entry.row.envelopeJson = some entry.envelopeJson) ∧
    ((loadedBatch database signals organisationId payload).map
      fun entry => entry.row.envelopeId).Nodup := by
  unfold loadedBatch
  split
  · exact ⟨fun _ hentry => absurd hentry List.not_mem_nil, .nil⟩
  · split
    · exact ⟨fun _ hentry => absurd hentry List.not_mem_nil, .nil⟩
    · rename_i batch hbatch
      obtain ⟨size, -, hread⟩ := pendingBatch_run_eq_ok hbatch
      have hrows := map_row_of_read hread
      constructor
      · intro entry hentry
        obtain ⟨hrow, hjson, -⟩ := exists_row_of_read hread hentry
        obtain ⟨hrow, hpending, -⟩ := mem_pendingRows.mp (List.mem_of_mem_take hrow)
        exact ⟨hrow, hpending, hjson⟩
      · have hnodup : ((pendingRows organisationId database.outbox).map
            OutboxRow.envelopeId).Nodup := by
          have hperm : (pendingRows organisationId database.outbox).Perm _ :=
            List.perm_insertionSort _ _
          rw [(hperm.map OutboxRow.envelopeId).nodup_iff]
          exact (nodup_envelopeIds database.outbox).sublist (List.filter_sublist.map _)
        have hids : (batch.map fun entry => entry.row.envelopeId) =
            (batch.map OutboxRecord.row).map OutboxRow.envelopeId := (List.map_map).symm
        rw [hids, hrows]
        exact hnodup.sublist ((List.take_sublist _ _).map _)

/-- No row whose dispatch has resolved is charged with a failed attempt, and none becomes
`FAILED`. -/
def NeverCharged (database : OutboxDatabase) (later : SendRun) : Prop :=
  ∀ row ∈ database.outbox, ∀ payloadJson, row.envelopeJson = some payloadJson →
    ⟨payloadJson, true⟩ ∈ later.dispatches →
    ∀ new ∈ later.database.outbox, new.id = row.id →
      new.attemptCount = row.attemptCount ∧ (new.status = .failed → row.status = .failed)

section Rows

variable {faults : SendFaults} {database : OutboxDatabase} {signals : Nat → Bool}
  {organisationId : String} {payload : JsonValue}

theorem settle_keeps_keys (round : SendFaults.Round) (now : String) (row : OutboxRow) :
    (whilePending (round.settle faults now) row).id = row.id ∧
      (whilePending (round.settle faults now) row).envelopeId = row.envelopeId := by
  unfold whilePending SendFaults.Round.settle
  split_ifs
  · exact ⟨rfl, rfl⟩
  · exact ⟨rfl, rfl⟩
  · exact ⟨rfl, rfl⟩
  · exact ⟨rfl, rfl⟩

variable {round : SendFaults.Round}

theorem settle_charges (now : String) {row : OutboxRow} (hpending : row.status = .pending)
    (hresolved : (faults.dispatch round.entry.envelopeJson).isOk = true)
    (hround : round.mischarges faults = false) :
    (whilePending (round.settle faults now) row).attemptCount = row.attemptCount ∧
      (whilePending (round.settle faults now) row).status ≠ .failed := by
  have hkept : row.status ≠ .failed := by
    rw [hpending]
    exact fun hstatus => by cases hstatus
  have hsent : faults.roundError round.entry =
      faults.sentError round.entry.row.envelopeId := by
    unfold SendFaults.roundError
    cases houtcome : faults.dispatch round.entry.envelopeJson with
    | ok _ => rfl
    | error thrown =>
        rw [houtcome] at hresolved
        cases hresolved
  rw [whilePending, if_pos hpending, SendFaults.Round.settle]
  split_ifs with hnone hends
  · exact ⟨rfl, fun hstatus => by cases hstatus⟩
  · exact ⟨rfl, hkept⟩
  · -- the round has failed and does not end the run, so its row is charged
    rw [SendFaults.Round.ends, hsent] at hends
    rw [SendFaults.Round.mischarges, hresolved] at hround
    rw [hsent] at hnone
    simp_all

theorem settle_of_mischarges (now : String) {row : OutboxRow} (hpending : row.status = .pending)
    (hround : round.mischarges faults = true) :
    whilePending (round.settle faults now) row = failedAttempt now 5 row := by
  simp only [SendFaults.Round.mischarges, Bool.and_eq_true, Bool.not_eq_true'] at hround
  obtain ⟨⟨⟨hresolved, hsent⟩, habort⟩, hfailed⟩ := hround
  have herror : (faults.roundError round.entry).isSome = true := by
    unfold SendFaults.roundError
    cases houtcome : faults.dispatch round.entry.envelopeJson with
    | ok _ => exact hsent
    | error thrown => rfl
  obtain ⟨thrown, hthrown⟩ := Option.isSome_iff_exists.mp herror
  rw [whilePending, if_pos hpending, SendFaults.Round.settle, SendFaults.Round.ends, hthrown,
    habort, Option.isNone_iff_eq_none.mp hfailed]
  rfl

theorem marks_keys {rounds : List SendFaults.Round}
    {updates : List (String × (OutboxRow → OutboxRow))}
    (hmarks : List.Forall₂ faults.Marks rounds updates) :
    updates.map Prod.fst =
      (rounds.map SendFaults.Round.entry).map fun entry => entry.row.envelopeId := by
  induction hmarks with
  | nil => rfl
  | cons hfirst _ ih =>
      obtain ⟨now, rfl⟩ := hfirst
      rw [List.map_cons, List.map_cons, List.map_cons, ih]

theorem marks_of_mem {rounds : List SendFaults.Round}
    {updates : List (String × (OutboxRow → OutboxRow))}
    (hmarks : List.Forall₂ faults.Marks rounds updates) :
    (∀ update ∈ updates, ∃ round ∈ rounds, faults.Marks round update) ∧
      ∀ round ∈ rounds, ∃ update ∈ updates, faults.Marks round update := by
  induction hmarks with
  | nil => exact ⟨fun _ h => absurd h List.not_mem_nil, fun _ h => absurd h List.not_mem_nil⟩
  | cons hfirst _ ih =>
      constructor
      · intro update hupdate
        cases List.mem_cons.mp hupdate with
        | inl hsame => exact ⟨_, List.mem_cons_self, hsame ▸ hfirst⟩
        | inr hlater =>
            obtain ⟨round, hround, hmarks⟩ := ih.1 update hlater
            exact ⟨round, List.mem_cons_of_mem _ hround, hmarks⟩
      · intro round hround
        cases List.mem_cons.mp hround with
        | inl hsame => exact ⟨_, List.mem_cons_self, hsame ▸ hfirst⟩
        | inr hlater =>
            obtain ⟨update, hupdate, hmarks⟩ := ih.2 round hlater
            exact ⟨update, List.mem_cons_of_mem _ hupdate, hmarks⟩

theorem roundsOf_rows (faults : SendFaults) (database : OutboxDatabase) (signals : Nat → Bool)
    (organisationId : String) (payload : JsonValue) :
    (∀ round ∈ roundsOf faults database signals organisationId payload,
      round.entry.row ∈ database.outbox ∧ round.entry.row.status = .pending ∧
        round.entry.row.envelopeJson = some round.entry.envelopeJson) ∧
    (((roundsOf faults database signals organisationId payload).map
      SendFaults.Round.entry).map fun entry => entry.row.envelopeId).Nodup := by
  obtain ⟨hrows, hnodup⟩ := loadedBatch_rows database signals organisationId payload
  have hsublist := rounds_sublist faults (readingsFrom 1 signals)
    (loadedBatch database signals organisationId payload)
  constructor
  · intro round hround
    exact hrows _ (hsublist.subset (List.mem_map_of_mem hround))
  · exact hnodup.sublist (hsublist.map _)

theorem handle_rows (faults : SendFaults) (database : OutboxDatabase) (signals : Nat → Bool)
    (clock : Nat → ClockReading) (organisationId : String) (payload : JsonValue) :
    ∃ later updates,
      ((handle outboxServices organisationId payload).run (sendHandler faults)
        ⟨database, signals, clock, []⟩).2 = later ∧
      List.Forall₂ faults.Marks (roundsOf faults database signals organisationId payload)
        updates ∧
      (updates.map Prod.fst).Nodup ∧
      later.dispatches =
        faults.dispatches (roundsOf faults database signals organisationId payload) ∧
      later.database.outbox.rows =
        database.outbox.rows.map (Table.updatedBy OutboxRow.envelopeId updates) := by
  obtain ⟨later, updates, hrun, hmarks, hdispatches, hrows⟩ :=
    handle_run faults database signals clock organisationId payload
  have hnodup : (updates.map Prod.fst).Nodup := by
    rw [marks_keys hmarks]
    exact (roundsOf_rows faults database signals organisationId payload).2
  refine ⟨later, updates, hrun, hmarks, hnodup, hdispatches, ?_⟩
  rw [hrows]
  apply Table.updateEach_eq_map _ hnodup
  intro update hupdate row
  obtain ⟨round, -, now, rfl⟩ := (marks_of_mem hmarks).1 update hupdate
  exact (settle_keeps_keys round now row).2

theorem not_mischarged_of_neverCharged {clock : Nat → ClockReading}
    (hnever : NeverCharged database
      ((handle outboxServices organisationId payload).run (sendHandler faults)
        ⟨database, signals, clock, []⟩).2)
    (hround : round ∈ roundsOf faults database signals organisationId payload) :
    round.mischarges faults = false := by
  obtain ⟨later, updates, hrun, hmarks, hnodup, hdispatches, hlater⟩ :=
    handle_rows faults database signals clock organisationId payload
  obtain ⟨hrounds, -⟩ := roundsOf_rows faults database signals organisationId payload
  rw [hrun] at hnever
  rw [← Bool.not_eq_true]
  intro hmischarges
  obtain ⟨hrow, hpending, hjson⟩ := hrounds round hround
  obtain ⟨update, hupdate, now, rfl⟩ := (marks_of_mem hmarks).2 round hround
  have hcharged : Table.updatedBy OutboxRow.envelopeId updates round.entry.row =
      failedAttempt now 5 round.entry.row := by
    rw [Table.updatedBy_of_mem hnodup hupdate]
    exact settle_of_mischarges now hpending hmischarges
  have hnew : failedAttempt now 5 round.entry.row ∈ later.database.outbox := by
    rw [Table.mem_def, hlater, ← hcharged]
    exact List.mem_map_of_mem hrow
  have hresolved : (faults.dispatch round.entry.envelopeJson).isOk = true := by
    simp only [SendFaults.Round.mischarges, Bool.and_eq_true] at hmischarges
    exact hmischarges.1.1.1
  have hdispatched : ⟨round.entry.envelopeJson, true⟩ ∈ later.dispatches := by
    rw [hdispatches]
    exact List.mem_map.mpr ⟨round, hround, by rw [hresolved]⟩
  have hcount := (hnever _ hrow _ hjson hdispatched _ hnew rfl).1
  change round.entry.row.attemptCount + 1 = round.entry.row.attemptCount at hcount
  omega

theorem neverCharged_of_not_mischarged (clock : Nat → ClockReading)
    (hcharges : ∀ round ∈ roundsOf faults database signals organisationId payload,
      round.mischarges faults = false) :
    NeverCharged database
      ((handle outboxServices organisationId payload).run (sendHandler faults)
        ⟨database, signals, clock, []⟩).2 := by
  obtain ⟨later, updates, hrun, hmarks, hnodup, hdispatches, hlater⟩ :=
    handle_rows faults database signals clock organisationId payload
  obtain ⟨hrounds, -⟩ := roundsOf_rows faults database signals organisationId payload
  rw [hrun]
  intro row hrow payloadJson hjson hdispatched new hnew hid
  rw [Table.mem_def, hlater] at hnew
  obtain ⟨old, hold, rfl⟩ := List.mem_map.mp hnew
  rcases Table.updatedBy_cases OutboxRow.envelopeId updates old with hsame | hset
  · rw [hsame] at hid ⊢
    rw [eq_of_id_eq hold hrow hid]
    exact ⟨rfl, id⟩
  · obtain ⟨set, hupdate, hset⟩ := hset
    obtain ⟨round, hround, now, hupdated⟩ := (marks_of_mem hmarks).1 _ hupdate
    obtain ⟨hentry, hpending, hentryJson⟩ := hrounds round hround
    obtain rfl : set = whilePending (round.settle faults now) := congrArg Prod.snd hupdated
    have hsame : round.entry.row = old :=
      (eq_of_envelopeId_eq hold hentry (congrArg Prod.fst hupdated)).symm
    rw [hset] at hid ⊢
    rw [(settle_keeps_keys round now old).1] at hid
    obtain rfl := eq_of_id_eq hold hrow hid
    rw [hsame] at hpending hentryJson
    have htext : round.entry.envelopeJson = payloadJson :=
      Option.some.inj (hentryJson.symm.trans hjson)
    have hresolved : (faults.dispatch round.entry.envelopeJson).isOk = true := by
      rw [hdispatches] at hdispatched
      obtain ⟨other, -, hother⟩ := List.mem_map.mp hdispatched
      rw [Dispatched.mk.injEq] at hother
      rw [htext, ← hother.1]
      exact hother.2
    obtain ⟨hcount, hstatus⟩ :=
      settle_charges now hpending hresolved (hcharges round hround)
    exact ⟨hcount, fun hfailed => absurd hfailed hstatus⟩

end Rows

/-- A run charges no row of a resolved dispatch if no round of it is mischarged, and only
then. -/
theorem handle_neverCharged_iff (faults : SendFaults) (database : OutboxDatabase)
    (signals : Nat → Bool) (clock : Nat → ClockReading) (organisationId : String)
    (payload : JsonValue) :
    NeverCharged database
        ((handle outboxServices organisationId payload).run (sendHandler faults)
          ⟨database, signals, clock, []⟩).2 ↔
      ∀ round ∈ roundsOf faults database signals organisationId payload,
        round.mischarges faults = false := by
  constructor
  · intro hnever round hround
    exact not_mischarged_of_neverCharged hnever hround
  · exact neverCharged_of_not_mischarged clock

/-- Every dispatch resolves, and no row can be set to `SENT`. -/
def lockedOnSent : SendFaults where
  dispatch _ := .ok ()
  write sql _ :=
    if sql = (sentStatement "" "").sql then some (.builtin "Error" "database is locked")
    else none
  cursor := .ok ()

theorem mem_roundsOf_note :
    ⟨SyncEndpoint.noteRecord, false⟩ ∈
      roundsOf lockedOnSent SyncEndpoint.noteOutbox (fun _ => false) "org"
        SyncEndpoint.notePayload := by
  have hloaded : loadedBatch SyncEndpoint.noteOutbox (fun _ => false) "org"
      SyncEndpoint.notePayload = [SyncEndpoint.noteRecord] := by
    rw [loadedBatch, SyncEndpoint.pendingBatch_note]
    rfl
  rw [roundsOf, hloaded]
  exact List.mem_cons_self

theorem delivered_row_charged :
    ¬ ∀ (faults : SendFaults) (database : OutboxDatabase) (signals : Nat → Bool)
      (clock : Nat → ClockReading) (organisationId : String) (payload : JsonValue),
      NeverCharged database
        ((handle outboxServices organisationId payload).run (sendHandler faults)
          ⟨database, signals, clock, []⟩).2 := by
  intro hnever
  have hfalse := not_mischarged_of_neverCharged
    (hnever lockedOnSent SyncEndpoint.noteOutbox (fun _ => false) (fun _ => ⟨0, by decide⟩)
      "org" SyncEndpoint.notePayload) mem_roundsOf_note
  have hmischarges : SendFaults.Round.mischarges lockedOnSent
      ⟨SyncEndpoint.noteRecord, false⟩ = true := by
    simp [SendFaults.Round.mischarges, SendFaults.failedError, SendFaults.sentError, lockedOnSent,
      failedStatement, sentStatement, updateStatement, Except.isOk, Except.toBool]
  rw [hmischarges] at hfalse
  cases hfalse

end TauriPlatform.OutboxSyncWorker
