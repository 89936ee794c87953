import TauriPlatform.AsyncShares
import TauriPlatform.OutboxFaults

/-!
# Accounting for the attempts of a delivery

Envelopes are enqueued and runs of the worker drain the outbox, all in flight on one database.
A run which has seen a dispatch reject holds this rejection until it charges the row with it.
Charges and held rejections of an envelope together never exceed the rejections there were.
-/

namespace TauriPlatform.OutboxSyncWorker

open Async Relational OutboxService

structure Deliveries where
  database : OutboxDatabase
  dispatches : List Dispatched

/-- The database answers as the in-memory connection does; a dispatch, the cursor, the signal
and the clock answer anything. -/
def delivering : Environment SendCall Thrown Deliveries
  | _, .database request, state, answer, later =>
      memoryConnection request state.database = (answer, later.database) ∧
        later.dispatches = state.dispatches
  | _, .dispatch _ _ payloadJson, state, answer, later =>
      later = { state with dispatches := state.dispatches ++ [⟨payloadJson, answer.isOk⟩] }
  | _, .upsertCursor _, state, _, later => later = state
  | _, .aborted, state, answer, later => (∃ aborted, answer = .ok aborted) ∧ later = state
  | _, .readClock, state, answer, later => (∃ reading, answer = .ok reading) ∧ later = state

inductive DeliveryJob where
  | enqueue (id : String) (now : ClockReading) (envelope : JsonValue)
  | handle (organisationId : String) (payload : JsonValue)

def DeliveryJob.program : DeliveryJob → Program SendCall Thrown Unit
  | .enqueue id now envelope => do
      let _record ← (OutboxService.enqueue (connectionExecutor OutboxDatabase) id now.iso
        envelope).mapCall fun _ => SendCall.database
      pure ()
  | .handle organisationId payload => OutboxSyncWorker.handle outboxServices organisationId payload

abbrev DeliverySystem := System DeliveryJob SendCall Thrown Unit Deliveries

abbrev DeliveryStep : DeliverySystem → DeliverySystem → Prop :=
  System.Step delivering DeliveryJob.program fun _ _ => True

/-- The runs over a database, with nothing in flight and nothing dispatched at first. -/
def DeliveriesReach (database : OutboxDatabase) (system : DeliverySystem) : Prop :=
  Relation.ReflTransGen DeliveryStep ⟨⟨database, []⟩, []⟩ system

/-! ## The accounts -/

def envelopeIdOf? (payloadJson : String) : Option String :=
  (parseJson? payloadJson).bind fun envelope =>
    match SyncEnvelopeBuilder.validateEnvelope envelope with
    | .ok validated => some validated.envelopeId
    | .error _ => none

def dispatchesOf (envelopeId : String) (resolved : Bool) (dispatches : List Dispatched) : Nat :=
  dispatches.countP fun dispatched =>
    decide (envelopeIdOf? dispatched.payloadJson = some envelopeId) &&
      decide (dispatched.resolved = resolved)

/-- What holds of a row, by the dispatches there were and the number of rejections which are
held and not charged yet. -/
structure RowAccounted (dispatches : List Dispatched) (held : Nat) (row : OutboxRow) : Prop where
  sent : row.status = .sent → 0 < dispatchesOf row.envelopeId true dispatches
  sentAt : row.sentAt.isSome ↔ row.status = .sent
  attempts : row.attemptCount + held ≤ dispatchesOf row.envelopeId false dispatches
  failed : row.status = .failed ↔ 5 ≤ row.attemptCount

structure Accounted (state : Deliveries) (held : Multiset String) : Prop where
  rows : ∀ row ∈ state.database.outbox,
    RowAccounted state.dispatches (held.count row.envelopeId) row
  held : ∀ envelopeId, held.count envelopeId ≤ dispatchesOf envelopeId false state.dispatches

structure RowSettles (row new : OutboxRow) : Prop where
  id : new.id = row.id
  envelopeId : new.envelopeId = row.envelopeId
  attempts : row.attemptCount ≤ new.attemptCount
  final : row.status ≠ .pending → new = row

/-- No row is lost, and nothing which has been dispatched is forgotten. -/
structure Settles (state later : Deliveries) : Prop where
  rows : ∀ row ∈ state.database.outbox, ∃ new ∈ later.database.outbox, RowSettles row new
  dispatches : state.dispatches <+: later.dispatches

theorem RowSettles.refl (row : OutboxRow) : RowSettles row row :=
  ⟨rfl, rfl, le_rfl, fun _ => rfl⟩

variable {row : OutboxRow}

theorem RowSettles.trans {new last : OutboxRow} (hfirst : RowSettles row new)
    (hsecond : RowSettles new last) : RowSettles row last where
  id := hsecond.id.trans hfirst.id
  envelopeId := hsecond.envelopeId.trans hfirst.envelopeId
  attempts := hfirst.attempts.trans hsecond.attempts
  final hstatus := by
    have hnew := hfirst.final hstatus
    rw [hnew] at hsecond
    exact hsecond.final hstatus

theorem Settles.refl (state : Deliveries) : Settles state state :=
  ⟨fun row hrow => ⟨row, hrow, .refl row⟩, List.prefix_refl _⟩

theorem Settles.trans (first second third : Deliveries) (hfirst : Settles first second)
    (hsecond : Settles second third) : Settles first third where
  rows row hrow := by
    obtain ⟨new, hnew, hsettles⟩ := hfirst.rows row hrow
    obtain ⟨last, hlast, hsettles'⟩ := hsecond.rows new hnew
    exact ⟨last, hlast, hsettles.trans hsettles'⟩
  dispatches := hfirst.dispatches.trans hsecond.dispatches

variable {envelopeId : String}

theorem envelopeIdOf?_of_carries {payloadJson : String}
    (hcarries : SyncEndpoint.Carries payloadJson envelopeId) :
    envelopeIdOf? payloadJson = some envelopeId := by
  obtain ⟨envelope, validated, hparse, hvalid, hid⟩ := hcarries
  rw [envelopeIdOf?, hparse, Option.bind_some, hvalid]
  exact congrArg some hid

theorem dispatchesOf_append (envelopeId : String) (resolved : Bool)
    (first second : List Dispatched) :
    dispatchesOf envelopeId resolved (first ++ second) =
      dispatchesOf envelopeId resolved first + dispatchesOf envelopeId resolved second :=
  List.countP_append

theorem dispatchesOf_mono {first later : List Dispatched} (hstarts : first <+: later)
    (envelopeId : String) (resolved : Bool) :
    dispatchesOf envelopeId resolved first ≤ dispatchesOf envelopeId resolved later :=
  hstarts.sublist.countP_le

variable {dispatches : List Dispatched} {held : Nat}

theorem RowAccounted.mono {later : List Dispatched} {held' : Nat}
    (haccounted : RowAccounted dispatches held row) (hstarts : dispatches <+: later)
    (hheld : held' + dispatchesOf row.envelopeId false dispatches ≤
      held + dispatchesOf row.envelopeId false later) :
    RowAccounted later held' row where
  sent hstatus := (haccounted.sent hstatus).trans_le (dispatchesOf_mono hstarts _ _)
  sentAt := haccounted.sentAt
  attempts := by
    have hattempts := haccounted.attempts
    omega
  failed := haccounted.failed

theorem Accounted.lost (state : Deliveries) (held others : Multiset String)
    (haccounted : Accounted state (held + others)) : Accounted state others where
  rows row hrow := by
    apply (haccounted.rows row hrow).mono (List.prefix_refl _)
    rw [Multiset.count_add]
    omega
  held envelopeId := by
    have hheld := haccounted.held envelopeId
    rw [Multiset.count_add] at hheld
    omega

/-! ## Writing to the outbox -/

variable {state : Deliveries}

theorem Accounted.update {later : Deliveries} {held held' : Multiset String}
    {set : OutboxRow → OutboxRow} (haccounted : Accounted state held)
    (hset : ∀ row, row.envelopeId = envelopeId → row.status = .pending →
      RowAccounted state.dispatches (held.count envelopeId) row →
        RowAccounted state.dispatches (held'.count envelopeId) (set row) ∧
          RowSettles row (set row))
    (hheld : ∀ envelopeId, held'.count envelopeId ≤ held.count envelopeId)
    (hrows : later.database.outbox.rows = state.database.outbox.rows.map
      (Table.updateRow (fun row => row.envelopeId = envelopeId) (whilePending set)))
    (hdispatches : later.dispatches = state.dispatches) :
    Accounted later held' ∧ Settles state later := by
  have hrow : ∀ row ∈ state.database.outbox,
      RowAccounted later.dispatches
        (held'.count (Table.updateRow (fun row => row.envelopeId = envelopeId)
          (whilePending set) row).envelopeId)
        (Table.updateRow (fun row => row.envelopeId = envelopeId) (whilePending set) row) ∧
      RowSettles row
        (Table.updateRow (fun row => row.envelopeId = envelopeId) (whilePending set) row) := by
    intro row hrow
    have hbefore := haccounted.rows row hrow
    have hkept : RowAccounted later.dispatches (held'.count row.envelopeId) row := by
      rw [hdispatches]
      exact hbefore.mono (List.prefix_refl _) (Nat.add_le_add_right (hheld _) _)
    by_cases hname : row.envelopeId = envelopeId
    · by_cases hpending : row.status = .pending
      · rw [hname] at hbefore
        obtain ⟨hafter, hsettles⟩ := hset row hname hpending hbefore
        have hupdated : Table.updateRow (fun row => row.envelopeId = envelopeId)
            (whilePending set) row = set row := by
          simp [Table.updateRow, whilePending, hname, hpending]
        rw [hupdated, hsettles.envelopeId, hname, hdispatches]
        exact ⟨hafter, hsettles⟩
      · have hupdated : Table.updateRow (fun row => row.envelopeId = envelopeId)
            (whilePending set) row = row := by
          simp [Table.updateRow, whilePending, hpending]
        rw [hupdated]
        exact ⟨hkept, .refl row⟩
    · have hupdated : Table.updateRow (fun row => row.envelopeId = envelopeId)
          (whilePending set) row = row := by
        simp [Table.updateRow, hname]
      rw [hupdated]
      exact ⟨hkept, .refl row⟩
  refine ⟨⟨?_, ?_⟩, ⟨?_, ?_⟩⟩
  · intro new hnew
    rw [Table.mem_def, hrows] at hnew
    obtain ⟨row, hmem, rfl⟩ := List.mem_map.mp hnew
    exact (hrow row hmem).1
  · intro other
    rw [hdispatches]
    exact (hheld other).trans (haccounted.held other)
  · intro row hmem
    refine ⟨_, ?_, (hrow row hmem).2⟩
    rw [Table.mem_def, hrows]
    exact List.mem_map_of_mem hmem
  · rw [hdispatches]

theorem rowAccounted_sent (haccounted : RowAccounted dispatches held row)
    (hpending : row.status = .pending)
    (hresolved : 0 < dispatchesOf row.envelopeId true dispatches) (now : String) :
    RowAccounted dispatches held (sent now row) ∧ RowSettles row (sent now row) := by
  refine ⟨⟨fun _ => hresolved, ⟨fun _ => rfl, fun _ => rfl⟩, haccounted.attempts, ?_⟩,
    ⟨rfl, rfl, le_rfl, fun hstatus => absurd hpending hstatus⟩⟩
  constructor
  · intro hstatus
    cases hstatus
  · intro hcount
    have hstatus := haccounted.failed.mpr hcount
    rw [hpending] at hstatus
    cases hstatus

theorem rowAccounted_failedAttempt (haccounted : RowAccounted dispatches (held + 1) row)
    (hpending : row.status = .pending) (now : String) :
    RowAccounted dispatches held (failedAttempt now 5 row) ∧
      RowSettles row (failedAttempt now 5 row) := by
  have hnotSent : (failedAttempt now 5 row).status ≠ .sent := by
    unfold failedAttempt
    simp only
    split_ifs
    · exact fun hstatus => nomatch hstatus
    · rw [hpending]
      exact fun hstatus => nomatch hstatus
  have hnotFailed : row.status ≠ .failed := by
    rw [hpending]
    exact fun hstatus => nomatch hstatus
  refine ⟨⟨fun hstatus => absurd hstatus hnotSent, ?_, ?_, ?_⟩,
    ⟨rfl, rfl, ?_, fun hstatus => absurd hpending hstatus⟩⟩
  · constructor
    · intro hsome
      have hstatus := haccounted.sentAt.mp hsome
      rw [hpending] at hstatus
      cases hstatus
    · exact fun hstatus => absurd hstatus hnotSent
  · have hattempts := haccounted.attempts
    change row.attemptCount + 1 + held ≤ dispatchesOf row.envelopeId false dispatches
    push_cast at hattempts
    omega
  · change (if 5 ≤ row.attemptCount + 1 then OutboxStatus.failed else row.status) = .failed ↔
      5 ≤ row.attemptCount + 1
    split_ifs with hlimit
    · exact ⟨fun _ => hlimit, fun _ => rfl⟩
    · exact ⟨fun hstatus => absurd hstatus hnotFailed, fun hcount => absurd hcount hlimit⟩
  · change row.attemptCount ≤ row.attemptCount + 1
    omega

structure Untried (row : OutboxRow) : Prop where
  status : row.status = .pending
  attempts : row.attemptCount = 0
  sentAt : row.sentAt = none

theorem Untried.accounted (huntried : Untried row)
    (hheld : held ≤ dispatchesOf row.envelopeId false dispatches) :
    RowAccounted dispatches held row where
  sent hstatus := by
    rw [huntried.status] at hstatus
    cases hstatus
  sentAt := by
    rw [huntried.sentAt, huntried.status]
    exact ⟨fun hsome => (nomatch hsome), fun hstatus => nomatch hstatus⟩
  attempts := by
    rw [huntried.attempts]
    omega
  failed := by
    rw [huntried.attempts, huntried.status]
    exact ⟨fun hstatus => (nomatch hstatus), fun hcount => absurd hcount (by decide)⟩

theorem Accounted.insert {later : Deliveries} {held : Multiset String}
    (haccounted : Accounted state held) (huntried : Untried row)
    (hrows : later.database.outbox.rows = state.database.outbox.rows ++ [row])
    (hdispatches : later.dispatches = state.dispatches) :
    Accounted later held ∧ Settles state later := by
  refine ⟨⟨?_, ?_⟩, ⟨?_, ?_⟩⟩
  · intro new hnew
    rw [Table.mem_def, hrows] at hnew
    rw [hdispatches]
    cases List.mem_append.mp hnew with
    | inl hold => exact haccounted.rows new hold
    | inr hlast =>
        rw [List.mem_singleton.mp hlast]
        exact huntried.accounted (haccounted.held _)
  · rw [hdispatches]
    exact haccounted.held
  · intro old hold
    refine ⟨old, ?_, .refl old⟩
    rw [Table.mem_def, hrows]
    exact List.mem_append_left _ hold
  · rw [hdispatches]

/-! ## Dispatching -/

theorem Accounted.dispatch {held : Multiset String} (haccounted : Accounted state held)
    (dispatched : Dispatched) :
    Accounted { state with dispatches := state.dispatches ++ [dispatched] } held ∧
      Settles state { state with dispatches := state.dispatches ++ [dispatched] } := by
  have hstarts : state.dispatches <+: state.dispatches ++ [dispatched] := List.prefix_append _ _
  refine ⟨⟨fun row hrow => ?_, fun envelopeId => ?_⟩,
    ⟨fun row hrow => ⟨row, hrow, .refl row⟩, hstarts⟩⟩
  · apply (haccounted.rows row hrow).mono hstarts
    have hmore := dispatchesOf_mono hstarts row.envelopeId false
    omega
  · exact (haccounted.held envelopeId).trans (dispatchesOf_mono hstarts envelopeId false)

theorem Accounted.reject {held : Multiset String} (haccounted : Accounted state held)
    {payloadJson : String} (hid : envelopeIdOf? payloadJson = some envelopeId) :
    Accounted { state with dispatches := state.dispatches ++ [⟨payloadJson, false⟩] }
      ({envelopeId} + held) := by
  have hstarts : state.dispatches <+: state.dispatches ++ [⟨payloadJson, false⟩] :=
    List.prefix_append _ _
  have hcount : ∀ other, ({envelopeId} + held).count other +
      dispatchesOf other false state.dispatches =
      held.count other + dispatchesOf other false (state.dispatches ++ [⟨payloadJson, false⟩]) := by
    intro other
    rw [dispatchesOf_append, Multiset.count_add]
    by_cases hother : other = envelopeId
    · have hone : dispatchesOf other false [⟨payloadJson, false⟩] = 1 := by
        simp [dispatchesOf, hid, hother]
      rw [hone, hother, Multiset.count_singleton_self]
      omega
    · have hnone : dispatchesOf other false [⟨payloadJson, false⟩] = 0 := by
        simp [dispatchesOf, hid, Ne.symm hother]
      rw [hnone, Multiset.count_singleton, if_neg hother]
      omega
  refine ⟨fun row hrow => ?_, fun other => ?_⟩
  · exact (haccounted.rows row hrow).mono hstarts (hcount row.envelopeId).le
  · have hheld := haccounted.held other
    have hsum := hcount other
    change ({envelopeId} + held).count other ≤
      dispatchesOf other false (state.dispatches ++ [⟨payloadJson, false⟩])
    omega

/-! ## Programs in flight -/

section Programs

variable {α β : Type} {held : Multiset String} {state : Deliveries}

abbrev Accounts (post : Except Thrown α → Multiset String → Deliveries → Prop)
    (program : Program SendCall Thrown α) (held : Multiset String) (state : Deliveries) : Prop :=
  program.SafeHolding delivering Accounted Settles post held state

def Quiet ⦃β : Type⦄ (request : SendCall β) : Prop :=
  ∀ state answer later, delivering request state answer later → later = state

theorem accounts_quiet {post : Except Thrown α → Prop} {program : Program SendCall Thrown α}
    (hevery : program.Every Quiet post) (held : Multiset String) (state : Deliveries) :
    Accounts (fun outcome held' _ => post outcome ∧ held' = held) program held state := by
  induction program generalizing state with
  | done outcome => exact ⟨hevery, rfl⟩
  | call request rest ih =>
      intro now others _ hinv answer later hanswer
      obtain rfl := hevery.1 now answer later hanswer
      exact ⟨held, hinv, .refl _, ih answer (hevery.2 answer) _⟩

theorem quiet_of_reads {request : DbCall OutboxDatabase β} (hreads : Reads request) :
    Quiet (.database request) := by
  intro state answer later hanswer
  obtain ⟨hcall, hdispatches⟩ := hanswer
  match request, hreads with
  | .query statement, hreads =>
      have hsame : (memoryConnection (.query statement) state.database).2 = state.database := by
        apply memory_query_relates (R := fun old new => new = old) rfl
        intro result hrun
        exact Statement.run_database_of_readonly hreads hrun
      rw [hcall] at hsame
      cases state
      cases later
      cases hsame
      cases hdispatches
      rfl

theorem quiet_aborted : Quiet SendCall.aborted :=
  fun _ _ _ hanswer => hanswer.2

theorem quiet_upsertCursor (organisationId : String) :
    Quiet (SendCall.upsertCursor organisationId) :=
  fun _ _ _ hanswer => hanswer

theorem accounts_execute {statement : Statement OutboxDatabase Unit} (held' : Multiset String)
    {post : Except Thrown Unit → Multiset String → Deliveries → Prop}
    (hstatement : ∀ now others, Settles state now → Accounted now (held + others) →
      ∀ answer later, memoryConnection (.execute statement) now.database =
        (answer, later.database) → later.dispatches = now.dispatches →
        Accounted later (held' + others) ∧ Settles now later ∧
          post (answer.map fun _ => ()) held' later) :
    Accounts post (((connectionExecutor OutboxDatabase).execute statement).mapCall fun _ =>
      SendCall.database) held state := by
  intro now others hnow hinv answer later hanswer
  obtain ⟨hinv', hsettles, hpost⟩ :=
    hstatement now others hnow hinv answer later hanswer.1 hanswer.2
  refine ⟨held', hinv', hsettles, ?_⟩
  cases answer with
  | ok _ => exact hpost
  | error _ => exact hpost

theorem accounts_update {sql : String} {params : List JsonValue} {envelopeId : String}
    {set : OutboxRow → OutboxRow} {held' : Multiset String}
    (hid : ∀ row, (set row).id = row.id)
    (henvelope : ∀ row, (set row).envelopeId = row.envelopeId)
    (hset : ∀ now others row, Settles state now → row.envelopeId = envelopeId →
      row.status = .pending →
      RowAccounted now.dispatches ((held + others).count envelopeId) row →
        RowAccounted now.dispatches ((held' + others).count envelopeId) (set row) ∧
          RowSettles row (set row))
    (hheld : ∀ envelopeId, held'.count envelopeId ≤ held.count envelopeId) :
    Accounts (fun outcome after _ => outcome = .ok () ∧ after = held')
      (((connectionExecutor OutboxDatabase).execute
        (updateStatement sql params envelopeId set)).mapCall fun _ => SendCall.database)
      held state := by
  apply accounts_execute held'
  intro now others hnow hinv answer later hcall hdispatches
  obtain ⟨result, hrun, -, hrows⟩ :=
    updateStatement_run_ok sql params envelopeId hid henvelope now.database
  simp only [memoryConnection, hrun, Prod.mk.injEq] at hcall
  obtain ⟨rfl, hdatabase⟩ := hcall
  rw [hdatabase] at hrows
  have hcount : ∀ envelopeId,
      (held' + others).count envelopeId ≤ (held + others).count envelopeId := by
    intro envelopeId
    rw [Multiset.count_add, Multiset.count_add]
    exact Nat.add_le_add_right (hheld envelopeId) _
  obtain ⟨hafter, hsettles⟩ := hinv.update (fun row => hset now others row hnow) hcount hrows
    hdispatches
  exact ⟨hafter, hsettles, rfl, rfl⟩

theorem accounts_markSent {envelopeId : String}
    (hresolved : 0 < dispatchesOf envelopeId true state.dispatches) :
    Accounts (fun outcome after _ => outcome = .ok () ∧ after = held)
      (outboxServices.markSent envelopeId) held state := by
  apply Program.SafeHolding.bind
  intro now others hnow hinv answer later hanswer
  obtain ⟨⟨reading, rfl⟩, rfl⟩ := hanswer
  refine ⟨held, hinv, .refl _, ?_⟩
  refine accounts_update (fun _ => rfl) (fun _ => rfl) ?_ fun _ => le_rfl
  intro now others row hlater hname hpending haccounted
  apply rowAccounted_sent haccounted hpending
  rw [hname]
  have hgrows := (hnow.trans _ _ _ hlater).dispatches
  exact hresolved.trans_le (dispatchesOf_mono hgrows envelopeId true)

theorem accounts_markFailed (envelopeId : String) :
    Accounts (fun outcome after _ => outcome = .ok () ∧ after = 0)
      (outboxServices.markFailed envelopeId) {envelopeId} state := by
  apply Program.SafeHolding.bind
  intro now others _ hinv answer later hanswer
  obtain ⟨⟨reading, rfl⟩, rfl⟩ := hanswer
  refine ⟨{envelopeId}, hinv, .refl _, ?_⟩
  refine accounts_update (fun _ => rfl) (fun _ => rfl) ?_ ?_
  · intro now others row _ hname hpending haccounted
    rw [Multiset.count_add, Multiset.count_singleton_self, add_comm] at haccounted
    rw [zero_add]
    exact rowAccounted_failedAttempt haccounted hpending reading.iso
  · intro other
    rw [Multiset.count_zero]
    exact Nat.zero_le _

/-- The `catch` of a round charges the row, or ends the run. -/
theorem accounts_recover (thrown : Thrown) (envelopeId : String) :
    Accounts (fun outcome after _ => ∀ sent, outcome = .ok sent → after = 0)
      (do
        if ← outboxServices.aborted then throw thrown
        else
          outboxServices.markFailed envelopeId
          pure false : Program SendCall Thrown Bool) {envelopeId} state := by
  apply Program.SafeHolding.bind
  intro now others _ hinv answer later hanswer
  obtain ⟨⟨aborted, rfl⟩, rfl⟩ := hanswer
  refine ⟨{envelopeId}, hinv, .refl _, ?_⟩
  cases aborted with
  | true => exact fun sent hsent => nomatch hsent
  | false =>
      apply Program.SafeHolding.bind
      apply Program.SafeHolding.mono _ (accounts_markFailed envelopeId)
      intro outcome after state hmarked
      obtain ⟨rfl, rfl⟩ := hmarked
      exact fun _ _ => rfl

theorem accounts_dispatchEntry {entry : OutboxRecord}
    (hcarries : SyncEndpoint.Carries entry.envelopeJson entry.row.envelopeId) :
    Accounts (fun outcome after _ => ∀ sent, outcome = .ok sent → after = 0)
      (dispatchEntry outboxServices entry) 0 state := by
  have hid := envelopeIdOf?_of_carries hcarries
  apply Program.SafeHolding.tryCatch
  apply Program.SafeHolding.bind
  intro now others hnow hinv answer later hanswer
  obtain rfl := hanswer
  obtain ⟨hinv', hsettles⟩ := hinv.dispatch ⟨entry.envelopeJson, answer.isOk⟩
  cases answer with
  | error thrown =>
      rw [zero_add] at hinv
      exact ⟨{entry.row.envelopeId}, hinv.reject hid, hsettles,
        accounts_recover thrown entry.row.envelopeId⟩
  | ok _ =>
      refine ⟨0, hinv', hsettles, ?_⟩
      have hresolved : 0 < dispatchesOf entry.row.envelopeId true
          (now.dispatches ++ [⟨entry.envelopeJson, true⟩]) := by
        rw [dispatchesOf_append]
        apply Nat.lt_add_left
        simp [dispatchesOf, hid]
      apply Program.SafeHolding.bind
      apply Program.SafeHolding.mono _ (accounts_markSent hresolved)
      intro outcome after state hmarked
      obtain ⟨rfl, rfl⟩ := hmarked
      exact fun _ _ => rfl

theorem accounts_dispatchAll {entries : List OutboxRecord}
    (hentries : ∀ entry ∈ entries, SyncEndpoint.Carries entry.envelopeJson entry.row.envelopeId)
    (dispatched failed : Nat) :
    Accounts (fun outcome after _ => ∀ counts, outcome = .ok counts → after = 0)
      (dispatchAll outboxServices entries dispatched failed) 0 state := by
  induction entries generalizing dispatched failed state with
  | nil => exact fun _ _ => rfl
  | cons entry entries ih =>
      have hrest : ∀ entry ∈ entries, SyncEndpoint.Carries entry.envelopeJson
          entry.row.envelopeId := fun other hother =>
        hentries other (List.mem_cons_of_mem _ hother)
      apply Program.SafeHolding.bind
      intro now others _ hinv answer later hanswer
      obtain ⟨⟨aborted, rfl⟩, rfl⟩ := hanswer
      refine ⟨0, hinv, .refl _, ?_⟩
      cases aborted with
      | true => exact fun counts hcounts => nomatch hcounts
      | false =>
          apply Program.SafeHolding.bind
          apply Program.SafeHolding.mono _
            (accounts_dispatchEntry (hentries entry List.mem_cons_self))
          intro outcome after state hround
          cases outcome with
          | error thrown => exact fun counts hcounts => nomatch hcounts
          | ok sent =>
              obtain rfl := hround sent rfl
              cases sent with
              | true => exact ih hrest (dispatched + 1) failed
              | false => exact ih hrest dispatched (failed + 1)

theorem accounts_makes {program : Program SendCall Thrown Unit} (hmakes : program.Makes Quiet)
    (held : Multiset String) (state : Deliveries) :
    Accounts (fun _ _ _ => True) program held state :=
  (accounts_quiet hmakes held state).mono fun _ _ _ _ => trivial

theorem accounts_handleBatch (organisationId : String) {batch : List OutboxRecord}
    (hbatch : ∀ entry ∈ batch, SyncEndpoint.Carries entry.envelopeJson entry.row.envelopeId) :
    Accounts (fun _ _ _ => True) (handleBatch outboxServices organisationId batch) 0 state := by
  cases batch with
  | nil =>
      exact accounts_makes
        (emptyBatch_makes Quiet organisationId (quiet_upsertCursor organisationId) quiet_aborted) 0
        state
  | cons entry entries =>
      apply Program.SafeHolding.bind
      apply Program.SafeHolding.mono _ (accounts_dispatchAll hbatch 0 0)
      intro outcome after state _
      cases outcome with
      | error thrown => trivial
      | ok counts =>
          obtain ⟨dispatched, failed⟩ := counts
          exact accounts_makes (afterLoop_makes Quiet organisationId
            (quiet_upsertCursor organisationId) quiet_aborted dispatched failed) after state

theorem accounts_handle (organisationId : String) (payload : JsonValue) :
    Accounts (fun _ _ _ => True) (handle outboxServices organisationId payload) 0 state := by
  unfold handle
  split
  · trivial
  · apply Program.SafeHolding.bind
    intro now others _ hinv answer later hanswer
    obtain ⟨⟨aborted, rfl⟩, rfl⟩ := hanswer
    refine ⟨0, hinv, .refl _, ?_⟩
    cases aborted with
    | true => trivial
    | false =>
        have hload : ((OutboxService.pendingBatch organisationId (batchLimitOf payload)).mapCall
            fun _ => SendCall.database).Every Quiet SyncEndpoint.CarryAll := by
          apply Program.Every.mapCall _
            (every_pendingBatch_reads organisationId (batchLimitOf payload))
          intro β request hreads
          exact quiet_of_reads hreads
        apply Program.SafeHolding.bind
        apply Program.SafeHolding.mono _ (accounts_quiet hload 0 _)
        intro outcome after state hbatch
        obtain ⟨hcarry, rfl⟩ := hbatch
        cases outcome with
        | error thrown => trivial
        | ok batch => exact accounts_handleBatch organisationId (hcarry batch rfl)

theorem accounts_enqueue (id now : String) (envelope : JsonValue) :
    Accounts (fun _ _ _ => True)
      ((OutboxService.enqueue (connectionExecutor OutboxDatabase) id now envelope).mapCall
        fun _ => SendCall.database) 0 state := by
  unfold OutboxService.enqueue
  split
  · trivial
  · rename_i validated _
    rw [Program.mapCall_bind]
    apply Program.SafeHolding.bind
    have hinsert : Accounts (fun _ _ _ => True)
        (((connectionExecutor OutboxDatabase).execute
          (insertStatement (newRow id now envelope validated))).mapCall fun _ =>
            SendCall.database) 0 state := by
      apply accounts_execute 0
      intro now' others _ hinv answer later hcall hdispatches
      cases hrun : (insertStatement (newRow id now envelope validated)).run now'.database with
      | ok result =>
          simp only [memoryConnection, hrun, Prod.mk.injEq] at hcall
          obtain ⟨-, hdatabase⟩ := hcall
          have hrows := insertStatement_run_ok hrun
          rw [hdatabase] at hrows
          obtain ⟨hafter, hsettles⟩ := hinv.insert ⟨rfl, rfl, rfl⟩ hrows hdispatches
          exact ⟨hafter, hsettles, trivial⟩
      | error message =>
          simp only [memoryConnection, hrun, Prod.mk.injEq] at hcall
          obtain ⟨-, hdatabase⟩ := hcall
          obtain rfl : now' = later := by
            cases now'
            cases later
            cases hdatabase
            cases hdispatches
            rfl
          exact ⟨hinv, .refl _, trivial⟩
    apply Program.SafeHolding.mono _ hinsert
    intro outcome after state _
    cases outcome with
    | error thrown => trivial
    | ok _ => trivial

theorem accounts_job (job : DeliveryJob) : Accounts (fun _ _ _ => True) job.program 0 state := by
  cases job with
  | enqueue id now envelope =>
      apply Program.SafeHolding.bind
      apply Program.SafeHolding.mono _ (accounts_enqueue id now.iso envelope)
      intro outcome after state _
      cases outcome with
      | error thrown => trivial
      | ok record => trivial
  | handle organisationId payload => exact accounts_handle organisationId payload

end Programs

/-! ## Runs -/

/-- Whatever is in flight, the rows are accounted for from one state of a run to every later
one. -/
theorem accounted_run {database : OutboxDatabase}
    (huntried : ∀ row ∈ database.outbox, Untried row) {earlier later : DeliverySystem}
    (hearlier : DeliveriesReach database earlier)
    (hlater : Relation.ReflTransGen DeliveryStep earlier later) :
    Accounted later.state 0 ∧ Settles earlier.state later.state := by
  have hinitial : Accounted ⟨database, []⟩ 0 := by
    constructor
    · intro row hrow
      exact (huntried row hrow).accounted (Nat.le_of_eq (Multiset.count_zero _))
    · intro envelopeId
      exact Nat.le_of_eq (Multiset.count_zero _)
  have hstart : ∀ job state, Accounts (fun _ _ _ => True) (DeliveryJob.program job) 0 state :=
    fun job _ => accounts_job job
  obtain ⟨hholding, -⟩ := (System.Holding.initial hinitial).run Settles.refl Settles.trans
    Accounted.lost hstart hearlier
  obtain ⟨hlast, hsettles⟩ := hholding.run Settles.refl Settles.trans Accounted.lost hstart hlater
  obtain ⟨shares, hinv, -⟩ := hlast
  rw [← add_zero shares.sum] at hinv
  exact ⟨hinv.lost _ _ _, hsettles⟩

end TauriPlatform.OutboxSyncWorker
