import TauriPlatform.OutboxScheduler
import TauriPlatform.SyncDelivery

/-!
# The calls of a worker of the outbox

`handle` over its services: the outbox service on the database, the dispatcher, the cursor,
the signal of its task and the clock.
-/

namespace TauriPlatform.OutboxSyncWorker

open Async Relational

inductive SendCall : Type → Type 1
  | database {β : Type} (request : DbCall OutboxDatabase β) : SendCall β
  | dispatch (organisationId syncGroupId payloadJson : String) : SendCall Unit
  | upsertCursor (organisationId : String) : SendCall Unit
  | aborted : SendCall Bool
  | readClock : SendCall ClockReading

def outboxServices : Services SendCall where
  pendingBatch organisationId limit :=
    (OutboxService.pendingBatch organisationId limit).mapCall fun _ => .database
  dispatch organisationId syncGroupId payloadJson :=
    Program.await (.dispatch organisationId syncGroupId payloadJson)
  markSent envelopeId := do
    let now ← Program.await .readClock
    (OutboxService.markSent now envelopeId).mapCall fun _ => .database
  markFailed envelopeId := do
    let now ← Program.await .readClock
    (OutboxService.markFailed now envelopeId OutboxService.defaultMaxAttempts).mapCall
      fun _ => .database
  upsertCursor organisationId := Program.await (.upsertCursor organisationId)
  aborted := Program.await .aborted

structure Dispatched where
  payloadJson : String
  resolved : Bool
  deriving DecidableEq

/-! ## What a run calls beside the batch -/

section Around

variable (Good : ∀ ⦃β : Type⦄, SendCall β → Prop) (organisationId : String)

theorem persistCursor_makes (hcursor : Good (.upsertCursor organisationId)) :
    (persistCursor outboxServices organisationId).Makes Good :=
  Program.Makes.tryCatch (Program.makes_await hcursor) fun _ => Program.makes_done _

theorem emptyBatch_makes (hcursor : Good (.upsertCursor organisationId))
    (haborted : Good .aborted) :
    (handleBatch outboxServices organisationId []).Makes Good := by
  apply Program.Makes.bind (Program.makes_await haborted)
  intro aborted
  cases aborted with
  | true => exact Program.makes_done _
  | false => exact persistCursor_makes Good organisationId hcursor

theorem afterLoop_makes (hcursor : Good (.upsertCursor organisationId))
    (haborted : Good .aborted) (dispatched failed : Nat) :
    (do
      if ← outboxServices.aborted then
        throw (.builtin "Error" "Outbox sync was aborted before the batch completed")
      else
        persistCursor outboxServices organisationId
        if 0 < failed ∧ dispatched = 0 then
          throw (.builtin "Error"
            s!"[OutboxSyncWorker] All {failed} envelopes failed to dispatch.")
        else pure () : Program SendCall Thrown Unit).Makes Good := by
  apply Program.Makes.bind (Program.makes_await haborted)
  intro aborted
  cases aborted with
  | true => exact Program.makes_done _
  | false =>
      apply Program.Makes.bind (persistCursor_makes Good organisationId hcursor)
      intro _
      split
      · exact Program.makes_done _
      · exact Program.makes_done _

end Around

/-! ## The calls of a run -/

/-- `Good` holds of each call which a run makes once it has its batch. -/
structure OfSendCalls (Good : ∀ ⦃β : Type⦄, SendCall β → Prop) : Prop where
  dispatch : ∀ organisationId syncGroupId payloadJson : String,
    Good (.dispatch organisationId syncGroupId payloadJson)
  sent : ∀ now envelopeId : String,
    Good (.database (.execute (OutboxService.sentStatement now envelopeId)))
  failed : ∀ now envelopeId : String,
    Good (.database (.execute (OutboxService.failedStatement now envelopeId 5)))
  upsertCursor : ∀ organisationId : String, Good (.upsertCursor organisationId)
  aborted : Good .aborted
  readClock : Good .readClock

namespace OfSendCalls

variable {Good : ∀ ⦃β : Type⦄, SendCall β → Prop}

theorem execute {statement : Statement OutboxDatabase Unit}
    (hstatement : Good (.database (.execute statement))) :
    (((connectionExecutor OutboxDatabase).execute statement).mapCall fun _ =>
      SendCall.database).Makes Good := by
  refine ⟨hstatement, fun answer => ?_⟩
  cases answer with
  | ok _ => trivial
  | error _ => trivial

theorem markSent (hgood : OfSendCalls Good) (envelopeId : String) :
    (outboxServices.markSent envelopeId).Makes Good :=
  (Program.makes_await hgood.readClock).bind fun now => execute (hgood.sent now.iso envelopeId)

theorem markFailed (hgood : OfSendCalls Good) (envelopeId : String) :
    (outboxServices.markFailed envelopeId).Makes Good :=
  (Program.makes_await hgood.readClock).bind fun now => execute (hgood.failed now.iso envelopeId)

theorem dispatchEntry (hgood : OfSendCalls Good) (entry : OutboxService.OutboxRecord) :
    (OutboxSyncWorker.dispatchEntry outboxServices entry).Makes Good := by
  apply Program.Makes.tryCatch
  · apply Program.Makes.bind (Program.makes_await (hgood.dispatch _ _ _))
    intro _
    exact (hgood.markSent _).bind fun _ => Program.makes_done _
  · intro error
    apply Program.Makes.bind (Program.makes_await hgood.aborted)
    intro aborted
    cases aborted with
    | true => exact Program.makes_done _
    | false => exact (hgood.markFailed _).bind fun _ => Program.makes_done _

theorem dispatchAll (hgood : OfSendCalls Good) (entries : List OutboxService.OutboxRecord)
    (dispatched failed : Nat) :
    (OutboxSyncWorker.dispatchAll outboxServices entries dispatched failed).Makes Good := by
  induction entries generalizing dispatched failed with
  | nil => exact Program.makes_done _
  | cons entry entries ih =>
      apply Program.Makes.bind (Program.makes_await hgood.aborted)
      intro aborted
      cases aborted with
      | true => exact Program.makes_done _
      | false =>
          apply (hgood.dispatchEntry entry).bind
          intro sent
          cases sent with
          | true => exact ih _ _
          | false => exact ih _ _

theorem handleBatch (hgood : OfSendCalls Good) (organisationId : String)
    (batch : List OutboxService.OutboxRecord) :
    (OutboxSyncWorker.handleBatch outboxServices organisationId batch).Makes Good := by
  cases batch with
  | nil => exact emptyBatch_makes Good organisationId (hgood.upsertCursor _) hgood.aborted
  | cons entry entries =>
      apply (hgood.dispatchAll (entry :: entries) 0 0).bind
      intro counts
      exact afterLoop_makes Good organisationId (hgood.upsertCursor _) hgood.aborted _ _

end OfSendCalls

/-! ## The batch of a run -/

def Reads : ∀ ⦃β : Type⦄, DbCall OutboxDatabase β → Prop
  | _, .query statement => statement.readonly
  | _, _ => False

theorem every_pendingBatch_reads (organisationId : String) (limit : NumberValue) :
    (OutboxService.pendingBatch organisationId limit).Every Reads SyncEndpoint.CarryAll := by
  have hthrow : ∀ error, SyncEndpoint.CarryAll (.error error) :=
    fun _ _ hrecords => nomatch hrecords
  unfold OutboxService.pendingBatch
  split
  · exact hthrow _
  · split
    · exact hthrow _
    · refine ⟨rfl, fun answer => ?_⟩
      cases answer with
      | error error => exact hthrow error
      | ok rows => exact SyncEndpoint.carryAll_mapM rows

theorem pendingBatch_reads (organisationId : String) (limit : NumberValue) :
    (OutboxService.pendingBatch organisationId limit).Makes Reads :=
  (every_pendingBatch_reads organisationId limit).mono fun _ _ => trivial

variable {batch : List OutboxService.OutboxRecord}

theorem pendingBatch_run_eq_ok {organisationId : String} {limit : NumberValue}
    {database : OutboxDatabase}
    (hok : ((OutboxService.pendingBatch organisationId limit).run memoryConnection
      database).1 = .ok batch) :
    ∃ size, OutboxService.admittedLimit? limit = some size ∧
      List.Forall₂ (fun row record => OutboxService.readRecord row = .ok record)
        ((OutboxService.pendingRows organisationId database.outbox).take size.toNat) batch := by
  unfold OutboxService.pendingBatch at hok
  split at hok
  · cases hok
  · split at hok
    · cases hok
    · rename_i size hsize
      exact ⟨size, hsize, forall₂_of_mapM_eq_ok hok⟩

variable {rows : List OutboxRow}

theorem map_row_of_read
    (hread : List.Forall₂ (fun row record => OutboxService.readRecord row = .ok record) rows
      batch) :
    batch.map OutboxService.OutboxRecord.row = rows := by
  induction hread with
  | nil => rfl
  | cons hrecord _ ih =>
      rw [List.map_cons, ih, (SyncEndpoint.readRecord_eq_ok hrecord).1]

theorem exists_row_of_read
    (hread : List.Forall₂ (fun row record => OutboxService.readRecord row = .ok record) rows
      batch) {record : OutboxService.OutboxRecord} (hrecord : record ∈ batch) :
    record.row ∈ rows ∧ record.row.envelopeJson = some record.envelopeJson ∧
      SyncEndpoint.Carries record.envelopeJson record.row.envelopeId := by
  induction hread with
  | nil => cases hrecord
  | cons hfirst _ ih =>
      cases List.mem_cons.mp hrecord with
      | inl hsame =>
          obtain ⟨hrow, hjson, hcarries⟩ := SyncEndpoint.readRecord_eq_ok hfirst
          rw [hsame, hrow]
          exact ⟨List.mem_cons_self, hjson, hcarries⟩
      | inr hlater =>
          obtain ⟨hrow, hrest⟩ := ih hlater
          exact ⟨List.mem_cons_of_mem _ hrow, hrest⟩

theorem exists_record_of_read
    (hread : List.Forall₂ (fun row record => OutboxService.readRecord row = .ok record) rows
      batch) {row : OutboxRow} (hrow : row ∈ rows) :
    ∃ record ∈ batch, OutboxService.readRecord row = .ok record := by
  induction hread with
  | nil => cases hrow
  | cons hfirst _ ih =>
      cases List.mem_cons.mp hrow with
      | inl hsame => exact ⟨_, List.mem_cons_self, hsame ▸ hfirst⟩
      | inr hlater =>
          obtain ⟨record, hrecord, hread⟩ := ih hlater
          exact ⟨record, List.mem_cons_of_mem _ hrecord, hread⟩

/-! ## Rows under the updates of a worker -/

theorem nodup_envelopeIds (table : OutboxTable) :
    (table.rows.map OutboxRow.envelopeId).Nodup := by
  have hunique := table.unique (fun row => some row.envelopeId) (by simp [outboxIndexes])
  rwa [List.filterMap_eq_map'] at hunique

theorem eq_of_envelopeId_eq {table : OutboxTable} {left right : OutboxRow} (hleft : left ∈ table)
    (hright : right ∈ table) (henvelope : left.envelopeId = right.envelopeId) : left = right :=
  Table.eq_of_key_eq (fun row : OutboxRow => some row.envelopeId) (by simp [outboxIndexes])
    hleft hright (congrArg some henvelope) rfl

theorem eq_of_id_eq {table : OutboxTable} {left right : OutboxRow} (hleft : left ∈ table)
    (hright : right ∈ table) (hid : left.id = right.id) : left = right :=
  Table.eq_of_key_eq (fun row : OutboxRow => some row.id) (by simp [outboxIndexes]) hleft hright
    (congrArg some hid) rfl

def whilePending (set : OutboxRow → OutboxRow) (row : OutboxRow) : OutboxRow :=
  if row.status = .pending then set row else row

theorem updateStatement_run_ok (sql : String) (params : List JsonValue) (envelopeId : String)
    {set : OutboxRow → OutboxRow} (hid : ∀ row, (set row).id = row.id)
    (henvelope : ∀ row, (set row).envelopeId = row.envelopeId) (database : OutboxDatabase) :
    ∃ result, (OutboxService.updateStatement sql params envelopeId set).run database =
        .ok result ∧
      result.database.syncGroupIds = database.syncGroupIds ∧
      result.database.outbox.rows = database.outbox.rows.map
        (Table.updateRow (fun row => row.envelopeId = envelopeId) (whilePending set)) := by
  let condition := fun row : OutboxRow =>
    decide (row.envelopeId = envelopeId) && decide (row.status = .pending)
  have hupdate : (database.outbox.update? condition set).isSome := by
    apply Table.update?_isSome
    intro index hindex row _ _
    simp only [outboxIndexes, List.mem_cons, List.not_mem_nil, or_false] at hindex
    cases hindex with
    | inl hfirst => simp [hfirst, hid]
    | inr hsecond => simp [hsecond, henvelope]
  obtain ⟨later, hlater⟩ := Option.isSome_iff_exists.mp hupdate
  refine ⟨{ database := { database with outbox := later }, rows := [], rowsAffected :=
    (database.outbox.select condition).length }, ?_, rfl, ?_⟩
  · simp only [OutboxService.updateStatement, Statement.run, condition] at hlater ⊢
    rw [hlater]
  · rw [Table.update?_eq_some_iff.mp hlater]
    apply List.map_congr_left
    intro row _
    by_cases hname : row.envelopeId = envelopeId
    · by_cases hpending : row.status = .pending
      · simp [Table.updateRow, whilePending, condition, hname, hpending]
      · simp [Table.updateRow, whilePending, condition, hname, hpending]
    · simp [Table.updateRow, condition, hname]

end TauriPlatform.OutboxSyncWorker
