import TauriPlatform.SyncPool

/-!
# What a run of the worker has served

A run which succeeds has dispatched its whole batch.  A row of its organisation which waited
before the run began and waits when it has succeeded was dispatched by it, unless the batch was
full of rows which are no newer.
-/

namespace TauriPlatform.OutboxSyncWorker

open Async Relational OutboxService

/-! ## From a moment to a later one -/

/-- A row under the statements of the outbox: it keeps its identity, and once it has settled it
never waits again. -/
structure OutboxKept (row new : OutboxRow) : Prop where
  id : new.id = row.id
  envelopeId : new.envelopeId = row.envelopeId
  organisationId : new.organisationId = row.organisationId
  createdAt : new.createdAt = row.createdAt
  settled : row.status ≠ .pending → new.status ≠ .pending

def RowsKept (before after : OutboxDatabase) : Prop :=
  ∀ row ∈ before.outbox, ∃ new ∈ after.outbox, OutboxKept row new

structure Follows (start later : Deliveries) : Prop where
  rows : RowsKept start.database later.database
  dispatches : start.dispatches <+: later.dispatches

def AttemptedSince (start later : Deliveries) (envelopeId : String) : Prop :=
  ∃ dispatched ∈ later.dispatches.drop start.dispatches.length,
    envelopeIdOf? dispatched.payloadJson = some envelopeId

def FullBatchSince (organisationId : String) (size : Int) (start later : Deliveries)
    (row : OutboxRow) : Prop :=
  ∃ envelopeIds : List String, envelopeIds.Nodup ∧ (envelopeIds.length : Int) = size ∧
    ∀ envelopeId ∈ envelopeIds, AttemptedSince start later envelopeId ∧
      ∃ older ∈ later.database.outbox, older.envelopeId = envelopeId ∧
        older.organisationId = organisationId ∧ older.createdAt ≤ row.createdAt

def ServedSince (organisationId : String) (size : Int) (start later : Deliveries)
    (row : OutboxRow) : Prop :=
  AttemptedSince start later row.envelopeId ∨ FullBatchSince organisationId size start later row

def ServesSince (organisationId : String) (payload : JsonValue) (start later : Deliveries) :
    Prop :=
  ∃ size, admittedLimit? (batchLimitOf payload) = some size ∧
    ∀ row ∈ start.database.outbox, row.organisationId = organisationId →
      ∃ new ∈ later.database.outbox, OutboxKept row new ∧
        (new.status = .pending → ServedSince organisationId size start later row)

theorem OutboxKept.refl (row : OutboxRow) : OutboxKept row row :=
  ⟨rfl, rfl, rfl, rfl, fun hstatus => hstatus⟩

theorem OutboxKept.trans {row new last : OutboxRow} (hfirst : OutboxKept row new)
    (hsecond : OutboxKept new last) : OutboxKept row last where
  id := hsecond.id.trans hfirst.id
  envelopeId := hsecond.envelopeId.trans hfirst.envelopeId
  organisationId := hsecond.organisationId.trans hfirst.organisationId
  createdAt := hsecond.createdAt.trans hfirst.createdAt
  settled hstatus := hsecond.settled (hfirst.settled hstatus)

theorem OutboxKept.pending {row new : OutboxRow} (hkept : OutboxKept row new)
    (hpending : new.status = .pending) : row.status = .pending := by
  by_contra hstatus
  exact hkept.settled hstatus hpending

theorem RowsKept.refl (database : OutboxDatabase) : RowsKept database database :=
  fun row hrow => ⟨row, hrow, .refl row⟩

theorem Follows.refl (state : Deliveries) : Follows state state :=
  ⟨.refl _, List.prefix_refl _⟩

theorem Follows.trans (first second third : Deliveries) (hfirst : Follows first second)
    (hsecond : Follows second third) : Follows first third where
  rows row hrow := by
    obtain ⟨new, hnew, hkept⟩ := hfirst.rows row hrow
    obtain ⟨last, hlast, hkept'⟩ := hsecond.rows new hnew
    exact ⟨last, hlast, hkept.trans hkept'⟩
  dispatches := hfirst.dispatches.trans hsecond.dispatches

section Moments

variable {start middle later : Deliveries} {organisationId envelopeId : String} {size : Int}
  {row : OutboxRow}

theorem AttemptedSince.earlier (hattempted : AttemptedSince middle later envelopeId)
    (hfollows : Follows start middle) : AttemptedSince start later envelopeId := by
  obtain ⟨dispatched, hdispatched, hid⟩ := hattempted
  have hlength := hfollows.dispatches.length_le
  exact ⟨dispatched, (List.drop_sublist_drop_left _ hlength).subset hdispatched, hid⟩

theorem AttemptedSince.grow (hattempted : AttemptedSince start middle envelopeId)
    (hfollows : Follows middle later) : AttemptedSince start later envelopeId := by
  obtain ⟨dispatched, hdispatched, hid⟩ := hattempted
  exact ⟨dispatched, (hfollows.dispatches.drop _).subset hdispatched, hid⟩

theorem FullBatchSince.grow (hfull : FullBatchSince organisationId size start middle row)
    (hfollows : Follows middle later) :
    FullBatchSince organisationId size start later row := by
  obtain ⟨envelopeIds, hnodup, hlength, hall⟩ := hfull
  refine ⟨envelopeIds, hnodup, hlength, fun envelopeId hmem => ?_⟩
  obtain ⟨hattempted, older, holder, hid, horganisation, hold⟩ := hall envelopeId hmem
  obtain ⟨new, hnew, hkept⟩ := hfollows.rows older holder
  refine ⟨hattempted.grow hfollows, new, hnew, hkept.envelopeId.trans hid,
    hkept.organisationId.trans horganisation, ?_⟩
  rw [hkept.createdAt]
  exact hold

theorem ServesSince.grow {payload : JsonValue}
    (hserves : ServesSince organisationId payload start middle)
    (hfollows : Follows middle later) : ServesSince organisationId payload start later := by
  obtain ⟨size, hsize, hall⟩ := hserves
  refine ⟨size, hsize, fun row hrow horganisation => ?_⟩
  obtain ⟨new, hnew, hkept, hserved⟩ := hall row hrow horganisation
  obtain ⟨last, hlast, hkept'⟩ := hfollows.rows new hnew
  refine ⟨last, hlast, hkept.trans hkept', fun hpending => ?_⟩
  cases hserved (hkept'.pending hpending) with
  | inl hattempted => exact Or.inl (hattempted.grow hfollows)
  | inr hfull => exact Or.inr (hfull.grow hfollows)

end Moments

/-! ## A batch -/

theorem pairwise_pendingRows (organisationId : String) (table : OutboxTable) :
    (pendingRows organisationId table).Pairwise fun left right =>
      left.createdAt ≤ right.createdAt :=
  List.pairwise_insertionSort _ _

theorem nodup_pendingRows (organisationId : String) (table : OutboxTable) :
    ((pendingRows organisationId table).map OutboxRow.envelopeId).Nodup := by
  have hperm : (pendingRows organisationId table).Perm _ := List.perm_insertionSort _ _
  rw [(hperm.map OutboxRow.envelopeId).nodup_iff]
  exact (nodup_envelopeIds table).sublist (List.filter_sublist.map _)

theorem mem_take_or_full {α : Type} {le : α → α → Prop} {items : List α}
    (hsorted : items.Pairwise le) {item : α} (hitem : item ∈ items) (count : Nat) :
    item ∈ items.take count ∨
      (items.take count).length = count ∧ ∀ first ∈ items.take count, le first item := by
  rw [← List.take_append_drop count items] at hitem hsorted
  cases List.mem_append.mp hitem with
  | inl htaken => exact Or.inl htaken
  | inr hleft =>
      right
      constructor
      · have hshort : count < items.length := by
          by_contra hlong
          rw [List.drop_eq_nil_of_le (Nat.le_of_not_lt hlong)] at hleft
          cases hleft
        exact List.length_take_of_le hshort.le
      · intro first hfirst
        exact (List.pairwise_append.mp hsorted).2.2 first hfirst item hleft

theorem servesSince_of_batch {organisationId : String} {payload : JsonValue} {size : Int}
    {start read later : Deliveries} {batch : List OutboxRecord}
    (hsize : admittedLimit? (batchLimitOf payload) = some size)
    (hstart : Follows start read) (hlater : Follows read later)
    (hbatch : List.Forall₂ (fun row record => readRecord row = .ok record)
      ((pendingRows organisationId read.database.outbox).take size.toNat) batch)
    (hattempted : ∀ record ∈ batch, AttemptedSince read later record.row.envelopeId) :
    ServesSince organisationId payload start later := by
  have htaken : ∀ row ∈ (pendingRows organisationId read.database.outbox).take size.toNat,
      AttemptedSince start later row.envelopeId := by
    intro row hrow
    obtain ⟨record, hrecord, hread⟩ := exists_record_of_read hbatch hrow
    have hsince := hattempted record hrecord
    rw [(SyncEndpoint.readRecord_eq_ok hread).1] at hsince
    exact hsince.earlier hstart
  refine ⟨size, hsize, fun row hrow horganisation => ?_⟩
  obtain ⟨seen, hseen, hkept⟩ := hstart.rows row hrow
  obtain ⟨new, hnew, hkept'⟩ := hlater.rows seen hseen
  refine ⟨new, hnew, hkept.trans hkept', fun hpending => ?_⟩
  have hwaits : seen ∈ pendingRows organisationId read.database.outbox :=
    mem_pendingRows.mpr ⟨hseen, hkept'.pending hpending, hkept.organisationId.trans horganisation⟩
  cases mem_take_or_full (pairwise_pendingRows organisationId read.database.outbox) hwaits
    size.toNat with
  | inl htake =>
      left
      rw [← hkept.envelopeId]
      exact htaken seen htake
  | inr hfull =>
      right
      obtain ⟨hlength, hfirst⟩ := hfull
      have hpositive : 0 < size := by
        have hadmitted := (Option.filter_eq_some_iff.mp hsize).2
        exact (of_decide_eq_true hadmitted).1
      refine ⟨((pendingRows organisationId read.database.outbox).take size.toNat).map
        OutboxRow.envelopeId, ?_, ?_, ?_⟩
      · exact (nodup_pendingRows _ _).sublist ((List.take_sublist _ _).map _)
      · rw [List.length_map, hlength]
        omega
      · intro envelopeId hmem
        obtain ⟨older, holder, rfl⟩ := List.mem_map.mp hmem
        obtain ⟨hmember, -, hsame⟩ := mem_pendingRows.mp (List.mem_of_mem_take holder)
        obtain ⟨last, hlast, hkeeps⟩ := hlater.rows older hmember
        refine ⟨htaken older holder, last, hlast, hkeeps.envelopeId,
          hkeeps.organisationId.trans hsame, ?_⟩
        rw [hkeeps.createdAt, ← hkept.createdAt]
        exact hfirst older holder

/-! ## The calls of a run -/

def Preserves ⦃β : Type⦄ (request : SendCall β) : Prop :=
  ∀ now answer later, sending request now answer later → Follows now later

theorem preserves_database {β : Type} {request : DbCall OutboxDatabase β}
    (hkeeps : ∀ database, RowsKept database (memoryConnection request database).2) :
    Preserves (.database request) := by
  intro now answer later hanswer
  obtain ⟨hcall, hdispatches⟩ := hanswer
  refine ⟨?_, ?_⟩
  · cases hcall with
    | inl hrun =>
        have hkept := hkeeps now.database
        rw [hrun] at hkept
        exact hkept
    | inr hfailed =>
        rw [hfailed.2]
        exact .refl _
  · rw [hdispatches]

theorem preserves_reads {β : Type} {request : DbCall OutboxDatabase β} (hreads : Reads request) :
    Preserves (.database request) := by
  apply preserves_database
  intro database
  match request, hreads with
  | .query statement, hreads =>
      apply memory_query_relates (.refl database)
      intro result hrun
      rw [Statement.run_database_of_readonly hreads hrun]
      exact .refl database

theorem preserves_insert (row : OutboxRow) : Preserves (.database (.execute (insertStatement row))) := by
  apply preserves_database
  intro database
  apply memory_execute_relates (.refl database)
  intro result hrun old hold
  refine ⟨old, ?_, .refl old⟩
  rw [Table.mem_def, insertStatement_run_ok hrun]
  exact List.mem_append_left _ hold

theorem preserves_update {sql : String} {params : List JsonValue} {envelopeId : String}
    {set : OutboxRow → OutboxRow}
    (hset : ∀ row, row.status = .pending → OutboxKept row (set row)) :
    Preserves (.database (.execute (OutboxService.updateStatement sql params envelopeId set))) := by
  apply preserves_database
  intro database
  apply memory_execute_relates (.refl database)
  intro result hrun row hrow
  simp only [OutboxService.updateStatement, Statement.run] at hrun
  split at hrun
  · cases hrun
  · rename_i later hupdate
    cases hrun
    refine ⟨_, (Table.update?_eq_some_iff.mp hupdate) ▸ List.mem_map_of_mem hrow, ?_⟩
    unfold Table.updateRow
    split_ifs with hcondition
    · apply hset row
      simpa using (Bool.and_eq_true_iff.mp hcondition).2
    · exact .refl row

theorem preserves_sendCalls : OfSendCalls Preserves where
  dispatch _ _ _ := by
    intro now answer later hanswer
    cases hanswer
    exact ⟨.refl _, List.prefix_append _ _⟩
  sent _ _ := preserves_update fun _ hpending =>
    ⟨rfl, rfl, rfl, rfl, fun hstatus => absurd hpending hstatus⟩
  failed _ _ := preserves_update fun _ hpending =>
    ⟨rfl, rfl, rfl, rfl, fun hstatus => absurd hpending hstatus⟩
  upsertCursor _ := by
    intro now answer later hanswer
    cases hanswer
    exact .refl now
  aborted := by
    intro now answer later hanswer
    obtain ⟨-, rfl⟩ := hanswer
    exact .refl later
  readClock := by
    intro now answer later hanswer
    obtain ⟨-, rfl⟩ := hanswer
    exact .refl later

theorem handle_preserves (organisationId : String) (payload : JsonValue) :
    (handle outboxServices organisationId payload).Makes Preserves := by
  unfold handle
  split_ifs
  · exact Program.makes_done _
  · apply Program.Makes.bind (Program.makes_await preserves_sendCalls.aborted)
    intro aborted
    cases aborted with
    | true => exact Program.makes_done _
    | false =>
        refine Program.Makes.bind ?_ (preserves_sendCalls.handleBatch organisationId)
        apply Program.Every.mapCall _ (pendingBatch_reads organisationId (batchLimitOf payload))
        intro β request hreads
        exact preserves_reads hreads

/-! ## A run among others -/

section Runs

variable {α : Type} {state : Deliveries}

abbrev Sends (post : Except Thrown α → Deliveries → Prop) (program : Program SendCall Thrown α)
    (state : Deliveries) : Prop :=
  program.Safe sending (fun _ => True) Follows (fun _ => True) post state

theorem sends_of_every {post : Except Thrown α → Prop} {program : Program SendCall Thrown α}
    (hevery : program.Every Preserves post) (state : Deliveries) :
    Sends (fun outcome later => post outcome ∧ Follows state later) program state :=
  (hevery.safe (fun _ _ hkeeps now answer later _ hanswer =>
    ⟨trivial, hkeeps now answer later hanswer⟩) state).since Follows.refl Follows.trans

theorem attemptedSince_append (state : Deliveries) {payloadJson envelopeId : String}
    (hid : envelopeIdOf? payloadJson = some envelopeId) (resolved : Bool) :
    AttemptedSince state
      { state with dispatches := state.dispatches ++ [⟨payloadJson, resolved⟩] } envelopeId := by
  refine ⟨⟨payloadJson, resolved⟩, ?_, hid⟩
  rw [List.drop_left]
  exact List.mem_singleton_self _

theorem sends_dispatchEntry {entry : OutboxRecord}
    (hid : envelopeIdOf? entry.envelopeJson = some entry.row.envelopeId) (state : Deliveries) :
    Sends (fun _ later => Follows state later ∧
      AttemptedSince state later entry.row.envelopeId) (dispatchEntry outboxServices entry)
      state := by
  have hmakes := preserves_sendCalls.dispatchEntry entry
  intro now hnow _ _ answer later hanswer
  have hfollows := hmakes.1 now answer later hanswer
  have hattempted : AttemptedSince now later entry.row.envelopeId := by
    cases hanswer
    exact attemptedSince_append now hid _
  refine ⟨trivial, hfollows, (sends_of_every (hmakes.2 answer) later).mono ?_⟩
  intro outcome final hfinal
  exact ⟨hnow.trans _ _ _ (hfollows.trans _ _ _ hfinal.2),
    (hattempted.earlier hnow).grow hfinal.2⟩

theorem sends_dispatchAll {entries : List OutboxRecord}
    (hids : ∀ entry ∈ entries, envelopeIdOf? entry.envelopeJson = some entry.row.envelopeId)
    (dispatched failed : Nat) (state : Deliveries) :
    Sends (fun outcome later => Follows state later ∧ ((∃ counts, outcome = .ok counts) →
        ∀ entry ∈ entries, AttemptedSince state later entry.row.envelopeId))
      (dispatchAll outboxServices entries dispatched failed) state := by
  induction entries generalizing dispatched failed state with
  | nil => exact ⟨.refl state, fun _ entry hentry => nomatch hentry⟩
  | cons entry entries ih =>
      apply Program.Safe.bind
      intro now hnow _ _ answer later hanswer
      obtain ⟨⟨aborted, rfl⟩, rfl⟩ := hanswer
      refine ⟨trivial, .refl later, ?_⟩
      cases aborted with
      | true => exact ⟨hnow, fun hcounts => nomatch hcounts⟩
      | false =>
          apply Program.Safe.bind
          apply Program.Safe.mono _ (sends_dispatchEntry (hids entry List.mem_cons_self) later)
          intro outcome middle hmiddle
          obtain ⟨hfollows, hattempted⟩ := hmiddle
          cases outcome with
          | error error => exact ⟨hnow.trans _ _ _ hfollows, fun hcounts => nomatch hcounts⟩
          | ok sent =>
              have hrest : ∀ dispatched failed, Sends (fun outcome final =>
                  Follows state final ∧ ((∃ counts, outcome = .ok counts) →
                    ∀ other ∈ entry :: entries, AttemptedSince state final other.row.envelopeId))
                  (dispatchAll outboxServices entries dispatched failed) middle := by
                intro dispatched failed
                apply Program.Safe.mono _
                  (ih (fun other hother => hids other (List.mem_cons_of_mem _ hother))
                    dispatched failed middle)
                intro outcome final hfinal
                obtain ⟨hlast, hothers⟩ := hfinal
                have hearlier := hnow.trans _ _ _ hfollows
                refine ⟨hearlier.trans _ _ _ hlast, fun hcounts other hother => ?_⟩
                cases List.mem_cons.mp hother with
                | inl hsame =>
                    rw [hsame]
                    exact (hattempted.earlier hnow).grow hlast
                | inr hrest => exact (hothers hcounts other hrest).earlier hearlier
              cases sent with
              | true => exact hrest _ _
              | false => exact hrest _ _

theorem sends_handleBatch {organisationId : String} {batch : List OutboxRecord}
    (hids : ∀ entry ∈ batch, envelopeIdOf? entry.envelopeJson = some entry.row.envelopeId)
    (state : Deliveries) :
    Sends (fun outcome later => Follows state later ∧ (outcome = .ok () →
        ∀ entry ∈ batch, AttemptedSince state later entry.row.envelopeId))
      (handleBatch outboxServices organisationId batch) state := by
  cases batch with
  | nil =>
      apply Program.Safe.mono _
        (sends_of_every (preserves_sendCalls.handleBatch organisationId []) state)
      exact fun outcome later hlater => ⟨hlater.2, fun _ entry hentry => nomatch hentry⟩
  | cons entry entries =>
      apply Program.Safe.bind
      apply Program.Safe.mono _ (sends_dispatchAll hids 0 0 state)
      intro outcome middle hmiddle
      obtain ⟨hfollows, hattempted⟩ := hmiddle
      cases outcome with
      | error error => exact ⟨hfollows, fun hok => nomatch hok⟩
      | ok counts =>
          have hafter := afterLoop_makes Preserves organisationId
            (preserves_sendCalls.upsertCursor _) preserves_sendCalls.aborted counts.1 counts.2
          apply Program.Safe.mono _ (sends_of_every hafter middle)
          intro outcome final hfinal
          exact ⟨hfollows.trans _ _ _ hfinal.2, fun _ entry hentry =>
            (hattempted ⟨counts, rfl⟩ entry hentry).grow hfinal.2⟩

theorem sends_pendingBatch (organisationId : String) (limit : NumberValue) (state : Deliveries) :
    Sends (fun outcome later => ∀ batch, outcome = .ok batch →
        ∃ size, admittedLimit? limit = some size ∧ Follows state later ∧
          List.Forall₂ (fun row record => readRecord row = .ok record)
            ((pendingRows organisationId later.database.outbox).take size.toNat) batch)
      (outboxServices.pendingBatch organisationId limit) state := by
  change Sends _ ((OutboxService.pendingBatch organisationId limit).mapCall fun _ =>
    SendCall.database) state
  unfold OutboxService.pendingBatch
  split
  · exact fun batch hbatch => nomatch hbatch
  · split
    · exact fun batch hbatch => nomatch hbatch
    · rename_i size hsize
      intro now hnow _ _ answer later hanswer
      have hfollows : Follows now later :=
        (preserves_reads rfl :
          Preserves (.database (.query (pendingStatement organisationId size)))) now answer later
            hanswer
      obtain ⟨hcall, -⟩ := hanswer
      refine ⟨trivial, hfollows, ?_⟩
      cases hcall with
      | inl hrun =>
          obtain ⟨rfl, hdatabase⟩ := Prod.mk.inj hrun
          intro batch hbatch
          refine ⟨size, hsize, hnow.trans _ _ _ hfollows, ?_⟩
          rw [← hdatabase]
          exact forall₂_of_mapM_eq_ok hbatch
      | inr hfailed =>
          obtain ⟨error, rfl⟩ := hfailed.1
          exact fun batch hbatch => nomatch hbatch

theorem sends_handle {start : Deliveries} (hstart : Follows start state)
    (organisationId : String) (payload : JsonValue) :
    Sends (fun outcome later => outcome = .ok () →
        ServesSince organisationId payload start later)
      (handle outboxServices organisationId payload) state := by
  unfold handle
  split_ifs
  · exact fun hok => nomatch hok
  · apply Program.Safe.bind
    intro now hnow _ _ answer later hanswer
    obtain ⟨⟨aborted, rfl⟩, rfl⟩ := hanswer
    refine ⟨trivial, .refl later, ?_⟩
    cases aborted with
    | true => exact fun hok => nomatch hok
    | false =>
        apply Program.Safe.bind
        apply Program.Safe.mono _ (sends_pendingBatch organisationId (batchLimitOf payload) later)
        intro outcome read hread
        cases outcome with
        | error error => exact fun hok => nomatch hok
        | ok batch =>
            obtain ⟨size, hsize, hfollows, hbatch⟩ := hread batch rfl
            have hids : ∀ entry ∈ batch,
                envelopeIdOf? entry.envelopeJson = some entry.row.envelopeId := by
              intro entry hentry
              exact envelopeIdOf?_of_carries (exists_row_of_read hbatch hentry).2.2
            apply Program.Safe.mono _ (sends_handleBatch hids read)
            intro outcome final hfinal hok
            exact servesSince_of_batch hsize (hstart.trans _ _ _ (hnow.trans _ _ _ hfollows))
              hfinal.1 hbatch (hfinal.2 hok)

end Runs

end TauriPlatform.OutboxSyncWorker
