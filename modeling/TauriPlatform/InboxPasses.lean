import TauriPlatform.AsyncSystem
import TauriPlatform.InboxOrder

/-!
# Passes over the inbox in flight

Several passes of `applyPending` share the table, interleaved call by call.  The rows
which a pass has read and not written yet are in its hands; an envelope is applied
once as long as no pass reads a row which is in the hands of another.
-/

namespace TauriPlatform

open Async Relational

namespace InboxService

/-! ## Passes in flight -/

/-- The database answers as the in-memory connection does, and `applyFn` anyhow. -/
def applyEnvironment : Environment InboxCall Thrown ApplyHistory :=
  fun _ request history answer later =>
    ∃ outcome, applyHandler outcome request history = (answer, later)

def passProgram (readings : Nat → ClockReading) : Program InboxCall Thrown ApplyCounts :=
  applyPending inboxExecutor awaitApply readings

def ReadsReleased : ∀ ⦃β : Type⦄, InboxCall β → ApplyHistory → Prop
  | _, .database (.query _), history =>
      ∀ row ∈ pendingRows history.table, row.id ∉ history.held
  | _, _, _ => True

/-- What a pass has in hand: rows to apply, behind a row whose status it has to write. -/
inductive Hand where
  | waiting
  | toApply (rows : List InboxRow)
  | toWrite (row : InboxRow) (rest : List InboxRow)

namespace Hand

def rows : Hand → List InboxRow
  | .waiting => []
  | .toApply rows => rows
  | .toWrite row rest => row :: rest

def unapplied : Hand → List InboxRow
  | .waiting => []
  | .toApply rows => rows
  | .toWrite _ rest => rest

def unwritten : Hand → List InboxRow
  | .waiting => []
  | .toApply _ => []
  | .toWrite row _ => [row]

def ids (hand : Hand) : List String :=
  hand.rows.map InboxRow.id

theorem rows_of_unapplied {hand : Hand} {row : InboxRow} (hrow : row ∈ hand.unapplied) :
    row ∈ hand.rows := by
  cases hand with
  | waiting => exact hrow
  | toApply rows => exact hrow
  | toWrite first rest => exact List.mem_cons_of_mem first hrow

theorem rows_of_unwritten {hand : Hand} {row : InboxRow} (hrow : row ∈ hand.unwritten) :
    row ∈ hand.rows := by
  cases hand with
  | waiting => exact hrow
  | toApply rows => exact absurd hrow List.not_mem_nil
  | toWrite first rest =>
      rw [List.mem_singleton.mp hrow]
      exact List.mem_cons_self

end Hand

def WritesStatus (statement : Statement InboxTable Unit) (id : String) : Prop :=
  (∃ now, statement = appliedStatement now id) ∨
    ∃ thrown, statement = statusStatement (failedStatus thrown) id

def PassAt (program : Program InboxCall Thrown ApplyCounts) : Hand → Prop
  | .waiting => ∃ readings, program = passProgram readings
  | .toApply rows =>
      ∃ readings counts, program = applyRows inboxExecutor awaitApply readings counts rows
  | .toWrite row rest =>
      ∃ statement next, program = .call (.database (.execute statement)) next ∧
        WritesStatus statement row.id ∧
        ∀ affected, ∃ readings counts, next (.ok affected) =
          applyRows inboxExecutor awaitApply readings counts rest

/-! ## Writing a status -/

theorem failedStatus_ne_pending (thrown : Thrown) : failedStatus thrown ≠ .pending := by
  unfold failedStatus
  split_ifs
  · intro h
    cases h
  · intro h
    cases h

structure StatusWritten (id : String) (table later : InboxTable) : Prop where
  back : ∀ row ∈ later, ∃ old ∈ table, row.id = old.id ∧ row.envelopeId = old.envelopeId ∧
    (old.applyStatus ≠ .pending → row.applyStatus ≠ .pending) ∧
    (old.id = id → row.applyStatus ≠ .pending)
  forth : ∀ old ∈ table, ∃ row ∈ later, row.id = old.id ∧ row.envelopeId = old.envelopeId

variable {table : InboxTable}

theorem statusWritten_of_update {id : String} (set : InboxRow → InboxRow)
    (hid : ∀ row, (set row).id = row.id)
    (henvelope : ∀ row, (set row).envelopeId = row.envelopeId)
    (hstatus : ∀ row, (set row).applyStatus ≠ .pending) {later : InboxTable}
    (hlater : later.rows = table.rows.map (Table.updateRow (fun row => row.id = id) set)) :
    StatusWritten id table later := by
  constructor
  · intro row hrow
    rw [Table.mem_def, hlater] at hrow
    obtain ⟨old, hold, rfl⟩ := List.mem_map.mp hrow
    refine ⟨old, hold, ?_⟩
    unfold Table.updateRow
    by_cases hsame : old.id = id
    · simp [hsame, hid, henvelope, hstatus]
    · simp [hsame]
  · intro old hold
    refine ⟨Table.updateRow (fun row => row.id = id) set old, ?_, ?_⟩
    · rw [Table.mem_def, hlater]
      exact List.mem_map_of_mem hold
    · unfold Table.updateRow
      by_cases hsame : old.id = id
      · simp [hsame, hid, henvelope]
      · simp [hsame]

theorem WritesStatus.run {statement : Statement InboxTable Unit} {id : String}
    (hwrites : WritesStatus statement id) (table : InboxTable) :
    statement.params.getLast? = some (.string id) ∧
      ∃ affected later, memoryConnection (.execute statement) table = (.ok affected, later) ∧
        StatusWritten id table later := by
  cases hwrites with
  | inl happlied =>
      obtain ⟨now, rfl⟩ := happlied
      obtain ⟨later, hlater, hrun⟩ := appliedStatement_run now id table
      refine ⟨rfl, _, later, by rw [memoryConnection, hrun], ?_⟩
      apply statusWritten_of_update (applied now) _ _ _ hlater
      · intro row
        rfl
      · intro row
        rfl
      · intro row hpending
        cases hpending
  | inr hfailed =>
      obtain ⟨thrown, rfl⟩ := hfailed
      obtain ⟨later, hlater, hrun⟩ := statusStatement_run (failedStatus thrown) id table
      refine ⟨rfl, _, later, by rw [memoryConnection, hrun], ?_⟩
      apply statusWritten_of_update (withStatus (failedStatus thrown)) _ _ _ hlater
      · intro row
        rfl
      · intro row
        rfl
      · intro row
        exact failedStatus_ne_pending thrown

/-! ## The steps of a pass -/

variable {history later : ApplyHistory}

theorem PassAt.waiting_inv {β : Type} {request : InboxCall β}
    {rest : Except Thrown β → Program InboxCall Thrown ApplyCounts}
    (hpass : PassAt (.call request rest) .waiting) {answer : Except Thrown β}
    (hallowed : ReadsReleased request history)
    (hanswer : applyEnvironment request history answer later) :
    PassAt (rest answer) (.toApply (pendingRows history.table)) ∧
      later = { history with
        held := history.held ++ (pendingRows history.table).map InboxRow.id } ∧
      ∀ row ∈ pendingRows history.table, row.id ∉ history.held := by
  obtain ⟨readings, hprogram⟩ := hpass
  cases hprogram
  obtain ⟨outcome, hhandler⟩ := hanswer
  cases hhandler
  exact ⟨⟨readings, _, rfl⟩, rfl, hallowed⟩

theorem PassAt.toApply_inv {β : Type} {request : InboxCall β} {rows : List InboxRow}
    {rest : Except Thrown β → Program InboxCall Thrown ApplyCounts}
    (hpass : PassAt (.call request rest) (.toApply rows)) {answer : Except Thrown β}
    (hanswer : applyEnvironment request history answer later) :
    ∃ row behind, rows = row :: behind ∧ PassAt (rest answer) (.toWrite row behind) ∧
      ∃ resolved, later = { history with
        attempts := history.attempts ++ [⟨row, resolved⟩] } := by
  obtain ⟨readings, counts, hprogram⟩ := hpass
  cases rows with
  | nil => cases hprogram
  | cons row behind =>
      cases hprogram
      obtain ⟨outcome, hhandler⟩ := hanswer
      cases hhandler
      refine ⟨row, behind, rfl, ?_, _, rfl⟩
      cases houtcome : outcome row with
      | ok _ =>
          exact ⟨appliedStatement (readings 0).iso row.id, _, rfl, Or.inl ⟨_, rfl⟩,
            fun _ => ⟨_, _, rfl⟩⟩
      | error thrown =>
          exact ⟨statusStatement (failedStatus thrown) row.id, _, rfl, Or.inr ⟨_, rfl⟩,
            fun _ => ⟨_, _, rfl⟩⟩

theorem PassAt.toWrite_inv {β : Type} {request : InboxCall β} {row : InboxRow}
    {behind : List InboxRow} {rest : Except Thrown β → Program InboxCall Thrown ApplyCounts}
    (hpass : PassAt (.call request rest) (.toWrite row behind)) {answer : Except Thrown β}
    (hanswer : applyEnvironment request history answer later) :
    PassAt (rest answer) (.toApply behind) ∧
      ∃ table, StatusWritten row.id history.table table ∧
        later = { history with table := table, held := history.held.erase row.id } := by
  obtain ⟨statement, next, hprogram, hwrites, hnext⟩ := hpass
  cases hprogram
  obtain ⟨outcome, hhandler⟩ := hanswer
  obtain ⟨hparams, affected, table, hrun, hwritten⟩ := hwrites.run history.table
  simp only [applyHandler, heldAfter, hrun, hparams] at hhandler
  cases hhandler
  obtain ⟨readings, counts, hrest⟩ := hnext affected
  exact ⟨⟨readings, counts, hrest⟩, table, hwritten, rfl⟩

/-! ## The invariant -/

/-- What the passes in flight have in hand is held once, and is not yet resolved. -/
structure Owned (history : ApplyHistory) (hands : List Hand) : Prop where
  held : history.held.Perm (hands.flatMap Hand.ids)
  distinct : history.held.Nodup
  known : ∀ record, record ∈ history.resolved ∨ record ∈ hands.flatMap Hand.rows →
    ∃ row ∈ history.table, row.id = record.id ∧ row.envelopeId = record.envelopeId
  settled : ∀ record ∈ history.resolved, record ∈ hands.flatMap Hand.unwritten ∨
    ∀ row ∈ history.table, row.id = record.id → row.applyStatus ≠ .pending
  fresh : ∀ record ∈ hands.flatMap Hand.unapplied,
    record.id ∉ history.resolved.map InboxRow.id
  once : (history.resolved.map InboxRow.id).Nodup

theorem Owned.initial (table : InboxTable) : Owned (.of table) [] where
  held := List.Perm.refl _
  distinct := List.nodup_nil
  known record hrecord := by
    cases hrecord with
    | inl h => exact absurd h List.not_mem_nil
    | inr h => exact absurd h List.not_mem_nil
  settled record hrecord := absurd hrecord List.not_mem_nil
  fresh record hrecord := absurd hrecord List.not_mem_nil
  once := List.nodup_nil

theorem Owned.start {hands : List Hand} (howned : Owned history hands) :
    Owned history (.waiting :: hands) where
  held := howned.held
  distinct := howned.distinct
  known := howned.known
  settled := howned.settled
  fresh := howned.fresh
  once := howned.once

theorem id_eq_iff_envelopeId_eq {left right : InboxRow} (hleft : left ∈ table)
    (hright : right ∈ table) :
    left.id = right.id ↔ left.envelopeId = right.envelopeId := by
  constructor
  · intro hid
    have hsame : left = right := Table.eq_of_key_eq (fun row : InboxRow => some row.id)
      (by simp [inboxIndexes]) hleft hright (congrArg some hid) rfl
    rw [hsame]
  · intro henvelope
    have hsame : left = right := Table.eq_of_key_eq (fun row : InboxRow => some row.envelopeId)
      (by simp [inboxIndexes]) hleft hright (congrArg some henvelope) rfl
    rw [hsame]

theorem nodup_ids (table : InboxTable) : (table.rows.map InboxRow.id).Nodup := by
  have hunique := table.unique (fun row => some row.id) (by simp [inboxIndexes])
  rwa [List.filterMap_eq_map'] at hunique

theorem nodup_pendingRows_ids (table : InboxTable) :
    ((pendingRows table).map InboxRow.id).Nodup := by
  have hperm : (pendingRows table).Perm (table.select isPendingVerified) :=
    List.perm_insertionSort _ _
  rw [(hperm.map InboxRow.id).nodup_iff]
  exact (nodup_ids table).sublist (List.filter_sublist.map _)

theorem pending_of_mem_pendingRows {row : InboxRow} (hrow : row ∈ pendingRows table) :
    row ∈ table ∧ row.applyStatus = .pending := by
  rw [mem_pendingRows] at hrow
  refine ⟨hrow.1, ?_⟩
  have hpending := hrow.2
  simp only [isPendingVerified, Bool.and_eq_true, decide_eq_true_eq] at hpending
  exact hpending.1

section Step

variable {history : ApplyHistory} {before after : List Hand}

theorem Owned.read (howned : Owned history (before ++ .waiting :: after))
    (hreleased : ∀ row ∈ pendingRows history.table, row.id ∉ history.held) :
    Owned { history with
        held := history.held ++ (pendingRows history.table).map InboxRow.id }
      (before ++ .toApply (pendingRows history.table) :: after) where
  held := by
    have hheld := howned.held
    simp only [List.flatMap_append, List.flatMap_cons, Hand.ids, Hand.rows, List.map_nil,
      List.nil_append] at hheld ⊢
    have hfront := hheld.append_right ((pendingRows history.table).map InboxRow.id)
    rw [List.append_assoc] at hfront
    exact hfront.trans (List.perm_append_comm.append_left _)
  distinct := by
    rw [List.nodup_append']
    refine ⟨howned.distinct, nodup_pendingRows_ids history.table, ?_⟩
    intro id hheld hread
    obtain ⟨row, hrow, rfl⟩ := List.mem_map.mp hread
    exact hreleased row hrow hheld
  known record hrecord := by
    simp only [List.flatMap_append, List.flatMap_cons, List.mem_append, Hand.rows] at hrecord
    have hknown := howned.known record
    simp only [List.flatMap_append, List.flatMap_cons, List.mem_append, Hand.rows,
      List.not_mem_nil, false_or] at hknown
    rcases hrecord with hresolved | hbefore | hread | hafter
    · exact hknown (Or.inl hresolved)
    · exact hknown (Or.inr (Or.inl hbefore))
    · exact ⟨record, (pending_of_mem_pendingRows hread).1, rfl, rfl⟩
    · exact hknown (Or.inr (Or.inr hafter))
  settled record hrecord := by
    have hsettled := howned.settled record hrecord
    simpa only [List.flatMap_append, List.flatMap_cons, Hand.unwritten] using hsettled
  fresh record hrecord hresolved := by
    simp only [List.flatMap_append, List.flatMap_cons, List.mem_append, Hand.unapplied] at hrecord
    have hfresh := howned.fresh record
    simp only [List.flatMap_append, List.flatMap_cons, List.mem_append, Hand.unapplied,
      List.not_mem_nil, false_or] at hfresh
    rcases hrecord with hbefore | hread | hafter
    · exact hfresh (Or.inl hbefore) hresolved
    · -- a resolved row is still held, or waits no longer
      obtain ⟨old, hold, hid⟩ := List.mem_map.mp hresolved
      cases howned.settled old hold with
      | inl hunwritten =>
          apply hreleased record hread
          rw [howned.held.mem_iff, ← hid]
          obtain ⟨hand, hhand, hmem⟩ := List.mem_flatMap.mp hunwritten
          exact List.mem_flatMap.mpr
            ⟨hand, hhand, List.mem_map_of_mem (Hand.rows_of_unwritten hmem)⟩
      | inr hsettled =>
          obtain ⟨hrow, hpending⟩ := pending_of_mem_pendingRows hread
          exact hsettled record hrow hid.symm hpending
    · exact hfresh (Or.inr hafter) hresolved
  once := howned.once

theorem resolved_append (history : ApplyHistory) (row : InboxRow) (resolved : Bool) :
    ApplyHistory.resolved { history with attempts := history.attempts ++ [⟨row, resolved⟩] } =
      history.resolved ++ if resolved then [row] else [] := by
  unfold ApplyHistory.resolved
  rw [List.filter_append, List.map_append]
  cases resolved with
  | true => rfl
  | false => rfl

theorem Owned.apply {row : InboxRow} {behind : List InboxRow} {resolved : Bool}
    (howned : Owned history (before ++ .toApply (row :: behind) :: after)) :
    Owned { history with attempts := history.attempts ++ [⟨row, resolved⟩] }
      (before ++ .toWrite row behind :: after) where
  held := by
    have hheld := howned.held
    simpa only [List.flatMap_append, List.flatMap_cons, Hand.ids, Hand.rows] using hheld
  distinct := howned.distinct
  known record hrecord := by
    apply howned.known
    rw [resolved_append] at hrecord
    cases hrecord with
    | inl hlog =>
        cases List.mem_append.mp hlog with
        | inl hold => exact Or.inl hold
        | inr hnew =>
            have hsame : record = row := by
              split_ifs at hnew
              · exact List.mem_singleton.mp hnew
              · exact absurd hnew List.not_mem_nil
            apply Or.inr
            rw [hsame]
            simp [Hand.rows]
    | inr hrows =>
        apply Or.inr
        simpa only [List.flatMap_append, List.flatMap_cons, Hand.rows] using hrows
  settled record hrecord := by
    rw [resolved_append] at hrecord
    cases List.mem_append.mp hrecord with
    | inl hold =>
        cases howned.settled record hold with
        | inl hunwritten =>
            apply Or.inl
            simp only [List.flatMap_append, List.flatMap_cons, List.mem_append, Hand.unwritten,
              List.not_mem_nil, false_or] at hunwritten ⊢
            cases hunwritten with
            | inl hbefore => exact Or.inl hbefore
            | inr hafter => exact Or.inr (Or.inr hafter)
        | inr hsettled => exact Or.inr hsettled
    | inr hnew =>
        split_ifs at hnew
        · apply Or.inl
          rw [List.mem_singleton.mp hnew]
          simp [Hand.unwritten]
        · exact absurd hnew List.not_mem_nil
  fresh record hrecord hlog := by
    have hin : record ∈ (before ++ Hand.toApply (row :: behind) :: after).flatMap
        Hand.unapplied := by
      simp only [List.flatMap_append, List.flatMap_cons, List.mem_append, Hand.unapplied,
        List.mem_cons] at hrecord ⊢
      tauto
    rw [resolved_append, List.map_append, List.mem_append] at hlog
    cases hlog with
    | inl hold => exact howned.fresh record hin hold
    | inr hnew =>
        -- the row in front is in one hand only
        have hid : record.id = row.id := by
          split_ifs at hnew
          · simpa using hnew
          · exact absurd hnew List.not_mem_nil
        have hdistinct := howned.distinct
        rw [howned.held.nodup_iff] at hdistinct
        simp only [List.flatMap_append, List.flatMap_cons, Hand.ids, Hand.rows,
          List.map_cons, List.cons_append] at hdistinct
        apply (List.nodup_cons.mp (List.nodup_middle.mp hdistinct)).1
        rw [← hid]
        simp only [List.flatMap_append, List.flatMap_cons, List.mem_append,
          Hand.unapplied] at hrecord
        simp only [List.mem_append]
        have hids : ∀ hands : List Hand, record ∈ hands.flatMap Hand.unapplied →
            record.id ∈ hands.flatMap fun hand => hand.rows.map InboxRow.id := by
          intro hands hmem
          obtain ⟨hand, hhand, hrow⟩ := List.mem_flatMap.mp hmem
          exact List.mem_flatMap.mpr
            ⟨hand, hhand, List.mem_map_of_mem (Hand.rows_of_unapplied hrow)⟩
        rcases hrecord with hbefore | hbehind | hafter
        · exact Or.inl (hids before hbefore)
        · exact Or.inr (Or.inl (List.mem_map_of_mem hbehind))
        · exact Or.inr (Or.inr (hids after hafter))
  once := by
    rw [resolved_append, List.map_append]
    split_ifs
    · rw [List.nodup_append']
      refine ⟨howned.once, List.nodup_singleton _, ?_⟩
      intro id hold hnew
      have hid : id = row.id := List.mem_singleton.mp hnew
      have hfront : row ∈ (before ++ Hand.toApply (row :: behind) :: after).flatMap
          Hand.unapplied := by
        simp [Hand.unapplied]
      exact howned.fresh row hfront (hid ▸ hold)
    · simpa using howned.once

theorem Owned.write {row : InboxRow} {behind : List InboxRow} {table : InboxTable}
    (howned : Owned history (before ++ .toWrite row behind :: after))
    (hwritten : StatusWritten row.id history.table table) :
    Owned { history with table := table, held := history.held.erase row.id }
      (before ++ .toApply behind :: after) where
  held := by
    have hheld := howned.held
    simp only [List.flatMap_append, List.flatMap_cons, Hand.ids, Hand.rows, List.map_cons,
      List.cons_append] at hheld ⊢
    have hfront := (hheld.trans List.perm_middle).erase row.id
    rwa [List.erase_cons_head] at hfront
  distinct := howned.distinct.erase row.id
  known record hrecord := by
    have hbefore : record ∈ history.resolved ∨
        record ∈ (before ++ Hand.toWrite row behind :: after).flatMap Hand.rows := by
      simp only [List.flatMap_append, List.flatMap_cons, List.mem_append, Hand.rows,
        List.mem_cons] at hrecord ⊢
      tauto
    obtain ⟨old, hold, hid, henvelope⟩ := howned.known record hbefore
    obtain ⟨later, hlater, hid', henvelope'⟩ := hwritten.forth old hold
    exact ⟨later, hlater, hid'.trans hid, henvelope'.trans henvelope⟩
  settled record hrecord := by
    by_cases hsame : record.id = row.id
    · apply Or.inr
      intro later hlater hid
      obtain ⟨old, _, hid', _, _, hset⟩ := hwritten.back later hlater
      exact hset (hid'.symm.trans (hid.trans hsame))
    · cases howned.settled record hrecord with
      | inl hunwritten =>
          apply Or.inl
          simp only [List.flatMap_append, List.flatMap_cons, List.mem_append, Hand.unwritten,
            List.mem_singleton] at hunwritten ⊢
          rcases hunwritten with hbefore | hrow | hafter
          · exact Or.inl hbefore
          · exact absurd (congrArg InboxRow.id hrow) hsame
          · exact Or.inr (Or.inr hafter)
      | inr hsettled =>
          apply Or.inr
          intro later hlater hid
          obtain ⟨old, hold, hid', _, hkept, _⟩ := hwritten.back later hlater
          exact hkept (hsettled old hold (hid'.symm.trans hid))
  fresh record hrecord := by
    apply howned.fresh
    simpa only [List.flatMap_append, List.flatMap_cons, Hand.unapplied] using hrecord
  once := howned.once

end Step

/-! ## Every run -/

abbrev PassesReach (Allowed : ∀ ⦃β : Type⦄, InboxCall β → ApplyHistory → Prop)
    (table : InboxTable)
    (system : System (Nat → ClockReading) InboxCall Thrown ApplyCounts ApplyHistory) : Prop :=
  System.LiveReaches applyEnvironment passProgram Allowed (.of table) system

theorem owned_of_reach {table : InboxTable}
    {system : System (Nat → ClockReading) InboxCall Thrown ApplyCounts ApplyHistory}
    (hreach : PassesReach ReadsReleased table system) :
    ∃ hands, Owned system.state hands := by
  obtain ⟨hands, -, howned⟩ := System.LiveReaches.simulation
    (fun _ program hand => PassAt program hand) Owned
    (fun readings history hands howned => ⟨.waiting, ⟨readings, rfl⟩, howned.start⟩)
    (fun {β} request rest _ history before current after answer later howned hpass hallowed
        hanswer => by
      cases current with
      | waiting =>
          obtain ⟨hnext, rfl, hreleased⟩ := PassAt.waiting_inv hpass hallowed hanswer
          exact ⟨_, hnext, howned.read hreleased⟩
      | toApply rows =>
          obtain ⟨row, behind, rfl, hnext, resolved, rfl⟩ := PassAt.toApply_inv hpass hanswer
          exact ⟨_, hnext, howned.apply⟩
      | toWrite row behind =>
          obtain ⟨hnext, table, hwritten, rfl⟩ := PassAt.toWrite_inv hpass hanswer
          exact ⟨_, hnext, howned.write hwritten⟩)
    (Owned.initial table) hreach
  exact ⟨hands, howned⟩

def Unrestricted : ∀ ⦃β : Type⦄, InboxCall β → ApplyHistory → Prop :=
  fun _ _ _ => True

theorem overlapping_passes_resolve_twice {table : InboxTable} {row : InboxRow}
    {rest : List InboxRow} (hrows : pendingRows table = row :: rest)
    (readings : Nat → ClockReading) :
    ∃ system : System (Nat → ClockReading) InboxCall Thrown ApplyCounts ApplyHistory,
      PassesReach Unrestricted table system ∧ system.state.resolved = [row, row] := by
  let outcome : InboxRecord → Except Thrown Unit := fun _ => .ok ()
  let counts : ApplyCounts := { applied := 0, failed := 0, conflicts := 0 }
  let applying : Thread (Nat → ClockReading) InboxCall Thrown ApplyCounts :=
    ⟨readings, applyRows inboxExecutor awaitApply readings counts (pendingRows table)⟩
  have hstarted : PassesReach Unrestricted table
      ⟨.of table, [⟨readings, passProgram readings⟩, ⟨readings, passProgram readings⟩]⟩ :=
    (Relation.ReflTransGen.refl.tail (.start readings _ [])).tail (.start readings _ _)
  have hanswer : ∀ history : ApplyHistory, applyEnvironment
      (InboxCall.database (DbCall.query pendingStatement)) history
      (.ok (pendingRows history.table))
      { history with
        held := history.held ++ (pendingRows history.table).map InboxRow.id } :=
    fun _ => ⟨outcome, rfl⟩
  have hread : PassesReach Unrestricted table
      ⟨{ ApplyHistory.of table with held := [] ++ (pendingRows table).map InboxRow.id },
        [applying, ⟨readings, passProgram readings⟩]⟩ :=
    hstarted.tail (.advance _ _ readings _ [] _ _ _ trivial (hanswer _))
  have hreadTwice : PassesReach Unrestricted table
      ⟨{ ApplyHistory.of table with
          held := ([] ++ (pendingRows table).map InboxRow.id) ++
            (pendingRows table).map InboxRow.id },
        [applying, applying]⟩ :=
    hread.tail (.advance _ _ readings _ [applying] [] _ _ trivial (hanswer _))
  simp only [applying, hrows] at hreadTwice
  have happlied := hreadTwice.tail
    (.advance (InboxCall.apply row) _ readings _ [] _ (.ok ()) _ trivial ⟨outcome, rfl⟩)
  have happliedTwice := happlied.tail
    (.advance (InboxCall.apply row) _ readings _ [_] [] (.ok ()) _ trivial ⟨outcome, rfl⟩)
  exact ⟨_, happliedTwice, rfl⟩

end InboxService
end TauriPlatform
