import TauriPlatform.MaintenanceOrchestrator
import TauriPlatform.NativeWidgets
import TauriPlatform.TimestampOrder

/-!
# The retention of audit events

`AuditService` writes the ISO text of an instant and the native commands write decimal seconds,
and `AuditEventsPruner` compares both with the ISO text of its cutoff.
-/

namespace TauriPlatform

open SqliteText PruningStatements

/-! ## The writers -/

namespace AuditService

/-- The row which `emit` inserts. -/
def eventRow (id : String) (now : ClockReading) (input : EmitAuditEventInput) : AuditEventRow where
  id := id
  eventType := input.eventType
  userId := input.userId
  deviceId := input.deviceId
  organisationId := input.organisationId
  correlationId := input.correlationId
  timestamp := now.iso
  metadataJson := input.metadata.map fun entries => (JsonValue.object entries).stringify

end AuditService

/-- `current_epoch_seconds`, for an instant in nanoseconds since the epoch. -/
def currentEpochSeconds (instant : Int) : Nat :=
  (instant / 1000000000).toNat

/-- What a writer was given and what it read: a native command reads the clock once for the id
and once for the timestamp. -/
inductive AuditWrite where
  | service (id : String) (now : ClockReading) (input : AuditService.EmitAuditEventInput)
  | native (nanos : Nat) (instant : Int) (eventType : String) (principal : NativePrincipal)
      (organisationId correlationId : String) (metadata : List (String × JsonValue))

namespace AuditWrite

def row : AuditWrite → AuditEventRow
  | service id now input => AuditService.eventRow id now input
  | native nanos instant eventType principal organisationId correlationId metadata =>
      DurableDatabase.newAuditEvent ⟨nanos, currentEpochSeconds instant⟩ eventType principal
        organisationId correlationId metadata

def recordedAt : AuditWrite → Int
  | service _ now _ => now.millis * 1000000
  | native _ instant _ _ _ _ _ => instant

/-- The event was recorded later than the cutoff, and its timestamp is not after the text of the
cutoff: the years of two ISO texts swap, or the first digits of the seconds lead up to the year of
the cutoff. -/
def IsMisjudged (cutoff : ClockReading) : AuditWrite → Prop
  | service _ now _ => YearsSwap (yearOf cutoff.millis) (yearOf now.millis)
  | native _ instant _ _ _ _ _ =>
      cutoff.millis * 1000000 < instant ∧ 0 ≤ yearOf cutoff.millis ∧
        yearOf cutoff.millis ≤ 9999 ∧
        LeadsUpTo (currentEpochSeconds instant) (yearOf cutoff.millis).toNat

instance (cutoff : ClockReading) (write : AuditWrite) : Decidable (write.IsMisjudged cutoff) :=
  match write with
  | service _ _ _ => inferInstanceAs (Decidable (YearsSwap _ _))
  | native _ _ _ _ _ _ _ => inferInstanceAs (Decidable (_ ∧ _))

end AuditWrite

/-! ## The table -/

structure AuditEntry where
  rowid : Int
  write : AuditWrite

def AuditEntry.sqlRow (entry : AuditEntry) : Row where
  rowid := entry.rowid
  cells :=
    let event := entry.write.row
    let optional := fun text : Option String => text.elim Value.null Value.text
    [("id", .text event.id), ("event_type", .text event.eventType),
      ("user_id", optional event.userId), ("device_id", .text event.deviceId),
      ("organisation_id", .text event.organisationId),
      ("correlation_id", .text event.correlationId), ("timestamp", .text event.timestamp),
      ("metadata_json", optional event.metadataJson)]

/-- `core_audit_events` with what the writers have left. -/
def auditTable (entries : List AuditEntry) (hdistinct : (entries.map AuditEntry.rowid).Nodup) :
    SqliteText.Table where
  name := "core_audit_events"
  columns := ["id", "event_type", "user_id", "device_id", "organisation_id", "correlation_id",
    "timestamp", "metadata_json"]
  rows := entries.map AuditEntry.sqlRow
  distinct := by
    rw [List.map_map]
    exact hdistinct

theorem find?_auditTable {entries : List AuditEntry}
    {hdistinct : (entries.map AuditEntry.rowid).Nodup} :
    SqliteText.Database.find? [auditTable entries hdistinct] "core_audit_events".toList =
      some (auditTable entries hdistinct) := by
  have hname : (auditTable entries hdistinct).name = "core_audit_events" := rfl
  have hsame : sameName "core_audit_events".toList "core_audit_events".toList = true :=
    decide_eq_true rfl
  rw [SqliteText.Database.find?, List.find?_cons, hname, hsame]

def auditCount : CountStatement :=
  ⟨"core_audit_events".toList, columnAtMost "timestamp" 0⟩

section Pruning

variable {interpretation : Interpretation} {cutoff : ClockReading} {entries : List AuditEntry}
  {hdistinct : (entries.map AuditEntry.rowid).Nodup} {database : SqliteText.Database}

theorem resolve_auditTable
    (hfind : database.find? "core_audit_events".toList = some (auditTable entries hdistinct)) :
    resolve interpretation database auditCount.table auditCount.condition =
      .ok (auditTable entries hdistinct) := by
  have hknown : isKnown interpretation (auditTable entries hdistinct) "timestamp".toList = true := by
    have hcolumn : (auditTable entries hdistinct).columns.any
        (fun column => sameName column.toList "timestamp".toList) = true := by
      show ["id", "event_type", "user_id", "device_id", "organisation_id", "correlation_id",
        "timestamp", "metadata_json"].any (fun column =>
          sameName column.toList "timestamp".toList) = true
      decide
    rw [isKnown, hcolumn]
    rfl
  have hnames : auditCount.condition.names = ["timestamp".toList] := rfl
  have htable : auditCount.table = "core_audit_events".toList := rfl
  rw [resolve, htable, hfind]
  simp only [hnames, List.find?_cons, hknown, Bool.not_true, List.find?_nil]

theorem cell?_timestamp (entry : AuditEntry) :
    entry.sqlRow.cell? "timestamp".toList = some (.text entry.write.row.timestamp) := by
  have hdiffer : ∀ column ∈ ["id", "event_type", "user_id", "device_id", "organisation_id",
      "correlation_id"], sameName column.toList "timestamp".toList = false := by
    decide
  have hsame : sameName "timestamp".toList "timestamp".toList = true := by
    decide
  simp only [Row.cell?, AuditEntry.sqlRow, List.find?_cons, hsame, hdiffer "id" (by simp),
    hdiffer "event_type" (by simp), hdiffer "user_id" (by simp), hdiffer "device_id" (by simp),
    hdiffer "organisation_id" (by simp), hdiffer "correlation_id" (by simp)]

theorem isEligible_sqlRow {entry : AuditEntry} :
    isEligible interpretation auditEventsPruner.toPruningStatements cutoff auditCount
      entry.sqlRow ↔ entry.write.row.timestamp ≤ cutoff.iso := by
  have hcutoffs : auditEventsPruner.cutoffs = 1 := rfl
  have hparameter : (auditEventsPruner.toPruningStatements.cutoffParams cutoff).getD 0 .null =
      .text cutoff.iso := by
    rw [cutoffParams, hcutoffs]
    rfl
  have hcondition : auditCount.condition = columnAtMost "timestamp" 0 := rfl
  rw [isEligible, hcondition]
  exact holds_columnAtMost (cell?_timestamp entry) hparameter

/-- The pruner takes an event which was recorded later than the cutoff just where it is
misjudged. -/
theorem isMisjudged_iff (write : AuditWrite) :
    write.IsMisjudged cutoff ↔
      cutoff.millis * 1000000 < write.recordedAt ∧ write.row.timestamp ≤ cutoff.iso := by
  cases write with
  | service id now input =>
      have htext : (AuditWrite.service id now input).row.timestamp ≤ cutoff.iso ↔
          isoChars now.millis ≤ isoChars cutoff.millis := by
        change now.iso ≤ cutoff.iso ↔ _
        rw [String.le_iff_toList_le, ClockReading.iso, ClockReading.iso, String.toList_ofList,
          String.toList_ofList]
      have hrecorded : cutoff.millis * 1000000 < (AuditWrite.service id now input).recordedAt ↔
          cutoff.millis < now.millis := by
        simp only [AuditWrite.recordedAt]
        omega
      rw [htext, hrecorded]
      by_cases hlater : cutoff.millis < now.millis
      · rw [and_iff_right hlater, isoChars_le_iff_swap cutoff.inRange now.inRange hlater]
        rfl
      · refine iff_of_false (fun hswap => ?_) fun h => hlater h.1
        have hyears := yearOf_mono (not_lt.mp hlater)
        change YearsSwap _ _ at hswap
        unfold YearsSwap at hswap
        omega
  | native nanos instant eventType principal organisationId correlationId metadata =>
      have htext : (AuditWrite.native nanos instant eventType principal organisationId
          correlationId metadata).row.timestamp ≤ cutoff.iso ↔
            Nat.toDigits 10 (currentEpochSeconds instant) ≤ isoChars cutoff.millis := by
        change Nat.repr (currentEpochSeconds instant) ≤ cutoff.iso ↔ _
        rw [String.le_iff_toList_le, Nat.toList_repr, ClockReading.iso, String.toList_ofList]
      rw [htext, toDigits_le_isoChars_iff]
      rfl

/-! ## Runs -/

/-- Whatever its runs meet, the pruner deletes only events which were recorded not later than the
cutoff. -/
def KeepsRecent (interpretation : Interpretation) (cutoff : ClockReading)
    (entries : List AuditEntry) (database : SqliteText.Database) : Prop :=
  ∀ batchSize moments fuel outcome later,
    auditEventsPruner.prune interpretation batchSize (some cutoff) moments fuel database =
      some (outcome, later) →
    ∀ table, later.find? "core_audit_events".toList = some table →
      ∀ entry ∈ entries, entry.sqlRow ∉ table.rows →
        entry.write.recordedAt ≤ cutoff.millis * 1000000

theorem timestamp_le_of_deleted
    (hfind : database.find? "core_audit_events".toList = some (auditTable entries hdistinct))
    {batchSize : NumberValue} {moments : Nat → PruningMoment} {fuel : Nat}
    {outcome : Except Thrown Nat} {later : SqliteText.Database}
    (hrun : auditEventsPruner.prune interpretation batchSize (some cutoff) moments fuel database =
      some (outcome, later)) {table : SqliteText.Table}
    (htable : later.find? "core_audit_events".toList = some table) {entry : AuditEntry}
    (hentry : entry ∈ entries) (hdeleted : entry.sqlRow ∉ table.rows) :
    entry.write.row.timestamp ≤ cutoff.iso := by
  have hmem : entry.sqlRow ∈ (auditTable entries hdistinct).rows :=
    List.mem_map_of_mem hentry
  unfold PruningStatements.prune at hrun
  cases hvalid : SyncInboxPruner.validatePruningContext batchSize (some cutoff) with
  | error thrown =>
      rw [hvalid] at hrun
      cases hrun
      rw [hfind] at htable
      cases htable
      exact absurd hmem hdeleted
  | ok context =>
      obtain ⟨size, reading⟩ := context
      obtain ⟨hpositive, hreading⟩ := validatePruningContext_ok hvalid
      obtain ⟨size, rfl⟩ := Int.eq_ofNat_of_zero_le hpositive.le
      cases hreading
      rw [hvalid] at hrun
      obtain ⟨last, hlast, hspared⟩ := pruneRounds_spares auditEventsPruner_parses.2
        auditEventsPruner_parses.1 (resolve_auditTable hfind) hrun
      cases htable.symm.trans (find?_of_resolve hlast)
      rw [← @isEligible_sqlRow interpretation]
      by_contra hnot
      exact hdeleted (hspared _ hmem (Bool.eq_false_iff.mpr hnot))

theorem exists_run_deletes
    (hfind : database.find? "core_audit_events".toList = some (auditTable entries hdistinct)) :
    ∃ fuel count later, auditEventsPruner.prune interpretation (.finite (.integer 1)) (some cutoff)
        (fun _ => {}) fuel database = some (.ok count, later) ∧
      ∃ table, later.find? "core_audit_events".toList = some table ∧
        ∀ entry : AuditEntry, entry.write.row.timestamp ≤ cutoff.iso →
          entry.sqlRow ∉ table.rows := by
  have hresolve := @resolve_auditTable interpretation entries hdistinct database hfind
  have hvalid : SyncInboxPruner.validatePruningContext (.finite (.integer 1)) (some cutoff) =
      .ok (1, cutoff) := rfl
  have hprune : ∀ fuel, auditEventsPruner.prune interpretation (.finite (.integer 1)) (some cutoff)
      (fun _ => {}) fuel database = auditEventsPruner.pruneRounds interpretation cutoff 1
        (fun _ => {}) fuel 0 0 database := by
    intro fuel
    rw [PruningStatements.prune, hvalid]
  have hrun := @pruneRounds_eq interpretation _ cutoff 1 (fun _ => {}) database _ _
    auditEventsPruner_parses.2 auditEventsPruner_parses.1 (by decide) (fun _ => ⟨rfl, rfl⟩) _ 0 0
    hresolve (Nat.lt_succ_self _)
  refine ⟨_, _, _, (hprune _).trans hrun, _, Database.find?_update hfind ?_,
    fun entry htimestamp hmem => ?_⟩
  · rfl
  · have hspared := (List.mem_filter.mp hmem).2
    have heligible : isEligible interpretation auditEventsPruner.toPruningStatements cutoff
        ⟨"core_audit_events".toList, columnAtMost "timestamp" 0⟩ entry.sqlRow = true :=
      isEligible_sqlRow.mpr htimestamp
    rw [heligible] at hspared
    exact Bool.false_ne_true hspared

end Pruning

/-- The pruner deletes only events which were recorded not later than its cutoff, just where the
table holds no event which is misjudged. -/
theorem prune_keepsRecent_iff (interpretation : Interpretation) (cutoff : ClockReading)
    (entries : List AuditEntry) (hdistinct : (entries.map AuditEntry.rowid).Nodup)
    (database : SqliteText.Database)
    (hfind : database.find? "core_audit_events".toList = some (auditTable entries hdistinct)) :
    KeepsRecent interpretation cutoff entries database ↔
      ∀ entry ∈ entries, ¬ entry.write.IsMisjudged cutoff := by
  constructor
  · intro hkeeps entry hentry hmisjudged
    obtain ⟨hlater, htimestamp⟩ := (isMisjudged_iff entry.write).mp hmisjudged
    obtain ⟨fuel, count, later, hrun, table, htable, hdeleted⟩ :=
      @exists_run_deletes interpretation cutoff entries hdistinct database hfind
    have hearly := hkeeps _ _ _ _ _ hrun table htable entry hentry (hdeleted entry htimestamp)
    exact absurd hlater hearly.not_gt
  · intro hjudged batchSize moments fuel outcome later hrun table htable entry hentry hdeleted
    have htimestamp := timestamp_le_of_deleted hfind hrun htable hentry hdeleted
    by_contra hlater
    exact hjudged entry hentry ((isMisjudged_iff entry.write).mpr ⟨not_le.mp hlater, htimestamp⟩)

def serviceEntry : AuditEntry where
  rowid := 1
  write := .service "aud_1" ⟨1704067200000, by decide⟩ {
    eventType := "SESSION_ESTABLISHED"
    userId := none
    deviceId := "device"
    organisationId := "org"
    correlationId := "corr"
    metadata := none }

theorem prune_keepsRecent_serviceEntry :
    KeepsRecent fixedInterpretation ⟨1767225600000, by decide⟩ [serviceEntry]
      [auditTable [serviceEntry] (by decide)] :=
  (prune_keepsRecent_iff fixedInterpretation ⟨1767225600000, by decide⟩ [serviceEntry] (by decide)
    [auditTable [serviceEntry] (by decide)] find?_auditTable).mpr (by decide +kernel)

def nativeEntry : AuditEntry where
  rowid := 1
  write := .native 1780272000000000000 1780272000000000000 "ORGANISATION_CREATED"
    ⟨"user", "device", "org", []⟩ "org" "corr" []

/-- At the beginning of 2026 the pruner takes the event of June: `1780272000` is before
`2026-01-01T00:00:00.000Z`. -/
theorem prune_takes_nativeEntry :
    ¬ KeepsRecent fixedInterpretation ⟨1767225600000, by decide⟩ [nativeEntry]
      [auditTable [nativeEntry] (by decide)] := by
  intro hkeeps
  obtain ⟨fuel, count, later, hrun, table, htable, hdeleted⟩ :=
    @exists_run_deletes fixedInterpretation ⟨1767225600000, by decide⟩ _ _ _ find?_auditTable
  have hearly := hkeeps _ _ _ _ _ hrun table htable nativeEntry (List.mem_singleton_self _)
    (hdeleted nativeEntry (by decide +kernel))
  exact absurd hearly (by decide)

end TauriPlatform
