import TauriPlatform.InboxApply
import TauriPlatform.InboxHistory

/-!
# The order of a pass

A pass reads its rows by the bytes of their timestamps, and the protocol orders
timestamps by what they denote.
-/

namespace TauriPlatform

open Async Relational

namespace InboxService

theorem applyRows_passed (outcome : InboxRecord → Except Thrown Unit) (rows : List InboxRow) :
    ∀ (readings : Nat → ClockReading) (counts : ApplyCounts) (history : ApplyHistory),
      ((applyRows inboxExecutor awaitApply readings counts rows).run
        (applyHandler outcome) history).2.passed = history.passed ++ rows := by
  induction rows with
  | nil =>
      intro readings counts history
      simp [applyRows]
  | cons row rest ih =>
      intro readings counts history
      obtain ⟨counts', later, -, hround⟩ :=
        applyRow_run outcome (readings 0) counts row history
      rw [applyRows, Program.run_bind_ok _ hround, ih]
      simp [ApplyHistory.passed]

theorem applyPending_passed (outcome : InboxRecord → Except Thrown Unit)
    (readings : Nat → ClockReading) (table : InboxTable) :
    ((applyPending inboxExecutor awaitApply readings).run (applyHandler outcome)
      (.of table)).2.passed = pendingRows table := by
  have hquery : ((inboxExecutor.query pendingStatement).run (applyHandler outcome)
      (ApplyHistory.of table)) =
        (.ok (pendingRows table), { ApplyHistory.of table with
          held := [] ++ (pendingRows table).map InboxRow.id }) := rfl
  rw [applyPending, Program.run_bind_ok _ hquery, applyRows_passed]
  rfl

/-! ## Two orders -/

/-- `compare` answers that the first timestamp is not after the second. -/
def NotAfter (collation : Collation) (earlier later : String) : Prop :=
  ∃ sign, HybridLogicalClock.compare collation earlier later = .ok sign ∧ sign ≤ 0

def NonDecreasing (collation : Collation) (records : List InboxRecord) : Prop :=
  records.Pairwise fun earlier later =>
    NotAfter collation earlier.logicalTimestamp later.logicalTimestamp

def AcceptedTimestamps (table : InboxTable) : Prop :=
  ∀ row ∈ table, isPendingVerified row →
    ∃ timestamp, HybridLogicalClock.parse row.logicalTimestamp = .ok timestamp

def TextOrderIsCausal (collation : Collation) (table : InboxTable) : Prop :=
  ∀ left ∈ table, ∀ right ∈ table, isPendingVerified left → isPendingVerified right →
    left.logicalTimestamp < right.logicalTimestamp →
    NotAfter collation left.logicalTimestamp right.logicalTimestamp

theorem NotAfter.refl {collation : Collation} {text : String} {timestamp : HlcTimestamp}
    (hparse : HybridLogicalClock.parse text = .ok timestamp) : NotAfter collation text text := by
  refine ⟨HybridLogicalClock.compareParsed collation timestamp timestamp, ?_, ?_⟩
  · rw [HybridLogicalClock.compare, hparse]
    rfl
  · have hswap := HybridLogicalClock.compareParsed_swap collation timestamp timestamp
    omega

instance : Std.Total fun left right : InboxRow =>
    left.logicalTimestamp ≤ right.logicalTimestamp where
  total left right := le_total left.logicalTimestamp right.logicalTimestamp

instance : IsTrans InboxRow fun left right =>
    left.logicalTimestamp ≤ right.logicalTimestamp where
  trans _ _ _ hfirst hsecond := le_trans hfirst hsecond

theorem pendingRows_sorted (table : InboxTable) :
    (pendingRows table).Pairwise fun left right =>
      left.logicalTimestamp ≤ right.logicalTimestamp :=
  List.pairwise_insertionSort _ _

theorem mem_pendingRows {table : InboxTable} {row : InboxRow} :
    row ∈ pendingRows table ↔ row ∈ table ∧ isPendingVerified row := by
  rw [pendingRows, Table.mem_orderBy, Table.mem_select]

/-- A pass applies in causal order exactly when the texts of its rows are in it. -/
theorem appliedInOrder_iff (collation : Collation) (table : InboxTable)
    (readings : Nat → ClockReading) (outcome : InboxRecord → Except Thrown Unit)
    (haccepted : AcceptedTimestamps table) :
    NonDecreasing collation
        ((applyPending inboxExecutor awaitApply readings).run (applyHandler outcome)
          (.of table)).2.passed ↔
      TextOrderIsCausal collation table := by
  rw [applyPending_passed]
  have hsorted := pendingRows_sorted table
  constructor
  · intro hordered left hleft right hright hpendingLeft hpendingRight hless
    have hleft' : left ∈ pendingRows table := mem_pendingRows.mpr ⟨hleft, hpendingLeft⟩
    have hright' : right ∈ pendingRows table := mem_pendingRows.mpr ⟨hright, hpendingRight⟩
    obtain ⟨i, hi, rfl⟩ := List.getElem_of_mem hleft'
    obtain ⟨j, hj, rfl⟩ := List.getElem_of_mem hright'
    rcases lt_trichotomy i j with hij | hij | hij
    · exact List.pairwise_iff_getElem.mp hordered i j hi hj hij
    · subst hij
      exact absurd hless (lt_irrefl _)
    · have hback := List.pairwise_iff_getElem.mp hsorted j i hj hi hij
      exact absurd hless (not_lt.mpr hback)
  · intro hcausal
    apply (List.Pairwise.and_mem.mp hsorted).imp
    rintro first second ⟨hfirst, hsecond, hle⟩
    rw [mem_pendingRows] at hfirst hsecond
    cases hle.lt_or_eq with
    | inl hless => exact hcausal first hfirst.1 second hsecond.1 hfirst.2 hsecond.2 hless
    | inr hequal =>
        obtain ⟨timestamp, hparse⟩ := haccepted first hfirst.1 hfirst.2
        rw [← hequal]
        exact NotAfter.refl hparse

/-! ## Two spellings -/

def waitingRow (id logicalTimestamp : String) : InboxRow where
  id := id
  createdAt := "2026-01-01T00:00:00.000Z"
  envelopeId := id
  organisationId := "org"
  fromDeviceId := "device"
  syncGroupId := "group"
  featureId := "notes"
  entityType := "note"
  entityId := "note-1"
  operation := .update
  payloadJson := "null"
  logicalTimestamp := logicalTimestamp
  schemaVersion := 1
  protocolVersion := 1
  signerPublicKey := "key"
  signature := "signature"
  verificationStatus := .verified
  applyStatus := .pending
  appliedAt := none
  conflictId := none

def waitingTable (first second : String) : InboxTable where
  rows := [waitingRow "op-1" first, waitingRow "op-2" second]
  unique := by
    intro index hindex
    simp only [inboxIndexes, List.mem_cons, List.not_mem_nil, or_false] at hindex
    cases hindex with
    | inl hfirst => simp [hfirst, waitingRow]
    | inr hsecond => simp [hsecond, waitingRow]

theorem acceptedTimestamps_waitingTable {first second : String} (left right : HlcTimestamp)
    (hfirst : HybridLogicalClock.parse first = .ok left)
    (hsecond : HybridLogicalClock.parse second = .ok right) :
    AcceptedTimestamps (waitingTable first second) := by
  intro row hrow _
  cases List.mem_pair.mp hrow with
  | inl h => exact ⟨left, by rw [h]; exact hfirst⟩
  | inr h => exact ⟨right, by rw [h]; exact hsecond⟩

theorem appliedInOrder_of_widths :
    AcceptedTimestamps (waitingTable "09_0_n" "10_0_n") ∧
      (NonDecreasing .codePoint
          ((applyPending inboxExecutor awaitApply fun _ => ⟨0, by decide⟩).run
            (applyHandler fun _ => .ok ()) (.of (waitingTable "09_0_n" "10_0_n"))).2.passed ↔
        TextOrderIsCausal .codePoint (waitingTable "09_0_n" "10_0_n")) := by
  have haccepted : AcceptedTimestamps (waitingTable "09_0_n" "10_0_n") :=
    acceptedTimestamps_waitingTable ⟨9, 0, "n"⟩ ⟨16, 0, "n"⟩
      (by decide) (by decide)
  exact ⟨haccepted, appliedInOrder_iff .codePoint (waitingTable "09_0_n" "10_0_n")
    (fun _ => ⟨0, by decide⟩) (fun _ => .ok ()) haccepted⟩

/-- The stamp of the time 16 is applied before that of the time 9. -/
theorem applied_out_of_order :
    ¬ ∀ (collation : Collation) (table : InboxTable) (readings : Nat → ClockReading)
      (outcome : InboxRecord → Except Thrown Unit), AcceptedTimestamps table →
      NonDecreasing collation
        ((applyPending inboxExecutor awaitApply readings).run (applyHandler outcome)
          (.of table)).2.passed := by
  intro hordered
  have haccepted : AcceptedTimestamps (waitingTable "9_0_n" "10_0_n") :=
    acceptedTimestamps_waitingTable ⟨9, 0, "n"⟩ ⟨16, 0, "n"⟩
      (by decide) (by decide)
  have hpassed := hordered .codePoint (waitingTable "9_0_n" "10_0_n")
    (fun _ => ⟨0, by decide⟩) (fun _ => .ok ()) haccepted
  have hrows : pendingRows (waitingTable "9_0_n" "10_0_n") =
      [waitingRow "op-2" "10_0_n", waitingRow "op-1" "9_0_n"] := by decide
  rw [applyPending_passed, hrows] at hpassed
  obtain ⟨sign, hsign, hle⟩ := (List.pairwise_cons.mp hpassed).1 _ List.mem_cons_self
  have hcompare : HybridLogicalClock.compare .codePoint "10_0_n" "9_0_n" = .ok 1 := by decide
  have hone : (1 : Int) = sign := Except.ok.inj (hcompare.symm.trans hsign)
  omega

end InboxService
end TauriPlatform
