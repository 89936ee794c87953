import TauriPlatform.IsoTimestamp
import Mathlib.Data.String.Basic

/-!
# Hybrid logical clock timestamps

The text format of `HybridLogicalClock` and its order.  The last component of
the order is `String.prototype.localeCompare`, whose answers depend on the
locale data of the runtime; the standard only promises a total order, which is
what the structure `Collation` carries.
-/

namespace TauriPlatform

/-- What the language standard promises about `localeCompare`. -/
structure Collation where
  localeCompare : String → String → Int
  swap : ∀ left right, 0 < localeCompare left right ↔ localeCompare right left < 0
  trans : ∀ left middle right,
    localeCompare left middle ≤ 0 → localeCompare middle right ≤ 0 →
      localeCompare left right ≤ 0

def threeWay {α : Type*} [LinearOrder α] (left right : α) : Int :=
  if left < right then -1 else if right < left then 1 else 0

theorem threeWay_nonpos_iff {α : Type*} [LinearOrder α] {left right : α} :
    threeWay left right ≤ 0 ↔ left ≤ right := by
  unfold threeWay
  split_ifs with hlt hgt
  · exact ⟨fun _ => hlt.le, fun _ => by decide⟩
  · exact ⟨fun h => by omega, fun h => absurd h (not_le.mpr hgt)⟩
  · exact ⟨fun _ => not_lt.mp hgt, fun _ => le_rfl⟩

theorem threeWay_neg_iff {α : Type*} [LinearOrder α] {left right : α} :
    threeWay left right < 0 ↔ left < right := by
  unfold threeWay
  split_ifs with hlt hgt
  · exact ⟨fun _ => hlt, fun _ => by decide⟩
  · exact ⟨fun h => by omega, fun h => absurd h hlt⟩
  · exact ⟨fun h => by omega, fun h => absurd h hlt⟩

def Collation.codePoint : Collation where
  localeCompare := threeWay
  swap left right := by
    rw [threeWay_neg_iff, ← not_le, threeWay_nonpos_iff, not_le]
  trans left middle right hfirst hsecond := by
    rw [threeWay_nonpos_iff] at hfirst hsecond ⊢
    exact hfirst.trans hsecond

structure HlcTimestamp where
  physicalTime : Int
  counter : Nat
  nodeId : String
  deriving DecidableEq

namespace HybridLogicalClock

/-- The node id after its separator: `(.+)$`. -/
def parseNodeId (chars : List Char) : Option String :=
  if chars ≠ [] ∧ chars.all (fun c => !isLineTerminator c) then
    some (String.ofList chars)
  else none

/-- `/^([0-9a-f]+)_([0-9a-f]+)_(.+)$/` with the safe-integer check. -/
def parseCanonical (chars : List Char) : Option HlcTimestamp := do
  let physical := chars.takeWhile isLowerHexDigit
  let rest ← takeChar '_' (chars.dropWhile isLowerHexDigit)
  let counter := rest.takeWhile isLowerHexDigit
  let rest ← takeChar '_' (rest.dropWhile isLowerHexDigit)
  let nodeId ← parseNodeId rest
  let physicalTime := parseDigits 16 physical
  let count := parseDigits 16 counter
  if physical ≠ [] ∧ counter ≠ [] ∧
      physicalTime ≤ maxSafeInteger ∧ count ≤ maxSafeInteger then
    some { physicalTime := physicalTime, counter := count, nodeId := nodeId }
  else none

/-- The legacy form: an ISO instant, then the counter in decimal between two
equal separators, `:` or `|`. -/
def parseLegacy (chars : List Char) : Option HlcTimestamp := do
  let instant ← isoInstant? (String.ofList (chars.take 24))
  match chars.drop 24 with
  | separator :: rest =>
      let counter := rest.takeWhile isDecimalDigit
      let rest ← takeChar separator (rest.dropWhile isDecimalDigit)
      let nodeId ← parseNodeId rest
      let count := parseDigits 10 counter
      if (separator = ':' ∨ separator = '|') ∧ counter ≠ [] ∧
          instant.natAbs ≤ maxSafeInteger ∧ count ≤ maxSafeInteger then
        some { physicalTime := instant, counter := count, nodeId := nodeId }
      else none
  | [] => none

/-- `HybridLogicalClock.parse`; the failure is its `RangeError`. -/
def parse (timestampStr : String) : Except String HlcTimestamp :=
  match parseCanonical timestampStr.toList with
  | some timestamp => .ok timestamp
  | none =>
      match parseLegacy timestampStr.toList with
      | some timestamp => .ok timestamp
      | none => .error "Invalid HLC timestamp"

/-- `HybridLogicalClock.compare` on parsed timestamps. -/
def compareParsed (collation : Collation) (left right : HlcTimestamp) : Int :=
  if left.physicalTime ≠ right.physicalTime then
    if left.physicalTime < right.physicalTime then -1 else 1
  else if left.counter ≠ right.counter then
    if left.counter < right.counter then -1 else 1
  else collation.localeCompare left.nodeId right.nodeId

def compare (collation : Collation) (left right : String) : Except String Int := do
  let parsedLeft ← parse left
  let parsedRight ← parse right
  return compareParsed collation parsedLeft parsedRight

/-- The two timestamps tie: `compare` returns zero on them. -/
def Tie (collation : Collation) (left right : HlcTimestamp) : Prop :=
  left.physicalTime = right.physicalTime ∧ left.counter = right.counter ∧
    collation.localeCompare left.nodeId right.nodeId = 0

theorem compareParsed_eq_zero_iff (collation : Collation)
    (left right : HlcTimestamp) :
    compareParsed collation left right = 0 ↔ Tie collation left right := by
  unfold compareParsed Tie
  by_cases htime : left.physicalTime = right.physicalTime
  · by_cases hcounter : left.counter = right.counter
    · simp [htime, hcounter]
    · simp only [htime, hcounter, ne_eq, not_true_eq_false, if_false,
        not_false_eq_true, if_true, false_and, and_false, iff_false]
      split_ifs <;> decide
  · simp only [htime, ne_eq, not_false_eq_true, if_true, false_and, iff_false]
    split_ifs <;> decide

/-- `compare` answers oppositely when its arguments are exchanged. -/
theorem compareParsed_swap (collation : Collation) (left right : HlcTimestamp) :
    0 < compareParsed collation left right ↔
      compareParsed collation right left < 0 := by
  unfold compareParsed
  by_cases htime : left.physicalTime = right.physicalTime
  · by_cases hcounter : left.counter = right.counter
    · simpa [htime, hcounter] using collation.swap left.nodeId right.nodeId
    · simp only [htime, hcounter, Ne.symm hcounter, ne_eq, not_true_eq_false,
        if_false, not_false_eq_true, if_true]
      rcases lt_or_gt_of_ne hcounter with hlt | hlt
      · rw [if_pos hlt, if_neg hlt.not_gt]
        decide
      · rw [if_neg hlt.not_gt, if_pos hlt]
        decide
  · simp only [htime, Ne.symm htime, ne_eq, not_false_eq_true, if_true]
    rcases lt_or_gt_of_ne htime with hlt | hlt
    · rw [if_pos hlt, if_neg hlt.not_gt]
      decide
    · rw [if_neg hlt.not_gt, if_pos hlt]
      decide

end HybridLogicalClock
end TauriPlatform
