import TauriPlatform.HlcClock
import TauriPlatform.TimestampOrder

/-!
# The order of timestamp texts

As long as the time has twelve hexadecimal digits and the counter four, the fields of a timestamp
stand in line, and the texts of one node are ordered as the timestamps are.
-/

namespace TauriPlatform

namespace HybridLogicalClock

/-! ## Fields in line -/

theorem fixedDigits_zero (radix width : Nat) :
    fixedDigits radix width 0 = List.replicate width '0' := by
  induction width with
  | zero => rfl
  | succ width ih =>
      rw [fixedDigits, Nat.zero_div, ih, Nat.zero_mod, List.replicate_succ']
      rfl

theorem padStart_hexText {width value : Nat} (hwidth : 0 < width) (hfits : value < 16 ^ width) :
    padStart width (hexText value) = fixedDigits 16 width value := by
  have hdigits : hexText value = Nat.toDigits 16 value := by simp [hexText]
  have hlength : (Nat.toDigits 16 value).length ≤ width :=
    (Nat.length_toDigits_le_iff (by decide) hwidth).mpr hfits
  have hquotient : value / 16 ^ (Nat.toDigits 16 value).length = 0 :=
    Nat.div_eq_of_lt (lt_pow_length_toDigits (by decide) value)
  have hsum : width = width - (Nat.toDigits 16 value).length + (Nat.toDigits 16 value).length := by
    omega
  rw [hdigits, padStart]
  conv_rhs => rw [hsum, fixedDigits_add, hquotient, fixedDigits_zero]
  rw [← toDigits_eq_fixedDigits (by decide)]

def stampHead (physical counter : Nat) : List Char :=
  fixedDigits 16 12 physical ++ '_' :: (fixedDigits 16 4 counter ++ ['_'])

variable {physical counter : Nat}

theorem format_toList (hphysical : physical < 16 ^ 12) (hcounter : counter < 16 ^ 4)
    (nodeId : String) :
    (format physical counter nodeId).toList = stampHead physical counter ++ nodeId.toList := by
  rw [format, String.toList_ofList, padStart_hexText (by decide) hphysical,
    padStart_hexText (by decide) hcounter, stampHead]
  simp

theorem stampHead_lt {laterPhysical laterCounter : Nat} (hphysical : laterPhysical < 16 ^ 12)
    (hcounter : laterCounter < 16 ^ 4)
    (hbefore : physical < laterPhysical ∨ physical = laterPhysical ∧ counter < laterCounter) :
    stampHead physical counter < stampHead laterPhysical laterCounter := by
  apply radixField_lt (by decide) hphysical
  rcases hbefore with hlt | ⟨hsame, hlt⟩
  · exact .inl hlt
  · exact .inr ⟨hsame, List.cons_lt_cons_self.mpr
      (radixField_lt (by decide) hcounter (.inl hlt))⟩

/-! ## Code units -/

def units (text : String) : List Nat :=
  text.toList.flatMap utf16Units

theorem map_toNat_lt {left right : List Char} (hlt : left < right) :
    left.map Char.toNat < right.map Char.toNat := by
  induction left generalizing right with
  | nil =>
      cases right with
      | nil => exact absurd hlt (lt_irrefl _)
      | cons second right => exact List.nil_lt_cons _ _
  | cons first left ih =>
      cases right with
      | nil => exact absurd hlt (List.not_lt_nil _)
      | cons second right =>
          rw [List.map_cons, List.map_cons, List.cons_lt_cons_iff]
          rcases List.cons_lt_cons_iff.mp hlt with hfirst | ⟨hsame, hrest⟩
          · exact .inl hfirst
          · exact .inr ⟨congrArg Char.toNat hsame, ih hrest⟩

theorem flatMap_units_of_ascii {chars : List Char} (hascii : ∀ c ∈ chars, c.toNat < 128) :
    chars.flatMap utf16Units = chars.map Char.toNat := by
  induction chars with
  | nil => rfl
  | cons c rest ih =>
      have hbasic := hascii c List.mem_cons_self
      have hunits : utf16Units c = [c.toNat] := if_pos (by omega)
      rw [List.flatMap_cons, hunits, ih fun d hd => hascii d (List.mem_cons_of_mem _ hd)]
      rfl

theorem fixedDigits_ascii {width value : Nat} {c : Char} (hc : c ∈ fixedDigits 16 width value) :
    c.toNat < 128 := by
  have hdigit : ∀ digit < 16, (Nat.digitChar digit).toNat < 128 := by decide
  induction width generalizing value with
  | zero => cases hc
  | succ width ih =>
      rw [fixedDigits, List.mem_append, List.mem_singleton] at hc
      rcases hc with hfront | hlast
      · exact ih hfront
      · rw [hlast]
        exact hdigit _ (Nat.mod_lt _ (by decide))

theorem stampHead_ascii {c : Char} (hc : c ∈ stampHead physical counter) :
    c.toNat < 128 := by
  simp only [stampHead, List.mem_append, List.mem_cons, List.not_mem_nil, or_false] at hc
  rcases hc with hphysical | rfl | hcounter | rfl
  · exact fixedDigits_ascii hphysical
  · decide
  · exact fixedDigits_ascii hcounter
  · decide

theorem length_stampHead (physical counter : Nat) : (stampHead physical counter).length = 18 := by
  simp [stampHead]

theorem units_format (hphysical : physical < 16 ^ 12) (hcounter : counter < 16 ^ 4)
    (nodeId : String) :
    units (format physical counter nodeId) =
      (stampHead physical counter).map Char.toNat ++ units nodeId := by
  rw [units, format_toList hphysical hcounter, List.flatMap_append,
    flatMap_units_of_ascii fun c hc => stampHead_ascii hc, units]

/-! ## The order of the texts -/

section Order

variable {collation : Collation} {nodeId : String}
  {physical counter laterPhysical laterCounter : Nat}

theorem compare_format (hnodeId : IsNodeText nodeId.toList) (hphysical : physical < 16 ^ 12)
    (hcounter : counter < 16 ^ 4) (hlaterPhysical : laterPhysical < 16 ^ 12)
    (hlaterCounter : laterCounter < 16 ^ 4) :
    compare collation (format physical counter nodeId)
        (format laterPhysical laterCounter nodeId) =
      .ok (compareParsed collation ⟨physical, counter, nodeId⟩
        ⟨laterPhysical, laterCounter, nodeId⟩) := by
  have hmax : 16 ^ 12 ≤ maxSafeInteger := by decide
  rw [compare, parse_of_format (by omega) (by omega) hnodeId,
    parse_of_format (by omega) (by omega) hnodeId]
  rfl

theorem units_lt_of_before (hphysical : physical < 16 ^ 12) (hcounter : counter < 16 ^ 4)
    (hlaterPhysical : laterPhysical < 16 ^ 12) (hlaterCounter : laterCounter < 16 ^ 4)
    (hbefore : physical < laterPhysical ∨ physical = laterPhysical ∧ counter < laterCounter) :
    units (format physical counter nodeId) < units (format laterPhysical laterCounter nodeId) := by
  rw [units_format hphysical hcounter, units_format hlaterPhysical hlaterCounter]
  refine append_lt_append_of_lt ?_ (map_toNat_lt (stampHead_lt hlaterPhysical hlaterCounter
    hbefore)) _ _
  simp only [List.length_map, length_stampHead]

theorem compareParsed_neg_of_lt
    (hbefore : physical < laterPhysical ∨ physical = laterPhysical ∧ counter < laterCounter) :
    compareParsed collation ⟨physical, counter, nodeId⟩ ⟨laterPhysical, laterCounter, nodeId⟩ <
      0 := by
  apply compareParsed_neg_of_before
  simp only [Before]
  omega

theorem compareParsed_self (stamp : HlcTimestamp) : compareParsed collation stamp stamp = 0 := by
  have hswap := compareParsed_swap collation stamp stamp
  omega

end Order

/-- What `format` writes is read back, and the texts of one node are ordered as their timestamps,
as long as the fields do not outgrow their widths. -/
theorem format_faithful (collation : Collation) (nodeId : String)
    (hnodeId : IsNodeText nodeId.toList) :
    (∀ physical counter : Nat, physical ≤ maxSafeInteger → counter ≤ maxSafeInteger →
      parse (format physical counter nodeId) =
        .ok { physicalTime := physical, counter := counter, nodeId := nodeId }) ∧
    ∀ physical counter otherPhysical otherCounter : Nat, physical < 16 ^ 12 → counter < 16 ^ 4 →
      otherPhysical < 16 ^ 12 → otherCounter < 16 ^ 4 →
      ∃ order, compare collation (format physical counter nodeId)
          (format otherPhysical otherCounter nodeId) = .ok order ∧
        (order < 0 ↔ units (format physical counter nodeId) <
          units (format otherPhysical otherCounter nodeId)) ∧
        (0 < order ↔ units (format otherPhysical otherCounter nodeId) <
          units (format physical counter nodeId)) := by
  refine ⟨fun physical counter hphysical hcounter => parse_of_format hphysical hcounter hnodeId, ?_⟩
  intro physical counter otherPhysical otherCounter hphysical hcounter hotherPhysical hotherCounter
  refine ⟨_, compare_format hnodeId hphysical hcounter hotherPhysical hotherCounter, ?_⟩
  have hcases : (physical < otherPhysical ∨ physical = otherPhysical ∧ counter < otherCounter) ∨
      (physical = otherPhysical ∧ counter = otherCounter) ∨
      (otherPhysical < physical ∨ otherPhysical = physical ∧ otherCounter < counter) := by
    omega
  rcases hcases with hbefore | ⟨rfl, rfl⟩ | hafter
  · have hless := @units_lt_of_before nodeId _ _ _ _ hphysical hcounter hotherPhysical
      hotherCounter hbefore
    have horder := @compareParsed_neg_of_lt collation nodeId _ _ _ _ hbefore
    exact ⟨iff_of_true horder hless, iff_of_false horder.not_gt hless.not_gt⟩
  · rw [compareParsed_self]
    exact ⟨iff_of_false (lt_irrefl _) (lt_irrefl _), iff_of_false (lt_irrefl _) (lt_irrefl _)⟩
  · have hless := @units_lt_of_before nodeId _ _ _ _ hotherPhysical hotherCounter hphysical
      hcounter hafter
    have horder := (compareParsed_swap collation _ _).mpr
      (@compareParsed_neg_of_lt collation nodeId _ _ _ _ hafter)
    exact ⟨iff_of_false horder.not_gt hless.not_gt, iff_of_true horder hless⟩

theorem format_faithful_separator :
    parse (format 5 7 "0a_1f") = .ok { physicalTime := 5, counter := 7, nodeId := "0a_1f" } :=
  (format_faithful Collation.codePoint "0a_1f" ⟨by decide, by simp [isLineTerminator]⟩).1 5 7
    (by decide) (by decide)

end HybridLogicalClock

end TauriPlatform
