import TauriPlatform.HybridLogicalClock

/-!
# The text of a timestamp

A canonical timestamp is two hexadecimal fields and a node id, each behind an
underscore.  `format` writes one and `parse` reads it back.
-/

namespace TauriPlatform

variable {rest : List Char}

theorem takeChar_eq_some_iff {expected : Char} {chars : List Char} :
    takeChar expected chars = some rest ↔ chars = expected :: rest := by
  cases chars with
  | nil => simp [takeChar]
  | cons c chars =>
      by_cases hc : c = expected
      · simp [takeChar, hc]
      · simp [takeChar, hc]

theorem takeWhile_of_stop {p : Char → Bool} {front : List Char} {stop : Char}
    (hfront : ∀ c ∈ front, p c) (hstop : p stop = false) :
    (front ++ stop :: rest).takeWhile p = front := by
  rw [List.takeWhile_append_of_pos hfront]
  simp [hstop]

theorem dropWhile_of_stop {p : Char → Bool} {front : List Char} {stop : Char}
    (hfront : ∀ c ∈ front, p c) (hstop : p stop = false) :
    (front ++ stop :: rest).dropWhile p = stop :: rest := by
  rw [List.dropWhile_append_of_pos hfront]
  simp [hstop]

namespace HybridLogicalClock

/-! ## Fields -/

/-- `[0-9a-f]+`. -/
structure IsHexField (digits : List Char) : Prop where
  nonempty : digits ≠ []
  lower : ∀ c ∈ digits, isLowerHexDigit c

/-- `.+`. -/
structure IsNodeText (chars : List Char) : Prop where
  nonempty : chars ≠ []
  oneLine : ∀ c ∈ chars, isLineTerminator c = false

variable {chars : List Char}

theorem parseNodeId_eq_some_iff {nodeId : String} :
    parseNodeId chars = some nodeId ↔ IsNodeText chars ∧ nodeId = String.ofList chars := by
  unfold parseNodeId
  split_ifs with hnode
  · rw [Option.some.injEq]
    constructor
    · rintro rfl
      refine ⟨⟨hnode.1, ?_⟩, rfl⟩
      intro c hc
      simpa using List.all_eq_true.mp hnode.2 c hc
    · rintro ⟨-, rfl⟩
      rfl
  · simp only [false_iff, not_and]
    intro htext
    apply absurd _ hnode
    refine ⟨htext.nonempty, ?_⟩
    rw [List.all_eq_true]
    intro c hc
    rw [htext.oneLine c hc]
    rfl

theorem underscore_not_hex : isLowerHexDigit '_' = false := by decide

variable {timestamp : HlcTimestamp}

theorem parseCanonical_eq_some_iff :
    parseCanonical chars = some timestamp ↔
      ∃ physical counter node, chars = physical ++ '_' :: (counter ++ '_' :: node) ∧
        IsHexField physical ∧ IsHexField counter ∧ IsNodeText node ∧
        parseDigits 16 physical ≤ maxSafeInteger ∧
        parseDigits 16 counter ≤ maxSafeInteger ∧
        timestamp = {
          physicalTime := parseDigits 16 physical
          counter := parseDigits 16 counter
          nodeId := String.ofList node } := by
  constructor
  · intro hparse
    unfold parseCanonical at hparse
    cases hfirst : takeChar '_' (chars.dropWhile isLowerHexDigit) with
    | none => simp [hfirst] at hparse
    | some rest =>
        cases hsecond : takeChar '_' (rest.dropWhile isLowerHexDigit) with
        | none => simp [hfirst, hsecond] at hparse
        | some node =>
            cases hnode : parseNodeId node with
            | none => simp [hfirst, hsecond, hnode] at hparse
            | some nodeId =>
                simp only [hfirst, hsecond, hnode, Option.bind_eq_bind,
                  Option.bind_some] at hparse
                split_ifs at hparse with hfields
                obtain ⟨hphysical, hcounter, htime, hcount⟩ := hfields
                obtain ⟨htext, rfl⟩ := parseNodeId_eq_some_iff.mp hnode
                rw [takeChar_eq_some_iff] at hfirst hsecond
                refine ⟨_, _, node, ?_, ⟨hphysical, ?_⟩, ⟨hcounter, ?_⟩, htext, htime,
                  hcount, (Option.some.inj hparse).symm⟩
                · rw [← hsecond, List.takeWhile_append_dropWhile, ← hfirst,
                    List.takeWhile_append_dropWhile]
                · intro c hc
                  exact List.all_eq_true.mp List.all_takeWhile c hc
                · intro c hc
                  exact List.all_eq_true.mp List.all_takeWhile c hc
  · rintro ⟨physical, counter, node, rfl, hphysical, hcounter, hnode, htime, hcount, rfl⟩
    have hnodeId : parseNodeId node = some (String.ofList node) :=
      parseNodeId_eq_some_iff.mpr ⟨hnode, rfl⟩
    simp only [parseCanonical, takeWhile_of_stop hphysical.lower underscore_not_hex,
      dropWhile_of_stop hphysical.lower underscore_not_hex, takeChar, if_true,
      Option.bind_eq_bind, Option.bind_some,
      takeWhile_of_stop hcounter.lower underscore_not_hex,
      dropWhile_of_stop hcounter.lower underscore_not_hex, hnodeId]
    simp [hphysical.nonempty, hcounter.nonempty, htime, hcount]

theorem parseLegacy_fields (hparse : parseLegacy chars = some timestamp) :
    isoInstant? (String.ofList (chars.take 24)) = some timestamp.physicalTime ∧
      timestamp.physicalTime.natAbs ≤ maxSafeInteger ∧
      timestamp.counter ≤ maxSafeInteger := by
  unfold parseLegacy at hparse
  cases hinstant : isoInstant? (String.ofList (chars.take 24)) with
  | none => simp [hinstant] at hparse
  | some instant =>
      cases hbehind : chars.drop 24 with
      | nil => simp [hinstant, hbehind] at hparse
      | cons separator rest =>
          cases hrest : takeChar separator (rest.dropWhile isDecimalDigit) with
          | none => simp [hinstant, hbehind, hrest] at hparse
          | some node =>
              cases hnode : parseNodeId node with
              | none => simp [hinstant, hbehind, hrest, hnode] at hparse
              | some nodeId =>
                  simp only [hinstant, hbehind, hrest, hnode, Option.bind_eq_bind,
                    Option.bind_some] at hparse
                  split_ifs at hparse with hfields
                  cases hparse
                  exact ⟨rfl, hfields.2.2.1, hfields.2.2.2⟩

theorem parse_safe {text : String} (hparse : parse text = .ok timestamp) :
    timestamp.physicalTime ≤ maxSafeInteger ∧ timestamp.counter ≤ maxSafeInteger := by
  unfold parse at hparse
  cases hcanonical : parseCanonical text.toList with
  | some canonical =>
      simp only [hcanonical, Except.ok.injEq] at hparse
      subst hparse
      obtain ⟨physical, counter, node, -, -, -, -, htime, hcount, rfl⟩ :=
        parseCanonical_eq_some_iff.mp hcanonical
      exact ⟨Int.ofNat_le.mpr htime, hcount⟩
  | none =>
      cases hlegacy : parseLegacy text.toList with
      | none => simp [hcanonical, hlegacy] at hparse
      | some legacy =>
          simp only [hcanonical, hlegacy, Except.ok.injEq] at hparse
          subst hparse
          obtain ⟨-, htime, hcount⟩ := parseLegacy_fields hlegacy
          exact ⟨by omega, hcount⟩

theorem parse_of_canonical {text : String}
    (hcanonical : parseCanonical text.toList = some timestamp) :
    parse text = .ok timestamp := by
  rw [parse, hcanonical]

/-! ## Writing -/

/-- `value.toString(16)`. -/
def hexText (value : Int) : List Char :=
  (if value < 0 then ['-'] else []) ++ Nat.toDigits 16 value.natAbs

def padStart (width : Nat) (chars : List Char) : List Char :=
  List.replicate (width - chars.length) '0' ++ chars

def format (physical : Int) (counter : Nat) (nodeId : String) : String :=
  String.ofList (padStart 12 (hexText physical) ++
    '_' :: (padStart 4 (hexText counter) ++ '_' :: nodeId.toList))

theorem isLowerHexDigit_digitChar : ∀ digit < 16, isLowerHexDigit (Nat.digitChar digit) := by
  decide

theorem digitValue_digitChar : ∀ digit < 16, digitValue (Nat.digitChar digit) = digit := by
  decide

theorem isLowerHexDigit_of_mem_toDigits (value : Nat) :
    ∀ c ∈ Nat.toDigits 16 value, isLowerHexDigit c := by
  induction value using Nat.strong_induction_on with
  | _ value ih =>
      by_cases hsmall : value < 16
      · rw [Nat.toDigits_of_lt_base hsmall]
        intro c hc
        rw [List.mem_singleton.mp hc]
        exact isLowerHexDigit_digitChar value hsmall
      · rw [Nat.toDigits_of_base_le (by decide) (by omega)]
        intro c hc
        rcases List.mem_append.mp hc with hfront | hlast
        · exact ih (value / 16) (by omega) c hfront
        · rw [List.mem_singleton.mp hlast]
          exact isLowerHexDigit_digitChar _ (Nat.mod_lt _ (by decide))

theorem parseDigits_append_singleton (radix : Nat) (digits : List Char) (c : Char) :
    parseDigits radix (digits ++ [c]) = parseDigits radix digits * radix + digitValue c := by
  rw [parseDigits, List.foldl_append]
  rfl

theorem parseDigits_toDigits_hex (value : Nat) :
    parseDigits 16 (Nat.toDigits 16 value) = value := by
  induction value using Nat.strong_induction_on with
  | _ value ih =>
      by_cases hsmall : value < 16
      · rw [Nat.toDigits_of_lt_base hsmall]
        have hdigit := digitValue_digitChar value hsmall
        simp [parseDigits, hdigit]
      · have hdigit := digitValue_digitChar (value % 16) (Nat.mod_lt _ (by decide))
        rw [Nat.toDigits_of_base_le (by decide) (by omega), parseDigits_append_singleton,
          ih (value / 16) (by omega), hdigit]
        omega

theorem parseDigits_padStart (radix width : Nat) (chars : List Char) :
    parseDigits radix (padStart width chars) = parseDigits radix chars := by
  have hzeros : ∀ count, parseDigits radix (List.replicate count '0') = 0 := by
    intro count
    induction count with
    | zero => rfl
    | succ count ih =>
        have hzero : digitValue '0' = 0 := by decide
        rw [List.replicate_succ', parseDigits_append_singleton, ih, hzero]
        simp
  rw [padStart, parseDigits, List.foldl_append]
  change chars.foldl _ (parseDigits radix (List.replicate _ '0')) = _
  rw [hzeros]
  rfl

theorem isHexField_padStart (width value : Nat) :
    IsHexField (padStart width (hexText value)) := by
  have hdigits : hexText value = Nat.toDigits 16 value := by simp [hexText]
  rw [hdigits]
  constructor
  · simp [padStart, Nat.toDigits_ne_nil]
  · intro c hc
    rcases List.mem_append.mp hc with hzero | hdigit
    · rw [List.eq_of_mem_replicate hzero]
      decide
    · exact isLowerHexDigit_of_mem_toDigits value c hdigit

/-- What `format` writes is read back. -/
theorem parse_of_format {physical counter : Nat} {nodeId : String}
    (hphysical : physical ≤ maxSafeInteger) (hcounter : counter ≤ maxSafeInteger)
    (hnodeId : IsNodeText nodeId.toList) :
    parse (format physical counter nodeId) =
      .ok { physicalTime := physical, counter := counter, nodeId := nodeId } := by
  have hvalue : ∀ width value : Nat,
      parseDigits 16 (padStart width (hexText value)) = value := by
    intro width value
    have hdigits : hexText value = Nat.toDigits 16 value := by simp [hexText]
    rw [parseDigits_padStart, hdigits, parseDigits_toDigits_hex]
  apply parse_of_canonical
  rw [format, String.toList_ofList, parseCanonical_eq_some_iff]
  refine ⟨_, _, _, rfl, isHexField_padStart 12 physical, isHexField_padStart 4 counter,
    hnodeId, ?_, ?_, ?_⟩
  · rwa [hvalue]
  · rwa [hvalue]
  · rw [hvalue, hvalue, String.ofList_toList]

end HybridLogicalClock
end TauriPlatform
