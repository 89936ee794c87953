import TauriPlatform.HlcText
import TauriPlatform.JsonParse

/-!
# The native hybrid logical clock

`HybridLogicalClock::parse` and `compare` of the `crypto-core` crate, beside the
TypeScript functions of the same names.
-/

namespace TauriPlatform

/-- The fields are a `u64`, a `u32` and a string. -/
structure NativeHlcTimestamp where
  physicalTime : Nat
  counter : Nat
  nodeId : String
  deriving DecidableEq

namespace NativeHlc

/-! ## Reading -/

def hexDigitsValue? (digits : List Char) : Option Nat :=
  digits.foldlM (fun value c => (hexDigitValue? c).map (value * 16 + ·)) 0

def withoutPlus : List Char → List Char
  | '+' :: digits => digits
  | digits => digits

/-- `from_str_radix(src, 16)` of an unsigned type with the given number of bits. -/
def fromStrRadix16 (bits : Nat) (chars : List Char) : Option Nat :=
  if withoutPlus chars = [] then none
  else (hexDigitsValue? (withoutPlus chars)).filter (· < 2 ^ bits)

def parse (timestampStr : String) : Option NativeHlcTimestamp :=
  match timestampStr.toList.splitOn '_' with
  | physical :: counter :: node :: nodes => do
      let physicalTime ← fromStrRadix16 64 physical
      let counter ← fromStrRadix16 32 counter
      return {
        physicalTime := physicalTime
        counter := counter
        nodeId := String.ofList (['_'].intercalate (node :: nodes)) }
  | _ => none

/-- What `compare` takes in place of a timestamp which is not accepted. -/
def zeroTimestamp : NativeHlcTimestamp where
  physicalTime := 0
  counter := 0
  nodeId := ""

/-- `HybridLogicalClock::compare`; strings are ordered by their bytes. -/
def compare (left right : String) : Ordering :=
  let parsedLeft := (parse left).getD zeroTimestamp
  let parsedRight := (parse right).getD zeroTimestamp
  (Ord.compare parsedLeft.physicalTime parsedRight.physicalTime).then
    ((Ord.compare parsedLeft.counter parsedRight.counter).then
      (Ord.compare parsedLeft.nodeId parsedRight.nodeId))

/-! ## Fields -/

def timestampText (physical counter node : List Char) : List Char :=
  physical ++ '_' :: (counter ++ '_' :: node)

/-- What `from_str_radix(field, 16)` of an unsigned type accepts. -/
structure IsUnsignedHex (bits : Nat) (field : List Char) : Prop where
  nonempty : withoutPlus field ≠ []
  fits : ∃ value, hexDigitsValue? (withoutPlus field) = some value ∧ value < 2 ^ bits

variable {bits : Nat} {field : List Char}

theorem isUnsignedHex_iff :
    IsUnsignedHex bits field ↔ ∃ value, fromStrRadix16 bits field = some value := by
  unfold fromStrRadix16
  constructor
  · intro hfield
    have hvalue := hfield.fits
    cases hvalue with
    | intro value hvalue =>
        exact ⟨value, by simp [hfield.nonempty, hvalue.1, hvalue.2]⟩
  · intro hvalue
    cases hvalue with
    | intro value hvalue =>
        split_ifs at hvalue with hempty
        rw [Option.filter_eq_some_iff] at hvalue
        exact ⟨hempty, value, hvalue.1, by simpa using hvalue.2⟩

variable {digits : List Char}

theorem hexDigitsValue?_from_isSome :
    ∀ {start value : Nat},
      digits.foldlM (fun value c => (hexDigitValue? c).map (value * 16 + ·)) start =
        some value →
      ∀ c ∈ digits, (hexDigitValue? c).isSome := by
  induction digits with
  | nil =>
      intro start value hvalue c hc
      exact absurd hc List.not_mem_nil
  | cons digit digits ih =>
      intro start value hvalue c hc
      rw [List.foldlM_cons] at hvalue
      cases hdigit : hexDigitValue? digit with
      | none => simp [hdigit] at hvalue
      | some first =>
          have hrest : digits.foldlM
              (fun value c => (hexDigitValue? c).map (value * 16 + ·)) (start * 16 + first) =
                some value := by
            simpa [hdigit] using hvalue
          cases List.mem_cons.mp hc with
          | inl hfirst => simp [hfirst, hdigit]
          | inr hmem => exact ih hrest c hmem

theorem IsUnsignedHex.mem (hfield : IsUnsignedHex bits field) :
    ∀ c ∈ field, c = '+' ∨ (hexDigitValue? c).isSome := by
  intro c hc
  obtain ⟨value, hvalue, -⟩ := hfield.fits
  have hdigits : ∀ c ∈ withoutPlus field, (hexDigitValue? c).isSome :=
    hexDigitsValue?_from_isSome hvalue
  unfold withoutPlus at hdigits
  split at hdigits
  · cases List.mem_cons.mp hc with
    | inl hplus => exact Or.inl hplus
    | inr hmem => exact Or.inr (hdigits c hmem)
  · exact Or.inr (hdigits c hc)

theorem IsUnsignedHex.not_mem {c : Char} (hfield : IsUnsignedHex bits field) (hplus : c ≠ '+')
    (hdigit : hexDigitValue? c = none) :
    c ∉ field := by
  intro hc
  cases hfield.mem c hc with
  | inl h => exact hplus h
  | inr h => simp [hdigit] at h

theorem IsUnsignedHex.underscore (hfield : IsUnsignedHex bits field) : '_' ∉ field :=
  hfield.not_mem (by decide) (by decide)

variable {physical counter : List Char}

theorem parse_of_fields (node : List Char) (hphysical : '_' ∉ physical) (hcounter : '_' ∉ counter) :
    parse (String.ofList (timestampText physical counter node)) =
      (do
        let physicalTime ← fromStrRadix16 64 physical
        let counter ← fromStrRadix16 32 counter
        return {
          physicalTime := physicalTime
          counter := counter
          nodeId := String.ofList node }) := by
  have hsplit : (timestampText physical counter node).splitOn '_' =
      physical :: counter :: node.splitOn '_' := by
    rw [timestampText, List.splitOn_append_cons_self_of_not_mem hphysical,
      List.splitOn_append_cons_self_of_not_mem hcounter]
  rw [parse, String.toList_ofList, hsplit]
  cases hnodes : node.splitOn '_' with
  | nil => exact absurd hnodes (List.splitOn_ne_nil '_' node)
  | cons first rest =>
      have hnode : ['_'].intercalate (first :: rest) = node := by
        rw [← hnodes]
        exact List.intercalate_splitOn '_'
      simp only [hnode]

variable {text : String}

theorem parse_eq_some_iff {timestamp : NativeHlcTimestamp} :
    parse text = some timestamp ↔
      ∃ physical counter node, text.toList = timestampText physical counter node ∧
        fromStrRadix16 64 physical = some timestamp.physicalTime ∧
        fromStrRadix16 32 counter = some timestamp.counter ∧
        timestamp.nodeId = String.ofList node := by
  constructor
  · intro hparse
    unfold parse at hparse
    split at hparse
    · rename_i physical counter node nodes hsplit
      have htext : text.toList =
          timestampText physical counter (['_'].intercalate (node :: nodes)) := by
        have hjoined : ['_'].intercalate (text.toList.splitOn '_') = text.toList :=
          List.intercalate_splitOn '_'
        rw [← hjoined, hsplit]
        simp [timestampText, List.intercalate]
      cases hphysical : fromStrRadix16 64 physical with
      | none => simp [hphysical] at hparse
      | some physicalTime =>
          cases hcounter : fromStrRadix16 32 counter with
          | none => simp [hphysical, hcounter] at hparse
          | some count =>
              simp [hphysical, hcounter] at hparse
              subst hparse
              exact ⟨physical, counter, _, htext, hphysical, hcounter, rfl⟩
    · cases hparse
  · rintro ⟨physical, counter, node, htext, hphysical, hcounter, hnode⟩
    have hfields := parse_of_fields node
      (isUnsignedHex_iff.mpr ⟨_, hphysical⟩).underscore
      (isUnsignedHex_iff.mpr ⟨_, hcounter⟩).underscore
    rw [← htext, String.ofList_toList, hphysical, hcounter] at hfields
    rw [hfields]
    cases timestamp
    cases hnode
    rfl

/-! ## Agreement -/

variable {node : List Char}

theorem timestampText_inj {physical' counter' node' : List Char} (hphysical : '_' ∉ physical)
    (hphysical' : '_' ∉ physical') (hcounter : '_' ∉ counter) (hcounter' : '_' ∉ counter')
    (htext : timestampText physical counter node = timestampText physical' counter' node') :
    physical = physical' ∧ counter = counter' ∧ node = node' := by
  have hsplit := congrArg (List.splitOn '_') htext
  rw [timestampText, timestampText, List.splitOn_append_cons_self_of_not_mem hphysical,
    List.splitOn_append_cons_self_of_not_mem hphysical',
    List.splitOn_append_cons_self_of_not_mem hcounter,
    List.splitOn_append_cons_self_of_not_mem hcounter'] at hsplit
  injection hsplit with hfirst hrest
  injection hrest with hsecond hthird
  subst hfirst
  subst hsecond
  refine ⟨rfl, rfl, ?_⟩
  simpa [timestampText] using htext

/-- The canonical form of `HybridLogicalClock.parse`. -/
structure IsCanonical (physical counter node : List Char) : Prop where
  timeHex : HybridLogicalClock.IsHexField physical
  counterHex : HybridLogicalClock.IsHexField counter
  nodeText : HybridLogicalClock.IsNodeText node
  timeSafe : parseDigits 16 physical ≤ maxSafeInteger
  counterSafe : parseDigits 16 counter ≤ maxSafeInteger

/-- The legacy form of `HybridLogicalClock.parse`: an instant of four digits for the
year, then the counter between two equal separators. -/
def IsLegacy (chars : List Char) : Prop :=
  ∃ instant separator counter node, ∃ time : Int,
    chars = instant ++ separator :: (counter ++ separator :: node) ∧
    instant.length = 24 ∧ isoInstant? (String.ofList instant) = some time ∧
    (separator = ':' ∨ separator = '|') ∧
    counter ≠ [] ∧ (∀ c ∈ counter, isDecimalDigit c) ∧
    HybridLogicalClock.IsNodeText node ∧ parseDigits 10 counter ≤ maxSafeInteger

theorem hexDigitValue?_of_lower {c : Char} (hc : isLowerHexDigit c) :
    hexDigitValue? c = some (digitValue c) := by
  unfold isLowerHexDigit at hc
  unfold hexDigitValue? digitValue
  by_cases hdecimal : isDecimalDigit c
  · simp [hdecimal]
  · simp only [hdecimal, Bool.false_or, Bool.false_eq_true, if_false] at hc ⊢
    rw [if_pos hc]
    have hlower : 97 ≤ c.toNat := by
      have hbound : 'a' ≤ c := by simpa using (Bool.and_eq_true_iff.mp hc).1
      exact hbound
    have ha : 'a'.toNat = 97 := rfl
    congr 1
    omega

theorem hexDigitsValue?_of_lower (hdigits : ∀ c ∈ digits, isLowerHexDigit c) :
    hexDigitsValue? digits = some (parseDigits 16 digits) := by
  have hfold : ∀ start,
      digits.foldlM (fun value c => (hexDigitValue? c).map (value * 16 + ·)) start =
        some (digits.foldl (fun value c => value * 16 + digitValue c) start) := by
    induction digits with
    | nil =>
        intro start
        rfl
    | cons digit digits ih =>
        intro start
        have hdigit := hexDigitValue?_of_lower (hdigits digit List.mem_cons_self)
        rw [List.foldlM_cons, hdigit, List.foldl_cons]
        exact ih (fun c hc => hdigits c (List.mem_cons_of_mem _ hc)) _
  exact hfold 0

theorem withoutPlus_of_lower (hdigits : ∀ c ∈ digits, isLowerHexDigit c) :
    withoutPlus digits = digits := by
  unfold withoutPlus
  split
  · have hplus := hdigits '+' List.mem_cons_self
    exact absurd hplus (by decide)
  · rfl

theorem fromStrRadix16_of_hexField (hfield : HybridLogicalClock.IsHexField field)
    (hfits : parseDigits 16 field < 2 ^ bits) :
    fromStrRadix16 bits field = some (parseDigits 16 field) := by
  rw [fromStrRadix16, withoutPlus_of_lower hfield.lower, if_neg hfield.nonempty,
    hexDigitsValue?_of_lower hfield.lower]
  simp [hfits]

theorem underscore_not_mem_hexField (hfield : HybridLogicalClock.IsHexField field) :
    '_' ∉ field := by
  intro hmem
  exact absurd (hfield.lower '_' hmem) (by decide)

/-! ### The legacy form -/

theorem IsLegacy.of_parseLegacy {chars : List Char} {timestamp : HlcTimestamp}
    (hparse : HybridLogicalClock.parseLegacy chars = some timestamp) : IsLegacy chars := by
  unfold HybridLogicalClock.parseLegacy at hparse
  cases hinstant : isoInstant? (String.ofList (chars.take 24)) with
  | none => simp [hinstant] at hparse
  | some instant =>
      cases hbehind : chars.drop 24 with
      | nil => simp [hinstant, hbehind] at hparse
      | cons separator rest =>
          cases hrest : takeChar separator (rest.dropWhile isDecimalDigit) with
          | none => simp [hinstant, hbehind, hrest] at hparse
          | some node =>
              cases hnode : HybridLogicalClock.parseNodeId node with
              | none => simp [hinstant, hbehind, hrest, hnode] at hparse
              | some nodeId =>
                  simp only [hinstant, hbehind, hrest, hnode, Option.bind_eq_bind,
                    Option.bind_some] at hparse
                  split_ifs at hparse with hfields
                  obtain ⟨hseparator, hcounter, -, hcount⟩ := hfields
                  have htext := HybridLogicalClock.parseNodeId_eq_some_iff.mp hnode
                  have hlength : 24 < chars.length := by
                    by_contra hshort
                    rw [List.drop_eq_nil_of_le (by omega)] at hbehind
                    cases hbehind
                  rw [takeChar_eq_some_iff] at hrest
                  refine ⟨chars.take 24, separator, rest.takeWhile isDecimalDigit, node,
                    instant, ?_, ?_, hinstant, hseparator, hcounter, ?_, htext.1, hcount⟩
                  · rw [← hrest, List.takeWhile_append_dropWhile, ← hbehind,
                      List.take_append_drop]
                  · rw [List.length_take]
                    omega
                  · intro c hc
                    exact List.all_eq_true.mp List.all_takeWhile c hc

theorem IsLegacy.parseLegacy {chars : List Char} (hlegacy : IsLegacy chars) :
    ∃ timestamp, HybridLogicalClock.parseLegacy chars = some timestamp := by
  obtain ⟨instant, separator, counter, node, time, rfl, hlength, hinstant, hseparator,
    hcounter, hdigits, hnode, hcount⟩ := hlegacy
  have htake : (instant ++ separator :: (counter ++ separator :: node)).take 24 = instant := by
    rw [← hlength]
    exact List.take_left
  have hdrop : (instant ++ separator :: (counter ++ separator :: node)).drop 24 =
      separator :: (counter ++ separator :: node) := by
    rw [← hlength]
    exact List.drop_left
  have hnotDigit : isDecimalDigit separator = false := by
    cases hseparator with
    | inl hcolon => rw [hcolon]; decide
    | inr hbar => rw [hbar]; decide
  have hnodeId : HybridLogicalClock.parseNodeId node = some (String.ofList node) :=
    HybridLogicalClock.parseNodeId_eq_some_iff.mpr ⟨hnode, rfl⟩
  have htime : time.natAbs ≤ maxSafeInteger := by
    have htext := isoInstant?_text hinstant
    unfold toIsoString? at htext
    split_ifs at htext with hrange
    have hmax : maxTimeValue.natAbs ≤ maxSafeInteger := by decide
    omega
  simp [HybridLogicalClock.parseLegacy, htake, hdrop, hinstant,
    takeWhile_of_stop hdigits hnotDigit, dropWhile_of_stop hdigits hnotDigit, takeChar,
    hnodeId, hseparator, hcounter, htime, hcount]

theorem mem_fixedDigits {radix width value : Nat} (hradix : radix ≤ 10) (hpos : 0 < radix) :
    ∀ c ∈ fixedDigits radix width value, isDecimalDigit c := by
  have hdigit : ∀ digit < 10, isDecimalDigit (Nat.digitChar digit) := by decide
  induction width generalizing value with
  | zero =>
      intro c hc
      exact absurd hc List.not_mem_nil
  | succ width ih =>
      intro c hc
      cases List.mem_append.mp hc with
      | inl hfront => exact ih c hfront
      | inr hlast =>
          rw [List.mem_singleton.mp hlast]
          have hlt : value % radix < radix := Nat.mod_lt _ hpos
          exact hdigit _ (by omega)

theorem underscore_not_mem_isoChars (instant : Int) : '_' ∉ isoChars instant := by
  have hfixed : ∀ width value, '_' ∉ fixedDigits 10 width value := by
    intro width value hmem
    exact absurd (mem_fixedDigits (by decide) (by decide) '_' hmem) (by decide)
  have hyear : ∀ year, '_' ∉ yearText year := by
    intro year
    unfold yearText
    split_ifs
    · exact hfixed 4 _
    · simp [hfixed]
    · simp [hfixed]
  simp [isoChars, hfixed, hyear]

theorem not_isUnsignedHex_of_legacy {rest : List Char}
    (hlegacy : IsLegacy (physical ++ '_' :: rest)) : ¬ IsUnsignedHex 64 physical := by
  intro hphysical
  obtain ⟨instant, separator, counter, node, time, htext, hlength, hinstant, -⟩ := hlegacy
  have hprinted := isoInstant?_text hinstant
  unfold toIsoString? at hprinted
  split_ifs at hprinted
  have hchars : isoChars time = instant := by
    have hlist := congrArg String.toList (Option.some.inj hprinted)
    rwa [String.toList_ofList, String.toList_ofList] at hlist
  -- the `T` stands before the first underscore
  have hunderscore : '_' ∉ instant := by
    rw [← hchars]
    exact underscore_not_mem_isoChars time
  have hT : 'T' ∈ instant := by
    rw [← hchars]
    simp [isoChars]
  have hleads : instant <+: physical := by
    have hinstantPrefix : instant <+: physical ++ '_' :: rest := by
      rw [htext]
      exact List.prefix_append _ _
    apply List.prefix_of_prefix_length_le hinstantPrefix
    · exact List.prefix_append _ _
    · by_contra hshort
      have hget : (physical ++ '_' :: rest)[physical.length]? = some '_' := by simp
      rw [htext, List.getElem?_append_left (by omega)] at hget
      exact hunderscore (List.mem_of_getElem? hget)
  exact hphysical.not_mem (by decide) (by decide) (hleads.subset hT)

/-! ### The condition -/

/-- A number and an `Ordering` name the same order. -/
structure SameOrder (sign : Int) (ordering : Ordering) : Prop where
  less : sign < 0 ↔ ordering = .lt
  greater : 0 < sign ↔ ordering = .gt

structure Agree (collation : Collation) (a b : String) : Prop where
  acceptLeft : (∃ timestamp, HybridLogicalClock.parse a = .ok timestamp) ↔
    ∃ timestamp, parse a = some timestamp
  acceptRight : (∃ timestamp, HybridLogicalClock.parse b = .ok timestamp) ↔
    ∃ timestamp, parse b = some timestamp
  order : ∀ sign, HybridLogicalClock.compare collation a b = .ok sign →
    SameOrder sign (compare a b)

structure ReadAlike (text : String) : Prop where
  notLegacy : ¬ IsLegacy text.toList
  canonical : ∀ physical counter node, text.toList = timestampText physical counter node →
    IsUnsignedHex 64 physical → IsUnsignedHex 32 counter → IsCanonical physical counter node
  counterFits : ∀ physical counter node, text.toList = timestampText physical counter node →
    IsCanonical physical counter node → parseDigits 16 counter < 2 ^ 32

def TieBreakAlike (collation : Collation) (a b : String) : Prop :=
  ∀ physical counter node physical' counter' node',
    a.toList = timestampText physical counter node →
    b.toList = timestampText physical' counter' node' →
    IsCanonical physical counter node → IsCanonical physical' counter' node' →
    parseDigits 16 physical = parseDigits 16 physical' →
    parseDigits 16 counter = parseDigits 16 counter' →
    SameOrder (collation.localeCompare (String.ofList node) (String.ofList node'))
      (Ord.compare (String.ofList node) (String.ofList node'))

theorem IsCanonical.parse (htext : text.toList = timestampText physical counter node)
    (hcanonical : IsCanonical physical counter node) :
    HybridLogicalClock.parse text = .ok {
      physicalTime := parseDigits 16 physical
      counter := parseDigits 16 counter
      nodeId := String.ofList node } := by
  apply HybridLogicalClock.parse_of_canonical
  rw [htext]
  exact HybridLogicalClock.parseCanonical_eq_some_iff.mpr ⟨physical, counter, node, rfl,
    hcanonical.timeHex, hcanonical.counterHex, hcanonical.nodeText, hcanonical.timeSafe,
    hcanonical.counterSafe, rfl⟩

theorem IsCanonical.nativeParse (htext : text.toList = timestampText physical counter node)
    (hcanonical : IsCanonical physical counter node) (hfits : parseDigits 16 counter < 2 ^ 32) :
    NativeHlc.parse text = some {
      physicalTime := parseDigits 16 physical
      counter := parseDigits 16 counter
      nodeId := String.ofList node } := by
  have htime : parseDigits 16 physical < 2 ^ 64 := by
    have hsafe := hcanonical.timeSafe
    have hmax : maxSafeInteger < 2 ^ 64 := by decide
    omega
  exact parse_eq_some_iff.mpr ⟨physical, counter, node, htext,
    fromStrRadix16_of_hexField hcanonical.timeHex htime,
    fromStrRadix16_of_hexField hcanonical.counterHex hfits, rfl⟩

theorem parse_ok_cases {timestamp : HlcTimestamp}
    (hparse : HybridLogicalClock.parse text = .ok timestamp) :
    IsLegacy text.toList ∨
      ∃ physical counter node, text.toList = timestampText physical counter node ∧
        IsCanonical physical counter node := by
  unfold HybridLogicalClock.parse at hparse
  cases hcanonical : HybridLogicalClock.parseCanonical text.toList with
  | some canonical =>
      obtain ⟨physical, counter, node, htext, htime, hcounter, hnode, htimeSafe, hcounterSafe,
        -⟩ := HybridLogicalClock.parseCanonical_eq_some_iff.mp hcanonical
      exact Or.inr ⟨physical, counter, node, htext,
        ⟨htime, hcounter, hnode, htimeSafe, hcounterSafe⟩⟩
  | none =>
      cases hlegacy : HybridLogicalClock.parseLegacy text.toList with
      | none => simp [hcanonical, hlegacy] at hparse
      | some legacy => exact Or.inl (IsLegacy.of_parseLegacy hlegacy)

theorem IsLegacy.parse (hlegacy : IsLegacy text.toList) :
    ∃ timestamp, HybridLogicalClock.parse text = .ok timestamp := by
  unfold HybridLogicalClock.parse
  cases HybridLogicalClock.parseCanonical text.toList with
  | some canonical => exact ⟨canonical, rfl⟩
  | none =>
      obtain ⟨timestamp, htimestamp⟩ := hlegacy.parseLegacy
      exact ⟨timestamp, by rw [htimestamp]⟩

theorem readAlike_iff (text : String) :
    ReadAlike text ↔
      ((∃ timestamp, HybridLogicalClock.parse text = .ok timestamp) ↔
        ∃ timestamp, parse text = some timestamp) := by
  constructor
  · intro halike
    constructor
    · rintro ⟨timestamp, hparse⟩
      cases parse_ok_cases hparse with
      | inl hlegacy => exact absurd hlegacy halike.notLegacy
      | inr hfields =>
          obtain ⟨physical, counter, node, htext, hcanonical⟩ := hfields
          have hfits := halike.counterFits physical counter node htext hcanonical
          exact ⟨_, hcanonical.nativeParse htext hfits⟩
    · rintro ⟨timestamp, hparse⟩
      obtain ⟨physical, counter, node, htext, hphysical, hcounter, -⟩ :=
        parse_eq_some_iff.mp hparse
      have hcanonical := halike.canonical physical counter node htext
        (isUnsignedHex_iff.mpr ⟨_, hphysical⟩) (isUnsignedHex_iff.mpr ⟨_, hcounter⟩)
      exact ⟨_, hcanonical.parse htext⟩
  · intro haccept
    constructor
    · intro hlegacy
      obtain ⟨timestamp, hparse⟩ := haccept.mp hlegacy.parse
      obtain ⟨physical, counter, node, htext, hphysical, -⟩ := parse_eq_some_iff.mp hparse
      rw [htext] at hlegacy
      exact not_isUnsignedHex_of_legacy hlegacy (isUnsignedHex_iff.mpr ⟨_, hphysical⟩)
    · intro physical counter node htext hphysical hcounter
      obtain ⟨physicalTime, htime⟩ := isUnsignedHex_iff.mp hphysical
      obtain ⟨count, hcount⟩ := isUnsignedHex_iff.mp hcounter
      obtain ⟨timestamp, hparse⟩ := haccept.mpr
        ⟨⟨physicalTime, count, String.ofList node⟩,
          parse_eq_some_iff.mpr ⟨physical, counter, node, htext, htime, hcount, rfl⟩⟩
      cases parse_ok_cases hparse with
      | inl hlegacy =>
          rw [htext] at hlegacy
          exact absurd hphysical (not_isUnsignedHex_of_legacy hlegacy)
      | inr hfields =>
          obtain ⟨physical', counter', node', htext', hcanonical⟩ := hfields
          obtain ⟨rfl, rfl, rfl⟩ := timestampText_inj
            (underscore_not_mem_hexField hcanonical.timeHex) hphysical.underscore
            (underscore_not_mem_hexField hcanonical.counterHex) hcounter.underscore
            (htext'.symm.trans htext)
          exact hcanonical
    · intro physical counter node htext hcanonical
      obtain ⟨timestamp, hparse⟩ := haccept.mp ⟨_, hcanonical.parse htext⟩
      obtain ⟨physical', counter', node', htext', hphysical, hcounter, -⟩ :=
        parse_eq_some_iff.mp hparse
      have hunsigned := isUnsignedHex_iff.mpr ⟨_, hphysical⟩
      have hunsigned' := isUnsignedHex_iff.mpr ⟨_, hcounter⟩
      obtain ⟨rfl, rfl, rfl⟩ := timestampText_inj
        (underscore_not_mem_hexField hcanonical.timeHex) hunsigned.underscore
        (underscore_not_mem_hexField hcanonical.counterHex) hunsigned'.underscore
        (htext.symm.trans htext')
      obtain ⟨value, hvalue, hfits⟩ := hunsigned'.fits
      rw [withoutPlus_of_lower hcanonical.counterHex.lower,
        hexDigitsValue?_of_lower hcanonical.counterHex.lower] at hvalue
      rw [Option.some.inj hvalue]
      exact hfits

theorem sameOrder_compare {collation : Collation} {a b : String} {time time' : Nat}
    {counter counter' : Nat} {node node' : String}
    (ha : parse a = some ⟨time, counter, node⟩) (hb : parse b = some ⟨time', counter', node'⟩)
    (hnode : time = time' → counter = counter' →
      SameOrder (collation.localeCompare node node') (Ord.compare node node')) :
    SameOrder
      (HybridLogicalClock.compareParsed collation ⟨time, counter, node⟩ ⟨time', counter', node'⟩)
      (compare a b) := by
  unfold HybridLogicalClock.compareParsed NativeHlc.compare
  rw [ha, hb]
  simp only [Option.getD_some]
  rcases lt_trichotomy time time' with htime | htime | htime
  · rw [Nat.compare_eq_lt.mpr htime]
    have hne : (time : Int) ≠ time' := by omega
    have hlt : (time : Int) < time' := by omega
    constructor <;> simp [hne, hlt]
  · subst htime
    rcases lt_trichotomy counter counter' with hcounter | hcounter | hcounter
    · rw [Nat.compare_eq_lt.mpr hcounter]
      constructor <;> simp [hcounter.ne, hcounter]
    · subst hcounter
      simpa using hnode rfl rfl
    · rw [Nat.compare_eq_gt.mpr hcounter]
      constructor <;> simp [hcounter.ne', hcounter.not_gt]
  · rw [Nat.compare_eq_gt.mpr htime]
    have hne : (time : Int) ≠ time' := by omega
    have hlt : ¬ (time : Int) < time' := by omega
    constructor <;> simp [hne, hlt]

/-- The implementations agree on exactly the pairs of texts which both parsers spell alike
and whose node ids the locale orders as their bytes. -/
theorem agree_iff (collation : Collation) (a b : String) :
    Agree collation a b ↔ ReadAlike a ∧ ReadAlike b ∧ TieBreakAlike collation a b := by
  constructor
  · intro hagree
    have ha := (readAlike_iff a).mpr hagree.acceptLeft
    have hb := (readAlike_iff b).mpr hagree.acceptRight
    refine ⟨ha, hb, ?_⟩
    intro physical counter node physical' counter' node' htext htext' hcanonical hcanonical'
      htime hcounter
    have horder := hagree.order _ (by
      rw [HybridLogicalClock.compare, hcanonical.parse htext, hcanonical'.parse htext']
      rfl)
    have hnative := hcanonical.nativeParse htext (ha.counterFits _ _ _ htext hcanonical)
    have hnative' := hcanonical'.nativeParse htext' (hb.counterFits _ _ _ htext' hcanonical')
    unfold HybridLogicalClock.compareParsed NativeHlc.compare at horder
    rw [hnative, hnative'] at horder
    simpa [htime, hcounter] using horder
  · rintro ⟨ha, hb, htie⟩
    refine ⟨(readAlike_iff a).mp ha, (readAlike_iff b).mp hb, ?_⟩
    intro sign hcompare
    unfold HybridLogicalClock.compare at hcompare
    cases hparse : HybridLogicalClock.parse a with
    | error message =>
        rw [hparse] at hcompare
        cases hcompare
    | ok left =>
        cases hparse' : HybridLogicalClock.parse b with
        | error message =>
            rw [hparse, hparse'] at hcompare
            cases hcompare
        | ok right =>
            cases parse_ok_cases hparse with
            | inl hlegacy => exact absurd hlegacy ha.notLegacy
            | inr hfields =>
                cases parse_ok_cases hparse' with
                | inl hlegacy => exact absurd hlegacy hb.notLegacy
                | inr hfields' =>
                    obtain ⟨physical, counter, node, htext, hcanonical⟩ := hfields
                    obtain ⟨physical', counter', node', htext', hcanonical'⟩ := hfields'
                    rw [hcanonical.parse htext, hcanonical'.parse htext'] at hcompare
                    have hsign := Except.ok.inj hcompare
                    rw [← hsign]
                    apply sameOrder_compare
                      (hcanonical.nativeParse htext (ha.counterFits _ _ _ htext hcanonical))
                      (hcanonical'.nativeParse htext' (hb.counterFits _ _ _ htext' hcanonical'))
                    intro htime hcounter
                    exact htie _ _ _ _ _ _ htext htext' hcanonical hcanonical' htime hcounter

/-- A field in upper case is accepted on one side only. -/
theorem disagree_on_upperCase :
    ¬ ∀ (collation : Collation) (a b : String), Agree collation a b := by
  intro hagree
  have haccept := (hagree .codePoint "A1_0_node" "A1_0_node").acceptLeft
  have hnative : parse "A1_0_node" = some ⟨161, 0, "node"⟩ := by decide
  obtain ⟨timestamp, hparse⟩ := haccept.mpr ⟨_, hnative⟩
  have hrejected : HybridLogicalClock.parse "A1_0_node" =
      .error "Invalid HLC timestamp" := by decide
  rw [hrejected] at hparse
  cases hparse

end NativeHlc
end TauriPlatform
