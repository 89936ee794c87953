import TauriPlatform.JsonParse

/-!
# Parsing what was serialized

`JSON.parse` inverts `JSON.stringify` on every value whose objects list their
properties in the order in which JavaScript enumerates them.  The module names
nothing of a particular program.
-/

namespace TauriPlatform

/-! ## Strings -/

theorem codeUnit?_control :
    ∀ value < 32,
      fixedDigits 16 4 value =
        ['0', '0', Nat.digitChar (value / 16), Nat.digitChar (value % 16)] ∧
      codeUnit? '0' '0' (Nat.digitChar (value / 16)) (Nat.digitChar (value % 16)) =
        some value := by
  decide

variable {c : Char}

theorem utf16Units_of_lt (hbasic : c.toNat < 0x10000) :
    utf16Units c = [c.toNat] := by
  rw [utf16Units, if_pos hbasic]

theorem parseStringUnits_escape {escape : Char} {unit : Nat} (hletter : escape ≠ 'u')
    (hunit : simpleEscape? escape = some unit) (rest : List Char) :
    parseStringUnits ('\\' :: escape :: rest) =
      (parseStringUnits rest).map fun read => (unit :: read.1, read.2) := by
  rw [parseStringUnits.eq_def]
  simp only [hunit, if_neg hletter]
  cases parseStringUnits rest <;> simp

theorem parseStringUnits_unicode {a b d : Char} {unit : Nat}
    (hunit : codeUnit? a b c d = some unit) (rest : List Char) :
    parseStringUnits ('\\' :: 'u' :: a :: b :: c :: d :: rest) =
      (parseStringUnits rest).map fun read => (unit :: read.1, read.2) := by
  rw [parseStringUnits.eq_def]
  simp only [hunit]
  cases parseStringUnits rest <;> simp

theorem parseStringUnits_plain (hquote : c ≠ '"') (hslash : c ≠ '\\') (hprinted : 32 ≤ c.toNat)
    (rest : List Char) :
    parseStringUnits (c :: rest) =
      (parseStringUnits rest).map fun read => (utf16Units c ++ read.1, read.2) := by
  rw [parseStringUnits.eq_def]
  simp only [if_neg hquote, if_neg hslash, if_neg (not_lt.mpr hprinted)]
  cases parseStringUnits rest <;> simp
theorem parseStringUnits_quoteChar (c : Char) (rest : List Char) :
    parseStringUnits (quoteChar c ++ rest) =
      (parseStringUnits rest).map fun read => (utf16Units c ++ read.1, read.2) := by
  unfold quoteChar
  split
  · exact parseStringUnits_escape (by decide) (by decide) rest
  · exact parseStringUnits_escape (by decide) (by decide) rest
  · exact parseStringUnits_escape (by decide) (by decide) rest
  · exact parseStringUnits_escape (by decide) (by decide) rest
  · exact parseStringUnits_escape (by decide) (by decide) rest
  · rename_i hquote hslash _ _ _
    split_ifs with hbackspace hfeed hcontrol
    · rw [utf16Units_of_lt (by omega), hbackspace]
      exact parseStringUnits_escape (by decide) (by decide) rest
    · rw [utf16Units_of_lt (by omega), hfeed]
      exact parseStringUnits_escape (by decide) (by decide) rest
    · obtain ⟨hdigits, hunit⟩ := codeUnit?_control c.toNat hcontrol
      rw [utf16Units_of_lt (by omega), hdigits]
      exact parseStringUnits_unicode hunit rest
    · exact parseStringUnits_plain hquote hslash (not_lt.mp hcontrol) rest

theorem parseStringUnits_quoted (text rest : List Char) :
    parseStringUnits (text.flatMap quoteChar ++ '"' :: rest) =
      some (text.flatMap utf16Units, rest) := by
  induction text with
  | nil =>
      rw [List.flatMap_nil, List.nil_append, parseStringUnits.eq_def]
      simp
  | cons c text ih =>
      rw [List.flatMap_cons, List.append_assoc, parseStringUnits_quoteChar, ih]
      rfl

theorem surrogatePair?_of_char (low : Nat) :
    surrogatePair? c.toNat low = none := by
  rw [surrogatePair?, if_neg]
  rintro ⟨hhigh, hhigh', -⟩
  rcases c.valid with hlow | ⟨habove, -⟩
  · have hvalue : c.toNat < 0xD800 := hlow
    omega
  · have hvalue : 0xDFFF < c.toNat := habove
    omega

theorem codeUnitChar_of_char (c : Char) : codeUnitChar c.toNat = c := by
  rw [codeUnitChar, if_neg, Char.ofNat_toNat]
  rintro ⟨hhigh, hhigh'⟩
  rcases c.valid with hlow | ⟨habove, -⟩
  · have hvalue : c.toNat < 0xD800 := hlow
    omega
  · have hvalue : 0xDFFF < c.toNat := habove
    omega

theorem surrogatePair?_of_utf16Units (hastral : 0x10000 ≤ c.toNat) :
    surrogatePair? (0xD800 + (c.toNat - 0x10000) / 0x400)
      (0xDC00 + (c.toNat - 0x10000) % 0x400) = some c := by
  have hbound : c.toNat < 0x110000 := by
    rcases c.valid with hlow | ⟨-, hbelow⟩
    · have hvalue : c.toNat < 0xD800 := hlow
      omega
    · exact hbelow
  rw [surrogatePair?, if_pos (by omega)]
  have hvalue : 0x10000 + (0xD800 + (c.toNat - 0x10000) / 0x400 - 0xD800) * 0x400 +
      (0xDC00 + (c.toNat - 0x10000) % 0x400 - 0xDC00) = c.toNat := by
    omega
  rw [hvalue, Char.ofNat_toNat]

theorem decodeUtf16_utf16Units (c : Char) (units : List Nat) :
    decodeUtf16 (utf16Units c ++ units) = c :: decodeUtf16 units := by
  by_cases hbasic : c.toNat < 0x10000
  · rw [utf16Units_of_lt hbasic]
    cases units with
    | nil => simp [decodeUtf16, codeUnitChar_of_char]
    | cons unit units =>
        simp [decodeUtf16, surrogatePair?_of_char, codeUnitChar_of_char]
  · have hpair := surrogatePair?_of_utf16Units (not_lt.mp hbasic)
    rw [utf16Units, if_neg hbasic]
    simp [decodeUtf16, hpair]

theorem decodeUtf16_flatMap (text : List Char) :
    decodeUtf16 (text.flatMap utf16Units) = text := by
  induction text with
  | nil => rfl
  | cons c text ih => rw [List.flatMap_cons, decodeUtf16_utf16Units, ih]

theorem parseStringText_quoted (text : String) (rest : List Char) :
    parseStringText (text.toList.flatMap quoteChar ++ '"' :: rest) = some (text, rest) := by
  simp [parseStringText, parseStringUnits_quoted, decodeUtf16_flatMap]

/-! ## Digits -/

theorem isDecimalDigit_eq_isDigit (c : Char) : isDecimalDigit c = c.isDigit :=
  rfl

theorem all_isDecimalDigit_toDigits (value : Nat) :
    ∀ c ∈ Nat.toDigits 10 value, isDecimalDigit c := by
  intro c hc
  rw [isDecimalDigit_eq_isDigit]
  exact Nat.isDigit_of_mem_toDigits (by decide) (by decide) hc

variable {digits : List Char}

theorem parseDigits_eq_ofDigitChars (hdigits : ∀ c ∈ digits, isDecimalDigit c) (value : Nat) :
    digits.foldl (fun value c => value * 10 + digitValue c) value =
      Nat.ofDigitChars 10 digits value := by
  induction digits generalizing value with
  | nil => rfl
  | cons c digits ih =>
      have hvalue : digitValue c = c.toNat - '0'.toNat := by
        rw [digitValue, if_pos (hdigits c List.mem_cons_self)]
      rw [List.foldl_cons, Nat.ofDigitChars_cons, hvalue, Nat.mul_comm value 10]
      exact ih (fun other hother => hdigits other (List.mem_cons_of_mem _ hother)) _

theorem parseDigits_toDigits (value : Nat) :
    parseDigits 10 (Nat.toDigits 10 value) = value := by
  rw [parseDigits, parseDigits_eq_ofDigitChars (all_isDecimalDigit_toDigits value),
    Nat.ofDigitChars_ten_toDigits]

theorem parseDigits_append_zeros (digits : List Char) (count : Nat) :
    parseDigits 10 (digits ++ List.replicate count '0') =
      parseDigits 10 digits * 10 ^ count := by
  have hzero : digitValue '0' = 0 := by decide
  induction count with
  | zero => simp
  | succ count ih =>
      rw [List.replicate_succ', ← List.append_assoc, parseDigits, List.foldl_append]
      change parseDigits 10 (digits ++ List.replicate count '0') * 10 + digitValue '0' = _
      rw [ih, hzero, pow_succ]
      ring

theorem parseDigits_zeros_append (count : Nat) (digits : List Char) :
    parseDigits 10 (List.replicate count '0' ++ digits) = parseDigits 10 digits := by
  have hzeros : parseDigits 10 (List.replicate count '0') = 0 := by
    simpa [parseDigits] using parseDigits_append_zeros [] count
  rw [parseDigits, List.foldl_append]
  change digits.foldl _ (parseDigits 10 (List.replicate count '0')) = _
  rw [hzeros]
  rfl

theorem head?_toDigits_ne_zero {value : Nat} (hvalue : value ≠ 0) :
    (Nat.toDigits 10 value).head? ≠ some '0' := by
  induction value using Nat.strong_induction_on with
  | _ value ih =>
      by_cases hsmall : value < 10
      · rw [Nat.toDigits_of_lt_base hsmall]
        interval_cases value <;> first | contradiction | decide
      · have hquotient : value / 10 ≠ 0 := by omega
        have hhead := ih (value / 10) (by omega) hquotient
        rw [Nat.toDigits_of_base_le (by decide) (by omega)]
        cases hdigits : Nat.toDigits 10 (value / 10) with
        | nil => exact absurd hdigits Nat.toDigits_ne_nil
        | cons c rest =>
            rw [hdigits] at hhead
            simpa using hhead

/-! ## Numbers -/

def NoDigit (rest : List Char) : Prop :=
  ∀ c, rest.head? = some c → isDecimalDigit c = false

variable {rest : List Char}

theorem takeWhile_digits (hdigits : ∀ c ∈ digits, isDecimalDigit c) (hrest : NoDigit rest) :
    (digits ++ rest).takeWhile isDecimalDigit = digits := by
  rw [List.takeWhile_append_of_pos hdigits]
  cases rest with
  | nil => simp
  | cons c rest => simp [hrest c rfl]

theorem dropWhile_digits (hdigits : ∀ c ∈ digits, isDecimalDigit c) (hrest : NoDigit rest) :
    (digits ++ rest).dropWhile isDecimalDigit = rest := by
  rw [List.dropWhile_append_of_pos hdigits]
  cases rest with
  | nil => simp
  | cons c rest => simp [hrest c rfl]

structure EndsNumber (rest : List Char) : Prop where
  noDigit : NoDigit rest
  noPoint : rest.head? ≠ some '.'
  noExponent : rest.head? ≠ some 'e' ∧ rest.head? ≠ some 'E'

theorem parseExponent_absent (hrest : EndsNumber rest) :
    parseExponent rest = some (0, rest) := by
  cases rest with
  | nil => rfl
  | cons c rest =>
      have hexponent : ¬ (c = 'e' ∨ c = 'E') := by
        have h := hrest.noExponent
        simpa [not_or] using h
      unfold parseExponent
      simp only [if_neg hexponent]

theorem parseExponent_present (exponent : Int) (hrest : EndsNumber rest) :
    parseExponent ('e' :: (if exponent < 0 then '-' else '+') ::
        Nat.toDigits 10 exponent.natAbs ++ rest) = some (exponent, rest) := by
  have hdigits := all_isDecimalDigit_toDigits exponent.natAbs
  have htake := takeWhile_digits hdigits hrest.noDigit
  have hdrop := dropWhile_digits hdigits hrest.noDigit
  by_cases hnegative : exponent < 0
  · have hvalue : -(exponent.natAbs : Int) = exponent := by omega
    simp [parseExponent, hnegative, htake, hdrop, Nat.toDigits_ne_nil,
      parseDigits_toDigits, hvalue, -Nat.cast_natAbs]
  · have hvalue : (exponent.natAbs : Int) = exponent := by omega
    simp [parseExponent, hnegative, htake, hdrop, Nat.toDigits_ne_nil,
      parseDigits_toDigits, hvalue, -Nat.cast_natAbs]

theorem parseFraction_absent (hrest : rest.head? ≠ some '.') :
    parseFraction rest = some ([], rest) := by
  cases rest with
  | nil => rfl
  | cons c rest =>
      have hpoint : c ≠ '.' := by simpa using hrest
      unfold parseFraction
      split
      · rename_i hsplit
        cases hsplit
        exact absurd rfl hpoint
      · rfl

theorem parseFraction_present (hnonempty : digits ≠ []) (hdigits : ∀ c ∈ digits, isDecimalDigit c)
    (hrest : NoDigit rest) :
    parseFraction ('.' :: (digits ++ rest)) = some (digits, rest) := by
  simp [parseFraction, takeWhile_digits hdigits hrest, dropWhile_digits hdigits hrest,
    hnonempty]

/-! ### A number in its parts -/

structure IsWhole (digits : List Char) : Prop where
  nonempty : digits ≠ []
  allDigits : ∀ c ∈ digits, isDecimalDigit c
  noZero : digits.head? = some '0' → digits.length = 1

theorem parseJsonNumber_parts {sign : Int} {signText whole fraction behind : List Char}
    {exponent : Int} (hsign : (sign = 1 ∧ signText = []) ∨ (sign = -1 ∧ signText = ['-']))
    (hwhole : IsWhole whole) {tail : List Char} (htail : NoDigit tail)
    (hfraction : parseFraction tail = some (fraction, behind))
    (hexponent : parseExponent behind = some (exponent, rest)) :
    parseJsonNumber (signText ++ (whole ++ tail)) =
      some (.ofScientific (sign * parseDigits 10 (whole ++ fraction))
        (exponent - fraction.length), rest) := by
  have htake := takeWhile_digits hwhole.allDigits htail
  have hdrop := dropWhile_digits hwhole.allDigits htail
  have hhead : ¬ (whole = [] ∨ (whole.head? = some '0' ∧ whole.length ≠ 1)) := by
    rintro (hempty | ⟨hzero, hlong⟩)
    · exact hwhole.nonempty hempty
    · exact hlong (hwhole.noZero hzero)
  rcases hsign with ⟨rfl, rfl⟩ | ⟨rfl, rfl⟩
  · obtain ⟨first, others, rfl⟩ := List.exists_cons_of_ne_nil hwhole.nonempty
    have hfirst : first ≠ '-' := by
      rintro rfl
      exact absurd (hwhole.allDigits '-' List.mem_cons_self) (by decide)
    unfold parseJsonNumber
    rw [List.nil_append, List.cons_append]
    split
    rename_i hsplit
    split at hsplit
    · rename_i hminus
      cases hminus
      exact absurd rfl hfirst
    · cases hsplit
      rw [← List.cons_append, htake, hdrop, if_neg hhead]
      simp [hfraction, hexponent]
  · unfold parseJsonNumber
    simp only [List.cons_append, List.nil_append]
    rw [htake, hdrop, if_neg hhead]
    simp [hfraction, hexponent]

theorem ofScientific_mul_pow (significand : Int) (count : Nat) :
    JsonNumber.ofScientific (significand * 10 ^ count) 0 =
      .ofScientific significand count := by
  simp [JsonNumber.ofScientific]

theorem noDigit_cons (hc : isDecimalDigit c = false) :
    NoDigit (c :: rest) := by
  intro first hfirst
  cases hfirst
  exact hc

def exponentText (exponent : Int) : List Char :=
  'e' :: (if exponent < 0 then '-' else '+') :: Nat.toDigits 10 exponent.natAbs

theorem parseExponent_exponentText (exponent : Int) (hrest : EndsNumber rest) :
    parseExponent (exponentText exponent ++ rest) = some (exponent, rest) := by
  have hpresent := parseExponent_present exponent hrest
  simpa [exponentText] using hpresent

section DecimalText

variable {sign : Int} {signText digits rest : List Char}

variable (hsign : (sign = 1 ∧ signText = []) ∨ (sign = -1 ∧ signText = ['-']))
  (hdigits : ∀ c ∈ digits, isDecimalDigit c) (hrest : EndsNumber rest)

theorem all_isDecimalDigit_zeros (count : Nat) :
    ∀ c ∈ List.replicate count '0', isDecimalDigit c := by
  intro c hc
  rw [List.eq_of_mem_replicate hc]
  decide

include hsign hdigits hrest

theorem parseJsonNumber_whole {count : Nat} (hnonempty : digits ≠ [])
    (hzero : digits.head? = some '0' → digits.length = 1 ∧ count = 0) :
    parseJsonNumber (signText ++ (digits ++ List.replicate count '0' ++ rest)) =
      some (.ofScientific (sign * parseDigits 10 digits) count, rest) := by
  obtain ⟨first, others, rfl⟩ := List.exists_cons_of_ne_nil hnonempty
  have hwhole : IsWhole (first :: others ++ List.replicate count '0') := by
    refine ⟨by simp, ?_, ?_⟩
    · intro c hc
      rcases List.mem_append.mp hc with hc | hc
      · exact hdigits c hc
      · exact all_isDecimalDigit_zeros _ c hc
    · intro hhead
      obtain ⟨hlength, rfl⟩ := hzero (by simpa using hhead)
      simpa using hlength
  rw [parseJsonNumber_parts hsign hwhole hrest.noDigit
    (parseFraction_absent hrest.noPoint) (parseExponent_absent hrest),
    List.append_nil, parseDigits_append_zeros]
  push_cast
  rw [← mul_assoc, List.length_nil, Nat.cast_zero, sub_zero, ofScientific_mul_pow]

theorem parseJsonNumber_inside (point : Nat) (hpoint : 0 < point)
    (hinside : point < digits.length) (hzero : digits.head? ≠ some '0') :
    parseJsonNumber
        (signText ++ (digits.take point ++ '.' :: digits.drop point ++ rest)) =
      some (.ofScientific (sign * parseDigits 10 digits) (point - digits.length), rest) := by
  have hwhole : IsWhole (digits.take point) := by
    refine ⟨?_, fun c hc => hdigits c (List.mem_of_mem_take hc), ?_⟩
    · rw [ne_eq, List.take_eq_nil_iff, not_or]
      exact ⟨by omega, fun hempty => by simp [hempty] at hinside⟩
    · intro hhead
      rw [List.head?_take, if_neg (by omega)] at hhead
      exact absurd hhead hzero
  have hfraction : parseFraction ('.' :: (digits.drop point ++ rest)) =
      some (digits.drop point, rest) := by
    refine parseFraction_present ?_ (fun c hc => hdigits c (List.mem_of_mem_drop hc))
      hrest.noDigit
    rw [ne_eq, List.drop_eq_nil_iff]
    omega
  have hparts := parseJsonNumber_parts hsign hwhole (noDigit_cons (by decide)) hfraction
    (parseExponent_absent hrest)
  have hexponent : (0 : Int) - (digits.drop point).length = point - digits.length := by
    rw [List.length_drop]
    omega
  rw [hexponent, List.take_append_drop] at hparts
  simpa using hparts

theorem parseJsonNumber_before (count : Nat) (hnonempty : digits ≠ []) :
    parseJsonNumber
        (signText ++ ('0' :: '.' :: List.replicate count '0' ++ digits ++ rest)) =
      some (.ofScientific (sign * parseDigits 10 digits) (-(count + digits.length)), rest) := by
  have hwhole : IsWhole ['0'] := ⟨by simp, List.forall_mem_singleton.mpr rfl, fun _ => rfl⟩
  have hfraction : parseFraction ('.' :: (List.replicate count '0' ++ digits ++ rest)) =
      some (List.replicate count '0' ++ digits, rest) := by
    refine parseFraction_present (by simp [hnonempty]) ?_ hrest.noDigit
    intro c hc
    rcases List.mem_append.mp hc with hc | hc
    · exact all_isDecimalDigit_zeros _ c hc
    · exact hdigits c hc
  have hparts := parseJsonNumber_parts hsign hwhole (noDigit_cons (by decide)) hfraction
    (parseExponent_absent hrest)
  have hvalue : parseDigits 10 (['0'] ++ (List.replicate count '0' ++ digits)) =
      parseDigits 10 digits := by
    have hzeros : ['0'] ++ (List.replicate count '0' ++ digits) =
        List.replicate (count + 1) '0' ++ digits := rfl
    rw [hzeros, parseDigits_zeros_append]
  have hexponent : (0 : Int) - (List.replicate count '0' ++ digits).length =
      -(count + digits.length) := by
    simp
  rw [hvalue, hexponent] at hparts
  simpa using hparts

theorem parseJsonNumber_exponent {first : Char} {others : List Char}
    (hform : digits = first :: others) (exponent : Int) :
    parseJsonNumber (signText ++ ((match first :: others with
        | first :: second :: rest => first :: '.' :: second :: rest
        | short => short) ++ exponentText exponent ++ rest)) =
      some (.ofScientific (sign * parseDigits 10 digits) (exponent - others.length),
        rest) := by
  subst hform
  have hwhole : IsWhole [first] := by
    refine ⟨by simp, fun c hc => hdigits c ?_, fun _ => rfl⟩
    rw [List.mem_singleton.mp hc]
    exact List.mem_cons_self
  have hexponent := parseExponent_exponentText exponent hrest
  have hend : NoDigit (exponentText exponent ++ rest) := noDigit_cons (by decide)
  cases others with
  | nil =>
      have hfraction : parseFraction (exponentText exponent ++ rest) =
          some ([], exponentText exponent ++ rest) :=
        parseFraction_absent (by simp [exponentText])
      have hparts := parseJsonNumber_parts hsign hwhole hend hfraction hexponent
      simpa using hparts
  | cons second others =>
      have hfraction : parseFraction
          ('.' :: (second :: others ++ (exponentText exponent ++ rest))) =
          some (second :: others, exponentText exponent ++ rest) :=
        parseFraction_present (by simp)
          (fun c hc => hdigits c (List.mem_cons_of_mem _ hc)) hend
      have hparts := parseJsonNumber_parts hsign hwhole (noDigit_cons (by decide)) hfraction
        hexponent
      simpa using hparts

theorem parseJsonNumber_decimalText (hnonempty : digits ≠ [])
    (hzero : digits.head? ≠ some '0') (point : Int) :
    parseJsonNumber (signText ++ (decimalText digits point ++ rest)) =
      some (.ofScientific (sign * parseDigits 10 digits) (point - digits.length), rest) := by
  unfold decimalText
  by_cases hinteger : digits.length ≤ point ∧ point ≤ 21
  · have hcount : ((point - digits.length).toNat : Int) = point - digits.length := by omega
    simp only [if_pos hinteger]
    rw [parseJsonNumber_whole hsign hdigits hrest hnonempty
      (fun hhead => absurd hhead hzero), hcount]
  · simp only [if_neg hinteger]
    by_cases hinside : 0 < point ∧ point ≤ 21
    · have hpoint : (point.toNat : Int) = point := by omega
      have hread := parseJsonNumber_inside hsign hdigits hrest point.toNat (by omega)
        (by omega) hzero
      simp only [if_pos hinside]
      rw [hread, hpoint]
    · simp only [if_neg hinside]
      by_cases hbefore : -6 < point ∧ point ≤ 0
      · have hcount : -(((-point).toNat : Int) + digits.length) = point - digits.length := by
          omega
        simp only [if_pos hbefore]
        rw [parseJsonNumber_before hsign hdigits hrest _ hnonempty, hcount]
      · obtain ⟨first, others, hform⟩ := List.exists_cons_of_ne_nil hnonempty
        have hread := parseJsonNumber_exponent hsign hdigits hrest hform (point - 1)
        have hexponent : point - 1 - (others.length : Int) = point - digits.length := by
          rw [hform, List.length_cons]
          push_cast
          ring
        simp only [if_neg hbefore]
        rw [hexponent] at hread
        subst hform
        exact hread

end DecimalText

/-! ### The text of a number -/

/-- The sign which `JsonNumber.text` writes. -/
theorem sign_cases (value : Int) :
    ((if value < 0 then (-1 : Int) else 1) = 1 ∧
        (if value < 0 then ['-'] else []) = []) ∨
      ((if value < 0 then (-1 : Int) else 1) = -1 ∧
        (if value < 0 then ['-'] else []) = ['-']) := by
  by_cases hnegative : value < 0
  · simp [hnegative]
  · simp [hnegative]

theorem sign_mul_natAbs (value : Int) :
    (if value < 0 then (-1 : Int) else 1) * value.natAbs = value := by
  split_ifs <;> omega

theorem dropTrailingZeros_append (digits : List Char) :
    ∃ count, dropTrailingZeros digits ++ List.replicate count '0' = digits := by
  refine ⟨(digits.reverse.takeWhile (· == '0')).length, ?_⟩
  have hzeros : digits.reverse.takeWhile (· == '0') =
      List.replicate (digits.reverse.takeWhile (· == '0')).length '0' := by
    apply List.eq_replicate_of_mem
    intro c hc
    have hall : (digits.reverse.takeWhile (· == '0')).all (· == '0') = true :=
      List.all_takeWhile
    simpa using List.all_eq_true.mp hall c hc
  have hsplit : digits.reverse.takeWhile (· == '0') ++ digits.reverse.dropWhile (· == '0') =
      digits.reverse := List.takeWhile_append_dropWhile
  calc dropTrailingZeros digits ++
        List.replicate (digits.reverse.takeWhile (· == '0')).length '0'
      = (digits.reverse.dropWhile (· == '0')).reverse ++
          (digits.reverse.takeWhile (· == '0')).reverse := by
        rw [dropTrailingZeros, ← List.reverse_replicate, ← hzeros]
    _ = (digits.reverse.takeWhile (· == '0') ++
          digits.reverse.dropWhile (· == '0')).reverse := List.reverse_append.symm
    _ = digits := by rw [hsplit, List.reverse_reverse]

variable {digits : List Char} {c : Char}

theorem mem_of_mem_dropTrailingZeros (hc : c ∈ dropTrailingZeros digits) : c ∈ digits := by
  obtain ⟨count, hzeros⟩ := dropTrailingZeros_append digits
  rw [← hzeros]
  exact List.mem_append_left _ hc

theorem dropTrailingZeros_ne_nil (hnonempty : digits ≠ []) (hhead : digits.head? ≠ some '0') :
    dropTrailingZeros digits ≠ [] := by
  intro hempty
  obtain ⟨count, hzeros⟩ := dropTrailingZeros_append digits
  rw [hempty, List.nil_append] at hzeros
  cases count with
  | zero => exact hnonempty hzeros.symm
  | succ count =>
      rw [← hzeros] at hhead
      exact hhead rfl

theorem parseJsonNumber_integer_short {value : Int} {rest : List Char}
    (hrest : EndsNumber rest) :
    parseJsonNumber ((if value < 0 then ['-'] else []) ++
        (Nat.toDigits 10 value.natAbs ++ rest)) = some (.integer value, rest) := by
  have hzero : (Nat.toDigits 10 value.natAbs).head? = some '0' →
      (Nat.toDigits 10 value.natAbs).length = 1 ∧ (0 : Nat) = 0 := by
    intro hhead
    have hvalue : value.natAbs = 0 := by
      by_contra hnonzero
      exact head?_toDigits_ne_zero hnonzero hhead
    rw [hvalue, Nat.toDigits_zero]
    exact ⟨rfl, rfl⟩
  have hread := parseJsonNumber_whole (sign_cases value)
    (all_isDecimalDigit_toDigits value.natAbs) hrest Nat.toDigits_ne_nil hzero
  rw [parseDigits_toDigits, sign_mul_natAbs] at hread
  simpa [JsonNumber.ofScientific] using hread

theorem parseJsonNumber_text (number : JsonNumber) {rest : List Char}
    (hrest : EndsNumber rest) :
    parseJsonNumber (number.text ++ rest) = some (number, rest) := by
  cases number with
  | integer value =>
      have hdigits := all_isDecimalDigit_toDigits value.natAbs
      unfold JsonNumber.text
      by_cases hshort : (Nat.toDigits 10 value.natAbs).length ≤ 21
      · simp only [if_pos hshort, List.append_assoc]
        exact parseJsonNumber_integer_short hrest
      · have hvalue : value.natAbs ≠ 0 := by
          intro hvalue
          rw [hvalue, Nat.toDigits_zero] at hshort
          exact hshort (by decide)
        have hhead := head?_toDigits_ne_zero hvalue
        obtain ⟨count, hzeros⟩ := dropTrailingZeros_append (Nat.toDigits 10 value.natAbs)
        have hnonempty := dropTrailingZeros_ne_nil Nat.toDigits_ne_nil hhead
        have hkept : ∀ c ∈ dropTrailingZeros (Nat.toDigits 10 value.natAbs),
            isDecimalDigit c := by
          intro c hc
          exact hdigits c (mem_of_mem_dropTrailingZeros hc)
        have hkeptHead :
            (dropTrailingZeros (Nat.toDigits 10 value.natAbs)).head? ≠ some '0' := by
          rw [← hzeros, List.head?_append_of_ne_nil _ hnonempty] at hhead
          exact hhead
        have hlength : ((Nat.toDigits 10 value.natAbs).length : Int) -
            (dropTrailingZeros (Nat.toDigits 10 value.natAbs)).length = count := by
          have hsum := congrArg List.length hzeros
          rw [List.length_append, List.length_replicate] at hsum
          omega
        have hnumber : (parseDigits 10 (dropTrailingZeros (Nat.toDigits 10 value.natAbs)) *
            10 ^ count : Nat) = value.natAbs := by
          rw [← parseDigits_append_zeros, hzeros, parseDigits_toDigits]
        have hread := parseJsonNumber_decimalText (sign_cases value) hkept hrest hnonempty
          hkeptHead (Nat.toDigits 10 value.natAbs).length
        simp only [if_neg hshort, List.append_assoc]
        have hwhole : (parseDigits 10 (dropTrailingZeros (Nat.toDigits 10 value.natAbs)) : Int) *
            10 ^ count = value.natAbs := by
          exact_mod_cast hnumber
        rw [hread, hlength, ← ofScientific_mul_pow, mul_assoc, hwhole, sign_mul_natAbs]
        simp [JsonNumber.ofScientific]
  | fraction significand places reduced =>
      have hvalue : significand.natAbs ≠ 0 := by
        intro hvalue
        rw [Int.natAbs_eq_zero.mp hvalue] at reduced
        exact reduced rfl
      have hread := parseJsonNumber_decimalText (sign_cases significand)
        (all_isDecimalDigit_toDigits significand.natAbs) hrest Nat.toDigits_ne_nil
        (head?_toDigits_ne_zero hvalue)
        ((Nat.toDigits 10 significand.natAbs).length - (places + 1 : Nat))
      have hplaces : ((Nat.toDigits 10 significand.natAbs).length - (places + 1 : Nat) : Int) -
          (Nat.toDigits 10 significand.natAbs).length = -((places + 1 : Nat) : Int) := by
        ring
      have hnumber : JsonNumber.ofScientific significand (-((places + 1 : Nat) : Int)) =
          .fraction significand places reduced := by
        have hnegative : ¬ (0 : Int) ≤ -((places + 1 : Nat) : Int) := by omega
        have hcount : (-(-((places + 1 : Nat) : Int))).toNat = places + 1 := by omega
        rw [JsonNumber.ofScientific, if_neg hnegative, hcount, JsonNumber.ofDecimal,
          dif_pos reduced]
      unfold JsonNumber.text
      simp only [List.append_assoc]
      rw [hread, parseDigits_toDigits, sign_mul_natAbs, hplaces, hnumber]

/-! ## Values -/

/-- A value as JavaScript holds it: every object lists its properties in the order
of enumeration. -/
inductive JsonValue.IsEnumerated : JsonValue → Prop
  | null : IsEnumerated .null
  | bool (value : Bool) : IsEnumerated (.bool value)
  | number (value : JsonNumber) : IsEnumerated (.number value)
  | string (value : String) : IsEnumerated (.string value)
  | array {items : List JsonValue} (hitems : ∀ item ∈ items, IsEnumerated item) :
      IsEnumerated (.array items)
  | object {entries : List (String × JsonValue)} (horder : spread [] entries = entries)
      (hentries : ∀ entry ∈ entries, IsEnumerated entry.2) :
      IsEnumerated (.object entries)

theorem defineProperty_of_new {entries : List (String × JsonValue)} {key : String}
    (hnew : key ∉ entries.map Prod.fst) (hname : arrayIndex? key = none)
    (value : JsonValue) :
    defineProperty entries key value = entries ++ [(key, value)] := by
  have habsent : ¬ entries.any (fun entry => entry.1 == key) := by
    intro hany
    obtain ⟨entry, hentry, hkey⟩ := List.any_eq_true.mp hany
    apply hnew
    rw [← beq_iff_eq.mp hkey]
    exact List.mem_map_of_mem hentry
  rw [defineProperty, if_neg habsent, hname]

/-- Properties with different names, none of them an index, stay in the order in
which they were created. -/
theorem spread_append {before entries : List (String × JsonValue)}
    (hdistinct : ((before ++ entries).map Prod.fst).Nodup)
    (hnames : ∀ key ∈ entries.map Prod.fst, arrayIndex? key = none) :
    spread before entries = before ++ entries := by
  induction entries generalizing before with
  | nil => rw [List.append_nil, spread, List.foldl_nil]
  | cons entry entries ih =>
      have hnew : entry.1 ∉ before.map Prod.fst := by
        rw [List.map_append, List.map_cons] at hdistinct
        intro hold
        exact (List.nodup_append'.mp hdistinct).2.2 hold List.mem_cons_self
      have hname := hnames entry.1 List.mem_cons_self
      rw [spread, List.foldl_cons, defineProperty_of_new hnew hname]
      have hlater : ((before ++ [entry] ++ entries).map Prod.fst).Nodup := by
        rwa [List.append_assoc, List.singleton_append]
      have hrest := ih hlater fun key hkey => hnames key (List.mem_cons_of_mem _ hkey)
      rw [List.append_assoc, List.singleton_append] at hrest
      exact hrest

theorem skipJsonSpace_cons (rest : List Char) (hspace : c ≠ ' ' ∧ c ≠ '\t' ∧ c ≠ '\n' ∧ c ≠ '\r') :
    skipJsonSpace (c :: rest) = c :: rest := by
  simp [skipJsonSpace, hspace]

def StartsNumber (c : Char) : Prop :=
  c = '-' ∨ isDecimalDigit c

theorem StartsNumber.ne {other : Char} (hstart : StartsNumber c) (hother : ¬ StartsNumber other) :
    c ≠ other := by
  rintro rfl
  exact hother hstart

instance (c : Char) : Decidable (StartsNumber c) :=
  inferInstanceAs (Decidable (_ ∨ _))

theorem decimalText_start (hnonempty : digits ≠ []) (hdigits : ∀ c ∈ digits, isDecimalDigit c)
    (point : Int) :
    ∃ c rest, decimalText digits point = c :: rest ∧ StartsNumber c := by
  obtain ⟨first, others, rfl⟩ := List.exists_cons_of_ne_nil hnonempty
  have hfirst : StartsNumber first := Or.inr (hdigits first List.mem_cons_self)
  unfold decimalText
  by_cases hinteger : ((first :: others).length : Int) ≤ point ∧ point ≤ 21
  · simp only [if_pos hinteger]
    exact ⟨first, _, rfl, hfirst⟩
  · simp only [if_neg hinteger]
    by_cases hinside : 0 < point ∧ point ≤ 21
    · obtain ⟨count, hcount⟩ : ∃ count, point.toNat = count + 1 := ⟨point.toNat - 1, by omega⟩
      simp only [if_pos hinside, hcount]
      exact ⟨first, _, rfl, hfirst⟩
    · simp only [if_neg hinside]
      by_cases hbefore : -6 < point ∧ point ≤ 0
      · simp only [if_pos hbefore]
        exact ⟨'0', _, rfl, Or.inr (by decide)⟩
      · simp only [if_neg hbefore]
        cases others with
        | nil => exact ⟨first, _, rfl, hfirst⟩
        | cons second others => exact ⟨first, _, rfl, hfirst⟩

theorem JsonNumber.text_start (number : JsonNumber) :
    ∃ c rest, number.text = c :: rest ∧ StartsNumber c := by
  have hsigned : ∀ (negative : Prop) [Decidable negative] (text : List Char),
      (∃ c rest, text = c :: rest ∧ StartsNumber c) →
      ∃ c rest, (if negative then ['-'] else []) ++ text = c :: rest ∧ StartsNumber c := by
    intro negative _ text htext
    by_cases hnegative : negative
    · rw [if_pos hnegative]
      exact ⟨'-', text, rfl, Or.inl rfl⟩
    · rw [if_neg hnegative]
      exact htext
  cases number with
  | integer value =>
      have hdigits := all_isDecimalDigit_toDigits value.natAbs
      unfold JsonNumber.text
      by_cases hshort : (Nat.toDigits 10 value.natAbs).length ≤ 21
      · simp only [if_pos hshort]
        apply hsigned
        obtain ⟨first, others, hform⟩ :=
          List.exists_cons_of_ne_nil (Nat.toDigits_ne_nil (b := 10) (n := value.natAbs))
        refine ⟨first, others, hform, Or.inr (hdigits first ?_)⟩
        rw [hform]
        exact List.mem_cons_self
      · have hvalue : value.natAbs ≠ 0 := by
          intro hvalue
          rw [hvalue, Nat.toDigits_zero] at hshort
          exact hshort (by decide)
        simp only [if_neg hshort]
        apply hsigned
        apply decimalText_start
        · exact dropTrailingZeros_ne_nil Nat.toDigits_ne_nil (head?_toDigits_ne_zero hvalue)
        · intro c hc
          exact hdigits c (mem_of_mem_dropTrailingZeros hc)
  | fraction significand places reduced =>
      unfold JsonNumber.text
      apply hsigned
      exact decimalText_start Nat.toDigits_ne_nil
        (all_isDecimalDigit_toDigits significand.natAbs) _

theorem JsonValue.serialize_start (value : JsonValue) :
    ∃ c rest, value.serialize = c :: rest ∧
      (c ≠ ' ' ∧ c ≠ '\t' ∧ c ≠ '\n' ∧ c ≠ '\r') ∧ c ≠ ']' := by
  cases value with
  | null => exact ⟨'n', _, rfl, by decide, by decide⟩
  | bool value => cases value with
    | true => exact ⟨'t', _, rfl, by decide, by decide⟩
    | false => exact ⟨'f', _, rfl, by decide, by decide⟩
  | number value =>
      obtain ⟨c, rest, htext, hstart⟩ := value.text_start
      refine ⟨c, rest, htext, ⟨?_, ?_, ?_, ?_⟩, ?_⟩ <;> exact hstart.ne (by decide)
  | string value => exact ⟨'"', _, rfl, by decide, by decide⟩
  | array items => exact ⟨'[', _, rfl, by decide, by decide⟩
  | object entries => exact ⟨'\x7b', _, rfl, by decide, by decide⟩

theorem serializeItems_start (item : JsonValue) (items : List JsonValue) :
    ∃ c rest, serializeItems (item :: items) = c :: rest ∧
      (c ≠ ' ' ∧ c ≠ '\t' ∧ c ≠ '\n' ∧ c ≠ '\r') ∧ c ≠ ']' := by
  obtain ⟨c, rest, hform, hstart⟩ := item.serialize_start
  cases items with
  | nil => exact ⟨c, rest, hform, hstart⟩
  | cons second others =>
      rw [serializeItems, hform]
      exact ⟨c, _, rfl, hstart⟩

theorem serializeEntries_start (entry : String × JsonValue)
    (entries : List (String × JsonValue)) :
    ∃ rest, serializeEntries (entry :: entries) = '"' :: rest := by
  cases entries with
  | nil => exact ⟨_, rfl⟩
  | cons second others => exact ⟨_, rfl⟩

structure ReadsBack (fuel : Nat) : Prop where
  value : ∀ {value : JsonValue} {rest : List Char}, value.IsEnumerated → EndsNumber rest →
    2 * value.serialize.length ≤ fuel →
    parseJsonValue fuel (value.serialize ++ rest) = some (value, rest)
  items : ∀ {item : JsonValue} {items : List JsonValue} (rest : List Char),
    (∀ other ∈ item :: items, other.IsEnumerated) →
    2 * (serializeItems (item :: items)).length < fuel →
    parseJsonItems fuel (serializeItems (item :: items) ++ ']' :: rest) =
      some (item :: items, rest)
  entries : ∀ {entry : String × JsonValue} {entries : List (String × JsonValue)}
    (rest : List Char), (∀ other ∈ entry :: entries, other.2.IsEnumerated) →
    2 * (serializeEntries (entry :: entries)).length < fuel →
    parseJsonEntries fuel (serializeEntries (entry :: entries) ++ '\x7d' :: rest) =
      some (entry :: entries, rest)

theorem endsNumber_cons (rest : List Char) (hdigit : isDecimalDigit c = false)
    (hother : c ≠ '.' ∧ c ≠ 'e' ∧ c ≠ 'E') : EndsNumber (c :: rest) where
  noDigit := noDigit_cons hdigit
  noPoint := by simpa using hother.1
  noExponent := by simpa using hother.2

theorem dropLiteral?_single {other : Char} (hother : other ≠ c) (rest : List Char) :
    dropLiteral? [c] (other :: rest) = none := by
  simp [dropLiteral?, Ne.symm hother]

theorem parseKey_quoteText (key : String) (rest : List Char) :
    (dropLiteral? ['"'] (skipJsonSpace (quoteText key ++ rest))).bind parseStringText =
      some (key, rest) := by
  have hread := parseStringText_quoted key rest
  simp [quoteText, skipJsonSpace, dropLiteral?, hread]

section ReadsBack

variable {fuel : Nat} (hfuel : ReadsBack fuel)

include hfuel

theorem parseJsonValue_serialize {value : JsonValue} {rest : List Char}
    (hvalue : value.IsEnumerated) (hrest : EndsNumber rest)
    (hlength : 2 * value.serialize.length ≤ fuel + 1) :
    parseJsonValue (fuel + 1) (value.serialize ++ rest) = some (value, rest) := by
  cases hvalue with
  | null => simp [JsonValue.serialize, parseJsonValue, skipJsonSpace, dropLiteral?]
  | bool value =>
      cases value <;> simp [JsonValue.serialize, parseJsonValue, skipJsonSpace, dropLiteral?]
  | number value =>
      obtain ⟨c, others, htext, hstart⟩ := value.text_start
      have hread := parseJsonNumber_text value hrest
      have hspace : c ≠ ' ' ∧ c ≠ '\t' ∧ c ≠ '\n' ∧ c ≠ '\r' := by
        refine ⟨?_, ?_, ?_, ?_⟩ <;> exact hstart.ne (by decide)
      rw [htext, List.cons_append] at hread
      simp only [JsonValue.serialize, htext, List.cons_append]
      rw [parseJsonValue, skipJsonSpace_cons _ hspace]
      simp only [if_neg (hstart.ne (by decide : ¬ StartsNumber 'n')),
        if_neg (hstart.ne (by decide : ¬ StartsNumber 't')),
        if_neg (hstart.ne (by decide : ¬ StartsNumber 'f')),
        if_neg (hstart.ne (by decide : ¬ StartsNumber '"')),
        if_neg (hstart.ne (by decide : ¬ StartsNumber '[')),
        if_neg (hstart.ne (by decide : ¬ StartsNumber '\x7b')), hread]
      rfl
  | string value =>
      have hread := parseStringText_quoted value rest
      simp only [JsonValue.serialize, quoteText, List.cons_append, List.append_assoc,
        List.nil_append]
      rw [parseJsonValue, skipJsonSpace_cons _ (by decide)]
      simp [hread]
  | array hitems =>
      rename_i items
      cases items with
      | nil => simp [JsonValue.serialize, serializeItems, parseJsonValue, skipJsonSpace,
          dropLiteral?]
      | cons item items =>
          have hbound : 2 * (serializeItems (item :: items)).length < fuel := by
            rw [JsonValue.serialize, List.length_append, List.length_cons] at hlength
            simp only [List.length_cons, List.length_nil] at hlength
            omega
          have hread := hfuel.items rest hitems hbound
          obtain ⟨c, others, hform, hspace, hclose⟩ := serializeItems_start item items
          have hopen : dropLiteral? [']']
              (skipJsonSpace (serializeItems (item :: items) ++ ']' :: rest)) = none := by
            rw [hform, List.cons_append, skipJsonSpace_cons _ hspace,
              dropLiteral?_single hclose]
          simp only [JsonValue.serialize, List.cons_append, List.append_assoc,
            List.nil_append]
          rw [parseJsonValue, skipJsonSpace_cons _ (by decide)]
          simp [hopen, hread]
  | object horder hentries =>
      rename_i entries
      cases entries with
      | nil => simp [JsonValue.serialize, serializeEntries, parseJsonValue, skipJsonSpace,
          dropLiteral?]
      | cons entry entries =>
          have hbound : 2 * (serializeEntries (entry :: entries)).length < fuel := by
            rw [JsonValue.serialize, List.length_append, List.length_cons] at hlength
            simp only [List.length_cons, List.length_nil] at hlength
            omega
          have hread := hfuel.entries rest hentries hbound
          obtain ⟨others, hform⟩ := serializeEntries_start entry entries
          have hopen : dropLiteral? ['\x7d']
              (skipJsonSpace (serializeEntries (entry :: entries) ++ '\x7d' :: rest)) =
                none := by
            rw [hform, List.cons_append, skipJsonSpace_cons _ (by decide),
              dropLiteral?_single (by decide)]
          simp only [JsonValue.serialize, List.cons_append, List.append_assoc,
            List.nil_append]
          rw [parseJsonValue, skipJsonSpace_cons _ (by decide)]
          simp [hopen, hread, horder]

theorem parseJsonItems_serialize {item : JsonValue} {items : List JsonValue}
    (rest : List Char) (hitems : ∀ other ∈ item :: items, other.IsEnumerated)
    (hlength : 2 * (serializeItems (item :: items)).length < fuel + 1) :
    parseJsonItems (fuel + 1) (serializeItems (item :: items) ++ ']' :: rest) =
      some (item :: items, rest) := by
  have hitem := hitems item List.mem_cons_self
  cases items with
  | nil =>
      rw [serializeItems] at hlength ⊢
      rw [parseJsonItems, hfuel.value hitem (endsNumber_cons rest (by decide) (by decide))
        (by omega)]
      simp [skipJsonSpace]
  | cons second others =>
      have hothers : ∀ other ∈ second :: others, other.IsEnumerated :=
        fun other hother => hitems other (List.mem_cons_of_mem _ hother)
      rw [serializeItems, List.length_append, List.length_cons] at hlength
      rw [serializeItems, List.append_assoc, List.cons_append, parseJsonItems,
        hfuel.value hitem (endsNumber_cons _ (by decide) (by decide)) (by omega)]
      simp [skipJsonSpace, hfuel.items rest hothers (by omega)]

theorem parseJsonEntries_serialize {entry : String × JsonValue}
    {entries : List (String × JsonValue)} (rest : List Char)
    (hentries : ∀ other ∈ entry :: entries, other.2.IsEnumerated)
    (hlength : 2 * (serializeEntries (entry :: entries)).length < fuel + 1) :
    parseJsonEntries (fuel + 1) (serializeEntries (entry :: entries) ++ '\x7d' :: rest) =
      some (entry :: entries, rest) := by
  obtain ⟨key, value⟩ := entry
  have hvalue : value.IsEnumerated := hentries (key, value) List.mem_cons_self
  cases entries with
  | nil =>
      have hbound : 2 * value.serialize.length ≤ fuel := by
        rw [serializeEntries, List.length_append, List.length_cons] at hlength
        omega
      have hread := hfuel.value hvalue
        (endsNumber_cons (c := '\x7d') rest (by decide) (by decide)) hbound
      rw [serializeEntries, parseJsonEntries, List.append_assoc, List.cons_append,
        parseKey_quoteText]
      simp [skipJsonSpace, dropLiteral?, hread]
  | cons second others =>
      have hothers : ∀ other ∈ second :: others, other.2.IsEnumerated :=
        fun other hother => hentries other (List.mem_cons_of_mem _ hother)
      have hbound : 2 * value.serialize.length ≤ fuel ∧
          2 * (serializeEntries (second :: others)).length < fuel := by
        simp only [serializeEntries, List.length_append, List.length_cons] at hlength
        constructor <;> omega
      have hread := hfuel.value hvalue
        (endsNumber_cons (c := ',')
          (serializeEntries (second :: others) ++ '\x7d' :: rest) (by decide) (by decide))
        hbound.1
      have hmembers := hfuel.entries rest hothers hbound.2
      rw [serializeEntries, parseJsonEntries]
      simp only [List.append_assoc, List.cons_append]
      rw [parseKey_quoteText]
      simp [skipJsonSpace, dropLiteral?, hread, hmembers]

end ReadsBack

theorem readsBack (fuel : Nat) : ReadsBack fuel := by
  induction fuel with
  | zero =>
      constructor
      · intro value rest _ _ hlength
        obtain ⟨c, others, hform, -⟩ := value.serialize_start
        rw [hform, List.length_cons] at hlength
        omega
      · intro item items _ _ hlength
        omega
      · intro entry entries _ _ hlength
        omega
  | succ fuel ih =>
      constructor
      · exact parseJsonValue_serialize ih
      · exact parseJsonItems_serialize ih
      · exact parseJsonEntries_serialize ih

/-- `JSON.parse` inverts `JSON.stringify`. -/
theorem parseJson?_stringify {value : JsonValue} (hvalue : value.IsEnumerated) :
    parseJson? value.stringify = some value := by
  have hend : EndsNumber [] := {
    noDigit := by
      intro c hc
      cases hc
    noPoint := by simp
    noExponent := by simp }
  have hread := (readsBack (2 * value.serialize.length + 2)).value hvalue hend (by omega)
  rw [List.append_nil] at hread
  have htext : value.stringify.toList = value.serialize := String.toList_ofList
  simp only [parseJson?, htext, hread]
  rfl

end TauriPlatform
