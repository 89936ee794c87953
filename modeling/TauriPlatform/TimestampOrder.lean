import TauriPlatform.IsoOrder

/-!
# The order of timestamps as texts

Outside of the years 0 to 9999 the text of an instant begins with a sign, and the texts are not
ordered as the instants are.  A decimal number among such texts is ordered by its first digits.
The module names nothing of a particular program.
-/

namespace TauriPlatform

/-! ## Digits -/

theorem digitChar_bounds : ∀ digit < 10, '0' ≤ Nat.digitChar digit ∧ Nat.digitChar digit ≤ '9' := by
  decide

theorem fixedDigits_bounds {width value : Nat} {c : Char} (hc : c ∈ fixedDigits 10 width value) :
    '0' ≤ c ∧ c ≤ '9' := by
  induction width generalizing value with
  | zero => cases hc
  | succ width ih =>
      rw [fixedDigits, List.mem_append, List.mem_singleton] at hc
      cases hc with
      | inl hfirst => exact ih hfirst
      | inr hlast =>
          rw [hlast]
          exact digitChar_bounds _ (Nat.mod_lt _ (by decide))

theorem exists_fixedDigits_succ (width value : Nat) :
    ∃ digit rest, fixedDigits 10 (width + 1) value = digit :: rest ∧ '0' ≤ digit ∧ digit ≤ '9' := by
  cases hdigits : fixedDigits 10 (width + 1) value with
  | nil =>
      have hlength := congrArg List.length hdigits
      rw [fixedDigits_length] at hlength
      cases hlength
  | cons digit rest =>
      have hmem : digit ∈ fixedDigits 10 (width + 1) value := by
        rw [hdigits]
        exact List.mem_cons_self
      exact ⟨digit, rest, rfl, fixedDigits_bounds hmem⟩

theorem fixedDigits_add (radix high low value : Nat) :
    fixedDigits radix (high + low) value =
      fixedDigits radix high (value / radix ^ low) ++ fixedDigits radix low value := by
  induction low generalizing value with
  | zero => simp [fixedDigits]
  | succ low ih =>
      rw [← Nat.add_assoc, fixedDigits, ih, fixedDigits, Nat.div_div_eq_div_mul, Nat.pow_succ',
        List.append_assoc]

theorem toDigits_eq_fixedDigits {radix : Nat} (hradix : 1 < radix) (value : Nat) :
    Nat.toDigits radix value = fixedDigits radix (Nat.toDigits radix value).length value := by
  induction value using Nat.strongRecOn with
  | ind value ih =>
      by_cases hsmall : value < radix
      · rw [Nat.toDigits_of_lt_base hsmall]
        simp [fixedDigits, Nat.mod_eq_of_lt hsmall]
      · have hquotient : value / radix < value :=
          Nat.div_lt_self (by omega) hradix
        rw [Nat.toDigits_of_base_le hradix (by omega), List.length_append,
          List.length_singleton, fixedDigits, ← ih (value / radix) hquotient]

theorem lt_pow_length_toDigits {radix : Nat} (hradix : 1 < radix) (value : Nat) :
    value < radix ^ (Nat.toDigits radix value).length :=
  (Nat.length_toDigits_le_iff hradix (List.length_pos_iff.mpr (Nat.toDigits_ne_nil))).mp le_rfl

/-! ## A decimal number beside an instant -/

/-- The decimal text of the number is not after the texts of a year, which begin with the four
digits of the year and a hyphen. -/
def LeadsUpTo (value year : Nat) : Prop :=
  if (Nat.toDigits 10 value).length ≤ 4 then
    value ≤ year / 10 ^ (4 - (Nat.toDigits 10 value).length)
  else value / 10 ^ ((Nat.toDigits 10 value).length - 4) < year

instance (value year : Nat) : Decidable (LeadsUpTo value year) :=
  inferInstanceAs (Decidable (ite _ _ _))

theorem toDigits_le_iff {value year : Nat} (hyear : year < 10 ^ 4) (rest : List Char) :
    Nat.toDigits 10 value ≤ fixedDigits 10 4 year ++ '-' :: rest ↔ LeadsUpTo value year := by
  have hvalue := @lt_pow_length_toDigits 10 (by decide) value
  unfold LeadsUpTo
  rw [@toDigits_eq_fixedDigits 10 (by decide) value]
  simp only [fixedDigits_length]
  generalize (Nat.toDigits 10 value).length = digits at *
  split_ifs with hdigits
  · -- The number is compared with the first digits of the year.
    obtain ⟨more, hmore⟩ := Nat.exists_eq_add_of_le hdigits
    have hquotient : year / 10 ^ more < 10 ^ digits := by
      rw [Nat.div_lt_iff_lt_mul (by positivity), ← Nat.pow_add, ← hmore]
      exact hyear
    rw [hmore, fixedDigits_add, List.append_assoc, Nat.add_sub_cancel_left]
    rcases lt_trichotomy value (year / 10 ^ more) with hlt | heq | hgt
    · have hbefore := @field_lt digits _ _ [] (fixedDigits 10 more year ++ '-' :: rest) hquotient
        (.inl hlt)
      rw [List.append_nil] at hbefore
      exact iff_of_true hbefore.le hlt.le
    · have hnonempty : [] < fixedDigits 10 more year ++ '-' :: rest := by
        cases fixedDigits 10 more year <;> exact List.nil_lt_cons _ _
      have hbefore := @field_lt digits value _ [] (fixedDigits 10 more year ++ '-' :: rest)
        hquotient (.inr ⟨heq, hnonempty⟩)
      rw [List.append_nil] at hbefore
      exact iff_of_true hbefore.le heq.le
    · have hafter := @field_lt digits _ _ (fixedDigits 10 more year ++ '-' :: rest) [] hvalue
        (.inl hgt)
      rw [List.append_nil] at hafter
      exact iff_of_false hafter.not_ge hgt.not_ge
  · -- The first four digits are compared with the year; behind them a digit is after a hyphen.
    obtain ⟨more, hmore⟩ := Nat.exists_eq_add_of_lt (Nat.lt_of_not_le hdigits)
    have hsum : digits = 4 + (more + 1) := hmore
    have hquotient : value / 10 ^ (more + 1) < 10 ^ 4 := by
      rw [Nat.div_lt_iff_lt_mul (by positivity), ← Nat.pow_add, ← hsum]
      exact hvalue
    rw [hsum, fixedDigits_add, Nat.add_sub_cancel_left]
    rcases lt_trichotomy (value / 10 ^ (more + 1)) year with hlt | heq | hgt
    · exact iff_of_true (field_lt hyear (.inl hlt)).le hlt
    · obtain ⟨digit, others, hfield, hdigit, -⟩ := exists_fixedDigits_succ more value
      have hhyphen : '-' < digit := lt_of_lt_of_le (by decide) hdigit
      have hafter : fixedDigits 10 4 year ++ '-' :: rest <
          fixedDigits 10 4 (value / 10 ^ (more + 1)) ++ fixedDigits 10 (more + 1) value := by
        rw [hfield]
        exact field_lt hquotient (.inr ⟨heq.symm, List.cons_lt_cons_iff.mpr (.inl hhyphen)⟩)
      exact iff_of_false hafter.not_ge heq.not_lt
    · have hafter := @field_lt 4 _ _ ('-' :: rest) (fixedDigits 10 (more + 1) value) hquotient
        (.inl hgt)
      exact iff_of_false hafter.not_ge hgt.not_gt

/-! ## Instants of all years -/

def yearOf (instant : Int) : Int :=
  (civilOfDays (instant / millisPerDay)).year

def afterYear (instant : Int) : List Char :=
  '-' :: (fixedDigits 10 2 (civilOfDays (instant / millisPerDay)).month ++
    '-' :: (fixedDigits 10 2 (civilOfDays (instant / millisPerDay)).day ++
      timeText (instant % millisPerDay).toNat))

theorem isoChars_eq_year (instant : Int) :
    isoChars instant = yearText (yearOf instant) ++ afterYear instant :=
  isoChars_eq instant

theorem yearOf_mono {earlier later : Int} (hle : earlier ≤ later) : yearOf earlier ≤ yearOf later :=
  year_mono (Int.ediv_le_ediv (by decide) hle)

theorem afterYear_lt {earlier later : Int} (hlt : earlier < later)
    (hyear : yearOf earlier = yearOf later) : afterYear earlier < afterYear later := by
  unfold afterYear
  apply List.cons_lt_cons_self.mpr
  by_cases hday : earlier / millisPerDay = later / millisPerDay
  · rw [hday]
    apply List.append_left_lt
    apply List.cons_lt_cons_self.mpr
    apply List.append_left_lt
    simp only [millisPerDay] at hday ⊢
    exact timeText_lt (by omega) (by omega)
  · have hdays : earlier / millisPerDay < later / millisPerDay := by
      simp only [millisPerDay] at hday ⊢
      omega
    have hbounds := civilOfDays_bounds (later / millisPerDay)
    have hbefore := civilOfDays_before hdays
    simp only [CivilDate.Before] at hbefore
    have hsame : (civilOfDays (earlier / millisPerDay)).year =
        (civilOfDays (later / millisPerDay)).year := hyear
    rw [hsame] at hbefore
    rcases hbefore with hlt | ⟨-, hmonth | ⟨hmonth, hday⟩⟩
    · exact absurd hlt (lt_irrefl _)
    · exact field_lt hbounds.1 (.inl hmonth)
    · exact field_lt hbounds.1 (.inr ⟨hmonth,
        List.cons_lt_cons_self.mpr (field_lt hbounds.2 (.inl hday))⟩)

theorem yearOf_bounds {instant : Int} (hrange : instant.natAbs ≤ maxTimeValue.natAbs) :
    (yearOf instant).natAbs < 10 ^ 6 := by
  have hfirst : (civilOfDays (-100000000)).year = -271821 := by decide
  have hlast : (civilOfDays 100000000).year = 275760 := by decide
  have hmax : maxTimeValue.natAbs = 8640000000000000 := by decide
  rw [hmax] at hrange
  have hlow : (-100000000 : Int) ≤ instant / millisPerDay := by
    simp only [millisPerDay]
    omega
  have hhigh : instant / millisPerDay ≤ 100000000 := by
    simp only [millisPerDay]
    omega
  have hyearLow := year_mono hlow
  have hyearHigh := year_mono hhigh
  simp only [hfirst, hlast] at hyearLow hyearHigh
  rw [yearOf]
  omega

/-- The text of the later year is before the text of the earlier one: a plus sign is before all
other texts, and years before the year 0 are written by their distance. -/
def YearsSwap (earlier later : Int) : Prop :=
  earlier ≤ 9999 ∧ 9999 < later ∨ earlier < later ∧ later < 0

instance (earlier later : Int) : Decidable (YearsSwap earlier later) :=
  inferInstanceAs (Decidable (_ ∨ _))

section Years

variable {earlier later : Int} {earlierRest laterRest : List Char}

theorem yearText_of_four (hlow : 0 ≤ earlier) (hhigh : earlier ≤ 9999) :
    yearText earlier = fixedDigits 10 4 earlier.toNat :=
  if_pos ⟨hlow, hhigh⟩

theorem yearText_of_negative (hnegative : earlier < 0) :
    yearText earlier = '-' :: fixedDigits 10 6 earlier.natAbs := by
  rw [yearText, if_neg (by omega), if_pos hnegative]

theorem yearText_of_large (hlarge : 9999 < earlier) :
    yearText earlier = '+' :: fixedDigits 10 6 earlier.natAbs := by
  rw [yearText, if_neg (by omega), if_neg (by omega)]

theorem yearText_large_lt (hearlier : earlier ≤ 9999) (hlater : 9999 < later) :
    yearText later ++ laterRest < yearText earlier ++ earlierRest := by
  rw [yearText_of_large hlater]
  by_cases hnegative : earlier < 0
  · rw [yearText_of_negative hnegative]
    exact List.cons_lt_cons_iff.mpr (.inl (by decide))
  · obtain ⟨digit, others, hfield, hdigit, -⟩ := exists_fixedDigits_succ 3 earlier.toNat
    rw [yearText_of_four (by omega) hearlier, hfield]
    exact List.cons_lt_cons_iff.mpr (.inl (lt_of_lt_of_le (by decide) hdigit))

theorem yearText_negative_lt (hlt : earlier < later) (hlater : later < 0)
    (hbound : earlier.natAbs < 10 ^ 6) :
    yearText later ++ laterRest < yearText earlier ++ earlierRest := by
  rw [yearText_of_negative hlater, yearText_of_negative (by omega)]
  exact List.cons_lt_cons_self.mpr (field_lt hbound (.inl (by omega)))

theorem yearText_lt (hlt : earlier < later) (hswap : ¬ YearsSwap earlier later)
    (hbound : later.natAbs < 10 ^ 6) :
    yearText earlier ++ earlierRest < yearText later ++ laterRest := by
  have hlater : 0 ≤ later := by
    by_contra hnegative
    exact hswap (.inr ⟨hlt, by omega⟩)
  by_cases hlarge : 9999 < later
  · have hearlier : 9999 < earlier := by
      by_contra hsmall
      exact hswap (.inl ⟨by omega, hlarge⟩)
    rw [yearText_of_large hearlier, yearText_of_large hlarge]
    exact List.cons_lt_cons_self.mpr (field_lt hbound (.inl (by omega)))
  · rw [yearText_of_four hlater (by omega)]
    by_cases hnegative : earlier < 0
    · obtain ⟨digit, others, hfield, hdigit, -⟩ := exists_fixedDigits_succ 3 later.toNat
      rw [yearText_of_negative hnegative, hfield]
      exact List.cons_lt_cons_iff.mpr (.inl (lt_of_lt_of_le (by decide) hdigit))
    · rw [yearText_of_four (by omega) (by omega)]
      exact field_lt (by omega) (.inl (by omega))

end Years

theorem isoChars_le_iff_swap {earlier later : Int}
    (hearlier : earlier.natAbs ≤ maxTimeValue.natAbs)
    (hlater : later.natAbs ≤ maxTimeValue.natAbs) (hlt : earlier < later) :
    isoChars later ≤ isoChars earlier ↔ YearsSwap (yearOf earlier) (yearOf later) := by
  rw [isoChars_eq_year, isoChars_eq_year]
  cases (yearOf_mono hlt.le).eq_or_lt with
  | inl hsame =>
      have hbefore : yearText (yearOf earlier) ++ afterYear earlier <
          yearText (yearOf later) ++ afterYear later := by
        rw [hsame]
        exact List.append_left_lt (afterYear_lt hlt hsame)
      refine iff_of_false hbefore.not_ge ?_
      unfold YearsSwap
      omega
  | inr hyears =>
      by_cases hswap : YearsSwap (yearOf earlier) (yearOf later)
      · refine iff_of_true (le_of_lt ?_) hswap
        rcases hswap with ⟨hsmall, hlarge⟩ | ⟨-, hnegative⟩
        · exact yearText_large_lt hsmall hlarge
        · exact yearText_negative_lt hyears hnegative (yearOf_bounds hearlier)
      · exact iff_of_false (yearText_lt hyears hswap (yearOf_bounds hlater)).not_ge hswap

theorem toDigits_le_isoChars_iff {value : Nat} {instant : Int} :
    Nat.toDigits 10 value ≤ isoChars instant ↔
      0 ≤ yearOf instant ∧ yearOf instant ≤ 9999 ∧ LeadsUpTo value (yearOf instant).toNat := by
  rw [isoChars_eq_year]
  by_cases hfour : 0 ≤ yearOf instant ∧ yearOf instant ≤ 9999
  · rw [yearText_of_four hfour.1 hfour.2, afterYear, toDigits_le_iff (by omega)]
    exact ⟨fun hleads => ⟨hfour.1, hfour.2, hleads⟩, fun h => h.2.2⟩
  · have hsign : ∃ sign others, yearText (yearOf instant) = sign :: others ∧ sign < '0' := by
      by_cases hnegative : yearOf instant < 0
      · exact ⟨_, _, yearText_of_negative hnegative, by decide⟩
      · exact ⟨_, _, yearText_of_large (by omega), by decide⟩
    obtain ⟨sign, others, hsign, hbefore⟩ := hsign
    refine iff_of_false (not_le_of_gt ?_) fun h => hfour ⟨h.1, h.2.1⟩
    rw [hsign]
    cases hdigits : Nat.toDigits 10 value with
    | nil => exact absurd hdigits Nat.toDigits_ne_nil
    | cons digit rest =>
        have hdigit : digit ∈ fixedDigits 10 (Nat.toDigits 10 value).length value := by
          rw [← toDigits_eq_fixedDigits (by decide), hdigits]
          exact List.mem_cons_self
        exact List.cons_lt_cons_iff.mpr
          (.inl (lt_of_lt_of_le hbefore (fixedDigits_bounds hdigit).1))

end TauriPlatform
