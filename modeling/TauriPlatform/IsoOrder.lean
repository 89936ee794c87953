import TauriPlatform.IsoTimestamp
import Mathlib.Data.String.Basic

/-!
# The order of ISO-8601 texts

As long as the year has four digits, the text which `toISOString` prints for a later instant
is greater.  Every field has a fixed width, so the texts are compared as the calendar is, field
after field.  The module names nothing of a particular program.
-/

namespace TauriPlatform

/-! ## Texts of fixed width -/

theorem append_lt_append_of_lt {α : Type*} [LinearOrder α] {left right : List α}
    (hlength : left.length = right.length) (hlt : left < right) (leftRest rightRest : List α) :
    left ++ leftRest < right ++ rightRest := by
  induction left generalizing right with
  | nil =>
      cases right with
      | nil => exact absurd hlt (lt_irrefl _)
      | cons second right => cases hlength
  | cons first left ih =>
      cases right with
      | nil => cases hlength
      | cons second right =>
          rw [List.cons_append, List.cons_append, List.cons_lt_cons_iff]
          cases List.cons_lt_cons_iff.mp hlt with
          | inl hfirst => exact .inl hfirst
          | inr hrest => exact .inr ⟨hrest.1, ih (Nat.succ.inj hlength) hrest.2⟩

theorem digitChar_lt : ∀ right < 16, ∀ left < right, Nat.digitChar left < Nat.digitChar right := by
  decide

theorem fixedDigits_lt {radix width left right : Nat} (hradix : radix ≤ 16) (hlt : left < right)
    (hright : right < radix ^ width) :
    fixedDigits radix width left < fixedDigits radix width right := by
  induction width generalizing left right with
  | zero =>
      rw [Nat.pow_zero] at hright
      omega
  | succ width ih =>
      have hpositive : 0 < radix := by
        by_contra hzero
        rw [Nat.eq_zero_of_not_pos hzero, Nat.zero_pow (Nat.succ_pos width)] at hright
        omega
      have hquotient : right / radix < radix ^ width := by
        rw [Nat.pow_succ] at hright
        exact Nat.div_lt_of_lt_mul (by rwa [Nat.mul_comm] at hright)
      have hle : left / radix ≤ right / radix := Nat.div_le_div_right hlt.le
      rw [fixedDigits, fixedDigits]
      by_cases hsame : left / radix = right / radix
      · rw [hsame]
        apply List.append_left_lt
        have hleftMod := Nat.div_add_mod left radix
        have hrightMod := Nat.div_add_mod right radix
        rw [hsame] at hleftMod
        have hmod := Nat.mod_lt right hpositive
        have hdigit := digitChar_lt (right % radix) (by omega) (left % radix) (by omega)
        exact List.cons_lt_cons_iff.mpr (.inl hdigit)
      · exact append_lt_append_of_lt (by simp) (ih (lt_of_le_of_ne hle hsame) hquotient) _ _

theorem radixField_lt {radix width left right : Nat} {leftRest rightRest : List Char}
    (hradix : radix ≤ 16) (hright : right < radix ^ width)
    (hfields : left < right ∨ left = right ∧ leftRest < rightRest) :
    fixedDigits radix width left ++ leftRest < fixedDigits radix width right ++ rightRest := by
  cases hfields with
  | inl hlt => exact append_lt_append_of_lt (by simp) (fixedDigits_lt hradix hlt hright) _ _
  | inr hrest =>
      rw [hrest.1]
      exact List.append_left_lt hrest.2

theorem field_lt {width left right : Nat} {leftRest rightRest : List Char}
    (hright : right < 10 ^ width)
    (hfields : left < right ∨ left = right ∧ leftRest < rightRest) :
    fixedDigits 10 width left ++ leftRest < fixedDigits 10 width right ++ rightRest :=
  radixField_lt (by decide) hright hfields

/-! ## The calendar -/

def yearOfEra (dayOfEra : Nat) : Nat :=
  (dayOfEra - dayOfEra / 1460 + dayOfEra / 36524 - dayOfEra / 146096) / 365

def yearStart (year : Nat) : Nat :=
  365 * year + year / 4 - year / 100

theorem yearOfEra_mono : Monotone yearOfEra := by
  apply monotone_nat_of_le_succ
  intro dayOfEra
  apply Nat.div_le_div_right
  omega

theorem yearOfEra_yearStart : ∀ year < 400, yearOfEra (yearStart year) = year := by
  decide +kernel

theorem yearOfEra_lastDay : ∀ year < 400, yearOfEra (yearStart (year + 1) - 1) ≤ year := by
  decide +kernel

section Era

variable {dayOfEra : Nat}

theorem yearOfEra_lt (hday : dayOfEra < 146097) : yearOfEra dayOfEra < 400 := by
  have hlast : yearOfEra 146096 = 399 := by decide
  have hmono := yearOfEra_mono (show dayOfEra ≤ 146096 by omega)
  omega

theorem yearStart_yearOfEra_le (hday : dayOfEra < 146097) :
    yearStart (yearOfEra dayOfEra) ≤ dayOfEra := by
  have hyear := yearOfEra_lt hday
  by_contra hbefore
  cases hcase : yearOfEra dayOfEra with
  | zero =>
      rw [hcase] at hbefore
      exact hbefore (Nat.zero_le _)
  | succ year =>
      rw [hcase] at hbefore
      have hmono := yearOfEra_mono (show dayOfEra ≤ yearStart (year + 1) - 1 by omega)
      have hlast := yearOfEra_lastDay year (by omega)
      omega

theorem dayOfYear_le (hday : dayOfEra < 146097) :
    dayOfEra - yearStart (yearOfEra dayOfEra) ≤ 365 := by
  have hyear := yearOfEra_lt hday
  by_cases hlast : yearOfEra dayOfEra = 399
  · have hstart : yearStart 399 = 145731 := by decide
    rw [hlast, hstart]
    omega
  · have hnext : dayOfEra < yearStart (yearOfEra dayOfEra + 1) := by
      by_contra hafter
      have hmono := yearOfEra_mono (not_lt.mp hafter)
      have hsame := yearOfEra_yearStart (yearOfEra dayOfEra + 1) (by omega)
      omega
    simp only [yearStart] at hnext ⊢
    omega

end Era

def CivilDate.Before (left right : CivilDate) : Prop :=
  left.year < right.year ∨ left.year = right.year ∧
    (left.month < right.month ∨ left.month = right.month ∧ left.day < right.day)

structure MarchDate where
  year : Int
  monthIndex : Nat
  dayOfYear : Nat

def marchOfDays (days : Int) : MarchDate :=
  let dayOfEra := ((days + 719468) % 146097).toNat
  let dayOfYear := dayOfEra - yearStart (yearOfEra dayOfEra)
  { year := yearOfEra dayOfEra + (days + 719468) / 146097 * 400
    monthIndex := (5 * dayOfYear + 2) / 153
    dayOfYear := dayOfYear }

def MarchDate.civil (date : MarchDate) : CivilDate :=
  let month := if date.monthIndex < 10 then date.monthIndex + 3 else date.monthIndex - 9
  { year := date.year + if month ≤ 2 then 1 else 0
    month := month
    day := date.dayOfYear - (153 * date.monthIndex + 2) / 5 + 1 }

theorem civilOfDays_eq (days : Int) : civilOfDays days = (marchOfDays days).civil :=
  rfl

structure MarchDate.Valid (date : MarchDate) : Prop where
  monthIndex : date.monthIndex = (5 * date.dayOfYear + 2) / 153
  dayOfYear : date.dayOfYear ≤ 365

theorem marchOfDays_valid (days : Int) : (marchOfDays days).Valid where
  monthIndex := rfl
  dayOfYear := dayOfYear_le (by omega)

variable {earlier later : Int}

theorem marchOfDays_before (hlt : earlier < later) :
    (marchOfDays earlier).year < (marchOfDays later).year ∨
      (marchOfDays earlier).year = (marchOfDays later).year ∧
        (marchOfDays earlier).dayOfYear < (marchOfDays later).dayOfYear := by
  have hearlierDay : ((earlier + 719468) % 146097).toNat < 146097 := by omega
  have hlaterDay : ((later + 719468) % 146097).toNat < 146097 := by omega
  have hearlier := yearOfEra_lt hearlierDay
  have hlater := yearOfEra_lt hlaterDay
  simp only [marchOfDays]
  by_cases hera : (earlier + 719468) / 146097 = (later + 719468) / 146097
  · have hdays : ((earlier + 719468) % 146097).toNat < ((later + 719468) % 146097).toNat := by
      omega
    have hmono := yearOfEra_mono hdays.le
    have hstart := yearStart_yearOfEra_le hearlierDay
    by_cases hyear : yearOfEra ((earlier + 719468) % 146097).toNat =
        yearOfEra ((later + 719468) % 146097).toNat
    · rw [hyear] at hstart ⊢
      right
      omega
    · left
      omega
  · left
    omega

theorem MarchDate.civil_before {left right : MarchDate} (hleft : left.Valid) (hright : right.Valid)
    (hbefore : left.year < right.year ∨
      left.year = right.year ∧ left.dayOfYear < right.dayOfYear) :
    left.civil.Before right.civil := by
  have hleftMonth := hleft.monthIndex
  have hrightMonth := hright.monthIndex
  have hleftDay := hleft.dayOfYear
  have hrightDay := hright.dayOfYear
  simp only [MarchDate.civil, CivilDate.Before]
  split_ifs <;> omega

theorem civilOfDays_before (hlt : earlier < later) :
    (civilOfDays earlier).Before (civilOfDays later) := by
  rw [civilOfDays_eq, civilOfDays_eq]
  exact MarchDate.civil_before (marchOfDays_valid _) (marchOfDays_valid _)
    (marchOfDays_before hlt)

theorem civilOfDays_bounds (days : Int) :
    (civilOfDays days).month < 10 ^ 2 ∧ (civilOfDays days).day < 10 ^ 2 := by
  have hvalid := marchOfDays_valid days
  have hmonth := hvalid.monthIndex
  have hday := hvalid.dayOfYear
  rw [civilOfDays_eq]
  simp only [MarchDate.civil]
  split_ifs <;> omega

theorem year_mono : Monotone fun days => (civilOfDays days).year := by
  intro earlier later hle
  cases hle.eq_or_lt with
  | inl hsame => simp [hsame]
  | inr hlt =>
      have hbefore := civilOfDays_before hlt
      simp only [CivilDate.Before] at hbefore
      change (civilOfDays earlier).year ≤ (civilOfDays later).year
      omega

/-! ## Instants with a year of four digits -/

/-- `0000-01-01T00:00:00.000Z`. -/
def firstFourDigit : Int := -62167219200000

/-- `9999-12-31T23:59:59.999Z`. -/
def lastFourDigit : Int := 253402300799999

def FourDigitYear (instant : Int) : Prop :=
  firstFourDigit ≤ instant ∧ instant ≤ lastFourDigit

instance (instant : Int) : Decidable (FourDigitYear instant) :=
  inferInstanceAs (Decidable (_ ∧ _))

theorem yearText_eq {instant : Int} (hfour : FourDigitYear instant) :
    yearText (civilOfDays (instant / millisPerDay)).year =
      fixedDigits 10 4 (civilOfDays (instant / millisPerDay)).year.toNat ∧
    0 ≤ (civilOfDays (instant / millisPerDay)).year ∧
    (civilOfDays (instant / millisPerDay)).year ≤ 9999 := by
  have hfirst : (civilOfDays (-719528)).year = 0 := by decide
  have hlast : (civilOfDays 2932896).year = 9999 := by decide
  simp only [FourDigitYear, firstFourDigit, lastFourDigit] at hfour
  have hlow : (-719528 : Int) ≤ instant / millisPerDay := by
    simp only [millisPerDay]
    omega
  have hhigh : instant / millisPerDay ≤ 2932896 := by
    simp only [millisPerDay]
    omega
  have hyearLow := year_mono hlow
  have hyearHigh := year_mono hhigh
  simp only [hfirst, hlast] at hyearLow hyearHigh
  refine ⟨?_, hyearLow, hyearHigh⟩
  rw [yearText, if_pos ⟨hyearLow, hyearHigh⟩]

theorem dateText_lt {earlier later : CivilDate} (hbefore : earlier.Before later)
    (hearlier : 0 ≤ earlier.year) (hyear : later.year ≤ 9999) (hmonth : later.month < 10 ^ 2)
    (hday : later.day < 10 ^ 2) (earlierRest laterRest : List Char) :
    fixedDigits 10 4 earlier.year.toNat ++ '-' :: (fixedDigits 10 2 earlier.month ++
        '-' :: (fixedDigits 10 2 earlier.day ++ earlierRest)) <
      fixedDigits 10 4 later.year.toNat ++ '-' :: (fixedDigits 10 2 later.month ++
        '-' :: (fixedDigits 10 2 later.day ++ laterRest)) := by
  simp only [CivilDate.Before] at hbefore
  apply field_lt (by omega)
  rcases hbefore with hlt | ⟨hsame, hmonths⟩
  · left
    omega
  · right
    refine ⟨by rw [hsame], List.cons_lt_cons_self.mpr (field_lt hmonth ?_)⟩
    rcases hmonths with hlt | ⟨hsameMonth, hdays⟩
    · exact .inl hlt
    · exact .inr ⟨hsameMonth, List.cons_lt_cons_self.mpr (field_lt hday (.inl hdays))⟩

def timeText (millis : Nat) : List Char :=
  'T' :: (fixedDigits 10 2 (millis / 3600000) ++
    ':' :: (fixedDigits 10 2 (millis / 60000 % 60) ++
      ':' :: (fixedDigits 10 2 (millis / 1000 % 60) ++
        '.' :: (fixedDigits 10 3 (millis % 1000) ++ ['Z']))))

theorem timeText_lt {earlier later : Nat} (hlt : earlier < later) (hlater : later < 86400000) :
    timeText earlier < timeText later := by
  apply List.cons_lt_cons_self.mpr
  apply field_lt (by omega)
  by_cases hhour : earlier / 3600000 = later / 3600000
  · refine .inr ⟨hhour, List.cons_lt_cons_self.mpr (field_lt (by omega) ?_)⟩
    by_cases hminute : earlier / 60000 % 60 = later / 60000 % 60
    · refine .inr ⟨hminute, List.cons_lt_cons_self.mpr (field_lt (by omega) ?_)⟩
      by_cases hsecond : earlier / 1000 % 60 = later / 1000 % 60
      · refine .inr ⟨hsecond, List.cons_lt_cons_self.mpr (field_lt (by omega) (.inl ?_))⟩
        omega
      · left
        omega
    · left
      omega
  · left
    omega

theorem isoChars_eq (instant : Int) :
    isoChars instant =
      yearText (civilOfDays (instant / millisPerDay)).year ++
        '-' :: (fixedDigits 10 2 (civilOfDays (instant / millisPerDay)).month ++
          '-' :: (fixedDigits 10 2 (civilOfDays (instant / millisPerDay)).day ++
            timeText (instant % millisPerDay).toNat)) := by
  simp [isoChars, timeText]

theorem isoChars_lt (hearlier : FourDigitYear earlier) (hlater : FourDigitYear later)
    (hlt : earlier < later) :
    isoChars earlier < isoChars later := by
  obtain ⟨hearlierText, hearlierYear, -⟩ := yearText_eq hearlier
  obtain ⟨hlaterText, -, hlaterYear⟩ := yearText_eq hlater
  rw [isoChars_eq, isoChars_eq, hearlierText, hlaterText]
  by_cases hday : earlier / millisPerDay = later / millisPerDay
  · rw [hday]
    apply List.append_left_lt
    apply List.cons_lt_cons_self.mpr
    apply List.append_left_lt
    apply List.cons_lt_cons_self.mpr
    apply List.append_left_lt
    simp only [millisPerDay] at hday ⊢
    exact timeText_lt (by omega) (by omega)
  · have hdays : earlier / millisPerDay < later / millisPerDay := by
      simp only [millisPerDay] at hday ⊢
      omega
    have hbounds := civilOfDays_bounds (later / millisPerDay)
    exact dateText_lt (civilOfDays_before hdays) hearlierYear hlaterYear hbounds.1 hbounds.2 _ _

/-- The text of an instant, printed as `toISOString` does. -/
def isoText (instant : Int) : String :=
  String.ofList (isoChars instant)

theorem isoText_lt (hearlier : FourDigitYear earlier) (hlater : FourDigitYear later)
    (hlt : earlier < later) : isoText earlier < isoText later := by
  rw [String.lt_iff_toList_lt, isoText, isoText, String.toList_ofList, String.toList_ofList]
  exact isoChars_lt hearlier hlater hlt

theorem isoText_le (hearlier : FourDigitYear earlier) (hlater : FourDigitYear later)
    (hle : earlier ≤ later) : isoText earlier ≤ isoText later := by
  cases hle.eq_or_lt with
  | inl hsame => rw [hsame]
  | inr hlt => exact (isoText_lt hearlier hlater hlt).le

end TauriPlatform
