import TauriPlatform.GregorianCalendar

/-!
# The clock of the background core

`utc_iso_now` splits the seconds of the system clock, and `civil_from_days` turns the days into a
date with `i64` operations.  None of them overflows, and the date is the one which counting days
from 1970-01-01 leads to.
-/

namespace TauriPlatform.NativeCalendar

/-- The result of an `i64` operation; nothing is an overflow. -/
def i64 (value : Int) : Option Int :=
  if -2 ^ 63 ≤ value ∧ value < 2 ^ 63 then some value else none

/-- `(total_secs / 86400).min(i64::MAX as u64) as i64`. -/
def daysOf (totalSecs : UInt64) : Int :=
  (min (totalSecs / 86400) 9223372036854775807).toNat

def civilFromDays (daysSinceEpoch : Int) : Option (Int × Int × Int) := do
  let shiftedDays ← i64 (daysSinceEpoch + 719468)
  let eraDays ← (if shiftedDays ≥ 0 then some shiftedDays else i64 (shiftedDays - 146096))
  let era ← i64 (eraDays.tdiv 146097)
  let dayOfEra ← i64 (shiftedDays - (← i64 (era * 146097)))
  let yearDays ← i64 (dayOfEra - (← i64 (dayOfEra.tdiv 1460)))
  let yearDays ← i64 (yearDays + (← i64 (dayOfEra.tdiv 36524)))
  let yearDays ← i64 (yearDays - (← i64 (dayOfEra.tdiv 146096)))
  let yearOfEra ← i64 (yearDays.tdiv 365)
  let year ← i64 (yearOfEra + (← i64 (era * 400)))
  let startDays ← i64 ((← i64 (365 * yearOfEra)) + (← i64 (yearOfEra.tdiv 4)))
  let startDays ← i64 (startDays - (← i64 (yearOfEra.tdiv 100)))
  let dayOfYear ← i64 (dayOfEra - startDays)
  let monthPart ← i64 ((← i64 ((← i64 (5 * dayOfYear)) + 2)).tdiv 153)
  let monthDays ← i64 ((← i64 ((← i64 (153 * monthPart)) + 2)).tdiv 5)
  let day ← i64 ((← i64 (dayOfYear - monthDays)) + 1)
  let month ← i64 (monthPart + if monthPart < 10 then 3 else -9)
  let year ← i64 (year + if month ≤ 2 then 1 else 0)
  return (year, month, day)

example : civilFromDays 19782 = some (2024, 2, 29) := by
  decide

/-! ## No step overflows -/

variable {value : Int}

theorem i64_eq {result : Int} (hvalue : value = result) (hlow : -2 ^ 63 ≤ result)
    (hhigh : result < 2 ^ 63) : i64 value = some result := by
  rw [hvalue, i64, if_pos ⟨hlow, hhigh⟩]

theorem i64_cast {result : Nat} (hvalue : value = result) (hhigh : result < 2 ^ 63) :
    i64 value = some (result : Int) :=
  i64_eq hvalue (by omega) (by omega)

theorem i64_tdiv {value : Nat} (hvalue : value < 2 ^ 63) (divisor : Nat) :
    i64 ((value : Int).tdiv divisor) = some ((value / divisor : Nat) : Int) := by
  have hle := Nat.div_le_self value divisor
  exact i64_cast (Int.ofNat_tdiv value divisor).symm (by omega)

def tripleOf (date : CivilDate) : Int × Int × Int :=
  (date.year, date.month, date.day)

theorem step {result : Int} {rest : Int → Option (Int × Int × Int)}
    {triple : Option (Int × Int × Int)} (hvalue : i64 value = some result)
    (hrest : rest result = triple) : (i64 value >>= rest) = triple := by
  rw [hvalue, ← hrest]
  rfl

theorem step_some {rest : Int → Option (Int × Int × Int)} {triple : Option (Int × Int × Int)}
    (hrest : rest value = triple) :
    (some value >>= rest) = triple :=
  hrest

theorem daysOf_eq (totalSecs : UInt64) : daysOf totalSecs = (totalSecs.toNat / 86400 : Nat) := by
  have hsecs := totalSecs.toNat_lt
  have hle : totalSecs / 86400 ≤ 9223372036854775807 := by
    rw [UInt64.le_iff_toNat_le, UInt64.toNat_div]
    change totalSecs.toNat / 86400 ≤ 9223372036854775807
    omega
  have hmin : min (totalSecs / 86400) 9223372036854775807 = totalSecs / 86400 := if_pos hle
  rw [daysOf, hmin, UInt64.toNat_div]
  rfl

theorem civilFromDays_eq {days : Nat} (hdays : days ≤ 213503982334601) :
    civilFromDays days = some (tripleOf (civilOfDays days)) := by
  have hdayBound : ((days + 719468 : Int) % 146097).toNat < 146097 := by omega
  have hyear := yearOfEra_lt hdayBound
  have hstart := yearStart_yearOfEra_le hdayBound
  have hlength := dayOfYear_le hdayBound
  rw [civilOfDays_eq, marchOfDays_eq, civilFromDays]
  generalize hera : (days + 719468 : Int) / 146097 = era
  generalize hday : ((days + 719468 : Int) % 146097).toNat = dayOfEra at *
  have hshifted : i64 (days + 719468 : Int) = some (days + 719468 : Int) :=
    i64_eq rfl (by omega) (by omega)
  have heraOf : i64 ((days + 719468 : Int).tdiv 146097) = some era :=
    i64_eq (by rw [Int.tdiv_eq_ediv_of_nonneg (by omega), hera]) (by omega) (by omega)
  have heraDays : i64 (era * 146097) = some (era * 146097) := i64_eq rfl (by omega) (by omega)
  have hdayOfEra : i64 (days + 719468 - era * 146097 : Int) = some (dayOfEra : Int) :=
    i64_cast (by omega) (by omega)
  refine step hshifted ?_
  rw [if_pos (by omega)]
  refine step_some (step heraOf (step heraDays (step hdayOfEra ?_)))
  -- The year of the era.
  have hleap : i64 (dayOfEra - (dayOfEra / 1460 : Nat) : Int) =
      some ((dayOfEra - dayOfEra / 1460 : Nat) : Int) :=
    i64_cast (by omega) (by omega)
  have hcentury : i64 ((dayOfEra - dayOfEra / 1460 : Nat) + (dayOfEra / 36524 : Nat) : Int) =
      some ((dayOfEra - dayOfEra / 1460 + dayOfEra / 36524 : Nat) : Int) :=
    i64_cast (by omega) (by omega)
  have hlast : i64 ((dayOfEra - dayOfEra / 1460 + dayOfEra / 36524 : Nat) -
      (dayOfEra / 146096 : Nat) : Int) =
      some ((dayOfEra - dayOfEra / 1460 + dayOfEra / 36524 - dayOfEra / 146096 : Nat) : Int) :=
    i64_cast (by omega) (by omega)
  refine step (i64_tdiv (by omega) 1460) (step hleap ?_)
  refine step (i64_tdiv (by omega) 36524) (step hcentury ?_)
  refine step (i64_tdiv (by omega) 146096) (step hlast ?_)
  have hyearOfEra : i64 (Int.tdiv (dayOfEra - dayOfEra / 1460 + dayOfEra / 36524 -
      dayOfEra / 146096 : Nat) 365) = some (yearOfEra dayOfEra : Int) :=
    i64_tdiv (by omega) 365
  refine step hyearOfEra ?_
  rw [marchOfEra]
  generalize yearOfEra dayOfEra = year at *
  -- The day of the year.
  have heraYears : i64 (era * 400) = some (era * 400) := i64_eq rfl (by omega) (by omega)
  have hyears : i64 (year + era * 400) = some (year + era * 400 : Int) :=
    i64_eq rfl (by omega) (by omega)
  have hplain : i64 (365 * (year : Int)) = some ((365 * year : Nat) : Int) :=
    i64_cast (by omega) (by omega)
  have hleaps : i64 ((365 * year : Nat) + (year / 4 : Nat) : Int) =
      some ((365 * year + year / 4 : Nat) : Int) :=
    i64_cast (by omega) (by omega)
  have hyearStart : i64 ((365 * year + year / 4 : Nat) - (year / 100 : Nat) : Int) =
      some (yearStart year : Int) :=
    i64_cast (by simp only [yearStart]; omega) (by simp only [yearStart]; omega)
  have hdayOfYear : i64 (dayOfEra - yearStart year : Int) =
      some ((dayOfEra - yearStart year : Nat) : Int) :=
    i64_cast (by omega) (by omega)
  refine step heraYears (step hyears ?_)
  refine step hplain (step (i64_tdiv (by omega) 4) (step hleaps ?_))
  refine step (i64_tdiv (by omega) 100) (step hyearStart (step hdayOfYear ?_))
  generalize dayOfEra - yearStart year = dayOfYear at *
  -- The month and the day.
  have hfive : i64 (5 * (dayOfYear : Int)) = some ((5 * dayOfYear : Nat) : Int) :=
    i64_cast (by omega) (by omega)
  have hshift : i64 ((5 * dayOfYear : Nat) + 2 : Int) = some ((5 * dayOfYear + 2 : Nat) : Int) :=
    i64_cast (by omega) (by omega)
  refine step hfive (step hshift (step (i64_tdiv (by omega) 153) ?_))
  have hmonth : (5 * dayOfYear + 2) / 153 ≤ 11 := by omega
  have hstartDay : (153 * ((5 * dayOfYear + 2) / 153) + 2) / 5 ≤ dayOfYear := by omega
  simp only [MarchDate.civil]
  generalize (5 * dayOfYear + 2) / 153 = monthPart at *
  have hmonths : i64 (153 * (monthPart : Int)) = some ((153 * monthPart : Nat) : Int) :=
    i64_cast (by omega) (by omega)
  have hround : i64 ((153 * monthPart : Nat) + 2 : Int) = some ((153 * monthPart + 2 : Nat) : Int) :=
    i64_cast (by omega) (by omega)
  have hback : i64 (dayOfYear - ((153 * monthPart + 2) / 5 : Nat) : Int) =
      some ((dayOfYear - (153 * monthPart + 2) / 5 : Nat) : Int) :=
    i64_cast (by omega) (by omega)
  have hday : i64 ((dayOfYear - (153 * monthPart + 2) / 5 : Nat) + 1 : Int) =
      some ((dayOfYear - (153 * monthPart + 2) / 5 + 1 : Nat) : Int) :=
    i64_cast (by omega) (by omega)
  have hcalendar : i64 (monthPart + if (monthPart : Int) < 10 then 3 else -9) =
      some ((if monthPart < 10 then monthPart + 3 else monthPart - 9 : Nat) : Int) :=
    i64_cast (by split_ifs <;> omega) (by split_ifs <;> omega)
  refine step hmonths (step hround (step (i64_tdiv (by omega) 5) ?_))
  refine step hback (step hday (step hcalendar ?_))
  generalize (if monthPart < 10 then monthPart + 3 else monthPart - 9) = month at *
  have hcarried : i64 (year + era * 400 + if (month : Int) ≤ 2 then 1 else 0) =
      some (year + era * 400 + if month ≤ 2 then 1 else 0 : Int) :=
    i64_eq (by split_ifs <;> omega) (by split_ifs <;> omega) (by split_ifs <;> omega)
  exact step hcarried rfl

/-- For every time of the system clock no operation overflows, the date is the one which counting
the days from 1970-01-01 leads to, and later days have later dates. -/
theorem civilFromDays_correct (totalSecs : UInt64) :
    ∃ date : CivilDate, civilFromDays (daysOf totalSecs) = some (tripleOf date) ∧
      date.Valid ∧ CivilDate.next^[(daysOf totalSecs).toNat] CivilDate.epoch = date ∧
      ∀ laterSecs : UInt64, daysOf totalSecs < daysOf laterSecs →
        ∃ later : CivilDate,
          civilFromDays (daysOf laterSecs) = some (tripleOf later) ∧
            date.Before later := by
  have hsecs := totalSecs.toNat_lt
  have hcount : CivilDate.next^[(daysOf totalSecs).toNat] CivilDate.epoch =
      civilOfDays (daysOf totalSecs) := by
    rw [daysOf_eq, Int.toNat_natCast, civilOfDays_iterate]
  refine ⟨civilOfDays (daysOf totalSecs), ?_, ?_, hcount, ?_⟩
  · rw [daysOf_eq]
    exact civilFromDays_eq (by omega)
  · rw [← hcount]
    exact CivilDate.iterate_next_valid _
  · intro laterSecs hlater
    have hlaterSecs := laterSecs.toNat_lt
    refine ⟨civilOfDays (daysOf laterSecs), ?_, civilOfDays_before hlater⟩
    rw [daysOf_eq]
    exact civilFromDays_eq (by omega)

end TauriPlatform.NativeCalendar
