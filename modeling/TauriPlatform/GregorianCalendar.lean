import TauriPlatform.IsoOrder

/-!
# The days of the Gregorian calendar

The calendar is a successor function on dates: the months have their lengths, and February has 29
days in the leap years.  Counting from a date is iterating it.  The closed form of the date of a
day number takes the same steps, so it is what counting gives.
-/

namespace TauriPlatform

def isLeapYear (year : Int) : Bool :=
  year % 4 = 0 ∧ (year % 100 ≠ 0 ∨ year % 400 = 0)

def daysInMonth (year : Int) (month : Nat) : Nat :=
  if month = 2 then (if isLeapYear year then 29 else 28)
  else if month ∈ [4, 6, 9, 11] then 30
  else 31

namespace CivilDate

structure Valid (date : CivilDate) : Prop where
  month : 1 ≤ date.month ∧ date.month ≤ 12
  day : 1 ≤ date.day ∧ date.day ≤ daysInMonth date.year date.month

def next (date : CivilDate) : CivilDate :=
  if date.day < daysInMonth date.year date.month then { date with day := date.day + 1 }
  else if date.month < 12 then { date with month := date.month + 1, day := 1 }
  else { year := date.year + 1, month := 1, day := 1 }

variable {date : CivilDate}

theorem next_of_lt (hday : date.day < daysInMonth date.year date.month) :
    date.next = { date with day := date.day + 1 } :=
  if_pos hday

theorem next_of_month (hday : ¬ date.day < daysInMonth date.year date.month)
    (hmonth : date.month < 12) : date.next = { date with month := date.month + 1, day := 1 } := by
  rw [next, if_neg hday, if_pos hmonth]

theorem next_of_year (hday : ¬ date.day < daysInMonth date.year date.month)
    (hmonth : ¬ date.month < 12) : date.next = { year := date.year + 1, month := 1, day := 1 } := by
  rw [next, if_neg hday, if_neg hmonth]

def epoch : CivilDate :=
  { year := 1970, month := 1, day := 1 }

theorem epoch_valid : epoch.Valid where
  month := by decide
  day := by decide

theorem one_le_daysInMonth (year : Int) (month : Nat) : 1 ≤ daysInMonth year month := by
  unfold daysInMonth
  split_ifs <;> decide

theorem Valid.next (hvalid : date.Valid) : date.next.Valid := by
  have hmonth := hvalid.month
  unfold CivilDate.next
  split_ifs with hday hyear
  · exact ⟨hmonth, by simp, hday⟩
  · exact ⟨⟨by simp, hyear⟩, le_rfl, one_le_daysInMonth _ _⟩
  · exact ⟨⟨le_rfl, by simp⟩, le_rfl, one_le_daysInMonth _ _⟩

theorem iterate_next_valid (days : Nat) : (CivilDate.next^[days] epoch).Valid := by
  induction days with
  | zero => exact epoch_valid
  | succ days ih =>
      rw [Function.iterate_succ_apply']
      exact ih.next

end CivilDate

/-! ## Dates counted from March -/

namespace MarchDate

def length (year : Int) : Nat :=
  if isLeapYear (year + 1) then 366 else 365

def next (date : MarchDate) : MarchDate :=
  if date.dayOfYear + 1 < length date.year then
    { date with
      monthIndex := (5 * (date.dayOfYear + 1) + 2) / 153
      dayOfYear := date.dayOfYear + 1 }
  else { year := date.year + 1, monthIndex := 0, dayOfYear := 0 }

variable {date : MarchDate}

theorem next_of_lt (hday : date.dayOfYear + 1 < length date.year) :
    date.next =
      { year := date.year
        monthIndex := (5 * (date.dayOfYear + 1) + 2) / 153
        dayOfYear := date.dayOfYear + 1 } :=
  if_pos hday

theorem next_of_last (hday : ¬ date.dayOfYear + 1 < length date.year) :
    date.next = { year := date.year + 1, monthIndex := 0, dayOfYear := 0 } :=
  if_neg hday

end MarchDate

theorem yearStart_mono : Monotone yearStart := by
  apply monotone_nat_of_le_succ
  intro year
  simp only [yearStart]
  omega

theorem lt_yearStart_succ {dayOfEra : Nat} (hlast : yearOfEra dayOfEra < 399) : dayOfEra < yearStart (yearOfEra dayOfEra + 1) := by
  by_contra hafter
  have hmono := yearOfEra_mono (not_lt.mp hafter)
  have hsame := yearOfEra_yearStart (yearOfEra dayOfEra + 1) (by omega)
  omega

theorem yearOfEra_eq {dayOfEra year : Nat} (hday : dayOfEra < 146097) (hyear : year < 400)
    (hstart : yearStart year ≤ dayOfEra)
    (hend : year < 399 → dayOfEra < yearStart (year + 1)) : yearOfEra dayOfEra = year := by
  have hle : year ≤ yearOfEra dayOfEra := by
    rw [← yearOfEra_yearStart year hyear]
    exact yearOfEra_mono hstart
  by_contra hne
  have hlt := yearOfEra_lt hday
  have hbefore := yearStart_yearOfEra_le hday
  have hafter := hend (by omega)
  have hstarts : yearStart (year + 1) ≤ yearStart (yearOfEra dayOfEra) :=
    yearStart_mono (lt_of_le_of_ne hle (Ne.symm hne))
  omega

theorem length_of_era {year : Nat} {era : Int} (hyear : year < 399) :
    yearStart year + MarchDate.length (year + era * 400) = yearStart (year + 1) := by
  have hleap : isLeapYear (year + era * 400 + 1) = true ↔
      (year + 1) % 4 = 0 ∧ (year + 1) % 100 ≠ 0 := by
    simp only [isLeapYear, decide_eq_true_eq]
    omega
  unfold MarchDate.length yearStart
  split_ifs with h
  · have hcase := hleap.mp h
    omega
  · have hcase := mt hleap.mpr h
    omega

theorem length_last_of_era {era : Int} : MarchDate.length (399 + era * 400) = 366 := by
  have hleap : isLeapYear (399 + era * 400 + 1) = true := by
    simp only [isLeapYear, decide_eq_true_eq]
    omega
  rw [MarchDate.length, if_pos hleap]

def marchOfEra (era : Int) (dayOfEra : Nat) : MarchDate :=
  let dayOfYear := dayOfEra - yearStart (yearOfEra dayOfEra)
  { year := yearOfEra dayOfEra + era * 400
    monthIndex := (5 * dayOfYear + 2) / 153
    dayOfYear := dayOfYear }

theorem marchOfDays_eq (days : Int) :
    marchOfDays days =
      marchOfEra ((days + 719468) / 146097) ((days + 719468) % 146097).toNat :=
  rfl

theorem marchOfEra_last (era : Int) : marchOfEra (era + 1) 0 = (marchOfEra era 146096).next := by
  have hyear : yearOfEra 146096 = 399 := by decide
  have hfirst : yearOfEra 0 = 0 := by decide
  have hday : 146096 - yearStart 399 = 365 := by decide
  have hlength : MarchDate.length (((399 : Nat) : Int) + era * 400) = 366 := length_last_of_era
  have hend : ¬ (marchOfEra era 146096).dayOfYear + 1 <
      MarchDate.length (marchOfEra era 146096).year := by
    simp only [marchOfEra, hyear, hday, hlength]
    decide
  rw [MarchDate.next_of_last hend]
  simp only [marchOfEra, hyear, hfirst, MarchDate.mk.injEq]
  exact ⟨by push_cast; ring, by simp, by simp⟩

theorem marchOfEra_succ {dayOfEra : Nat} (hday : dayOfEra + 1 < 146097) (era : Int) :
    marchOfEra era (dayOfEra + 1) = (marchOfEra era dayOfEra).next := by
  have hyear := yearOfEra_lt (Nat.lt_of_succ_lt hday)
  have hstart := yearStart_yearOfEra_le (Nat.lt_of_succ_lt hday)
  by_cases hsame : yearOfEra dayOfEra = 399 ∨ dayOfEra + 1 < yearStart (yearOfEra dayOfEra + 1)
  · have hnext : yearOfEra (dayOfEra + 1) = yearOfEra dayOfEra := by
      refine yearOfEra_eq hday hyear (Nat.le_succ_of_le hstart) fun hbefore => ?_
      exact hsame.resolve_left hbefore.ne
    have hlength : dayOfEra - yearStart (yearOfEra dayOfEra) + 1 <
        MarchDate.length (yearOfEra dayOfEra + era * 400) := by
      by_cases hlast : yearOfEra dayOfEra = 399
      · have hstartLast : yearStart 399 = 145731 := by decide
        have hlength : MarchDate.length (((399 : Nat) : Int) + era * 400) = 366 :=
          length_last_of_era
        rw [hlast, hlength]
        omega
      · have hera := @length_of_era (yearOfEra dayOfEra) era (by omega)
        have hbefore := hsame.resolve_left hlast
        omega
    have hdays : dayOfEra + 1 - yearStart (yearOfEra dayOfEra) =
        dayOfEra - yearStart (yearOfEra dayOfEra) + 1 := by
      omega
    rw [MarchDate.next_of_lt hlength]
    simp only [marchOfEra, hnext, hdays]
  · obtain ⟨hlast, hend⟩ := not_or.mp hsame
    have hsucc := @lt_yearStart_succ dayOfEra (by omega)
    have hfirst : dayOfEra + 1 = yearStart (yearOfEra dayOfEra + 1) := by omega
    have hnext : yearOfEra (dayOfEra + 1) = yearOfEra dayOfEra + 1 := by
      rw [hfirst]
      exact yearOfEra_yearStart _ (by omega)
    have hera := @length_of_era (yearOfEra dayOfEra) era (by omega)
    have hlength : ¬ dayOfEra - yearStart (yearOfEra dayOfEra) + 1 <
        MarchDate.length (yearOfEra dayOfEra + era * 400) := by
      omega
    have hdays : dayOfEra + 1 - yearStart (yearOfEra dayOfEra + 1) = 0 := by omega
    rw [MarchDate.next_of_last hlength]
    simp only [marchOfEra, hnext, hdays, MarchDate.mk.injEq]
    exact ⟨by push_cast; ring, by simp, trivial⟩

theorem marchOfDays_succ (days : Int) : marchOfDays (days + 1) = (marchOfDays days).next := by
  rw [marchOfDays_eq, marchOfDays_eq]
  by_cases hlast : (days + 719468) % 146097 = 146096
  · have hera : (days + 1 + 719468) / 146097 = (days + 719468) / 146097 + 1 := by omega
    have hday : (days + 1 + 719468) % 146097 = 0 := by omega
    rw [hera, hday, hlast]
    exact marchOfEra_last _
  · have hera : (days + 1 + 719468) / 146097 = (days + 719468) / 146097 := by omega
    have hday : ((days + 1 + 719468) % 146097).toNat =
        ((days + 719468) % 146097).toNat + 1 := by
      omega
    rw [hera, hday]
    exact marchOfEra_succ (by omega) _

/-! ## Months -/

def monthOf (dayOfYear : Nat) : Nat :=
  (5 * dayOfYear + 2) / 153

def dayOf (dayOfYear : Nat) : Nat :=
  dayOfYear - (153 * monthOf dayOfYear + 2) / 5 + 1

def marchMonthLength (monthIndex : Nat) : Nat :=
  [31, 30, 31, 30, 31, 31, 30, 31, 30, 31, 31, 29].getD monthIndex 0

theorem monthOf_succ : ∀ dayOfYear < 365,
    monthOf (dayOfYear + 1) = monthOf dayOfYear ∧
        dayOf (dayOfYear + 1) = dayOf dayOfYear + 1 ∧
        dayOf dayOfYear < marchMonthLength (monthOf dayOfYear) ∨
      monthOf (dayOfYear + 1) = monthOf dayOfYear + 1 ∧ dayOf (dayOfYear + 1) = 1 ∧
        dayOf dayOfYear = marchMonthLength (monthOf dayOfYear) ∧ monthOf dayOfYear < 11 := by
  decide +kernel

theorem monthOf_le {dayOfYear : Nat} (hday : dayOfYear ≤ 365) : monthOf dayOfYear ≤ 11 := by
  unfold monthOf
  omega

def calendarMonth (monthIndex : Nat) : Nat :=
  if monthIndex < 10 then monthIndex + 3 else monthIndex - 9

theorem daysInMonth_calendarMonth (year : Int) {monthIndex : Nat} (hmonth : monthIndex < 11) :
    daysInMonth year (calendarMonth monthIndex) = marchMonthLength monthIndex := by
  interval_cases monthIndex <;> rfl

theorem le_daysInMonth_february (year : Int) : 28 ≤ daysInMonth year 2 := by
  simp only [daysInMonth]
  split_ifs <;> decide

theorem daysInMonth_february_le (year : Int) : daysInMonth year 2 ≤ 29 := by
  simp only [daysInMonth]
  split_ifs <;> decide

theorem daysInMonth_february (year : Int) :
    337 + daysInMonth (year + 1) 2 = MarchDate.length year := by
  simp only [MarchDate.length, daysInMonth]
  split_ifs <;> rfl

theorem calendarMonth_succ : ∀ monthIndex < 11, monthIndex ≠ 9 →
    calendarMonth (monthIndex + 1) = calendarMonth monthIndex + 1 ∧
      calendarMonth monthIndex < 12 ∧
      (if calendarMonth (monthIndex + 1) ≤ 2 then (1 : Int) else 0) =
        if calendarMonth monthIndex ≤ 2 then 1 else 0 := by
  decide

theorem MarchDate.civil_next {date : MarchDate} (hvalid : date.Valid)
    (hlength : date.dayOfYear < MarchDate.length date.year) :
    date.next.civil = date.civil.next := by
  obtain ⟨year, monthIndex, dayOfYear⟩ := date
  obtain rfl : monthIndex = monthOf dayOfYear := hvalid.monthIndex
  replace hlength : dayOfYear < MarchDate.length year := hlength
  have hbound : dayOfYear ≤ 365 := hvalid.dayOfYear
  have hmonths := monthOf_le hbound
  have hfebruary := daysInMonth_february year
  have hlong := le_daysInMonth_february (year + 1)
  have hday : dayOf dayOfYear = dayOfYear - (153 * monthOf dayOfYear + 2) / 5 + 1 := rfl
  have hcivil (day : Nat) : MarchDate.civil ⟨year, monthOf day, day⟩ =
      { year := year + if calendarMonth (monthOf day) ≤ 2 then 1 else 0
        month := calendarMonth (monthOf day)
        day := dayOf day } := rfl
  by_cases hlt : dayOfYear + 1 < MarchDate.length year
  · rw [MarchDate.next_of_lt hlt]
    change MarchDate.civil ⟨year, monthOf (dayOfYear + 1), dayOfYear + 1⟩ = _
    have hinside : dayOfYear < 365 := by
      have hshort := daysInMonth_february_le (year + 1)
      omega
    rcases monthOf_succ dayOfYear hinside with ⟨hmonth, hnext, hin⟩ | ⟨hmonth, hnext, hin, hlast⟩
    · have hstays : dayOf dayOfYear <
          daysInMonth (year + if calendarMonth (monthOf dayOfYear) ≤ 2 then 1 else 0)
            (calendarMonth (monthOf dayOfYear)) := by
        by_cases hwinter : monthOf dayOfYear < 11
        · rwa [daysInMonth_calendarMonth _ hwinter]
        · have hlastMonth : monthOf dayOfYear = 11 := by omega
          rw [hlastMonth] at hday ⊢
          change dayOf dayOfYear < daysInMonth (year + 1) 2
          omega
      rw [hcivil, hcivil, CivilDate.next_of_lt hstays, hmonth, hnext]
    · have hends : ¬ dayOf dayOfYear <
          daysInMonth (year + if calendarMonth (monthOf dayOfYear) ≤ 2 then 1 else 0)
            (calendarMonth (monthOf dayOfYear)) := by
        rw [daysInMonth_calendarMonth _ hlast, hin]
        exact lt_irrefl _
      by_cases hdecember : monthOf dayOfYear = 9
      · rw [hdecember] at hends
        rw [hcivil, hcivil, hmonth, hnext, hdecember, CivilDate.next_of_year hends (lt_irrefl 12)]
        simp [calendarMonth]
      · obtain ⟨hsucc, hbefore, hyear⟩ := calendarMonth_succ _ hlast hdecember
        rw [hcivil, hcivil, CivilDate.next_of_month hends hbefore, hmonth, hnext, hyear,
          hsucc]
  · have hlastDay : dayOfYear + 1 = 337 + daysInMonth (year + 1) 2 := by omega
    have hlastMonth : monthOf dayOfYear = 11 := by
      rw [monthOf] at hmonths ⊢
      omega
    have hends : ¬ dayOf dayOfYear < daysInMonth (year + 1) 2 := by
      rw [hlastMonth] at hday
      omega
    have hmonth : calendarMonth 11 = 2 := rfl
    rw [MarchDate.next_of_last hlt, hcivil, hlastMonth, hmonth]
    exact (CivilDate.next_of_month hends (by simp)).trans (by simp [MarchDate.civil]) |>.symm

/-! ## Counting -/

theorem marchOfDays_lt_length (days : Int) :
    (marchOfDays days).dayOfYear < MarchDate.length (marchOfDays days).year := by
  have hday : ((days + 719468) % 146097).toNat < 146097 := by omega
  have hbound := dayOfYear_le hday
  have hstart := yearStart_yearOfEra_le hday
  have hlt := yearOfEra_lt hday
  rw [marchOfDays_eq]
  simp only [marchOfEra]
  by_cases hlast : yearOfEra ((days + 719468) % 146097).toNat = 399
  · have hlength : MarchDate.length (((399 : Nat) : Int) + (days + 719468) / 146097 * 400) = 366 :=
      length_last_of_era
    rw [hlast] at hbound ⊢
    rw [hlength]
    omega
  · have hend := @lt_yearStart_succ ((days + 719468) % 146097).toNat (by omega)
    have hlength := @length_of_era (yearOfEra ((days + 719468) % 146097).toNat)
      ((days + 719468) / 146097) (by omega)
    omega

theorem civilOfDays_succ (days : Int) : civilOfDays (days + 1) = (civilOfDays days).next := by
  rw [civilOfDays_eq, civilOfDays_eq, marchOfDays_succ]
  exact MarchDate.civil_next (marchOfDays_valid days) (marchOfDays_lt_length days)

theorem civilOfDays_iterate (days : Nat) :
    civilOfDays days = CivilDate.next^[days] CivilDate.epoch := by
  induction days with
  | zero => decide
  | succ days ih =>
      rw [Function.iterate_succ_apply', ← ih, Nat.cast_succ, civilOfDays_succ]

end TauriPlatform
