import TauriPlatform.IsoOrder
import TauriPlatform.TaskQueueService

/-!
# When a scheduled task is due

`enqueue` stores the scheduled time as it is given, and `claimNextBatch` compares it with the
clock as a text.  So a task is due in time exactly if its text stands where the text of its
instant stands, which other spellings of ISO-8601 need not do.
-/

namespace TauriPlatform

/-! ## Spellings of an instant -/

def takeDatePart : List Char → Option (Nat × List Char)
  | '-' :: rest => takeDigits 2 rest
  | chars => some (1, chars)

def takeSeconds : List Char → Option (Nat × List Char)
  | ':' :: rest => do
      let (second, rest) ← takeDigits 2 rest
      if 60 ≤ second then none
      else
        match rest with
        | '.' :: digits =>
            let fraction := digits.takeWhile isDecimalDigit
            if fraction = [] then none
            else some (second * 1000 + parseDigits 10 ((fraction ++ ['0', '0']).take 3),
              digits.dropWhile isDecimalDigit)
        | rest => some (second * 1000, rest)
  | chars => some (0, chars)

def zoneMinutes? (localMinutes : Int) : List Char → Option Int
  | [] => some localMinutes
  | ['Z'] => some 0
  | sign :: rest => do
      let (hour, rest) ← takeDigits 2 rest
      let rest ← takeChar ':' rest
      let (minute, rest) ← takeDigits 2 rest
      if rest ≠ [] ∨ 24 ≤ hour ∨ 60 ≤ minute then none
      else if sign = '+' then some ((hour * 60 + minute : Nat) : Int)
      else if sign = '-' then some (-((hour * 60 + minute : Nat) : Int))
      else none

/-- The instant of an ISO-8601 date, or date and time, as `Date.parse` reads it. -/
def dateTimeInstant? (localMinutes : Int) (text : String) : Option Int := do
  let (year, chars) ← takeYear text.toList
  let (month, chars) ← takeDatePart chars
  let (day, chars) ← takeDatePart chars
  let date : CivilDate := { year := year, month := month, day := day }
  let midnight := daysOfCivil date * millisPerDay
  if civilOfDays (daysOfCivil date) ≠ date then none
  else
    match chars with
    | [] => some midnight
    | 'T' :: chars => do
        let (hour, chars) ← takeDigits 2 chars
        let chars ← takeChar ':' chars
        let (minute, chars) ← takeDigits 2 chars
        let (millis, chars) ← takeSeconds chars
        let zone ← zoneMinutes? localMinutes chars
        let time := hour * 3600000 + minute * 60000 + millis
        if 60 ≤ minute ∨ 86400000 < time then none
        else some (midnight + time - zone * 60000)
    | _ => none

example : dateTimeInstant? 0 "2026-01-01T01:30+01:30" =
    dateTimeInstant? 0 "2026-01-01" := by decide

/-! ## Texts in place -/

/-- The text is not after the text of its instant, but after that of the millisecond before.
Instants outside of the years 0 to 9999 count as the nearest ones within. -/
def InPlace (scheduledAt : String) (instant : Int) : Prop :=
  (instant ≤ lastFourDigit → scheduledAt ≤ isoText (max instant firstFourDigit)) ∧
    (firstFourDigit < instant → isoText (min (instant - 1) lastFourDigit) < scheduledAt)

theorem inPlace_isoText {instant : Int} (hfour : FourDigitYear instant) :
    InPlace (isoText instant) instant := by
  constructor
  · intro _
    rw [max_eq_left hfour.1]
  · intro hfirst
    have hbefore : instant - 1 ≤ lastFourDigit := by
      have hlast := hfour.2
      omega
    rw [min_eq_left hbefore]
    exact isoText_lt ⟨by omega, hbefore⟩ hfour (by omega)

theorem le_isoText_iff {scheduledAt : String} {instant : Int} :
    (∀ now, FourDigitYear now → (scheduledAt ≤ isoText now ↔ instant ≤ now)) ↔
      InPlace scheduledAt instant := by
  have hbounds : firstFourDigit ≤ lastFourDigit := by decide
  constructor
  · intro hsorts
    constructor
    · intro hlast
      have hnow : FourDigitYear (max instant firstFourDigit) :=
        ⟨le_max_right _ _, max_le hlast hbounds⟩
      exact (hsorts _ hnow).mpr (le_max_left _ _)
    · intro hfirst
      have hnow : FourDigitYear (min (instant - 1) lastFourDigit) :=
        ⟨le_min (by omega) hbounds, min_le_right _ _⟩
      have hbefore : min (instant - 1) lastFourDigit < instant :=
        lt_of_le_of_lt (min_le_left _ _) (by omega)
      exact not_le.mp fun hle => absurd ((hsorts _ hnow).mp hle) (not_le.mpr hbefore)
  · intro hplace now hnow
    constructor
    · intro hle
      by_contra hearly
      have hbefore : now ≤ min (instant - 1) lastFourDigit := le_min (by omega) hnow.2
      have hfirst : firstFourDigit < instant := lt_of_le_of_lt hnow.1 (not_le.mp hearly)
      have htext := isoText_le hnow ⟨hnow.1.trans hbefore, min_le_right _ _⟩ hbefore
      exact absurd (hle.trans htext) (not_le.mpr (hplace.2 hfirst))
    · intro hreached
      have hafter : max instant firstFourDigit ≤ now := max_le hreached hnow.1
      have htext := isoText_le ⟨le_max_right _ _, hafter.trans hnow.2⟩ hnow hafter
      exact (hplace.1 (hreached.trans hnow.2)).trans htext

/-! ## Due tasks -/

namespace TaskQueueService

/-- Whatever the clock reads, as long as it reads a year of four digits, the enqueued task is
due exactly from its instant on. -/
def DueInTime (definition : TaskDefinition) (checked : CheckedDefinition) (instant : Int) : Prop :=
  ∀ (id created : String) (taskTypes : List String) (now : ClockReading),
    (taskTypes = [] ∨ definition.taskType ∈ taskTypes) → FourDigitYear now.millis →
    (isDue now.iso taskTypes (newRow id created definition checked) = true ↔
      instant ≤ now.millis)

theorem isDue_newRow_iff {definition : TaskDefinition} {checked : CheckedDefinition}
    {scheduledAt id created now : String} {taskTypes : List String}
    (hscheduled : definition.scheduledAt = some scheduledAt)
    (htypes : taskTypes = [] ∨ definition.taskType ∈ taskTypes) :
    isDue now taskTypes (newRow id created definition checked) = true ↔ scheduledAt ≤ now := by
  simp [isDue, newRow, hscheduled, htypes]

def reportAt (scheduledAt : String) : TaskDefinition where
  taskType := "report"
  payload := .json .null
  scheduledAt := some scheduledAt
  organisationId := "org"
  correlationId := "corr"

def checkedReport : CheckedDefinition where
  policy := defaultRetryPolicy
  timeoutMs := 30000
  payloadJson := "null"

theorem checkDefinition_reportAt (scheduledAt : String) :
    checkDefinition (reportAt scheduledAt) = .ok checkedReport := by
  have htype : ¬ isBlank "report" := by decide
  have horganisation : ¬ isBlank "org" := by decide
  have hcorrelation : ¬ isBlank "corr" := by decide
  exact (if_neg htype).trans ((if_neg horganisation).trans ((if_neg hcorrelation).trans rfl))

end TaskQueueService
end TauriPlatform
