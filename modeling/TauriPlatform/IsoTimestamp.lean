import TauriPlatform.JsonValue

/-!
# Instants and their ISO-8601 text

An instant is a number of milliseconds since 1970-01-01T00:00:00Z.  The module
gives the proleptic Gregorian date of a day number, the text which
`Date.prototype.toISOString` prints, and the instant which such a text denotes.
It names nothing of a particular program.
-/

namespace TauriPlatform

def millisPerDay : Int := 86400000

/-- `new Date(t)` is an invalid date beyond this distance from the epoch. -/
def maxTimeValue : Int := 8640000000000000

/-! ## Calendar -/

structure CivilDate where
  year : Int
  month : Nat
  day : Nat
  deriving DecidableEq

/-- Days from 1970-01-01 to a date.  Years are counted from March, so that the
leap day is the last day of its year, in eras of 400 years. -/
def daysOfCivil (date : CivilDate) : Int :=
  let year := if date.month ≤ 2 then date.year - 1 else date.year
  let era := year / 400
  let yearOfEra := year % 400
  let shifted := if date.month ≤ 2 then date.month + 9 else date.month - 3
  let dayOfYear : Int := (153 * shifted + 2) / 5 + date.day - 1
  era * 146097 + (yearOfEra * 365 + yearOfEra / 4 - yearOfEra / 100 + dayOfYear) -
    719468

def civilOfDays (days : Int) : CivilDate :=
  let shifted := days + 719468
  let era := shifted / 146097
  let dayOfEra := (shifted % 146097).toNat
  let yearOfEra :=
    (dayOfEra - dayOfEra / 1460 + dayOfEra / 36524 - dayOfEra / 146096) / 365
  let dayOfYear := dayOfEra - (365 * yearOfEra + yearOfEra / 4 - yearOfEra / 100)
  let monthIndex := (5 * dayOfYear + 2) / 153
  let month := if monthIndex < 10 then monthIndex + 3 else monthIndex - 9
  { year := yearOfEra + era * 400 + (if month ≤ 2 then 1 else 0)
    month := month
    day := dayOfYear - (153 * monthIndex + 2) / 5 + 1 }

/-! ## Printing -/

def yearText (year : Int) : List Char :=
  if 0 ≤ year ∧ year ≤ 9999 then fixedDigits 10 4 year.toNat
  else (if year < 0 then '-' else '+') :: fixedDigits 10 6 year.natAbs

/-- The characters of `new Date(instant).toISOString()` for a valid date. -/
def isoChars (instant : Int) : List Char :=
  let date := civilOfDays (instant / millisPerDay)
  let millis := (instant % millisPerDay).toNat
  yearText date.year ++ '-' :: fixedDigits 10 2 date.month ++
    '-' :: fixedDigits 10 2 date.day ++
    'T' :: fixedDigits 10 2 (millis / 3600000) ++
    ':' :: fixedDigits 10 2 (millis / 60000 % 60) ++
    ':' :: fixedDigits 10 2 (millis / 1000 % 60) ++
    '.' :: fixedDigits 10 3 (millis % 1000) ++ ['Z']

/-- `Date.prototype.toISOString`; an invalid date raises a `RangeError`. -/
def toIsoString? (instant : Int) : Option String :=
  if instant.natAbs ≤ maxTimeValue.natAbs then
    some (String.ofList (isoChars instant))
  else none

/-- What `Date.now()` returns: a valid date. -/
structure ClockReading where
  millis : Int
  inRange : millis.natAbs ≤ maxTimeValue.natAbs

/-- `new Date().toISOString()`. -/
def ClockReading.iso (reading : ClockReading) : String :=
  String.ofList (isoChars reading.millis)

theorem yearText_length_le (year : Int) : (yearText year).length ≤ 7 := by
  unfold yearText
  split_ifs <;> simp

theorem isoChars_length_le (instant : Int) : (isoChars instant).length ≤ 27 := by
  have hyear := yearText_length_le (civilOfDays (instant / millisPerDay)).year
  simp only [isoChars, List.length_append, List.length_cons, fixedDigits_length,
    List.length_nil]
  omega

/-! ## Reading -/

/-- Exactly `width` decimal digits. -/
def takeDigits : Nat → List Char → Option (Nat × List Char)
  | width, chars =>
      let digits := chars.take width
      if digits.length = width ∧ digits.all isDecimalDigit then
        some (parseDigits 10 digits, chars.drop width)
      else none

def takeChar (expected : Char) : List Char → Option (List Char)
  | c :: rest => if c = expected then some rest else none
  | [] => none

def takeYear : List Char → Option (Int × List Char)
  | '+' :: rest => do
      let (year, rest) ← takeDigits 6 rest
      return (year, rest)
  | '-' :: rest => do
      let (year, rest) ← takeDigits 6 rest
      return (-year, rest)
  | chars => do
      let (year, rest) ← takeDigits 4 chars
      return (year, rest)

/-- The instant of a text in the shape which `toISOString` prints, with the
unread rest of the text.  Fields are not checked against the calendar here. -/
def takeIso (chars : List Char) : Option (Int × List Char) := do
  let (year, chars) ← takeYear chars
  let chars ← takeChar '-' chars
  let (month, chars) ← takeDigits 2 chars
  let chars ← takeChar '-' chars
  let (day, chars) ← takeDigits 2 chars
  let chars ← takeChar 'T' chars
  let (hour, chars) ← takeDigits 2 chars
  let chars ← takeChar ':' chars
  let (minute, chars) ← takeDigits 2 chars
  let chars ← takeChar ':' chars
  let (second, chars) ← takeDigits 2 chars
  let chars ← takeChar '.' chars
  let (millis, chars) ← takeDigits 3 chars
  let chars ← takeChar 'Z' chars
  let days := daysOfCivil { year := year, month := month, day := day }
  return (days * millisPerDay +
    (hour * 3600000 + minute * 60000 + second * 1000 + millis : Nat), chars)

/-- The instant of a text which `toISOString` prints.  A text whose fields are
out of range denotes an instant with another text and is refused, as in
`new Date(Date.parse(text)).toISOString() === text`. -/
def isoInstant? (text : String) : Option Int := do
  let (instant, rest) ← takeIso text.toList
  if rest = [] ∧ toIsoString? instant = some text then some instant else none

theorem isoInstant?_text {text : String} {instant : Int}
    (hinstant : isoInstant? text = some instant) :
    toIsoString? instant = some text := by
  unfold isoInstant? at hinstant
  cases htake : takeIso text.toList with
  | none => simp [htake] at hinstant
  | some taken =>
      obtain ⟨value, rest⟩ := taken
      simp only [htake, Option.bind_eq_bind, Option.bind_some] at hinstant
      split at hinstant
      next hprinted =>
        simp only [Option.some.injEq] at hinstant
        subst instant
        exact hprinted.2
      next => simp at hinstant

example : toIsoString? 1791590400123 = some "2026-10-10T00:00:00.123Z" := by
  decide

example : isoInstant? "2026-02-30T00:00:00.000Z" = none := by decide

end TauriPlatform
