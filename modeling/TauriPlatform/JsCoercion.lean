import TauriPlatform.JsNumber
import TauriPlatform.SyncEnvelopeBuilder
import Mathlib.Data.List.DropRight

/-!
# Coercions of parsed JSON

What JavaScript makes of a value which was read with `JSON.parse` where it wants a text or a
number.  A missing property is `none`.  The methods of a parsed object are those of its
prototype, unless a property of the JSON hides them.
-/

namespace TauriPlatform

mutual

/-- An object whose JSON has a property `toString` has no primitive value: the property hides
the method, and `valueOf` answers the object.  An array is converted item by item. -/
def hasPrimitive : JsonValue → Bool
  | .array items => itemsHavePrimitive items
  | .object entries => !entries.any fun entry => entry.1 == "toString"
  | _ => true
termination_by structural value => value

def itemsHavePrimitive : List JsonValue → Bool
  | [] => true
  | item :: rest => hasPrimitive item && itemsHavePrimitive rest
termination_by structural items => items

end

def Converts (value : Option JsonValue) : Prop :=
  value.all hasPrimitive = true

def conversionError : Thrown :=
  .builtin "TypeError" "Cannot convert object to primitive value"

/-- `ToString`. -/
def toText : Option JsonValue → Except Thrown String
  | none => .ok "undefined"
  | some value => if hasPrimitive value then .ok (templateText value) else .error conversionError

/-! ## Numbers -/

def exponentPart? : List Char → Option ℤ
  | [] => some 0
  | marker :: rest =>
      let (negative, digits) := match rest with
        | '-' :: digits => (true, digits)
        | '+' :: digits => (false, digits)
        | digits => (false, digits)
      if (marker = 'e' ∨ marker = 'E') ∧ digits ≠ [] ∧ digits.all isDecimalDigit then
        some (if negative then -parseDigits 10 digits else parseDigits 10 digits)
      else none

/-- A decimal literal without a sign, or `Infinity`. -/
def unsignedDecimal (chars : List Char) : JsNumber :=
  if chars = "Infinity".toList then .infinity false
  else
    let whole := chars.takeWhile isDecimalDigit
    let rest := chars.dropWhile isDecimalDigit
    let (fraction, rest) := match rest with
      | '.' :: rest => (rest.takeWhile isDecimalDigit, rest.dropWhile isDecimalDigit)
      | rest => ([], rest)
    match exponentPart? rest with
    | none => .nan
    | some exponent =>
        if whole = [] ∧ fraction = [] then .nan
        else .ofRat (parseDigits 10 (whole ++ fraction) * 10 ^ (exponent - fraction.length))

/-- The literal behind `0x`, `0o` or `0b`. -/
def radixNumber (radix : Nat) (digits : List Char) : JsNumber :=
  let digits := digits.map Char.toLower
  if digits ≠ [] ∧ digits.all (fun c => isLowerHexDigit c && digitValue c < radix) then
    .ofRat (parseDigits radix digits)
  else .nan

/-- `StringToNumber`. -/
def textNumber (text : String) : JsNumber :=
  match (text.toList.dropWhile isJsWhitespace).rdropWhile isJsWhitespace with
  | [] => .finite 0
  | '0' :: 'x' :: digits | '0' :: 'X' :: digits => radixNumber 16 digits
  | '0' :: 'o' :: digits | '0' :: 'O' :: digits => radixNumber 8 digits
  | '0' :: 'b' :: digits | '0' :: 'B' :: digits => radixNumber 2 digits
  | '+' :: chars => unsignedDecimal chars
  | '-' :: chars => (JsNumber.finite (-1)).mul (unsignedDecimal chars)
  | chars => unsignedDecimal chars

/-- `ToNumber`, as an operand of a comparison with a number. -/
def toNumber : Option JsonValue → Except Thrown JsNumber
  | none => .ok .nan
  | some .null => .ok (.finite 0)
  | some (.bool value) => .ok (.finite (if value then 1 else 0))
  | some (.number value) => .ok (.ofJson value)
  | some (.string text) => .ok (textNumber text)
  | some value => (toText (some value)).map textNumber

example : textNumber " 1.5e1 " = .finite 15 := by
  decide +kernel

/-! ## Failing conversions -/

theorem toText_eq_error_iff {value : Option JsonValue} :
    (∃ error, toText value = .error error) ↔ ¬ Converts value := by
  cases value with
  | none => simp [toText, Converts]
  | some value =>
      by_cases hprimitive : hasPrimitive value
      · simp [toText, Converts, hprimitive]
      · simp [toText, Converts, hprimitive]

theorem toNumber_eq_error_iff {value : Option JsonValue} :
    (∃ error, toNumber value = .error error) ↔ ¬ Converts value := by
  have hmap : ∀ value, (∃ error, (toText value).map textNumber = .error error) ↔
      ¬ Converts value := by
    intro value
    rw [← toText_eq_error_iff]
    cases toText value with
    | error error => simp [Except.map]
    | ok text => simp [Except.map]
  cases value with
  | none => simp [toNumber, Converts]
  | some value =>
      cases value with
      | array items => exact hmap (some (.array items))
      | object entries => exact hmap (some (.object entries))
      | null => simp [toNumber, Converts, hasPrimitive]
      | bool value => simp [toNumber, Converts, hasPrimitive]
      | number value => simp [toNumber, Converts, hasPrimitive]
      | string text => simp [toNumber, Converts, hasPrimitive]

end TauriPlatform
