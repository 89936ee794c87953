import TauriPlatform.JsonValue
import Mathlib.Data.Rat.Floor

/-!
# JavaScript numbers as extended rationals

Numbers with their infinities and not-a-number.  Rounding to 53 bits is left out;
what is kept of the format is that a value beyond the largest finite one becomes
infinite.  The module names nothing of a particular program.
-/

namespace TauriPlatform

inductive JsNumber where
  | finite (value : ℚ)
  | infinity (negative : Bool)
  | nan
  deriving DecidableEq

namespace JsNumber

def overflowBound : ℚ := 2 ^ 1024 - 2 ^ 970

def ofRat (value : ℚ) : JsNumber :=
  if overflowBound ≤ value then .infinity false
  else if value ≤ -overflowBound then .infinity true
  else .finite value

def ofJson (value : JsonNumber) : JsNumber :=
  ofRat ((value.decimal.1 : ℚ) / 10 ^ value.decimal.2)

def ofNumberValue : NumberValue → JsNumber
  | .finite value => ofJson value
  | .nonFinite "Infinity" => .infinity false
  | .nonFinite "-Infinity" => .infinity true
  | .nonFinite _ => .nan

def add : JsNumber → JsNumber → JsNumber
  | .finite left, .finite right => ofRat (left + right)
  | .infinity left, .infinity right => if left = right then .infinity left else .nan
  | .infinity negative, .finite _ => .infinity negative
  | .finite _, .infinity negative => .infinity negative
  | .nan, _ => .nan
  | _, .nan => .nan

def mul : JsNumber → JsNumber → JsNumber
  | .finite left, .finite right => ofRat (left * right)
  | .infinity left, .infinity right => .infinity (left != right)
  | .infinity negative, .finite value => scaled negative value
  | .finite value, .infinity negative => scaled negative value
  | .nan, _ => .nan
  | _, .nan => .nan
where
  /-- An infinity times a finite number. -/
  scaled (negative : Bool) (value : ℚ) : JsNumber :=
    if value = 0 then .nan else .infinity (negative != decide (value < 0))

/-- `Math.pow` with an integer exponent. -/
def pow (base : JsNumber) (exponent : ℤ) : JsNumber :=
  if exponent = 0 then .finite 1
  else
    match base with
    | .finite value =>
        if value = 0 ∧ exponent < 0 then .infinity false else ofRat (value ^ exponent)
    | .infinity negative =>
        if exponent < 0 then .finite 0
        else .infinity (negative && exponent % 2 = 1)
    | .nan => .nan

/-- `left < right`, false when either is not a number. -/
def lt : JsNumber → JsNumber → Bool
  | .finite left, .finite right => left < right
  | .infinity true, .infinity false => true
  | .infinity true, .finite _ => true
  | .finite _, .infinity false => true
  | _, _ => false

/-- `left <= right`, false when either is not a number. -/
def le (left right : JsNumber) : Bool :=
  left ≠ .nan && right ≠ .nan && !lt right left

def min (left right : JsNumber) : JsNumber :=
  if left = .nan ∨ right = .nan then .nan else if lt right left then right else left

def max (left right : JsNumber) : JsNumber :=
  if left = .nan ∨ right = .nan then .nan else if lt left right then right else left

def round : JsNumber → JsNumber
  | .finite value => .finite ⌊value + 1 / 2⌋
  | other => other

def integerText : JsNumber → String
  | .finite value => String.ofList (JsonNumber.integer value.floor).text
  | .infinity false => "Infinity"
  | .infinity true => "-Infinity"
  | .nan => "NaN"

end JsNumber
end TauriPlatform
