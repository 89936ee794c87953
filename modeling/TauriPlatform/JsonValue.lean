import Mathlib.Data.List.Sort
import Mathlib.Tactic

/-!
# JavaScript text and JSON values

Values which cross a JSON boundary are kept in the order in which JavaScript
enumerates them, so that serialization is a function of the value.  A number is
kept as the shortest decimal which denotes it; this is the decimal which
`Number.prototype.toString` prints.  The module names nothing of a particular
program.
-/

namespace TauriPlatform

/-! ## Text -/

def utf16Width (c : Char) : Nat :=
  if c.toNat < 0x10000 then 1 else 2

/-- `String.prototype.length`. -/
def jsLength (text : String) : Nat :=
  (text.toList.map utf16Width).sum

def utf16Units (c : Char) : List Nat :=
  if c.toNat < 0x10000 then [c.toNat]
  else [0xD800 + (c.toNat - 0x10000) / 0x400, 0xDC00 + (c.toNat - 0x10000) % 0x400]

def utf8Length (chars : List Char) : Nat :=
  (chars.map Char.utf8Size).sum

@[simp] theorem utf8Length_nil : utf8Length [] = 0 :=
  rfl

@[simp] theorem utf8Length_cons (c : Char) (chars : List Char) :
    utf8Length (c :: chars) = c.utf8Size + utf8Length chars := by
  simp [utf8Length]

@[simp] theorem utf8Length_append (left right : List Char) :
    utf8Length (left ++ right) = utf8Length left + utf8Length right := by
  simp [utf8Length]

theorem utf8Length_le (chars : List Char) : utf8Length chars ≤ 4 * chars.length := by
  induction chars with
  | nil => simp
  | cons c chars ih =>
      have hsize := Char.utf8Size_le_four c
      simp only [utf8Length_cons, List.length_cons]
      omega

/-- The default order of `Array.prototype.sort` on strings: by code unit. -/
def codeUnitLe (left right : String) : Bool :=
  decide (left.toList.flatMap utf16Units ≤ right.toList.flatMap utf16Units)

/-- The characters which `String.prototype.trim` removes. -/
def isJsWhitespace (c : Char) : Bool :=
  c.toNat ∈ [0x09, 0x0A, 0x0B, 0x0C, 0x0D, 0x20, 0xA0, 0x1680, 0x2028, 0x2029,
      0x202F, 0x205F, 0x3000, 0xFEFF] ||
    (0x2000 ≤ c.toNat && c.toNat ≤ 0x200A)

/-- `text.trim().length === 0`. -/
def isBlank (text : String) : Bool :=
  text.toList.all isJsWhitespace

/-- The characters which `.` of a regular expression does not match. -/
def isLineTerminator (c : Char) : Bool :=
  c.toNat ∈ [0x0A, 0x0D, 0x2028, 0x2029]

def isDecimalDigit (c : Char) : Bool :=
  '0' ≤ c && c ≤ '9'

/-- The class `[0-9a-f]`. -/
def isLowerHexDigit (c : Char) : Bool :=
  isDecimalDigit c || ('a' ≤ c && c ≤ 'f')

def digitValue (c : Char) : Nat :=
  if isDecimalDigit c then c.toNat - '0'.toNat else c.toNat - 'a'.toNat + 10

/-- `Number.parseInt` on digits of the given radix, before rounding. -/
def parseDigits (radix : Nat) (digits : List Char) : Nat :=
  digits.foldl (fun value c => value * radix + digitValue c) 0

/-- The `width` lowest digits of a number, most significant first; this is
`toString(radix).padStart(width, "0")` on a number which fits. -/
def fixedDigits (radix : Nat) : Nat → Nat → List Char
  | 0, _ => []
  | width + 1, value =>
      fixedDigits radix width (value / radix) ++ [Nat.digitChar (value % radix)]

@[simp] theorem fixedDigits_length (radix width value : Nat) :
    (fixedDigits radix width value).length = width := by
  induction width generalizing value with
  | zero => rfl
  | succ width ih => simp [fixedDigits, ih]

/-! ## Numbers -/

/-- A finite number, as the shortest decimal denoting it: an integer, or
`significand * 10 ^ -(places + 1)` with a last digit other than zero. -/
inductive JsonNumber where
  | integer (value : Int)
  | fraction (significand : Int) (places : Nat)
      (reduced : significand % 10 ≠ 0)
  deriving DecidableEq

def maxSafeInteger : Nat := 2 ^ 53 - 1

def JsonNumber.safeInteger? : JsonNumber → Option Int
  | .integer value => if value.natAbs ≤ maxSafeInteger then some value else none
  | .fraction _ _ _ => none

/-- The digits and the position of the decimal point, as in the specification
of `Number.prototype.toString`. -/
def decimalText (digits : List Char) (point : Int) : List Char :=
  let count : Int := digits.length
  if count ≤ point ∧ point ≤ 21 then
    digits ++ List.replicate (point - count).toNat '0'
  else if 0 < point ∧ point ≤ 21 then
    digits.take point.toNat ++ '.' :: digits.drop point.toNat
  else if -6 < point ∧ point ≤ 0 then
    '0' :: '.' :: List.replicate (-point).toNat '0' ++ digits
  else
    let exponent := point - 1
    let sign := if exponent < 0 then '-' else '+'
    let mantissa := match digits with
      | first :: second :: rest => first :: '.' :: second :: rest
      | short => short
    mantissa ++ 'e' :: sign :: (Nat.toDigits 10 exponent.natAbs)

def dropTrailingZeros (digits : List Char) : List Char :=
  (digits.reverse.dropWhile (· == '0')).reverse

/-- `Number.prototype.toString`. -/
def JsonNumber.text : JsonNumber → List Char
  | .integer value =>
      let digits := Nat.toDigits 10 value.natAbs
      let sign := if value < 0 then ['-'] else []
      if digits.length ≤ 21 then sign ++ digits
      else sign ++ decimalText (dropTrailingZeros digits) digits.length
  | .fraction significand places _ =>
      let digits := Nat.toDigits 10 significand.natAbs
      let sign := if significand < 0 then ['-'] else []
      sign ++ decimalText digits (digits.length - (places + 1 : Nat))

/-- The decimal `significand * 10 ^ -places`. -/
def JsonNumber.ofDecimal (significand : Int) : Nat → JsonNumber
  | 0 => .integer significand
  | places + 1 =>
      if reduced : significand % 10 ≠ 0 then .fraction significand places reduced
      else ofDecimal (significand / 10) places

def JsonNumber.decimal : JsonNumber → Int × Nat
  | .integer value => (value, 0)
  | .fraction significand places _ => (significand, places + 1)

def JsonNumber.isNegative (value : JsonNumber) : Bool :=
  value.decimal.1 < 0

def JsonNumber.isPositive (value : JsonNumber) : Bool :=
  0 < value.decimal.1

/-- `value > 1`. -/
def JsonNumber.exceedsOne (value : JsonNumber) : Bool :=
  10 ^ value.decimal.2 < value.decimal.1

def JsonNumber.add (left right : JsonNumber) : JsonNumber :=
  let places := max left.decimal.2 right.decimal.2
  ofDecimal
    (left.decimal.1 * 10 ^ (places - left.decimal.2) +
      right.decimal.1 * 10 ^ (places - right.decimal.2))
    places

/-- A number of JavaScript code: finite, or an infinity or `NaN` with its text. -/
inductive NumberValue where
  | finite (value : JsonNumber)
  | nonFinite (text : String)
  deriving DecidableEq

/-- The number, when `Number.isFinite` holds. -/
def NumberValue.finite? : NumberValue → Option JsonNumber
  | .finite value => some value
  | .nonFinite _ => none

/-- The number, when `Number.isSafeInteger` holds. -/
def NumberValue.safeInteger? (value : NumberValue) : Option Int :=
  value.finite?.bind JsonNumber.safeInteger?

/-- `String(value)`. -/
def NumberValue.text : NumberValue → String
  | .finite value => String.ofList value.text
  | .nonFinite text => text

/-! ## Values -/

/-- A JSON value.  An object lists its own enumerable properties in the order in
which JavaScript enumerates them. -/
inductive JsonValue where
  | null
  | bool (value : Bool)
  | number (value : JsonNumber)
  | string (value : String)
  | array (items : List JsonValue)
  | object (entries : List (String × JsonValue))

def JsonValue.get? (value : JsonValue) (key : String) : Option JsonValue :=
  match value with
  | .object entries => entries.lookup key
  | _ => none

/-- `typeof value === "object" && value !== null && !Array.isArray(value)`. -/
def JsonValue.isRecord : JsonValue → Bool
  | .object _ => true
  | _ => false

def JsonValue.string? : JsonValue → Option String
  | .string value => some value
  | _ => none

def JsonValue.safeInteger? : JsonValue → Option Int
  | .number value => value.safeInteger?
  | _ => none

def JsonValue.number? : JsonValue → Option JsonNumber
  | .number value => some value
  | _ => none

/-- A property name which is an array index, below `2 ^ 32 - 1`. -/
def arrayIndex? (key : String) : Option Nat :=
  let digits := key.toList
  if digits ≠ [] ∧ digits.all isDecimalDigit ∧
      (digits.head? = some '0' → digits.length = 1) ∧
      parseDigits 10 digits < 2 ^ 32 - 1 then
    some (parseDigits 10 digits)
  else none

/-- `Object.defineProperty` with an enumerable value.  Array indices are
enumerated first and in ascending order, other names in order of creation. -/
def defineProperty (entries : List (String × JsonValue)) (key : String)
    (value : JsonValue) : List (String × JsonValue) :=
  if entries.any (fun entry => entry.1 == key) then
    entries.map fun entry => if entry.1 = key then (key, value) else entry
  else
    match arrayIndex? key with
    | none => entries ++ [(key, value)]
    | some index =>
        let isBelow := fun entry : String × JsonValue =>
          (arrayIndex? entry.1).any (· < index)
        entries.takeWhile isBelow ++ (key, value) :: entries.dropWhile isBelow

def JsonValue.ownEntries : JsonValue → List (String × JsonValue)
  | .object entries => entries
  | .array items =>
      items.mapIdx fun index item => (String.ofList (Nat.toDigits 10 index), item)
  | _ => []

/-- `value[key]` on an object or an array. -/
def JsonValue.property? (value : JsonValue) (key : String) : Option JsonValue :=
  match value with
  | .array items =>
      if key = "length" then some (.number (.integer items.length))
      else value.ownEntries.lookup key
  | _ => value.ownEntries.lookup key

/-- `typeof value === "object" && value !== null`. -/
def JsonValue.isObjectLike : JsonValue → Bool
  | .object _ => true
  | .array _ => true
  | _ => false

/-- `{ ...left, ...right }`. -/
def spread (left right : List (String × JsonValue)) : List (String × JsonValue) :=
  right.foldl (fun entries entry => defineProperty entries entry.1 entry.2) left

/-! ## Serialization -/

def quoteChar (c : Char) : List Char :=
  match c with
  | '"' => ['\\', '"']
  | '\\' => ['\\', '\\']
  | '\n' => ['\\', 'n']
  | '\r' => ['\\', 'r']
  | '\t' => ['\\', 't']
  | c =>
      if c.toNat = 8 then ['\\', 'b']
      else if c.toNat = 12 then ['\\', 'f']
      else if c.toNat < 32 then '\\' :: 'u' :: fixedDigits 16 4 c.toNat
      else [c]

/-- The specification's `QuoteJSONString`. -/
def quoteText (text : String) : List Char :=
  '"' :: text.toList.flatMap quoteChar ++ ['"']

mutual

/-- The characters of `JSON.stringify(value)`. -/
def JsonValue.serialize : JsonValue → List Char
  | .null => "null".toList
  | .bool true => "true".toList
  | .bool false => "false".toList
  | .number value => value.text
  | .string value => quoteText value
  | .array items => '[' :: serializeItems items ++ [']']
  | .object entries => '{' :: serializeEntries entries ++ ['}']
termination_by structural value => value

def serializeItems : List JsonValue → List Char
  | [] => []
  | [item] => item.serialize
  | item :: second :: rest =>
      item.serialize ++ ',' :: serializeItems (second :: rest)
termination_by structural items => items

def serializeEntries : List (String × JsonValue) → List Char
  | [] => []
  | [(key, value)] => quoteText key ++ ':' :: value.serialize
  | (key, value) :: second :: rest =>
      quoteText key ++ ':' :: value.serialize ++
        ',' :: serializeEntries (second :: rest)
termination_by structural entries => entries

end

def JsonValue.stringify (value : JsonValue) : String :=
  String.ofList value.serialize

example :
    (JsonValue.object [("a", .array [.null, .number (.integer 12)]),
      ("b", .string "x\"y")]).stringify = "\x7b\"a\":[null,12],\"b\":\"x\\\"y\"\x7d" := by
  decide

end TauriPlatform
