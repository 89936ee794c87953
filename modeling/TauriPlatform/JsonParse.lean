import TauriPlatform.JsonValue

/-!
# Parsing JSON

`JSON.parse`.  A number literal is kept as the decimal it writes, where JavaScript
rounds it to 53 bits; an escaped surrogate without its partner becomes the
replacement character.  The module names nothing of a particular program.
-/

namespace TauriPlatform

def skipJsonSpace (chars : List Char) : List Char :=
  chars.dropWhile fun c => c = ' ' || c = '\t' || c = '\n' || c = '\r'

/-! ## Strings -/

def hexDigitValue? (c : Char) : Option Nat :=
  if isDecimalDigit c then some (c.toNat - 48)
  else if 'a' ≤ c && c ≤ 'f' then some (c.toNat - 87)
  else if 'A' ≤ c && c ≤ 'F' then some (c.toNat - 55)
  else none

def codeUnit? (a b c d : Char) : Option Nat := do
  return (((← hexDigitValue? a) * 16 + (← hexDigitValue? b)) * 16 +
    (← hexDigitValue? c)) * 16 + (← hexDigitValue? d)

def surrogatePair? (high low : Nat) : Option Char :=
  if 0xD800 ≤ high ∧ high ≤ 0xDBFF ∧ 0xDC00 ≤ low ∧ low ≤ 0xDFFF then
    some (Char.ofNat (0x10000 + (high - 0xD800) * 0x400 + (low - 0xDC00)))
  else none

def codeUnitChar (unit : Nat) : Char :=
  if 0xD800 ≤ unit ∧ unit ≤ 0xDFFF then Char.ofNat 0xFFFD else Char.ofNat unit

def decodeUtf16 : List Nat → List Char
  | [] => []
  | [unit] => [codeUnitChar unit]
  | high :: low :: rest =>
      match surrogatePair? high low with
      | some c => c :: decodeUtf16 rest
      | none => codeUnitChar high :: decodeUtf16 (low :: rest)

def simpleEscape? (c : Char) : Option Nat :=
  if c = '"' ∨ c = '\\' ∨ c = '/' then some c.toNat
  else if c = 'b' then some 8
  else if c = 'f' then some 12
  else if c = 'n' then some 10
  else if c = 'r' then some 13
  else if c = 't' then some 9
  else none

def parseStringUnits : List Char → Option (List Nat × List Char)
  | [] => none
  | c :: rest =>
      if c = '"' then some ([], rest)
      else if c.toNat < 32 then none
      else if c = '\\' then
        match rest with
        | [] => none
        | escape :: rest =>
            if escape = 'u' then
              match rest with
              | a :: b :: c :: d :: rest => do
                  let unit ← codeUnit? a b c d
                  let (units, rest) ← parseStringUnits rest
                  return (unit :: units, rest)
              | _ => none
            else do
              let unit ← simpleEscape? escape
              let (units, rest) ← parseStringUnits rest
              return (unit :: units, rest)
      else do
        let (units, rest) ← parseStringUnits rest
        return (utf16Units c ++ units, rest)

def parseStringText (chars : List Char) : Option (String × List Char) := do
  let (units, rest) ← parseStringUnits chars
  return (String.ofList (decodeUtf16 units), rest)

/-! ## Numbers -/

/-- The number `significand * 10 ^ exponent`. -/
def JsonNumber.ofScientific (significand exponent : Int) : JsonNumber :=
  if 0 ≤ exponent then .integer (significand * 10 ^ exponent.toNat)
  else .ofDecimal significand (-exponent).toNat

def parseExponent (chars : List Char) : Option (Int × List Char) :=
  match chars with
  | c :: rest =>
      if c = 'e' ∨ c = 'E' then
        let (sign, rest) : Int × List Char := match rest with
          | '+' :: rest => (1, rest)
          | '-' :: rest => (-1, rest)
          | rest => (1, rest)
        let digits := rest.takeWhile isDecimalDigit
        if digits = [] then none
        else some (sign * parseDigits 10 digits, rest.dropWhile isDecimalDigit)
      else some (0, chars)
  | [] => some (0, [])

def parseFraction (chars : List Char) : Option (List Char × List Char) :=
  match chars with
  | '.' :: rest =>
      let digits := rest.takeWhile isDecimalDigit
      if digits = [] then none else some (digits, rest.dropWhile isDecimalDigit)
  | chars => some ([], chars)

def parseJsonNumber (chars : List Char) : Option (JsonNumber × List Char) := do
  let (sign, chars) : Int × List Char := match chars with
    | '-' :: rest => (-1, rest)
    | chars => (1, chars)
  let whole := chars.takeWhile isDecimalDigit
  if whole = [] ∨ (whole.head? = some '0' ∧ whole.length ≠ 1) then none
  else
    let (fraction, chars) ← parseFraction (chars.dropWhile isDecimalDigit)
    let (exponent, chars) ← parseExponent chars
    return (.ofScientific (sign * parseDigits 10 (whole ++ fraction))
      (exponent - fraction.length), chars)

/-! ## Values -/

def dropLiteral? (literal chars : List Char) : Option (List Char) :=
  if literal.isPrefixOf chars then some (chars.drop literal.length) else none

mutual

def parseJsonValue : Nat → List Char → Option (JsonValue × List Char)
  | 0, _ => none
  | fuel + 1, chars =>
      match skipJsonSpace chars with
      | [] => none
      | c :: rest =>
          if c = 'n' then
            (dropLiteral? "ull".toList rest).map fun rest => (.null, rest)
          else if c = 't' then
            (dropLiteral? "rue".toList rest).map fun rest => (.bool true, rest)
          else if c = 'f' then
            (dropLiteral? "alse".toList rest).map fun rest => (.bool false, rest)
          else if c = '"' then
            (parseStringText rest).map fun (text, rest) => (.string text, rest)
          else if c = '[' then
            match dropLiteral? [']'] (skipJsonSpace rest) with
            | some rest => some (.array [], rest)
            | none =>
                (parseJsonItems fuel rest).map fun (items, rest) => (.array items, rest)
          else if c = '\x7b' then
            match dropLiteral? ['\x7d'] (skipJsonSpace rest) with
            | some rest => some (.object [], rest)
            | none =>
                (parseJsonEntries fuel rest).map fun (entries, rest) =>
                  (.object (spread [] entries), rest)
          else
            (parseJsonNumber (c :: rest)).map fun (number, rest) => (.number number, rest)

def parseJsonItems : Nat → List Char → Option (List JsonValue × List Char)
  | 0, _ => none
  | fuel + 1, chars =>
      match parseJsonValue fuel chars with
      | none => none
      | some (item, rest) =>
          match skipJsonSpace rest with
          | [] => none
          | c :: rest =>
              if c = ']' then some ([item], rest)
              else if c = ',' then
                (parseJsonItems fuel rest).map fun (items, rest) => (item :: items, rest)
              else none

def parseJsonEntries : Nat → List Char → Option (List (String × JsonValue) × List Char)
  | 0, _ => none
  | fuel + 1, chars =>
      let key := (dropLiteral? ['"'] (skipJsonSpace chars)).bind parseStringText
      match key with
      | none => none
      | some (key, rest) =>
          match (dropLiteral? [':'] (skipJsonSpace rest)).bind (parseJsonValue fuel) with
          | none => none
          | some (value, rest) =>
              match skipJsonSpace rest with
              | [] => none
              | c :: rest =>
                  if c = '\x7d' then some ([(key, value)], rest)
                  else if c = ',' then
                    (parseJsonEntries fuel rest).map fun (entries, rest) =>
                      ((key, value) :: entries, rest)
                  else none

end

/-- `JSON.parse`, nothing where it raises a `SyntaxError`.  Every second call of
the parser consumes a character, so twice the length of the text is enough fuel. -/
def parseJson? (text : String) : Option JsonValue := do
  let (value, rest) ← parseJsonValue (2 * text.toList.length + 2) text.toList
  if skipJsonSpace rest = [] then some value else none

example : (parseJson? " \x7b\"b\": [1, -2.50e1, \"x\\u0041\"], \"a\": null\x7d ").map
    JsonValue.stringify = some "\x7b\"b\":[1,-25,\"xA\"],\"a\":null\x7d" := by
  decide +kernel

example : (parseJson? "[1,]").isNone = true := by decide

end TauriPlatform
