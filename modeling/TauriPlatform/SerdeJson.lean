import TauriPlatform.JsonValue
import Mathlib.Tactic

/-!
# The JSON values of the native side

A number is an unsigned or a negative integer of 64 bits, or a finite double, whose text is
that of an arbitrary printer.  An object keeps its entries in the order of their keys.
-/

namespace TauriPlatform.SerdeJson

inductive Number (F : Type) where
  | posInt (value : UInt64)
  | negInt (value : Int64) (negative : value < 0)
  | float (value : F)

inductive Value (F : Type) where
  | null
  | bool (value : Bool)
  | number (value : Number F)
  | string (value : String)
  | array (items : List (Value F))
  | object (entries : List (String × Value F))

variable {F : Type}

namespace Number

/-- `Number::from` of a signed integer. -/
def ofInt64 (value : Int64) : Number F :=
  if negative : value < 0 then .negInt value negative else .posInt value.toUInt64

def asI64 : Number F → Option Int64
  | .posInt value => if value ≤ Int64.maxValue.toUInt64 then some value.toInt64 else none
  | .negInt value _ => some value
  | .float _ => none

def asU64 : Number F → Option UInt64
  | .posInt value => some value
  | _ => none

def integer? : Number F → Option Int
  | .posInt value => some value.toNat
  | .negInt value _ => some value.toInt
  | .float _ => none

/-- `number.to_string()`. -/
def text (floatText : F → List Char) : Number F → List Char
  | .posInt value => Nat.toDigits 10 value.toNat
  | .negInt value _ => '-' :: Nat.toDigits 10 value.toInt.natAbs
  | .float value => floatText value

theorem toNat_le_of_le {value : UInt64} (hvalue : value ≤ Int64.maxValue.toUInt64) :
    value.toNat < 2 ^ 63 := by
  have hbound : value.toNat ≤ Int64.maxValue.toUInt64.toNat := UInt64.le_iff_toNat_le.mp hvalue
  have hmax : Int64.maxValue.toUInt64.toNat = 2 ^ 63 - 1 := by decide
  omega

theorem toInt_toInt64 {value : UInt64} (hvalue : value.toNat < 2 ^ 63) :
    value.toInt64.toInt = value.toNat := by
  change value.toBitVec.toInt = _
  rw [BitVec.toInt_eq_toNat_of_lt]
  · rfl
  · change 2 * value.toNat < 2 ^ 64
    omega

end Number

/-! ## Serialization -/

variable (floatText : F → List Char)

mutual

/-- The characters of `to_string()`. -/
def Value.serialize : Value F → List Char
  | .null => "null".toList
  | .bool true => "true".toList
  | .bool false => "false".toList
  | .number value => value.text floatText
  | .string value => quoteText value
  | .array items => '[' :: serializeItems items ++ [']']
  | .object entries => '{' :: serializeEntries entries ++ ['}']
termination_by structural value => value

def serializeItems : List (Value F) → List Char
  | [] => []
  | [item] => item.serialize
  | item :: second :: rest => item.serialize ++ ',' :: serializeItems (second :: rest)
termination_by structural items => items

def serializeEntries : List (String × Value F) → List Char
  | [] => []
  | [(key, value)] => quoteText key ++ ':' :: value.serialize
  | (key, value) :: second :: rest =>
      quoteText key ++ ':' :: value.serialize ++ ',' :: serializeEntries (second :: rest)
termination_by structural entries => entries

end

def Value.bytes (value : Value F) : Nat :=
  utf8Length (value.serialize floatText)

/-! ## Lengths -/

theorem utf8Length_of_ascii {chars : List Char} (hascii : ∀ c ∈ chars, c.toNat < 128) :
    utf8Length chars = chars.length := by
  induction chars with
  | nil => rfl
  | cons c rest ih =>
      obtain ⟨hfirst, hrest⟩ := List.forall_mem_cons.mp hascii
      have hsize : c.utf8Size = 1 := by
        rw [Char.utf8Size_eq_one_iff, UInt32.le_iff_toNat_le]
        exact Nat.le_of_lt_succ hfirst
      rw [utf8Length_cons, hsize, ih hrest, List.length_cons]
      omega

theorem toNat_digitChar_lt (digit : Nat) : (Nat.digitChar digit).toNat < 128 := by
  by_cases hdigit : digit < 16
  · interval_cases digit <;> decide
  · unfold Nat.digitChar
    repeat rw [if_neg (by omega)]
    decide

theorem utf8Length_fixedDigits (radix width value : Nat) :
    utf8Length (fixedDigits radix width value) = width := by
  rw [utf8Length_of_ascii, fixedDigits_length]
  induction width generalizing value with
  | zero => exact fun _ hmem => nomatch hmem
  | succ width ih =>
      intro c hmem
      rcases List.mem_append.mp hmem with hfront | hlast
      · exact ih _ c hfront
      · rw [List.mem_singleton] at hlast
        exact hlast ▸ toNat_digitChar_lt _

theorem utf8Length_quoteChar_le (c : Char) : utf8Length (quoteChar c) ≤ 6 := by
  have hsize := Char.utf8Size_le_four c
  unfold quoteChar
  split
  case h_6 =>
    split_ifs
    · decide
    · decide
    · rw [utf8Length_cons, utf8Length_cons, utf8Length_fixedDigits]
      decide
    · rw [utf8Length_cons, utf8Length_nil]
      omega
  all_goals decide

theorem utf8Length_flatMap_quoteChar_le (chars : List Char) :
    utf8Length (chars.flatMap quoteChar) ≤ 6 * chars.length := by
  induction chars with
  | nil => simp
  | cons c rest ih =>
      have hfirst := utf8Length_quoteChar_le c
      rw [List.flatMap_cons, utf8Length_append, List.length_cons]
      omega

theorem length_le_utf8Length (chars : List Char) : chars.length ≤ utf8Length chars := by
  induction chars with
  | nil => simp
  | cons c rest ih =>
      have hsize := Char.utf8Size_pos c
      rw [List.length_cons, utf8Length_cons]
      omega

theorem utf8Length_quoteText_le_length (text : String) :
    utf8Length (quoteText text) ≤ 6 * text.toList.length + 2 := by
  have hchars := utf8Length_flatMap_quoteChar_le text.toList
  have hquote : '"'.utf8Size = 1 := rfl
  simp only [quoteText, List.cons_append, utf8Length_cons, utf8Length_append, utf8Length_nil,
    hquote]
  omega

theorem utf8Length_quoteText_le (text : String) :
    utf8Length (quoteText text) ≤ 6 * utf8Length text.toList + 2 := by
  have hquoted := utf8Length_quoteText_le_length text
  have hlength := length_le_utf8Length text.toList
  omega

theorem Number.utf8Length_text_le {floatText : F → List Char} {number : Number F} {value : Int}
    (hvalue : number.integer? = some value) : utf8Length (number.text floatText) ≤ 20 := by
  have hdigit : ∀ {digits : Nat}, ∀ c ∈ Nat.toDigits 10 digits, c.toNat < 128 := by
    intro digits c hmem
    have hdecimal := Nat.isDigit_of_mem_toDigits (by decide) (by decide) hmem
    rw [Char.isDigit, Bool.and_eq_true, decide_eq_true_eq, decide_eq_true_eq] at hdecimal
    have hle := UInt32.le_iff_toNat_le.mp hdecimal.2
    exact lt_of_le_of_lt hle (by decide)
  cases number with
  | posInt unsigned =>
      have hlt : unsigned.toNat < 2 ^ 64 := unsigned.toNat_lt
      rw [text, utf8Length_of_ascii hdigit]
      exact Nat.toDigits_length 10 _ 20 (by omega) (by omega)
  | negInt signed negative =>
      have hle : -2 ^ 63 ≤ signed.toInt := signed.le_toInt
      have hlt : signed.toInt < 2 ^ 63 := signed.toInt_lt
      have hdigits : (Nat.toDigits 10 signed.toInt.natAbs).length ≤ 19 :=
        Nat.toDigits_length 10 _ 19 (by omega) (by omega)
      have hsign : '-'.utf8Size = 1 := rfl
      rw [text, utf8Length_cons, utf8Length_of_ascii hdigit, hsign]
      omega
  | float double => cases hvalue

variable {floatText : F → List Char}

def entryBytes (floatText : F → List Char) (entry : String × Value F) : Nat :=
  utf8Length (quoteText entry.1) + 1 + entry.2.bytes floatText

theorem utf8Length_serializeItems_le (items : List (Value F)) :
    utf8Length (serializeItems floatText items) ≤
      (items.map fun item => item.bytes floatText + 1).sum := by
  have hcomma : ','.utf8Size = 1 := rfl
  induction items with
  | nil => simp [serializeItems]
  | cons item rest ih =>
      rw [List.map_cons, List.sum_cons, Value.bytes]
      cases rest with
      | nil =>
          rw [serializeItems]
          omega
      | cons second rest =>
          rw [serializeItems, utf8Length_append, utf8Length_cons, hcomma]
          omega

theorem utf8Length_serializeEntries_le (entries : List (String × Value F)) :
    utf8Length (serializeEntries floatText entries) ≤
      (entries.map fun entry => entryBytes floatText entry + 1).sum := by
  have hcomma : ','.utf8Size = 1 := rfl
  have hcolon : ':'.utf8Size = 1 := rfl
  induction entries with
  | nil => simp [serializeEntries]
  | cons entry rest ih =>
      obtain ⟨key, value⟩ := entry
      rw [List.map_cons, List.sum_cons, entryBytes, Value.bytes]
      dsimp only
      cases rest with
      | nil =>
          rw [serializeEntries, utf8Length_append, utf8Length_cons, hcolon]
          omega
      | cons second rest =>
          rw [serializeEntries, utf8Length_append, utf8Length_append, utf8Length_cons,
            utf8Length_cons, hcolon, hcomma]
          omega

theorem Value.bytes_array_le (items : List (Value F)) :
    (Value.array items).bytes floatText ≤
      2 + (items.map fun item => item.bytes floatText + 1).sum := by
  have hitems : utf8Length (serializeItems floatText items) ≤ _ :=
    utf8Length_serializeItems_le items
  have hopen : '['.utf8Size = 1 := rfl
  have hclose : ']'.utf8Size = 1 := rfl
  rw [bytes, serialize, List.cons_append, utf8Length_cons, utf8Length_append, utf8Length_cons,
    utf8Length_nil, hopen, hclose]
  omega

theorem Value.bytes_object_le (entries : List (String × Value F)) :
    (Value.object entries).bytes floatText ≤
      2 + (entries.map fun entry => entryBytes floatText entry + 1).sum := by
  have hentries : utf8Length (serializeEntries floatText entries) ≤ _ :=
    utf8Length_serializeEntries_le entries
  have hopen : '{'.utf8Size = 1 := rfl
  have hclose : '}'.utf8Size = 1 := rfl
  rw [bytes, serialize, List.cons_append, utf8Length_cons, utf8Length_append, utf8Length_cons,
    utf8Length_nil, hopen, hclose]
  omega

end TauriPlatform.SerdeJson
