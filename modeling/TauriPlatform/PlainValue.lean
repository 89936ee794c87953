import TauriPlatform.JsCoercion

/-!
# Plain data

What a caller may pass as a manifest: primitives, arrays and plain objects, of any shape.  No
object stands at two places of a value, so objects are never the same.
-/

namespace TauriPlatform

inductive PlainValue where
  | undefined
  | null
  | bool (value : Bool)
  | number (value : NumberValue)
  | bigint (value : Int)
  | string (value : String)
  | array (items : List PlainValue)
  | object (entries : List (String × PlainValue))

namespace PlainValue

/-! ## Properties -/

/-- `value[key]`, for a key which no prototype has except `length`. -/
def get (key : String) : PlainValue → Except Thrown PlainValue
  | .undefined =>
      .error (.builtin "TypeError" s!"Cannot read properties of undefined (reading '{key}')")
  | .null => .error (.builtin "TypeError" s!"Cannot read properties of null (reading '{key}')")
  | .object entries => .ok (((entries.find? fun entry => entry.1 == key).map Prod.snd).getD .undefined)
  | .array items =>
      .ok (if key = "length" then .number (.finite (.integer items.length)) else .undefined)
  | .string value =>
      .ok (if key = "length" then .number (.finite (.integer (jsLength value))) else .undefined)
  | _ => .ok .undefined

/-! ## Kinds -/

def string? : PlainValue → Option String
  | .string value => some value
  | _ => none

def number? : PlainValue → Option NumberValue
  | .number value => some value
  | _ => none

def array? : PlainValue → Option (List PlainValue)
  | .array items => some items
  | _ => none

def isBool : PlainValue → Bool
  | .bool _ => true
  | _ => false

def isUndefined : PlainValue → Bool
  | .undefined => true
  | _ => false

/-- `value ?? fallback`. -/
def orElse (fallback : PlainValue) : PlainValue → PlainValue
  | .undefined => fallback
  | .null => fallback
  | value => value

def isTrue : PlainValue → Bool
  | .undefined => false
  | .null => false
  | .bool value => value
  | .number (.finite value) => value ≠ .integer 0
  | .number (.nonFinite text) => text ≠ "NaN"
  | .bigint value => value ≠ 0
  | .string value => value ≠ ""
  | .array _ => true
  | .object _ => true

/-- The keys of a `Map` and of a `Set`: an array or an object is like no other. -/
def isSame : PlainValue → PlainValue → Bool
  | .undefined, .undefined => true
  | .null, .null => true
  | .bool left, .bool right => left = right
  | .number left, .number right => left = right
  | .bigint left, .bigint right => left = right
  | .string left, .string right => left = right
  | _, _ => false

/-! ## Conversions -/

mutual

/-- `ToString`; a property `toString` of an object hides the method. -/
def text : PlainValue → Except Thrown String
  | .undefined => .ok "undefined"
  | .null => .ok "null"
  | .bool value => .ok (if value then "true" else "false")
  | .number value => .ok value.text
  | .bigint value => .ok (toString value)
  | .string value => .ok value
  | .array items => (itemTexts items).map fun texts => ",".intercalate texts
  | .object entries =>
      if entries.any fun entry => entry.1 == "toString" then .error conversionError
      else .ok "[object Object]"
termination_by structural value => value

def itemTexts : List PlainValue → Except Thrown (List String)
  | [] => .ok []
  | .undefined :: rest => (itemTexts rest).map fun texts => "" :: texts
  | .null :: rest => (itemTexts rest).map fun texts => "" :: texts
  | item :: rest =>
      (text item).bind fun first => (itemTexts rest).map fun texts => first :: texts
termination_by structural items => items

end

def toNumber : PlainValue → Except Thrown JsNumber
  | .undefined => .ok .nan
  | .null => .ok (.finite 0)
  | .bool value => .ok (.finite (if value then 1 else 0))
  | .number value => .ok (.ofNumberValue value)
  | .bigint value => .ok (.finite value)
  | .string value => .ok (textNumber value)
  | .array items => (text (.array items)).map textNumber
  | .object entries => (text (.object entries)).map textNumber

/-- What `for … of` goes through. -/
def iterate (name : String) : PlainValue → Except Thrown (List PlainValue)
  | .array items => .ok items
  | .string value => .ok (value.toList.map fun c => .string (String.singleton c))
  | _ => .error (.builtin "TypeError" s!"{name} is not iterable")

end PlainValue

/-! ## What code from outside throws -/

/-- An `Error`, whose properties may be anything, or another value. -/
inductive Raised where
  | error (name message : PlainValue)
  | value (value : PlainValue)

namespace Raised

/-- `error instanceof Error ? error.message : String(error)`. -/
def message : Raised → Except Thrown PlainValue
  | .error _ content => .ok content
  | .value thrown => thrown.text.map PlainValue.string

def text : Raised → Except Thrown String
  | .error _ content => content.text
  | .value thrown => thrown.text

end Raised

def PlatformErrorCode.constructorName : PlatformErrorCode → String
  | .validationError => "ValidationError"
  | .authorizationError => "AuthorizationError"
  | .authenticationError => "AuthenticationError"
  | .syncError => "SyncError"
  | .conflictError => "ConflictError"
  | .databaseError => "DatabaseError"
  | .migrationError => "MigrationError"
  | .fileError => "FileError"
  | .hardwareError => "HardwareError"
  | .networkError => "NetworkError"
  | .compatibilityError => "CompatibilityError"
  | .internalError => "PlatformError"

def Thrown.raised : Thrown → Raised
  | .platform error => .error (.string error.code.constructorName) (.string error.message)
  | .builtin name message => .error (.string name) (.string message)
  | .value text => .value (.string text)

@[simp] theorem Thrown.raised_text (thrown : Thrown) : thrown.raised.text = .ok thrown.message := by
  cases thrown <;> rfl

end TauriPlatform
