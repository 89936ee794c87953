import Mathlib.Tactic

/-!
# Errors of the platform

The error classes of the core package.  A correlation id made by
`generateCorrelationId` is kept as the prefix it is given; its random digits are
left out, and so is the `cause` of a wrapped error.
-/

namespace TauriPlatform

inductive PlatformErrorCode where
  | validationError
  | authorizationError
  | authenticationError
  | syncError
  | conflictError
  | databaseError
  | migrationError
  | fileError
  | hardwareError
  | networkError
  | compatibilityError
  | internalError
  deriving DecidableEq, Repr

inductive ErrorSeverity where
  | fatal
  | error
  | warning
  | info
  deriving DecidableEq, Repr

/-- The text which `toJSON` writes for a code. -/
def PlatformErrorCode.text : PlatformErrorCode → String
  | .validationError => "VALIDATION_ERROR"
  | .authorizationError => "AUTHORIZATION_ERROR"
  | .authenticationError => "AUTHENTICATION_ERROR"
  | .syncError => "SYNC_ERROR"
  | .conflictError => "CONFLICT_ERROR"
  | .databaseError => "DATABASE_ERROR"
  | .migrationError => "MIGRATION_ERROR"
  | .fileError => "FILE_ERROR"
  | .hardwareError => "HARDWARE_ERROR"
  | .networkError => "NETWORK_ERROR"
  | .compatibilityError => "COMPATIBILITY_ERROR"
  | .internalError => "INTERNAL_ERROR"

structure PlatformError where
  code : PlatformErrorCode
  message : String
  userMessage : String
  correlationId : String
  retryable : Bool := false
  severity : ErrorSeverity := .error
  technicalDetails : Option String := none
  deriving DecidableEq, Repr

/-- What JavaScript code throws: an error of the platform, another error with its
constructor's name, or a value which is no error, kept as `String(value)`. -/
inductive Thrown where
  | platform (error : PlatformError)
  | builtin (name message : String)
  | value (text : String)
  deriving DecidableEq, Repr

/-- `error instanceof Error ? error.message : String(error)`. -/
def Thrown.message : Thrown → String
  | .platform error => error.message
  | .builtin _ message => message
  | .value text => text

def validationError (message userMessage correlationId : String) : Thrown :=
  .platform
    { code := .validationError
      message := message
      userMessage := userMessage
      correlationId := correlationId }

def authorizationError (message userMessage correlationId : String)
    (technicalDetails : Option String) : Thrown :=
  .platform
    { code := .authorizationError
      message := message
      userMessage := userMessage
      correlationId := correlationId
      technicalDetails := technicalDetails }

def authenticationError (message userMessage correlationId : String) : Thrown :=
  .platform
    { code := .authenticationError
      message := message
      userMessage := userMessage
      correlationId := correlationId }

def conflictError (message userMessage correlationId technicalDetails : String) :
    Thrown :=
  .platform
    { code := .conflictError
      message := message
      userMessage := userMessage
      correlationId := correlationId
      technicalDetails := some technicalDetails }

def databaseError (message userMessage correlationId : String)
    (technicalDetails : Option String) : Thrown :=
  .platform
    { code := .databaseError
      message := message
      userMessage := userMessage
      correlationId := correlationId
      technicalDetails := technicalDetails }

def migrationError (message userMessage correlationId : String)
    (technicalDetails : Option String) : Thrown :=
  .platform
    { code := .migrationError
      message := message
      userMessage := userMessage
      correlationId := correlationId
      technicalDetails := technicalDetails }

/-- `error instanceof DatabaseError`. -/
def Thrown.isDatabaseError : Thrown → Bool
  | .platform error => error.code = .databaseError
  | .builtin _ _ => false
  | .value _ => false

/-! ## One fallible step after another -/

theorem bind_eq_ok {ε α β : Type} {first : Except ε α} {next : α → Except ε β} {result : β}
    (hok : (first >>= next) = .ok result) :
    ∃ value, first = .ok value ∧ next value = .ok result := by
  cases first with
  | error error => cases hok
  | ok value => exact ⟨value, rfl, hok⟩

theorem forall₂_of_mapM_eq_ok {ε α β : Type} {f : α → Except ε β} {items : List α}
    {results : List β} (hok : items.mapM f = .ok results) :
    List.Forall₂ (fun item result => f item = .ok result) items results := by
  induction items generalizing results with
  | nil =>
      cases hok
      exact .nil
  | cons item items ih =>
      rw [List.mapM_cons] at hok
      cases hfirst : f item with
      | error error =>
          rw [hfirst] at hok
          cases hok
      | ok result =>
          cases hrest : items.mapM f with
          | error error =>
              rw [hfirst, hrest] at hok
              cases hok
          | ok rest =>
              rw [hfirst, hrest] at hok
              cases hok
              exact .cons hfirst (ih hrest)

end TauriPlatform
