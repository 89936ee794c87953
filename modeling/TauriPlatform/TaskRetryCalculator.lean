import TauriPlatform.JsNumber
import TauriPlatform.PlatformError

/-!
# Retrying a failed task

`TaskRetryCalculator.decide` classifies the error of a task handler and computes
the delay before the next attempt: exponential backoff, capped, with jitter.
-/

namespace TauriPlatform

structure TaskRetryPolicy where
  maxAttempts : Int
  initialDelayMs : JsonNumber
  backoffMultiplier : JsonNumber
  maxDelayMs : JsonNumber
  jitter : JsonNumber
  deriving DecidableEq

def defaultRetryPolicy : TaskRetryPolicy where
  maxAttempts := 3
  initialDelayMs := .integer 1000
  backoffMultiplier := .integer 2
  maxDelayMs := .integer 60000
  jitter := .fraction 25 1 (by decide)

structure RetryDecision where
  retryable : Bool
  delayMs : Option JsNumber
  reason : String

namespace TaskRetryCalculator

def nonRetryableClass? : Thrown → Option String
  | .platform error =>
      match error.code with
      | .authorizationError => some "AuthorizationError"
      | .validationError => some "ValidationError"
      | .compatibilityError => some "CompatibilityError"
      | _ => none
  | _ => none

def nonRetryableFlag? : Thrown → Option PlatformError
  | .platform error => if error.retryable then none else some error
  | _ => none

/-- The delay before the next attempt; `random` is the draw of `Math.random()`. -/
def delay (attempt : Int) (policy : TaskRetryPolicy) (random : ℚ) : JsNumber :=
  let base := (JsNumber.ofJson policy.initialDelayMs).mul
    ((JsNumber.ofJson policy.backoffMultiplier).pow (attempt - 1))
  let capped := base.min (JsNumber.ofJson policy.maxDelayMs)
  let jitterFactor := JsNumber.add (.finite 1)
    (JsNumber.mul (.finite (random * 2 - 1)) (JsNumber.ofJson policy.jitter))
  JsNumber.max (.finite 0) (capped.mul jitterFactor).round

def decide (error : Thrown) (attempt : Int) (policy : TaskRetryPolicy)
    (random : ℚ) : RetryDecision :=
  match nonRetryableFlag? error, nonRetryableClass? error with
  | some flagged, _ =>
      { retryable := false
        delayMs := none
        reason := s!"Non-retryable PlatformError ({flagged.code.text}): {flagged.message}" }
  | none, some className =>
      { retryable := false
        delayMs := none
        reason := s!"Permanent error class {className}; will not retry." }
  | none, none =>
      if policy.maxAttempts ≤ attempt then
        { retryable := false
          delayMs := none
          reason :=
            s!"Attempt {attempt} reached maxAttempts ({policy.maxAttempts})." }
      else
        let delayMs := delay attempt policy random
        { retryable := true
          delayMs := some delayMs
          reason := s!"Transient error; retry attempt {attempt + 1} after " ++
            delayMs.integerText ++ "ms." }

theorem decide_delayMs_eq_none {error : Thrown} {attempt : Int}
    {policy : TaskRetryPolicy} {random : ℚ}
    (hfinal : (decide error attempt policy random).retryable = false) :
    (decide error attempt policy random).delayMs = none := by
  unfold decide at hfinal ⊢
  cases hflag : nonRetryableFlag? error with
  | some flagged => rfl
  | none =>
      cases hclass : nonRetryableClass? error with
      | some className => rfl
      | none =>
          by_cases hattempts : policy.maxAttempts ≤ attempt
          · simp [hattempts]
          · simp [hflag, hclass, hattempts] at hfinal

def isNonRetryableClass (error : Thrown) : Bool :=
  (nonRetryableClass? error).isSome || (nonRetryableFlag? error).isSome

theorem attempt_lt_of_retryable {error : Thrown} {attempt : Int}
    {policy : TaskRetryPolicy} {random : ℚ}
    (hretry : (decide error attempt policy random).retryable = true) :
    attempt < policy.maxAttempts := by
  unfold decide at hretry
  cases hflag : nonRetryableFlag? error with
  | some flagged => simp [hflag] at hretry
  | none =>
      cases hclass : nonRetryableClass? error with
      | some className => simp [hflag, hclass] at hretry
      | none =>
          by_cases hattempts : policy.maxAttempts ≤ attempt
          · simp [hflag, hclass, hattempts] at hretry
          · exact not_le.mp hattempts

end TaskRetryCalculator
end TauriPlatform
