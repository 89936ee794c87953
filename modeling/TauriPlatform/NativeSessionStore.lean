import TauriPlatform.UserSessionService

/-!
# The native session store

`NativeSessionStore` holds the principal of the native commands.  Every transition takes
a new generation, and an authentication which has been overtaken is not committed.  The
calls of `UserSessionService` are answered here by this store and by a database.
-/

namespace TauriPlatform

open Async Relational

structure NativePrincipal where
  userId : String
  deviceId : String
  organisationId : String
  permissions : List String
  deriving DecidableEq

def NativePrincipal.can (principal : NativePrincipal) (permission : String) : Bool :=
  principal.permissions.any fun value => value = permission || value = "*"

/-- `PlatformError` of the native core. -/
structure NativeError where
  code : String
  message : String
  userMessage : String
  retryable : Bool
  correlationId : String
  technicalDetails : Option String

def NativeError.new (code message userMessage correlationId : String) : NativeError where
  code := code
  message := message
  userMessage := userMessage
  retryable := false
  correlationId := correlationId
  technicalDetails := none

structure NativeSessionStore where
  current : Option NativePrincipal
  generation : UInt64

def sessionError (code message : String) : NativeError :=
  .new "AUTHENTICATION_ERROR" message "Authentication is required" code

def sessionView (principal : NativePrincipal) : NativeSessionView where
  userId := principal.userId
  deviceId := principal.deviceId
  organisationId := principal.organisationId
  permissions := principal.permissions

namespace NativeSessionStore

def new : NativeSessionStore where
  current := none
  generation := 0

def commitAuthentication (generation : UInt64) (principal : NativePrincipal)
    (store : NativeSessionStore) : Except NativeError NativeSessionView × NativeSessionStore :=
  if store.generation ≠ generation then
    (.error (sessionError "session_superseded"
      "Authentication was superseded by a newer session transition"), store)
  else (.ok (sessionView principal), { store with current := some principal })

/-- `authenticate`, with what `authenticate_user` of the database answers. -/
def authenticate (authenticated : Except NativeError NativePrincipal)
    (store : NativeSessionStore) : Except NativeError NativeSessionView × NativeSessionStore :=
  let begun := { store with generation := store.generation + 1 }
  match authenticated with
  | .error error => (.error error, begun)
  | .ok principal => commitAuthentication begun.generation principal begun

def currentPrincipal (store : NativeSessionStore) : Except NativeError NativePrincipal :=
  match store.current with
  | none => .error (sessionError "session_missing" "No authenticated native session")
  | some principal => .ok principal

def logout (store : NativeSessionStore) : NativeSessionStore where
  current := none
  generation := store.generation + 1

/-- The command `get_current_session`. -/
def getCurrentSession (store : NativeSessionStore) :
    Except NativeError (Option NativeSessionView) :=
  match store.currentPrincipal with
  | .ok principal => .ok (some (sessionView principal))
  | .error error => if error.code = "session_missing" then .ok none else .error error

theorem getCurrentSession_of_none {store : NativeSessionStore} (hnone : store.current = none) :
    store.getCurrentSession =
      .error (sessionError "session_missing" "No authenticated native session") := by
  simp only [getCurrentSession, currentPrincipal, hnone]
  rfl

theorem getCurrentSession_of_some {store : NativeSessionStore} {principal : NativePrincipal}
    (hsome : store.current = some principal) :
    store.getCurrentSession = .ok (some (sessionView principal)) := by
  simp only [getCurrentSession, currentPrincipal, hsome]

theorem authenticate_error (error : NativeError) (store : NativeSessionStore) :
    store.authenticate (.error error) =
      (.error error, { store with generation := store.generation + 1 }) :=
  rfl

theorem authenticate_ok (principal : NativePrincipal) (store : NativeSessionStore) :
    store.authenticate (.ok principal) =
      (.ok (sessionView principal),
        { current := some principal, generation := store.generation + 1 }) := by
  simp only [authenticate, commitAuthentication, ne_eq, not_true_eq_false, if_false]

end NativeSessionStore

/-! ## Calls over the store -/

inductive Delivery where
  | answered
  | notReached (thrown : Thrown)
  | answerLost (thrown : Thrown)

/-- What the outside does in the course of one call of the service: the delivery of its
command, the verdict of the native database on credentials, and for each of its reads the
database found then, or the error of the read. -/
structure SessionEnvironment where
  delivery : Delivery
  authenticateUser : AuthenticateUserRequest → Except NativeError NativePrincipal
  reads : Nat → Except Thrown IdentityDatabase

structure SessionPair where
  session : Option Session
  store : NativeSessionStore

def SessionPair.initial : SessionPair where
  session := none
  store := .new

structure SessionRun where
  pair : SessionPair
  reads : Nat

namespace SessionEnvironment

def invoke {α : Type} (environment : SessionEnvironment) (run : SessionRun)
    (command : NativeSessionStore → Except NativeError α × NativeSessionStore) :
    Except Thrown α × SessionRun :=
  let ran := command run.pair.store
  let after : SessionRun := { run with pair := { run.pair with store := ran.2 } }
  match environment.delivery with
  | .notReached thrown => (.error thrown, run)
  | .answerLost thrown => (.error thrown, after)
  | .answered =>
      match ran.1 with
      | .ok value => (.ok value, after)
      | .error _ => (.error (.value "[object Object]"), after)

section Invoke

variable {α : Type} {environment : SessionEnvironment} {run : SessionRun}
  {command : NativeSessionStore → Except NativeError α × NativeSessionStore}
  {store : NativeSessionStore}

theorem invoke_ok {value : α} (hdelivery : environment.delivery = .answered)
    (hcommand : command run.pair.store = (.ok value, store)) :
    environment.invoke run command =
      (.ok value, { run with pair := { run.pair with store := store } }) := by
  simp only [invoke, hdelivery, hcommand]

theorem invoke_error {error : NativeError} (hdelivery : environment.delivery = .answered)
    (hcommand : command run.pair.store = (.error error, store)) :
    environment.invoke run command =
      (.error (.value "[object Object]"),
        { run with pair := { run.pair with store := store } }) := by
  simp only [invoke, hdelivery, hcommand]

theorem invoke_notReached {thrown : Thrown} (hdelivery : environment.delivery = .notReached thrown) :
    environment.invoke run command = (.error thrown, run) := by
  simp only [invoke, hdelivery]

theorem invoke_answerLost {thrown : Thrown} (hdelivery : environment.delivery = .answerLost thrown) :
    environment.invoke run command =
      (.error thrown,
        { run with pair := { run.pair with store := (command run.pair.store).2 } }) := by
  simp only [invoke, hdelivery]

theorem invoke_unchanged (environment : SessionEnvironment) (run : SessionRun)
    (command : NativeSessionStore → Except NativeError α × NativeSessionStore) :
    (environment.invoke run command).2.pair.session = run.pair.session ∧
      (environment.invoke run command).2.reads = run.reads := by
  cases hdelivery : environment.delivery with
  | notReached thrown =>
      rw [invoke_notReached hdelivery]
      exact ⟨rfl, rfl⟩
  | answerLost thrown =>
      rw [invoke_answerLost hdelivery]
      exact ⟨rfl, rfl⟩
  | answered =>
      match hcommand : command run.pair.store with
      | (.ok value, store) =>
          rw [invoke_ok hdelivery hcommand]
          exact ⟨rfl, rfl⟩
      | (.error error, store) =>
          rw [invoke_error hdelivery hcommand]
          exact ⟨rfl, rfl⟩

end Invoke

def handler (environment : SessionEnvironment) :
    Program.Handler SessionCall Thrown SessionRun
  | _, .authenticateUser request, run =>
      environment.invoke run
        (NativeSessionStore.authenticate (environment.authenticateUser request))
  | _, .getCurrentSession, run =>
      environment.invoke run fun store => (store.getCurrentSession, store)
  | _, .logoutUser, run =>
      environment.invoke run fun store => (.ok (), store.logout)
  | _, .database call, run =>
      match environment.reads run.reads with
      | .error thrown => (.error thrown, { run with reads := run.reads + 1 })
      | .ok database =>
          ((memoryConnection call database).1, { run with reads := run.reads + 1 })
  | _, .setSession session, run =>
      (.ok (), { run with pair := { run.pair with session := session } })

end SessionEnvironment

def UserSessionService.SessionOperation.after (operation : UserSessionService.SessionOperation)
    (environment : SessionEnvironment) (pair : SessionPair) : SessionPair :=
  (operation.program.run environment.handler { pair := pair, reads := 0 }).2.pair

end TauriPlatform
