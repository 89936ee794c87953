import TauriPlatform.AuthorizationDatabase
import TauriPlatform.JsonParse

/-!
# Authorization

`AuthorizationEngine` grants a permission when some role of the subject holds it,
for the scope which is asked for.  A grant with malformed constraints grants
nothing.
-/

namespace TauriPlatform

open Async

/-! ## Contexts -/

structure TrustedPrincipal where
  userId : String
  deviceId : String
  organisationId : String
  roles : List String

/-- `OperationContext | TrustedOperationContext`. -/
inductive CallContext where
  | operation (correlationId : String) (userId : Option String)
      (deviceId organisationId : String)
  | trusted (correlationId : String) (principal : TrustedPrincipal)

def CallContext.correlationId : CallContext → String
  | .operation correlationId _ _ _ => correlationId
  | .trusted correlationId _ => correlationId

structure ContextSubject where
  userId : Option String
  deviceId : String
  organisationId : String

def extractContextSubject : CallContext → ContextSubject
  | .operation _ userId deviceId organisationId =>
      { userId := userId, deviceId := deviceId, organisationId := organisationId }
  | .trusted _ principal =>
      { userId := some principal.userId
        deviceId := principal.deviceId
        organisationId := principal.organisationId }

/-! ## Scopes -/

abbrev ResourceScope := List (String × JsonValue)

/-- `left === right` for values of two different JSON texts: objects and arrays are
never identical. -/
def JsonValue.strictEquals : JsonValue → JsonValue → Bool
  | .null, .null => true
  | .bool left, .bool right => left = right
  | .number left, .number right => left = right
  | .string left, .string right => left = right
  | _, _ => false

def ScopeEvaluator.matches (grantConstraints requestedScope : Option ResourceScope) :
    Bool :=
  match grantConstraints, requestedScope with
  | none, _ => true
  | some [], _ => true
  | some (_ :: _), none => false
  | some (first :: rest), some scope =>
      (first :: rest).all fun (key, value) =>
        (scope.lookup key).any fun requested => requested.strictEquals value

/-! ## The engine -/

structure Subject where
  userId : String
  organisationId : String
  roles : List String

structure GrantedPermission where
  permissionName : String
  scopeConstraints : Option ResourceScope

inductive AuthorizationDeniedCode where
  | noMatchingRole
  | permissionNotGranted
  | scopeMismatch

def AuthorizationDeniedCode.text : AuthorizationDeniedCode → String
  | .noMatchingRole => "NO_MATCHING_ROLE"
  | .permissionNotGranted => "PERMISSION_NOT_GRANTED"
  | .scopeMismatch => "SCOPE_MISMATCH"

inductive AuthorizationDecision where
  | granted
  | denied (reason : String) (code : AuthorizationDeniedCode)

namespace AuthorizationEngine

open AuthorizationRepository

def grantedPermission? (row : EffectivePermissionRow) : Option GrantedPermission :=
  match row.scopeConstraintsJson with
  | none => some { permissionName := row.permissionName, scopeConstraints := none }
  | some text =>
      match parseJson? text with
      | some (.object entries) =>
          some { permissionName := row.permissionName, scopeConstraints := some entries }
      | _ => none

/-- What is left of `can` once the permissions have been read. -/
def decideFor (permissions : List GrantedPermission) (permission : String)
    (resource : Option ResourceScope) : AuthorizationDecision :=
  let matchingGrants := permissions.filter fun grant =>
    grant.permissionName = permission || grant.permissionName = "*"
  if matchingGrants.isEmpty then
    .denied s!"Subject does not hold permission '{permission}'" .permissionNotGranted
  else if matchingGrants.any fun grant =>
      ScopeEvaluator.matches grant.scopeConstraints resource then
    .granted
  else
    .denied
      s!"Permission '{permission}' is not granted for the requested resource scope"
      .scopeMismatch

variable {Call : Type → Type 1} (executor : Executor AuthorizationDatabase Call)

def getEffectivePermissions (subject : Subject) :
    Program Call Thrown (List GrantedPermission) := do
  let rows ← executor.query
    (findEffectivePermissions subject.userId subject.organisationId)
  pure (rows.filterMap grantedPermission?)

def can (subject : Subject) (permission : String) (resource : Option ResourceScope) :
    Program Call Thrown AuthorizationDecision :=
  if subject.roles.isEmpty then
    pure (.denied "Subject has no assigned roles" .noMatchingRole)
  else do
    let permissions ← getEffectivePermissions executor subject
    pure (decideFor permissions permission resource)

def require (subject : Subject) (permission : String)
    (resource : Option ResourceScope) : Program Call Thrown Unit := do
  match ← can executor subject permission resource with
  | .granted => pure ()
  | .denied reason code =>
      throw (authorizationError s!"Authorization failed: {reason} ({code.text})"
        "You are not authorized to perform this operation" s!"auth_denied_{permission}"
        (some s!"Subject: {subject.userId}, Perm: {permission}, Code: {code.text}"))

def requireForSubject (userId organisationId permission : String)
    (resource : Option ResourceScope) : Program Call Thrown Unit := do
  let roles ← executor.query (findRoleIds userId organisationId)
  require executor { userId := userId, organisationId := organisationId, roles := roles }
    permission resource

def requireTrusted (principal : TrustedPrincipal) (permission : String)
    (resource : Option ResourceScope) : Program Call Thrown Unit :=
  require executor
    { userId := principal.userId
      organisationId := principal.organisationId
      roles := principal.roles }
    permission resource

end AuthorizationEngine
end TauriPlatform
