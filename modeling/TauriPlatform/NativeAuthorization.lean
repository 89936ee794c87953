import TauriPlatform.NativeAuthentication
import TauriPlatform.MembershipRevocation
import TauriPlatform.JsonRoundTrip
import TauriPlatform.SingleRows

/-!
# What a native session may do and what the engine grants

Authentication copies the names of the granted permissions into the principal;
`AuthorizationEngine` reads the same join, and the constraints of each grant with it.  The
two agree where some grant of the permission covers the resource which is asked for.
-/

namespace TauriPlatform

open Async Relational AuthorizationRepository

/-! ## What a successful authentication leaves -/

namespace DurableDatabase

variable {database later : AuthorizationDatabase}

structure SameGrants (database later : AuthorizationDatabase) : Prop where
  userRoles : later.userRoles = database.userRoles
  roles : later.roles = database.roles
  rolePermissions : later.rolePermissions = database.rolePermissions
  permissions : later.permissions = database.permissions

theorem SameGrants.effectiveRows (hsame : SameGrants database later)
    (userId organisationId : String) :
    effectiveRows later userId organisationId = effectiveRows database userId organisationId := by
  unfold DurableDatabase.effectiveRows grantedRoles
  rw [hsame.userRoles, hsame.roles, hsame.rolePermissions, hsame.permissions]

theorem authenticateUser_eq_ok {verify : String → String → Bool} {now : Nat}
    {userId deviceId password : String} {principal : NativePrincipal}
    (hok : authenticateUser verify now userId deviceId password database =
      (.ok principal, later)) :
    SameGrants database later ∧
      principal.permissions = Table.orderBy (· ≤ ·)
        ((effectiveRows database principal.userId principal.organisationId).map
          EffectivePermissionRow.permissionName) := by
  have hbody := transact_eq_ok hok
  obtain ⟨users, first, husers, hbody⟩ := bind_eq_ok hbody
  obtain ⟨found, hfound, rfl, rfl⟩ := runStatement_eq_ok husers
  rw [Statement.run_database_of_readonly rfl hfound] at hbody
  cases huser : found.rows.head?.filter fun user => user.status = "ACTIVE" with
  | none =>
      rw [huser] at hbody
      cases hbody
  | some user =>
      rw [huser] at hbody
      obtain ⟨devices, second, hdevices, hbody⟩ := bind_eq_ok hbody
      obtain ⟨counted, hcounted, rfl, rfl⟩ := runStatement_eq_ok hdevices
      rw [Statement.run_database_of_readonly rfl hcounted] at hbody
      split_ifs at hbody
      · cases hbody
      · cases hbody
      · obtain ⟨names, third, hnames, hbody⟩ := bind_eq_ok hbody
        obtain ⟨read, hread, rfl, rfl⟩ := runStatement_eq_ok hnames
        rw [Statement.run_database_of_readonly rfl hread] at hbody
        obtain ⟨_, fourth, hreset, hbody⟩ := bind_eq_ok hbody
        obtain ⟨updated, hupdated, -, rfl⟩ := runStatement_eq_ok hreset
        obtain ⟨accounts, -, hlater⟩ := TableOf.update_eq_ok hupdated
        cases hbody
        cases hread
        rw [hlater]
        exact ⟨⟨rfl, rfl, rfl, rfl⟩, rfl⟩
      · obtain ⟨_, third, hrecorded, hbody⟩ := bind_eq_ok hbody
        cases hbody

end DurableDatabase

/-! ## What the engine grants -/

namespace AuthorizationEngine

variable {database : AuthorizationDatabase} {permission : String}
  {resource : Option ResourceScope}

def Names (permission : String) (row : EffectivePermissionRow) : Prop :=
  row.permissionName = permission ∨ row.permissionName = "*"

/-- The row has no constraints, or those of a JSON object all of which the resource meets. -/
def Covers (resource : Option ResourceScope) (row : EffectivePermissionRow) : Prop :=
  row.scopeConstraintsJson = none ∨
    ∃ text entries, row.scopeConstraintsJson = some text ∧
      parseJson? text = some (.object entries) ∧
      (entries = [] ∨ ∃ scope, resource = some scope ∧
        ∀ entry ∈ entries, ∃ requested, scope.lookup entry.1 = some requested ∧
          requested.strictEquals entry.2 = true)

theorem matches_iff (entries : ResourceScope) :
    ScopeEvaluator.matches (some entries) resource = true ↔
      entries = [] ∨ ∃ scope, resource = some scope ∧
        ∀ entry ∈ entries, ∃ requested, scope.lookup entry.1 = some requested ∧
          requested.strictEquals entry.2 = true := by
  cases entries with
  | nil => simp [ScopeEvaluator.matches]
  | cons first rest =>
      cases resource with
      | none => simp [ScopeEvaluator.matches]
      | some scope => simp [ScopeEvaluator.matches, Option.any_eq_true]

theorem covers_iff {row : EffectivePermissionRow} :
    Covers resource row ↔ ∃ grant, grantedPermission? row = some grant ∧
      grant.permissionName = row.permissionName ∧
      ScopeEvaluator.matches grant.scopeConstraints resource = true := by
  unfold Covers grantedPermission?
  cases hjson : row.scopeConstraintsJson with
  | none => simp [ScopeEvaluator.matches]
  | some text =>
      cases hparse : parseJson? text with
      | none => simp [hparse]
      | some value =>
          cases value with
          | object entries => simp [hparse, matches_iff]
          | _ => simp [hparse]

theorem permissionName_of_grantedPermission? {row : EffectivePermissionRow}
    {grant : GrantedPermission} (hgrant : grantedPermission? row = some grant) :
    grant.permissionName = row.permissionName := by
  unfold grantedPermission? at hgrant
  split at hgrant
  · cases hgrant
    rfl
  · split at hgrant
    · cases hgrant
      rfl
    · cases hgrant

theorem decideFor_granted_iff {permissions : List GrantedPermission} :
    decideFor permissions permission resource = .granted ↔
      ∃ grant ∈ permissions, (grant.permissionName = permission ∨ grant.permissionName = "*") ∧
        ScopeEvaluator.matches grant.scopeConstraints resource = true := by
  unfold decideFor
  dsimp only
  constructor
  · intro hgranted
    split_ifs at hgranted with hempty hany
    obtain ⟨grant, hmem, hmatches⟩ := List.any_eq_true.mp hany
    have hboth := List.mem_filter.mp hmem
    simp only [Bool.or_eq_true, decide_eq_true_eq] at hboth
    exact ⟨grant, hboth.1, hboth.2, hmatches⟩
  · rintro ⟨grant, hmem, hname, hmatches⟩
    have hfiltered : grant ∈ permissions.filter fun grant =>
        grant.permissionName = permission || grant.permissionName = "*" := by
      rw [List.mem_filter]
      simpa using ⟨hmem, hname⟩
    rw [if_neg, if_pos]
    · exact List.any_eq_true.mpr ⟨grant, hfiltered, hmatches⟩
    · intro hempty
      rw [List.isEmpty_iff.mp hempty] at hfiltered
      cases hfiltered

variable {userId organisationId : String}

theorem decisionOn_granted_iff :
    decisionOn database
        { userId := userId
          organisationId := organisationId
          roles := (grantedRoles database userId organisationId).map UserRoleRow.roleId }
        permission resource = .granted ↔
      ∃ row ∈ DurableDatabase.effectiveRows database userId organisationId,
        Names permission row ∧ Covers resource row := by
  have hrows : ∀ row ∈ DurableDatabase.effectiveRows database userId organisationId,
      grantedRoles database userId organisationId ≠ [] := by
    intro row hrow hnone
    rw [DurableDatabase.effectiveRows, hnone] at hrow
    cases hrow
  unfold decisionOn
  dsimp only
  by_cases hroles : grantedRoles database userId organisationId = []
  · rw [hroles]
    constructor
    · intro hgranted
      cases hgranted
    · rintro ⟨row, hrow, -⟩
      exact absurd hroles (hrows row hrow)
  · rw [if_neg (by simpa using hroles), decideFor_granted_iff]
    change (∃ grant ∈ (DurableDatabase.effectiveRows database userId organisationId).filterMap
      grantedPermission?, _) ↔ _
    constructor
    · rintro ⟨grant, hmem, hname, hmatches⟩
      obtain ⟨row, hrow, hgrant⟩ := List.mem_filterMap.mp hmem
      have hsame := permissionName_of_grantedPermission? hgrant
      rw [hsame] at hname
      exact ⟨row, hrow, hname, covers_iff.mpr ⟨grant, hgrant, hsame, hmatches⟩⟩
    · rintro ⟨row, hrow, hname, hcovers⟩
      obtain ⟨grant, hgrant, hsame, hmatches⟩ := covers_iff.mp hcovers
      refine ⟨grant, List.mem_filterMap.mpr ⟨row, hrow, hgrant⟩, ?_, hmatches⟩
      rw [hsame]
      exact hname

/-- How `require` settles a decision. -/
def settled (userId permission : String) : AuthorizationDecision → Except Thrown Unit
  | .granted => .ok ()
  | .denied reason code =>
      .error (authorizationError s!"Authorization failed: {reason} ({code.text})"
        "You are not authorized to perform this operation" s!"auth_denied_{permission}"
        (some s!"Subject: {userId}, Perm: {permission}, Code: {code.text}"))

/-- `requireForSubject` on a connection settles the decision on the roles which it reads. -/
theorem requireForSubject_run :
    (requireForSubject (connectionExecutor AuthorizationDatabase) userId organisationId
      permission resource).run memoryConnection database =
      (settled userId permission (decisionOn database
        { userId := userId
          organisationId := organisationId
          roles := (grantedRoles database userId organisationId).map UserRoleRow.roleId }
        permission resource), database) := by
  have hcan : ∀ subject : Subject,
      (can (connectionExecutor AuthorizationDatabase) subject permission resource).run
        memoryConnection database =
        (.ok (decisionOn database subject permission resource), database) := by
    intro subject
    unfold can decisionOn
    split_ifs
    · rfl
    · rfl
  have hroles : ((connectionExecutor AuthorizationDatabase).query
      (findRoleIds userId organisationId)).run memoryConnection database =
        (.ok ((grantedRoles database userId organisationId).map UserRoleRow.roleId),
          database) := rfl
  rw [requireForSubject, Program.run_bind_ok _ hroles, require,
    Program.run_bind_ok _ (hcan _)]
  generalize decisionOn database _ permission resource = decision
  cases decision with
  | granted => rfl
  | denied reason code => rfl

theorem requireForSubject_run_iff :
    (requireForSubject (connectionExecutor AuthorizationDatabase) userId organisationId
      permission resource).run memoryConnection database = (.ok (), database) ↔
      ∃ row ∈ DurableDatabase.effectiveRows database userId organisationId,
        Names permission row ∧ Covers resource row := by
  rw [← decisionOn_granted_iff, requireForSubject_run]
  generalize decisionOn database _ permission resource = decision
  cases decision with
  | granted => simp [settled]
  | denied reason code => simp [settled]

end AuthorizationEngine

/-! ## The refinement -/

namespace DurableDatabase

open AuthorizationEngine

variable {database later : AuthorizationDatabase} {userId deviceId password : String}
  {principal : NativePrincipal}

theorem can_iff {verify : String → String → Bool} {now : Nat}
    (hauthenticated : authenticateUser verify now userId deviceId password database =
      (.ok principal, later)) (permission : String) :
    principal.can permission = true ↔
      ∃ row ∈ effectiveRows later principal.userId principal.organisationId,
        Names permission row := by
  obtain ⟨hsame, hpermissions⟩ := authenticateUser_eq_ok hauthenticated
  rw [NativePrincipal.can, hpermissions, hsame.effectiveRows]
  simp [Names]

def oneGrant (scopeConstraintsJson : Option String) : AuthorizationDatabase where
  users := .single ⟨"u", "org", "ACTIVE", some "hash", 0, none⟩
  roles := .single ⟨"r", "org"⟩
  permissions := .single ⟨"p", "widgets.read"⟩
  rolePermissions := .single ⟨"rp", "r", "p", scopeConstraintsJson⟩
  userRoles := .single ⟨"ur", "u", "r", "org"⟩
  devices :=
    .single ⟨"dr", "2026", "2026", none, "d", "ed25519_pk_d", "linux", "app", "APPROVED",
        "2026", none, false⟩

def widgetReader : NativePrincipal where
  userId := "u"
  deviceId := "d"
  organisationId := "org"
  permissions := ["widgets.read"]

def login (scopeConstraintsJson : Option String) :
    Except NativeError NativePrincipal × AuthorizationDatabase :=
  authenticateUser (· = ·) 0 "u" "d" "hash" (oneGrant scopeConstraintsJson)

theorem login_eq (scopeConstraintsJson : Option String) :
    login scopeConstraintsJson = (.ok widgetReader, (login scopeConstraintsJson).2) := by
  with_unfolding_all rfl

def coventryOnly : String :=
  (JsonValue.object [("warehouseId", .string "COV")]).stringify

theorem parse_coventryOnly :
    parseJson? coventryOnly = some (.object [("warehouseId", .string "COV")]) := by
  apply parseJson?_stringify
  apply JsonValue.IsEnumerated.object
  · rfl
  · intro entry hentry
    rw [List.mem_singleton.mp hentry]
    exact .string "COV"

theorem effectiveRows_login (scopeConstraintsJson : Option String) :
    effectiveRows (login scopeConstraintsJson).2 "u" "org" =
      [⟨"widgets.read", scopeConstraintsJson⟩] := by
  with_unfolding_all rfl

end DurableDatabase
end TauriPlatform
