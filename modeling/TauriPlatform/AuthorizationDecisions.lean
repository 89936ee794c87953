import TauriPlatform.NativeAuthorization

/-!
# What the authorization tables grant

A permission is granted by a row of each of four tables: the role of the user in the
organisation, the role itself, what it was granted, and the name of that.  One grant whose
constraints are met is enough, whatever else is in the tables, and what belongs to another
organisation has no part in it.
-/

namespace TauriPlatform.AuthorizationEngine

open Async Relational AuthorizationRepository

/-- The constraints of a grant are none, or an empty JSON object, or a JSON object each entry of
which the resource has too. -/
def Admits (resource : Option ResourceScope) : Option String → Prop
  | none => True
  | some text => ∃ entries, parseJson? text = some (.object entries) ∧
      (entries = [] ∨ ∃ scope, resource = some scope ∧
        ∀ entry ∈ entries, ∃ requested, scope.lookup entry.1 = some requested ∧
          requested.strictEquals entry.2 = true)

structure Holding (database : AuthorizationDatabase) (userId organisationId : String) where
  userRole : UserRoleRow
  role : RoleRow
  grant : RolePermissionRow
  held : PermissionRow
  userRole_mem : userRole ∈ database.userRoles
  role_mem : role ∈ database.roles
  grant_mem : grant ∈ database.rolePermissions
  held_mem : held ∈ database.permissions
  user : userRole.userId = userId
  assignedIn : userRole.organisationId = organisationId
  assigned : userRole.roleId = role.id
  roleOf : role.organisationId = organisationId
  granted : grant.roleId = role.id
  names : grant.permissionId = held.id

/-- Some holding is of the permission, or of all of them, and admits the resource. -/
def Granted (database : AuthorizationDatabase) (userId organisationId permission : String)
    (resource : Option ResourceScope) : Prop :=
  ∃ holding : Holding database userId organisationId,
    (holding.held.name = permission ∨ holding.held.name = "*") ∧
      Admits resource holding.grant.scopeConstraintsJson

/-- Two databases with the same rows of one organisation; permissions are of none. -/
structure SameWithin (organisationId : String) (database other : AuthorizationDatabase) :
    Prop where
  userRoles : ∀ row : UserRoleRow, row.organisationId = organisationId →
    (row ∈ other.userRoles ↔ row ∈ database.userRoles)
  roles : ∀ row : RoleRow, row.organisationId = organisationId →
    (row ∈ other.roles ↔ row ∈ database.roles)
  rolePermissions : ∀ role ∈ database.roles, role.organisationId = organisationId →
    ∀ row : RolePermissionRow, row.roleId = role.id →
      (row ∈ other.rolePermissions ↔ row ∈ database.rolePermissions)
  permissions : ∀ row, row ∈ other.permissions ↔ row ∈ database.permissions

section Rows

variable {database other : AuthorizationDatabase} {userId organisationId permission : String}
  {resource : Option ResourceScope}

theorem mem_grantedRoles {row : UserRoleRow} :
    row ∈ grantedRoles database userId organisationId ↔
      row ∈ database.userRoles ∧ row.userId = userId ∧ row.organisationId = organisationId ∧
        ∃ role ∈ database.roles, row.roleId = role.id ∧ role.organisationId = organisationId := by
  simp only [grantedRoles, List.mem_filter, Table.mem_select, Bool.and_eq_true,
    decide_eq_true_eq, List.any_eq_true, ← Table.mem_def]
  constructor
  · rintro ⟨⟨hrow, huser, horganisation⟩, role, hrole, hid, hsame⟩
    exact ⟨hrow, huser, horganisation, role, hrole, hid.symm, hsame.trans horganisation⟩
  · rintro ⟨hrow, huser, horganisation, role, hrole, hid, hsame⟩
    exact ⟨⟨hrow, huser, horganisation⟩, role, hrole, hid.symm, hsame.trans horganisation.symm⟩

variable {row : EffectivePermissionRow}

theorem mem_effectiveRows :
    row ∈ DurableDatabase.effectiveRows database userId organisationId ↔
      ∃ holding : Holding database userId organisationId,
        row = ⟨holding.held.name, holding.grant.scopeConstraintsJson⟩ := by
  simp only [DurableDatabase.effectiveRows, List.mem_flatMap, List.mem_map, Table.mem_select,
    decide_eq_true_eq, mem_grantedRoles]
  constructor
  · rintro ⟨userRole, ⟨huserRole, huser, hassignedIn, role, hrole, hassigned, hroleOf⟩, grant,
      ⟨hgrant, hgranted⟩, held, ⟨hheld, hnames⟩, rfl⟩
    exact ⟨⟨userRole, role, grant, held, huserRole, hrole, hgrant, hheld, huser, hassignedIn,
      hassigned, hroleOf, hgranted.trans hassigned, hnames.symm⟩, rfl⟩
  · rintro ⟨holding, rfl⟩
    exact ⟨holding.userRole, ⟨holding.userRole_mem, holding.user, holding.assignedIn,
      holding.role, holding.role_mem, holding.assigned, holding.roleOf⟩, holding.grant,
      ⟨holding.grant_mem, holding.granted.trans holding.assigned.symm⟩, holding.held,
      ⟨holding.held_mem, holding.names.symm⟩, rfl⟩

theorem admits_iff_covers :
    Admits resource row.scopeConstraintsJson ↔ Covers resource row := by
  cases hconstraints : row.scopeConstraintsJson with
  | none => simp [Admits, Covers, hconstraints]
  | some text => simp [Admits, Covers, hconstraints]

def Holding.within (hsame : SameWithin organisationId database other)
    (holding : Holding database userId organisationId) : Holding other userId organisationId :=
  { holding with
    userRole_mem := (hsame.userRoles _ holding.assignedIn).mpr holding.userRole_mem
    role_mem := (hsame.roles _ holding.roleOf).mpr holding.role_mem
    grant_mem := (hsame.rolePermissions _ holding.role_mem holding.roleOf _
      holding.granted).mpr holding.grant_mem
    held_mem := (hsame.permissions _).mpr holding.held_mem }

theorem SameWithin.symm (hsame : SameWithin organisationId database other) :
    SameWithin organisationId other database where
  userRoles row hrow := (hsame.userRoles row hrow).symm
  roles row hrow := (hsame.roles row hrow).symm
  rolePermissions role hrole horganisation row hrow :=
    (hsame.rolePermissions role ((hsame.roles role horganisation).mp hrole) horganisation row
      hrow).symm
  permissions row := (hsame.permissions row).symm

theorem SameWithin.effectiveRows (hsame : SameWithin organisationId database other)
    (hrow : row ∈ DurableDatabase.effectiveRows database userId organisationId) :
    row ∈ DurableDatabase.effectiveRows other userId organisationId := by
  rw [mem_effectiveRows] at hrow ⊢
  obtain ⟨holding, hholding⟩ := hrow
  exact ⟨holding.within hsame, hholding⟩

theorem SameWithin.grantedRoles (hsame : SameWithin organisationId database other)
    {row : UserRoleRow} (hrow : row ∈ grantedRoles database userId organisationId) :
    row ∈ AuthorizationRepository.grantedRoles other userId organisationId := by
  rw [mem_grantedRoles] at hrow ⊢
  obtain ⟨hmem, huser, hassignedIn, role, hrole, hassigned, hroleOf⟩ := hrow
  exact ⟨(hsame.userRoles row hassignedIn).mpr hmem, huser, hassignedIn, role,
    (hsame.roles role hroleOf).mpr hrole, hassigned, hroleOf⟩

theorem isEmpty_congr {α : Type} {l other : List α} (hsame : ∀ a, a ∈ l ↔ a ∈ other) :
    l.isEmpty = other.isEmpty := by
  rw [Bool.eq_iff_iff, List.isEmpty_iff, List.isEmpty_iff, List.eq_nil_iff_forall_not_mem,
    List.eq_nil_iff_forall_not_mem]
  exact forall_congr' fun a => not_congr (hsame a)

theorem any_congr {α : Type} {l other : List α} {p : α → Bool}
    (hsame : ∀ a, a ∈ l ↔ a ∈ other) : l.any p = other.any p := by
  rw [Bool.eq_iff_iff, List.any_eq_true, List.any_eq_true]
  exact exists_congr fun a => and_congr_left' (hsame a)

theorem decideFor_congr {permissions others : List GrantedPermission}
    (hsame : ∀ grant, grant ∈ permissions ↔ grant ∈ others) :
    decideFor permissions permission resource = decideFor others permission resource := by
  have hmatching : ∀ grant,
      (grant ∈ permissions.filter fun grant =>
        grant.permissionName = permission || grant.permissionName = "*") ↔
      grant ∈ others.filter fun grant =>
        grant.permissionName = permission || grant.permissionName = "*" := by
    intro grant
    rw [List.mem_filter, List.mem_filter, hsame grant]
  unfold decideFor
  dsimp only
  rw [isEmpty_congr hmatching, any_congr hmatching]

theorem SameWithin.decisionOn (hsame : SameWithin organisationId database other) :
    AuthorizationEngine.decisionOn other
        { userId := userId
          organisationId := organisationId
          roles := (AuthorizationRepository.grantedRoles other userId organisationId).map
            UserRoleRow.roleId } permission resource =
      AuthorizationEngine.decisionOn database
        { userId := userId
          organisationId := organisationId
          roles := (AuthorizationRepository.grantedRoles database userId organisationId).map
            UserRoleRow.roleId } permission resource := by
  have hroles : ∀ row, row ∈ AuthorizationRepository.grantedRoles other userId organisationId ↔
      row ∈ AuthorizationRepository.grantedRoles database userId organisationId :=
    fun row => ⟨hsame.symm.grantedRoles, hsame.grantedRoles⟩
  have hgrants : ∀ grant,
      grant ∈ (DurableDatabase.effectiveRows other userId organisationId).filterMap
          grantedPermission? ↔
        grant ∈ (DurableDatabase.effectiveRows database userId organisationId).filterMap
          grantedPermission? := by
    intro grant
    rw [List.mem_filterMap, List.mem_filterMap]
    exact exists_congr fun row => and_congr_left' ⟨hsame.symm.effectiveRows, hsame.effectiveRows⟩
  unfold AuthorizationEngine.decisionOn
  dsimp only
  rw [List.isEmpty_map, List.isEmpty_map, isEmpty_congr hroles]
  exact if_congr Iff.rfl rfl (decideFor_congr hgrants)

theorem granted_iff :
    Granted database userId organisationId permission resource ↔
      ∃ row ∈ DurableDatabase.effectiveRows database userId organisationId,
        Names permission row ∧ Covers resource row := by
  constructor
  · rintro ⟨holding, hname, hadmits⟩
    exact ⟨_, mem_effectiveRows.mpr ⟨holding, rfl⟩, hname, admits_iff_covers.mp hadmits⟩
  · rintro ⟨row, hrow, hname, hcovers⟩
    obtain ⟨holding, rfl⟩ := mem_effectiveRows.mp hrow
    exact ⟨holding, hname, admits_iff_covers.mpr hcovers⟩

end Rows

end TauriPlatform.AuthorizationEngine
