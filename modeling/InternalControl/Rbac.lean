import InternalControl.ParentMap
import InternalControl.Table
import Mathlib.Tactic.Common

/-!
# Roles, their holders and what they grant

The tables of the access control, the lineage a role inherits through, the
permissions that reach a user, and the two triggers that keep duties apart.
A foreign key is a field of the store: a row never refers to a role that is
not there.
-/

namespace InternalControl.Rbac

/-- A UUID as a uuid column writes it, in lower case. -/
abbrev Uuid := String

abbrev Timestamp := ℤ

/-- The UUID that a text stands for: a uuid column reads either case. -/
def asUuid (text : String) : Uuid := text.toLower

structure Role where
  id : Uuid
  code : String
  name : String
  description : Option String
  /-- The role it inherits permissions from. -/
  parentRoleId : Option Uuid
  /-- The role above it in the hierarchy. -/
  superiorRoleId : Option Uuid
  hierarchyLevel : ℤ
  isSystem : Bool
  isAssignable : Bool
  maxConcurrentUsers : Option ℕ
  deletedAt : Option Timestamp
  deriving DecidableEq

inductive ScopeType where
  | global
  | orgUnit
  | costCenter
  deriving DecidableEq

structure UserRole where
  id : Uuid
  userId : Uuid
  roleId : Uuid
  scopeType : ScopeType
  scopeId : Option Uuid
  validFrom : Timestamp
  validUntil : Option Timestamp
  isDelegated : Bool
  delegatedFromUserId : Option Uuid
  revokedAt : Option Timestamp
  deriving DecidableEq

/-- The assignment counts at an instant: not revoked, and within its validity. -/
def UserRole.IsCurrent (assignment : UserRole) (now : Timestamp) : Prop :=
  assignment.revokedAt = none ∧ assignment.validFrom ≤ now ∧
    ∀ validUntil ∈ assignment.validUntil, now < validUntil

instance (assignment : UserRole) (now : Timestamp) : Decidable (assignment.IsCurrent now) :=
  inferInstanceAs (Decidable (_ ∧ _ ∧ _))

inductive PermissionScopeLevel where
  | global
  | orgUnit
  | costCenter
  | own
  deriving DecidableEq

structure Permission where
  id : Uuid
  code : String
  module : String
  resourceType : String
  action : String
  scopeLevel : PermissionScopeLevel
  deriving DecidableEq

structure RolePermission where
  roleId : Uuid
  permissionId : Uuid
  conditions : Option String
  deriving DecidableEq

def RolePermission.key (grant : RolePermission) : Uuid × Uuid := (grant.roleId, grant.permissionId)

inductive SodConstraintType where
  | static
  | dynamic
  deriving DecidableEq

structure RoleSeparationOfDuties where
  roleAId : Uuid
  roleBId : Uuid
  constraintType : SodConstraintType

structure Person where
  id : Uuid
  email : String
  organizationalUnitId : Option Uuid
  costCenterId : Option Uuid

structure AppUser where
  id : Uuid
  personId : Uuid
  username : String

structure OrganizationalUnit where
  id : Uuid
  isActive : Bool

structure CostCenter where
  id : Uuid
  organizationalUnitId : Option Uuid
  isActive : Bool

/-- A role refers to another as its parent or its superior. -/
def Role.References (role : Role) (other : Uuid) : Prop :=
  role.parentRoleId = some other ∨ role.superiorRoleId = some other

/-- The roles that a role refers to. -/
def Role.references (role : Role) : List Uuid :=
  role.parentRoleId.toList ++ role.superiorRoleId.toList

theorem Role.mem_references {role : Role} {other : Uuid} :
    other ∈ role.references ↔ role.References other := by
  simp [Role.references, Role.References]

/-- The tables. -/
structure Store where
  units : Table OrganizationalUnit.id
  costCenters : Table CostCenter.id
  persons : Table Person.id
  users : Table AppUser.id
  roles : Table Role.id
  permissions : Table Permission.id
  rolePermissions : Table RolePermission.key
  userRoles : Table UserRole.id
  separationRules : List RoleSeparationOfDuties
  /-- Parents and superiors are roles. -/
  roles_listed : ∀ id role, roles.find? id = some role → ∀ other, role.References other →
    (roles.find? other).isSome
  /-- What is held is a role. -/
  held_listed : ∀ assignment ∈ userRoles.rows, (roles.find? assignment.roleId).isSome
  /-- Who holds it is a user. -/
  holders_listed : ∀ assignment ∈ userRoles.rows, (users.find? assignment.userId).isSome

/-! ### The lineage of a role -/

/-- The row of a role that is not deleted. -/
def activeRole (roles : Table Role.id) (id : Uuid) : Option Role :=
  (roles.find? id).filter fun role => role.deletedAt.isNone

/-- The parent a role inherits from: neither of them is deleted. -/
def activeParent (roles : Table Role.id) (id : Uuid) : Option Uuid :=
  (activeRole roles id).bind fun role =>
    role.parentRoleId.filter fun parent => (activeRole roles parent).isSome

/-- fn_role_lineage: the role and those it inherits from. As many steps as there are
roles list them all. -/
def lineage (roles : Table Role.id) (id : Uuid) : List Uuid :=
  if (activeRole roles id).isSome then
    ParentMap.walk (activeParent roles) roles.rows.length (some id)
  else []

theorem activeRole_eq_some {roles : Table Role.id} {id : Uuid} {role : Role} :
    activeRole roles id = some role ↔ roles.find? id = some role ∧ role.deletedAt = none := by
  simp [activeRole, Option.filter_eq_some_iff]

theorem activeParent_eq_some {roles : Table Role.id} {id parent : Uuid} :
    activeParent roles id = some parent ↔ ∃ role, activeRole roles id = some role ∧
      role.parentRoleId = some parent ∧ (activeRole roles parent).isSome := by
  simp [activeParent, Option.bind_eq_some_iff, Option.filter_eq_some_iff]

/-- Whether a role is active can be told from the deletion column alone. -/
theorem isSome_activeRole_iff {roles : Table Role.id} {id : Uuid} :
    (activeRole roles id).isSome ↔ (roles.find? id).map Role.deletedAt = some none := by
  rw [Option.isSome_iff_exists, Option.map_eq_some_iff]
  exact exists_congr fun role => activeRole_eq_some

/-- Which parent a role inherits from can be told from two columns. -/
theorem activeParent_eq_some_iff {roles : Table Role.id} {id parent : Uuid} :
    activeParent roles id = some parent ↔ (activeRole roles id).isSome ∧
      (roles.find? id).map Role.parentRoleId = some (some parent) ∧
        (activeRole roles parent).isSome := by
  rw [activeParent_eq_some]
  constructor
  · rintro ⟨role, hrole, hparent, hactive⟩
    have hfound := (activeRole_eq_some.mp hrole).1
    exact ⟨hrole ▸ rfl, by rw [hfound, Option.map_some, hparent], hactive⟩
  · rintro ⟨hid, hparent, hactive⟩
    obtain ⟨role, hrole⟩ := Option.isSome_iff_exists.mp hid
    rw [(activeRole_eq_some.mp hrole).1, Option.map_some] at hparent
    exact ⟨role, hrole, Option.some.inj hparent, hactive⟩

/-- An active role is under its id in the table. -/
theorem mem_of_activeRole {roles : Table Role.id} {id : Uuid} (h : (activeRole roles id).isSome) :
    id ∈ roles.rows.map Role.id := by
  obtain ⟨role, hrole⟩ := Option.isSome_iff_exists.mp h
  have hfound := (activeRole_eq_some.mp hrole).1
  have hmem := Table.mem_of_find? hfound
  exact Table.key_of_find? hfound ▸ List.mem_map_of_mem hmem

/-- What an active role inherits from is active. -/
theorem isSome_of_reaches {roles : Table Role.id} {id ancestor : Uuid}
    (hid : (activeRole roles id).isSome)
    (h : ParentMap.Reaches (activeParent roles) id ancestor) :
    (activeRole roles ancestor).isSome := by
  induction h with
  | refl => exact hid
  | tail _ hstep _ =>
    obtain ⟨_, _, _, hactive⟩ := activeParent_eq_some.mp hstep
    exact hactive

/-- The lineage of a role is what the active role reaches. -/
theorem mem_lineage_iff {roles : Table Role.id} {id ancestor : Uuid} :
    ancestor ∈ lineage roles id ↔
      (activeRole roles id).isSome ∧ ParentMap.Reaches (activeParent roles) id ancestor := by
  unfold lineage
  split
  · next hid =>
    have hnodes : ∀ x, ParentMap.Reaches (activeParent roles) id x →
        x ∈ roles.rows.map Role.id :=
      fun x hx => mem_of_activeRole (isSome_of_reaches hid hx)
    have hlength : (roles.rows.map Role.id).length ≤ roles.rows.length := by simp
    rw [ParentMap.mem_walk_iff_reaches hnodes hlength]
    exact ⟨fun h => ⟨hid, h⟩, fun h => h.2⟩
  · next hid =>
    constructor
    · intro h
      cases h
    · rintro ⟨h, _⟩
      exact absurd h hid

/-! ### What reaches a user -/

/-- fn_user_effective_role_ids: the roles in the lineage of one the user holds. -/
def userEffectiveRoleIds (store : Store) (userId : Uuid) : List Uuid :=
  (store.userRoles.rows.filter fun assignment =>
    assignment.userId = userId ∧ assignment.revokedAt = none).flatMap fun assignment =>
      lineage store.roles assignment.roleId

/-- A row of v_user_effective_permissions. -/
structure EffectivePermission where
  userId : Uuid
  permission : Permission
  userScopeType : ScopeType
  userScopeId : Option Uuid
  conditions : Option String
  isDelegated : Bool
  validUntil : Option Timestamp
  deriving DecidableEq

/-- The row that a grant of a permission makes for an assignment. -/
def effectivePermission (assignment : UserRole) (grant : RolePermission) (permission : Permission) :
    EffectivePermission where
  userId := assignment.userId
  permission := permission
  userScopeType := assignment.scopeType
  userScopeId := assignment.scopeId
  conditions := grant.conditions
  isDelegated := assignment.isDelegated
  validUntil := assignment.validUntil

/-- v_user_effective_permissions: the rows of one user at an instant. -/
def userEffectivePermissions (store : Store) (now : Timestamp) (userId : Uuid) :
    List EffectivePermission :=
  (store.userRoles.rows.filter fun assignment =>
    assignment.userId = userId ∧ assignment.IsCurrent now).flatMap fun assignment =>
      (store.rolePermissions.rows.filter fun grant =>
        grant.roleId ∈ lineage store.roles assignment.roleId).filterMap fun grant =>
          (store.permissions.find? grant.permissionId).map (effectivePermission assignment grant)

theorem mem_userEffectiveRoleIds {store : Store} {userId roleId : Uuid} :
    roleId ∈ userEffectiveRoleIds store userId ↔
      ∃ assignment ∈ store.userRoles.rows, assignment.userId = userId ∧
        assignment.revokedAt = none ∧ roleId ∈ lineage store.roles assignment.roleId := by
  simp only [userEffectiveRoleIds, List.mem_flatMap, List.mem_filter, decide_eq_true_eq, and_assoc]

theorem mem_userEffectivePermissions {store : Store} {now : Timestamp} {userId : Uuid}
    {row : EffectivePermission} :
    row ∈ userEffectivePermissions store now userId ↔
      ∃ assignment ∈ store.userRoles.rows, assignment.userId = userId ∧
        assignment.IsCurrent now ∧ ∃ grant ∈ store.rolePermissions.rows,
          grant.roleId ∈ lineage store.roles assignment.roleId ∧
          ∃ permission, store.permissions.find? grant.permissionId = some permission ∧
            effectivePermission assignment grant permission = row := by
  simp only [userEffectivePermissions, List.mem_flatMap, List.mem_filter, List.mem_filterMap,
    decide_eq_true_eq, and_assoc, Option.map_eq_some_iff]

end InternalControl.Rbac
