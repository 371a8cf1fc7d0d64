import InternalControl.RbacStatements
import InternalControl.Worklist
import Mathlib.Data.List.Sort

/-!
# The service of roles

Who may do what with a role, and the operations on roles and on what they
grant. An operation decides first, from what it reads, and then writes
statement by statement, outside a transaction.
-/

namespace InternalControl.Rbac

open Fallible

inductive ErrorCode where
  | insufficientPermissions
  | rolePrivilegeEscalation
  | roleSelfAssignmentForbidden
  | permissionNotHeld
  | roleNotFound
  | roleSystemImmutable
  | roleHasAssignedUsers
  | roleHasChildRoles
  | roleNotAssignable
  | roleMaxUsersReached
  | resourceNotFound
  | validationFailed
  | invalidState
  | delegationRequiresExpiry
  | delegationExceedsSourceValidity
  | cannotDelegateRoleNotHeld
  | usernameAlreadyExists
  | personEmailAlreadyExists
  | personAffiliationRequired
  | costCenterOrgUnitMismatch
  | unauthorized
  deriving DecidableEq

abbrev Statement := Store → Except DbError Store

/-- Who calls. The permission service may answer for the caller with what it read up to a
minute ago. -/
structure AuthenticatedUser where
  id : Uuid
  permissionCodes : List String

/-! ### What the repository reads -/

def findActiveById (store : Store) (id : String) : Option Role := activeRole store.roles (asUuid id)

/-- The roles ordered by level and name. -/
def byLevelAndName (roles : List Role) : List Role :=
  roles.insertionSort fun role other => role.hierarchyLevel < other.hierarchyLevel ∨
    role.hierarchyLevel = other.hierarchyLevel ∧ role.name ≤ other.name

def findAllActive (store : Store) : List Role :=
  byLevelAndName (store.roles.rows.filter fun role => role.deletedAt = none)

def findActiveByCode (store : Store) (code : String) : Option Role :=
  store.roles.rows.find? fun role => role.code = code ∧ role.deletedAt = none

/-- The active roles that a user holds at an instant. -/
def findRolesHeldBy (store : Store) (now : Timestamp) (userId : Uuid) : List Role :=
  byLevelAndName (store.roles.rows.filter fun role => role.deletedAt = none ∧
    ∃ assignment ∈ store.userRoles.rows, assignment.roleId = role.id ∧
      assignment.userId = userId ∧ assignment.IsCurrent now)

def findLineage (store : Store) (roleId : Uuid) : List Role :=
  store.roles.rows.filter fun role => role.id ∈ lineage store.roles roleId ∧ role.deletedAt = none

/-- The permissions granted to any of some roles. -/
def findPermissionsForRoles (store : Store) (roleIds : List Uuid) : List Permission :=
  ((store.rolePermissions.rows.filter fun grant => grant.roleId ∈ roleIds).filterMap
    fun grant => store.permissions.find? grant.permissionId).dedup

def findPermissionsForRole (store : Store) (roleId : Uuid) : List Permission :=
  (store.rolePermissions.rows.filter fun grant => grant.roleId = roleId).filterMap
    fun grant => store.permissions.find? grant.permissionId

def findPermissionsByIds (store : Store) (ids : List String) : List Permission :=
  store.permissions.rows.filter fun permission => permission.id ∈ ids.map asUuid

/-- The assignments of a user, in force or to come, whose lineage has the role. -/
def findHolderScopesReachingRole (store : Store) (now : Timestamp) (userId roleId : Uuid) :
    List (ScopeType × Option Uuid) :=
  (store.userRoles.rows.filter fun assignment => assignment.userId = userId ∧
    assignment.revokedAt = none ∧ (∀ validUntil ∈ assignment.validUntil, now < validUntil) ∧
      roleId ∈ lineage store.roles assignment.roleId).map
        fun assignment => (assignment.scopeType, assignment.scopeId)

def countActiveChildren (store : Store) (parentRoleId : Uuid) : ℕ :=
  store.roles.rows.countP fun role => role.parentRoleId = some parentRoleId ∧ role.deletedAt = none

def countActiveAssignees (store : Store) (roleId : Uuid) : ℕ :=
  store.userRoles.rows.countP fun assignment =>
    assignment.roleId = roleId ∧ assignment.revokedAt = none

/-! ### What it writes -/

/-- A grant, unless the role has the permission already. -/
def assignPermission (roleId permissionId : Uuid) : Statement := fun store =>
  if (store.rolePermissions.find? (roleId, permissionId)).isSome then .ok store
  else if (store.roles.find? roleId).isNone ∨ (store.permissions.find? permissionId).isNone then
    .error .foreignKeyViolation
  else
    match store.rolePermissions.insert ⟨roleId, permissionId, none⟩ with
    | none => .error .uniqueViolation
    | some rolePermissions => .ok { store with rolePermissions := rolePermissions }

/-- The grants of a role become those of a list: the others go, the missing ones come. -/
def replacePermissionsStatement (roleId : Uuid) (permissionIds : List Uuid) : Statement :=
  fun store =>
    let kept := store.rolePermissions.filter fun grant =>
      ¬(grant.roleId = roleId ∧ grant.permissionId ∉ permissionIds)
    let toAdd := permissionIds.dedup.filter fun permissionId =>
      (store.rolePermissions.find? (roleId, permissionId)).isNone
    if (store.roles.find? roleId).isNone ∨
        ∃ permissionId ∈ toAdd, (store.permissions.find? permissionId).isNone then
      .error .foreignKeyViolation
    else
      match kept.insertAll (toAdd.map fun permissionId => ⟨roleId, permissionId, none⟩) with
      | none => .error .uniqueViolation
      | some rolePermissions => .ok { store with rolePermissions := rolePermissions }

def removePermissionStatement (roleId permissionId : Uuid) : Statement := fun store =>
  .ok { store with
    rolePermissions := store.rolePermissions.filter fun grant =>
      ¬(grant.roleId = roleId ∧ grant.permissionId = permissionId) }

/-! ### RolePrivilegePolicy -/

section Policy

variable (store : Store) (now : Timestamp) (actor : AuthenticatedUser)

def isSuperAdmin : Bool :=
  (findRolesHeldBy store now actor.id).any fun role => role.code = "SUPER_ADMIN"

def assertCanReorganize : Except ErrorCode Unit :=
  if !isSuperAdmin store now actor then .error .insufficientPermissions else .ok ()

/-- The lowest level among the roles the caller holds. -/
def actorRank : Except ErrorCode ℤ :=
  match ((findRolesHeldBy store now actor.id).map Role.hierarchyLevel).min? with
  | none => .error .insufficientPermissions
  | some rank => .ok rank

def assertCanAdministerUser (targetUserId : String) : Except ErrorCode Unit :=
  if targetUserId = actor.id then .ok ()
  else if isSuperAdmin store now actor then .ok ()
  else do
    let rank ← actorRank store now actor
    if (findRolesHeldBy store now (asUuid targetUserId)).any fun role =>
        role.hierarchyLevel ≤ rank then
      .error .rolePrivilegeEscalation
    else .ok ()

/-- The level of what is administered is below the caller's. -/
def assertCanAdminister (hierarchyLevel : ℤ) : Except ErrorCode Unit := do
  let rank ← actorRank store now actor
  if hierarchyLevel ≤ rank then .error .rolePrivilegeEscalation else .ok ()

def assertCanCreateLevel (hierarchyLevel : ℤ) : Except ErrorCode Unit := do
  let rank ← actorRank store now actor
  if hierarchyLevel ≤ rank then .error .rolePrivilegeEscalation else .ok ()

def assertCanGrant (permissions : List Permission) : Except ErrorCode Unit :=
  if permissions.any fun permission => permission.code ∉ actor.permissionCodes then
    .error .permissionNotHeld
  else .ok ()

def assertCanGrantPermissions (permissions : List Permission) : Except ErrorCode Unit :=
  if permissions = [] ∨ isSuperAdmin store now actor = true then .ok ()
  else assertCanGrant actor permissions

/-- No permission is added to a role that the caller's own assignments reach. -/
def assertDoesNotWidenOwn (roleId : Uuid) (permissions : List Permission) :
    Except ErrorCode Unit :=
  if permissions = [] then .ok ()
  else if findHolderScopesReachingRole store now actor.id roleId ≠ [] then
    .error .roleSelfAssignmentForbidden
  else .ok ()

def assertCanInheritFrom (parent : Role) (inheritingRoleId : Option Uuid) :
    Except ErrorCode Unit := do
  assertCanAdminister store now actor parent.hierarchyLevel
  let lineage := findLineage store parent.id
  let rank ← actorRank store now actor
  if lineage.any fun role => role.hierarchyLevel ≤ rank then .error .rolePrivilegeEscalation
  let inherited := findPermissionsForRoles store (lineage.map Role.id)
  assertCanGrantPermissions store now actor inherited
  match inheritingRoleId with
  | none => .ok ()
  | some roleId => assertDoesNotWidenOwn store now actor roleId inherited

def defaultSuperiorFor : Except ErrorCode (Option Role) :=
  if isSuperAdmin store now actor then .ok (findActiveByCode store "SUPER_ADMIN")
  else do
    let rank ← actorRank store now actor
    .ok ((findRolesHeldBy store now actor.id).find? fun role => role.hierarchyLevel = rank)

end Policy

/-! ### RolesService -/

def requireRole (store : Store) (id : String) : Except ErrorCode Role :=
  match findActiveById store id with
  | none => .error .roleNotFound
  | some role => .ok role

def requirePermissions (store : Store) (ids : List String) : Except ErrorCode (List Permission) :=
  let uniqueIds := ids.dedup
  let permissions := findPermissionsByIds store uniqueIds
  if permissions.length ≠ uniqueIds.length then .error .resourceNotFound else .ok permissions

structure CreateRoleDto where
  code : String
  name : String
  description : Option String
  parentRoleId : Option String
  superiorRoleId : Option String
  isAssignable : Option Bool
  maxConcurrentUsers : Option ℕ
  permissionIds : Option (List String)

structure UpdateRoleDto where
  name : Option String
  description : Option String
  parentRoleId : Option (Option String)
  superiorRoleId : Option String

/-- The ids below a role in the hierarchy, over its active roles. -/
def descendantRoleIds (rootId : Uuid) (roles : List Role) : List Uuid :=
  let children := fun id =>
    (roles.filter fun role => role.superiorRoleId = some id).map Role.id
  Worklist.reached children ((roles.length + 1) * (roles.length + 1)) (children rootId)

section Service

variable (store : Store) (now : Timestamp) (actor : AuthenticatedUser)

/-- The parent a new role is given. -/
def createdParent (parentRoleId : Option String) : Except ErrorCode (Option Role) :=
  match parentRoleId with
  | none => .ok none
  | some parentRoleId => do
    let parent ← requireRole store parentRoleId
    assertCanInheritFrom store now actor parent none
    .ok (some parent)

/-- The superior a new role is given: one of the caller's roles, unless the caller may name
another. -/
def createdSuperior (superiorRoleId : Option String) : Except ErrorCode (Option Role) :=
  match superiorRoleId with
  | none => defaultSuperiorFor store now actor
  | some superiorRoleId => do
    assertCanReorganize store now actor
    let superior ← requireRole store superiorRoleId
    .ok (some superior)

def createdLevel (superior : Option Role) : Except ErrorCode ℤ :=
  match superior with
  | some superior => .ok (superior.hierarchyLevel + 1)
  | none => do
    let rank ← actorRank store now actor
    .ok (rank + 1)

/-- The row of a new role. -/
def createdRole (newId : Uuid) (dto : CreateRoleDto) (parent superior : Option Role)
    (hierarchyLevel : ℤ) : Role where
  id := newId
  code := dto.code
  name := dto.name
  description := dto.description
  parentRoleId := parent.map Role.id
  superiorRoleId := superior.map Role.id
  hierarchyLevel := hierarchyLevel
  isSystem := false
  isAssignable := dto.isAssignable.getD true
  maxConcurrentUsers := dto.maxConcurrentUsers
  deletedAt := none

/-- A new role, under the id that the database gives it. -/
def create (newId : Uuid) (dto : CreateRoleDto) : Except ErrorCode (List Statement) := do
  let parent ← createdParent store now actor dto.parentRoleId
  let superior ← createdSuperior store now actor dto.superiorRoleId
  let hierarchyLevel ← createdLevel store now actor superior
  assertCanCreateLevel store now actor hierarchyLevel
  let permissions ← requirePermissions store (dto.permissionIds.getD [])
  assertCanGrantPermissions store now actor permissions
  let permissionIds := permissions.map Permission.id
  .ok ((insertRole · (createdRole newId dto parent superior hierarchyLevel)) ::
    (if permissionIds = [] then [] else [replacePermissionsStatement newId permissionIds]))

/-- The parent an update gives a role. -/
def updatedParent (role : Role) (parentRoleId : Option String) :
    Except ErrorCode (Option Uuid) := do
  if parentRoleId = some role.id then .error .invalidState
  match parentRoleId with
  | none => .ok none
  | some parentRoleId =>
    let parent ← requireRole store parentRoleId
    assertCanInheritFrom store now actor parent (some role.id)
    .ok (some parent.id)

/-- The place an update gives a role: its superior, its level, and the levels of the roles
below it. -/
def updatedPlace (role : Role) (superiorRoleId : String) :
    Except ErrorCode (Uuid × ℤ × List (Uuid × ℤ)) := do
  if superiorRoleId = role.id then .error .invalidState
  let all := findAllActive store
  if superiorRoleId ∈ descendantRoleIds role.id all then .error .invalidState
  let superior ← requireRole store superiorRoleId
  let hierarchyLevel := superior.hierarchyLevel + 1
  let delta := hierarchyLevel - role.hierarchyLevel
  let descendantLevels :=
    if delta = 0 then []
    else (descendantRoleIds role.id all).filterMap fun id =>
      (all.find? fun item => item.id = id).map fun child => (id, child.hierarchyLevel + delta)
  .ok (superior.id, hierarchyLevel, descendantLevels)

/-- The update that sets a level alone. -/
def levelSet (hierarchyLevel : ℤ) : UpdateRoleRecord where
  name := none
  description := none
  parentRoleId := none
  superiorRoleId := none
  hierarchyLevel := some hierarchyLevel

/-- The parent and the place an update asks for, when they are not those the role has. -/
def parentAsked (role : Role) (dto : UpdateRoleDto) : Option (Option String) :=
  dto.parentRoleId.filter fun parentRoleId => parentRoleId ≠ role.parentRoleId

def superiorAsked (role : Role) (dto : UpdateRoleDto) : Option String :=
  dto.superiorRoleId.filter fun superiorRoleId => some superiorRoleId ≠ role.superiorRoleId

def assertMayReorganize (role : Role) (dto : UpdateRoleDto) : Except ErrorCode Unit :=
  if (parentAsked role dto).isSome ∨ (superiorAsked role dto).isSome then do
    assertCanReorganize store now actor
    if role.code = "SUPER_ADMIN" then .error .roleSystemImmutable else .ok ()
  else .ok ()

/-- The columns an update sets: those of its place only when it asks for another. -/
def updateChanges (dto : UpdateRoleDto) (parentRoleId : Option (Option Uuid))
    (place : Option (Uuid × ℤ × List (Uuid × ℤ))) : UpdateRoleRecord where
  name := dto.name
  description := dto.description.map some
  parentRoleId := parentRoleId
  superiorRoleId := place.map fun place => some place.1
  hierarchyLevel := place.map fun place => place.2.1

def update (id : String) (dto : UpdateRoleDto) : Except ErrorCode (List Statement) := do
  let role ← requireRole store id
  assertMayReorganize store now actor role dto
  let parentRoleId ← (parentAsked role dto).mapM (updatedParent store now actor role)
  let place ← (superiorAsked role dto).mapM (updatedPlace store role)
  let changes := updateChanges dto parentRoleId place
  let descendantLevels := (place.map fun place => place.2.2).getD []
  .ok ((if changes = ⟨none, none, none, none, none⟩ then []
      else [(updateRoles · [(role.id, changes)])]) ++
    descendantLevels.map fun child => (updateRoles · [(child.1, levelSet child.2)]))

def remove (id : String) : Except ErrorCode (List Statement) := do
  let role ← requireRole store id
  assertCanAdminister store now actor role.hierarchyLevel
  if role.isSystem then .error .roleSystemImmutable
  if countActiveAssignees store role.id > 0 then .error .roleHasAssignedUsers
  if countActiveChildren store role.id > 0 then .error .roleHasChildRoles
  .ok [fun store => .ok (softDelete store role.id now)]

/-- The permissions asked for that the role does not have. -/
def addedPermissions (roleId : Uuid) (permissions : List Permission) : List Permission :=
  permissions.filter fun permission =>
    permission.id ∉ (findPermissionsForRole store roleId).map Permission.id

def assignPermissions (roleId : String) (permissionIds : List String) :
    Except ErrorCode (List Statement) := do
  let role ← requireRole store roleId
  assertCanAdminister store now actor role.hierarchyLevel
  let requested ← requirePermissions store permissionIds
  let permissions := addedPermissions store role.id requested
  assertCanGrantPermissions store now actor permissions
  assertDoesNotWidenOwn store now actor role.id permissions
  .ok (permissions.map fun permission => assignPermission role.id permission.id)

def replacePermissions (roleId : String) (permissionIds : List String) :
    Except ErrorCode (List Statement) := do
  let role ← requireRole store roleId
  assertCanAdminister store now actor role.hierarchyLevel
  let permissions ← requirePermissions store permissionIds
  let added := addedPermissions store role.id permissions
  assertCanGrantPermissions store now actor added
  assertDoesNotWidenOwn store now actor role.id added
  .ok [replacePermissionsStatement role.id (permissions.map Permission.id)]

def removePermission (roleId permissionId : String) : Except ErrorCode (List Statement) := do
  let role ← requireRole store roleId
  assertCanAdminister store now actor role.hierarchyLevel
  .ok [removePermissionStatement role.id (asUuid permissionId)]

end Service

/-! ### What an operation that is not refused writes -/

section Decisions

variable {store : Store} {now : Timestamp} {actor : AuthenticatedUser}
  {statements : List Statement}

theorem requireRole_eq_ok {id : String} {role : Role} (h : requireRole store id = .ok role) :
    activeRole store.roles (asUuid id) = some role := by
  unfold requireRole at h
  split at h
  · cases h
  · next hfound =>
    cases h
    exact hfound

theorem activeRole_of_mem {roles : Table Role.id} {role : Role} (hmem : role ∈ roles.rows)
    (hactive : role.deletedAt = none) : activeRole roles role.id = some role :=
  activeRole_eq_some.mpr ⟨Table.find?_of_mem hmem, hactive⟩

theorem mem_of_activeRole_eq {roles : Table Role.id} {id : Uuid} {role : Role}
    (h : activeRole roles id = some role) :
    role ∈ roles.rows ∧ role.deletedAt = none ∧ role.id = id := by
  obtain ⟨hfound, hactive⟩ := activeRole_eq_some.mp h
  exact ⟨Table.mem_of_find? hfound, hactive, Table.key_of_find? hfound⟩

/-- The default superior is an active role. -/
theorem defaultSuperiorFor_eq_ok {superior : Role}
    (h : defaultSuperiorFor store now actor = .ok (some superior)) :
    activeRole store.roles superior.id = some superior := by
  unfold defaultSuperiorFor at h
  split at h
  · have hfound : findActiveByCode store "SUPER_ADMIN" = some superior := Except.ok.inj h
    have hpicked := List.find?_some hfound
    rw [decide_eq_true_eq] at hpicked
    exact activeRole_of_mem (List.mem_of_find?_eq_some hfound) hpicked.2
  · obtain ⟨rank, _, h⟩ := bind_eq_ok h
    have hmem := List.mem_of_find?_eq_some (Except.ok.inj h)
    unfold findRolesHeldBy byLevelAndName at hmem
    rw [List.mem_insertionSort, List.mem_filter, decide_eq_true_eq] at hmem
    exact activeRole_of_mem hmem.1 hmem.2.1

/-- The superior of a new role is active. -/
theorem createdSuperior_eq_ok {superiorRoleId : Option String} {superior : Role}
    (h : createdSuperior store now actor superiorRoleId = .ok (some superior)) :
    activeRole store.roles superior.id = some superior := by
  unfold createdSuperior at h
  split at h
  · exact defaultSuperiorFor_eq_ok h
  · obtain ⟨_, _, h⟩ := bind_eq_ok h
    obtain ⟨found, hfound, h⟩ := bind_eq_ok h
    cases h
    have hrole := requireRole_eq_ok hfound
    rw [(mem_of_activeRole_eq hrole).2.2]
    exact hrole

/-- A creation inserts an active role one level below its superior, and may then grant it
permissions. -/
theorem create_eq_ok {newId : Uuid} {dto : CreateRoleDto}
    (h : create store now actor newId dto = .ok statements) :
    ∃ role rest, statements = (insertRole · role) :: rest ∧ role.id = newId ∧
      (∀ superior, role.superiorRoleId = some superior → ∃ above,
        activeRole store.roles superior = some above ∧
          role.hierarchyLevel = above.hierarchyLevel + 1) ∧
      ∀ statement ∈ rest, ∃ permissionIds,
        statement = replacePermissionsStatement newId permissionIds := by
  obtain ⟨parent, _, h⟩ := bind_eq_ok h
  obtain ⟨superior, hsuperior, h⟩ := bind_eq_ok h
  obtain ⟨hierarchyLevel, hlevel, h⟩ := bind_eq_ok h
  obtain ⟨_, _, h⟩ := bind_eq_ok h
  obtain ⟨permissions, _, h⟩ := bind_eq_ok h
  obtain ⟨_, _, h⟩ := bind_eq_ok h
  cases h
  refine ⟨createdRole newId dto parent superior hierarchyLevel, _, rfl, rfl, ?_, ?_⟩
  · intro id hid
    cases superior with
    | none => cases hid
    | some above =>
      have habove := createdSuperior_eq_ok hsuperior
      have hsame : above.id = id := Option.some.inj hid
      cases hlevel
      exact ⟨above, hsame ▸ habove, rfl⟩
  · intro statement hmem
    split at hmem
    · cases hmem
    · exact ⟨_, List.mem_singleton.mp hmem⟩

/-- What a decision on an optional part has decided. -/
theorem mapM_eq_ok {α β : Type} {asked : Option α} {f : α → Except ErrorCode β} {result : Option β}
    (h : asked.mapM f = .ok result) :
    asked = none ∧ result = none ∨ ∃ a b, asked = some a ∧ f a = .ok b ∧ result = some b := by
  cases asked with
  | none =>
    cases h
    exact Or.inl ⟨rfl, rfl⟩
  | some a =>
    have hmap : some <$> f a = Except.ok result := h
    cases hf : f a with
    | error error =>
      rw [hf] at hmap
      cases hmap
    | ok b =>
      rw [hf] at hmap
      exact Or.inr ⟨a, b, rfl, hf, (Except.ok.inj hmap).symm⟩

/-- An update writes the role, and then the levels below it. -/
theorem update_eq_ok {id : String} {dto : UpdateRoleDto}
    (h : update store now actor id dto = .ok statements) :
    ∃ role parentRoleId place, activeRole store.roles (asUuid id) = some role ∧
      assertMayReorganize store now actor role dto = .ok () ∧
      (parentAsked role dto).mapM (updatedParent store now actor role) = .ok parentRoleId ∧
      (superiorAsked role dto).mapM (updatedPlace store role) = .ok place ∧
      statements = (if updateChanges dto parentRoleId place = ⟨none, none, none, none, none⟩ then []
          else [(updateRoles · [(role.id, updateChanges dto parentRoleId place)])]) ++
        ((place.map fun place => place.2.2).getD []).map
          fun child => (updateRoles · [(child.1, levelSet child.2)]) := by
  obtain ⟨role, hrole, h⟩ := bind_eq_ok h
  obtain ⟨_, hmay, h⟩ := bind_eq_ok h
  obtain ⟨parentRoleId, hparent, h⟩ := bind_eq_ok h
  obtain ⟨place, hplace, h⟩ := bind_eq_ok h
  cases h
  exact ⟨role, parentRoleId, place, requireRole_eq_ok hrole, hmay, hparent, hplace, rfl⟩

/-- The place a role is given: one level below an active superior that is spelled neither as
the role nor as one below it. -/
theorem updatedPlace_eq_ok {role : Role} {superiorRoleId : String}
    {place : Uuid × ℤ × List (Uuid × ℤ)}
    (h : updatedPlace store role superiorRoleId = .ok place) :
    ∃ superior, findActiveById store superiorRoleId = some superior ∧
      place.1 = superior.id ∧ place.2.1 = superior.hierarchyLevel + 1 ∧
      place.2.2 = if superior.hierarchyLevel + 1 - role.hierarchyLevel = 0 then []
        else (descendantRoleIds role.id (findAllActive store)).filterMap fun id =>
          ((findAllActive store).find? fun item => item.id = id).map fun child =>
            (id, child.hierarchyLevel + (superior.hierarchyLevel + 1 - role.hierarchyLevel)) := by
  obtain ⟨_, h⟩ := check_eq_ok h
  obtain ⟨_, h⟩ := check_eq_ok h
  obtain ⟨superior, hsuperior, h⟩ := bind_eq_ok h
  cases h
  exact ⟨superior, requireRole_eq_ok hsuperior, rfl, rfl, rfl⟩

/-- Only who may reorganize is let through with another parent or superior. -/
theorem assertMayReorganize_eq_ok {role : Role} {dto : UpdateRoleDto}
    (h : assertMayReorganize store now actor role dto = .ok ())
    (hasked : (parentAsked role dto).isSome ∨ (superiorAsked role dto).isSome) :
    isSuperAdmin store now actor = true := by
  unfold assertMayReorganize at h
  rw [if_pos hasked] at h
  obtain ⟨_, hmay, _⟩ := bind_eq_ok h
  unfold assertCanReorganize at hmay
  split at hmay
  · cases hmay
  · next hadmin => simpa using hadmin

end Decisions

end InternalControl.Rbac
