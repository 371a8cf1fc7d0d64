import InternalControl.RolesService

/-!
# The service of users and their roles

Assigning, delegating and revoking a role, and creating a user with one.
-/

namespace InternalControl.Rbac

open Fallible

/-! ### What the repository writes -/

/-- An assignment, while the role has room for another holder. -/
def insertUserRoleWithinLimit (now : Timestamp) (record : UserRole)
    (maxConcurrentUsers : Option ℕ) : Statement := fun store =>
  let holders := (store.userRoles.rows.filter fun assignment =>
    assignment.roleId = record.roleId ∧ assignment.userId ≠ record.userId ∧
      assignment.IsCurrent now).map UserRole.userId
  if ∃ limit ∈ maxConcurrentUsers, limit ≤ holders.dedup.length then .error .roleMaxUsersReached
  else insertUserRole store record

/-- Revoke the assignments that a condition picks. -/
def Store.revoke (store : Store) (picked : UserRole → Prop) [DecidablePred picked]
    (at_ : Timestamp) : Store :=
  store.withUserRoles
    (store.userRoles.update picked (fun row => { row with revokedAt := some at_ }) fun _ => rfl)
    (by
      intro assignment hmem
      obtain ⟨old, hold, rfl⟩ := List.mem_map.mp hmem
      have hlisted := store.listed hold
      split
      · exact hlisted
      · exact hlisted)

/-- An assignment in force that was delegated from another one. -/
def UserRole.DelegatedFrom (assignment source : UserRole) : Prop :=
  assignment.isDelegated = true ∧ assignment.delegatedFromUserId = some source.userId ∧
    assignment.roleId = source.roleId ∧ assignment.scopeType = source.scopeType ∧
    assignment.scopeId = source.scopeId ∧ assignment.revokedAt = none

instance (assignment source : UserRole) : Decidable (assignment.DelegatedFrom source) :=
  inferInstanceAs (Decidable (_ ∧ _ ∧ _ ∧ _ ∧ _ ∧ _))

/-- Revoke what was delegated from the assignments revoked last, round after round. Each
round revokes another assignment. -/
def revokeDelegations (at_ : Timestamp) : ℕ → List UserRole → Store → Store
  | 0, _, store => store
  | _ + 1, [], store => store
  | n + 1, frontier, store =>
    let delegated := store.userRoles.rows.filter fun assignment =>
      ∃ source ∈ frontier, assignment.DelegatedFrom source
    revokeDelegations at_ n delegated
      (store.revoke (fun assignment => ∃ source ∈ frontier, assignment.DelegatedFrom source) at_)

def revokeUserRoleCascade (id : Uuid) (at_ : Timestamp) : Statement := fun store =>
  let frontier := store.userRoles.rows.filter fun assignment =>
    assignment.id = id ∧ assignment.revokedAt = none
  .ok (revokeDelegations at_ (store.userRoles.rows.length + 1) frontier
    (store.revoke (fun assignment => assignment.id = id ∧ assignment.revokedAt = none) at_))

def insertPerson (person : Person) : Statement := fun store =>
  match store.persons.insert person with
  | none => .error .uniqueViolation
  | some persons => .ok { store with persons := persons }

/-- Names of users are compared without regard to case. -/
def insertUser (user : AppUser) : Statement := fun store =>
  if ∃ other ∈ store.users.rows, other.username.toLower = user.username.toLower then
    .error .uniqueViolation
  else
    match h : store.users.insert user with
    | none => .error .uniqueViolation
    | some users => .ok { store with
        users := users
        holders_listed := fun assignment hmem =>
          Table.isSome_find?_insert h (store.holders_listed assignment hmem) }

/-! ### UsersService -/

structure AssignUserRoleDto where
  roleId : String
  scopeType : Option ScopeType
  scopeId : Option String
  startDate : Option Timestamp
  endDate : Option Timestamp

structure DelegateUserRoleDto where
  toUserId : String
  validUntil : Option Timestamp

structure CreateUserDto where
  email : String
  username : Option String
  organizationalUnitId : Option String
  costCenterId : Option String
  roleId : String

section Service

variable (store : Store) (now : Timestamp) (actor : AuthenticatedUser)

def requireUser (id : String) : Except ErrorCode AppUser :=
  match store.users.find? (asUuid id) with
  | none => .error .resourceNotFound
  | some user => .ok user

/-- How many users hold a role, as the list of users counts them. -/
def countRoleUsers (roleId : Uuid) : ℕ :=
  store.users.rows.countP fun user => (store.persons.find? user.personId).isSome ∧
    ∃ assignment ∈ store.userRoles.rows, assignment.userId = user.id ∧
      assignment.roleId = roleId ∧ assignment.revokedAt = none

def requireAssignableRole (roleId : String) : Except ErrorCode Role := do
  let role ← requireRole store roleId
  if !role.isAssignable then .error .roleNotAssignable
  assertCanAdminister store now actor role.hierarchyLevel
  if ∃ limit ∈ role.maxConcurrentUsers, limit ≤ countRoleUsers store role.id then
    .error .roleMaxUsersReached
  .ok role

/-- Where a user's roles count when the caller does not say: at the centre, or else the unit,
of the person. -/
def affiliationScope (person : Option Person) : ScopeType × Option Uuid :=
  match person.bind Person.costCenterId with
  | some costCenterId => (.costCenter, some costCenterId)
  | none =>
    match person.bind Person.organizationalUnitId with
    | some organizationalUnitId => (.orgUnit, some organizationalUnitId)
    | none => (.global, none)

def findActiveUnit (id : String) : Option OrganizationalUnit :=
  (store.units.find? (asUuid id)).filter fun unit => unit.isActive

def findActiveCenter (id : String) : Option CostCenter :=
  (store.costCenters.find? (asUuid id)).filter fun center => center.isActive

/-- The scope of an assignment names an active place, or none when it is global. -/
def assertScope (scopeType : ScopeType) (scopeId : Option String) : Except ErrorCode Unit :=
  match scopeType, scopeId with
  | .global, some _ => .error .validationFailed
  | .global, none => .ok ()
  | _, none => .error .validationFailed
  | .orgUnit, some scopeId =>
    if (findActiveUnit store scopeId).isNone then .error .resourceNotFound else .ok ()
  | .costCenter, some scopeId =>
    if (findActiveCenter store scopeId).isNone then .error .resourceNotFound else .ok ()

def assignRole (newId : Uuid) (userId : String) (dto : AssignUserRoleDto) :
    Except ErrorCode (List Statement) := do
  if userId = actor.id then .error .roleSelfAssignmentForbidden
  let user ← requireUser store userId
  let role ← requireAssignableRole store now actor dto.roleId
  let fallback := affiliationScope (store.persons.find? user.personId)
  let scopeType := dto.scopeType.getD fallback.1
  let scopeId := if dto.scopeType.isSome then dto.scopeId else fallback.2
  assertScope store scopeType scopeId
  let validFrom := dto.startDate.getD now
  if ∃ validUntil ∈ dto.endDate, validUntil ≤ validFrom then .error .validationFailed
  let record : UserRole :=
    { id := newId
      userId := asUuid userId
      roleId := role.id
      scopeType := scopeType
      scopeId := scopeId.map asUuid
      validFrom := validFrom
      validUntil := dto.endDate
      isDelegated := false
      delegatedFromUserId := none
      revokedAt := none }
  .ok [insertUserRoleWithinLimit now record role.maxConcurrentUsers]

def revokeRole (userId userRoleId : String) : Except ErrorCode (List Statement) := do
  let _ ← requireUser store userId
  match store.userRoles.find? (asUuid userRoleId) with
  | none => .error .resourceNotFound
  | some assignment =>
    if assignment.userId ≠ userId then .error .resourceNotFound
    if assignment.revokedAt.isSome then .error .invalidState
    assertCanAdministerUser store now actor userId
    .ok [revokeUserRoleCascade assignment.id now]

/-- The assignment to delegate: held by the user, in force and within its validity. -/
def delegableAssignment (holder : AppUser) (userRoleId : String) : Except ErrorCode UserRole :=
  match store.userRoles.find? (asUuid userRoleId) with
  | none => .error .cannotDelegateRoleNotHeld
  | some assignment =>
    if assignment.userId ≠ holder.id ∨ assignment.revokedAt.isSome then
      .error .cannotDelegateRoleNotHeld
    else if now < assignment.validFrom ∨ ∃ validUntil ∈ assignment.validUntil, validUntil ≤ now then
      .error .cannotDelegateRoleNotHeld
    else .ok assignment

def delegateRole (newId : Uuid) (userId userRoleId : String) (dto : DelegateUserRoleDto) :
    Except ErrorCode (List Statement) := do
  if dto.toUserId = actor.id then .error .roleSelfAssignmentForbidden
  match dto.validUntil with
  | none => .error .delegationRequiresExpiry
  | some validUntil =>
    let holder ← requireUser store userId
    if dto.toUserId = holder.id then .error .invalidState
    let target ← requireUser store dto.toUserId
    let assignment ← delegableAssignment store now holder userRoleId
    if validUntil ≤ now then .error .delegationRequiresExpiry
    if ∃ sourceUntil ∈ assignment.validUntil, sourceUntil < validUntil then
      .error .delegationExceedsSourceValidity
    let role ← requireAssignableRole store now actor assignment.roleId
    let record : UserRole :=
      { id := newId
        userId := target.id
        roleId := assignment.roleId
        scopeType := assignment.scopeType
        scopeId := assignment.scopeId
        validFrom := now
        validUntil := some validUntil
        isDelegated := true
        delegatedFromUserId := some holder.id
        revokedAt := none }
    .ok [insertUserRoleWithinLimit now record role.maxConcurrentUsers]

/-- The centre of a new user, if one is asked for: active, and in the unit asked for. -/
def resolveCenter (organizationalUnitId costCenterId : Option String) :
    Except ErrorCode (Option CostCenter) :=
  match costCenterId with
  | none => .ok none
  | some costCenterId =>
    match findActiveCenter store costCenterId with
    | none => .error .resourceNotFound
    | some center =>
      match organizationalUnitId, center.organizationalUnitId with
      | some requested, some unit =>
        if unit ≠ requested then .error .costCenterOrgUnitMismatch else .ok (some center)
      | _, _ => .ok (some center)

/-- The unit and the centre of a new user: one of them is asked for, and the unit of the
centre stands in for a unit that is not. -/
def resolveAffiliation (organizationalUnitId costCenterId : Option String) :
    Except ErrorCode (Option Uuid × Option Uuid) := do
  if organizationalUnitId.isNone ∧ costCenterId.isNone then .error .personAffiliationRequired
  let center ← resolveCenter store organizationalUnitId costCenterId
  match organizationalUnitId.or (center.bind CostCenter.organizationalUnitId) with
  | none => .ok (none, center.map CostCenter.id)
  | some unitId =>
    match findActiveUnit store unitId with
    | none => .error .resourceNotFound
    | some unit => .ok (some unit.id, center.map CostCenter.id)

/-- A new person with a user and a role, under the ids that the database gives them. -/
def createUser (personId newUserId newId : Uuid) (dto : CreateUserDto) :
    Except ErrorCode (List Statement) := do
  let username := dto.username.getD dto.email
  if ∃ user ∈ store.users.rows, user.username.toLower = username.toLower then
    .error .usernameAlreadyExists
  if ∃ person ∈ store.persons.rows, person.email.toLower = dto.email.toLower then
    .error .personEmailAlreadyExists
  let affiliation ← resolveAffiliation store dto.organizationalUnitId dto.costCenterId
  let role ← requireAssignableRole store now actor dto.roleId
  let person : Person := ⟨personId, dto.email, affiliation.1, affiliation.2⟩
  let user : AppUser := ⟨newUserId, personId, username⟩
  let scope := affiliationScope (some person)
  let record : UserRole :=
    { id := newId
      userId := newUserId
      roleId := role.id
      scopeType := scope.1
      scopeId := scope.2
      validFrom := now
      validUntil := none
      isDelegated := false
      delegatedFromUserId := none
      revokedAt := none }
  .ok [insertPerson person, insertUser user,
    insertUserRoleWithinLimit now record role.maxConcurrentUsers]

end Service

end InternalControl.Rbac
