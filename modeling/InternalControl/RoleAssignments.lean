import InternalControl.Interleaving
import InternalControl.SeparationOfDuties
import InternalControl.UsersService

/-!
# Assignments of roles, statement by statement

Calls that assign, delegate and revoke roles read what they need in statements
of their own. An assignment is then inserted in a transaction that locks the
row of its role and counts the holders. A revocation walks down the delegations
level by level in one transaction, which waits for the rows that another
transaction has revoked, and shows nothing to the others before it commits.
-/

namespace InternalControl.RoleAssignments

open Interleaving Rbac

abbrev Uuid := Rbac.Uuid

/-- A row that an open transaction has revoked. -/
structure Revocation (ι : Type) where
  transaction : ι
  id : Uuid
  /-- What was delegated from it has been looked for. -/
  walked : Bool
  deriving DecidableEq

/-- The committed tables, the locks on rows of roles, and the rows that open transactions have
revoked. -/
structure Store (ι : Type) where
  rbac : Rbac.Store
  roleLocks : List (ι × Uuid)
  revocations : List (Revocation ι)

/-- How far a call has come. -/
inductive Phase
  | idle
  | assigning (newId : Uuid) (userId : String) (user : AppUser) (dto : AssignUserRoleDto)
  | assignable (newId : Uuid) (userId : String) (user : AppUser) (dto : AssignUserRoleDto)
      (role : Role)
  | delegating (newId : Uuid) (holder target : AppUser) (userRoleId : String)
      (validUntil : Timestamp)
  | delegable (newId : Uuid) (holder target : AppUser) (assignment : UserRole)
      (validFrom validUntil : Timestamp)
  | creating (person : Person) (user : AppUser) (newId : Uuid) (roleId : String)
  | creatable (person : Person) (user : AppUser) (newId : Uuid) (role : Role)
  | personCreated (person : Person) (user : AppUser) (newId : Uuid) (role : Role)
  | inserting (record : UserRole) (maxConcurrentUsers : Option ℕ)
  | began (record : UserRole) (maxConcurrentUsers : Option ℕ) (now : Timestamp)
  | locked (record : UserRole) (maxConcurrentUsers : Option ℕ) (now : Timestamp)
  | counted (record : UserRole) (maxConcurrentUsers : Option ℕ)
  | revoking (id : Uuid)
  /-- An update of the cascade has these rows to go and has revoked those. -/
  | updating (at_ : Timestamp) (rounds : ℕ) (candidates : List Uuid) (updated : List UserRole)

/-- A statement of a call. -/
inductive Statement
  | assignRole (actor : AuthenticatedUser) (newId : Uuid) (userId : String)
      (dto : AssignUserRoleDto)
  | delegateRole (actor : AuthenticatedUser) (newId : Uuid) (userId userRoleId : String)
      (dto : DelegateUserRoleDto)
  | findUserRoleById (now : Timestamp)
  | createUser (personId newUserId newId : Uuid) (dto : CreateUserDto)
  | requireAssignableRole (now : Timestamp) (actor : AuthenticatedUser)
  | requireScope (now : Timestamp)
  | insertPerson
  | insertUser (now : Timestamp)
  | beginTransaction (now : Timestamp)
  | lockRole
  | count
  | save
  | revokeRole (now : Timestamp) (actor : AuthenticatedUser) (userId userRoleId : String)
  | updateAssignment (at_ : Timestamp)
  | updateRow
  | updateDelegations
  | abort

/-! ### What the calls read -/

section Reads

variable (rbac : Rbac.Store)

/-- The user to assign a role to. -/
def assignedUser (actor : AuthenticatedUser) (userId : String) : Except ErrorCode AppUser := do
  if userId = actor.id then .error .roleSelfAssignmentForbidden
  requireUser rbac userId

/-- The record of an assignment, once its role is known. -/
def assignedRecord (now : Timestamp) (newId : Uuid) (userId : String) (user : AppUser)
    (dto : AssignUserRoleDto) (role : Role) : Except ErrorCode UserRole := do
  let fallback := affiliationScope (rbac.persons.find? user.personId)
  let scopeType := dto.scopeType.getD fallback.1
  let scopeId := if dto.scopeType.isSome then dto.scopeId else fallback.2
  assertScope rbac scopeType scopeId
  let validFrom := dto.startDate.getD now
  if ∃ validUntil ∈ dto.endDate, validUntil ≤ validFrom then .error .validationFailed
  .ok { id := newId
        userId := asUuid userId
        roleId := role.id
        scopeType := scopeType
        scopeId := scopeId.map asUuid
        validFrom := validFrom
        validUntil := dto.endDate
        isDelegated := false
        delegatedFromUserId := none
        revokedAt := none }

/-- The two users of a delegation, and the end of it. -/
def delegationUsers (actor : AuthenticatedUser) (userId : String) (dto : DelegateUserRoleDto) :
    Except ErrorCode (AppUser × AppUser × Timestamp) := do
  if dto.toUserId = actor.id then .error .roleSelfAssignmentForbidden
  match dto.validUntil with
  | none => .error .delegationRequiresExpiry
  | some validUntil =>
    let holder ← requireUser rbac userId
    if dto.toUserId = holder.id then .error .invalidState
    let target ← requireUser rbac dto.toUserId
    .ok (holder, target, validUntil)

/-- The assignment that a delegation is made from. -/
def delegationSource (now : Timestamp) (holder : AppUser) (userRoleId : String)
    (validUntil : Timestamp) : Except ErrorCode UserRole := do
  let assignment ← delegableAssignment rbac now holder userRoleId
  if validUntil ≤ now then .error .delegationRequiresExpiry
  if ∃ sourceUntil ∈ assignment.validUntil, sourceUntil < validUntil then
    .error .delegationExceedsSourceValidity
  .ok assignment

/-- The record of a delegation. -/
def delegatedRecord (newId : Uuid) (holder target : AppUser) (assignment : UserRole)
    (validFrom validUntil : Timestamp) : UserRole where
  id := newId
  userId := target.id
  roleId := assignment.roleId
  scopeType := assignment.scopeType
  scopeId := assignment.scopeId
  validFrom := validFrom
  validUntil := some validUntil
  isDelegated := true
  delegatedFromUserId := some holder.id
  revokedAt := none

/-- The person and the user to create. -/
def newUser (personId newUserId : Uuid) (dto : CreateUserDto) :
    Except ErrorCode (Person × AppUser) := do
  let username := dto.username.getD dto.email
  if ∃ user ∈ rbac.users.rows, user.username.toLower = username.toLower then
    .error .usernameAlreadyExists
  if ∃ person ∈ rbac.persons.rows, person.email.toLower = dto.email.toLower then
    .error .personEmailAlreadyExists
  let affiliation ← resolveAffiliation rbac dto.organizationalUnitId dto.costCenterId
  .ok (⟨personId, dto.email, affiliation.1, affiliation.2⟩, ⟨newUserId, personId, username⟩)

/-- The record of the role that a user is created with. -/
def createdRecord (now : Timestamp) (person : Person) (user : AppUser) (newId : Uuid) (role : Role) :
    UserRole where
  id := newId
  userId := user.id
  roleId := role.id
  scopeType := (affiliationScope (some person)).1
  scopeId := (affiliationScope (some person)).2
  validFrom := now
  validUntil := none
  isDelegated := false
  delegatedFromUserId := none
  revokedAt := none

/-- The assignment to revoke. -/
def revocable (now : Timestamp) (actor : AuthenticatedUser) (userId userRoleId : String) :
    Except ErrorCode Uuid := do
  let _ ← requireUser rbac userId
  match rbac.userRoles.find? (asUuid userRoleId) with
  | none => .error .resourceNotFound
  | some assignment =>
    if assignment.userId ≠ userId then .error .resourceNotFound
    if assignment.revokedAt.isSome then .error .invalidState
    assertCanAdministerUser rbac now actor userId
    .ok assignment.id

/-- The users other than one who hold a role at an instant. -/
def otherHolders (roleId userId : Uuid) (at_ : Timestamp) : List Uuid :=
  ((rbac.userRoles.rows.filter fun assignment =>
    assignment.roleId = roleId ∧ assignment.userId ≠ userId ∧ assignment.IsCurrent at_).map
      UserRole.userId).dedup

end Reads

/-- Where a call goes with what it has read. -/
def proceed {α : Type} (next : α → Phase) : Except ErrorCode α → Phase
  | .error _ => .idle
  | .ok value => next value

/-! ### What the statements on people leave alone -/

theorem insertPerson_eq_ok {person : Person} {rbac after : Rbac.Store}
    (h : Rbac.insertPerson person rbac = .ok after) :
    after.roles = rbac.roles ∧ after.userRoles = rbac.userRoles := by
  unfold Rbac.insertPerson at h
  split at h
  · cases h
  · cases h
    exact ⟨rfl, rfl⟩

theorem insertUser_eq_ok {user : AppUser} {rbac after : Rbac.Store}
    (h : Rbac.insertUser user rbac = .ok after) :
    after.roles = rbac.roles ∧ after.userRoles = rbac.userRoles := by
  unfold Rbac.insertUser at h
  split at h
  · cases h
  · split at h
    · cases h
    · cases h
      exact ⟨rfl, rfl⟩

/-! ### The transactions -/

section Transactions

variable {ι : Type} [DecidableEq ι]

namespace Store

/-- The end of a transaction that changes nothing: its locks go. -/
def rollback (store : Store ι) (i : ι) : Store ι :=
  { store with
    roleLocks := store.roleLocks.filter fun lock => lock.1 ≠ i
    revocations := store.revocations.filter fun revocation => revocation.transaction ≠ i }

/-- The row is revoked by an open transaction. -/
def Revoking (store : Store ι) (id : Uuid) : Prop :=
  ∃ revocation ∈ store.revocations, revocation.id = id

/-- The row is revoked by this open transaction. -/
def RevokedBy (store : Store ι) (i : ι) (id : Uuid) : Prop :=
  ∃ revocation ∈ store.revocations, revocation.transaction = i ∧ revocation.id = id

instance (store : Store ι) (id : Uuid) : Decidable (store.Revoking id) :=
  inferInstanceAs (Decidable (∃ revocation ∈ store.revocations, _))

instance (store : Store ι) (i : ι) (id : Uuid) : Decidable (store.RevokedBy i id) :=
  inferInstanceAs (Decidable (∃ revocation ∈ store.revocations, _))

/-- SELECT FOR UPDATE of the row of a role. It waits for another transaction that has it. -/
def lockRole (store : Store ι) (i : ι) (roleId : Uuid) : Option (Store ι) :=
  if ∃ lock ∈ store.roleLocks, lock.2 = roleId ∧ lock.1 ≠ i then none
  else some { store with roleLocks := (i, roleId) :: store.roleLocks }

/-- The insertion of an assignment, and the commit. It waits for a row with the same key that
an open transaction has revoked. -/
def save (store : Store ι) (i : ι) (record : UserRole) : Option (Store ι) :=
  if ∃ other ∈ store.rbac.userRoles.rows, record.Clashes other ∧ store.Revoking other.id then none
  else
    match insertUserRole store.rbac record with
    | .error _ => some (store.rollback i)
    | .ok rbac => some { store.rollback i with rbac := rbac }

/-- The rows that the first update of a cascade finds. -/
def assignmentIds (store : Store ι) (id : Uuid) : List Uuid :=
  (store.rbac.userRoles.rows.filter fun assignment =>
    assignment.id = id ∧ assignment.revokedAt = none).map UserRole.id

/-- The rows that the next update of a cascade finds: in force for this transaction, and
delegated from what the last update has revoked. -/
def delegationIds (store : Store ι) (i : ι) (frontier : List UserRole) : List Uuid :=
  (store.rbac.userRoles.rows.filter fun assignment =>
    ¬store.RevokedBy i assignment.id ∧ ∃ source ∈ frontier, assignment.DelegatedFrom source).map
      UserRole.id

/-- The transaction has looked for what was delegated from the rows it revoked so far. -/
def walk (store : Store ι) (i : ι) : Store ι :=
  { store with revocations := store.revocations.map fun revocation =>
      if revocation.transaction = i then { revocation with walked := true } else revocation }

/-- One row of an update. It waits for another transaction that has revoked the row, and looks
at it again. -/
def updateRow (store : Store ι) (i : ι) (id : Uuid) : Option (Store ι × Option UserRole) :=
  if ∃ revocation ∈ store.revocations, revocation.id = id ∧ revocation.transaction ≠ i then none
  else
    match store.rbac.userRoles.find? id with
    | none => some (store, none)
    | some assignment =>
      if assignment.revokedAt = none ∧ ¬store.RevokedBy i id then
        some ({ store with revocations := ⟨i, id, false⟩ :: store.revocations }, some assignment)
      else some (store, none)

/-- The end of a cascade. -/
def commitCascade (store : Store ι) (i : ι) (at_ : Timestamp) : Store ι :=
  { store.rollback i with
    rbac := store.rbac.revoke (fun assignment => store.RevokedBy i assignment.id) at_ }

end Store

/-- The statements of the calls. -/
def program : Program ι (Store ι) Phase Statement
  | _, .assignRole actor newId userId dto, store, .idle =>
    some (store, proceed (fun user => .assigning newId userId user dto)
      (assignedUser store.rbac actor userId))
  | _, .requireAssignableRole now actor, store, .assigning newId userId user dto =>
    some (store, proceed (fun role => .assignable newId userId user dto role)
      (Rbac.requireAssignableRole store.rbac now actor dto.roleId))
  | _, .requireScope now, store, .assignable newId userId user dto role =>
    some (store, proceed (fun record => .inserting record role.maxConcurrentUsers)
      (assignedRecord store.rbac now newId userId user dto role))
  | _, .delegateRole actor newId userId userRoleId dto, store, .idle =>
    some (store, proceed
      (fun users => .delegating newId users.1 users.2.1 userRoleId users.2.2)
      (delegationUsers store.rbac actor userId dto))
  | _, .findUserRoleById now, store, .delegating newId holder target userRoleId validUntil =>
    some (store, proceed
      (fun assignment => .delegable newId holder target assignment now validUntil)
      (delegationSource store.rbac now holder userRoleId validUntil))
  | _, .requireAssignableRole now actor, store,
      .delegable newId holder target assignment validFrom validUntil =>
    some (store, proceed
      (fun role => .inserting (delegatedRecord newId holder target assignment validFrom validUntil)
        role.maxConcurrentUsers)
      (Rbac.requireAssignableRole store.rbac now actor assignment.roleId))
  | _, .createUser personId newUserId newId dto, store, .idle =>
    some (store, proceed (fun created => .creating created.1 created.2 newId dto.roleId)
      (newUser store.rbac personId newUserId dto))
  | _, .requireAssignableRole now actor, store, .creating person user newId roleId =>
    some (store, proceed (fun role => .creatable person user newId role)
      (Rbac.requireAssignableRole store.rbac now actor roleId))
  | _, .insertPerson, store, .creatable person user newId role =>
    match Rbac.insertPerson person store.rbac with
    | .error _ => some (store, .idle)
    | .ok rbac => some ({ store with rbac := rbac }, .personCreated person user newId role)
  | _, .insertUser now, store, .personCreated person user newId role =>
    match Rbac.insertUser user store.rbac with
    | .error _ => some (store, .idle)
    | .ok rbac => some ({ store with rbac := rbac },
        .inserting (createdRecord now person user newId role) role.maxConcurrentUsers)
  | _, .beginTransaction now, store, .inserting record maxConcurrentUsers =>
    some (store, .began record maxConcurrentUsers now)
  | i, .lockRole, store, .began record maxConcurrentUsers now =>
    (store.lockRole i record.roleId).map fun after => (after, .locked record maxConcurrentUsers now)
  | i, .count, store, .locked record maxConcurrentUsers now =>
    if ∃ limit ∈ maxConcurrentUsers,
        limit ≤ (otherHolders store.rbac record.roleId record.userId now).length then
      some (store.rollback i, .idle)
    else some (store, .counted record maxConcurrentUsers)
  | i, .save, store, .counted record _ =>
    (store.save i record).map fun after => (after, .idle)
  | _, .revokeRole now actor userId userRoleId, store, .idle =>
    some (store, proceed .revoking (revocable store.rbac now actor userId userRoleId))
  | _, .updateAssignment at_, store, .revoking id =>
    some (store, .updating at_ 0 (store.assignmentIds id) [])
  | i, .updateRow, store, .updating at_ rounds (id :: candidates) updated =>
    (store.updateRow i id).map fun after =>
      (after.1, .updating at_ rounds candidates (updated ++ after.2.toList))
  | i, .updateDelegations, store, .updating at_ rounds [] updated =>
    if updated = [] then some (store.commitCascade i at_, .idle)
    else some (store.walk i,
      .updating at_ (rounds + 1) (store.delegationIds i updated) [])
  | i, .abort, store, _ => some (store.rollback i, .idle)
  | _, _, _, _ => none

/-- No call in progress. -/
def start (ι : Type) (rbac : Rbac.Store) : Interleaving ι (Store ι) Phase :=
  ⟨⟨rbac, [], []⟩, fun _ => .idle⟩

/-- What a statement of a call writes: nothing, a person or a user, a lock, the assignment that
was counted for, a row that its transaction has revoked, or the end of its transaction. -/
inductive Effect (i : ι) (statement : Statement) (store : Store ι) (phase : Phase) : Store ι → Prop
  | wait : Effect i statement store phase store
  | people (rbac : Rbac.Store) (hroles : rbac.roles = store.rbac.roles)
      (huserRoles : rbac.userRoles = store.rbac.userRoles) :
      Effect i statement store phase { store with rbac := rbac }
  | lockRole (roleId : Uuid) (hfree : ∀ lock ∈ store.roleLocks, lock.2 = roleId → lock.1 = i) :
      Effect i statement store phase { store with roleLocks := (i, roleId) :: store.roleLocks }
  | rollback : Effect i statement store phase (store.rollback i)
  | save (record : UserRole) (limit : Option ℕ) (rbac : Rbac.Store) (hstatement : statement = .save)
      (hphase : phase = .counted record limit)
      (hinsert : insertUserRole store.rbac record = .ok rbac) :
      Effect i statement store phase { store.rollback i with rbac := rbac }
  | walk (at_ : Timestamp) (rounds : ℕ) (updated : List UserRole)
      (hphase : phase = .updating at_ rounds [] updated) :
      Effect i statement store phase (store.walk i)
  | revokeRow (assignment : UserRole) (hmem : assignment ∈ store.rbac.userRoles.rows)
      (hinForce : assignment.revokedAt = none)
      (hfree : ∀ revocation ∈ store.revocations, revocation.id ≠ assignment.id) :
      Effect i statement store phase
        { store with revocations := ⟨i, assignment.id, false⟩ :: store.revocations }
  | commit (at_ : Timestamp) (rounds : ℕ) (hphase : phase = .updating at_ rounds [] []) :
      Effect i statement store phase (store.commitCascade i at_)

namespace Store

variable {store : Store ι} {i : ι}

theorem lockRole_eq_some {roleId : Uuid} {after : Store ι}
    (h : store.lockRole i roleId = some after) :
    (∀ lock ∈ store.roleLocks, lock.2 = roleId → lock.1 = i) ∧
      after = { store with roleLocks := (i, roleId) :: store.roleLocks } := by
  unfold lockRole at h
  split at h
  · cases h
  · next hfree =>
    cases h
    refine ⟨fun lock hlock hrole => ?_, rfl⟩
    by_contra hother
    exact hfree ⟨lock, hlock, hrole, hother⟩

/-- An insertion is refused, or it writes the record. -/
theorem save_eq_some {record : UserRole} {after : Store ι} (h : store.save i record = some after) :
    after = store.rollback i ∨ ∃ rbac, insertUserRole store.rbac record = .ok rbac ∧
      after = { store.rollback i with rbac := rbac } := by
  unfold save at h
  split at h
  · cases h
  · split at h
    · cases h
      exact .inl rfl
    · next rbac hinsert =>
      cases h
      exact .inr ⟨rbac, hinsert, rfl⟩

/-- A row that is looked at is revoked, or there is no such row in force for the transaction. -/
theorem updateRow_eq_some {id : Uuid} {after : Store ι × Option UserRole}
    (h : store.updateRow i id = some after) :
    (after = (store, none) ∧ ∀ assignment ∈ store.rbac.userRoles.rows, assignment.id = id →
        assignment.revokedAt = none → store.RevokedBy i id) ∨
      ∃ assignment ∈ store.rbac.userRoles.rows, assignment.id = id ∧ assignment.revokedAt = none ∧
        (∀ revocation ∈ store.revocations, revocation.id ≠ id) ∧
        after = ({ store with revocations := ⟨i, id, false⟩ :: store.revocations },
          some assignment) := by
  unfold updateRow at h
  split at h
  · cases h
  · next hfree =>
    split at h
    · next hnone =>
      cases h
      refine .inl ⟨rfl, fun assignment hmem hid _ => ?_⟩
      have hfound := Table.find?_of_mem hmem
      rw [hid, hnone] at hfound
      cases hfound
    · next assignment hfound =>
      have hmem := Table.mem_of_find? hfound
      have hid := Table.key_of_find? hfound
      split at h
      · next hinForce =>
        cases h
        refine .inr ⟨assignment, hmem, hid, hinForce.1, fun revocation hrevocation hsame => ?_, rfl⟩
        by_cases hown : revocation.transaction = i
        · exact hinForce.2 ⟨revocation, hrevocation, hown, hsame⟩
        · exact hfree ⟨revocation, hrevocation, hsame, hown⟩
      · next hover =>
        cases h
        refine .inl ⟨rfl, fun other hother hotherId hinForce => ?_⟩
        have hsame := Table.find?_of_mem hother
        rw [hotherId, hfound] at hsame
        cases hsame
        by_contra hno
        exact hover ⟨hinForce, hno⟩

end Store

theorem effect_of_program {i : ι} {statement : Statement} {store store' : Store ι}
    {phase phase' : Phase} (h : program i statement store phase = some (store', phase')) :
    Effect i statement store phase store' := by
  unfold program at h
  split at h
  · cases h
    exact .wait
  · cases h
    exact .wait
  · cases h
    exact .wait
  · cases h
    exact .wait
  · cases h
    exact .wait
  · cases h
    exact .wait
  · cases h
    exact .wait
  · cases h
    exact .wait
  · next person _ _ _ =>
    split at h
    · cases h
      exact .wait
    · next rbac hinsert =>
      cases h
      obtain ⟨hroles, huserRoles⟩ := insertPerson_eq_ok hinsert
      exact .people rbac hroles huserRoles
  · split at h
    · cases h
      exact .wait
    · next rbac hinsert =>
      cases h
      obtain ⟨hroles, huserRoles⟩ := insertUser_eq_ok hinsert
      exact .people rbac hroles huserRoles
  · cases h
    exact .wait
  · obtain ⟨after, hlock, heq⟩ := Option.map_eq_some_iff.mp h
    obtain ⟨hfree, rfl⟩ := Store.lockRole_eq_some hlock
    cases heq
    exact .lockRole _ hfree
  · split at h
    · cases h
      exact .rollback
    · cases h
      exact .wait
  · obtain ⟨after, hsave, heq⟩ := Option.map_eq_some_iff.mp h
    cases heq
    rcases Store.save_eq_some hsave with rfl | ⟨rbac, hinsert, rfl⟩
    · exact .rollback
    · exact .save _ _ rbac rfl rfl hinsert
  · cases h
    exact .wait
  · cases h
    exact .wait
  · obtain ⟨after, hrow, heq⟩ := Option.map_eq_some_iff.mp h
    cases heq
    rcases Store.updateRow_eq_some hrow with ⟨rfl, -⟩ | ⟨assignment, hmem, rfl, hinForce, hfree, rfl⟩
    · exact .wait
    · exact .revokeRow assignment hmem hinForce hfree
  · next at_ rounds updated =>
    split at h
    · next hnone =>
      cases h
      exact .commit at_ rounds (by rw [hnone])
    · cases h
      exact .walk at_ rounds updated rfl
  · cases h
    exact .rollback
  · cases h

end Transactions

section Samples

/-- An administrator, two other users, and a role below that so many users can hold. -/
def threeUsers (maxConcurrentUsers : Option ℕ) : Rbac.Store where
  units := .empty
  costCenters := .empty
  persons := ⟨[⟨"pa", "ana@x", none, none⟩, ⟨"pe", "eva@x", none, none⟩, ⟨"pl", "leo@x", none, none⟩],
    by decide⟩
  users := ⟨[⟨"ana", "pa", "ana"⟩, ⟨"eva", "pe", "eva"⟩, ⟨"leo", "pl", "leo"⟩], by decide⟩
  roles := ⟨[roleOf "admin" "SUPER_ADMIN" 0,
    { roleOf "director" "DIRECTOR" 1 with maxConcurrentUsers := maxConcurrentUsers }],
    show ["admin", "director"].Nodup by decide⟩
  permissions := .empty
  rolePermissions := .empty
  userRoles := ⟨[heldBy "h1" "ana" "admin"], by decide⟩
  separationRules := []
  roles_listed := by
    intro id role h other hreferences
    have hother := Role.mem_references.mpr hreferences
    rcases List.mem_cons.mp (Table.mem_of_find? h) with rfl | hmem
    · cases hother
    · cases List.mem_singleton.mp hmem
      cases hother
  held_listed := by
    intro assignment hmem
    cases List.mem_singleton.mp hmem
    rfl
  holders_listed := by
    intro assignment hmem
    cases List.mem_singleton.mp hmem
    rfl

end Samples

end InternalControl.RoleAssignments
