import InternalControl.Fallible
import InternalControl.Rbac

/-!
# The statements on roles and their holders

What the database does with an insertion or an update of a role or of an
assignment: the triggers, the constraints, and the row that is written. A
statement that is refused writes nothing.
-/

namespace InternalControl.Rbac

open Fallible

inductive DbError where
  | sodViolation
  | roleHierarchyCycle
  | uniqueViolation
  | checkViolation
  | foreignKeyViolation
  | numericValueOutOfRange
  /-- Thrown inside the transaction that inserts an assignment. -/
  | roleMaxUsersReached
  deriving DecidableEq

/-- The range of a SMALLINT column. -/
def IsSmallint (level : ℤ) : Prop := -32768 ≤ level ∧ level ≤ 32767

instance (level : ℤ) : Decidable (IsSmallint level) := inferInstanceAs (Decidable (_ ∧ _))

/-! ### The triggers -/

/-- fn_check_sod_violation raises for an assignment about to be written: its lineage
has one side of a static rule, and the other side too or another assignment in force
of the same user has it. -/
def ViolatesSod (store : Store) (new : UserRole) : Prop :=
  new.revokedAt = none ∧ ∃ rule ∈ store.separationRules, rule.constraintType = .static ∧
    (rule.roleAId ∈ lineage store.roles new.roleId ∨
      rule.roleBId ∈ lineage store.roles new.roleId) ∧
    (rule.roleAId ∈ lineage store.roles new.roleId ∧
        rule.roleBId ∈ lineage store.roles new.roleId ∨
      ∃ assignment ∈ store.userRoles.rows, assignment.userId = new.userId ∧
        assignment.revokedAt = none ∧ assignment.id ≠ new.id ∧
        (if rule.roleAId ∈ lineage store.roles new.roleId then rule.roleBId else rule.roleAId) ∈
          lineage store.roles assignment.roleId)

instance (store : Store) (new : UserRole) : Decidable (ViolatesSod store new) :=
  inferInstanceAs (Decidable (_ ∧ _))

/-- fn_check_role_inheritance_sod raises for a role that was written: its lineage has
both sides of a static rule, or one who holds it has both, one of them through it. -/
def InheritanceViolatesSod (store : Store) (new : Role) : Prop :=
  new.parentRoleId.isSome ∧ new.deletedAt = none ∧
    ((∃ rule ∈ store.separationRules, rule.constraintType = .static ∧
        rule.roleAId ∈ lineage store.roles new.id ∧ rule.roleBId ∈ lineage store.roles new.id) ∨
      ∃ holding ∈ store.userRoles.rows, holding.revokedAt = none ∧
        new.id ∈ lineage store.roles holding.roleId ∧
        ∃ rule ∈ store.separationRules, rule.constraintType = .static ∧
          (rule.roleAId ∈ lineage store.roles new.id ∨
            rule.roleBId ∈ lineage store.roles new.id) ∧
          rule.roleAId ∈ userEffectiveRoleIds store holding.userId ∧
          rule.roleBId ∈ userEffectiveRoleIds store holding.userId)

instance (store : Store) (new : Role) : Decidable (InheritanceViolatesSod store new) :=
  inferInstanceAs (Decidable (_ ∧ _))

/-- fn_check_role_hierarchy_no_cycle raises: the walk up from the new parent meets the
role. Deleted roles count. No walk without a loop is longer than the table. -/
def closesLoop (roles : Table Role.id) (id : Uuid) (parentRoleId : Option Uuid) : Bool :=
  ParentMap.meetsWithin (fun roleId => (roles.find? roleId).bind Role.parentRoleId) id
    roles.rows.length parentRoleId

/-! ### Assignments -/

/-- The CHECK constraints of an assignment. -/
def UserRole.Consistent (assignment : UserRole) : Prop :=
  (assignment.scopeType = .global ↔ assignment.scopeId = none) ∧
    (∀ validUntil ∈ assignment.validUntil, assignment.validFrom < validUntil) ∧
    (assignment.isDelegated = true ↔ assignment.delegatedFromUserId.isSome)

instance (assignment : UserRole) : Decidable assignment.Consistent :=
  inferInstanceAs (Decidable (_ ∧ _ ∧ _))

/-- Two assignments in force that idx_user_role_unique_active keeps apart. -/
def UserRole.Clashes (assignment other : UserRole) : Prop :=
  assignment.revokedAt = none ∧ other.revokedAt = none ∧ assignment.userId = other.userId ∧
    assignment.roleId = other.roleId ∧ assignment.scopeType = other.scopeType ∧
    assignment.scopeId = other.scopeId

instance (assignment other : UserRole) : Decidable (assignment.Clashes other) :=
  inferInstanceAs (Decidable (_ ∧ _ ∧ _ ∧ _ ∧ _ ∧ _))

/-- An assignment refers to a role and to a user. -/
def UserRole.Listed (store : Store) (assignment : UserRole) : Prop :=
  (store.roles.find? assignment.roleId).isSome ∧ (store.users.find? assignment.userId).isSome

instance (store : Store) (assignment : UserRole) : Decidable (assignment.Listed store) :=
  inferInstanceAs (Decidable (_ ∧ _))

/-- The store with other assignments. -/
def Store.withUserRoles (store : Store) (userRoles : Table UserRole.id)
    (hlisted : ∀ assignment ∈ userRoles.rows, assignment.Listed store) : Store :=
  { store with
    userRoles := userRoles
    held_listed := fun assignment h => (hlisted assignment h).1
    holders_listed := fun assignment h => (hlisted assignment h).2 }

theorem Store.listed (store : Store) {assignment : UserRole}
    (h : assignment ∈ store.userRoles.rows) : assignment.Listed store :=
  ⟨store.held_listed assignment h, store.holders_listed assignment h⟩

def insertUserRole (store : Store) (new : UserRole) : Except DbError Store :=
  if ViolatesSod store new then .error .sodViolation
  else if ¬new.Consistent then .error .checkViolation
  else if ∃ other ∈ store.userRoles.rows, new.Clashes other then .error .uniqueViolation
  else
    match h : store.userRoles.insert new with
    | none => .error .uniqueViolation
    | some userRoles =>
      if hlisted : new.Listed store then
        .ok (store.withUserRoles userRoles (by
          intro assignment hmem
          rcases (Table.mem_insert h).mp hmem with hold | rfl
          · exact store.listed hold
          · exact hlisted))
      else .error .foreignKeyViolation

/-- Write a row in the place of the one with its id. -/
def updateUserRole (store : Store) (new : UserRole) : Except DbError Store :=
  if (store.userRoles.find? new.id).isNone then .ok store
  else if ViolatesSod store new then .error .sodViolation
  else if ¬new.Consistent then .error .checkViolation
  else if ∃ other ∈ store.userRoles.rows, other.id ≠ new.id ∧ new.Clashes other then
    .error .uniqueViolation
  else if hlisted : new.Listed store then
    .ok (store.withUserRoles
      (store.userRoles.update (fun old => old.id = new.id) (fun old => { new with id := old.id })
        fun _ => rfl) (by
      intro assignment hmem
      obtain ⟨old, hold, rfl⟩ := List.mem_map.mp hmem
      split
      · exact hlisted
      · exact store.listed hold))
  else .error .foreignKeyViolation

/-- What an insertion that goes through has written. -/
theorem insertUserRole_eq_ok {store after : Store} {new : UserRole}
    (h : insertUserRole store new = .ok after) :
    ¬ViolatesSod store new ∧ ∃ userRoles hlisted, store.userRoles.insert new = some userRoles ∧
      after = store.withUserRoles userRoles hlisted := by
  unfold insertUserRole at h
  split at h
  · cases h
  next hsod =>
    split at h
    · cases h
    split at h
    · cases h
    split at h
    · cases h
    next userRoles hinsert =>
      split at h
      · cases h
        exact ⟨hsod, userRoles, _, hinsert, rfl⟩
      · cases h

/-- What an update that goes through has written, when there is a row to write. -/
theorem updateUserRole_eq_ok {store after : Store} {new : UserRole}
    (h : updateUserRole store new = .ok after) :
    after = store ∨ ¬ViolatesSod store new ∧ ∃ hlisted,
      after = store.withUserRoles
        (store.userRoles.update (fun old => old.id = new.id) (fun old => { new with id := old.id })
          fun _ => rfl) hlisted := by
  unfold updateUserRole at h
  split at h
  · cases h
    exact Or.inl rfl
  split at h
  · cases h
  next hsod =>
    split at h
    · cases h
    split at h
    · cases h
    split at h
    · cases h
      exact Or.inr ⟨hsod, _, rfl⟩
    · cases h

/-! ### Roles -/

/-- The store with other roles: those that were listed still are. -/
def Store.withRoles (store : Store) (roles : Table Role.id)
    (hlisted : ∀ id role, roles.find? id = some role → ∀ other, role.References other →
      (roles.find? other).isSome)
    (hkept : ∀ id, (store.roles.find? id).isSome → (roles.find? id).isSome) : Store :=
  { store with
    roles := roles
    roles_listed := hlisted
    held_listed := fun assignment h => hkept _ (store.held_listed assignment h) }

/-- The store with the roles that a condition picks changed in place, when what the new
rows refer to is there. -/
def Store.changeRoles (store : Store) (picked : Role → Prop) [DecidablePred picked]
    (change : Role → Role) (hid : ∀ role, (change role).id = role.id)
    (hlisted : ∀ role ∈ store.roles.rows, picked role → ∀ other, (change role).References other →
      (store.roles.find? other).isSome) : Store :=
  store.withRoles (store.roles.update picked change hid)
    (by
      intro id row hrow other hother
      rw [Table.isSome_find?_update]
      rw [Table.find?_update] at hrow
      obtain ⟨old, hold, rfl⟩ := Option.map_eq_some_iff.mp hrow
      split at hother
      · next hpicked => exact hlisted old (Table.mem_of_find? hold) hpicked other hother
      · exact store.roles_listed id old hold other hother)
    (fun _ h => by rw [Table.isSome_find?_update]; exact h)

theorem Store.find?_changeRoles {store : Store} {picked : Role → Prop} [DecidablePred picked]
    {change : Role → Role} {hid : ∀ role, (change role).id = role.id}
    {hlisted : ∀ role ∈ store.roles.rows, picked role → ∀ other, (change role).References other →
      (store.roles.find? other).isSome} (id : Uuid) :
    (store.changeRoles picked change hid hlisted).roles.find? id =
      (store.roles.find? id).map fun row => if picked row then change row else row := by
  show (store.roles.update picked change hid).find? id = _
  exact Table.find?_update

def insertRole (store : Store) (new : Role) : Except DbError Store :=
  if closesLoop store.roles new.id new.parentRoleId then .error .roleHierarchyCycle
  else if ¬IsSmallint new.hierarchyLevel then .error .numericValueOutOfRange
  else if new.parentRoleId = some new.id then .error .checkViolation
  else if ∃ role ∈ store.roles.rows, role.code = new.code then .error .uniqueViolation
  else
    match h : store.roles.insert new with
    | none => .error .uniqueViolation
    | some roles =>
      if hlisted : ∀ other ∈ new.references, (roles.find? other).isSome then
        let after := store.withRoles roles
          (by
            intro id role hrole other hother
            rw [Table.find?_insert h] at hrole
            split at hrole
            · cases hrole
              exact hlisted other (Role.mem_references.mpr hother)
            · exact Table.isSome_find?_insert h (store.roles_listed id role hrole other hother))
          (fun _ hid => Table.isSome_find?_insert h hid)
        if InheritanceViolatesSod after new then .error .sodViolation else .ok after
      else .error .foreignKeyViolation

/-- What an insertion that goes through has written. -/
theorem insertRole_eq_ok {store after : Store} {new : Role}
    (h : insertRole store new = .ok after) :
    IsSmallint new.hierarchyLevel ∧ ¬InheritanceViolatesSod after new ∧
      ∃ roles hlisted hkept, store.roles.insert new = some roles ∧
        after = store.withRoles roles hlisted hkept := by
  unfold insertRole at h
  split at h
  · cases h
  split at h
  · cases h
  next hlevel =>
    split at h
    · cases h
    split at h
    · cases h
    split at h
    · cases h
    next roles hinsert =>
      split at h
      · dsimp only at h
        split at h
        · cases h
        next hsod =>
          cases h
          exact ⟨not_not.mp hlevel, hsod, roles, _, _, hinsert, rfl⟩
      · cases h

/-- The columns an update of a role sets. -/
structure UpdateRoleRecord where
  name : Option String
  description : Option (Option String)
  parentRoleId : Option (Option Uuid)
  superiorRoleId : Option (Option Uuid)
  hierarchyLevel : Option ℤ
  deriving DecidableEq

/-- The row that an update writes. -/
def UpdateRoleRecord.apply (record : UpdateRoleRecord) (role : Role) : Role :=
  { role with
    name := record.name.getD role.name
    description := record.description.getD role.description
    parentRoleId := record.parentRoleId.getD role.parentRoleId
    superiorRoleId := record.superiorRoleId.getD role.superiorRoleId
    hierarchyLevel := record.hierarchyLevel.getD role.hierarchyLevel }

@[simp] theorem UpdateRoleRecord.apply_id (record : UpdateRoleRecord) (role : Role) :
    (record.apply role).id = role.id := rfl

@[simp] theorem UpdateRoleRecord.apply_deletedAt (record : UpdateRoleRecord) (role : Role) :
    (record.apply role).deletedAt = role.deletedAt := rfl

/-- Write one row of an update. The trigger against loops is one of the updates that
set the parent, and only a column that is set can break its constraint. -/
def setRole (store : Store) (id : Uuid) (record : UpdateRoleRecord) : Except DbError Store :=
  match hrole : store.roles.find? id with
  | none => .ok store
  | some role =>
    let new := record.apply role
    if record.parentRoleId.isSome ∧ closesLoop store.roles id new.parentRoleId then
      .error .roleHierarchyCycle
    else if ∃ level ∈ record.hierarchyLevel, ¬IsSmallint level then
      .error .numericValueOutOfRange
    else if record.parentRoleId = some (some id) then .error .checkViolation
    else if hlisted : ∀ other ∈ new.references, (store.roles.find? other).isSome then
      .ok (store.changeRoles (fun row => row.id = id) record.apply record.apply_id (by
        intro row hrow hid other hother
        have hfound := Table.find?_of_mem hrow
        rw [hid, hrole] at hfound
        cases hfound
        exact hlisted other (Role.mem_references.mpr hother)))
    else .error .foreignKeyViolation

/-- What the writing of a row has done: nothing when there is no such row. -/
theorem setRole_eq_ok {store after : Store} {id : Uuid} {record : UpdateRoleRecord}
    (h : setRole store id record = .ok after) :
    store.roles.find? id = none ∧ after = store ∨
      ∃ role hlisted, store.roles.find? id = some role ∧
        after = store.changeRoles (fun row => row.id = id) record.apply record.apply_id hlisted := by
  unfold setRole at h
  split at h
  · next hnone =>
    cases h
    exact Or.inl ⟨hnone, rfl⟩
  · next role hrole =>
    dsimp only at h
    split at h
    · cases h
    split at h
    · cases h
    split at h
    · cases h
    split at h
    · cases h
      exact Or.inr ⟨role, _, hrole, rfl⟩
    · cases h

/-- One UPDATE of several roles. The trigger that keeps duties apart sees the roles as
the whole statement leaves them, for each row whose parent it set. -/
def updateRoles (store : Store) (changes : List (Uuid × UpdateRoleRecord)) :
    Except DbError Store := do
  let after ← changes.foldlM (fun store change => setRole store change.1 change.2) store
  if ∃ change ∈ changes, change.2.parentRoleId.isSome ∧
      ∃ role ∈ after.roles.find? change.1, InheritanceViolatesSod after role then
    .error .sodViolation
  else .ok after

/-- UPDATE role SET deleted_at: no trigger looks at it. -/
def softDelete (store : Store) (id : Uuid) (at_ : Timestamp) : Store :=
  store.changeRoles (fun row => row.id = id) (fun row => { row with deletedAt := some at_ })
    (fun _ => rfl)
    (fun row hrow _ other hother => by
      have hfound := Table.find?_of_mem hrow
      exact store.roles_listed row.id row hfound other hother)

end InternalControl.Rbac
