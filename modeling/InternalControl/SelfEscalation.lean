import InternalControl.RoleHierarchy
import InternalControl.UsersService

/-!
# Nobody widens what they may do

Whoever calls an operation on roles or users, the permissions that the view
shows for the caller are no more after it than before, at that instant and at
any later one, when a request that names the caller's own user spells the id
as the database does.
-/

namespace InternalControl.Rbac

open Fallible ParentMap

/-- Nothing reaches a user in one store that does not in another: the assignments in force
were there, and so were the grants that they reach. -/
structure NotWidened (userId : Uuid) (at_ : Timestamp) (before after : Store) : Prop where
  permissions : after.permissions = before.permissions
  assignments : ∀ assignment ∈ after.userRoles.rows, assignment.userId = userId →
    assignment.IsCurrent at_ → assignment ∈ before.userRoles.rows
  grants : ∀ assignment ∈ after.userRoles.rows, assignment.userId = userId →
    assignment.IsCurrent at_ → ∀ grant ∈ after.rolePermissions.rows,
      grant.roleId ∈ lineage after.roles assignment.roleId →
        (after.permissions.find? grant.permissionId).isSome →
          grant ∈ before.rolePermissions.rows ∧
            grant.roleId ∈ lineage before.roles assignment.roleId

theorem NotWidened.refl (userId : Uuid) (at_ : Timestamp) (store : Store) :
    NotWidened userId at_ store store :=
  ⟨rfl, fun _ h _ _ => h, fun _ _ _ _ _ hgrant hlineage _ => ⟨hgrant, hlineage⟩⟩

theorem NotWidened.trans {userId : Uuid} {at_ : Timestamp} {first second third : Store}
    (h : NotWidened userId at_ first second) (h' : NotWidened userId at_ second third) :
    NotWidened userId at_ first third where
  permissions := h'.permissions.trans h.permissions
  assignments := fun assignment hmem huser hcurrent =>
    h.assignments assignment (h'.assignments assignment hmem huser hcurrent) huser hcurrent
  grants := by
    intro assignment hmem huser hcurrent grant hgrant hlineage hpermission
    obtain ⟨hgrant', hlineage'⟩ :=
      h'.grants assignment hmem huser hcurrent grant hgrant hlineage hpermission
    have hmem' := h'.assignments assignment hmem huser hcurrent
    have hpermission' : (second.permissions.find? grant.permissionId).isSome :=
      h'.permissions ▸ hpermission
    exact h.grants assignment hmem' huser hcurrent grant hgrant' hlineage' hpermission'

/-- What is not widened shows no new row in the view. -/
theorem NotWidened.subset {userId : Uuid} {at_ : Timestamp} {before after : Store}
    (h : NotWidened userId at_ before after) :
    userEffectivePermissions after at_ userId ⊆ userEffectivePermissions before at_ userId := by
  intro row hrow
  obtain ⟨assignment, hmem, huser, hcurrent, grant, hgrant, hlineage, permission, hpermission, hsame⟩ :=
    mem_userEffectivePermissions.mp hrow
  obtain ⟨hgrant', hlineage'⟩ := h.grants assignment hmem huser hcurrent grant hgrant hlineage
    (by rw [hpermission]; rfl)
  exact mem_userEffectivePermissions.mpr ⟨assignment, h.assignments assignment hmem huser hcurrent,
    huser, hcurrent, grant, hgrant', hlineage', permission, h.permissions ▸ hpermission, hsame⟩

section Changes

variable {userId : Uuid} {at_ : Timestamp} {before after : Store}

/-- Other roles with fewer edges on the way up from what the user holds. -/
theorem NotWidened.of_roles (hpermissions : after.permissions = before.permissions)
    (huserRoles : after.userRoles = before.userRoles)
    (hgrants : after.rolePermissions = before.rolePermissions)
    (hlineage : ∀ assignment ∈ before.userRoles.rows, assignment.userId = userId →
      assignment.IsCurrent at_ → ∀ grant ∈ before.rolePermissions.rows,
        (before.permissions.find? grant.permissionId).isSome →
          grant.roleId ∈ lineage after.roles assignment.roleId →
            grant.roleId ∈ lineage before.roles assignment.roleId) :
    NotWidened userId at_ before after where
  permissions := hpermissions
  assignments := fun _ hmem _ _ => huserRoles ▸ hmem
  grants := by
    intro assignment hmem huser hcurrent grant hgrant hreach hpermission
    rw [huserRoles] at hmem
    rw [hgrants] at hgrant
    rw [hpermissions] at hpermission
    exact ⟨hgrant, hlineage assignment hmem huser hcurrent grant hgrant hpermission hreach⟩

/-- Grants of a role that the user's assignments in force do not reach. -/
theorem NotWidened.of_grants (roleId : Uuid) (hpermissions : after.permissions = before.permissions)
    (huserRoles : after.userRoles = before.userRoles) (hroles : after.roles = before.roles)
    (hgrants : ∀ grant ∈ after.rolePermissions.rows, grant ∈ before.rolePermissions.rows ∨
      grant.roleId = roleId ∧ ∀ assignment ∈ before.userRoles.rows, assignment.userId = userId →
        assignment.IsCurrent at_ → roleId ∉ lineage before.roles assignment.roleId) :
    NotWidened userId at_ before after where
  permissions := hpermissions
  assignments := fun _ hmem _ _ => huserRoles ▸ hmem
  grants := by
    intro assignment hmem huser hcurrent grant hgrant hreach _
    rw [huserRoles] at hmem
    rw [hroles] at hreach
    rcases hgrants grant hgrant with hold | ⟨hrole, hnot⟩
    · exact ⟨hold, hreach⟩
    · exact absurd (hrole ▸ hreach) (hnot assignment hmem huser hcurrent)

/-- Assignments of other users, and assignments that are no longer in force. -/
theorem NotWidened.of_assignments (hpermissions : after.permissions = before.permissions)
    (hroles : after.roles = before.roles)
    (hgrants : after.rolePermissions = before.rolePermissions)
    (hassignments : ∀ assignment ∈ after.userRoles.rows, assignment.userId = userId →
      assignment.IsCurrent at_ → assignment ∈ before.userRoles.rows) :
    NotWidened userId at_ before after where
  permissions := hpermissions
  assignments := hassignments
  grants := by
    intro assignment _ _ _ grant hgrant hreach _
    rw [hgrants] at hgrant
    rw [hroles] at hreach
    exact ⟨hgrant, hreach⟩

/-- The lineage shrinks with the active roles and their edges. -/
theorem lineage_subset {roles other : Table Role.id}
    (hactive : ∀ id, (activeRole other id).isSome → (activeRole roles id).isSome)
    (hedge : ∀ id parent, activeParent other id = some parent →
      activeParent roles id = some parent) (id : Uuid) : lineage other id ⊆ lineage roles id := by
  intro ancestor hmem
  obtain ⟨hid, hreach⟩ := mem_lineage_iff.mp hmem
  exact mem_lineage_iff.mpr ⟨hactive id hid, Relation.ReflTransGen.mono hedge _ _ hreach⟩

end Changes

/-! ### The operations on roles -/

section Roles

variable {store : Store} {now at_ : Timestamp} {actor : AuthenticatedUser} {userId : Uuid}

theorem notWidened_softDelete {id : Uuid} {deletedAt : Timestamp} :
    NotWidened userId at_ store (softDelete store id deletedAt) := by
  have hfind : ∀ other, (softDelete store id deletedAt).roles.find? other =
      (store.roles.find? other).map fun row =>
        if row.id = id then { row with deletedAt := some deletedAt } else row :=
    fun other => Store.find?_changeRoles other
  have hactive : ∀ other, (activeRole (softDelete store id deletedAt).roles other).isSome →
      (activeRole store.roles other).isSome := by
    intro other hother
    rw [isSome_activeRole_iff, hfind] at hother
    rw [isSome_activeRole_iff]
    cases hfound : store.roles.find? other with
    | none =>
      rw [hfound] at hother
      cases hother
    | some row =>
      rw [hfound] at hother
      by_cases hid : row.id = id
      · simp [hid] at hother
      · simpa [hid] using hother
  refine NotWidened.of_roles rfl rfl rfl fun assignment _ _ _ grant _ _ hreach => ?_
  refine lineage_subset hactive (fun other parent hedge => ?_) _ hreach
  obtain ⟨hother, hparent, hlive⟩ := activeParent_eq_some_iff.mp hedge
  refine activeParent_eq_some_iff.mpr ⟨hactive other hother, ?_, hactive parent hlive⟩
  rw [hfind] at hparent
  rw [← hparent, Option.map_map]
  congr 1
  funext row
  dsimp only [Function.comp_apply]
  split <;> rfl

/-- A new role is in nobody's lineage. -/
theorem lineage_insertRole {after : Store} {new : Role} (h : insertRole store new = .ok after)
    {assignment : UserRole} (hmem : assignment ∈ store.userRoles.rows) :
    lineage after.roles assignment.roleId ⊆ lineage store.roles assignment.roleId ∧
      new.id ∉ lineage store.roles assignment.roleId := by
  obtain ⟨_, _, roles, hlisted, hkept, hinsert, rfl⟩ := insertRole_eq_ok h
  have hnone := (Table.insert_eq_some hinsert).1
  have hfind := Table.find?_insert hinsert
  have hnew : ¬(activeRole store.roles new.id).isSome := by
    rw [isSome_activeRole_iff, hnone]
    exact fun hno => nomatch hno
  have hnot : new.id ∉ lineage store.roles assignment.roleId := by
    intro hin
    obtain ⟨hactive, hreach⟩ := mem_lineage_iff.mp hin
    exact hnew (isSome_of_reaches hactive hreach)
  have hold : ∀ id, (store.roles.find? id).isSome → roles.find? id = store.roles.find? id := by
    intro id hid
    rw [hfind, if_neg]
    rintro rfl
    rw [hnone] at hid
    cases hid
  refine ⟨fun ancestor hin => ?_, hnot⟩
  obtain ⟨hactive, hreach⟩ := mem_lineage_iff.mp hin
  have hlive : (activeRole store.roles assignment.roleId).isSome := by
    rw [isSome_activeRole_iff] at hactive ⊢
    exact hold _ (store.held_listed assignment hmem) ▸ hactive
  -- every edge that does not start at the new role was there
  have hedge : ∀ id parent, activeParent roles id = some parent →
      activeParent store.roles id = some parent ∨ id = new.id := by
    intro id parent hedge
    by_cases hid : id = new.id
    · exact Or.inr hid
    · obtain ⟨hother, hparent, hliveParent⟩ := activeParent_eq_some_iff.mp hedge
      have hsame : roles.find? id = store.roles.find? id := by
        rw [hfind, if_neg fun he => hid he.symm]
      rw [hsame] at hparent
      obtain ⟨row, hrow, hrowParent⟩ := Option.map_eq_some_iff.mp hparent
      have hlistedParent := store.roles_listed id row hrow parent (Or.inl hrowParent)
      refine Or.inl (activeParent_eq_some_iff.mpr ⟨?_, hparent, ?_⟩)
      · rw [isSome_activeRole_iff] at hother ⊢
        exact hsame ▸ hother
      · rw [isSome_activeRole_iff] at hliveParent ⊢
        exact hold parent hlistedParent ▸ hliveParent
  rcases hreach.before_or_checked hedge with hbefore | ⟨id, rfl, hmeet, _, _⟩
  · exact mem_lineage_iff.mpr ⟨hlive, hbefore⟩
  · exact absurd (mem_lineage_iff.mpr ⟨hlive, hmeet⟩) hnot

/-- What a replacement of grants writes: only grants of its role, of permissions that the
role did not have. -/
theorem replacePermissionsStatement_eq_ok {after : Store} {roleId : Uuid}
    {permissionIds : List Uuid}
    (h : replacePermissionsStatement roleId permissionIds store = .ok after) :
    ∃ rolePermissions, after = { store with rolePermissions := rolePermissions } ∧
      ∀ grant ∈ rolePermissions.rows, grant ∈ store.rolePermissions.rows ∨
        grant.roleId = roleId ∧ grant.permissionId ∈ permissionIds ∧
          (store.rolePermissions.find? (roleId, grant.permissionId)).isNone := by
  unfold replacePermissionsStatement at h
  dsimp only at h
  split at h
  · cases h
  split at h
  · cases h
  next rolePermissions hinsert =>
    cases h
    refine ⟨rolePermissions, rfl, fun grant hgrant => ?_⟩
    rw [Table.insertAll_eq_some_iff.mp hinsert] at hgrant
    rcases List.mem_append.mp hgrant with hkept | hadded
    · exact Or.inl (List.mem_of_mem_filter hkept)
    · obtain ⟨permissionId, hmem, rfl⟩ := List.mem_map.mp hadded
      obtain ⟨hmem, hmissing⟩ := List.mem_filter.mp hmem
      exact Or.inr ⟨rfl, List.mem_dedup.mp hmem, hmissing⟩

theorem notWidened_create {newId : Uuid} {dto : CreateRoleDto} :
    NotWidened userId at_ store (perform (create store now actor newId dto) store) := by
  cases hdecided : create store now actor newId dto with
  | error error => exact NotWidened.refl _ _ _
  | ok statements =>
    obtain ⟨role, rest, rfl, hid, _, hrest⟩ := create_eq_ok hdecided
    show NotWidened userId at_ store (runUntilRefused ((insertRole · role) :: rest) store)
    rw [runUntilRefused]
    cases hinsert : insertRole store role with
    | error error => exact NotWidened.refl _ _ _
    | ok middle =>
      obtain ⟨_, _, roles, hlisted, hkept, _, rfl⟩ := insertRole_eq_ok hinsert
      have hmiddle : NotWidened userId at_ store (store.withRoles roles hlisted hkept) :=
        NotWidened.of_roles rfl rfl rfl fun assignment hmem _ _ grant _ _ hreach =>
          (lineage_insertRole hinsert hmem).1 hreach
      have hunreached : ∀ assignment ∈ store.userRoles.rows,
          newId ∉ lineage roles assignment.roleId := by
        intro assignment hmem hin
        have hnot := (lineage_insertRole hinsert hmem).2
        exact (hid ▸ hnot) ((lineage_insertRole hinsert hmem).1 hin)
      dsimp only
      -- the grants of the new role reach nobody
      let kept : Store → Prop := fun after =>
        NotWidened userId at_ (store.withRoles roles hlisted hkept) after ∧
          after.roles = roles ∧ after.userRoles = store.userRoles
      have hrun : kept (runUntilRefused rest (store.withRoles roles hlisted hkept)) := by
        refine runUntilRefused_invariant kept ⟨NotWidened.refl _ _ _, rfl, rfl⟩ ?_
        intro statement hmem before after hbefore hstep
        obtain ⟨permissionIds, rfl⟩ := hrest statement hmem
        obtain ⟨rolePermissions, rfl, hgrants⟩ := replacePermissionsStatement_eq_ok hstep
        obtain ⟨hbefore, hroles, huserRoles⟩ := hbefore
        refine ⟨hbefore.trans (NotWidened.of_grants newId rfl rfl rfl ?_), hroles, huserRoles⟩
        intro grant hgrant
        rcases hgrants grant hgrant with hold | ⟨hrole, _⟩
        · exact Or.inl hold
        · refine Or.inr ⟨hrole, fun assignment hassignment _ _ => ?_⟩
          rw [hroles]
          rw [huserRoles] at hassignment
          exact hunreached assignment hassignment
      exact hmiddle.trans hrun.1

/-- An update of one role touches the roles alone. -/
theorem updateRoles_frame {after : Store} {id : Uuid} {record : UpdateRoleRecord}
    (h : updateRoles store [(id, record)] = .ok after) :
    after.permissions = store.permissions ∧ after.rolePermissions = store.rolePermissions ∧
      after.userRoles = store.userRoles ∧
        RowsWritten store after fun other => other = id ∧ record.parentRoleId.isSome := by
  obtain ⟨written, hfold, hcheck⟩ := bind_eq_ok h
  split at hcheck
  · cases hcheck
  cases hcheck
  rw [List.foldlM_cons] at hfold
  obtain ⟨next, hset, hnext⟩ := bind_eq_ok hfold
  cases hnext
  have hrows : RowsWritten store after fun other => other = id ∧ record.parentRoleId.isSome :=
    rowsWritten_setRole (fun hparent => ⟨rfl, hparent⟩) hset
  rcases setRole_eq_ok hset with ⟨_, rfl⟩ | ⟨role, hlisted, _, rfl⟩
  · exact ⟨rfl, rfl, rfl, hrows⟩
  · exact ⟨rfl, rfl, rfl, hrows⟩

/-- The edges after an update of one role: those before, and the one that it sets. -/
theorem activeParent_updateRoles {after : Store} {id : Uuid} {record : UpdateRoleRecord}
    (h : updateRoles store [(id, record)] = .ok after) :
    (∀ other, (activeRole after.roles other).isSome → (activeRole store.roles other).isSome) ∧
      ∀ other parent, activeParent after.roles other = some parent →
        activeParent store.roles other = some parent ∨
          other = id ∧ record.parentRoleId = some (some parent) := by
  obtain ⟨_, _, _, hrows⟩ := updateRoles_frame h
  have hactive : ∀ other, (activeRole after.roles other).isSome →
      (activeRole store.roles other).isSome := by
    intro other hother
    rw [isSome_activeRole_iff] at hother ⊢
    exact hrows.deletedAt other ▸ hother
  refine ⟨hactive, fun other parent hedge => ?_⟩
  obtain ⟨hother, hparent, hlive⟩ := activeParent_eq_some_iff.mp hedge
  by_cases hchanged : other = id ∧ record.parentRoleId.isSome
  · refine Or.inr ⟨hchanged.1, ?_⟩
    obtain ⟨set, hset⟩ := Option.isSome_iff_exists.mp hchanged.2
    rw [find?_updateRoles h] at hparent
    cases hfound : store.roles.find? other with
    | none =>
      rw [hfound] at hparent
      cases hparent
    | some row =>
      have hkey : row.id = other := Table.key_of_find? hfound
      rw [hfound, Option.map_some, Option.map_some, if_pos (hkey.trans hchanged.1)] at hparent
      have hvalue : set = some parent := by
        simpa [UpdateRoleRecord.apply, hset] using hparent
      rw [hset, hvalue]
  · have hcolumn := hrows.parentRoleId other hchanged
    exact Or.inl (activeParent_eq_some_iff.mpr
      ⟨hactive other hother, hcolumn ▸ hparent, hactive parent hlive⟩)

/-- An update that gives no parent widens nothing. -/
theorem notWidened_noParent {after : Store} {id : Uuid} {record : UpdateRoleRecord}
    (hset : ∀ parent, record.parentRoleId ≠ some (some parent))
    (h : updateRoles store [(id, record)] = .ok after) : NotWidened userId at_ store after := by
  obtain ⟨hpermissions, hgrants, huserRoles, _⟩ := updateRoles_frame h
  obtain ⟨hactive, hedge⟩ := activeParent_updateRoles h
  refine NotWidened.of_roles hpermissions huserRoles hgrants fun assignment _ _ _ grant _ _ hin => ?_
  refine lineage_subset hactive (fun other parent hafter => ?_) _ hin
  rcases hedge other parent hafter with hold | ⟨_, hnew⟩
  · exact hold
  · exact absurd hnew (hset parent)

/-- What the caller's own assignments in force reach, the policy sees. -/
theorem reaches_of_current {assignment : UserRole} {roleId : Uuid} (hnow : now ≤ at_)
    (hmem : assignment ∈ store.userRoles.rows) (huser : assignment.userId = actor.id)
    (hcurrent : assignment.IsCurrent at_) (hin : roleId ∈ lineage store.roles assignment.roleId) :
    findHolderScopesReachingRole store now actor.id roleId ≠ [] := by
  have hvalid : ∀ validUntil ∈ assignment.validUntil, now < validUntil :=
    fun validUntil hvalidUntil => lt_of_le_of_lt hnow (hcurrent.2.2 validUntil hvalidUntil)
  have hpicked : assignment ∈ store.userRoles.rows.filter fun assignment =>
      assignment.userId = actor.id ∧ assignment.revokedAt = none ∧
        (∀ validUntil ∈ assignment.validUntil, now < validUntil) ∧
          roleId ∈ lineage store.roles assignment.roleId :=
    List.mem_filter.mpr ⟨hmem, decide_eq_true ⟨huser, hcurrent.1, hvalid, hin⟩⟩
  exact List.ne_nil_of_mem (List.mem_map_of_mem hpicked)

/-- The policy lets through no permission for a role that the caller reaches. -/
theorem assertDoesNotWidenOwn_eq_ok {roleId : Uuid} {permissions : List Permission} (hnow : now ≤ at_)
    (h : assertDoesNotWidenOwn store now actor roleId permissions = .ok ()) :
    permissions = [] ∨ ∀ assignment ∈ store.userRoles.rows, assignment.userId = actor.id →
      assignment.IsCurrent at_ → roleId ∉ lineage store.roles assignment.roleId := by
  unfold assertDoesNotWidenOwn at h
  split at h
  · next hnone => exact Or.inl hnone
  split at h
  · cases h
  next hscopes =>
    refine Or.inr fun assignment hmem huser hcurrent hin => ?_
    exact hscopes (reaches_of_current hnow hmem huser hcurrent hin)

/-- A grant in the lineage of a parent is among what would be inherited. -/
theorem mem_inherited {parent : Role} (hparent : (activeRole store.roles parent.id).isSome)
    {grant : RolePermission} (hgrant : grant ∈ store.rolePermissions.rows)
    (hpermission : (store.permissions.find? grant.permissionId).isSome)
    (hreach : Reaches (activeParent store.roles) parent.id grant.roleId) :
    findPermissionsForRoles store ((findLineage store parent.id).map Role.id) ≠ [] := by
  obtain ⟨permission, hfound⟩ := Option.isSome_iff_exists.mp hpermission
  obtain ⟨role, hrole⟩ := Option.isSome_iff_exists.mp (isSome_of_reaches hparent hreach)
  obtain ⟨hmem, hlive, hid⟩ := mem_of_activeRole_eq hrole
  have hin : grant.roleId ∈ lineage store.roles parent.id :=
    mem_lineage_iff.mpr ⟨hparent, hreach⟩
  have hlisted : grant.roleId ∈ (findLineage store parent.id).map Role.id := by
    rw [← hid]
    refine List.mem_map_of_mem (List.mem_filter.mpr ⟨hmem, ?_⟩)
    exact decide_eq_true ⟨hid ▸ hin, hlive⟩
  have hmemPermission : permission ∈
      findPermissionsForRoles store ((findLineage store parent.id).map Role.id) := by
    unfold findPermissionsForRoles
    rw [List.mem_dedup, List.mem_filterMap]
    exact ⟨grant, List.mem_filter.mpr ⟨hgrant, decide_eq_true hlisted⟩, hfound⟩
  exact List.ne_nil_of_mem hmemPermission

/-- The statement that gives a role a parent widens nothing of the caller's: the parent's
lineage grants nothing, or the caller does not reach the role. -/
theorem notWidened_parent {after : Store} {role parent : Role} {record : UpdateRoleRecord}
    (hnow : now ≤ at_) (hparent : (activeRole store.roles parent.id).isSome)
    (hset : record.parentRoleId = some (some parent.id))
    (hpolicy : assertDoesNotWidenOwn store now actor role.id
      (findPermissionsForRoles store ((findLineage store parent.id).map Role.id)) = .ok ())
    (h : updateRoles store [(role.id, record)] = .ok after) :
    NotWidened actor.id at_ store after := by
  obtain ⟨hpermissions, hgrants, huserRoles, _⟩ := updateRoles_frame h
  obtain ⟨hactive, hnew⟩ := activeParent_updateRoles h
  have hedge : ∀ id other, activeParent after.roles id = some other →
      activeParent store.roles id = some other ∨ id = role.id ∧ other = parent.id := by
    intro id other hafter
    rcases hnew id other hafter with hold | ⟨hid, hvalue⟩
    · exact Or.inl hold
    · rw [hset] at hvalue
      exact Or.inr ⟨hid, (Option.some.inj (Option.some.inj hvalue)).symm⟩
  refine NotWidened.of_roles hpermissions huserRoles hgrants ?_
  intro assignment hmem huser hcurrent grant hgrant hpermission hin
  obtain ⟨hlive, hreach⟩ := mem_lineage_iff.mp hin
  rcases hreach.before_or_joined hedge with hbefore | ⟨hmeet, hrest⟩
  · exact mem_lineage_iff.mpr ⟨hactive _ hlive, hbefore⟩
  · rcases assertDoesNotWidenOwn_eq_ok hnow hpolicy with hnone | hunreached
    · exact absurd hnone (mem_inherited hparent hgrant hpermission hrest)
    · exact absurd (mem_lineage_iff.mpr ⟨hactive _ hlive, hmeet⟩)
        (hunreached assignment hmem huser hcurrent)

/-- The parent an update gives: none, or an active role whose inheritance the policy lets
through. -/
theorem updatedParent_eq_ok {role : Role} {asked : Option String} {parentRoleId : Option Uuid}
    (h : updatedParent store now actor role asked = .ok parentRoleId) :
    parentRoleId = none ∨ ∃ parent : Role, parentRoleId = some parent.id ∧
      (activeRole store.roles parent.id).isSome ∧
      assertDoesNotWidenOwn store now actor role.id
        (findPermissionsForRoles store ((findLineage store parent.id).map Role.id)) = .ok () := by
  obtain ⟨_, h⟩ := check_eq_ok h
  cases asked with
  | none =>
    cases h
    exact Or.inl rfl
  | some asked =>
    obtain ⟨parent, hparent, h⟩ := bind_eq_ok h
    obtain ⟨_, hinherit, h⟩ := bind_eq_ok h
    cases h
    obtain ⟨_, _, hinherit⟩ := bind_eq_ok hinherit
    obtain ⟨_, _, hinherit⟩ := bind_eq_ok hinherit
    obtain ⟨_, hinherit⟩ := check_eq_ok hinherit
    obtain ⟨_, _, hinherit⟩ := bind_eq_ok hinherit
    have hactive := requireRole_eq_ok hparent
    have hid := (mem_of_activeRole_eq hactive).2.2
    exact Or.inr ⟨parent, rfl, by rw [hid, hactive]; rfl, hinherit⟩

/-- The levels below a role have no part in what is granted. -/
theorem notWidened_levels {levels : List (Uuid × ℤ)} :
    NotWidened userId at_ store (runUntilRefused
      (levels.map fun child => (updateRoles · [(child.1, levelSet child.2)])) store) := by
  refine runUntilRefused_invariant (NotWidened userId at_ store) (NotWidened.refl _ _ _) ?_
  intro statement hmem before after hbefore hstep
  obtain ⟨child, _, rfl⟩ := List.mem_map.mp hmem
  exact hbefore.trans (notWidened_noParent (fun parent hset => by cases hset) hstep)

theorem notWidened_update {id : String} {dto : UpdateRoleDto} (hnow : now ≤ at_) :
    NotWidened actor.id at_ store (perform (update store now actor id dto) store) := by
  cases hdecided : update store now actor id dto with
  | error error => exact NotWidened.refl _ _ _
  | ok statements =>
    obtain ⟨role, parentRoleId, place, _, _, hparent, _, rfl⟩ := update_eq_ok hdecided
    show NotWidened actor.id at_ store (runUntilRefused _ store)
    split
    · exact notWidened_levels
    · rw [List.singleton_append, runUntilRefused]
      cases hfirst : updateRoles store [(role.id, updateChanges dto parentRoleId place)] with
      | error error => exact NotWidened.refl _ _ _
      | ok middle =>
        have hmiddle : NotWidened actor.id at_ store middle := by
          rcases mapM_eq_ok hparent with ⟨_, rfl⟩ | ⟨asked, result, _, hresult, rfl⟩
          · exact notWidened_noParent (fun parent hset => by cases hset) hfirst
          · rcases updatedParent_eq_ok hresult with rfl | ⟨parent, rfl, hactive, hpolicy⟩
            · exact notWidened_noParent (fun parent hset => by cases hset) hfirst
            · exact notWidened_parent hnow hactive rfl hpolicy hfirst
        exact hmiddle.trans notWidened_levels

theorem notWidened_remove {id : String} :
    NotWidened userId at_ store (perform (remove store now actor id) store) := by
  cases hdecided : remove store now actor id with
  | error error => exact NotWidened.refl _ _ _
  | ok statements =>
    obtain ⟨role, _, hdecided⟩ := bind_eq_ok hdecided
    obtain ⟨_, _, hdecided⟩ := bind_eq_ok hdecided
    obtain ⟨_, hdecided⟩ := check_eq_ok hdecided
    obtain ⟨_, hdecided⟩ := check_eq_ok hdecided
    obtain ⟨_, hdecided⟩ := check_eq_ok hdecided
    cases hdecided
    exact notWidened_softDelete

/-- Grants to one role, of permissions the policy lets through, one statement after another. -/
theorem notWidened_assignPermissions {roleId : String} {permissionIds : List String}
    (hnow : now ≤ at_) : NotWidened actor.id at_ store
      (perform (assignPermissions store now actor roleId permissionIds) store) := by
  cases hdecided : assignPermissions store now actor roleId permissionIds with
  | error error => exact NotWidened.refl _ _ _
  | ok statements =>
    obtain ⟨role, _, hdecided⟩ := bind_eq_ok hdecided
    obtain ⟨_, _, hdecided⟩ := bind_eq_ok hdecided
    obtain ⟨requested, _, hdecided⟩ := bind_eq_ok hdecided
    obtain ⟨_, _, hdecided⟩ := bind_eq_ok hdecided
    obtain ⟨_, hpolicy, hdecided⟩ := bind_eq_ok hdecided
    cases hdecided
    show NotWidened actor.id at_ store (runUntilRefused _ store)
    rcases assertDoesNotWidenOwn_eq_ok hnow hpolicy with hnone | hunreached
    · rw [hnone]
      exact NotWidened.refl _ _ _
    · let kept : Store → Prop := fun after => NotWidened actor.id at_ store after ∧
        after.roles = store.roles ∧ after.userRoles = store.userRoles
      have hrun : kept (runUntilRefused ((addedPermissions store role.id requested).map
          fun permission => assignPermission role.id permission.id) store) := by
        refine runUntilRefused_invariant kept ⟨NotWidened.refl _ _ _, rfl, rfl⟩ ?_
        intro statement hmem before after hbefore hstep
        obtain ⟨permission, _, rfl⟩ := List.mem_map.mp hmem
        obtain ⟨hbefore, hroles, huserRoles⟩ := hbefore
        unfold assignPermission at hstep
        split at hstep
        · cases hstep
          exact ⟨hbefore, hroles, huserRoles⟩
        split at hstep
        · cases hstep
        split at hstep
        · cases hstep
        next rolePermissions hinsert =>
          cases hstep
          refine ⟨hbefore.trans (NotWidened.of_grants role.id rfl rfl rfl ?_), hroles, huserRoles⟩
          intro grant hgrant
          rcases (Table.mem_insert hinsert).mp hgrant with hold | rfl
          · exact Or.inl hold
          · refine Or.inr ⟨rfl, fun assignment hassignment huser hcurrent => ?_⟩
            rw [hroles]
            rw [huserRoles] at hassignment
            exact hunreached assignment hassignment huser hcurrent
      exact hrun.1

/-- A permission that is not added has its grant already. -/
theorem find?_of_not_added {roleId : Uuid} {permissions : List Permission}
    (hnone : addedPermissions store roleId permissions = []) {permissionId : Uuid}
    (hmem : permissionId ∈ permissions.map Permission.id) :
    (store.rolePermissions.find? (roleId, permissionId)).isSome := by
  obtain ⟨permission, hpermission, rfl⟩ := List.mem_map.mp hmem
  have hkept : permission.id ∈ (findPermissionsForRole store roleId).map Permission.id := by
    by_contra hno
    have hadded : permission ∈ addedPermissions store roleId permissions :=
      List.mem_filter.mpr ⟨hpermission, decide_eq_true hno⟩
    rw [hnone] at hadded
    cases hadded
  obtain ⟨granted, hgranted, hsame⟩ := List.mem_map.mp hkept
  obtain ⟨grant, hgrant, hfound⟩ := List.mem_filterMap.mp hgranted
  obtain ⟨hrow, hrole⟩ := List.mem_filter.mp hgrant
  have hkey : grant.key = (roleId, permission.id) := by
    have hid : granted.id = grant.permissionId := Table.key_of_find? hfound
    unfold RolePermission.key
    rw [of_decide_eq_true hrole, ← hid, hsame]
  rw [← hkey, Table.find?_of_mem hrow]
  rfl

theorem notWidened_replacePermissions {roleId : String} {permissionIds : List String}
    (hnow : now ≤ at_) : NotWidened actor.id at_ store
      (perform (replacePermissions store now actor roleId permissionIds) store) := by
  cases hdecided : replacePermissions store now actor roleId permissionIds with
  | error error => exact NotWidened.refl _ _ _
  | ok statements =>
    obtain ⟨role, _, hdecided⟩ := bind_eq_ok hdecided
    obtain ⟨_, _, hdecided⟩ := bind_eq_ok hdecided
    obtain ⟨permissions, _, hdecided⟩ := bind_eq_ok hdecided
    obtain ⟨_, _, hdecided⟩ := bind_eq_ok hdecided
    obtain ⟨_, hpolicy, hdecided⟩ := bind_eq_ok hdecided
    cases hdecided
    show NotWidened actor.id at_ store (runUntilRefused
      [replacePermissionsStatement role.id (permissions.map Permission.id)] store)
    rw [runUntilRefused]
    cases hstep : replacePermissionsStatement role.id (permissions.map Permission.id) store with
    | error error => exact NotWidened.refl _ _ _
    | ok after =>
      obtain ⟨rolePermissions, rfl, hgrants⟩ := replacePermissionsStatement_eq_ok hstep
      refine NotWidened.of_grants role.id rfl rfl rfl fun grant hgrant => ?_
      rcases hgrants grant hgrant with hold | ⟨hrole, hpermission, hmissing⟩
      · exact Or.inl hold
      · rcases assertDoesNotWidenOwn_eq_ok hnow hpolicy with hnone | hunreached
        · have hfound := find?_of_not_added hnone hpermission
          rw [Option.isNone_iff_eq_none] at hmissing
          rw [hmissing] at hfound
          cases hfound
        · exact Or.inr ⟨hrole, hunreached⟩

theorem notWidened_removePermission {roleId permissionId : String} :
    NotWidened userId at_ store
      (perform (removePermission store now actor roleId permissionId) store) := by
  cases hdecided : removePermission store now actor roleId permissionId with
  | error error => exact NotWidened.refl _ _ _
  | ok statements =>
    obtain ⟨role, _, hdecided⟩ := bind_eq_ok hdecided
    obtain ⟨_, _, hdecided⟩ := bind_eq_ok hdecided
    cases hdecided
    have hgrants : ∀ grant ∈ (store.rolePermissions.filter fun grant =>
        ¬(grant.roleId = role.id ∧ grant.permissionId = asUuid permissionId)).rows,
        grant ∈ store.rolePermissions.rows :=
      fun grant hgrant => List.mem_of_mem_filter hgrant
    exact ⟨rfl, fun _ hmem _ _ => hmem, fun _ _ _ _ grant hgrant hin _ => ⟨hgrants grant hgrant, hin⟩⟩

end Roles

/-! ### The operations on users -/

section Users

variable {store after : Store} {now at_ : Timestamp} {actor : AuthenticatedUser} {userId : Uuid}

/-- An assignment of another user changes nothing of this one's. -/
theorem notWidened_insertUserRoleWithinLimit {record : UserRole} {limit : Option ℕ}
    (hother : record.userId ≠ userId)
    (h : insertUserRoleWithinLimit now record limit store = .ok after) :
    NotWidened userId at_ store after := by
  unfold insertUserRoleWithinLimit at h
  dsimp only at h
  split at h
  · cases h
  obtain ⟨_, userRoles, hlisted, hinsert, rfl⟩ := insertUserRole_eq_ok h
  refine NotWidened.of_assignments rfl rfl rfl fun assignment hmem huser _ => ?_
  rcases (Table.mem_insert hinsert).mp hmem with hold | rfl
  · exact hold
  · exact absurd huser hother

theorem notWidened_revoke {picked : UserRole → Prop} [DecidablePred picked] {revokedAt : Timestamp} :
    NotWidened userId at_ store (store.revoke picked revokedAt) := by
  refine NotWidened.of_assignments rfl rfl rfl fun assignment hmem _ hcurrent => ?_
  obtain ⟨old, hold, rfl⟩ := List.mem_map.mp hmem
  split
  · next hpicked =>
    rw [if_pos hpicked] at hcurrent
    exact nomatch hcurrent.1
  · exact hold

theorem notWidened_revokeDelegations {revokedAt : Timestamp} {n : ℕ} {frontier : List UserRole} :
    NotWidened userId at_ store (revokeDelegations revokedAt n frontier store) := by
  induction n generalizing frontier store with
  | zero => exact NotWidened.refl _ _ _
  | succ n ih =>
    cases frontier with
    | nil => exact NotWidened.refl _ _ _
    | cons source rest => exact notWidened_revoke.trans ih

/-- The statement of an assignment, alone, for a user who is not the caller. -/
theorem notWidened_assigned (now : Timestamp) {decided : Except ErrorCode (List Statement)}
    (h : ∀ statements, decided = .ok statements → ∃ record limit,
      record.userId ≠ userId ∧ statements = [insertUserRoleWithinLimit now record limit]) :
    NotWidened userId at_ store (perform decided store) := by
  refine perform_invariant (NotWidened userId at_ store) (NotWidened.refl _ _ _) ?_
  intro statements hdecided statement hmem before after hbefore hstep
  obtain ⟨record, limit, hother, rfl⟩ := h statements hdecided
  rw [List.mem_singleton.mp hmem] at hstep
  exact hbefore.trans (notWidened_insertUserRoleWithinLimit hother hstep)

theorem notWidened_assignRole {newId : Uuid} {id : String} {dto : AssignUserRoleDto}
    (hspelled : asUuid id = actor.id → id = actor.id) : NotWidened actor.id at_ store
      (perform (assignRole store now actor newId id dto) store) := by
  refine notWidened_assigned now fun statements hdecided => ?_
  obtain ⟨hself, hdecided⟩ := check_eq_ok hdecided
  obtain ⟨user, _, hdecided⟩ := bind_eq_ok hdecided
  obtain ⟨role, _, hdecided⟩ := bind_eq_ok hdecided
  obtain ⟨_, _, hdecided⟩ := bind_eq_ok hdecided
  obtain ⟨_, hdecided⟩ := check_eq_ok hdecided
  cases hdecided
  exact ⟨_, _, fun hid => hself (hspelled hid), rfl⟩

theorem requireUser_eq_ok {id : String} {user : AppUser} (h : requireUser store id = .ok user) :
    user.id = asUuid id := by
  unfold requireUser at h
  split at h
  · cases h
  · next hfound =>
    cases h
    exact Table.key_of_find? hfound

theorem notWidened_delegateRole {newId : Uuid} {id userRoleId : String} {dto : DelegateUserRoleDto}
    (hspelled : asUuid dto.toUserId = actor.id → dto.toUserId = actor.id) :
    NotWidened actor.id at_ store
      (perform (delegateRole store now actor newId id userRoleId dto) store) := by
  refine notWidened_assigned now fun statements hdecided => ?_
  obtain ⟨hself, hdecided⟩ := check_eq_ok hdecided
  split at hdecided
  · cases hdecided
  obtain ⟨holder, _, hdecided⟩ := bind_eq_ok hdecided
  obtain ⟨_, hdecided⟩ := check_eq_ok hdecided
  obtain ⟨target, htarget, hdecided⟩ := bind_eq_ok hdecided
  obtain ⟨assignment, _, hdecided⟩ := bind_eq_ok hdecided
  obtain ⟨_, hdecided⟩ := check_eq_ok hdecided
  obtain ⟨_, hdecided⟩ := check_eq_ok hdecided
  obtain ⟨role, _, hdecided⟩ := bind_eq_ok hdecided
  cases hdecided
  refine ⟨_, _, fun hid => hself (hspelled ?_), rfl⟩
  exact (requireUser_eq_ok htarget).symm.trans hid

theorem notWidened_revokeRole {id userRoleId : String} : NotWidened userId at_ store
    (perform (revokeRole store now actor id userRoleId) store) := by
  refine perform_invariant (NotWidened userId at_ store) (NotWidened.refl _ _ _) ?_
  intro statements hdecided statement hmem before after hbefore hstep
  obtain ⟨_, _, hdecided⟩ := bind_eq_ok hdecided
  split at hdecided
  · cases hdecided
  obtain ⟨_, hdecided⟩ := check_eq_ok hdecided
  obtain ⟨_, hdecided⟩ := check_eq_ok hdecided
  obtain ⟨_, _, hdecided⟩ := bind_eq_ok hdecided
  cases hdecided
  rw [List.mem_singleton.mp hmem] at hstep
  cases hstep
  exact hbefore.trans (notWidened_revoke.trans notWidened_revokeDelegations)

/-- The new user is not the caller, whose row is there. -/
theorem notWidened_createUser {personId newUserId newId : Uuid} {dto : CreateUserDto}
    (hactor : (store.users.find? actor.id).isSome) : NotWidened actor.id at_ store
      (perform (createUser store now actor personId newUserId newId dto) store) := by
  cases hdecided : createUser store now actor personId newUserId newId dto with
  | error error => exact NotWidened.refl _ _ _
  | ok statements =>
    obtain ⟨_, hdecided⟩ := check_eq_ok hdecided
    obtain ⟨_, hdecided⟩ := check_eq_ok hdecided
    obtain ⟨affiliation, _, hdecided⟩ := bind_eq_ok hdecided
    obtain ⟨role, _, hdecided⟩ := bind_eq_ok hdecided
    cases hdecided
    show NotWidened actor.id at_ store (runUntilRefused [_, _, _] store)
    rw [runUntilRefused]
    cases hperson : insertPerson ⟨personId, dto.email, affiliation.1, affiliation.2⟩ store with
    | error error => exact NotWidened.refl _ _ _
    | ok withPerson =>
      have hfirst : NotWidened actor.id at_ store withPerson ∧ withPerson.users = store.users := by
        unfold insertPerson at hperson
        split at hperson
        · cases hperson
        · cases hperson
          exact ⟨NotWidened.of_assignments rfl rfl rfl fun _ hmem _ _ => hmem, rfl⟩
      dsimp only
      rw [runUntilRefused]
      cases huser : insertUser ⟨newUserId, personId, dto.username.getD dto.email⟩ withPerson with
      | error error => exact hfirst.1
      | ok withUser =>
        have hsecond : NotWidened actor.id at_ withPerson withUser ∧ newUserId ≠ actor.id := by
          unfold insertUser at huser
          split at huser
          · cases huser
          split at huser
          · cases huser
          next users hinsert =>
            cases huser
            refine ⟨NotWidened.of_assignments rfl rfl rfl fun _ hmem _ _ => hmem, ?_⟩
            rintro rfl
            have hnone := (Table.insert_eq_some hinsert).1
            rw [← hfirst.2, hnone] at hactor
            cases hactor
        dsimp only
        rw [runUntilRefused]
        split
        · next after hafter =>
          exact (hfirst.1.trans hsecond.1).trans
            (notWidened_insertUserRoleWithinLimit hsecond.2 hafter)
        · exact hfirst.1.trans hsecond.1

end Users

/-! ### The requests -/

/-- The operations on roles and users that a caller may ask for. -/
inductive RbacCall where
  | createRole (newId : Uuid) (dto : CreateRoleDto)
  | updateRole (id : String) (dto : UpdateRoleDto)
  | removeRole (id : String)
  | assignPermissions (roleId : String) (permissionIds : List String)
  | replacePermissions (roleId : String) (permissionIds : List String)
  | removePermission (roleId permissionId : String)
  | assignRole (newId : Uuid) (userId : String) (dto : AssignUserRoleDto)
  | delegateRole (newId : Uuid) (userId userRoleId : String) (dto : DelegateUserRoleDto)
  | revokeRole (userId userRoleId : String)
  | createUser (personId newUserId newId : Uuid) (dto : CreateUserDto)

/-- The permission that the route of an operation requires. -/
def RbacCall.requiredPermission : RbacCall → String
  | .createRole _ _ => "role:create:global"
  | .updateRole _ _ | .removeRole _ | .assignPermissions _ _ | .replacePermissions _ _
  | .removePermission _ _ => "role:manage:global"
  | .assignRole _ _ _ | .delegateRole _ _ _ _ | .revokeRole _ _ => "role:assign:global"
  | .createUser _ _ _ _ => "user:manage:global"

structure RbacRequest where
  actor : AuthenticatedUser
  now : Timestamp
  call : RbacCall

/-- What a request decides: the caller has a session, the permission of the route, and what
the operation asks of it. -/
def RbacRequest.decided (request : RbacRequest) (store : Store) :
    Except ErrorCode (List Statement) :=
  if (store.users.find? request.actor.id).isNone then .error .unauthorized
  else if request.call.requiredPermission ∉ request.actor.permissionCodes then
    .error .insufficientPermissions
  else
    match request.call with
    | .createRole newId dto => create store request.now request.actor newId dto
    | .updateRole id dto => update store request.now request.actor id dto
    | .removeRole id => remove store request.now request.actor id
    | .assignPermissions roleId permissionIds =>
      assignPermissions store request.now request.actor roleId permissionIds
    | .replacePermissions roleId permissionIds =>
      replacePermissions store request.now request.actor roleId permissionIds
    | .removePermission roleId permissionId =>
      removePermission store request.now request.actor roleId permissionId
    | .assignRole newId userId dto => assignRole store request.now request.actor newId userId dto
    | .delegateRole newId userId userRoleId dto =>
      delegateRole store request.now request.actor newId userId userRoleId dto
    | .revokeRole userId userRoleId => revokeRole store request.now request.actor userId userRoleId
    | .createUser personId newUserId newId dto =>
      createUser store request.now request.actor personId newUserId newId dto

def RbacRequest.run (request : RbacRequest) (store : Store) : Store :=
  perform (request.decided store) store

/-- Requests in order, each one refused or not. -/
def runRequests (requests : List RbacRequest) (store : Store) : Store :=
  requests.foldl (fun store request => request.run store) store

/-- A request that would give the caller a role spells the caller's id as the database does. -/
def RbacRequest.SpelledAsStored (request : RbacRequest) : Prop :=
  match request.call with
  | .assignRole _ userId _ => asUuid userId = request.actor.id → userId = request.actor.id
  | .delegateRole _ _ _ dto =>
    asUuid dto.toUserId = request.actor.id → dto.toUserId = request.actor.id
  | _ => True

theorem notWidened_request {store : Store} {request : RbacRequest} {at_ : Timestamp}
    (hspelled : request.SpelledAsStored) (hnow : request.now ≤ at_) :
    NotWidened request.actor.id at_ store (request.run store) := by
  obtain ⟨actor, now, call⟩ := request
  unfold RbacRequest.run RbacRequest.decided
  dsimp only at hnow ⊢
  split
  · exact NotWidened.refl _ _ _
  next hactor =>
    have hactor : (store.users.find? actor.id).isSome := by
      simpa [Option.isSome_iff_ne_none] using hactor
    split
    · exact NotWidened.refl _ _ _
    cases call with
    | createRole newId dto => exact notWidened_create
    | updateRole id dto => exact notWidened_update hnow
    | removeRole id => exact notWidened_remove
    | assignPermissions roleId permissionIds => exact notWidened_assignPermissions hnow
    | replacePermissions roleId permissionIds => exact notWidened_replacePermissions hnow
    | removePermission roleId permissionId => exact notWidened_removePermission
    | assignRole newId userId dto => exact notWidened_assignRole hspelled
    | delegateRole newId userId userRoleId dto => exact notWidened_delegateRole hspelled
    | revokeRole userId userRoleId => exact notWidened_revokeRole
    | createUser personId newUserId newId dto => exact notWidened_createUser hactor

/-- In every state that requests of any callers reach, a request whose caller is spelled as
stored shows the caller no new row of the view, then or later. -/
theorem no_self_escalation {start : Store} (requests : List RbacRequest) {request : RbacRequest}
    (hspelled : request.SpelledAsStored) {at_ : Timestamp} (hnow : request.now ≤ at_) :
    userEffectivePermissions (request.run (runRequests requests start)) at_ request.actor.id ⊆
      userEffectivePermissions (runRequests requests start) at_ request.actor.id :=
  (notWidened_request hspelled hnow).subset

/-! ### The caller's id in capitals -/

def assignRoles : Permission := ⟨"p1", "role:assign:global", "ROLE", "role", "assign", .global⟩

def signAccounting : Permission :=
  ⟨"p2", "transfer:sign_accounting:global", "ASSET", "transfer", "sign_accounting", .global⟩

/-- A director who may assign roles, and a role below that signs for the accountants. -/
def directorHolds : Store :=
  attempt (insertUserRole · (heldBy "h1" "ana" "director"))
    (attempt (assignPermission "accounting" "p2")
      (attempt (assignPermission "director" "p1")
        (attempt (insertRole · (roleOf "accounting" "ACCOUNTING" 2))
          (attempt (insertRole · (roleOf "director" "DIRECTOR" 1))
            { twoUsers with permissions := ⟨[assignRoles, signAccounting], by decide⟩ }))))

def accountingDto : AssignUserRoleDto := ⟨"accounting", none, none, none, none⟩

/-- The director gives the accountants' role to the user that a text names. -/
def giveAccounting (newId userId : String) : RbacRequest :=
  ⟨⟨"ana", ["role:assign:global"]⟩, 5, .assignRole newId userId accountingDto⟩

/-- The role goes to another user, after an attempt on the director's own id was refused. -/
theorem no_self_escalation_other :
    userEffectivePermissions ((giveAccounting "h3" "EVA").run
        (runRequests [giveAccounting "h2" "ana"] directorHolds)) 5 "ana" ⊆
      userEffectivePermissions (runRequests [giveAccounting "h2" "ana"] directorHolds) 5 "ana" := by
  have hspelled : (giveAccounting "h3" "EVA").SpelledAsStored := by
    intro hself
    exact absurd hself (by decide +kernel)
  exact no_self_escalation [giveAccounting "h2" "ana"] hspelled (le_refl 5)

/-- In capitals the director's own id passes, and the director signs for the accountants. -/
theorem self_escalation_in_capitals :
    effectivePermission (heldBy "h2" "ana" "accounting") ⟨"accounting", "p2", none⟩ signAccounting ∈
        userEffectivePermissions ((giveAccounting "h2" "ANA").run directorHolds) 5 "ana" ∧
      ¬userEffectivePermissions ((giveAccounting "h2" "ANA").run directorHolds) 5 "ana" ⊆
        userEffectivePermissions directorHolds 5 "ana" :=
  ⟨by decide +kernel, by decide +kernel⟩

end InternalControl.Rbac
