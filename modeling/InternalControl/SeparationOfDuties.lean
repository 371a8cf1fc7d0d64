import InternalControl.RbacStatements
import Mathlib.Logic.Relation

/-!
# Duties stay apart

A user holds a role when an assignment in force gives it or a role that
inherits from it, through any number of parents. The two triggers together
keep every statement that goes through from giving a user both sides of a
static rule.
-/

namespace InternalControl.Rbac

open Fallible

/-- The user has the role, directly or as one that a held role inherits from. A deleted
role gives nothing. -/
def Holds (store : Store) (userId roleId : Uuid) : Prop :=
  ∃ assignment ∈ store.userRoles.rows, assignment.userId = userId ∧ assignment.revokedAt = none ∧
    (activeRole store.roles assignment.roleId).isSome ∧
    ParentMap.Reaches (activeParent store.roles) assignment.roleId roleId

/-- No user holds both sides of a static rule. -/
def DutiesApart (store : Store) : Prop :=
  ∀ userId, ∀ rule ∈ store.separationRules, rule.constraintType = .static →
    ¬(Holds store userId rule.roleAId ∧ Holds store userId rule.roleBId)

/-- fn_user_effective_role_ids lists what a user holds. -/
theorem mem_userEffectiveRoleIds_iff_holds {store : Store} {userId roleId : Uuid} :
    roleId ∈ userEffectiveRoleIds store userId ↔ Holds store userId roleId := by
  simp only [mem_userEffectiveRoleIds, mem_lineage_iff, Holds]

/-- What a held role inherits from is held. -/
theorem Holds.of_reaches {store : Store} {userId roleId ancestor : Uuid}
    (h : Holds store userId roleId)
    (hr : ParentMap.Reaches (activeParent store.roles) roleId ancestor) :
    Holds store userId ancestor := by
  obtain ⟨assignment, hmem, huser, hforce, hactive, hreach⟩ := h
  exact ⟨assignment, hmem, huser, hforce, hactive, hreach.trans hr⟩

/-- The assignment through which a held role comes has it in its lineage. -/
theorem Holds.exists_assignment {store : Store} {userId roleId : Uuid}
    (h : Holds store userId roleId) : ∃ assignment ∈ store.userRoles.rows,
      assignment.userId = userId ∧ assignment.revokedAt = none ∧
        roleId ∈ lineage store.roles assignment.roleId := by
  obtain ⟨assignment, hmem, huser, hforce, hactive, hreach⟩ := h
  exact ⟨assignment, hmem, huser, hforce, mem_lineage_iff.mpr ⟨hactive, hreach⟩⟩

theorem holds_of_lineage {store : Store} {assignment : UserRole} {roleId : Uuid}
    (hmem : assignment ∈ store.userRoles.rows) (hforce : assignment.revokedAt = none)
    (h : roleId ∈ lineage store.roles assignment.roleId) :
    Holds store assignment.userId roleId :=
  ⟨assignment, hmem, rfl, hforce, mem_lineage_iff.mp h⟩

/-! ### Assignments -/

section Assignments

variable {store after : Store} {new : UserRole}

/-- An assignment the trigger lets through gives its user no second side of a rule. -/
theorem DutiesApart.assign (h : DutiesApart store) (hsod : ¬ViolatesSod store new)
    (hroles : after.roles = store.roles)
    (hrules : after.separationRules = store.separationRules)
    (hrows : ∀ assignment ∈ after.userRoles.rows, assignment = new ∨
      assignment ∈ store.userRoles.rows ∧ assignment.id ≠ new.id) : DutiesApart after := by
  intro userId rule hrule hstatic hboth
  rw [hrules] at hrule
  obtain ⟨first, hfirst, hfirstUser, hfirstForce, hfirstLineage⟩ := hboth.1.exists_assignment
  obtain ⟨second, hsecond, hsecondUser, hsecondForce, hsecondLineage⟩ := hboth.2.exists_assignment
  rw [hroles] at hfirstLineage hsecondLineage
  rcases hrows first hfirst with rfl | ⟨hfirstOld, hfirstId⟩
  · rcases hrows second hsecond with rfl | ⟨hsecondOld, hsecondId⟩
    · -- both sides come with the new assignment
      exact hsod ⟨hfirstForce, rule, hrule, hstatic, Or.inl hfirstLineage,
        Or.inl ⟨hfirstLineage, hsecondLineage⟩⟩
    · have hother : second.userId = first.userId := hsecondUser.trans hfirstUser.symm
      refine hsod ⟨hfirstForce, rule, hrule, hstatic, Or.inl hfirstLineage,
        Or.inr ⟨second, hsecondOld, hother, hsecondForce, hsecondId, ?_⟩⟩
      rw [if_pos hfirstLineage]
      exact hsecondLineage
  · rcases hrows second hsecond with rfl | ⟨hsecondOld, _⟩
    · have hother : first.userId = second.userId := hfirstUser.trans hsecondUser.symm
      by_cases hside : rule.roleAId ∈ lineage store.roles second.roleId
      · exact hsod ⟨hsecondForce, rule, hrule, hstatic, Or.inr hsecondLineage,
          Or.inl ⟨hside, hsecondLineage⟩⟩
      · refine hsod ⟨hsecondForce, rule, hrule, hstatic, Or.inr hsecondLineage,
          Or.inr ⟨first, hfirstOld, hother, hfirstForce, hfirstId, ?_⟩⟩
        rw [if_neg hside]
        exact hfirstLineage
    · -- neither side is new
      have hholdsA := holds_of_lineage hfirstOld hfirstForce hfirstLineage
      have hholdsB := holds_of_lineage hsecondOld hsecondForce hsecondLineage
      rw [hfirstUser] at hholdsA
      rw [hsecondUser] at hholdsB
      exact h userId rule hrule hstatic ⟨hholdsA, hholdsB⟩

theorem DutiesApart.insertUserRole (h : DutiesApart store)
    (hstep : insertUserRole store new = .ok after) : DutiesApart after := by
  obtain ⟨hsod, userRoles, hlisted, hinsert, rfl⟩ := insertUserRole_eq_ok hstep
  refine h.assign hsod rfl rfl ?_
  intro assignment hmem
  rcases (Table.mem_insert hinsert).mp hmem with hold | hnew
  · refine Or.inr ⟨hold, fun hid => ?_⟩
    have hnone := (Table.insert_eq_some hinsert).1
    rw [← hid, Table.find?_of_mem hold] at hnone
    cases hnone
  · exact Or.inl hnew

theorem DutiesApart.updateUserRole (h : DutiesApart store)
    (hstep : updateUserRole store new = .ok after) : DutiesApart after := by
  rcases updateUserRole_eq_ok hstep with rfl | ⟨hsod, hlisted, rfl⟩
  · exact h
  · refine h.assign hsod rfl rfl ?_
    intro assignment hmem
    obtain ⟨old, hold, rfl⟩ := List.mem_map.mp hmem
    split
    · next hid =>
      refine Or.inl ?_
      show ({ new with id := old.id } : UserRole) = new
      rw [hid]
    · next hid => exact Or.inr ⟨hold, hid⟩

end Assignments

/-! ### Roles -/

section Roles

variable {before after : Store}

/-- The trigger on inheritance has looked at the role and let it through. -/
def Passed (store : Store) (id : Uuid) : Prop :=
  ∃ role, activeRole store.roles id = some role ∧ role.parentRoleId.isSome ∧
    ¬InheritanceViolatesSod store role

/-- Who holds a role that the trigger let through has no two sides of a rule, one of them
through that role. -/
theorem Passed.apart {store : Store} {id userId : Uuid} {rule : RoleSeparationOfDuties}
    (h : Passed store id) (hholds : Holds store userId id) (hrule : rule ∈ store.separationRules)
    (hstatic : rule.constraintType = .static)
    (hside : ParentMap.Reaches (activeParent store.roles) id rule.roleAId ∨
      ParentMap.Reaches (activeParent store.roles) id rule.roleBId) :
    ¬(Holds store userId rule.roleAId ∧ Holds store userId rule.roleBId) := by
  rintro ⟨hholdsA, hholdsB⟩
  obtain ⟨role, hrole, hparent, hsod⟩ := h
  have hfound := activeRole_eq_some.mp hrole
  have hid : role.id = id := Table.key_of_find? hfound.1
  have hactive : (activeRole store.roles id).isSome := hrole ▸ rfl
  obtain ⟨holding, hmem, huser, hforce, hlineage⟩ := hholds.exists_assignment
  refine hsod ⟨hparent, hfound.2, Or.inr ⟨holding, hmem, hforce, ?_, rule, hrule, hstatic, ?_, ?_,
    ?_⟩⟩
  · rw [hid]
    exact hlineage
  · rw [hid, mem_lineage_iff, mem_lineage_iff]
    exact hside.imp (fun hr => ⟨hactive, hr⟩) (fun hr => ⟨hactive, hr⟩)
  · rw [huser, mem_userEffectiveRoleIds_iff_holds]
    exact hholdsA
  · rw [huser, mem_userEffectiveRoleIds_iff_holds]
    exact hholdsB

/-- When every new edge starts at a role the trigger let through, a role is held as it was
before, or through a role the trigger let through. -/
theorem Holds.before_or_passed {userId roleId : Uuid}
    (hheld : after.userRoles = before.userRoles)
    (hactive : ∀ assignment ∈ before.userRoles.rows,
      (activeRole after.roles assignment.roleId).isSome →
        (activeRole before.roles assignment.roleId).isSome)
    (hedge : ∀ id parent, activeParent after.roles id = some parent →
      activeParent before.roles id = some parent ∨ Passed after id)
    (h : Holds after userId roleId) :
    Holds before userId roleId ∨
      ∃ id, Passed after id ∧ Holds after userId id ∧
        ParentMap.Reaches (activeParent after.roles) id roleId := by
  obtain ⟨assignment, hmem, huser, hforce, hlive, hreach⟩ := h
  rcases hreach.before_or_checked hedge with hold | ⟨id, hpassed, _, hmeet, hrest⟩
  · rw [hheld] at hmem
    exact Or.inl ⟨assignment, hmem, huser, hforce, hactive assignment hmem hlive, hold⟩
  · exact Or.inr ⟨id, hpassed, ⟨assignment, hmem, huser, hforce, hlive, hmeet⟩, hrest⟩

theorem DutiesApart.changeRoles (h : DutiesApart before)
    (hheld : after.userRoles = before.userRoles)
    (hrules : after.separationRules = before.separationRules)
    (hactive : ∀ assignment ∈ before.userRoles.rows,
      (activeRole after.roles assignment.roleId).isSome →
        (activeRole before.roles assignment.roleId).isSome)
    (hedge : ∀ id parent, activeParent after.roles id = some parent →
      activeParent before.roles id = some parent ∨ Passed after id) : DutiesApart after := by
  intro userId rule hrule hstatic hboth
  rcases hboth.1.before_or_passed hheld hactive hedge with holdA | ⟨id, hpassed, hholds, hside⟩
  · rcases hboth.2.before_or_passed hheld hactive hedge with holdB | ⟨id, hpassed, hholds, hside⟩
    · rw [hrules] at hrule
      exact h userId rule hrule hstatic ⟨holdA, holdB⟩
    · exact hpassed.apart hholds hrule hstatic (Or.inr hside) hboth
  · exact hpassed.apart hholds hrule hstatic (Or.inl hside) hboth

theorem DutiesApart.insertRole {new : Role} (h : DutiesApart before)
    (hstep : insertRole before new = .ok after) : DutiesApart after := by
  obtain ⟨_, hsod, roles, hlisted, hkept, hinsert, rfl⟩ := insertRole_eq_ok hstep
  have hnone := (Table.insert_eq_some hinsert).1
  have hfind := Table.find?_insert hinsert
  -- a role that was there is not the new one
  have hold : ∀ id, (before.roles.find? id).isSome → roles.find? id = before.roles.find? id := by
    intro id hid
    rw [hfind, if_neg]
    rintro rfl
    rw [hnone] at hid
    cases hid
  refine h.changeRoles rfl rfl ?_ ?_
  · intro assignment hmem hactive
    rw [isSome_activeRole_iff] at hactive ⊢
    exact hold _ (before.held_listed assignment hmem) ▸ hactive
  · intro id parent hedge
    obtain ⟨hid, hparent, hlive⟩ := activeParent_eq_some_iff.mp hedge
    by_cases hnew : new.id = id
    · obtain ⟨role, hrole⟩ := Option.isSome_iff_exists.mp hid
      have hfound := (activeRole_eq_some.mp hrole).1
      have hsame : role = new := by
        have hrow := hfind id
        rw [if_pos hnew] at hrow
        exact Option.some.inj (hfound.symm.trans hrow)
      have hset : new.parentRoleId = some parent := by
        have hrow : (roles.find? id).map Role.parentRoleId = some (some parent) := hparent
        rw [hfind, if_pos hnew, Option.map_some] at hrow
        exact Option.some.inj hrow
      exact Or.inr ⟨new, hsame ▸ hrole, by rw [hset]; rfl, hsod⟩
    · have hsame : roles.find? id = before.roles.find? id := by rw [hfind, if_neg hnew]
      have hcolumn : (before.roles.find? id).map Role.parentRoleId = some (some parent) :=
        hsame ▸ hparent
      obtain ⟨row, hrow, hrowParent⟩ := Option.map_eq_some_iff.mp hcolumn
      have hlistedParent := before.roles_listed id row hrow parent (Or.inl hrowParent)
      refine Or.inl (activeParent_eq_some_iff.mpr ⟨?_, hcolumn, ?_⟩)
      · rw [isSome_activeRole_iff] at hid ⊢
        exact hsame ▸ hid
      · rw [isSome_activeRole_iff] at hlive ⊢
        exact hold parent hlistedParent ▸ hlive

/-- The writing of a row deletes no role, and sets no parent but the one it names. -/
structure RowsWritten (before after : Store) (changed : Uuid → Prop) : Prop where
  userRoles : after.userRoles = before.userRoles
  separationRules : after.separationRules = before.separationRules
  deletedAt : ∀ id, (after.roles.find? id).map Role.deletedAt =
    (before.roles.find? id).map Role.deletedAt
  parentRoleId : ∀ id, ¬changed id →
    (after.roles.find? id).map Role.parentRoleId = (before.roles.find? id).map Role.parentRoleId

theorem RowsWritten.refl (store : Store) (changed : Uuid → Prop) :
    RowsWritten store store changed := ⟨rfl, rfl, fun _ => rfl, fun _ _ => rfl⟩

theorem RowsWritten.trans {first second third : Store} {changed : Uuid → Prop}
    (h : RowsWritten first second changed) (h' : RowsWritten second third changed) :
    RowsWritten first third changed where
  userRoles := h'.userRoles.trans h.userRoles
  separationRules := h'.separationRules.trans h.separationRules
  deletedAt := fun id => (h'.deletedAt id).trans (h.deletedAt id)
  parentRoleId := fun id hid => (h'.parentRoleId id hid).trans (h.parentRoleId id hid)

theorem rowsWritten_setRole {id : Uuid} {record : UpdateRoleRecord} {changed : Uuid → Prop}
    (hchanged : record.parentRoleId.isSome → changed id)
    (h : setRole before id record = .ok after) : RowsWritten before after changed := by
  rcases setRole_eq_ok h with ⟨_, rfl⟩ | ⟨_, hlisted, _, rfl⟩
  · exact RowsWritten.refl _ _
  · refine ⟨rfl, rfl, fun other => ?_, fun other hother => ?_⟩
    · rw [Store.find?_changeRoles, Option.map_map]
      congr 1
      funext row
      dsimp only [Function.comp_apply]
      split <;> rfl
    · rw [Store.find?_changeRoles]
      cases hfound : before.roles.find? other with
      | none => rfl
      | some row =>
        rw [Option.map_some, Option.map_some, Option.map_some]
        split
        · next hid =>
          have hkey : other = id := (Table.key_of_find? hfound).symm.trans hid
          have hunset : record.parentRoleId = none := by
            refine Option.not_isSome_iff_eq_none.mp fun hset => hother ?_
            exact hkey ▸ hchanged hset
          simp [UpdateRoleRecord.apply, hunset]
        · rfl

theorem rowsWritten_foldlM {changes : List (Uuid × UpdateRoleRecord)} {changed : Uuid → Prop}
    (hchanged : ∀ change ∈ changes, change.2.parentRoleId.isSome → changed change.1)
    (h : changes.foldlM (fun store change => setRole store change.1 change.2) before =
      .ok after) : RowsWritten before after changed :=
  foldlM_invariant (RowsWritten before · changed) (RowsWritten.refl before changed)
    (fun _ change hmem _ hkept hstep =>
      hkept.trans (rowsWritten_setRole (hchanged change hmem) hstep)) h

theorem DutiesApart.updateRoles {changes : List (Uuid × UpdateRoleRecord)}
    (h : DutiesApart before) (hstep : updateRoles before changes = .ok after) :
    DutiesApart after := by
  obtain ⟨written, hfold, hcheck⟩ := bind_eq_ok hstep
  split at hcheck
  · cases hcheck
  next hsod =>
    cases hcheck
    let changed : Uuid → Prop := fun id => ∃ change ∈ changes,
      change.1 = id ∧ change.2.parentRoleId.isSome
    have hrows : RowsWritten before after changed :=
      rowsWritten_foldlM (fun change hmem hset => ⟨change, hmem, rfl, hset⟩) hfold
    have hactive : ∀ id, (activeRole after.roles id).isSome →
        (activeRole before.roles id).isSome := by
      intro id hid
      rw [isSome_activeRole_iff] at hid ⊢
      exact hrows.deletedAt id ▸ hid
    refine h.changeRoles hrows.userRoles hrows.separationRules (fun _ _ => hactive _) ?_
    intro id parent hedge
    obtain ⟨hid, hparent, hlive⟩ := activeParent_eq_some_iff.mp hedge
    by_cases hchanged : changed id
    · obtain ⟨change, hmem, rfl, hset⟩ := hchanged
      obtain ⟨role, hrole⟩ := Option.isSome_iff_exists.mp hid
      have hfound := (activeRole_eq_some.mp hrole).1
      have hrowParent : role.parentRoleId = some parent := by
        rw [hfound, Option.map_some] at hparent
        exact Option.some.inj hparent
      refine Or.inr ⟨role, hrole, by rw [hrowParent]; rfl, fun hviolates => ?_⟩
      exact hsod ⟨change, hmem, hset, role, hfound, hviolates⟩
    · have hcolumn := hrows.parentRoleId id hchanged
      exact Or.inl (activeParent_eq_some_iff.mpr
        ⟨hactive id hid, hcolumn ▸ hparent, hactive parent hlive⟩)

end Roles

/-- A statement on the roles or their holders that went through. -/
inductive RoleStatement (store after : Store) : Prop
  | assigned (new : UserRole) (h : insertUserRole store new = .ok after)
  | reassigned (new : UserRole) (h : updateUserRole store new = .ok after)
  | roleInserted (new : Role) (h : insertRole store new = .ok after)
  | rolesUpdated (changes : List (Uuid × UpdateRoleRecord))
      (h : updateRoles store changes = .ok after)

theorem DutiesApart.step {store after : Store} (h : DutiesApart store)
    (hstep : RoleStatement store after) : DutiesApart after := by
  cases hstep with
  | assigned new hstep => exact h.insertUserRole hstep
  | reassigned new hstep => exact h.updateUserRole hstep
  | roleInserted new hstep => exact h.insertRole hstep
  | rolesUpdated changes hstep => exact h.updateRoles hstep

/-- Where no user has both sides of a static rule, no run of statements that the triggers
let through gives a user both. -/
theorem duties_stay_apart {start store : Store} (hstart : DutiesApart start)
    (hrun : Relation.ReflTransGen RoleStatement start store) : DutiesApart store := by
  induction hrun with
  | refl => exact hstart
  | tail _ hstep ih => exact ih.step hstep

/-! ### A role that comes to inherit from one side -/

/-- Two users, no role, and a rule that keeps the administrator from the director. -/
def twoUsers : Store where
  units := .empty
  costCenters := .empty
  persons := .empty
  users := ⟨[⟨"ana", "pa", "ana"⟩, ⟨"eva", "pe", "eva"⟩], by decide⟩
  roles := .empty
  permissions := .empty
  rolePermissions := .empty
  userRoles := .empty
  separationRules := [⟨"admin", "director", .static⟩]
  roles_listed := by
    intro id role h
    cases h
  held_listed := by
    intro assignment h
    cases h
  holders_listed := by
    intro assignment h
    cases h

/-- A role on its own. -/
def roleOf (id code : String) (hierarchyLevel : ℤ) : Role where
  id := id
  code := code
  name := code
  description := none
  parentRoleId := none
  superiorRoleId := none
  hierarchyLevel := hierarchyLevel
  isSystem := false
  isAssignable := true
  maxConcurrentUsers := none
  deletedAt := none

/-- A role held everywhere from the first instant on. -/
def heldBy (id userId roleId : String) : UserRole where
  id := id
  userId := userId
  roleId := roleId
  scopeType := .global
  scopeId := none
  validFrom := 0
  validUntil := none
  isDelegated := false
  delegatedFromUserId := none
  revokedAt := none

/-- The update that sets the parent of a role. -/
def parentSet (parentRoleId : Option Uuid) : UpdateRoleRecord where
  name := none
  description := none
  parentRoleId := some parentRoleId
  superiorRoleId := none
  hierarchyLevel := none

/-- Three roles; one user is director and coordinator. -/
def coordinated : Store :=
  attempt (insertUserRole · (heldBy "h2" "ana" "coordinator"))
    (attempt (insertUserRole · (heldBy "h1" "ana" "director"))
      (attempt (insertRole · (roleOf "coordinator" "COORDINATOR" 2))
        (attempt (insertRole · (roleOf "director" "DIRECTOR" 1))
          (attempt (insertRole · (roleOf "admin" "SUPER_ADMIN" 0)) twoUsers))))

theorem coordinated_run : Relation.ReflTransGen RoleStatement twoUsers coordinated := by
  refine run_attempt (insertUserRole · (heldBy "h2" "ana" "coordinator"))
    (run_attempt (insertUserRole · (heldBy "h1" "ana" "director"))
      (run_attempt (insertRole · (roleOf "coordinator" "COORDINATOR" 2))
        (run_attempt (insertRole · (roleOf "director" "DIRECTOR" 1))
          (run_attempt (insertRole · (roleOf "admin" "SUPER_ADMIN" 0)) .refl
            ?_ ?_) ?_ ?_) ?_ ?_) ?_ ?_) ?_ ?_
  · exact fun after h => .roleInserted _ h
  · decide +kernel
  · exact fun after h => .roleInserted _ h
  · decide +kernel
  · exact fun after h => .roleInserted _ h
  · decide +kernel
  · exact fun after h => .assigned _ h
  · decide +kernel
  · exact fun after h => .assigned _ h
  · decide +kernel

theorem twoUsers_apart : DutiesApart twoUsers := by
  rintro userId rule _ _ ⟨⟨assignment, hmem, _⟩, _⟩
  cases hmem

/-- The coordinator may come to inherit from the director, and not from the administrator. -/
theorem duties_stay_apart_coordinated :
    (updateRoles coordinated [("coordinator", parentSet (some "director"))]).isOk = true ∧
      (updateRoles coordinated [("coordinator", parentSet (some "admin"))]).isOk = false ∧
      DutiesApart (attempt
        (updateRoles · [("coordinator", parentSet (some "director"))]) coordinated) := by
  have hok : (updateRoles coordinated
      [("coordinator", parentSet (some "director"))]).isOk = true := by decide +kernel
  refine ⟨hok, by decide +kernel, duties_stay_apart twoUsers_apart ?_⟩
  exact run_attempt (updateRoles · [("coordinator", parentSet (some "director"))]) coordinated_run
    (fun after h => .rolesUpdated _ h) hok

end InternalControl.Rbac
