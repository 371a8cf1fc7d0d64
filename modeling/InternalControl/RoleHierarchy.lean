import InternalControl.RolesService
import InternalControl.SeparationOfDuties

/-!
# The hierarchy of roles over runs

An active role is one level below its superior, an active role too, and so no
role is above itself. Creating, moving and removing roles keeps this when the
steps are orderly; a removal looks at the children by inheritance alone, and a
role that is only a superior can go.
-/

namespace InternalControl.Rbac

open Fallible ParentMap

/-- The superior of an active role. -/
def superiorOf (roles : Table Role.id) (id : Uuid) : Option Uuid :=
  (activeRole roles id).bind Role.superiorRoleId

/-- An active role is one level below its superior, which is active. -/
def Ranked (roles : Table Role.id) : Prop :=
  ∀ id role, activeRole roles id = some role → ∀ superior, role.superiorRoleId = some superior →
    ∃ above, activeRole roles superior = some above ∧
      role.hierarchyLevel = above.hierarchyLevel + 1

/-- What the hierarchy promises of every active role. -/
structure HierarchyHolds (roles : Table Role.id) : Prop where
  superior_active : ∀ role ∈ roles.rows, role.deletedAt = none →
    role.superiorRoleId = none ∨ ∃ above ∈ roles.rows, above.deletedAt = none ∧
      role.superiorRoleId = some above.id ∧ role.hierarchyLevel = above.hierarchyLevel + 1
  acyclic : Acyclic (superiorOf roles)

theorem superiorOf_eq_some {roles : Table Role.id} {id superior : Uuid} :
    superiorOf roles id = some superior ↔
      ∃ role, activeRole roles id = some role ∧ role.superiorRoleId = some superior :=
  Option.bind_eq_some_iff

/-- Levels that grow downwards leave no role above itself. -/
theorem Ranked.acyclic {roles : Table Role.id} (h : Ranked roles) :
    Acyclic (superiorOf roles) := by
  let level : Uuid → ℤ := fun id => ((activeRole roles id).map Role.hierarchyLevel).getD 0
  refine acyclic_of_rank level fun id superior hedge => ?_
  obtain ⟨role, hrole, hsuperior⟩ := superiorOf_eq_some.mp hedge
  obtain ⟨above, habove, hlevel⟩ := h id role hrole superior hsuperior
  have hbelow : level id = role.hierarchyLevel := by simp [level, hrole]
  have hover : level superior = above.hierarchyLevel := by simp [level, habove]
  omega

/-- The levels alone make a hierarchy. -/
theorem ranked_of_superior_active {roles : Table Role.id}
    (h : ∀ role ∈ roles.rows, role.deletedAt = none →
      role.superiorRoleId = none ∨ ∃ above ∈ roles.rows, above.deletedAt = none ∧
        role.superiorRoleId = some above.id ∧ role.hierarchyLevel = above.hierarchyLevel + 1) :
    Ranked roles := by
  intro id role hrole superior hsuperior
  obtain ⟨hmem, hactive, _⟩ := mem_of_activeRole_eq hrole
  rcases h role hmem hactive with hnone | ⟨above, habove, hlive, hid, hlevel⟩
  · rw [hnone] at hsuperior
    cases hsuperior
  · rw [hid] at hsuperior
    cases hsuperior
    exact ⟨above, activeRole_of_mem habove hlive, hlevel⟩

theorem hierarchyHolds_iff_ranked {roles : Table Role.id} :
    HierarchyHolds roles ↔ Ranked roles := by
  constructor
  · exact fun h => ranked_of_superior_active h.superior_active
  · intro h
    refine ⟨fun role hmem hactive => ?_, h.acyclic⟩
    cases hsuperior : role.superiorRoleId with
    | none => exact Or.inl rfl
    | some superior =>
      obtain ⟨above, habove, hlevel⟩ := h role.id role (activeRole_of_mem hmem hactive) superior
        hsuperior
      obtain ⟨hmemAbove, hlive, hid⟩ := mem_of_activeRole_eq habove
      exact Or.inr ⟨above, hmemAbove, hlive, by rw [hid], hlevel⟩

/-! ### The roles below a role -/

section Descendants

variable {store : Store}

theorem mem_findAllActive {role : Role} :
    role ∈ findAllActive store ↔ role ∈ store.roles.rows ∧ role.deletedAt = none := by
  unfold findAllActive byLevelAndName
  rw [List.mem_insertionSort, List.mem_filter, decide_eq_true_eq]

theorem nodup_findAllActive : ((findAllActive store).map Role.id).Nodup := by
  have hfilter : ((store.roles.rows.filter fun role => role.deletedAt = none).map Role.id).Nodup :=
    store.roles.nodup.sublist (List.filter_sublist.map Role.id)
  exact ((List.perm_insertionSort _ _).map Role.id).nodup_iff.mpr hfilter

/-- The active role with an id is found among the active roles. -/
theorem find?_findAllActive (id : Uuid) :
    ((findAllActive store).find? fun item => item.id = id) = activeRole store.roles id := by
  cases hfound : (findAllActive store).find? fun item => item.id = id with
  | none =>
    symm
    rw [Option.eq_none_iff_forall_ne_some]
    intro role hrole
    obtain ⟨hmem, hactive, hid⟩ := mem_of_activeRole_eq hrole
    have hno := List.find?_eq_none.mp hfound role (mem_findAllActive.mpr ⟨hmem, hactive⟩)
    exact hno (decide_eq_true hid)
  | some role =>
    have hid : role.id = id := by
      have hkey := List.find?_some hfound
      exact of_decide_eq_true hkey
    obtain ⟨hmem, hactive⟩ := mem_findAllActive.mp (List.mem_of_find?_eq_some hfound)
    rw [← hid, activeRole_of_mem hmem hactive]

/-- The search lists the roles that are strictly below: the root is above them. -/
theorem mem_descendantRoleIds {rootId id : Uuid} :
    id ∈ descendantRoleIds rootId (findAllActive store) ↔
      Relation.TransGen (Edge (superiorOf store.roles)) id rootId := by
  let all := findAllActive store
  let children : Uuid → List Uuid := fun id =>
    (all.filter fun role => role.superiorRoleId = some id).map Role.id
  have hchild : ∀ parent child, child ∈ children parent ↔
      Edge (superiorOf store.roles) child parent := by
    intro parent child
    unfold Edge
    rw [superiorOf_eq_some]
    simp only [children, List.mem_map, List.mem_filter, decide_eq_true_eq]
    constructor
    · rintro ⟨role, ⟨hmem, hsuperior⟩, rfl⟩
      obtain ⟨hrow, hactive⟩ := mem_findAllActive.mp hmem
      exact ⟨role, activeRole_of_mem hrow hactive, hsuperior⟩
    · rintro ⟨role, hrole, hsuperior⟩
      obtain ⟨hmem, hactive, hid⟩ := mem_of_activeRole_eq hrole
      exact ⟨role, ⟨mem_findAllActive.mpr ⟨hmem, hactive⟩, hsuperior⟩, hid⟩
  have hlisted : ∀ node, ∀ child ∈ children node, child ∈ all.map Role.id := by
    intro node child hmem
    obtain ⟨role, hrole, rfl⟩ := List.mem_map.mp hmem
    exact List.mem_map_of_mem (List.mem_of_mem_filter hrole)
  have hshort : ∀ node, (children node).length ≤ all.length := by
    intro node
    rw [List.length_map]
    exact List.length_filter_le _ _
  have hturns : (children rootId).length +
      Worklist.pending children (all.map Role.id) [] < (all.length + 1) * (all.length + 1) := by
    have hpending : Worklist.pending children (all.map Role.id) [] ≤ all.length * all.length := by
      have hbound := @Worklist.pending_le _ _ children (all.map Role.id) [] all.length hshort
      rwa [List.length_map] at hbound
    have hstart := hshort rootId
    calc (children rootId).length + Worklist.pending children (all.map Role.id) []
        ≤ all.length + all.length * all.length := Nat.add_le_add hstart hpending
      _ < (all.length + 1) * (all.length + 1) := by
        rw [Nat.succ_mul, Nat.mul_succ]
        omega
  have hreached : id ∈ Worklist.reached children ((all.length + 1) * (all.length + 1))
      (children rootId) ↔ ∃ node ∈ children rootId,
        Relation.ReflTransGen (Worklist.Child children) node id :=
    Worklist.mem_reached_iff nodup_findAllActive hlisted (hlisted rootId) hturns
  have hdef : descendantRoleIds rootId (findAllActive store) =
      Worklist.reached children ((all.length + 1) * (all.length + 1)) (children rootId) := rfl
  rw [hdef, hreached, Relation.TransGen.tail'_iff]
  have hpath : ∀ a b, Relation.ReflTransGen (Worklist.Child children) a b ↔
      Relation.ReflTransGen (Edge (superiorOf store.roles)) b a := by
    intro a b
    rw [← Relation.reflTransGen_swap]
    have hswap : Worklist.Child children = Function.swap (Edge (superiorOf store.roles)) := by
      funext parent child
      exact propext (hchild parent child)
    rw [hswap]
  constructor
  · rintro ⟨node, hnode, hr⟩
    exact ⟨node, (hpath node id).mp hr, (hchild rootId node).mp hnode⟩
  · rintro ⟨node, hr, hnode⟩
    exact ⟨node, (hchild rootId node).mpr hnode, (hpath node id).mpr hr⟩

end Descendants

/-! ### What the statements leave under each id -/

section Writing

variable {store after : Store} {id : Uuid} {record : UpdateRoleRecord}

/-- The row of an id after an update of one role. -/
theorem find?_updateRoles (h : updateRoles store [(id, record)] = .ok after) (other : Uuid) :
    after.roles.find? other =
      (store.roles.find? other).map fun row => if row.id = id then record.apply row else row := by
  obtain ⟨written, hfold, hcheck⟩ := bind_eq_ok h
  split at hcheck
  · cases hcheck
  cases hcheck
  rw [List.foldlM_cons] at hfold
  obtain ⟨next, hset, hnext⟩ := bind_eq_ok hfold
  cases hnext
  rcases setRole_eq_ok hset with ⟨hnone, rfl⟩ | ⟨role, hlisted, hrole, rfl⟩
  · cases hfound : after.roles.find? other with
    | none => rfl
    | some row =>
      rw [Option.map_some, if_neg]
      intro hid
      have hkey := Table.key_of_find? hfound
      rw [← hkey, hid, hnone] at hfound
      cases hfound
  · exact Store.find?_changeRoles other

/-- Nothing stands in the way of setting a level that fits. -/
theorem updateRoles_levelSet {level : ℤ} (hfit : IsSmallint level) :
    ∃ after, updateRoles store [(id, levelSet level)] = .ok after := by
  have hset : ∃ after, setRole store id (levelSet level) = .ok after := by
    unfold setRole
    split
    · exact ⟨store, rfl⟩
    · next role hrole =>
      have hlisted : ∀ other ∈ ((levelSet level).apply role).references,
          (store.roles.find? other).isSome := by
        intro other hother
        have hrefers : role.References other := Role.mem_references.mp hother
        exact store.roles_listed id role hrole other hrefers
      have hlevel : ¬∃ value ∈ (levelSet level).hierarchyLevel, ¬IsSmallint value := by
        rintro ⟨value, hvalue, hno⟩
        cases hvalue
        exact hno hfit
      dsimp only
      rw [if_neg (by simp [levelSet]), if_neg hlevel, if_neg (by simp [levelSet]), dif_pos hlisted]
      exact ⟨_, rfl⟩
  obtain ⟨after, hset⟩ := hset
  refine ⟨after, ?_⟩
  have hfold : [(id, levelSet level)].foldlM
      (fun store change => setRole store change.1 change.2) store = .ok after := by
    rw [List.foldlM_cons, hset]
    rfl
  have hunset : ¬∃ change ∈ [(id, levelSet level)], change.2.parentRoleId.isSome ∧
      ∃ role ∈ after.roles.find? change.1, InheritanceViolatesSod after role := by
    rintro ⟨change, hmem, hparent, _⟩
    rw [List.mem_singleton.mp hmem] at hparent
    cases hparent
  have hpass : (if ∃ change ∈ [(id, levelSet level)], change.2.parentRoleId.isSome ∧
      ∃ role ∈ after.roles.find? change.1, InheritanceViolatesSod after role then
        Except.error DbError.sodViolation else Except.ok after) = Except.ok after := if_neg hunset
  unfold updateRoles
  rw [hfold]
  exact hpass

/-- The levels written one by one, each of them fitting. -/
theorem find?_setLevels {level : Uuid → ℤ} {ids : List Uuid}
    (hfit : ∀ id ∈ ids, IsSmallint (level id)) (other : Uuid) :
    (runUntilRefused (ids.map fun id => (updateRoles · [(id, levelSet (level id))]))
      store).roles.find? other =
      (store.roles.find? other).map fun row =>
        if other ∈ ids then { row with hierarchyLevel := level other } else row := by
  induction ids generalizing store with
  | nil => simp [runUntilRefused]
  | cons id rest ih =>
    obtain ⟨after, hafter⟩ := @updateRoles_levelSet store id (level id)
      (hfit id (List.mem_cons_self ..))
    rw [List.map_cons, runUntilRefused, hafter]
    dsimp only
    rw [ih fun id hid => hfit id (List.mem_cons_of_mem _ hid), find?_updateRoles hafter,
      Option.map_map]
    cases hfound : store.roles.find? other with
    | none => rfl
    | some row =>
      have hkey : row.id = other := Table.key_of_find? hfound
      rw [Option.map_some, Option.map_some, Function.comp_apply, hkey]
      by_cases hid : other = id
      · subst hid
        by_cases hrest : other ∈ rest <;> simp [hrest, hkey, levelSet, UpdateRoleRecord.apply]
      · simp [hid, hkey]

end Writing

/-! ### What each operation leaves of the hierarchy -/

section Operations

variable {store after : Store}

/-- The columns that the hierarchy is about. -/
def placeOf (role : Role) : Option Timestamp × Option Uuid × ℤ :=
  (role.deletedAt, role.superiorRoleId, role.hierarchyLevel)

theorem activeRole_eq_some_of_place {roles other : Table Role.id} {id : Uuid} {role : Role}
    (hsame : (other.find? id).map placeOf = (roles.find? id).map placeOf)
    (h : activeRole other id = some role) : ∃ old, activeRole roles id = some old ∧
      placeOf old = placeOf role := by
  obtain ⟨hfound, hactive⟩ := activeRole_eq_some.mp h
  rw [hfound, Option.map_some] at hsame
  obtain ⟨old, hold, hplace⟩ := Option.map_eq_some_iff.mp hsame.symm
  have hdeleted : old.deletedAt = role.deletedAt := congrArg Prod.fst hplace
  exact ⟨old, activeRole_eq_some.mpr ⟨hold, hdeleted.trans hactive⟩, hplace⟩

/-- Rows that keep their places keep the hierarchy. -/
theorem Ranked.congr {roles other : Table Role.id} (h : Ranked roles)
    (hsame : ∀ id, (other.find? id).map placeOf = (roles.find? id).map placeOf) :
    Ranked other := by
  intro id role hrole superior hsuperior
  obtain ⟨old, hold, hplace⟩ := activeRole_eq_some_of_place (hsame id) hrole
  have hsup : old.superiorRoleId = role.superiorRoleId := congrArg (fun place => place.2.1) hplace
  have hlevel : old.hierarchyLevel = role.hierarchyLevel := congrArg (fun place => place.2.2) hplace
  obtain ⟨above, habove, hover⟩ := h id old hold superior (hsup.trans hsuperior)
  obtain ⟨now, hnow, hplaceAbove⟩ := activeRole_eq_some_of_place (hsame superior).symm habove
  have hlevelAbove : now.hierarchyLevel = above.hierarchyLevel :=
    congrArg (fun place => place.2.2) hplaceAbove
  exact ⟨now, hnow, by omega⟩

theorem Ranked.insertRole {new : Role} (h : Ranked store.roles)
    (hnew : ∀ superior, new.superiorRoleId = some superior → ∃ above,
      activeRole store.roles superior = some above ∧
        new.hierarchyLevel = above.hierarchyLevel + 1)
    (hstep : insertRole store new = .ok after) : Ranked after.roles := by
  obtain ⟨_, _, roles, hlisted, hkept, hinsert, rfl⟩ := insertRole_eq_ok hstep
  have hfind := Table.find?_insert hinsert
  have hnone := (Table.insert_eq_some hinsert).1
  have hold : ∀ id role, activeRole store.roles id = some role → activeRole roles id = some role := by
    intro id role hrole
    obtain ⟨hfound, hactive⟩ := activeRole_eq_some.mp hrole
    refine activeRole_eq_some.mpr ⟨?_, hactive⟩
    rw [hfind, if_neg]
    · exact hfound
    · rintro rfl
      rw [hnone] at hfound
      cases hfound
  intro id role hrole superior hsuperior
  have habove : ∃ above, activeRole store.roles superior = some above ∧
      role.hierarchyLevel = above.hierarchyLevel + 1 := by
    obtain ⟨hfound, hactive⟩ := activeRole_eq_some.mp hrole
    have hrow : roles.find? id = some role := hfound
    rw [hfind] at hrow
    split at hrow
    · cases hrow
      exact hnew superior hsuperior
    · exact h id role (activeRole_eq_some.mpr ⟨hrow, hactive⟩) superior hsuperior
  obtain ⟨above, habove, hlevel⟩ := habove
  exact ⟨above, hold superior above habove, hlevel⟩

/-- A role that is nobody's superior may go. -/
theorem Ranked.softDelete {id : Uuid} {at_ : Timestamp} (h : Ranked store.roles)
    (hfree : ∀ role ∈ store.roles.rows, role.deletedAt = none → role.superiorRoleId ≠ some id) :
    Ranked (softDelete store id at_).roles := by
  have hfind : ∀ other, (Rbac.softDelete store id at_).roles.find? other =
      (store.roles.find? other).map fun row =>
        if row.id = id then { row with deletedAt := some at_ } else row :=
    fun other => Store.find?_changeRoles other
  have hactive : ∀ other role, activeRole (Rbac.softDelete store id at_).roles other = some role ↔
      activeRole store.roles other = some role ∧ other ≠ id := by
    intro other role
    rw [activeRole_eq_some, activeRole_eq_some, hfind, Option.map_eq_some_iff]
    constructor
    · rintro ⟨⟨row, hrow, hsame⟩, hlive⟩
      have hkey := Table.key_of_find? hrow
      split at hsame
      · rw [← hsame] at hlive
        cases hlive
      · next hid =>
        subst hsame
        exact ⟨⟨hrow, hlive⟩, fun he => hid (hkey.trans he)⟩
    · rintro ⟨⟨hrow, hlive⟩, hid⟩
      have hkey := Table.key_of_find? hrow
      exact ⟨⟨role, hrow, if_neg fun he => hid (hkey.symm.trans he)⟩, hlive⟩
  intro other role hrole superior hsuperior
  obtain ⟨hold, _⟩ := (hactive other role).mp hrole
  obtain ⟨above, habove, hlevel⟩ := h other role hold superior hsuperior
  obtain ⟨hmem, hlive, _⟩ := mem_of_activeRole_eq hold
  have hne : superior ≠ id := by
    rintro rfl
    exact hfree role hmem hlive hsuperior
  exact ⟨above, (hactive superior above).mpr ⟨habove, hne⟩, hlevel⟩

/-- A role moves under another that is not below it, and the levels below it move along. -/
theorem Ranked.move {roles moved : Table Role.id} {role above : Role} (h : Ranked roles)
    (hrole : activeRole roles role.id = some role)
    (habove : activeRole roles above.id = some above) (hself : above.id ≠ role.id)
    (hbelow : ¬Relation.TransGen (Edge (superiorOf roles)) above.id role.id)
    (hroot : ∀ row, roles.find? role.id = some row → (moved.find? role.id).map placeOf =
      some (row.deletedAt, some above.id, above.hierarchyLevel + 1))
    (hunder : ∀ id, id ≠ role.id → Relation.TransGen (Edge (superiorOf roles)) id role.id →
      (moved.find? id).map placeOf = (roles.find? id).map fun row =>
        (row.deletedAt, row.superiorRoleId,
          row.hierarchyLevel + (above.hierarchyLevel + 1 - role.hierarchyLevel)))
    (hrest : ∀ id, id ≠ role.id → ¬Relation.TransGen (Edge (superiorOf roles)) id role.id →
      (moved.find? id).map placeOf = (roles.find? id).map placeOf) : Ranked moved := by
  have hfoundRoot := (activeRole_eq_some.mp hrole).1
  have hactiveRoot := (activeRole_eq_some.mp hrole).2
  -- the level of an active role after the move
  have hlevel : ∀ id old, activeRole roles id = some old → ∃ now, activeRole moved id = some now ∧
      (id = role.id → now.hierarchyLevel = above.hierarchyLevel + 1) ∧
      (id ≠ role.id → Relation.TransGen (Edge (superiorOf roles)) id role.id →
        now.hierarchyLevel =
          old.hierarchyLevel + (above.hierarchyLevel + 1 - role.hierarchyLevel)) ∧
      (id ≠ role.id → ¬Relation.TransGen (Edge (superiorOf roles)) id role.id →
        now.hierarchyLevel = old.hierarchyLevel) := by
    intro id old hold
    obtain ⟨hfound, hactive⟩ := activeRole_eq_some.mp hold
    by_cases hid : id = role.id
    · subst hid
      obtain ⟨now, hnow, hplace⟩ := Option.map_eq_some_iff.mp (hroot old hfound)
      obtain ⟨hdeleted, _, hnowLevel⟩ : now.deletedAt = old.deletedAt ∧
          now.superiorRoleId = some above.id ∧ now.hierarchyLevel = above.hierarchyLevel + 1 := by
        simpa [placeOf] using hplace
      exact ⟨now, activeRole_eq_some.mpr ⟨hnow, hdeleted.trans hactive⟩, fun _ => hnowLevel,
        fun hne => absurd rfl hne, fun hne => absurd rfl hne⟩
    · by_cases hpath : Relation.TransGen (Edge (superiorOf roles)) id role.id
      · have hplace := hunder id hid hpath
        rw [hfound, Option.map_some] at hplace
        obtain ⟨now, hnow, hplace⟩ := Option.map_eq_some_iff.mp hplace
        obtain ⟨hdeleted, _, hnowLevel⟩ : now.deletedAt = old.deletedAt ∧
            now.superiorRoleId = old.superiorRoleId ∧ now.hierarchyLevel =
              old.hierarchyLevel + (above.hierarchyLevel + 1 - role.hierarchyLevel) := by
          simpa [placeOf] using hplace
        exact ⟨now, activeRole_eq_some.mpr ⟨hnow, hdeleted.trans hactive⟩,
          fun he => absurd he hid, fun _ _ => hnowLevel, fun _ hno => absurd hpath hno⟩
      · have hplace := hrest id hid hpath
        rw [hfound, Option.map_some] at hplace
        obtain ⟨now, hnow, hplace⟩ := Option.map_eq_some_iff.mp hplace
        obtain ⟨hdeleted, _, hnowLevel⟩ : now.deletedAt = old.deletedAt ∧
            now.superiorRoleId = old.superiorRoleId ∧
              now.hierarchyLevel = old.hierarchyLevel := by
          simpa [placeOf] using hplace
        exact ⟨now, activeRole_eq_some.mpr ⟨hnow, hdeleted.trans hactive⟩,
          fun he => absurd he hid, fun _ hyes => absurd hyes hpath, fun _ _ => hnowLevel⟩
  -- where an active role after the move comes from
  have hback : ∀ id now, activeRole moved id = some now → ∃ old, activeRole roles id = some old ∧
      (id = role.id → now.superiorRoleId = some above.id) ∧
      (id ≠ role.id → now.superiorRoleId = old.superiorRoleId) := by
    intro id now hnow
    obtain ⟨hfound, hactive⟩ := activeRole_eq_some.mp hnow
    by_cases hid : id = role.id
    · subst hid
      have hplace := hroot role hfoundRoot
      rw [hfound, Option.map_some] at hplace
      obtain ⟨_, hsuperior, _⟩ : now.deletedAt = role.deletedAt ∧
          now.superiorRoleId = some above.id ∧ now.hierarchyLevel = above.hierarchyLevel + 1 := by
        simpa [placeOf] using hplace
      exact ⟨role, hrole, fun _ => hsuperior, fun hne => absurd rfl hne⟩
    · by_cases hpath : Relation.TransGen (Edge (superiorOf roles)) id role.id
      · have hplace := hunder id hid hpath
        rw [hfound, Option.map_some] at hplace
        obtain ⟨old, hold, hplace⟩ := Option.map_eq_some_iff.mp hplace.symm
        obtain ⟨hdeleted, hsuperior, _⟩ : old.deletedAt = now.deletedAt ∧
            old.superiorRoleId = now.superiorRoleId ∧ old.hierarchyLevel +
              (above.hierarchyLevel + 1 - role.hierarchyLevel) = now.hierarchyLevel := by
          simpa [placeOf] using hplace
        exact ⟨old, activeRole_eq_some.mpr ⟨hold, hdeleted.trans hactive⟩,
          fun he => absurd he hid, fun _ => hsuperior.symm⟩
      · have hplace := hrest id hid hpath
        rw [hfound, Option.map_some] at hplace
        obtain ⟨old, hold, hplace⟩ := Option.map_eq_some_iff.mp hplace.symm
        obtain ⟨hdeleted, hsuperior, _⟩ : old.deletedAt = now.deletedAt ∧
            old.superiorRoleId = now.superiorRoleId ∧
              old.hierarchyLevel = now.hierarchyLevel := by
          simpa [placeOf] using hplace
        exact ⟨old, activeRole_eq_some.mpr ⟨hold, hdeleted.trans hactive⟩,
          fun he => absurd he hid, fun _ => hsuperior.symm⟩
  intro id now hnow superior hsuperior
  obtain ⟨old, hold, hsupRoot, hsupRest⟩ := hback id now hnow
  obtain ⟨now', hnow', hlevelRoot, hlevelUnder, hlevelRest⟩ := hlevel id old hold
  rw [hnow] at hnow'
  cases hnow'
  by_cases hid : id = role.id
  · -- the role that moves is one level below its new superior, which does not move
    rw [hsupRoot hid] at hsuperior
    cases hsuperior
    obtain ⟨aboveNow, haboveNow, _, _, hsame⟩ := hlevel above.id above habove
    have hmovedLevel := hlevelRoot hid
    have haboveLevel := hsame hself hbelow
    exact ⟨aboveNow, haboveNow, by omega⟩
  · rw [hsupRest hid] at hsuperior
    obtain ⟨upper, hupper, hstep⟩ := h id old hold superior hsuperior
    obtain ⟨upperNow, hupperNow, hupperRoot, hupperUnder, hupperRest⟩ := hlevel superior upper hupper
    refine ⟨upperNow, hupperNow, ?_⟩
    have hedge : Edge (superiorOf roles) id superior := superiorOf_eq_some.mpr ⟨old, hold, hsuperior⟩
    by_cases hsup : superior = role.id
    · -- directly below the role that moves
      have hpath : Relation.TransGen (Edge (superiorOf roles)) id role.id :=
        Relation.TransGen.single (hsup ▸ hedge)
      have hlow := hlevelUnder hid hpath
      have hhigh := hupperRoot hsup
      rw [hsup, hrole] at hupper
      cases hupper
      omega
    · by_cases hpath : Relation.TransGen (Edge (superiorOf roles)) superior role.id
      · have hlow := hlevelUnder hid (Relation.TransGen.head hedge hpath)
        have hhigh := hupperUnder hsup hpath
        omega
      · have hno : ¬Relation.TransGen (Edge (superiorOf roles)) id role.id := by
          intro hyes
          obtain ⟨next, hnext, hrestPath⟩ := Relation.TransGen.head'_iff.mp hyes
          have hsame : superior = next := Option.some.inj (hedge.symm.trans hnext)
          rcases Relation.reflTransGen_iff_eq_or_transGen.mp hrestPath with he | htrans
          · exact hsup (hsame.trans he.symm)
          · exact hpath (hsame ▸ htrans)
        have hlow := hlevelRest hid hno
        have hhigh := hupperRest hsup hpath
        omega

end Operations

/-! ### Orderly calls -/

section Calls

/-- A call on the roles themselves. -/
inductive HierarchyCall where
  | create (newId : Uuid) (dto : CreateRoleDto)
  | update (id : String) (dto : UpdateRoleDto)
  | remove (id : String)

/-- A call, by whom and when. -/
structure HierarchyRequest where
  actor : AuthenticatedUser
  now : Timestamp
  call : HierarchyCall

def HierarchyRequest.decided (request : HierarchyRequest) (store : Store) :
    Except ErrorCode (List Statement) :=
  match request.call with
  | .create newId dto => create store request.now request.actor newId dto
  | .update id dto => update store request.now request.actor id dto
  | .remove id => remove store request.now request.actor id

/-- The store after a request: as it was when the request is refused. -/
def HierarchyRequest.run (request : HierarchyRequest) (store : Store) : Store :=
  perform (request.decided store) store

/-- A move that is allowed to be asked for: the superior is neither the role nor below it,
whatever the case of its id, and no level below leaves the range of its column. -/
def OrderlyMove (store : Store) (role : Role) (superiorRoleId : String) : Prop :=
  asUuid superiorRoleId ≠ role.id ∧
    asUuid superiorRoleId ∉ descendantRoleIds role.id (findAllActive store) ∧
    ∀ superior ∈ findActiveById store superiorRoleId,
      ∀ below ∈ findAllActive store,
        below.id ∈ descendantRoleIds role.id (findAllActive store) →
          IsSmallint (below.hierarchyLevel + (superior.hierarchyLevel + 1 - role.hierarchyLevel))

/-- The requests that keep the hierarchy. A creation always does; a move by who may move
must be orderly; and a role that may be removed must be nobody's superior. -/
def HierarchyRequest.Orderly (request : HierarchyRequest) (store : Store) : Prop :=
  match request.call with
  | .create _ _ => True
  | .update id dto => isSuperAdmin store request.now request.actor = true →
      ∀ role ∈ findActiveById store id,
        ∀ superiorRoleId ∈ superiorAsked role dto, OrderlyMove store role superiorRoleId
  | .remove id => ∀ role ∈ findActiveById store id,
      role.isSystem = false → countActiveAssignees store role.id = 0 →
        countActiveChildren store role.id = 0 →
          ∀ other ∈ store.roles.rows, other.deletedAt = none →
            other.superiorRoleId ≠ some role.id

instance (store : Store) (role : Role) (superiorRoleId : String) :
    Decidable (OrderlyMove store role superiorRoleId) :=
  inferInstanceAs (Decidable (_ ∧ _ ∧ _))

instance (request : HierarchyRequest) (store : Store) : Decidable (request.Orderly store) :=
  match request with
  | ⟨_, _, .create _ _⟩ => .isTrue trivial
  | ⟨actor, now, .update id dto⟩ =>
    inferInstanceAs (Decidable (isSuperAdmin store now actor = true →
      ∀ role ∈ findActiveById store id,
        ∀ superiorRoleId ∈ superiorAsked role dto, OrderlyMove store role superiorRoleId))
  | ⟨_, _, .remove id⟩ =>
    inferInstanceAs (Decidable (∀ role ∈ findActiveById store id,
      role.isSystem = false → countActiveAssignees store role.id = 0 →
        countActiveChildren store role.id = 0 →
          ∀ other ∈ store.roles.rows, other.deletedAt = none →
            other.superiorRoleId ≠ some role.id))

variable {store after : Store} {now : Timestamp} {actor : AuthenticatedUser}

theorem replacePermissionsStatement_roles {roleId : Uuid} {permissionIds : List Uuid}
    (h : replacePermissionsStatement roleId permissionIds store = .ok after) :
    after.roles = store.roles := by
  unfold replacePermissionsStatement at h
  dsimp only at h
  split at h
  · cases h
  split at h
  · cases h
  · cases h
    rfl

theorem Ranked.create {newId : Uuid} {dto : CreateRoleDto} (h : Ranked store.roles) :
    Ranked (perform (create store now actor newId dto) store).roles := by
  cases hdecided : Rbac.create store now actor newId dto with
  | error error => exact h
  | ok statements =>
    obtain ⟨role, rest, rfl, _, hsuperior, hrest⟩ := create_eq_ok hdecided
    show Ranked (runUntilRefused ((Rbac.insertRole · role) :: rest) store).roles
    rw [runUntilRefused]
    cases hinsert : Rbac.insertRole store role with
    | error error => exact h
    | ok middle =>
      have hmiddle : Ranked middle.roles := h.insertRole hsuperior hinsert
      refine runUntilRefused_invariant (fun store : Store => Ranked store.roles) hmiddle ?_
      intro statement hmem before after hkept hstep
      obtain ⟨permissionIds, rfl⟩ := hrest statement hmem
      rw [replacePermissionsStatement_roles hstep]
      exact hkept

theorem Ranked.remove {id : String} (h : Ranked store.roles)
    (horderly : HierarchyRequest.Orderly ⟨actor, now, .remove id⟩ store) :
    Ranked (perform (remove store now actor id) store).roles := by
  cases hdecided : Rbac.remove store now actor id with
  | error error => exact h
  | ok statements =>
    obtain ⟨role, hrole, hdecided⟩ := bind_eq_ok hdecided
    obtain ⟨_, _, hdecided⟩ := bind_eq_ok hdecided
    obtain ⟨hsystem, hdecided⟩ := check_eq_ok hdecided
    obtain ⟨hassignees, hdecided⟩ := check_eq_ok hdecided
    obtain ⟨hchildren, hdecided⟩ := check_eq_ok hdecided
    cases hdecided
    have hfree := horderly role (requireRole_eq_ok hrole) (by simpa using hsystem) (by omega)
      (by omega)
    exact h.softDelete hfree

/-- An update that asks for no other superior leaves every place as it is. -/
theorem Ranked.updateRoles {id : Uuid} {record : UpdateRoleRecord} (h : Ranked store.roles)
    (hsuperior : record.superiorRoleId = none) (hlevel : record.hierarchyLevel = none)
    (hstep : updateRoles store [(id, record)] = .ok after) : Ranked after.roles := by
  refine h.congr fun other => ?_
  rw [find?_updateRoles hstep, Option.map_map]
  congr 1
  funext row
  rw [Function.comp_apply]
  split
  · simp [placeOf, UpdateRoleRecord.apply, hsuperior, hlevel]
  · rfl

/-- The levels below a role, as the list of statements that writes them. -/
theorem descendantLevels_eq {role : Role} {delta : ℤ} :
    ((descendantRoleIds role.id (findAllActive store)).filterMap fun id =>
      ((findAllActive store).find? fun item => item.id = id).map fun child =>
        (id, child.hierarchyLevel + delta)) =
    (descendantRoleIds role.id (findAllActive store)).map fun id =>
      (id, ((activeRole store.roles id).map Role.hierarchyLevel).getD 0 + delta) := by
  rw [← List.filterMap_eq_map]
  refine List.filterMap_congr fun id hid => ?_
  rw [find?_findAllActive]
  obtain ⟨superior, hedge, _⟩ := Relation.TransGen.head'_iff.mp (mem_descendantRoleIds.mp hid)
  obtain ⟨child, hchild, _⟩ := superiorOf_eq_some.mp hedge
  rw [Function.comp_apply, hchild, Option.map_some, Option.map_some, Option.getD_some]

theorem Ranked.update {id : String} {dto : UpdateRoleDto} (h : Ranked store.roles)
    (horderly : HierarchyRequest.Orderly ⟨actor, now, .update id dto⟩ store) :
    Ranked (perform (update store now actor id dto) store).roles := by
  cases hdecided : Rbac.update store now actor id dto with
  | error error => exact h
  | ok statements =>
    obtain ⟨role, parentRoleId, place, hrole, hmay, _, hplace, rfl⟩ := update_eq_ok hdecided
    show Ranked (runUntilRefused _ store).roles
    rcases mapM_eq_ok hplace with ⟨_, rfl⟩ | ⟨superiorRoleId, place, hasked, hplaced, rfl⟩
    · -- the place stays
      refine runUntilRefused_invariant (fun store : Store => Ranked store.roles) h ?_
      intro statement hmem before after hkept hstep
      have hmem' : statement ∈ (if updateChanges dto parentRoleId none =
          ⟨none, none, none, none, none⟩ then []
          else [(Rbac.updateRoles · [(role.id, updateChanges dto parentRoleId none)])]) := by
        simpa using hmem
      split at hmem'
      · cases hmem'
      · rw [List.mem_singleton.mp hmem'] at hstep
        exact hkept.updateRoles rfl rfl hstep
    · obtain ⟨superior, hsuperior, hplaceId, hplaceLevel, hplaceBelow⟩ := updatedPlace_eq_ok hplaced
      have hadmin := assertMayReorganize_eq_ok hmay (Or.inr (by rw [hasked]; rfl))
      have hrow : role.id = asUuid id := (mem_of_activeRole_eq hrole).2.2
      have hsuperiorId : superior.id = asUuid superiorRoleId := (mem_of_activeRole_eq hsuperior).2.2
      obtain ⟨hself, hbelow, hfit⟩ := horderly hadmin role hrole superiorRoleId hasked
      have habove : activeRole store.roles superior.id = some superior := hsuperiorId ▸ hsuperior
      rw [← hsuperiorId] at hself hbelow
      rw [← hrow] at hrole
      let changes := updateChanges dto parentRoleId (some place)
      have hset : changes ≠ ⟨none, none, none, none, none⟩ := by
        intro hnone
        have hcolumn : changes.superiorRoleId = none := by rw [hnone]
        cases hcolumn
      rw [if_neg hset, List.singleton_append, runUntilRefused]
      cases hfirst : Rbac.updateRoles store [(role.id, changes)] with
      | error error => exact h
      | ok middle =>
        dsimp only
        let delta := superior.hierarchyLevel + 1 - role.hierarchyLevel
        let level : Uuid → ℤ := fun id =>
          ((activeRole store.roles id).map Role.hierarchyLevel).getD 0 + delta
        let ids := if delta = 0 then [] else descendantRoleIds role.id (findAllActive store)
        have hids : ∀ id ∈ ids, id ∈ descendantRoleIds role.id (findAllActive store) := by
          intro id hid
          simp only [ids] at hid
          split at hid
          · cases hid
          · exact hid
        have hactive : ∀ id ∈ ids, ∃ child, activeRole store.roles id = some child := by
          intro id hid
          obtain ⟨_, hedge, _⟩ := Relation.TransGen.head'_iff.mp
            (mem_descendantRoleIds.mp (hids id hid))
          obtain ⟨child, hchild, _⟩ := superiorOf_eq_some.mp hedge
          exact ⟨child, hchild⟩
        have hlevels : ∀ id ∈ ids, IsSmallint (level id) := by
          intro id hid
          obtain ⟨child, hchild⟩ := hactive id hid
          obtain ⟨hmem, hlive, hkey⟩ := mem_of_activeRole_eq hchild
          have hbound := hfit superior hsuperior child
            (mem_findAllActive.mpr ⟨hmem, hlive⟩) (hkey ▸ hids id hid)
          simpa [level, hchild, delta] using hbound
        have hlist : ((Option.map (fun place => place.2.2) (some place)).getD []).map
            (fun child => (Rbac.updateRoles · [(child.1, levelSet child.2)])) =
            ids.map fun id => (Rbac.updateRoles · [(id, levelSet (level id))]) := by
          rw [Option.map_some, Option.getD_some, hplaceBelow]
          simp only [ids]
          split
          · rfl
          · rw [descendantLevels_eq, List.map_map]
            rfl
        rw [hlist]
        have hfind : ∀ other, (runUntilRefused
            (ids.map fun id => (Rbac.updateRoles · [(id, levelSet (level id))]))
            middle).roles.find? other = (store.roles.find? other).map fun row =>
              let written := if row.id = role.id then changes.apply row else row
              if other ∈ ids then { written with hierarchyLevel := level other } else written := by
          intro other
          rw [find?_setLevels hlevels, find?_updateRoles hfirst, Option.map_map]
          rfl
        have hroot : role.id ∉ ids := fun hid =>
          h.acyclic role.id (mem_descendantRoleIds.mp (hids _ hid))
        refine Ranked.move h hrole habove hself ?_ ?_ ?_ ?_
        · exact fun hpath => hbelow (mem_descendantRoleIds.mpr hpath)
        · intro row hfound
          have hkey : row.id = role.id := Table.key_of_find? hfound
          rw [hfind, hfound]
          simp [hroot, hkey, placeOf, changes, updateChanges, UpdateRoleRecord.apply, hplaceId,
            hplaceLevel]
        · intro other hother hpath
          rw [hfind]
          cases hfound : store.roles.find? other with
          | none => rfl
          | some row =>
            have hkey : row.id = other := Table.key_of_find? hfound
            by_cases hdelta : delta = 0
            · have hnone : ids = [] := if_pos hdelta
              have hstay : superior.hierarchyLevel + 1 - role.hierarchyLevel = 0 := hdelta
              simp [hnone, hkey, hother, placeOf, hstay]
            · have hmem : other ∈ ids := by
                simp only [ids, if_neg hdelta]
                exact mem_descendantRoleIds.mpr hpath
              obtain ⟨child, hchild⟩ := hactive other hmem
              have hsame : child = row :=
                Option.some.inj ((activeRole_eq_some.mp hchild).1.symm.trans hfound)
              simp [hmem, hkey, hother, placeOf, level, hchild, hsame, delta]
        · intro other hother hpath
          have hno : other ∉ ids := fun hid => hpath (mem_descendantRoleIds.mp (hids _ hid))
          rw [hfind]
          cases hfound : store.roles.find? other with
          | none => rfl
          | some row =>
            have hkey : row.id = other := Table.key_of_find? hfound
            simp [hno, hkey, hother]

end Calls

/-! ### Runs -/

/-- One orderly request, refused or not. -/
def OrderlyStep (store after : Store) : Prop :=
  ∃ request : HierarchyRequest, request.Orderly store ∧ after = request.run store

theorem Ranked.step {store : Store} {request : HierarchyRequest} (h : Ranked store.roles)
    (horderly : request.Orderly store) : Ranked (request.run store).roles := by
  obtain ⟨actor, now, call⟩ := request
  cases call with
  | create newId dto => exact h.create
  | update id dto => exact h.update horderly
  | remove id => exact h.remove horderly

/-- Every state that orderly requests reach has the hierarchy of its active roles in order. -/
theorem hierarchy_of_orderly_run {start store : Store} (hstart : HierarchyHolds start.roles)
    (hrun : Relation.ReflTransGen OrderlyStep start store) : HierarchyHolds store.roles := by
  rw [hierarchyHolds_iff_ranked] at hstart ⊢
  induction hrun with
  | refl => exact hstart
  | tail _ hstep ih =>
    obtain ⟨request, horderly, rfl⟩ := hstep
    exact ih.step horderly

/-! ### A superior that goes -/

/-- One user, who is the administrator. -/
def adminHolds : Store :=
  attempt (insertUserRole · (heldBy "h1" "ana" "admin"))
    (attempt (insertRole · (roleOf "admin" "SUPER_ADMIN" 0)) twoUsers)

def newRoleDto (code : String) (superiorRoleId : Option String) : CreateRoleDto where
  code := code
  name := code
  description := none
  parentRoleId := none
  superiorRoleId := superiorRoleId
  isAssignable := none
  maxConcurrentUsers := none
  permissionIds := none

def byAna (call : HierarchyCall) : HierarchyRequest := ⟨⟨"ana", []⟩, 1, call⟩

/-- A lead under the administrator, and a coordinator under the lead. -/
def twoLevels : Store :=
  (byAna (.create "coordinator" (newRoleDto "COORDINATOR" (some "lead")))).run
    ((byAna (.create "lead" (newRoleDto "LEAD" none))).run adminHolds)

def superiorSet (superiorRoleId : String) : UpdateRoleDto := ⟨none, none, none, some superiorRoleId⟩

theorem adminHolds_holds : HierarchyHolds adminHolds.roles :=
  hierarchyHolds_iff_ranked.mpr (ranked_of_superior_active (by decide +kernel))

theorem hierarchy_of_orderly_run_moved :
    HierarchyHolds ((byAna (.remove "lead")).run
      ((byAna (.update "coordinator" (superiorSet "admin"))).run twoLevels)).roles := by
  have hlead : OrderlyStep adminHolds
      ((byAna (.create "lead" (newRoleDto "LEAD" none))).run adminHolds) :=
    ⟨byAna (.create "lead" (newRoleDto "LEAD" none)), trivial, rfl⟩
  have hcoordinator : OrderlyStep
      ((byAna (.create "lead" (newRoleDto "LEAD" none))).run adminHolds) twoLevels :=
    ⟨byAna (.create "coordinator" (newRoleDto "COORDINATOR" (some "lead"))), trivial, rfl⟩
  have hmoved : (byAna (.update "coordinator" (superiorSet "admin"))).Orderly twoLevels := by
    decide +kernel
  have hfree : (byAna (.remove "lead")).Orderly
      ((byAna (.update "coordinator" (superiorSet "admin"))).run twoLevels) := by
    decide +kernel
  exact hierarchy_of_orderly_run adminHolds_holds
    ((((Relation.ReflTransGen.single hlead).tail hcoordinator).tail
      ⟨_, hmoved, rfl⟩).tail ⟨_, hfree, rfl⟩)

/-- The lead goes while the coordinator is under it; and the coordinator goes under itself
when its own id is spelled in capitals. -/
theorem hierarchy_slips : HierarchyHolds adminHolds.roles ∧
    ¬HierarchyHolds ((byAna (.remove "lead")).run twoLevels).roles ∧
    ¬HierarchyHolds
      ((byAna (.update "coordinator" (superiorSet "COORDINATOR"))).run twoLevels).roles := by
  refine ⟨adminHolds_holds, fun h => ?_, fun h => ?_⟩
  · exact absurd h.superior_active (by decide +kernel)
  · exact absurd h.superior_active (by decide +kernel)

end InternalControl.Rbac
