import InternalControl.RoleAssignments

/-!
# The limit of holders of a role

The holders are counted at the start of the transaction that inserts another
one, under a lock on the role. While that count tells of every moment of the
new assignment, no role is ever held by more users than its limit, whatever
calls run at the same time.
-/

namespace InternalControl.RoleAssignments

open Interleaving Rbac

/-- The limit of a role. -/
def limitOf (rbac : Rbac.Store) (roleId : Uuid) : Option ℕ :=
  (rbac.roles.find? roleId).bind Role.maxConcurrentUsers

/-- The users who hold a role at an instant. -/
def holders (rbac : Rbac.Store) (roleId : Uuid) (at_ : Timestamp) : List Uuid :=
  ((rbac.userRoles.rows.filter fun assignment =>
    assignment.roleId = roleId ∧ assignment.IsCurrent at_).map UserRole.userId).dedup

/-- At no instant is a role held by more users than its limit. -/
def WithinLimits (rbac : Rbac.Store) : Prop :=
  ∀ roleId limit, limitOf rbac roleId = some limit → ∀ at_, (holders rbac roleId at_).length ≤ limit

theorem mem_holders {rbac : Rbac.Store} {roleId userId : Uuid} {at_ : Timestamp} :
    userId ∈ holders rbac roleId at_ ↔ ∃ assignment ∈ rbac.userRoles.rows,
      assignment.roleId = roleId ∧ assignment.IsCurrent at_ ∧ assignment.userId = userId := by
  simp only [holders, List.mem_dedup, List.mem_map, List.mem_filter, decide_eq_true_eq, and_assoc]

theorem mem_otherHolders {rbac : Rbac.Store} {roleId userId other : Uuid} {at_ : Timestamp} :
    other ∈ otherHolders rbac roleId userId at_ ↔ ∃ assignment ∈ rbac.userRoles.rows,
      assignment.roleId = roleId ∧ assignment.userId ≠ userId ∧ assignment.IsCurrent at_ ∧
        assignment.userId = other := by
  simp only [otherHolders, List.mem_dedup, List.mem_map, List.mem_filter, decide_eq_true_eq,
    and_assoc]

/-- Of two lists without repetitions, the one within the other is not longer. -/
theorem length_le_of_subset {α : Type} {left right : List α} (hnodup : left.Nodup)
    (hsubset : left ⊆ right) : left.length ≤ right.length :=
  (hnodup.subperm hsubset).length_le

/-! ### Counts after a statement -/

/-- Every assignment in force after was in force before. -/
def Shrinks (before after : Rbac.Store) : Prop :=
  ∀ assignment ∈ after.userRoles.rows, assignment.revokedAt = none →
    assignment ∈ before.userRoles.rows

theorem Shrinks.holders {before after : Rbac.Store} (h : Shrinks before after) (roleId : Uuid)
    (at_ : Timestamp) : (holders after roleId at_).length ≤ (holders before roleId at_).length := by
  refine length_le_of_subset (List.nodup_dedup _) fun userId huser => ?_
  obtain ⟨assignment, hmem, hrole, hcurrent, hholder⟩ := mem_holders.mp huser
  exact mem_holders.mpr ⟨assignment, h assignment hmem hcurrent.1, hrole, hcurrent, hholder⟩

theorem Shrinks.otherHolders {before after : Rbac.Store} (h : Shrinks before after)
    (roleId userId : Uuid) (at_ : Timestamp) :
    (otherHolders after roleId userId at_).length ≤
      (otherHolders before roleId userId at_).length := by
  refine length_le_of_subset (List.nodup_dedup _) fun other hother => ?_
  obtain ⟨assignment, hmem, hrole, hne, hcurrent, hholder⟩ := mem_otherHolders.mp hother
  exact mem_otherHolders.mpr
    ⟨assignment, h assignment hmem hcurrent.1, hrole, hne, hcurrent, hholder⟩

theorem shrinks_of_same {before after : Rbac.Store}
    (h : after.userRoles = before.userRoles) : Shrinks before after := by
  intro assignment hmem _
  rw [h] at hmem
  exact hmem

theorem shrinks_revoke (rbac : Rbac.Store) (picked : UserRole → Prop) [DecidablePred picked]
    (at_ : Timestamp) : Shrinks rbac (rbac.revoke picked at_) := by
  intro assignment hmem hinForce
  obtain ⟨old, hold, hsame⟩ := List.mem_map.mp hmem
  by_cases hpicked : picked old
  · rw [if_pos hpicked] at hsame
    rw [← hsame] at hinForce
    cases hinForce
  · rw [if_neg hpicked] at hsame
    exact hsame ▸ hold

theorem insertUserRole_rows {rbac after : Rbac.Store} {record : UserRole}
    (h : insertUserRole rbac record = .ok after) :
    after.roles = rbac.roles ∧ ∀ assignment, assignment ∈ after.userRoles.rows ↔
      assignment ∈ rbac.userRoles.rows ∨ assignment = record := by
  obtain ⟨-, userRoles, hlisted, hinsert, rfl⟩ := insertUserRole_eq_ok h
  exact ⟨rfl, fun assignment => Table.mem_insert hinsert⟩

/-- After an insertion, the holders of the role at an instant of its validity are the other
holders before and the new one. -/
theorem holders_insert {rbac after : Rbac.Store} {record : UserRole} {at_ : Timestamp}
    (h : insertUserRole rbac record = .ok after) (hcurrent : record.IsCurrent at_) :
    (holders after record.roleId at_).length =
      (otherHolders rbac record.roleId record.userId at_).length + 1 := by
  have hrows := (insertUserRole_rows h).2
  have hno : record.userId ∉ otherHolders rbac record.roleId record.userId at_ := by
    intro hin
    obtain ⟨assignment, -, -, hne, -, hsame⟩ := mem_otherHolders.mp hin
    exact hne hsame
  have hnodup : (record.userId :: otherHolders rbac record.roleId record.userId at_).Nodup :=
    List.nodup_cons.mpr ⟨hno, List.nodup_dedup _⟩
  rw [← List.length_cons]
  refine Nat.le_antisymm (length_le_of_subset (List.nodup_dedup _) fun userId huser => ?_)
    (length_le_of_subset hnodup fun userId huser => ?_)
  · obtain ⟨assignment, hmem, hrole, hin, hholder⟩ := mem_holders.mp huser
    by_cases hnew : userId = record.userId
    · exact hnew ▸ List.mem_cons_self ..
    · rcases (hrows assignment).mp hmem with hold | hsame
      · have hne : assignment.userId ≠ record.userId := hholder ▸ hnew
        exact List.mem_cons_of_mem _
          (mem_otherHolders.mpr ⟨assignment, hold, hrole, hne, hin, hholder⟩)
      · rw [hsame] at hholder
        exact absurd hholder.symm hnew
  · rcases List.mem_cons.mp huser with rfl | hother
    · exact mem_holders.mpr ⟨record, (hrows record).mpr (.inr rfl), rfl, hcurrent, rfl⟩
    · obtain ⟨assignment, hmem, hrole, -, hin, hholder⟩ := mem_otherHolders.mp hother
      exact mem_holders.mpr ⟨assignment, (hrows assignment).mpr (.inl hmem), hrole, hin, hholder⟩

/-- An insertion is of no account for other roles, nor at instants outside of its validity. -/
theorem holders_insert_of_not {rbac after : Rbac.Store} {record : UserRole} {roleId : Uuid}
    {at_ : Timestamp} (h : insertUserRole rbac record = .ok after)
    (hnot : ¬(record.roleId = roleId ∧ record.IsCurrent at_)) :
    (holders after roleId at_).length ≤ (holders rbac roleId at_).length := by
  refine length_le_of_subset (List.nodup_dedup _) fun userId huser => ?_
  obtain ⟨assignment, hmem, hrole, hin, hholder⟩ := mem_holders.mp huser
  rcases ((insertUserRole_rows h).2 assignment).mp hmem with hold | hsame
  · exact mem_holders.mpr ⟨assignment, hold, hrole, hin, hholder⟩
  · rw [hsame] at hrole hin
    exact absurd ⟨hrole, hin⟩ hnot

theorem otherHolders_insert_of_ne {rbac after : Rbac.Store} {record : UserRole} {roleId : Uuid}
    (h : insertUserRole rbac record = .ok after) (hne : record.roleId ≠ roleId) (userId : Uuid)
    (at_ : Timestamp) :
    (otherHolders after roleId userId at_).length ≤ (otherHolders rbac roleId userId at_).length := by
  refine length_le_of_subset (List.nodup_dedup _) fun other hother => ?_
  obtain ⟨assignment, hmem, hrole, hothers, hin, hholder⟩ := mem_otherHolders.mp hother
  rcases ((insertUserRole_rows h).2 assignment).mp hmem with hold | hsame
  · exact mem_otherHolders.mpr ⟨assignment, hold, hrole, hothers, hin, hholder⟩
  · rw [hsame] at hrole
    exact absurd hrole hne

/-! ### The condition -/

section Condition

variable {ι : Type}

/-- When the count of the holders at the start of the transaction leaves room for another one,
so does the count at every instant of the new assignment. -/
def CountsEveryMoment : ι → Statement → Store ι → Phase → Prop
  | _, .count, store, .locked record maxConcurrentUsers now =>
    ∀ limit ∈ maxConcurrentUsers,
      (otherHolders store.rbac record.roleId record.userId now).length < limit →
        ∀ at_, record.IsCurrent at_ →
          (otherHolders store.rbac record.roleId record.userId at_).length < limit
  | _, _, _, _ => True

/-- The other assignments of the role that are not revoked count at the start of the
transaction. -/
def OthersCurrent : ι → Statement → Store ι → Phase → Prop
  | _, .count, store, .locked record _ now =>
    ∀ assignment ∈ store.rbac.userRoles.rows, assignment.roleId = record.roleId →
      assignment.userId ≠ record.userId → assignment.revokedAt = none → assignment.IsCurrent now
  | _, _, _, _ => True

/-- The assignment a call has under its lock when it counts the others, and the start of its
transaction. -/
def countedUnder : Statement → Phase → Option (UserRole × Timestamp)
  | .count, .locked record _ now => some (record, now)
  | _, _ => none

theorem othersCurrent_iff (i : ι) (statement : Statement) (store : Store ι) (phase : Phase) :
    (∀ locked ∈ countedUnder statement phase, ∀ assignment ∈ store.rbac.userRoles.rows,
      assignment.roleId = locked.1.roleId → assignment.userId ≠ locked.1.userId →
        assignment.revokedAt = none → assignment.IsCurrent locked.2) ↔
      OthersCurrent i statement store phase := by
  cases statement <;> cases phase <;> simp [countedUnder, OthersCurrent]

instance (i : ι) (statement : Statement) (store : Store ι) (phase : Phase) :
    Decidable (OthersCurrent i statement store phase) :=
  decidable_of_iff _ (othersCurrent_iff i statement store phase)

/-- While no assignment of the role is yet to begin, nor has ended, the count is the highest. -/
theorem countsEveryMoment_of_othersCurrent {i : ι} {statement : Statement} {store : Store ι}
    {phase : Phase} (h : OthersCurrent i statement store phase) :
    CountsEveryMoment i statement store phase := by
  cases statement with
  | count =>
    cases phase with
    | locked record maxConcurrentUsers now =>
      intro limit _ hroom at_ _
      refine Nat.lt_of_le_of_lt
        (length_le_of_subset (List.nodup_dedup _) fun other hother => ?_) hroom
      obtain ⟨assignment, hmem, hrole, hne, hin, hholder⟩ := mem_otherHolders.mp hother
      exact mem_otherHolders.mpr
        ⟨assignment, hmem, hrole, hne, h assignment hmem hrole hne hin.1, hholder⟩
    | _ => trivial
  | _ => trivial

end Condition

/-! ### Invariants -/

section Invariants

variable {ι : Type}

/-- The roles stay as they are, no row of a role is locked twice, and every role is within its
limit. -/
structure Limited (roles : Table Role.id) (store : Store ι) : Prop where
  roles : store.rbac.roles = roles
  locks : ∀ lock ∈ store.roleLocks, ∀ other ∈ store.roleLocks, lock.2 = other.2 → lock.1 = other.1
  within : WithinLimits store.rbac

/-- What a call that inserts has seen of the role: its limit, the lock on it, and how many others
hold it. -/
def Counting (i : ι) (store : Store ι) : Phase → Prop
  | .assignable _ _ _ _ role => store.rbac.roles.find? role.id = some role
  | .delegable _ _ _ assignment _ _ => asUuid assignment.roleId = assignment.roleId
  | .creatable _ _ _ role => store.rbac.roles.find? role.id = some role
  | .personCreated _ _ _ role => store.rbac.roles.find? role.id = some role
  | .inserting record limit => limit = limitOf store.rbac record.roleId
  | .began record limit _ => limit = limitOf store.rbac record.roleId
  | .locked record limit _ =>
    limit = limitOf store.rbac record.roleId ∧ (i, record.roleId) ∈ store.roleLocks
  | .counted record maxConcurrentUsers =>
    maxConcurrentUsers = limitOf store.rbac record.roleId ∧
      (i, record.roleId) ∈ store.roleLocks ∧ ∀ limit ∈ maxConcurrentUsers, ∀ at_,
        record.IsCurrent at_ →
          (otherHolders store.rbac record.roleId record.userId at_).length < limit
  | _ => True

/-- What a statement of another call leaves alone: the roles, the locks of this one, and the
counts of the roles it has locked. -/
structure Frame (k : ι) (before after : Store ι) : Prop where
  roles : after.rbac.roles = before.rbac.roles
  locks : ∀ roleId, (k, roleId) ∈ before.roleLocks → (k, roleId) ∈ after.roleLocks
  counts : ∀ roleId, (k, roleId) ∈ before.roleLocks → ∀ userId at_,
    (otherHolders after.rbac roleId userId at_).length ≤
      (otherHolders before.rbac roleId userId at_).length

theorem Counting.frame {k : ι} {before after : Store ι} (hframe : Frame k before after)
    {phase : Phase} (h : Counting k before phase) : Counting k after phase := by
  have hlimit : ∀ roleId, limitOf after.rbac roleId = limitOf before.rbac roleId := by
    intro roleId
    unfold limitOf
    rw [hframe.roles]
  have hfind : ∀ role : Role, before.rbac.roles.find? role.id = some role →
      after.rbac.roles.find? role.id = some role := by
    intro role hrole
    rw [hframe.roles]
    exact hrole
  cases phase with
  | assignable newId userId user dto role => exact hfind role h
  | creatable person user newId role => exact hfind role h
  | personCreated person user newId role => exact hfind role h
  | inserting record limit => exact h.trans (hlimit record.roleId).symm
  | began record limit now => exact h.trans (hlimit record.roleId).symm
  | locked record limit now =>
    exact ⟨h.1.trans (hlimit record.roleId).symm, hframe.locks _ h.2⟩
  | counted record maxConcurrentUsers =>
    refine ⟨h.1.trans (hlimit record.roleId).symm, hframe.locks _ h.2.1,
      fun limit hlimit at_ hcurrent => ?_⟩
    exact Nat.lt_of_le_of_lt (hframe.counts _ h.2.1 record.userId at_) (h.2.2 limit hlimit at_ hcurrent)
  | delegable newId holder target assignment validFrom validUntil => exact h
  | _ => trivial

variable [DecidableEq ι] {roles : Table Role.id} {store store' : Store ι} {i : ι}

theorem mem_rollback {lock : ι × Uuid} :
    lock ∈ (store.rollback i).roleLocks ↔ lock ∈ store.roleLocks ∧ lock.1 ≠ i := by
  simp [Store.rollback]

/-- The locks of the others stay, and theirs only. -/
theorem Limited.rollback (h : Limited roles store) (i : ι) : Limited roles (store.rollback i) :=
  ⟨h.roles, fun lock hlock other hother =>
    h.locks lock (mem_rollback.mp hlock).1 other (mem_rollback.mp hother).1, h.within⟩

/-- A store with fewer assignments in force is within the limits too. -/
theorem WithinLimits.shrinks {before after : Rbac.Store} (h : WithinLimits before)
    (hroles : after.roles = before.roles) (hshrinks : Shrinks before after) : WithinLimits after := by
  intro roleId limit hlimit at_
  unfold limitOf at hlimit
  rw [hroles] at hlimit
  exact Nat.le_trans (hshrinks.holders roleId at_) (h roleId limit hlimit at_)

/-- An assignment is inserted while there is room for it at every instant of its validity. -/
theorem WithinLimits.insert {before after : Rbac.Store} {record : UserRole}
    (h : WithinLimits before) (hinsert : insertUserRole before record = .ok after)
    (hroom : ∀ limit, limitOf before record.roleId = some limit → ∀ at_, record.IsCurrent at_ →
      (otherHolders before record.roleId record.userId at_).length < limit) : WithinLimits after := by
  intro roleId limit hlimit at_
  have hlimit' : limitOf before roleId = some limit := by
    unfold limitOf at hlimit ⊢
    rw [(insertUserRole_rows hinsert).1] at hlimit
    exact hlimit
  by_cases hnew : record.roleId = roleId ∧ record.IsCurrent at_
  · obtain ⟨rfl, hcurrent⟩ := hnew
    rw [holders_insert hinsert hcurrent]
    exact hroom limit hlimit' at_ hcurrent
  · exact Nat.le_trans (holders_insert_of_not hinsert hnew) (h roleId limit hlimit' at_)

/-- A statement leaves the other calls what they have seen: it inserts into a role that its own
call has locked. -/
theorem Effect.frame {statement : Statement} {phase : Phase} (h : Limited roles store)
    (hcounting : Counting i store phase) (heffect : Effect i statement store phase store') {k : ι}
    (hik : i ≠ k) : Frame k store store' := by
  have hrollback : ∀ roleId, (k, roleId) ∈ store.roleLocks →
      (k, roleId) ∈ (store.rollback i).roleLocks :=
    fun roleId hlock => mem_rollback.mpr ⟨hlock, fun hsame => hik hsame.symm⟩
  cases heffect with
  | wait => exact ⟨rfl, fun _ hlock => hlock, fun _ _ _ _ => Nat.le_refl _⟩
  | people rbac hroles huserRoles =>
    exact ⟨hroles, fun _ hlock => hlock, fun roleId _ userId at_ =>
      (shrinks_of_same huserRoles).otherHolders roleId userId at_⟩
  | lockRole roleId hfree =>
    exact ⟨rfl, fun _ hlock => List.mem_cons_of_mem _ hlock, fun _ _ _ _ => Nat.le_refl _⟩
  | rollback => exact ⟨rfl, hrollback, fun _ _ _ _ => Nat.le_refl _⟩
  | save record limit rbac hstatement hphase hinsert =>
    subst hphase
    refine ⟨(insertUserRole_rows hinsert).1, hrollback, fun roleId hlock userId at_ => ?_⟩
    have hne : record.roleId ≠ roleId := fun hsame =>
      hik (h.locks _ hcounting.2.1 _ hlock hsame)
    exact otherHolders_insert_of_ne hinsert hne userId at_
  | walk at_ rounds updated hphase => exact ⟨rfl, fun _ hlock => hlock, fun _ _ _ _ => Nat.le_refl _⟩
  | revokeRow assignment hmem hinForce hfree =>
    exact ⟨rfl, fun _ hlock => hlock, fun _ _ _ _ => Nat.le_refl _⟩
  | commit at_ rounds hphase =>
    exact ⟨rfl, hrollback, fun roleId _ userId now =>
      (shrinks_revoke store.rbac _ at_).otherHolders roleId userId now⟩

/-- A statement keeps the roles within their limits: an assignment is inserted after its role was
counted. -/
theorem Limited.effect {statement : Statement} {phase : Phase} (h : Limited roles store)
    (hcounting : Counting i store phase) (heffect : Effect i statement store phase store') :
    Limited roles store' := by
  cases heffect with
  | wait => exact h
  | people rbac hroles huserRoles =>
    exact ⟨hroles.trans h.roles, h.locks, h.within.shrinks hroles (shrinks_of_same huserRoles)⟩
  | lockRole roleId hfree =>
    refine ⟨h.roles, fun lock hlock other hother hsame => ?_, h.within⟩
    rcases List.mem_cons.mp hlock with rfl | hlock
    · rcases List.mem_cons.mp hother with rfl | hother
      · rfl
      · exact (hfree other hother hsame.symm).symm
    · rcases List.mem_cons.mp hother with rfl | hother
      · exact hfree lock hlock hsame
      · exact h.locks lock hlock other hother hsame
  | rollback => exact h.rollback i
  | save record limit rbac hstatement hphase hinsert =>
    subst hphase
    have hrollback := h.rollback i
    refine ⟨(insertUserRole_rows hinsert).1.trans h.roles, hrollback.locks, h.within.insert hinsert ?_⟩
    intro limit' hlimit at_ hcurrent
    exact hcounting.2.2 limit' (hcounting.1.trans hlimit) at_ hcurrent
  | walk at_ rounds updated hphase => exact ⟨h.roles, h.locks, h.within⟩
  | revokeRow assignment hmem hinForce hfree => exact ⟨h.roles, h.locks, h.within⟩
  | commit at_ rounds hphase =>
    have hrollback := h.rollback i
    exact ⟨h.roles, hrollback.locks, h.within.shrinks rfl (shrinks_revoke store.rbac _ at_)⟩

end Invariants

/-! ### Runs -/

section Runs

variable {ι : Type}

theorem requireAssignableRole_eq_ok {rbac : Rbac.Store} {now : Timestamp}
    {actor : AuthenticatedUser} {roleId : String} {role : Role}
    (h : Rbac.requireAssignableRole rbac now actor roleId = .ok role) :
    rbac.roles.find? role.id = some role ∧ role.id = asUuid roleId := by
  obtain ⟨found, hfound, h⟩ := Fallible.bind_eq_ok h
  obtain ⟨-, h⟩ := Fallible.check_eq_ok h
  obtain ⟨_, -, h⟩ := Fallible.bind_eq_ok h
  obtain ⟨-, h⟩ := Fallible.check_eq_ok h
  cases h
  have hrole := (activeRole_eq_some.mp (requireRole_eq_ok hfound)).1
  have hid := Table.key_of_find? hrole
  exact ⟨hid ▸ hrole, hid⟩

theorem delegationSource_eq_ok {rbac : Rbac.Store} {now validUntil : Timestamp} {holder : AppUser}
    {userRoleId : String} {assignment : UserRole}
    (h : delegationSource rbac now holder userRoleId validUntil = .ok assignment) :
    assignment ∈ rbac.userRoles.rows := by
  obtain ⟨found, hfound, h⟩ := Fallible.bind_eq_ok h
  obtain ⟨-, h⟩ := Fallible.check_eq_ok h
  obtain ⟨-, h⟩ := Fallible.check_eq_ok h
  cases h
  unfold delegableAssignment at hfound
  split at hfound
  · cases hfound
  · next found hrow =>
    split at hfound
    · cases hfound
    · split at hfound
      · cases hfound
      · cases hfound
        exact Table.mem_of_find? hrow

theorem assignedRecord_roleId {rbac : Rbac.Store} {now : Timestamp} {newId : Uuid} {userId : String}
    {user : AppUser} {dto : AssignUserRoleDto} {role : Role} {record : UserRole}
    (h : assignedRecord rbac now newId userId user dto role = .ok record) :
    record.roleId = role.id := by
  obtain ⟨_, -, h⟩ := Fallible.bind_eq_ok h
  obtain ⟨-, h⟩ := Fallible.check_eq_ok h
  cases h
  rfl

variable [DecidableEq ι] {roles : Table Role.id}

/-- A call goes on with what it has seen of its role. -/
theorem counting_of_program (hlower : ∀ role ∈ roles.rows, asUuid role.id = role.id) {i : ι}
    {statement : Statement} {store store' : Store ι} {phase phase' : Phase}
    (hmeets : CountsEveryMoment i statement store phase)
    (h : program i statement store phase = some (store', phase')) (hlimited : Limited roles store)
    (hcounting : Counting i store phase) : Counting i store' phase' := by
  have hlimit : ∀ role : Role, store.rbac.roles.find? role.id = some role →
      role.maxConcurrentUsers = limitOf store.rbac role.id := by
    intro role hrole
    unfold limitOf
    rw [hrole, Option.bind_some]
  unfold program at h
  split at h
  · cases h
    unfold proceed
    split <;> trivial
  · next newId userId user dto =>
    cases h
    unfold proceed
    split
    · trivial
    · next role hrole => exact (requireAssignableRole_eq_ok hrole).1
  · next newId userId user dto role =>
    cases h
    unfold proceed
    split
    · trivial
    · next record hrecord =>
      have hrole := hlimit role hcounting
      rw [← assignedRecord_roleId hrecord] at hrole
      exact hrole
  · cases h
    unfold proceed
    split <;> trivial
  · next newId holder target userRoleId validUntil =>
    cases h
    unfold proceed
    split
    · trivial
    · next assignment hsource =>
      have hlisted := store.rbac.held_listed assignment (delegationSource_eq_ok hsource)
      obtain ⟨role, hrole⟩ := Option.isSome_iff_exists.mp hlisted
      rw [hlimited.roles] at hrole
      have hid := hlower role (Table.mem_of_find? hrole)
      rw [Table.key_of_find? hrole] at hid
      exact hid
  · next newId holder target assignment validFrom validUntil =>
    cases h
    unfold proceed
    split
    · trivial
    · next role hrole =>
      obtain ⟨hfound, hid⟩ := requireAssignableRole_eq_ok hrole
      have hsame : role.id = assignment.roleId := hid.trans hcounting
      have hlimit' := hlimit role hfound
      rw [hsame] at hlimit'
      exact hlimit'
  · cases h
    unfold proceed
    split <;> trivial
  · next person user newId roleId =>
    cases h
    unfold proceed
    split
    · trivial
    · next role hrole => exact (requireAssignableRole_eq_ok hrole).1
  · next person user newId role =>
    split at h
    · cases h
      trivial
    · next rbac hinsert =>
      cases h
      have hroles := (insertPerson_eq_ok hinsert).1
      exact (congrArg (fun roles : Table Role.id => roles.find? role.id) hroles).trans hcounting
  · next now person user newId role =>
    split at h
    · cases h
      trivial
    · next rbac hinsert =>
      cases h
      have hrole := hlimit role hcounting
      unfold limitOf at hrole
      rw [← (insertUser_eq_ok hinsert).1] at hrole
      exact hrole
  · cases h
    exact hcounting
  · obtain ⟨after, hlock, heq⟩ := Option.map_eq_some_iff.mp h
    obtain ⟨-, rfl⟩ := Store.lockRole_eq_some hlock
    cases heq
    exact ⟨hcounting, List.mem_cons_self ..⟩
  · next record maxConcurrentUsers now =>
    split at h
    · cases h
      trivial
    · next hroom =>
      cases h
      refine ⟨hcounting.1, hcounting.2, fun limit hlimit at_ hcurrent => ?_⟩
      refine hmeets limit hlimit ?_ at_ hcurrent
      by_contra hfull
      exact hroom ⟨limit, hlimit, Nat.not_lt.mp hfull⟩
  · obtain ⟨after, -, heq⟩ := Option.map_eq_some_iff.mp h
    cases heq
    trivial
  · cases h
    unfold proceed
    split <;> trivial
  · cases h
    trivial
  · obtain ⟨after, -, heq⟩ := Option.map_eq_some_iff.mp h
    cases heq
    trivial
  · split at h
    · cases h
      trivial
    · cases h
      trivial
  · cases h
    trivial
  · cases h

theorem program_keeps_limits (hlower : ∀ role ∈ roles.rows, asUuid role.id = role.id) :
    Keeps (@program ι _) CountsEveryMoment (Limited roles) Counting (fun _ _ => True) where
  symm := fun _ _ _ => trivial
  own := fun _ _ _ _ _ _ hmeets h hlimited hcounting =>
    ⟨hlimited.effect hcounting (effect_of_program h),
      counting_of_program hlower hmeets h hlimited hcounting⟩
  other := fun _ _ _ _ _ _ _ _ hik _ h hlimited hcounting hother _ =>
    ⟨hother.frame (Effect.frame hlimited hcounting (effect_of_program h) hik), trivial⟩

/-- In a run whose insertions count the holders of their role as they will be at every instant
of the new assignment, no role is ever held by more users than its limit at any instant. -/
theorem role_limit_holds {rbac : Rbac.Store} (hstart : WithinLimits rbac)
    (hlower : ∀ role ∈ rbac.roles.rows, asUuid role.id = role.id)
    {c : Interleaving ι (Store ι) Phase} (hrun : Run program CountsEveryMoment (start ι rbac) c) :
    WithinLimits c.shared.rbac := by
  have hholds : Holds (Limited rbac.roles) Counting (fun _ _ => True) (start ι rbac) :=
    ⟨⟨rfl, fun _ h => (by cases h), hstart⟩, fun _ => trivial, fun _ _ _ => trivial⟩
  exact ((program_keeps_limits hlower).run hrun hholds).shared.within

end Runs

section Samples

/-- Where no role with a limit is held, every role is within its limit. -/
theorem withinLimits_of_unheld {rbac : Rbac.Store}
    (h : ∀ assignment ∈ rbac.userRoles.rows, limitOf rbac assignment.roleId = none) :
    WithinLimits rbac := by
  intro roleId limit hlimit at_
  have hnone : holders rbac roleId at_ = [] := by
    refine List.eq_nil_iff_forall_not_mem.mpr fun userId huser => ?_
    obtain ⟨assignment, hmem, hrole, -, -⟩ := mem_holders.mp huser
    have hunlimited := h assignment hmem
    rw [hrole, hlimit] at hunlimited
    cases hunlimited
  rw [hnone]
  exact Nat.zero_le limit

/-- What a call does up to its transaction, to make a user director from an instant on. -/
def makeDirector (i : Bool) (newId userId : String) (startDate : Option Timestamp) :
    List (Bool × Statement) :=
  [(i, .assignRole ⟨"ana", []⟩ newId userId ⟨"director", none, none, startDate, none⟩),
    (i, .requireAssignableRole 5 ⟨"ana", []⟩), (i, .requireScope 5), (i, .beginTransaction 5)]

/-- The transaction of a call. -/
def insertDirector (i : Bool) : List (Bool × Statement) := [(i, .lockRole), (i, .count), (i, .save)]

/-- Two calls find the role free, and the one whose transaction comes second is refused. -/
theorem role_limit_holds_refused :
    ∃ c, Run program CountsEveryMoment (start Bool (threeUsers (some 1))) c ∧ WithinLimits c.shared.rbac ∧
      holders c.shared.rbac "director" 5 = ["eva"] := by
  have hcheck := @exists_run Bool (Store Bool) Phase Statement _ program OthersCurrent
    (start Bool (threeUsers (some 1))) _
    (makeDirector false "h2" "eva" none ++ makeDirector true "h3" "leo" none ++
      insertDirector false ++ [(true, .lockRole), (true, .count)])
    (fun c => decide (holders c.shared.rbac "director" 5 = ["eva"])) (by decide +kernel)
  obtain ⟨c, hrun, hseen⟩ := hcheck
  have hmeets := hrun.mono fun _ _ _ _ => countsEveryMoment_of_othersCurrent
  have hstart : WithinLimits (threeUsers (some 1)) := withinLimits_of_unheld (by decide +kernel)
  exact ⟨c, hmeets, role_limit_holds hstart (by decide +kernel) hmeets, of_decide_eq_true hseen⟩

/-- Two calls find the role free and make two users its holders from the same later instant on:
neither assignment counts when the other one is inserted. -/
theorem role_limit_exceeded :
    ¬∀ c, WithinLimits (threeUsers (some 1)) → Run program Anyhow (start Bool (threeUsers (some 1))) c →
      WithinLimits c.shared.rbac := by
  intro hwithin
  have hcheck := @exists_run Bool (Store Bool) Phase Statement _ program Anyhow
    (start Bool (threeUsers (some 1))) _
    (makeDirector false "h2" "eva" (some 10) ++ makeDirector true "h3" "leo" (some 10) ++
      insertDirector false ++ insertDirector true)
    (fun c => decide (limitOf c.shared.rbac "director" = some 1 ∧
      (holders c.shared.rbac "director" 10).length = 2)) (by decide +kernel)
  obtain ⟨c, hrun, hseen⟩ := hcheck
  obtain ⟨hlimit, hholders⟩ := of_decide_eq_true hseen
  have hle := hwithin c (withinLimits_of_unheld (by decide +kernel)) hrun "director" 1 hlimit 10
  omega

end Samples

end InternalControl.RoleAssignments
