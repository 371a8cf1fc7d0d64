import InternalControl.RoleAssignments

/-!
# Delegations and their sources

A revocation takes with it what was delegated from the row it revokes, level by
level. While a delegation is inserted with its source in force, and not one that
a cascade has already walked past, no delegation outlives its source. A cascade
goes no more rounds than there are assignments.
-/

namespace InternalControl.RoleAssignments

open Interleaving Rbac

/-- An assignment in force that a delegation comes from. -/
def IsSource (delegated source : UserRole) : Prop :=
  delegated.DelegatedFrom source ∧ source.revokedAt = none

instance (delegated source : UserRole) : Decidable (IsSource delegated source) :=
  inferInstanceAs (Decidable (_ ∧ _))

/-- Every delegation in force has a source in force. -/
def Sourced (assignments : List UserRole) : Prop :=
  ∀ delegated ∈ assignments, delegated.revokedAt = none → delegated.isDelegated = true →
    ∃ source ∈ assignments, IsSource delegated source

/-- No two assignments in force give one user one role in one scope. -/
def KeptApart (assignments : List UserRole) : Prop :=
  ∀ assignment ∈ assignments, ∀ other ∈ assignments, assignment.Clashes other → assignment = other

instance (assignments : List UserRole) : Decidable (Sourced assignments) :=
  inferInstanceAs (Decidable (∀ delegated ∈ assignments, _ → _ → ∃ source ∈ assignments, _))

instance (assignments : List UserRole) : Decidable (KeptApart assignments) :=
  inferInstanceAs (Decidable (∀ assignment ∈ assignments, ∀ other ∈ assignments, _ → _))

/-- A delegation has one source at most. -/
theorem KeptApart.source_eq {assignments : List UserRole} (h : KeptApart assignments)
    {delegated source other : UserRole} (hsource : source ∈ assignments)
    (hother : other ∈ assignments) (hfrom : IsSource delegated source)
    (hfrom' : IsSource delegated other) : source = other := by
  obtain ⟨⟨-, huser, hrole, htype, hscope, -⟩, hinForce⟩ := hfrom
  obtain ⟨⟨-, huser', hrole', htype', hscope', -⟩, hinForce'⟩ := hfrom'
  refine h source hsource other hother ⟨hinForce, hinForce', ?_, ?_, ?_, ?_⟩
  · exact Option.some.inj (huser.symm.trans huser')
  · exact hrole.symm.trans hrole'
  · exact htype.symm.trans htype'
  · exact hscope.symm.trans hscope'

/-- What is inserted does not clash with what was there. -/
theorem insertUserRole_apart {rbac after : Rbac.Store} {record : UserRole}
    (h : insertUserRole rbac record = .ok after) :
    ∀ other ∈ rbac.userRoles.rows, ¬record.Clashes other := by
  unfold insertUserRole at h
  split at h
  · cases h
  split at h
  · cases h
  split at h
  · cases h
  next hapart => exact fun other hother hclash => hapart ⟨other, hother, hclash⟩

theorem mem_insertUserRole {rbac after : Rbac.Store} {record assignment : UserRole}
    (h : insertUserRole rbac record = .ok after) :
    assignment ∈ after.userRoles.rows ↔
      assignment ∈ rbac.userRoles.rows ∨ assignment = record := by
  obtain ⟨-, userRoles, hlisted, hinsert, rfl⟩ := insertUserRole_eq_ok h
  exact Table.mem_insert hinsert

theorem UserRole.Clashes.symm {assignment other : UserRole} (h : assignment.Clashes other) :
    other.Clashes assignment :=
  ⟨h.2.1, h.1, h.2.2.1.symm, h.2.2.2.1.symm, h.2.2.2.2.1.symm, h.2.2.2.2.2.symm⟩

/-! ### The condition -/

section Condition

variable {ι : Type}

/-- A delegation is inserted while its source is in force, and no cascade that has revoked the
source has already looked for what was delegated from it. -/
def SavesSourced : ι → Statement → Store ι → Phase → Prop
  | _, .save, store, .counted record _ =>
    record.isDelegated = true → ∃ source ∈ store.rbac.userRoles.rows, IsSource record source ∧
      ∀ revocation ∈ store.revocations, revocation.id = source.id → revocation.walked = false
  | _, _, _, _ => True

instance (i : ι) (statement : Statement) (store : Store ι) (phase : Phase) :
    Decidable (SavesSourced i statement store phase) := by
  unfold SavesSourced
  split
  · exact inferInstanceAs (Decidable (_ → ∃ source ∈ _, _))
  · infer_instance

end Condition

/-! ### Invariants -/

section Invariants

variable {ι : Type}

/-- What holds of the rows that open transactions have revoked: each one is in force, and of one
transaction only. -/
structure Held (store : Store ι) : Prop where
  exclusive : (store.revocations.map Revocation.id).Nodup
  inForce : ∀ revocation ∈ store.revocations, ∃ assignment ∈ store.rbac.userRoles.rows,
    assignment.id = revocation.id ∧ assignment.revokedAt = none

/-- What holds of the committed assignments too. -/
structure Chained (store : Store ι) : Prop extends Held store where
  sourced : Sourced store.rbac.userRoles.rows
  apart : KeptApart store.rbac.userRoles.rows

/-- One revocation stands for a row. -/
theorem Held.revocation_eq {store : Store ι} (h : Held store) {revocation other : Revocation ι}
    (hmem : revocation ∈ store.revocations) (hother : other ∈ store.revocations)
    (hid : revocation.id = other.id) : revocation = other :=
  List.inj_on_of_nodup_map h.exclusive hmem hother hid

theorem revokedBy_cons {i : ι} {store : Store ι} {id other : Uuid}
    (h : store.RevokedBy i id) :
    Store.RevokedBy { store with revocations := ⟨i, other, false⟩ :: store.revocations } i id := by
  obtain ⟨revocation, hrevocation, hfound⟩ := h
  exact ⟨revocation, List.mem_cons_of_mem _ hrevocation, hfound⟩

/-- The rows that a cascade has still to look at in this round. -/
def Phase.candidates : Phase → List Uuid
  | .updating _ _ candidates _ => candidates
  | _ => []

/-- The rows that a cascade has revoked in this round. -/
def Phase.updated : Phase → List UserRole
  | .updating _ _ _ updated => updated
  | _ => []

/-- The rounds that a cascade has gone. -/
def Phase.rounds : Phase → ℕ
  | .updating _ rounds _ _ => rounds
  | _ => 0

/-- The transaction of a cascade is open. -/
def Phase.cascades : Phase → Bool
  | .updating _ _ _ _ => true
  | _ => false

variable [DecidableEq ι]

/-- How many of its rows a cascade has walked past. -/
def Store.walkedBy (store : Store ι) (i : ι) : ℕ :=
  store.revocations.countP fun revocation => revocation.transaction = i ∧ revocation.walked = true

/-- What holds of the transaction of a call: the rows it has not walked past are those of this
round, and each round has revoked a row. -/
structure Revokes (i : ι) (store : Store ι) (phase : Phase) : Prop where
  opened : phase.cascades = false → ∀ revocation ∈ store.revocations, revocation.transaction ≠ i
  unwalked : ∀ revocation ∈ store.revocations, revocation.transaction = i →
    revocation.walked = false → ∃ assignment ∈ phase.updated, assignment.id = revocation.id
  updated : ∀ assignment ∈ phase.updated, assignment ∈ store.rbac.userRoles.rows ∧
    ∃ revocation ∈ store.revocations, revocation.transaction = i ∧
      revocation.id = assignment.id ∧ revocation.walked = false
  rounds : phase.rounds ≤ store.walkedBy i

/-- What was delegated from a row that the transaction has walked past is revoked too, or comes
next. -/
structure Cascading (i : ι) (store : Store ι) (phase : Phase) : Prop extends
    Revokes i store phase where
  walked : ∀ revocation ∈ store.revocations, revocation.transaction = i →
    revocation.walked = true → ∀ source ∈ store.rbac.userRoles.rows, source.id = revocation.id →
      ∀ delegated ∈ store.rbac.userRoles.rows, IsSource delegated source →
        store.RevokedBy i delegated.id ∨ delegated.id ∈ phase.candidates

variable {i : ι} {store store' : Store ι}

/-- A call whose transaction has revoked nothing. -/
theorem Revokes.of_none {phase : Phase}
    (hnone : ∀ revocation ∈ store.revocations, revocation.transaction ≠ i)
    (hupdated : phase.updated = []) (hrounds : phase.rounds = 0) : Revokes i store phase := by
  refine ⟨fun _ => hnone, fun revocation hmem hown => absurd hown (hnone revocation hmem),
    fun assignment hmem => ?_, ?_⟩
  · rw [hupdated] at hmem
    cases hmem
  · rw [hrounds]
    exact Nat.zero_le _

theorem Cascading.of_none {phase : Phase}
    (hnone : ∀ revocation ∈ store.revocations, revocation.transaction ≠ i)
    (hrevokes : Revokes i store phase) : Cascading i store phase :=
  ⟨hrevokes, fun revocation hmem hown => absurd hown (hnone revocation hmem)⟩

theorem mem_rollback_revocations {revocation : Revocation ι} :
    revocation ∈ (store.rollback i).revocations ↔
      revocation ∈ store.revocations ∧ revocation.transaction ≠ i := by
  simp [Store.rollback]

/-- The row of an id is one row. -/
theorem row_eq {rbac : Rbac.Store} {assignment other : UserRole}
    (hmem : assignment ∈ rbac.userRoles.rows) (hother : other ∈ rbac.userRoles.rows)
    (hid : assignment.id = other.id) : assignment = other :=
  List.inj_on_of_nodup_map rbac.userRoles.nodup hmem hother hid

/-- What is in force after a cascade has committed was so before, and not revoked by it. -/
theorem mem_commitCascade {at_ : Timestamp} {assignment : UserRole} :
    (assignment ∈ (store.commitCascade i at_).rbac.userRoles.rows ∧ assignment.revokedAt = none) ↔
      assignment ∈ store.rbac.userRoles.rows ∧ assignment.revokedAt = none ∧
        ¬store.RevokedBy i assignment.id := by
  have hrows : (store.commitCascade i at_).rbac.userRoles.rows =
      store.rbac.userRoles.rows.map fun row =>
        if store.RevokedBy i row.id then { row with revokedAt := some at_ } else row := rfl
  rw [hrows, List.mem_map]
  constructor
  · rintro ⟨⟨old, hold, hsame⟩, hinForce⟩
    by_cases hrevoked : store.RevokedBy i old.id
    · rw [if_pos hrevoked] at hsame
      rw [← hsame] at hinForce
      cases hinForce
    · rw [if_neg hrevoked] at hsame
      subst hsame
      exact ⟨hold, hinForce, hrevoked⟩
  · rintro ⟨hmem, hinForce, hkept⟩
    exact ⟨⟨assignment, hmem, if_neg hkept⟩, hinForce⟩

/-! ### The committed assignments -/

theorem Held.rollback (h : Held store) (i : ι) : Held (store.rollback i) :=
  ⟨h.exclusive.sublist (List.filter_sublist.map _), fun revocation hmem =>
    h.inForce revocation (mem_rollback_revocations.mp hmem).1⟩

/-- The rows that the others have revoked stay in force when a cascade commits. -/
theorem Held.commitCascade (h : Held store) (at_ : Timestamp) : Held (store.commitCascade i at_) := by
  have hrollback := h.rollback i
  refine ⟨hrollback.exclusive, fun revocation hmem => ?_⟩
  obtain ⟨hold, hothers⟩ := mem_rollback_revocations.mp hmem
  obtain ⟨assignment, hassignment, hid, hinForce⟩ := h.inForce revocation hold
  have hkept : ¬store.RevokedBy i assignment.id := by
    rintro ⟨other, hother, hown, hsame⟩
    rw [← h.revocation_eq hother hold (hsame.trans hid)] at hothers
    exact hothers hown
  exact ⟨assignment, (mem_commitCascade.mpr ⟨hassignment, hinForce, hkept⟩).1, hid, hinForce⟩

theorem Held.effect {statement : Statement} {phase : Phase} (h : Held store)
    (heffect : Effect i statement store phase store') : Held store' := by
  cases heffect with
  | wait => exact h
  | people rbac hroles huserRoles =>
    obtain ⟨hexclusive, hinForce⟩ := h
    rw [← huserRoles] at hinForce
    exact ⟨hexclusive, hinForce⟩
  | lockRole roleId hfree => exact ⟨h.exclusive, h.inForce⟩
  | rollback => exact h.rollback i
  | save record limit rbac hstatement hphase hinsert =>
    have hrollback := h.rollback i
    refine ⟨hrollback.exclusive, fun revocation hmem => ?_⟩
    obtain ⟨assignment, hassignment, hfound⟩ := hrollback.inForce revocation hmem
    exact ⟨assignment, (mem_insertUserRole hinsert).mpr (.inl hassignment), hfound⟩
  | walk at_ rounds updated hphase =>
    have hids : (store.walk i).revocations.map Revocation.id =
        store.revocations.map Revocation.id := by
      unfold Store.walk
      rw [List.map_map]
      refine List.map_congr_left fun revocation _ => ?_
      dsimp only [Function.comp_apply]
      split <;> rfl
    refine ⟨hids ▸ h.exclusive, fun revocation hmem => ?_⟩
    obtain ⟨old, hold, rfl⟩ := List.mem_map.mp hmem
    have hfound := h.inForce old hold
    split
    · exact hfound
    · exact hfound
  | revokeRow assignment hmem hinForce hfree =>
    refine ⟨List.nodup_cons.mpr ⟨fun hin => ?_, h.exclusive⟩, fun revocation hin => ?_⟩
    · obtain ⟨revocation, hrevocation, hid⟩ := List.mem_map.mp hin
      exact hfree revocation hrevocation hid
    · rcases List.mem_cons.mp hin with rfl | hold
      · exact ⟨assignment, hmem, rfl, hinForce⟩
      · exact h.inForce revocation hold
  | commit at_ rounds hphase => exact h.commitCascade at_

/-- A delegation goes in with its source. -/
theorem Sourced.save {record : UserRole} {before after : Rbac.Store}
    (h : Sourced before.userRoles.rows) (hinsert : insertUserRole before record = .ok after)
    (hsource : record.isDelegated = true → ∃ source ∈ before.userRoles.rows,
      IsSource record source) : Sourced after.userRoles.rows := by
  intro delegated hmem hinForce hdelegated
  rcases (mem_insertUserRole hinsert).mp hmem with hold | rfl
  · obtain ⟨source, hsource, hfrom⟩ := h delegated hold hinForce hdelegated
    exact ⟨source, (mem_insertUserRole hinsert).mpr (.inl hsource), hfrom⟩
  · obtain ⟨source, hsource, hfrom⟩ := hsource hdelegated
    exact ⟨source, (mem_insertUserRole hinsert).mpr (.inl hsource), hfrom⟩

theorem KeptApart.save {record : UserRole} {before after : Rbac.Store}
    (h : KeptApart before.userRoles.rows) (hinsert : insertUserRole before record = .ok after) :
    KeptApart after.userRoles.rows := by
  have hapart := insertUserRole_apart hinsert
  intro assignment hmem other hother hclash
  rcases (mem_insertUserRole hinsert).mp hmem with hold | rfl
  · rcases (mem_insertUserRole hinsert).mp hother with hold' | rfl
    · exact h assignment hold other hold' hclash
    · exact absurd (UserRole.Clashes.symm hclash) (hapart assignment hold)
  · rcases (mem_insertUserRole hinsert).mp hother with hold' | hsame
    · exact absurd hclash (hapart other hold')
    · exact hsame.symm

/-- What a cascade leaves in force has a source that it leaves in force too. -/
theorem Chained.commitCascade (h : Chained store) {at_ : Timestamp} {rounds : ℕ}
    (hcascading : Cascading i store (.updating at_ rounds [] [])) :
    Chained (store.commitCascade i at_) := by
  refine ⟨h.toHeld.commitCascade at_, fun delegated hmem hinForce hdelegated => ?_,
    fun assignment hmem other hother hclash => ?_⟩
  · obtain ⟨hold, -, hkept⟩ := mem_commitCascade.mp ⟨hmem, hinForce⟩
    obtain ⟨source, hsource, hfrom⟩ := h.sourced delegated hold hinForce hdelegated
    have hsourceKept : ¬store.RevokedBy i source.id := by
      rintro ⟨revocation, hrevocation, hown, hid⟩
      cases hwalked : revocation.walked with
      | false =>
        obtain ⟨assignment, hupdated, -⟩ := hcascading.unwalked revocation hrevocation hown hwalked
        cases hupdated
      | true =>
        rcases hcascading.walked revocation hrevocation hown hwalked source hsource hid.symm
          delegated hold hfrom with hrevoked | hnext
        · exact hkept hrevoked
        · cases hnext
    exact ⟨source, (mem_commitCascade.mpr ⟨hsource, hfrom.2, hsourceKept⟩).1, hfrom⟩
  · obtain ⟨hold, -, -⟩ := mem_commitCascade.mp ⟨hmem, hclash.1⟩
    obtain ⟨hold', -, -⟩ := mem_commitCascade.mp ⟨hother, hclash.2.1⟩
    exact h.apart assignment hold other hold' hclash

theorem Chained.effect {statement : Statement} {phase : Phase} (h : Chained store)
    (hmeets : SavesSourced i statement store phase) (hcascading : Cascading i store phase)
    (heffect : Effect i statement store phase store') : Chained store' := by
  have hheld := h.toHeld.effect heffect
  cases heffect with
  | wait => exact h
  | people rbac hroles huserRoles =>
    obtain ⟨-, hsourced, hapart⟩ := h
    rw [← huserRoles] at hsourced hapart
    exact ⟨hheld, hsourced, hapart⟩
  | lockRole roleId hfree => exact ⟨hheld, h.sourced, h.apart⟩
  | rollback => exact ⟨hheld, h.sourced, h.apart⟩
  | save record limit rbac hstatement hphase hinsert =>
    subst hstatement hphase
    refine ⟨hheld, h.sourced.save hinsert fun hdelegated => ?_, h.apart.save hinsert⟩
    obtain ⟨source, hsource, hfrom, -⟩ := hmeets hdelegated
    exact ⟨source, hsource, hfrom⟩
  | walk at_ rounds updated hphase => exact ⟨hheld, h.sourced, h.apart⟩
  | revokeRow assignment hmem hinForce hfree => exact ⟨hheld, h.sourced, h.apart⟩
  | commit at_ rounds hphase =>
    subst hphase
    exact h.commitCascade hcascading

/-! ### The transactions of the others -/

/-- What a statement of another call leaves alone: the rows that this one's transaction has
revoked. -/
structure Spares (k : ι) (before after : Store ι) : Prop where
  revocations : (after.revocations.filter fun revocation => revocation.transaction = k) =
    before.revocations.filter fun revocation => revocation.transaction = k
  kept : ∀ assignment ∈ before.rbac.userRoles.rows, before.RevokedBy k assignment.id →
    assignment ∈ after.rbac.userRoles.rows

/-- Nothing new is delegated from the rows that a transaction has walked past. -/
def SparesWalked (k : ι) (before after : Store ι) : Prop :=
  ∀ revocation ∈ before.revocations, revocation.transaction = k → revocation.walked = true →
    ∀ source ∈ after.rbac.userRoles.rows, source.id = revocation.id →
      ∀ delegated ∈ after.rbac.userRoles.rows, IsSource delegated source →
        source ∈ before.rbac.userRoles.rows ∧ delegated ∈ before.rbac.userRoles.rows

theorem Spares.mem_iff {k : ι} {before after : Store ι} (h : Spares k before after)
    {revocation : Revocation ι} (hown : revocation.transaction = k) :
    revocation ∈ after.revocations ↔ revocation ∈ before.revocations := by
  have hfilter : ∀ revocations : List (Revocation ι), revocation ∈ revocations ↔
      revocation ∈ revocations.filter fun other => other.transaction = k := by
    intro revocations
    simp [hown]
  rw [hfilter, h.revocations, ← hfilter]

theorem Spares.revokedBy_iff {k : ι} {before after : Store ι} (h : Spares k before after)
    {id : Uuid} : after.RevokedBy k id ↔ before.RevokedBy k id := by
  constructor
  · rintro ⟨revocation, hmem, hown, hid⟩
    exact ⟨revocation, (h.mem_iff hown).mp hmem, hown, hid⟩
  · rintro ⟨revocation, hmem, hown, hid⟩
    exact ⟨revocation, (h.mem_iff hown).mpr hmem, hown, hid⟩

theorem Revokes.spared {k : ι} {before after : Store ι} (hspares : Spares k before after)
    {phase : Phase} (h : Revokes k before phase) : Revokes k after phase := by
  refine ⟨fun hclosed revocation hmem hown => ?_, fun revocation hmem hown hunwalked => ?_,
    fun assignment hupdated => ?_, ?_⟩
  · exact h.opened hclosed revocation ((hspares.mem_iff hown).mp hmem) hown
  · exact h.unwalked revocation ((hspares.mem_iff hown).mp hmem) hown hunwalked
  · obtain ⟨hmem, revocation, hrevocation, hown, hid, hunwalked⟩ := h.updated assignment hupdated
    refine ⟨hspares.kept assignment hmem ⟨revocation, hrevocation, hown, hid⟩, revocation, ?_, hown,
      hid, hunwalked⟩
    exact (hspares.mem_iff hown).mpr hrevocation
  · have hcount : ∀ revocations : List (Revocation ι),
        (revocations.countP fun revocation => revocation.transaction = k ∧ revocation.walked = true) =
          (revocations.filter fun revocation => revocation.transaction = k).countP
            fun revocation => revocation.walked := by
      intro revocations
      rw [List.countP_filter]
      refine List.countP_congr fun revocation _ => ?_
      simp [and_comm]
    have hrounds := h.rounds
    unfold Store.walkedBy at hrounds ⊢
    rw [hcount] at hrounds ⊢
    rw [hspares.revocations]
    exact hrounds

theorem Cascading.spared {k : ι} {before after : Store ι} (hspares : Spares k before after)
    (hwalked : SparesWalked k before after) {phase : Phase} (h : Cascading k before phase) :
    Cascading k after phase := by
  refine ⟨h.toRevokes.spared hspares,
    fun revocation hmem hown hpast source hsource hid delegated hdelegated hfrom => ?_⟩
  have hold := (hspares.mem_iff hown).mp hmem
  obtain ⟨hsource', hdelegated'⟩ :=
    hwalked revocation hold hown hpast source hsource hid delegated hdelegated hfrom
  rw [hspares.revokedBy_iff]
  exact h.walked revocation hold hown hpast source hsource' hid delegated hdelegated' hfrom

theorem filter_rollback {k : ι} (hik : i ≠ k) :
    ((store.rollback i).revocations.filter fun revocation => revocation.transaction = k) =
      store.revocations.filter fun revocation => revocation.transaction = k := by
  unfold Store.rollback
  rw [List.filter_filter]
  refine List.filter_congr fun revocation _ => ?_
  by_cases hown : revocation.transaction = k
  · simp [hown, Ne.symm hik]
  · simp [hown]

theorem Effect.spares {statement : Statement} {phase : Phase} (h : Held store)
    (heffect : Effect i statement store phase store') {k : ι} (hik : i ≠ k) :
    Spares k store store' := by
  cases heffect with
  | wait => exact ⟨rfl, fun _ hmem _ => hmem⟩
  | people rbac hroles huserRoles => exact ⟨rfl, fun assignment hmem _ => huserRoles ▸ hmem⟩
  | lockRole roleId hfree => exact ⟨rfl, fun _ hmem _ => hmem⟩
  | rollback => exact ⟨filter_rollback hik, fun _ hmem _ => hmem⟩
  | save record limit rbac hstatement hphase hinsert =>
    exact ⟨filter_rollback hik, fun assignment hmem _ =>
      (mem_insertUserRole hinsert).mpr (.inl hmem)⟩
  | walk at_ rounds updated hphase =>
    refine ⟨?_, fun _ hmem _ => hmem⟩
    unfold Store.walk
    dsimp only
    induction store.revocations with
    | nil => rfl
    | cons revocation rest ih =>
      rw [List.map_cons, List.filter_cons, List.filter_cons, ih]
      by_cases hown : revocation.transaction = i
      · simp [hown, hik]
      · simp [hown]
  | revokeRow assignment hmem hinForce hfree =>
    refine ⟨?_, fun _ hmem _ => hmem⟩
    rw [List.filter_cons, if_neg (by simpa using hik)]
  | commit at_ rounds hphase =>
    refine ⟨filter_rollback hik, fun assignment hmem hrevoked => ?_⟩
    obtain ⟨revocation, hrevocation, hown, hid⟩ := hrevoked
    obtain ⟨row, hrow, hrowId, hinForce⟩ := h.inForce revocation hrevocation
    have hsame := row_eq hrow hmem (hrowId.trans hid)
    rw [hsame] at hinForce
    refine (mem_commitCascade.mpr ⟨hmem, hinForce, ?_⟩).1
    rintro ⟨other, hother, hothers, hotherId⟩
    have heq := h.revocation_eq hother hrevocation (hotherId.trans hid.symm)
    rw [heq] at hothers
    exact hik (hothers.symm.trans hown)

theorem Effect.sparesWalked {statement : Statement} {phase : Phase} (h : Chained store)
    (hmeets : SavesSourced i statement store phase)
    (heffect : Effect i statement store phase store') (k : ι) : SparesWalked k store store' := by
  cases heffect with
  | wait => exact fun _ _ _ _ _ hsource _ _ hdelegated _ => ⟨hsource, hdelegated⟩
  | people rbac hroles huserRoles =>
    intro _ _ _ _ source hsource _ delegated hdelegated _
    exact ⟨huserRoles ▸ hsource, huserRoles ▸ hdelegated⟩
  | lockRole roleId hfree => exact fun _ _ _ _ _ hsource _ _ hdelegated _ => ⟨hsource, hdelegated⟩
  | rollback => exact fun _ _ _ _ _ hsource _ _ hdelegated _ => ⟨hsource, hdelegated⟩
  | save record limit rbac hstatement hphase hinsert =>
    subst hstatement hphase
    intro revocation hmem hown hwalked source hsource hid delegated hdelegated hfrom
    -- The row that was walked past is an old one, and not the source of the new delegation.
    obtain ⟨row, hrow, hrowId, -⟩ := h.inForce revocation hmem
    have hrow' : row ∈ rbac.userRoles.rows := (mem_insertUserRole hinsert).mpr (.inl hrow)
    have hsame := row_eq hsource hrow' (hid.trans hrowId.symm)
    have hold : source ∈ store.rbac.userRoles.rows := hsame ▸ hrow
    refine ⟨hold, ?_⟩
    rcases (mem_insertUserRole hinsert).mp hdelegated with hold' | rfl
    · exact hold'
    · obtain ⟨source', hsource', hfrom', hfree⟩ := hmeets hfrom.1.1
      have heq := h.apart.source_eq hold hsource' hfrom hfrom'
      have hunwalked := hfree revocation hmem (hid.symm.trans (congrArg UserRole.id heq))
      rw [hwalked] at hunwalked
      cases hunwalked
  | walk at_ rounds updated hphase =>
    exact fun _ _ _ _ _ hsource _ _ hdelegated _ => ⟨hsource, hdelegated⟩
  | revokeRow assignment hmem hinForce hfree =>
    exact fun _ _ _ _ _ hsource _ _ hdelegated _ => ⟨hsource, hdelegated⟩
  | commit at_ rounds hphase =>
    intro revocation hmem hown hwalked source hsource hid delegated hdelegated hfrom
    obtain ⟨hsource', -, -⟩ := mem_commitCascade.mp ⟨hsource, hfrom.2⟩
    obtain ⟨hdelegated', -, -⟩ := mem_commitCascade.mp ⟨hdelegated, hfrom.1.2.2.2.2.2⟩
    exact ⟨hsource', hdelegated'⟩

/-! ### The own transaction -/

/-- A row of a round was revoked. -/
theorem Revokes.revokeRow {at_ : Timestamp} {rounds : ℕ} {candidates : List Uuid}
    {updated : List UserRole} {assignment : UserRole}
    (h : Revokes i store (.updating at_ rounds (assignment.id :: candidates) updated))
    (hmem : assignment ∈ store.rbac.userRoles.rows) :
    Revokes i { store with revocations := ⟨i, assignment.id, false⟩ :: store.revocations }
      (.updating at_ rounds candidates (updated ++ [assignment])) := by
  refine ⟨fun hclosed => (by cases hclosed), fun revocation hin hown hunwalked => ?_,
    fun other hother => ?_, ?_⟩
  · rcases List.mem_cons.mp hin with rfl | hold
    · exact ⟨assignment, List.mem_append_right _ (List.mem_singleton_self _), rfl⟩
    · obtain ⟨other, hother, hid⟩ := h.unwalked revocation hold hown hunwalked
      exact ⟨other, List.mem_append_left _ hother, hid⟩
  · rcases List.mem_append.mp hother with hbefore | hlast
    · obtain ⟨hrow, revocation, hrevocation, hfound⟩ := h.updated other hbefore
      exact ⟨hrow, revocation, List.mem_cons_of_mem _ hrevocation, hfound⟩
    · cases List.mem_singleton.mp hlast
      exact ⟨hmem, _, List.mem_cons_self .., rfl, rfl, rfl⟩
  · have hrounds := h.rounds
    unfold Store.walkedBy at hrounds ⊢
    rw [List.countP_cons_of_neg (by simp)]
    exact hrounds

theorem Cascading.revokeRow {at_ : Timestamp} {rounds : ℕ} {candidates : List Uuid}
    {updated : List UserRole} {assignment : UserRole}
    (h : Cascading i store (.updating at_ rounds (assignment.id :: candidates) updated))
    (hmem : assignment ∈ store.rbac.userRoles.rows) :
    Cascading i { store with revocations := ⟨i, assignment.id, false⟩ :: store.revocations }
      (.updating at_ rounds candidates (updated ++ [assignment])) := by
  refine ⟨h.toRevokes.revokeRow hmem,
    fun revocation hin hown hwalked source hsource hid delegated hdelegated hfrom => ?_⟩
  rcases List.mem_cons.mp hin with rfl | hold
  · cases hwalked
  · rcases h.walked revocation hold hown hwalked source hsource hid delegated hdelegated hfrom with
      hdone | hnext
    · exact .inl (revokedBy_cons hdone)
    · rcases List.mem_cons.mp hnext with hsame | hlater
      · exact .inl ⟨⟨i, assignment.id, false⟩, List.mem_cons_self .., rfl, hsame.symm⟩
      · exact .inr hlater

/-- A row of a round was not there any more, or revoked by the transaction already. -/
theorem Cascading.skipRow {at_ : Timestamp} {rounds : ℕ} {id : Uuid} {candidates : List Uuid}
    {updated : List UserRole} (h : Cascading i store (.updating at_ rounds (id :: candidates) updated))
    (hdone : ∀ assignment ∈ store.rbac.userRoles.rows, assignment.id = id →
      assignment.revokedAt = none → store.RevokedBy i id) :
    Cascading i store (.updating at_ rounds candidates updated) := by
  refine ⟨⟨fun hclosed => (by cases hclosed), h.unwalked, h.updated, h.rounds⟩,
    fun revocation hin hown hwalked source hsource hid delegated hdelegated hfrom => ?_⟩
  rcases h.walked revocation hin hown hwalked source hsource hid delegated hdelegated hfrom with
    hrevoked | hnext
  · exact .inl hrevoked
  · rcases List.mem_cons.mp hnext with hsame | hlater
    · have hrevoked := hdone delegated hdelegated hsame hfrom.1.2.2.2.2.2
      exact .inl (hsame ▸ hrevoked)
    · exact .inr hlater

theorem revokedBy_walk {id : Uuid} : (store.walk i).RevokedBy i id ↔ store.RevokedBy i id := by
  unfold Store.RevokedBy Store.walk
  constructor
  · rintro ⟨_, hmem, hown, hid⟩
    obtain ⟨revocation, hrevocation, rfl⟩ := List.mem_map.mp hmem
    refine ⟨revocation, hrevocation, ?_, ?_⟩
    · split at hown <;> exact hown
    · split at hid <;> exact hid
  · rintro ⟨revocation, hrevocation, hown, hid⟩
    exact ⟨_, List.mem_map_of_mem hrevocation, by rw [if_pos hown]; exact hown,
      by rw [if_pos hown]; exact hid⟩

/-- Walking past a row that was revoked in this round counts one more at least. -/
theorem walkedBy_walk_lt
    (h : ∃ revocation ∈ store.revocations, revocation.transaction = i ∧ revocation.walked = false) :
    store.walkedBy i < (store.walk i).walkedBy i := by
  unfold Store.walkedBy Store.walk
  dsimp only
  rw [List.countP_map]
  obtain ⟨revocation, hmem, hown, hunwalked⟩ := h
  obtain ⟨before, after, hsplit⟩ := List.append_of_mem hmem
  have hle : ∀ revocations : List (Revocation ι),
      (revocations.countP fun revocation => revocation.transaction = i ∧ revocation.walked = true) ≤
        revocations.countP ((fun revocation : Revocation ι =>
          decide (revocation.transaction = i ∧ revocation.walked = true)) ∘ fun revocation =>
            if revocation.transaction = i then { revocation with walked := true }
            else revocation) := by
    intro revocations
    refine List.countP_mono_left fun other _ hother => ?_
    have hother' := of_decide_eq_true hother
    simp [hother'.1]
  have hbefore := hle before
  have hafter := hle after
  rw [hsplit, List.countP_append, List.countP_append, List.countP_cons_of_neg (by simp [hunwalked]),
    List.countP_cons_of_pos (by simp [hown])]
  omega

theorem mem_walk {revocation : Revocation ι} (h : revocation ∈ (store.walk i).revocations)
    (hown : revocation.transaction = i) : revocation.walked = true ∧
      ∃ old ∈ store.revocations, old.transaction = i ∧ old.id = revocation.id := by
  obtain ⟨old, hold, hsame⟩ := List.mem_map.mp h
  have hownOld : old.transaction = i := by
    rw [← hsame] at hown
    split at hown <;> exact hown
  rw [if_pos hownOld] at hsame
  exact ⟨hsame ▸ rfl, old, hold, hownOld, hsame ▸ rfl⟩

/-- A round is over, and the next one looks for what was delegated from its rows. -/
theorem Revokes.walk {at_ : Timestamp} {rounds : ℕ} {updated : List UserRole}
    (h : Revokes i store (.updating at_ rounds [] updated)) (hsome : updated ≠ []) :
    Revokes i (store.walk i)
      (.updating at_ (rounds + 1) (store.delegationIds i updated) []) := by
  refine ⟨fun hclosed => (by cases hclosed), fun revocation hin hown hunwalked => ?_,
    fun other hother => (by cases hother), ?_⟩
  · rw [(mem_walk hin hown).1] at hunwalked
    cases hunwalked
  · obtain ⟨first, rest, rfl⟩ := List.exists_cons_of_ne_nil hsome
    obtain ⟨-, revocation, hrevocation, hown, -, hunwalked⟩ :=
      h.updated first (List.mem_cons_self ..)
    have hmore := walkedBy_walk_lt ⟨revocation, hrevocation, hown, hunwalked⟩
    have hrounds := h.rounds
    have hbefore : Phase.rounds (.updating at_ rounds [] (first :: rest)) = rounds := rfl
    have hafter : Phase.rounds (.updating at_ (rounds + 1)
      (store.delegationIds i (first :: rest)) []) = rounds + 1 := rfl
    omega

theorem Cascading.walk {at_ : Timestamp} {rounds : ℕ} {updated : List UserRole}
    (h : Cascading i store (.updating at_ rounds [] updated)) (hsome : updated ≠ []) :
    Cascading i (store.walk i)
      (.updating at_ (rounds + 1) (store.delegationIds i updated) []) := by
  refine ⟨h.toRevokes.walk hsome,
    fun revocation hin hown _ source hsource hid delegated hdelegated hfrom => ?_⟩
  rw [revokedBy_walk]
  obtain ⟨-, old, hold, hownOld, hidOld⟩ := mem_walk hin hown
  by_cases hrevoked : store.RevokedBy i delegated.id
  · exact .inl hrevoked
  · right
    cases hwalked : old.walked with
    | true =>
      rcases h.walked old hold hownOld hwalked source hsource (hid.trans hidOld.symm) delegated
        hdelegated hfrom with hdone | hnext
      · exact absurd hdone hrevoked
      · cases hnext
    | false =>
      obtain ⟨row, hrow, hrowId⟩ := h.unwalked old hold hownOld hwalked
      have hsame := row_eq hsource (h.updated row hrow).1 (hid.trans (hidOld.symm.trans hrowId.symm))
      refine List.mem_map_of_mem (List.mem_filter.mpr ⟨hdelegated, decide_eq_true ⟨hrevoked, ?_⟩⟩)
      exact ⟨row, hrow, hsame ▸ hfrom.1⟩

/-- A statement of a cascade, or of a call whose transaction has revoked nothing. -/
inductive Turn (i : ι) (store : Store ι) (phase : Phase) : Store ι → Phase → Prop
  | apart (store' : Store ι) (phase' : Phase)
      (hnone : ∀ revocation ∈ store'.revocations, revocation.transaction ≠ i)
      (hupdated : phase'.updated = []) (hrounds : phase'.rounds = 0) : Turn i store phase store' phase'
  | skipRow (at_ : Timestamp) (rounds : ℕ) (id : Uuid) (candidates : List Uuid)
      (updated : List UserRole) (hphase : phase = .updating at_ rounds (id :: candidates) updated)
      (hdone : ∀ assignment ∈ store.rbac.userRoles.rows, assignment.id = id →
        assignment.revokedAt = none → store.RevokedBy i id) :
      Turn i store phase store (.updating at_ rounds candidates updated)
  | revokeRow (at_ : Timestamp) (rounds : ℕ) (candidates : List Uuid) (updated : List UserRole)
      (assignment : UserRole)
      (hphase : phase = .updating at_ rounds (assignment.id :: candidates) updated)
      (hmem : assignment ∈ store.rbac.userRoles.rows) :
      Turn i store phase
        { store with revocations := ⟨i, assignment.id, false⟩ :: store.revocations }
        (.updating at_ rounds candidates (updated ++ [assignment]))
  | walk (at_ : Timestamp) (rounds : ℕ) (updated : List UserRole)
      (hphase : phase = .updating at_ rounds [] updated) (hsome : updated ≠ []) :
      Turn i store phase (store.walk i)
        (.updating at_ (rounds + 1) (store.delegationIds i updated) [])

theorem Turn.revokes {phase phase' : Phase} (h : Revokes i store phase)
    (hturn : Turn i store phase store' phase') : Revokes i store' phase' := by
  cases hturn with
  | apart store' phase' hnone hupdated hrounds => exact .of_none hnone hupdated hrounds
  | skipRow at_ rounds id candidates updated hphase hdone =>
    subst hphase
    exact ⟨fun hclosed => (by cases hclosed), h.unwalked, h.updated, h.rounds⟩
  | revokeRow at_ rounds candidates updated assignment hphase hmem =>
    subst hphase
    exact h.revokeRow hmem
  | walk at_ rounds updated hphase hsome =>
    subst hphase
    exact h.walk hsome

theorem Turn.cascading {phase phase' : Phase} (h : Cascading i store phase)
    (hturn : Turn i store phase store' phase') : Cascading i store' phase' := by
  cases hturn with
  | apart store' phase' hnone hupdated hrounds =>
    exact .of_none hnone (.of_none hnone hupdated hrounds)
  | skipRow at_ rounds id candidates updated hphase hdone =>
    subst hphase
    exact h.skipRow hdone
  | revokeRow at_ rounds candidates updated assignment hphase hmem =>
    subst hphase
    exact h.revokeRow hmem
  | walk at_ rounds updated hphase hsome =>
    subst hphase
    exact h.walk hsome

theorem turn_of_program {statement : Statement} {phase phase' : Phase}
    (h : program i statement store phase = some (store', phase')) (hrevokes : Revokes i store phase) :
    Turn i store phase store' phase' := by
  have hproceed : ∀ {α : Type} (next : α → Phase) (decided : Except ErrorCode α),
      (∀ value, (next value).updated = [] ∧ (next value).rounds = 0) →
      (∀ revocation ∈ store.revocations, revocation.transaction ≠ i) →
        Turn i store phase store (proceed next decided) := by
    intro α next decided hnext hnone
    unfold proceed
    split
    · exact .apart _ _ hnone rfl rfl
    · next value => exact .apart _ _ hnone (hnext value).1 (hnext value).2
  have hrollback : ∀ revocation ∈ (store.rollback i).revocations, revocation.transaction ≠ i :=
    fun revocation hmem => (mem_rollback_revocations.mp hmem).2
  unfold program at h
  split at h
  · cases h
    exact hproceed _ _ (fun _ => ⟨rfl, rfl⟩) (hrevokes.opened rfl)
  · cases h
    exact hproceed _ _ (fun _ => ⟨rfl, rfl⟩) (hrevokes.opened rfl)
  · cases h
    exact hproceed _ _ (fun _ => ⟨rfl, rfl⟩) (hrevokes.opened rfl)
  · cases h
    exact hproceed _ _ (fun _ => ⟨rfl, rfl⟩) (hrevokes.opened rfl)
  · cases h
    exact hproceed _ _ (fun _ => ⟨rfl, rfl⟩) (hrevokes.opened rfl)
  · cases h
    exact hproceed _ _ (fun _ => ⟨rfl, rfl⟩) (hrevokes.opened rfl)
  · cases h
    exact hproceed _ _ (fun _ => ⟨rfl, rfl⟩) (hrevokes.opened rfl)
  · cases h
    exact hproceed _ _ (fun _ => ⟨rfl, rfl⟩) (hrevokes.opened rfl)
  · have hnone := hrevokes.opened rfl
    split at h
    · cases h
      exact .apart _ _ hnone rfl rfl
    · cases h
      exact .apart _ _ hnone rfl rfl
  · have hnone := hrevokes.opened rfl
    split at h
    · cases h
      exact .apart _ _ hnone rfl rfl
    · cases h
      exact .apart _ _ hnone rfl rfl
  · cases h
    exact .apart _ _ (hrevokes.opened rfl) rfl rfl
  · obtain ⟨after, hlock, heq⟩ := Option.map_eq_some_iff.mp h
    obtain ⟨-, rfl⟩ := Store.lockRole_eq_some hlock
    cases heq
    exact .apart _ _ (hrevokes.opened rfl) rfl rfl
  · have hnone := hrevokes.opened rfl
    split at h
    · cases h
      exact .apart _ _ hrollback rfl rfl
    · cases h
      exact .apart _ _ hnone rfl rfl
  · obtain ⟨after, hsave, heq⟩ := Option.map_eq_some_iff.mp h
    cases heq
    rcases Store.save_eq_some hsave with rfl | ⟨rbac, -, rfl⟩
    · exact .apart _ _ hrollback rfl rfl
    · exact .apart _ _ hrollback rfl rfl
  · cases h
    exact hproceed _ _ (fun _ => ⟨rfl, rfl⟩) (hrevokes.opened rfl)
  · cases h
    exact .apart _ _ (hrevokes.opened rfl) rfl rfl
  · next at_ rounds id candidates updated =>
    obtain ⟨after, hrow, heq⟩ := Option.map_eq_some_iff.mp h
    cases heq
    rcases Store.updateRow_eq_some hrow with ⟨rfl, hdone⟩ | ⟨assignment, hmem, rfl, -, -, rfl⟩
    · rw [Option.toList_none, List.append_nil]
      exact .skipRow _ _ _ _ _ rfl hdone
    · exact .revokeRow _ _ _ _ assignment rfl hmem
  · next at_ rounds updated =>
    split at h
    · cases h
      exact .apart _ _ hrollback rfl rfl
    · next hsome =>
      cases h
      exact .walk _ _ _ rfl hsome
  · cases h
    exact .apart _ _ hrollback rfl rfl
  · cases h

/-! ### Runs -/

theorem program_keeps_revoking : Keeps (@program ι _) Anyhow Held Revokes (fun _ _ => True) where
  symm := fun _ _ _ => trivial
  own := fun _ _ _ _ _ _ _ h hheld hrevokes =>
    ⟨hheld.effect (effect_of_program h), Turn.revokes hrevokes (turn_of_program h hrevokes)⟩
  other := fun _ _ _ _ _ _ _ _ hik _ h hheld _ hother _ =>
    ⟨hother.spared (Effect.spares hheld (effect_of_program h) hik), trivial⟩

theorem program_keeps_chains : Keeps (@program ι _) SavesSourced Chained Cascading
    (fun _ _ => True) where
  symm := fun _ _ _ => trivial
  own := fun _ _ _ _ _ _ hmeets h hchained hcascading =>
    ⟨hchained.effect hmeets hcascading (effect_of_program h),
      Turn.cascading hcascading (turn_of_program h hcascading.toRevokes)⟩
  other := fun _ k _ _ _ _ _ _ hik hmeets h hchained _ hother _ =>
    ⟨hother.spared (Effect.spares hchained.toHeld (effect_of_program h) hik)
      (Effect.sparesWalked hchained hmeets (effect_of_program h) k), trivial⟩

/-- A cascade has gone no more rounds than there are assignments: each one has revoked a row. -/
theorem Revokes.rounds_le {phase : Phase} (hheld : Held store) (h : Revokes i store phase) :
    phase.rounds ≤ store.rbac.userRoles.rows.length := by
  have hwalked : store.walkedBy i ≤ store.revocations.length := List.countP_le_length
  have hids : store.revocations.map Revocation.id ⊆ store.rbac.userRoles.rows.map UserRole.id := by
    intro id hid
    obtain ⟨revocation, hmem, rfl⟩ := List.mem_map.mp hid
    obtain ⟨assignment, hassignment, hsame, -⟩ := hheld.inForce revocation hmem
    exact hsame ▸ List.mem_map_of_mem hassignment
  have hlength := (hheld.exclusive.subperm hids).length_le
  rw [List.length_map, List.length_map] at hlength
  exact Nat.le_trans h.rounds (Nat.le_trans hwalked hlength)

/-- In no run does a cascade go more rounds than there are assignments, and in a run whose
delegations are inserted with a source in force that no cascade has walked past, every delegation
in force has its source in force in every committed state. -/
theorem delegations_end_with_source {rbac : Rbac.Store} (hapart : KeptApart rbac.userRoles.rows)
    (hsourced : Sourced rbac.userRoles.rows) {c : Interleaving ι (Store ι) Phase} :
    (Run program Anyhow (start ι rbac) c →
        ∀ i, (c.phase i).rounds ≤ c.shared.rbac.userRoles.rows.length) ∧
      (Run program SavesSourced (start ι rbac) c → Sourced c.shared.rbac.userRoles.rows) := by
  have hheld : Held (⟨rbac, [], []⟩ : Store ι) := ⟨List.nodup_nil, fun _ h => (by cases h)⟩
  have hrevokes : ∀ i, Revokes i (⟨rbac, [], []⟩ : Store ι) .idle :=
    fun i => .of_none (fun _ h => (by cases h)) rfl rfl
  constructor
  · intro hrun i
    have hstart : Holds Held Revokes (fun _ _ => True) (start ι rbac) :=
      ⟨hheld, hrevokes, fun _ _ _ => trivial⟩
    have hend := program_keeps_revoking.run hrun hstart
    exact (hend.client i).rounds_le hend.shared
  · intro hrun
    have hstart : Holds Chained Cascading (fun _ _ => True) (start ι rbac) :=
      ⟨⟨hheld, hsourced, hapart⟩, fun i => .of_none (fun _ h => (by cases h)) (hrevokes i),
        fun _ _ _ => trivial⟩
    exact (program_keeps_chains.run hrun hstart).shared.sourced

end Invariants

section Samples

/-- One of the users is director. -/
def evaDirects : Rbac.Store :=
  Fallible.attempt (insertUserRole · (heldBy "h2" "eva" "director")) (threeUsers none)

/-- What a call does up to its transaction, to delegate that role to the other user. -/
def delegateToLeo : List (Bool × Statement) :=
  [(false, .delegateRole ⟨"ana", []⟩ "h3" "eva" "h2" ⟨"leo", some 100⟩),
    (false, .findUserRoleById 5), (false, .requireAssignableRole 5 ⟨"ana", []⟩)]

def insertDelegation : List (Bool × Statement) :=
  [(false, .beginTransaction 7), (false, .lockRole), (false, .count), (false, .save)]

/-- What a call does to revoke that role, up to its first round. -/
def revokeEva : List (Bool × Statement) :=
  [(true, .revokeRole 6 ⟨"ana", []⟩ "eva" "h2"), (true, .updateAssignment 6), (true, .updateRow),
    (true, .updateDelegations)]

def Phase.isIdle : Phase → Bool
  | .idle => true
  | _ => false

theorem Phase.eq_idle {phase : Phase} (h : phase.isIdle = true) : phase = .idle := by
  cases phase with
  | idle => rfl
  | _ => cases h

/-- A delegation is revoked with its source. -/
theorem delegations_end_with_source_revoked :
    ∃ c, Run program SavesSourced (start Bool evaDirects) c ∧
      Sourced c.shared.rbac.userRoles.rows ∧
      (∀ i, (c.phase i).rounds ≤ c.shared.rbac.userRoles.rows.length) ∧
      c.shared.rbac.userRoles.rows.map UserRole.revokedAt = [none, some 6, some 6] := by
  have hcheck := @exists_run Bool (Store Bool) Phase Statement _ program SavesSourced
    (start Bool evaDirects) _
    (delegateToLeo ++ insertDelegation ++ revokeEva ++
      [(true, .updateRow), (true, .updateDelegations), (true, .updateDelegations)])
    (fun c => decide (c.shared.rbac.userRoles.rows.map UserRole.revokedAt = [none, some 6, some 6]))
    (by decide +kernel)
  obtain ⟨c, hrun, hseen⟩ := hcheck
  have hchains := @delegations_end_with_source Bool _ evaDirects (by decide +kernel)
    (by decide +kernel) c
  exact ⟨c, hrun, hchains.2 hrun, hchains.1 (hrun.mono fun _ _ _ _ _ => trivial),
    of_decide_eq_true hseen⟩

/-- The source is revoked after the call has read it and before it inserts the delegation. -/
theorem delegation_outlives_source :
    ¬∀ c, KeptApart evaDirects.userRoles.rows → Sourced evaDirects.userRoles.rows →
      Run program Anyhow (start Bool evaDirects) c → (∀ i, c.phase i = .idle) →
        Sourced c.shared.rbac.userRoles.rows := by
  intro hsourced
  have hcheck := @exists_run Bool (Store Bool) Phase Statement _ program Anyhow
    (start Bool evaDirects) _
    (delegateToLeo ++ revokeEva ++ [(true, .updateDelegations)] ++ insertDelegation)
    (fun c => (c.phase false).isIdle && (c.phase true).isIdle &&
      decide ¬Sourced c.shared.rbac.userRoles.rows) (by decide +kernel)
  obtain ⟨c, hrun, hseen⟩ := hcheck
  obtain ⟨hidle, houtlives⟩ := Bool.and_eq_true_iff.mp hseen
  obtain ⟨hfirst, hsecond⟩ := Bool.and_eq_true_iff.mp hidle
  refine of_decide_eq_true houtlives (hsourced c (by decide +kernel) (by decide +kernel) hrun ?_)
  intro i
  cases i with
  | false => exact Phase.eq_idle hfirst
  | true => exact Phase.eq_idle hsecond

end Samples

end InternalControl.RoleAssignments
