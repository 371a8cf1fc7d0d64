import InternalControl.StructureReconcile

/-!
# Cycles after a reconcile

The second loop of the plan is a settlement of proposed parents, so the
parents of the reconciled state are the settled ones. From that: exactly when
the reconciled state is free of cycles.
-/

namespace InternalControl.StructureReconcile

open ParentMap

variable {collation : Collation} {sha256 : Sha256} {state : ReconcileState}
  {scope : ReconcileScope}

/-! ### Candidates -/

/-- The centres a plan changes by itself: in its scope and placed automatically. -/
def movable (scope : ReconcileScope) (center : ReconcileCenter) : Bool :=
  inScope scope center && decide (center.mode = .auto)

/-- The proposal that gives a centre the parent of the rule. -/
def proposal (state : ReconcileState) (center : ReconcileCenter) (rule : Option RowId) :
    ReconcileReparent :=
  ⟨centerRef center, centerOf state center.parentId, centerOf state rule⟩

theorem reviewCenter_candidate (center : ReconcileCenter) :
    (reviewCenter collation state scope center).candidate =
      if movable scope center then
        (parentDiffers collation state center).map (proposal state center)
      else none := by
  unfold reviewCenter movable proposal
  cases inScope scope center <;> cases center.mode <;>
    cases hp : parentDiffers collation state center <;>
    cases hu : unitDiffers state center <;> simp

theorem reviewCenter_relocation (center : ReconcileCenter) :
    (reviewCenter collation state scope center).relocation =
      if movable scope center then
        (unitDiffers state center).map fun expected =>
          ⟨centerRef center, unitOf state center.unitId, unitRef expected⟩
      else none := by
  unfold reviewCenter movable
  cases inScope scope center <;> cases center.mode <;>
    cases hp : parentDiffers collation state center <;>
    cases hu : unitDiffers state center <;> simp

theorem mem_activeCenters {center : ReconcileCenter} :
    center ∈ activeCenters collation state ↔ center ∈ state.centers ∧ center.isActive = true := by
  rw [activeCenters, List.mem_insertionSort, List.mem_filter]

theorem mem_candidates {reparent : ReconcileReparent} :
    reparent ∈ candidates collation state scope ↔
      ∃ center ∈ activeCenters collation state, ∃ rule, movable scope center = true ∧
        parentDiffers collation state center = some rule ∧
        proposal state center rule = reparent := by
  simp only [candidates, reviews, List.filterMap_map, List.mem_filterMap, Function.comp_apply,
    reviewCenter_candidate]
  refine exists_congr fun center => and_congr_right fun _ => ?_
  cases movable scope center <;> simp

theorem nodup_activeCenters_ids (hw : WellFormed state) :
    ((activeCenters collation state).map ReconcileCenter.id).Nodup := by
  have hperm := (List.perm_insertionSort
    (fun left right : ReconcileCenter => collation.le left.code right.code = true)
    (state.centers.filter ReconcileCenter.isActive)).map ReconcileCenter.id
  exact hperm.nodup_iff.mpr (hw.centerIds.sublist (List.filter_sublist.map _))

/-- No centre is proposed two parents. -/
theorem nodup_candidates_ids (hw : WellFormed state) :
    ((candidates collation state scope).map fun reparent => reparent.center.id).Nodup := by
  simp only [candidates, reviews, List.filterMap_map]
  refine (nodup_activeCenters_ids hw).sublist (KeyedMap.filterMap_map_sublist ?_ _)
  intro center reparent h
  rw [Function.comp_apply, reviewCenter_candidate] at h
  split at h
  · obtain ⟨rule, _, rfl⟩ := Option.map_eq_some_iff.mp h
    rfl
  · cases h

/-! ### The proposed parents -/

theorem proposedParents_of_notMem {parents : RowId → Option RowId}
    {reparents : List ReconcileReparent} {id : RowId}
    (h : id ∉ reparents.map fun reparent => reparent.center.id) :
    proposedParents parents reparents id = parents id := by
  induction reparents generalizing parents with
  | nil => rfl
  | cons reparent rest ih =>
    rw [List.map_cons, List.mem_cons, not_or] at h
    rw [proposedParents, ih h.2, Function.update_of_ne h.1]

theorem proposedParents_of_mem {parents : RowId → Option RowId}
    {reparents : List ReconcileReparent} {reparent : ReconcileReparent}
    (hnodup : (reparents.map fun reparent => reparent.center.id).Nodup) (h : reparent ∈ reparents) :
    proposedParents parents reparents reparent.center.id =
      reparent.toParent.map ReconcileCenterRef.id := by
  induction reparents generalizing parents with
  | nil => cases h
  | cons first rest ih =>
    rw [List.map_cons, List.nodup_cons] at hnodup
    rw [proposedParents]
    rcases List.mem_cons.mp h with rfl | h
    · rw [proposedParents_of_notMem hnodup.1, Function.update_self]
    · exact ih hnodup.2 h

/-! ### The second loop is a settlement -/

/-- The parent a centre gets back when its proposal is refused. -/
def restoredParent (state : ReconcileState) (id : RowId) : Option RowId :=
  (centerOf state (parentOf state id)).map ReconcileCenterRef.id

/-- The second loop splits the proposals by what the settlement refuses, and
keeps their order. -/
theorem acceptReparents_eq {old parents : RowId → Option RowId}
    {reparents : List ReconcileReparent}
    (hnodup : (reparents.map fun reparent => reparent.center.id).Nodup)
    (hold : ∀ reparent ∈ reparents,
      old reparent.center.id = reparent.fromParent.map ReconcileCenterRef.id)
    (hset : ∀ reparent ∈ reparents,
      parents reparent.center.id = reparent.toParent.map ReconcileCenterRef.id)
    {refused : List RowId} (hrefused : refused =
      rejected closesCycle old parents (reparents.map fun reparent => reparent.center.id)) :
    acceptReparents parents reparents =
      (reparents.filter fun reparent => reparent.center.id ∉ refused,
        reparents.filter fun reparent => reparent.center.id ∈ refused) := by
  induction reparents generalizing parents refused with
  | nil => rfl
  | cons first rest ih =>
    rw [List.map_cons, List.nodup_cons] at hnodup
    have hne : ∀ reparent ∈ rest, reparent.center.id ≠ first.center.id := fun reparent hr he =>
      hnodup.1 (he ▸ List.mem_map_of_mem hr)
    -- a centre proposed no parent is at no loop, so the first test of the guard adds nothing
    have hguard : (first.toParent.isSome && closesCycle parents first.center.id) =
        closesCycle parents first.center.id := by
      cases hto : first.toParent with
      | some parent => rfl
      | none =>
        have hnone := hset first List.mem_cons_self
        rw [hto, Option.map_none] at hnone
        simp [closesCycle, hnone, meetsWithin]
    have hstays : ∀ r ∈ rest, turn closesCycle old parents first.center.id r.center.id =
        r.toParent.map ReconcileCenterRef.id := fun r hr => by
      rw [turn_of_ne (hne r hr), hset r (List.mem_cons_of_mem _ hr)]
    have hrest := ih hnodup.2 (fun r hr => hold r (List.mem_cons_of_mem _ hr)) hstays rfl
    have hfirst : first.center.id ∉ rejected closesCycle old
        (turn closesCycle old parents first.center.id)
        (rest.map fun reparent => reparent.center.id) := fun h =>
      hnodup.1 (mem_of_mem_rejected h)
    rw [List.map_cons, rejected] at hrefused
    rw [acceptReparents, hguard]
    by_cases hc : closesCycle parents first.center.id = true
    · rw [if_pos hc] at hrefused ⊢
      rw [turn, if_pos hc, hold first List.mem_cons_self] at hrest
      rw [hrest, hrefused]
      simp only [List.filter_cons, List.mem_cons, true_or, not_true_eq_false, decide_true,
        decide_false, if_true, Bool.false_eq_true, if_false, Prod.mk.injEq, List.cons.injEq,
        true_and]
      rw [turn, if_pos hc, hold first List.mem_cons_self]
      constructor <;>
      · refine List.filter_congr fun r hr => ?_
        simp [hne r hr]
    · rw [if_neg hc] at hrefused ⊢
      rw [turn, if_neg hc] at hrest hfirst hrefused
      rw [hrest, hrefused, List.filter_cons, List.filter_cons, if_pos (by simpa using hfirst),
        if_neg (by simpa using hfirst)]

variable (collation state scope) in
/-- The parents with every candidate's proposal set. -/
def proposed : RowId → Option RowId :=
  proposedParents (parentOf state) (candidates collation state scope)

variable (collation state scope) in
/-- The ids of the candidates, in code order. -/
def candidateIds : List RowId :=
  (candidates collation state scope).map fun reparent => reparent.center.id

variable (collation state scope) in
/-- The ids of the candidates that the cycle check refuses, in code order. -/
def refusedIds : List RowId :=
  rejected closesCycle (restoredParent state) (proposed collation state scope)
    (candidateIds collation state scope)

theorem parentOf_of_mem (hw : WellFormed state) {center : ReconcileCenter}
    (h : center ∈ state.centers) : parentOf state center.id = center.parentId := by
  have hget := (KeyedMap.get?_index_iff hw.centerIds).mpr ⟨h, rfl⟩
  rw [parentOf, centerById, hget, Option.bind_some]

/-- A candidate's old parent is the one its centre gets back. -/
theorem restoredParent_of_mem_candidates (hw : WellFormed state) {reparent : ReconcileReparent}
    (h : reparent ∈ candidates collation state scope) :
    restoredParent state reparent.center.id =
      reparent.fromParent.map ReconcileCenterRef.id := by
  obtain ⟨center, hcenter, rule, _, _, rfl⟩ := mem_candidates.mp h
  have hparent := parentOf_of_mem hw (mem_activeCenters.mp hcenter).1
  simp only [restoredParent, proposal, centerRef, hparent]

/-- The second loop accepts what the settlement does not refuse. -/
theorem settledReparents_eq (hw : WellFormed state) :
    settledReparents collation state scope =
      ((candidates collation state scope).filter fun reparent =>
          reparent.center.id ∉ refusedIds collation state scope,
        (candidates collation state scope).filter fun reparent =>
          reparent.center.id ∈ refusedIds collation state scope) :=
  acceptReparents_eq (nodup_candidates_ids hw)
    (fun _ h => restoredParent_of_mem_candidates hw h)
    (fun _ h => proposedParents_of_mem (nodup_candidates_ids hw) h) rfl

/-! ### The reconciled state -/

/-- Where every parent exists, a refused centre gets its own parent back. -/
theorem restoredParent_eq (hp : ParentsExist state) (id : RowId) :
    restoredParent state id = parentOf state id := by
  unfold restoredParent centerOf
  cases hparent : parentOf state id with
  | none => rfl
  | some parent =>
    obtain ⟨center, hcenter, hid⟩ := Option.bind_eq_some_iff.mp hparent
    have hhas := hp center (KeyedMap.mem_of_get?_index hcenter).1 parent hid
    obtain ⟨found, hfound⟩ := Option.isSome_iff_exists.mp hhas
    simp [hfound, centerRef, (KeyedMap.mem_of_get?_index hfound).2]

theorem centerById_apply (plan : ReconcilePlan) (id : RowId) :
    (centerById (applyReconcilePlanInMemory state plan)).get? id =
      ((centerById state).get? id).map (applyToCenter plan) :=
  KeyedMap.get?_index_map (fun center => (rfl : (applyToCenter plan center).id = center.id))
    state.centers id

/-- The accepted proposals, looked up by centre. -/
theorem get?_accepted (hw : WellFormed state) (id : RowId) :
    (KeyedMap.ofList ((settledReparents collation state scope).1.map fun item =>
      (item.center.id, item.toParent.map ReconcileCenterRef.id))).get? id =
      if id ∈ candidateIds collation state scope ∧ id ∉ refusedIds collation state scope then
        some (proposed collation state scope id)
      else none := by
  rw [settledReparents_eq hw]
  have hnodup : (candidateIds collation state scope).Nodup := nodup_candidates_ids hw
  split_ifs with h
  · obtain ⟨hmem, hkept⟩ := h
    obtain ⟨reparent, hr, rfl⟩ := List.mem_map.mp hmem
    rw [proposed, proposedParents_of_mem hnodup hr, KeyedMap.get?_ofList_iff]
    · exact List.mem_map.mpr ⟨reparent, List.mem_filter.mpr ⟨hr, by simpa using hkept⟩, rfl⟩
    · rw [List.map_map]
      exact hnodup.sublist (List.filter_sublist.map _)
  · refine KeyedMap.get?_ofList_eq_none fun hmem => h ?_
    simp only [List.map_map, List.mem_map, List.mem_filter, Function.comp_apply,
      decide_eq_true_eq] at hmem
    obtain ⟨reparent, ⟨hr, hkept⟩, rfl⟩ := hmem
    exact ⟨List.mem_map_of_mem hr, hkept⟩

variable (collation sha256 state scope) in
/-- The state after one plan with a scope. -/
def reconciled : ReconcileState :=
  applyReconcilePlanInMemory state (planStructureReconcile collation sha256 state scope)

/-- The parents of the reconciled state: proposed ones where accepted, the
state's own elsewhere. -/
theorem parentOf_reconciled (hw : WellFormed state) (id : RowId) :
    parentOf (reconciled collation sha256 state scope) id =
      if id ∈ candidateIds collation state scope ∧ id ∉ refusedIds collation state scope then
        proposed collation state scope id
      else parentOf state id := by
  unfold parentOf reconciled
  rw [centerById_apply]
  cases hcenter : (centerById state).get? id with
  | none =>
    rw [if_neg, Option.map_none, Option.bind_none]
    rintro ⟨hmem, _⟩
    obtain ⟨reparent, hr, rfl⟩ := List.mem_map.mp hmem
    obtain ⟨center, hc, _, _, _, rfl⟩ := mem_candidates.mp hr
    have hsome := (KeyedMap.get?_index_iff hw.centerIds).mpr ⟨(mem_activeCenters.mp hc).1, rfl⟩
    cases hcenter.symm.trans hsome
  | some center =>
    have hid := (KeyedMap.mem_of_get?_index hcenter).2
    rw [Option.map_some, Option.bind_some, Option.bind_some, applyToCenter]
    simp only [planStructureReconcile, hid, get?_accepted hw]
    split_ifs <;> rfl

/-- The parents of the reconciled state are the settled ones. -/
theorem parentOf_reconciled_eq_settle (hw : WellFormed state) (hp : ParentsExist state) :
    parentOf (reconciled collation sha256 state scope) =
      settle closesCycle (parentOf state) (proposed collation state scope)
        (candidateIds collation state scope) := by
  funext id
  have hrestored : restoredParent state = parentOf state := funext (restoredParent_eq hp)
  have hnodup : (candidateIds collation state scope).Nodup := nodup_candidates_ids hw
  rw [parentOf_reconciled hw, ← hrestored, settle_apply hnodup]
  change _ = if id ∈ refusedIds collation state scope then _ else _
  by_cases hrefused : id ∈ refusedIds collation state scope
  · simp [hrefused, hrestored]
  · by_cases hmem : id ∈ candidateIds collation state scope
    · simp [hrefused, hmem]
    · simp only [hrefused, hmem, false_and, if_false, hrestored]
      exact (proposedParents_of_notMem hmem).symm

variable (collation state scope) in
/-- At the turn of each candidate, with the parents as they stand then: the
parent the candidate is left with does not lead back to it through centres
none of which is a later candidate. -/
def ReparentsClear : Prop :=
  TurnsClear closesCycle (parentOf state) (proposed collation state scope)
    (candidateIds collation state scope)

/-- Parents that always come earlier under some rank have no cycle. -/
theorem acyclic_parentOf_of_rank (rank : RowId → ℕ)
    (h : ∀ center ∈ state.centers, ∀ parent ∈ center.parentId, rank parent < rank center.id) :
    Acyclic (parentOf state) := by
  refine acyclic_of_rank rank fun a b hab => ?_
  obtain ⟨center, hcenter, hparent⟩ := Option.bind_eq_some_iff.mp hab
  obtain ⟨hmem, rfl⟩ := KeyedMap.mem_of_get?_index hcenter
  exact h center hmem b hparent

/-! ### Three centres that end in a cycle -/

/-- The unit of the three centres. -/
def contabilidad : ReconcileUnit where
  id := ⟨"u43", by decide⟩
  code := "U43"
  name := "Unidad 43"
  codePrefix := some "43"
  isActive := true
  headCostCenterId := none
  headCostCenterCode := none

/-- A centre of that unit, named after its code. -/
def centerOfContabilidad (code id : String) (h : id ≠ "") (parentId : Option RowId)
    (mode : ReconcileMode) : ReconcileCenter where
  id := ⟨id, h⟩
  code := code
  name := "Centro " ++ code
  isActive := true
  hasMovement := true
  unitId := some contabilidad.id
  parentId := parentId
  mode := mode

/-- A grouping centre placed by hand under 4352, which is under 4351. -/
def threeCenters : ReconcileState where
  units := [contabilidad]
  centers :=
    [centerOfContabilidad "4350" "c4350" (by decide) (some ⟨"c4352", by decide⟩) .manual,
      centerOfContabilidad "4351" "c4351" (by decide) none .auto,
      centerOfContabilidad "4352" "c4352" (by decide) (some ⟨"c4351", by decide⟩) .auto]

/-- The digest of the plan of the three centres. -/
def threeCentersSha256 : Sha256 :=
  .ofTable
    [("\x7b\"relocations\":[],\"reparents\":[[\"c4351\",null,\"c4350\"]],\"headLinks\":[],\"headUnlinks\":[]\x7d",
      "928d699782a8a9278c1503b4c43d1ff7b54175ae965d8aa1aab67ae10b006969")] (by decide)

theorem threeCenters_wellFormed : WellFormed threeCenters where
  unitIds := by decide
  centerIds := by decide
  activeCodes := by decide

theorem threeCenters_parentsExist : ParentsExist threeCenters := by
  unfold ParentsExist
  decide

theorem threeCenters_acyclic : Acyclic (parentOf threeCenters) :=
  acyclic_parentOf_of_rank
    (fun id => if id.text = "c4351" then 0 else if id.text = "c4352" then 1 else 2) (by decide)

end InternalControl.StructureReconcile
