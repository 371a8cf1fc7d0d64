import InternalControl.ReconcileCycles

/-!
# Centres after a reconcile

What a second plan with the same scope finds, review by review: no centre is
relocated again, and a parent is proposed again exactly where the cycle check
refused it and the scope still covers the centre.
-/

namespace InternalControl.StructureReconcile

open ParentMap CodePrefix Text

/-! ### Lookups in the reconciled state -/

section Apply

variable {collation : Collation} {state : ReconcileState} (plan : ReconcilePlan)

theorem activeCenters_apply : activeCenters collation (applyReconcilePlanInMemory state plan) =
    (activeCenters collation state).map (applyToCenter plan) := by
  have hsort := List.map_insertionSort
    (fun left right : ReconcileCenter => collation.le left.code right.code = true)
    (fun left right => collation.le left.code right.code = true) (applyToCenter plan)
    (state.centers.filter ReconcileCenter.isActive) fun _ _ _ _ => Iff.rfl
  rw [activeCenters, activeCenters, hsort, applyReconcilePlanInMemory, List.filter_map]
  rfl

theorem activeByCode_apply (code : String) :
    (activeByCode collation (applyReconcilePlanInMemory state plan)).get? code =
      ((activeByCode collation state).get? code).map (applyToCenter plan) := by
  unfold activeByCode
  rw [activeCenters_apply]
  exact KeyedMap.get?_index_map
    (fun center => (rfl : (applyToCenter plan center).code = center.code)) _ code

/-- A change of head changes nothing else of a unit. -/
theorem applyToUnit_kept (unit : ReconcileUnit) :
    (applyToUnit plan unit).id = unit.id ∧ (applyToUnit plan unit).code = unit.code ∧
      (applyToUnit plan unit).codePrefix = unit.codePrefix ∧
      (applyToUnit plan unit).isActive = unit.isActive := by
  unfold applyToUnit
  dsimp only
  split
  · exact ⟨rfl, rfl, rfl, rfl⟩
  · split <;> exact ⟨rfl, rfl, rfl, rfl⟩

theorem prefixedUnits_apply : prefixedUnits (applyReconcilePlanInMemory state plan) =
    (prefixedUnits state).map (applyToUnit plan) := by
  simp only [prefixedUnits, applyReconcilePlanInMemory]
  rw [List.filter_map]
  refine congrArg _ (List.filter_congr fun unit _ => ?_)
  simp only [Function.comp_apply, applyToUnit_kept plan unit]

theorem expectedUnit_apply (center : ReconcileCenter) :
    expectedUnit (applyReconcilePlanInMemory state plan) (applyToCenter plan center) =
      (expectedUnit state center).map (applyToUnit plan) := by
  unfold expectedUnit
  rw [prefixedUnits_apply]
  refine resolveCenterUnit_map (fun unit => ?_) _ _
  rw [(applyToUnit_kept plan unit).2.2.1]

theorem ruleId_apply (center : ReconcileCenter) :
    ruleId collation (applyReconcilePlanInMemory state plan) (applyToCenter plan center) =
      ruleId collation state center := by
  have hhas : ∀ code, (activeByCode collation (applyReconcilePlanInMemory state plan)).has code =
      (activeByCode collation state).has code := fun code => by
    rw [KeyedMap.has, activeByCode_apply, Option.isSome_map, KeyedMap.has]
  have hcode : (applyToCenter plan center).code = center.code := rfl
  simp only [ruleId, hhas, hcode, activeByCode_apply, Option.map_map]
  rfl

/-- The rule about grouping ancestors sees the same where the parent is the same. -/
theorem groupingAncestor_apply {center : ReconcileCenter} (rule : Option RowId)
    (hparent : (applyToCenter plan center).parentId = center.parentId) :
    groupingAncestor (applyReconcilePlanInMemory state plan) (applyToCenter plan center) rule =
      groupingAncestor state center rule := by
  unfold groupingAncestor
  rw [hparent]
  cases center.parentId with
  | none => rfl
  | some parent =>
    rw [Option.bind_some, Option.bind_some, centerById_apply, Option.any_map]
    rfl

/-- A centre that kept its parent is asked for the same change of parent. -/
theorem parentDiffers_apply {center : ReconcileCenter}
    (hparent : (applyToCenter plan center).parentId = center.parentId) :
    parentDiffers collation (applyReconcilePlanInMemory state plan) (applyToCenter plan center) =
      parentDiffers collation state center := by
  have hcode : (applyToCenter plan center).code = center.code := rfl
  simp only [parentDiffers, ruleId_apply, groupingAncestor_apply plan _ hparent, hparent, hcode]

end Apply

variable {collation : Collation} (sha256 : Sha256) {state : ReconcileState}
  {scope : ReconcileScope}

/-! ### Reviews of the reconciled centres -/

/-- A parent the rule asks for is a centre of the state. -/
theorem centerOf_ruleId (center : ReconcileCenter) :
    (centerOf state (ruleId collation state center)).map ReconcileCenterRef.id =
      ruleId collation state center := by
  cases hrule : ruleId collation state center with
  | none => rfl
  | some parent =>
    obtain ⟨code, _, hcode⟩ := Option.bind_eq_some_iff.mp hrule
    obtain ⟨found, hfound, rfl⟩ := Option.map_eq_some_iff.mp hcode
    have hmem := (mem_activeCenters.mp (KeyedMap.mem_of_get?_index hfound).1).1
    have hhas := (KeyedMap.index_has_iff ReconcileCenter.id state.centers found.id).mpr
      ⟨found, hmem, rfl⟩
    obtain ⟨same, hsame⟩ := Option.isSome_iff_exists.mp hhas
    simp [centerOf, centerById, hsame, centerRef, (KeyedMap.mem_of_get?_index hsame).2]

theorem ruleId_of_parentDiffers {center : ReconcileCenter} {rule : Option RowId}
    (h : parentDiffers collation state center = some rule) :
    rule = ruleId collation state center := by
  simp only [parentDiffers] at h
  split_ifs at h
  exact (Option.some.inj h).symm

/-- A candidate is a movable centre whose parent differs. -/
theorem mem_candidateIds (hw : WellFormed state) {center : ReconcileCenter}
    (hc : center ∈ activeCenters collation state) :
    center.id ∈ candidateIds collation state scope ↔
      movable scope center = true ∧ (parentDiffers collation state center).isSome := by
  simp only [candidateIds, List.mem_map, mem_candidates]
  constructor
  · rintro ⟨reparent, ⟨other, hother, rule, hmovable, hrule, rfl⟩, hid⟩
    have hsame := List.inj_on_of_nodup_map (nodup_activeCenters_ids hw) hother hc hid
    subst hsame
    exact ⟨hmovable, by rw [hrule]; rfl⟩
  · rintro ⟨hmovable, hsome⟩
    obtain ⟨rule, hrule⟩ := Option.isSome_iff_exists.mp hsome
    exact ⟨_, ⟨center, hc, rule, hmovable, hrule, rfl⟩, rfl⟩

theorem proposed_of_parentDiffers (hw : WellFormed state) {center : ReconcileCenter}
    (hc : center ∈ activeCenters collation state) (hmovable : movable scope center = true)
    {rule : Option RowId} (hrule : parentDiffers collation state center = some rule) :
    proposed collation state scope center.id = rule := by
  have hmem : proposal state center rule ∈ candidates collation state scope :=
    mem_candidates.mpr ⟨center, hc, rule, hmovable, hrule, rfl⟩
  have hset : proposed collation state scope (proposal state center rule).center.id = _ :=
    proposedParents_of_mem (nodup_candidates_ids hw) hmem
  rw [ruleId_of_parentDiffers hrule, proposal, centerOf_ruleId] at hset
  rw [ruleId_of_parentDiffers hrule]
  exact hset

variable (collation state scope) in
/-- A centre as the plan with a scope leaves it. -/
def reconciledCenter (center : ReconcileCenter) : ReconcileCenter :=
  applyToCenter (planStructureReconcile collation sha256 state scope) center

variable {sha256} in
theorem plan_relocations :
    (planStructureReconcile collation sha256 state scope).relocations =
      (activeCenters collation state).filterMap fun center =>
        (reviewCenter collation state scope center).relocation := by
  simp only [planStructureReconcile, reviews, List.filterMap_map]
  rfl

theorem activeCenters_reconciled :
    activeCenters collation (reconciled collation sha256 state scope) =
      (activeCenters collation state).map (reconciledCenter collation sha256 state scope) :=
  activeCenters_apply _

/-- The unit of a reconciled centre: the expected one where the plan may move it. -/
theorem unitId_reconciled (hw : WellFormed state) {center : ReconcileCenter}
    (hc : center ∈ activeCenters collation state) :
    (reconciledCenter collation sha256 state scope center).unitId =
      if movable scope center then
        ((unitDiffers state center).map ReconcileUnit.id).or center.unitId
      else center.unitId := by
  have hreview : ∀ other item, (reviewCenter collation state scope other).relocation = some item →
      item.center.id = other.id := by
    intro other item h
    rw [reviewCenter_relocation] at h
    split at h
    · obtain ⟨unit, _, rfl⟩ := Option.map_eq_some_iff.mp h
      rfl
    · cases h
  have hlookup : (KeyedMap.ofList (((activeCenters collation state).filterMap fun other =>
        (reviewCenter collation state scope other).relocation).map fun item =>
          (item.center.id, item.toUnit.id))).get? center.id =
      ((reviewCenter collation state scope center).relocation).map fun item => item.toUnit.id :=
    KeyedMap.get?_ofList_filterMap (nodup_activeCenters_ids hw) hreview hc
  rw [reviewCenter_relocation] at hlookup
  rw [reconciledCenter, applyToCenter, plan_relocations]
  dsimp only
  rw [hlookup]
  cases movable scope center with
  | false => rfl
  | true =>
    simp only [if_true, Option.map_map]
    rfl

/-- The parent of a reconciled centre: the proposed one where it was accepted. -/
theorem parentId_reconciled (hw : WellFormed state) (center : ReconcileCenter) :
    (reconciledCenter collation sha256 state scope center).parentId =
      if center.id ∈ candidateIds collation state scope ∧
          center.id ∉ refusedIds collation state scope then
        proposed collation state scope center.id
      else center.parentId := by
  simp only [reconciledCenter, applyToCenter, planStructureReconcile, get?_accepted hw]
  split_ifs <;> rfl

/-- After a plan, a movable centre is where its code asks for. -/
theorem unitDiffers_reconciled (hw : WellFormed state) {center : ReconcileCenter}
    (hc : center ∈ activeCenters collation state) (hmovable : movable scope center = true) :
    unitDiffers (reconciled collation sha256 state scope)
      (reconciledCenter collation sha256 state scope center) = none := by
  rw [unitDiffers, unitId_reconciled sha256 hw hc, if_pos hmovable, reconciled, reconciledCenter,
    expectedUnit_apply]
  unfold unitDiffers
  cases expectedUnit state center with
  | none => rfl
  | some unit =>
    have hid := (applyToUnit_kept (planStructureReconcile collation sha256 state scope) unit).1
    by_cases hunit : some unit.id = center.unitId
    · simp [Option.filter, hid, hunit]
    · simp [Option.filter, hid, hunit]

/-- After a plan, a movable centre is asked for a parent again exactly when
its proposal was refused. -/
theorem parentDiffers_reconciled (hw : WellFormed state) {center : ReconcileCenter}
    (hc : center ∈ activeCenters collation state) (hmovable : movable scope center = true) :
    parentDiffers collation (reconciled collation sha256 state scope)
        (reconciledCenter collation sha256 state scope center) =
      if center.id ∈ refusedIds collation state scope then parentDiffers collation state center
      else none := by
  have hparent : (reconciledCenter collation sha256 state scope center).parentId = _ :=
    parentId_reconciled sha256 hw center
  rw [reconciledCenter] at hparent
  rw [reconciled, reconciledCenter]
  by_cases hrefused : center.id ∈ refusedIds collation state scope
  · rw [if_neg (fun h => h.2 hrefused)] at hparent
    rw [parentDiffers_apply _ hparent, if_pos hrefused]
  · rw [if_neg hrefused]
    cases hrule : parentDiffers collation state center with
    | none =>
      have hnot : center.id ∉ candidateIds collation state scope := fun h => by
        have hsome := ((mem_candidateIds hw hc).mp h).2
        rw [hrule] at hsome
        cases hsome
      rw [if_neg (fun h => hnot h.1)] at hparent
      rw [parentDiffers_apply _ hparent, hrule]
    | some rule =>
      have hmem := (mem_candidateIds hw hc).mpr ⟨hmovable, by rw [hrule]; rfl⟩
      rw [if_pos ⟨hmem, hrefused⟩, proposed_of_parentDiffers hw hc hmovable hrule] at hparent
      simp only [parentDiffers, ruleId_apply, hparent, ruleId_of_parentDiffers hrule]
      simp

/-- A plan brings no centre into its scope. -/
theorem inScope_reconciled (hw : WellFormed state) {center : ReconcileCenter}
    (hc : center ∈ activeCenters collation state)
    (h : inScope scope (reconciledCenter collation sha256 state scope center) = true) :
    inScope scope center = true := by
  by_contra hout
  have hmovable : movable scope center = false := by simp [movable, hout]
  have hunit : (reconciledCenter collation sha256 state scope center).unitId = _ :=
    unitId_reconciled sha256 hw hc
  have hparent : (reconciledCenter collation sha256 state scope center).parentId = _ :=
    parentId_reconciled sha256 hw center
  have hnot : center.id ∉ candidateIds collation state scope := fun hmem => by
    have hboth := ((mem_candidateIds hw hc).mp hmem).1
    rw [hmovable] at hboth
    cases hboth
  rw [hmovable, if_neg (by simp)] at hunit
  rw [if_neg (fun hboth => hnot hboth.1)] at hparent
  refine hout (h ▸ ?_)
  cases scope with
  | all => rfl
  | partialTo prefixes unitIds centerIds =>
    simp only [inScope, hunit, hparent]
    rfl

theorem movable_reconciled (hw : WellFormed state) {center : ReconcileCenter}
    (hc : center ∈ activeCenters collation state)
    (h : movable scope (reconciledCenter collation sha256 state scope center) = true) :
    movable scope center = true := by
  have hmode : (reconciledCenter collation sha256 state scope center).mode = center.mode := rfl
  rw [movable, Bool.and_eq_true, hmode] at h
  rw [movable, Bool.and_eq_true]
  exact ⟨inScope_reconciled sha256 hw hc h.1, h.2⟩

theorem wellFormed_reconciled (hw : WellFormed state) :
    WellFormed (reconciled collation sha256 state scope) where
  unitIds := by
    simp only [reconciled, applyReconcilePlanInMemory, List.map_map]
    have hids : (ReconcileUnit.id ∘ applyToUnit
        (planStructureReconcile collation sha256 state scope)) = ReconcileUnit.id :=
      funext fun unit => (applyToUnit_kept _ unit).1
    rw [hids]
    exact hw.unitIds
  centerIds := by
    simp only [reconciled, applyReconcilePlanInMemory, List.map_map]
    exact hw.centerIds
  activeCodes := by
    simp only [reconciled, applyReconcilePlanInMemory, List.filter_map, List.map_map]
    exact hw.activeCodes

/-! ### The second plan: centres -/

/-- A second plan with the same scope relocates nothing. -/
theorem relocations_reconciled (hw : WellFormed state) :
    (planStructureReconcile collation sha256 (reconciled collation sha256 state scope)
      scope).relocations = [] := by
  rw [plan_relocations, activeCenters_reconciled, List.filterMap_map, List.filterMap_eq_nil_iff]
  intro center hc
  rw [Function.comp_apply, reviewCenter_relocation]
  split
  · next h =>
    rw [unitDiffers_reconciled sha256 hw hc (movable_reconciled sha256 hw hc h), Option.map_none]
  · rfl

/-- The candidates are the movable centres whose parent differs, in code order. -/
theorem candidateIds_eq : candidateIds collation state scope =
    ((activeCenters collation state).filter fun center => movable scope center &&
      (parentDiffers collation state center).isSome).map ReconcileCenter.id := by
  simp only [candidateIds, candidates, reviews, List.filterMap_map]
  induction activeCenters collation state with
  | nil => rfl
  | cons center rest ih =>
    rw [List.filterMap_cons, Function.comp_apply, reviewCenter_candidate, List.filter_cons]
    cases movable scope center with
    | false => simpa using ih
    | true =>
      cases parentDiffers collation state center with
      | none => simpa using ih
      | some rule => simpa [proposal, centerRef] using ih

/-- Whether a centre is still in the scope from the unit the plan moves it to. -/
def staysInScope (state : ReconcileState) (scope : ReconcileScope) (id : RowId) : Bool :=
  ((centerById state).get? id).any fun center => inScope scope
    { center with unitId := ((unitDiffers state center).map ReconcileUnit.id).or center.unitId }

variable (collation state scope) in
/-- The refused candidates that the scope still covers. -/
def remainingIds : List RowId :=
  (refusedIds collation state scope).filter (staysInScope state scope)

theorem candidateIds_nodup (hw : WellFormed state) :
    (candidateIds collation state scope).Nodup := nodup_candidates_ids hw

theorem refusedIds_eq_filter (hw : WellFormed state) :
    (candidateIds collation state scope).filter (fun id => id ∈ refusedIds collation state scope) =
      refusedIds collation state scope :=
  filter_mem_rejected (candidateIds_nodup hw)

/-- A refused centre keeps its parent, so only its new unit can take it out of scope. -/
theorem inScope_of_refused (hw : WellFormed state) {center : ReconcileCenter}
    (hc : center ∈ activeCenters collation state) (hmovable : movable scope center = true)
    (hrefused : center.id ∈ refusedIds collation state scope) :
    inScope scope (reconciledCenter collation sha256 state scope center) =
      staysInScope state scope center.id := by
  have hunit : (reconciledCenter collation sha256 state scope center).unitId = _ :=
    unitId_reconciled sha256 hw hc
  have hparent : (reconciledCenter collation sha256 state scope center).parentId = _ :=
    parentId_reconciled sha256 hw center
  have hget := (KeyedMap.get?_index_iff hw.centerIds).mpr ⟨(mem_activeCenters.mp hc).1, rfl⟩
  rw [if_pos hmovable] at hunit
  rw [if_neg (fun h => h.2 hrefused)] at hparent
  rw [staysInScope, centerById, hget, Option.any_some]
  cases scope with
  | all => rfl
  | partialTo prefixes unitIds centerIds =>
    simp only [inScope, hunit, hparent]
    rfl

/-- The candidates of a second plan are the refused ones it still covers. -/
theorem candidateIds_reconciled (hw : WellFormed state) :
    candidateIds collation (reconciled collation sha256 state scope) scope =
      remainingIds collation state scope := by
  rw [remainingIds, ← refusedIds_eq_filter hw, candidateIds_eq, candidateIds_eq,
    activeCenters_reconciled, List.filter_map, List.map_map, List.filter_filter, List.filter_map,
    List.filter_filter]
  refine congrArg _ (List.filter_congr fun center hc => ?_)
  simp only [Function.comp_apply]
  cases hmovable : movable scope center with
  | false =>
    have hout : movable scope (reconciledCenter collation sha256 state scope center) = false := by
      by_contra h
      have hback := movable_reconciled sha256 hw hc (Bool.eq_true_of_not_eq_false h)
      rw [hmovable] at hback
      cases hback
    simp [hout]
  | true =>
    rw [parentDiffers_reconciled sha256 hw hc hmovable]
    by_cases hrefused : center.id ∈ refusedIds collation state scope
    · have hmode : (reconciledCenter collation sha256 state scope center).mode = center.mode := rfl
      rw [movable, Bool.and_eq_true, decide_eq_true_eq] at hmovable
      rw [if_pos hrefused, movable, hmode, hmovable.2,
        inScope_of_refused sha256 hw hc (by simp [movable, hmovable]) hrefused]
      simp [hrefused]
    · simp [hrefused]

variable (collation state scope) in
/-- The proposed parents, with the refused centres that leave the scope back at
their own. -/
def remainingProposed (id : RowId) : Option RowId :=
  if id ∈ refusedIds collation state scope ∧ staysInScope state scope id = false then
    parentOf state id
  else proposed collation state scope id

variable (collation state scope) in
/-- Once the refused centres that leave the scope are back at their own
parents, each of the other refused proposals closes a cycle again. -/
def RefusalsRepeat : Prop :=
  rejected closesCycle (restoredParent state) (remainingProposed collation state scope)
    (remainingIds collation state scope) = remainingIds collation state scope

theorem mem_candidateIds_of_refused {id : RowId} (h : id ∈ refusedIds collation state scope) :
    id ∈ candidateIds collation state scope := mem_of_mem_rejected h

/-- Each candidate is an active centre the plan may change. -/
theorem center_of_mem_candidateIds {id : RowId} (h : id ∈ candidateIds collation state scope) :
    ∃ center ∈ activeCenters collation state, center.id = id ∧ movable scope center = true ∧
      ∃ rule, parentDiffers collation state center = some rule := by
  obtain ⟨reparent, hr, rfl⟩ := List.mem_map.mp h
  obtain ⟨center, hc, rule, hmovable, hrule, rfl⟩ := mem_candidates.mp hr
  exact ⟨center, hc, rfl, hmovable, rule, hrule⟩

/-- The proposed parents of the second plan. -/
theorem proposed_reconciled (hw : WellFormed state) :
    proposed collation (reconciled collation sha256 state scope) scope =
      remainingProposed collation state scope := by
  funext id
  have hw' : WellFormed (reconciled collation sha256 state scope) := wellFormed_reconciled sha256 hw
  by_cases hagain : id ∈ candidateIds collation (reconciled collation sha256 state scope) scope
  · have hremaining := hagain
    rw [candidateIds_reconciled sha256 hw, remainingIds, List.mem_filter] at hremaining
    obtain ⟨hrefused, hstays⟩ := hremaining
    obtain ⟨center, hc, rfl, hmovable, rule, hrule⟩ :=
      center_of_mem_candidateIds (mem_candidateIds_of_refused hrefused)
    obtain ⟨changed, hc', hid, hmovable', rule', hrule'⟩ := center_of_mem_candidateIds hagain
    rw [activeCenters_reconciled] at hc'
    obtain ⟨origin, horigin, rfl⟩ := List.mem_map.mp hc'
    have hsame : origin = center :=
      List.inj_on_of_nodup_map (nodup_activeCenters_ids hw) horigin hc hid
    subst hsame
    rw [← hid, proposed_of_parentDiffers hw' (by rw [activeCenters_reconciled]; exact hc')
      hmovable' hrule']
    rw [parentDiffers_reconciled sha256 hw hc hmovable, if_pos hrefused] at hrule'
    have hid' : (reconciledCenter collation sha256 state scope origin).id = origin.id := rfl
    rw [remainingProposed, hid', if_neg (by simp [hstays]),
      proposed_of_parentDiffers hw hc hmovable hrule']
  · rw [proposed, proposedParents_of_notMem hagain, parentOf_reconciled hw, remainingProposed]
    rw [candidateIds_reconciled sha256 hw, remainingIds, List.mem_filter] at hagain
    by_cases hrefused : id ∈ refusedIds collation state scope
    · have hleaves : staysInScope state scope id = false := by
        simpa [hrefused] using hagain
      rw [if_neg (fun h => h.2 hrefused), if_pos ⟨hrefused, hleaves⟩]
    · rw [if_neg (fun h : _ ∧ _ => hrefused h.1)]
      by_cases hmem : id ∈ candidateIds collation state scope
      · rw [if_pos ⟨hmem, hrefused⟩]
      · rw [if_neg (fun h => hmem h.1)]
        exact (proposedParents_of_notMem hmem).symm

/-- A refused centre would get the same parent back after the second plan. -/
theorem restoredParent_reconciled (hw : WellFormed state) {id : RowId}
    (hrefused : id ∈ refusedIds collation state scope) :
    restoredParent (reconciled collation sha256 state scope) id = restoredParent state id := by
  unfold restoredParent
  rw [parentOf_reconciled hw, if_neg (fun h => h.2 hrefused)]
  cases parentOf state id with
  | none => rfl
  | some parent =>
    unfold centerOf
    rw [Option.bind_some, Option.bind_some, reconciled, centerById_apply]
    simp only [Option.map_map]
    rfl

theorem refusedIds_reconciled (hw : WellFormed state) :
    refusedIds collation (reconciled collation sha256 state scope) scope =
      rejected closesCycle (restoredParent state) (remainingProposed collation state scope)
        (remainingIds collation state scope) := by
  rw [refusedIds, candidateIds_reconciled sha256 hw, proposed_reconciled sha256 hw]
  exact rejected_congr fun id hid =>
    restoredParent_reconciled sha256 hw (List.mem_of_mem_filter hid)

/-- A second plan changes no parent exactly when it refuses what is left. -/
theorem reparents_reconciled_eq_nil_iff (hw : WellFormed state) :
    (planStructureReconcile collation sha256 (reconciled collation sha256 state scope)
      scope).reparents = [] ↔ RefusalsRepeat collation state scope := by
  have hw' : WellFormed (reconciled collation sha256 state scope) := wellFormed_reconciled sha256 hw
  change (settledReparents collation (reconciled collation sha256 state scope) scope).1 = [] ↔ _
  rw [settledReparents_eq hw', List.filter_eq_nil_iff, RefusalsRepeat,
    ← refusedIds_reconciled sha256 hw, ← candidateIds_reconciled sha256 hw]
  constructor
  · intro h
    rw [← refusedIds_eq_filter hw', List.filter_eq_self]
    intro id hid
    obtain ⟨reparent, hr, rfl⟩ := List.mem_map.mp hid
    simpa using h reparent hr
  · intro h reparent hr
    rw [h]
    simpa [candidateIds] using ⟨reparent, hr, rfl⟩

/-- Where no refused centre leaves the scope, the refusals repeat. -/
theorem refusalsRepeat_of_stay
    (h : ∀ id ∈ refusedIds collation state scope, staysInScope state scope id = true) :
    RefusalsRepeat collation state scope := by
  have hremaining : remainingIds collation state scope = refusedIds collation state scope :=
    List.filter_eq_self.mpr h
  have hproposed : remainingProposed collation state scope = proposed collation state scope := by
    funext id
    refine if_neg fun hleaves => ?_
    rw [h id hleaves.1] at hleaves
    exact absurd hleaves.2 (by decide)
  rw [RefusalsRepeat, hremaining, hproposed]
  exact rejected_rejected _

end InternalControl.StructureReconcile
