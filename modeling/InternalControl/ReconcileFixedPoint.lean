import InternalControl.ReconcileCenters

/-!
# Planning again after a reconcile

The heads of the units are reviewed again after a plan: a head changes again
exactly where an unlink left the code of an active centre behind. Together
with the centres this decides when one pass is enough.
-/

namespace InternalControl.StructureReconcile

open ParentMap Text

variable {collation : Collation} (sha256 : Sha256) {state : ReconcileState}
  {scope : ReconcileScope}

/-! ### Heads after a plan -/

variable (collation state scope) in
/-- A unit as the plan with a scope leaves it. -/
def reconciledUnit (unit : ReconcileUnit) : ReconcileUnit :=
  applyToUnit (planStructureReconcile collation sha256 state scope) unit

variable (collation state) in
/-- A unit after the review of its head is carried out. -/
def reviewedUnit (unit : ReconcileUnit) : ReconcileUnit :=
  match (reviewHead collation state unit).link with
  | some link =>
    { unit with headCostCenterId := some link.center.id, headCostCenterCode := some link.code }
  | none =>
    match (reviewHead collation state unit).unlink with
    | some unlink => { unit with headCostCenterId := none, headCostCenterCode := unlink.code }
    | none => unit

theorem reviewHead_unit (unit : ReconcileUnit) :
    (∀ link, (reviewHead collation state unit).link = some link → link.unit.id = unit.id) ∧
      ∀ unlink, (reviewHead collation state unit).unlink = some unlink →
        unlink.unit.id = unit.id := by
  unfold reviewHead
  split
  · simp
  · split
    · split
      · simp [unitRef]
      · split
        · simp [unitRef]
        · split
          · simp [unitRef]
          · simp
    · split
      · simp [unitRef]
      · simp

/-- The plan carries out each unit's own review. -/
theorem reconciledUnit_eq (hw : WellFormed state) {unit : ReconcileUnit}
    (hu : unit ∈ state.units) :
    reconciledUnit collation sha256 state scope unit = reviewedUnit collation state unit := by
  have hperm := List.perm_insertionSort
    (fun left right : ReconcileUnit => collation.le left.code right.code = true) state.units
  have hids := (hperm.map ReconcileUnit.id).nodup_iff.mpr hw.unitIds
  have hmem := hperm.mem_iff.mpr hu
  have hlinks : (KeyedMap.ofList (((headReviews collation state).filterMap HeadReview.link).map
      fun item => (item.unit.id, item))).get? unit.id = (reviewHead collation state unit).link := by
    rw [headReviews, List.filterMap_map,
      KeyedMap.get?_ofList_filterMap hids (fun other => (reviewHead_unit other).1) hmem]
    exact Option.map_id'
  have hunlinks : (KeyedMap.ofList (((headReviews collation state).filterMap
      HeadReview.unlink).map fun item => (item.unit.id, item))).get? unit.id =
        (reviewHead collation state unit).unlink := by
    rw [headReviews, List.filterMap_map,
      KeyedMap.get?_ofList_filterMap hids (fun other => (reviewHead_unit other).2) hmem]
    exact Option.map_id'
  simp only [reconciledUnit, applyToUnit, planStructureReconcile, reviewedUnit, hlinks, hunlinks]
  all_goals rfl

/-- The code an unlink leaves behind names no active centre. -/
def HeadSettled (collation : Collation) (state : ReconcileState) (unit : ReconcileUnit) : Prop :=
  unit.isActive = true → ∀ headId, unit.headCostCenterId = some headId →
    (((centerById state).get? headId).all fun linked => !linked.isActive) = true →
      (present (unit.headCostCenterCode.or
        (((centerById state).get? headId).map ReconcileCenter.code))).bind
          (activeByCode collation state).get? = none

/-- Every unlink leaves a code behind that names no active centre. -/
def HeadsSettled (collation : Collation) (state : ReconcileState) : Prop :=
  ∀ unit ∈ state.units, HeadSettled collation state unit

/-- A review that adds nothing to the plan. -/
def HeadReview.isEmpty (review : HeadReview) : Prop := review.link = none ∧ review.unlink = none

section Review

variable {unit : ReconcileUnit} (hactive : unit.isActive = true)

include hactive

/-- The review of a unit whose head has no centre yet. -/
theorem reviewHead_pending (hhead : unit.headCostCenterId = none) :
    (reviewHead collation state unit).isEmpty ↔
      (present unit.headCostCenterCode).bind (activeByCode collation state).get? = none := by
  cases hfound : (present unit.headCostCenterCode).bind (activeByCode collation state).get? <;>
    simp [reviewHead, hactive, hhead, hfound, HeadReview.isEmpty]

/-- The review of a unit whose head is an active centre. -/
theorem reviewHead_linked {headId : RowId} {linked : ReconcileCenter}
    (hhead : unit.headCostCenterId = some headId)
    (hlinked : (centerById state).get? headId = some linked) (hlive : linked.isActive = true) :
    (reviewHead collation state unit).isEmpty ↔ some linked.code = unit.headCostCenterCode := by
  by_cases hcode : some linked.code = unit.headCostCenterCode <;>
    simp [reviewHead, hactive, hhead, hlinked, hlive, hcode, HeadReview.isEmpty]

/-- Without an active centre behind its head, a unit keeps a code as pending. -/
theorem reviewedUnit_unlinked {headId : RowId} (hhead : unit.headCostCenterId = some headId)
    (hdead : (((centerById state).get? headId).all fun linked => !linked.isActive) = true) :
    (reviewedUnit collation state unit).isActive = true ∧
      (reviewedUnit collation state unit).headCostCenterId = none ∧
      (reviewedUnit collation state unit).headCostCenterCode = unit.headCostCenterCode.or
        (((centerById state).get? headId).map ReconcileCenter.code) := by
  cases hlinked : (centerById state).get? headId with
  | none => simp [reviewedUnit, reviewHead, hactive, hhead, hlinked]
  | some linked =>
    rw [hlinked, Option.all_some, Bool.not_eq_true'] at hdead
    simp [reviewedUnit, reviewHead, hactive, hhead, hlinked, hdead]

/-- With an active centre behind its head, a unit ends with that centre's code. -/
theorem reviewedUnit_linked {headId : RowId} {linked : ReconcileCenter}
    (hhead : unit.headCostCenterId = some headId)
    (hlinked : (centerById state).get? headId = some linked) (hlive : linked.isActive = true) :
    (reviewedUnit collation state unit).isActive = true ∧
      (reviewedUnit collation state unit).headCostCenterId = some headId ∧
      (reviewedUnit collation state unit).headCostCenterCode = some linked.code := by
  have hid := (KeyedMap.mem_of_get?_index hlinked).2
  by_cases hcode : some linked.code = unit.headCostCenterCode
  · simp [reviewedUnit, reviewHead, hactive, hhead, hlinked, hlive, hcode]
  · simp [reviewedUnit, reviewHead, hactive, hhead, hlinked, hlive, hcode, centerRef, hid]

/-- A pending head is linked to the active centre its code names. -/
theorem reviewedUnit_found {found : ReconcileCenter} (hhead : unit.headCostCenterId = none)
    (hfound : (present unit.headCostCenterCode).bind (activeByCode collation state).get? =
      some found) :
    (reviewedUnit collation state unit).isActive = true ∧
      (reviewedUnit collation state unit).headCostCenterId = some found.id ∧
      (reviewedUnit collation state unit).headCostCenterCode = some found.code := by
  simp [reviewedUnit, reviewHead, hactive, hhead, hfound, centerRef]

end Review

/-- The centre a pending code names is the one it named before the plan. -/
theorem pendingCenter_reconciled (code : Option String) :
    code.bind (activeByCode collation (reconciled collation sha256 state scope)).get? =
      (code.bind (activeByCode collation state).get?).map
        (reconciledCenter collation sha256 state scope) := by
  cases code with
  | none => rfl
  | some code => exact activeByCode_apply _ code

theorem linkedCenter_reconciled {headId : RowId} {linked : ReconcileCenter}
    (hlinked : (centerById state).get? headId = some linked) :
    (centerById (reconciled collation sha256 state scope)).get? headId =
      some (reconciledCenter collation sha256 state scope linked) := by
  rw [reconciled, centerById_apply, hlinked]
  rfl

/-- The head of a unit is left alone by a second plan exactly when its first
review was settled. -/
theorem reviewHead_reconciled_isEmpty_iff (hw : WellFormed state) {unit : ReconcileUnit}
    (hu : unit ∈ state.units) :
    (reviewHead collation (reconciled collation sha256 state scope)
      (reconciledUnit collation sha256 state scope unit)).isEmpty ↔
        HeadSettled collation state unit := by
  rw [reconciledUnit_eq sha256 hw hu]
  cases hactive : unit.isActive with
  | false => simp [reviewedUnit, reviewHead, hactive, HeadReview.isEmpty, HeadSettled]
  | true =>
    cases hhead : unit.headCostCenterId with
    | none =>
      refine iff_of_true ?_ (fun _ headId h => by rw [hhead] at h; cases h)
      cases hfound : (present unit.headCostCenterCode).bind (activeByCode collation state).get? with
      | none =>
        have hempty := (reviewHead_pending hactive hhead).mpr hfound
        have hkept : reviewedUnit collation state unit = unit := by
          simp [reviewedUnit, hempty.1, hempty.2]
        rw [hkept, reviewHead_pending hactive hhead, pendingCenter_reconciled, hfound,
          Option.map_none]
      | some found =>
        obtain ⟨code, _, hget⟩ := Option.bind_eq_some_iff.mp hfound
        obtain ⟨hmem, hlive⟩ := mem_activeCenters.mp (KeyedMap.mem_of_get?_index hget).1
        have hlinked := (KeyedMap.get?_index_iff hw.centerIds).mpr ⟨hmem, rfl⟩
        obtain ⟨hactive', hhead', hcode'⟩ := reviewedUnit_found hactive hhead hfound
        rw [reviewHead_linked hactive' hhead' (linkedCenter_reconciled sha256 hlinked) hlive, hcode']
        rfl
    | some headId =>
      cases hdead : ((centerById state).get? headId).all fun linked => !linked.isActive with
      | true =>
        obtain ⟨hactive', hhead', hcode'⟩ := reviewedUnit_unlinked hactive hhead hdead
        rw [reviewHead_pending hactive' hhead', pendingCenter_reconciled, hcode',
          Option.map_eq_none_iff]
        refine ⟨fun h _ other hother _ => ?_, fun h => h hactive headId hhead hdead⟩
        rw [hhead] at hother
        cases hother
        exact h
      | false =>
        refine iff_of_true ?_ (fun _ other hother h => ?_)
        · cases hlinked : (centerById state).get? headId with
          | none => simp [hlinked] at hdead
          | some linked =>
            have hlive : linked.isActive = true := by simpa [hlinked] using hdead
            obtain ⟨hactive', hhead', hcode'⟩ := reviewedUnit_linked hactive hhead hlinked hlive
            rw [reviewHead_linked hactive' hhead' (linkedCenter_reconciled sha256 hlinked) hlive,
              hcode']
            rfl
        · rw [hhead] at hother
          cases hother
          rw [hdead] at h
          cases h

/-- A second plan changes no head exactly when every first review was settled. -/
theorem heads_reconciled_eq_nil_iff (hw : WellFormed state) :
    ((planStructureReconcile collation sha256 (reconciled collation sha256 state scope)
        scope).headLinks = [] ∧
      (planStructureReconcile collation sha256 (reconciled collation sha256 state scope)
        scope).headUnlinks = []) ↔ HeadsSettled collation state := by
  have hunits : (reconciled collation sha256 state scope).units =
      state.units.map (reconciledUnit collation sha256 state scope) := rfl
  simp only [planStructureReconcile, headReviews, List.filterMap_map,
    List.filterMap_eq_nil_iff, List.mem_insertionSort, hunits, List.forall_mem_map]
  constructor
  · rintro ⟨hlink, hunlink⟩ unit hu
    exact (reviewHead_reconciled_isEmpty_iff sha256 hw hu).mp ⟨hlink unit hu, hunlink unit hu⟩
  · intro h
    exact ⟨fun unit hu => ((reviewHead_reconciled_isEmpty_iff sha256 hw hu).mpr (h unit hu)).1,
      fun unit hu => ((reviewHead_reconciled_isEmpty_iff sha256 hw hu).mpr (h unit hu)).2⟩

/-! ### The whole plan -/

/-- A plan counts no change exactly when its four lists of changes are empty. -/
theorem changeCount_plan_eq_zero_iff : changeCount (planStructureReconcile collation sha256 state
      scope).counts = 0 ↔
    (planStructureReconcile collation sha256 state scope).relocations = [] ∧
      (planStructureReconcile collation sha256 state scope).reparents = [] ∧
      (planStructureReconcile collation sha256 state scope).headLinks = [] ∧
      (planStructureReconcile collation sha256 state scope).headUnlinks = [] := by
  simp only [changeCount, planStructureReconcile, Nat.add_eq_zero_iff, List.length_eq_zero_iff,
    and_assoc]

/-- A second plan is empty exactly when every unlinked head keeps a code no
active centre has and the refusals that the scope still covers repeat. -/
theorem changeCount_reconciled_iff (hw : WellFormed state) :
    changeCount (planStructureReconcile collation sha256
        (reconciled collation sha256 state scope) scope).counts = 0 ↔
      HeadsSettled collation state ∧ RefusalsRepeat collation state scope := by
  have hrelocations : (planStructureReconcile collation sha256
      (reconciled collation sha256 state scope) scope).relocations = [] :=
    relocations_reconciled sha256 hw
  have hreparents : (planStructureReconcile collation sha256
      (reconciled collation sha256 state scope) scope).reparents = [] ↔ _ :=
    reparents_reconciled_eq_nil_iff sha256 hw
  have hheads : (planStructureReconcile collation sha256
      (reconciled collation sha256 state scope) scope).headLinks = [] ∧ _ ↔ _ :=
    heads_reconciled_eq_nil_iff sha256 hw
  rw [changeCount_plan_eq_zero_iff, hreparents, hheads]
  exact ⟨fun h => ⟨h.2.2, h.2.1⟩, fun h => ⟨hrelocations, h.2, h.1⟩⟩

/-- With every centre in scope, no refused centre leaves it. -/
theorem refusalsRepeat_all (hw : WellFormed state) : RefusalsRepeat collation state .all := by
  refine refusalsRepeat_of_stay fun id hid => ?_
  obtain ⟨center, hc, rfl, _⟩ := center_of_mem_candidateIds (mem_candidateIds_of_refused hid)
  have hget := (KeyedMap.get?_index_iff hw.centerIds).mpr ⟨(mem_activeCenters.mp hc).1, rfl⟩
  rw [staysInScope, centerById, hget, Option.any_some]
  rfl

/-- With every centre in scope, the heads alone decide whether one pass is enough. -/
theorem changeCount_reconciled_all_iff (hw : WellFormed state) :
    changeCount (planStructureReconcile collation sha256
        (reconciled collation sha256 state .all) .all).counts = 0 ↔
      HeadsSettled collation state := by
  rw [changeCount_reconciled_iff sha256 hw]
  exact and_iff_left (refusalsRepeat_all hw)

/-- A centre of unit 15, named after its code. -/
def centerOfUnit15 (id : String) (h : id ≠ "") (isActive : Bool) : ReconcileCenter where
  id := ⟨id, h⟩
  code := "1510"
  name := "Centro 1510"
  isActive := isActive
  hasMovement := true
  unitId := some ⟨"u15", by decide⟩
  parentId := none
  mode := .auto

/-- A unit whose head is an archived centre, beside an active one with the same code. -/
def recreatedHead : ReconcileState where
  units :=
    [{ id := ⟨"u15", by decide⟩
       code := "U15"
       name := "Unidad 15"
       codePrefix := some "15"
       isActive := true
       headCostCenterId := some ⟨"c1500", by decide⟩
       headCostCenterCode := some "1510" }]
  centers := [centerOfUnit15 "c1500" (by decide) false, centerOfUnit15 "c1510" (by decide) true]

/-- The digests of the two plans of that unit. -/
def recreatedHeadSha256 : Sha256 :=
  .ofTable
    [("\x7b\"relocations\":[],\"reparents\":[],\"headLinks\":[],\"headUnlinks\":[[\"u15\",\"1510\"]]\x7d",
      "201abec2ebbd420104e0ea42b5e755b250dc5c1968aa1b9652cdc0c7bfa0f164"),
    ("\x7b\"relocations\":[],\"reparents\":[],\"headLinks\":[[\"u15\",\"c1510\",\"1510\"]],\"headUnlinks\":[]\x7d",
      "4902dcad14e3ecb70ec26d60a5bc56d07dc45af9505823a36559434060f40c6f")]
    (by decide)

theorem recreatedHead_wellFormed : WellFormed recreatedHead where
  unitIds := by decide
  centerIds := by decide
  activeCodes := by decide

end InternalControl.StructureReconcile
