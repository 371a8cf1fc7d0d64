import InternalControl.OrgChartIdentifiers
import InternalControl.OrgChartStamped

/-!
# Uploading an export again

The rows of an export that nobody edited are dropped by the merge, whatever has
become of the units since, and a plan without rows does nothing.
-/

namespace InternalControl.OrgChart

open Text

/-! ### A plan without rows -/

/-- Live units with one prefix are one unit. -/
def LivePrefixesDistinct (units : List SnapshotUnit) : Prop :=
  ∀ unit ∈ units, ∀ other ∈ units, unit.isActive = true → other.isActive = true → ∀ text,
    present unit.codePrefix = some text → present other.codePrefix = some text → unit = other

section NoRows

variable {env : Runtime} {snapshot : OrgChartSnapshot} {input : OrgChartInput}

theorem placeCenter_of_no_row {units : UnitMap} {holders : KeyedMap String FinalUnit}
    {centers : CenterMap} {center : FinalCenter} (h : center.rowNumber = none) :
    placeCenter snapshot units holders centers center = (center, []) := by
  rw [placeCenter, h]

theorem settleCenter_of_no_row {centers : CenterMap} {center : FinalCenter}
    (h : center.rowNumber = none) : settleCenter snapshot centers center = (center, []) := by
  rw [settleCenter, h]

/-- Without rows every unit of the plan is a stored one. -/
theorem rowedUnits_of_no_rows (hrows : input.units = []) {unit : FinalUnit}
    (h : unit ∈ (rowedUnits env snapshot input).values) :
    ∃ before ∈ snapshot.units, unit = .ofSnapshot before := by
  have hsheet : unitSheetRows input = [] := by
    rw [unitSheetRows, hrows, ite_self]
  rcases rowedUnits_cases h with hstored | ⟨row, hrow, -⟩
  · exact hstored
  · rw [hsheet] at hrow
    cases hrow

/-- Without a sheet of centres every centre of the plan is a stored one. -/
theorem center_of_no_sheet (hsheet : input.hasCenterSheet = false) {center : FinalCenter}
    (h : center ∈ (planCenterRows env snapshot input).centers.values) : center.rowNumber = none := by
  have hstart : planCenterRows env snapshot input = .start snapshot.centers := by
    simp [planCenterRows, readCenterRows, hsheet]
  rw [hstart, KeyedMap.mem_values_iff] at h
  obtain ⟨key, hget⟩ := h
  obtain ⟨before, -, rfl⟩ := List.mem_map.mp (KeyedMap.mem_of_get?_index hget).1
  rfl

/-- Without a sheet of centres the centres end as they were stored. -/
theorem settledCenter_of_no_sheet (hsheet : input.hasCenterSheet = false) {center : FinalCenter}
    (h : center ∈ (settledCenters env snapshot input).values) : center.rowNumber = none := by
  rw [settledCenters, KeyedMap.values_mapValues, List.mem_map] at h
  obtain ⟨placed, hplaced, rfl⟩ := h
  rw [placedCenters, KeyedMap.values_mapValues, List.mem_map] at hplaced
  obtain ⟨before, hbefore, rfl⟩ := hplaced
  have hrow := center_of_no_sheet hsheet hbefore
  rw [placeCenter_of_no_row hrow, settleCenter_of_no_row hrow]
  exact hrow

/-- A plan without rows finds nothing wrong. -/
theorem planNotices_of_no_rows (hdistinct : LivePrefixesDistinct snapshot.units)
    (hrows : input.units = []) (hsheet : input.hasCenterSheet = false) :
    issuesOf .error (planNotices env snapshot input) = [] := by
  have hrowless : ∀ unit ∈ (rowedUnits env snapshot input).values, unit.rowNumber = none := by
    intro unit hunit
    obtain ⟨before, -, rfl⟩ := rowedUnits_of_no_rows hrows hunit
    rfl
  have hcenter : ∀ center ∈ (planCenterRows env snapshot input).centers.values,
      center.rowNumber = none := fun center hcenter => center_of_no_sheet hsheet hcenter
  have hunitNotices : (planUnitRows env snapshot input).notices = [] := by
    simp [planUnitRows, readUnitRows, unitSheetRows, hrows, UnitRows.start]
  have hcenterNotices : (planCenterRows env snapshot input).notices = [] := by
    simp [planCenterRows, readCenterRows, hsheet, CenterRows.start]
  have hholders : (planHolders env snapshot input).notices = [] := by
    refine prefixHolders_notices ?_ ?_
    · rw [values_headedUnits, List.map_map]
      exact nodup_rowedUnits_keys
    · rw [values_headedUnits]
      intro unit hunit other hother hlive hotherLive text htext hotherText
      obtain ⟨rowed, hrowed, rfl⟩ := List.mem_map.mp hunit
      obtain ⟨second, hsecond, rfl⟩ := List.mem_map.mp hother
      obtain ⟨before, hbefore, rfl⟩ := rowedUnits_of_no_rows hrows hrowed
      obtain ⟨after, hafter, rfl⟩ := rowedUnits_of_no_rows hrows hsecond
      have hactive : before.isActive = true := (Bool.and_eq_true _ _ ▸ hlive).1
      have hotherActive : after.isActive = true := (Bool.and_eq_true _ _ ▸ hotherLive).1
      rw [hdistinct before hbefore after hafter hactive hotherActive text htext hotherText]
  have hrectorates : rectorateNotices (headedUnits env snapshot input) = [] := by
    have hnone : ∀ unit ∈ (headedUnits env snapshot input).values, unit.rowNumber = none := by
      rw [values_headedUnits]
      intro unit hunit
      obtain ⟨rowed, hrowed, rfl⟩ := List.mem_map.mp hunit
      exact hrowless rowed hrowed
    have hnumbers : ((headedUnits env snapshot input).values.filter fun unit =>
        unit.unitType = .rectorate && isLiveUnit unit).filterMap FinalUnit.rowNumber = [] := by
      rw [List.filterMap_eq_nil_iff]
      exact fun unit hunit => hnone unit (List.mem_filter.mp hunit).1
    rw [rectorateNotices, hnumbers]
    rfl
  have hplaced : ∀ unit ∈ (rowedUnits env snapshot input).values,
      (placedUnit env snapshot input unit).rowNumber = none := hrowless
  unfold planNotices
  simp only [issuesOf_append, issuesOf_flatMap, List.append_eq_nil_iff, List.flatMap_eq_nil_iff,
    values_headedUnits, values_placedUnits, List.forall_mem_map, hunitNotices, hcenterNotices, hholders,
    hrectorates, issuesOf_nil, and_true]
  refine ⟨⟨⟨⟨⟨⟨⟨⟨⟨⟨?_, fun unit hunit => ?_⟩, fun unit hunit => ?_⟩, fun unit hunit => ?_⟩,
    fun unit hunit => ?_⟩, fun unit hunit => ?_⟩, fun center hmem => ?_⟩, fun center hmem => ?_⟩,
    fun unit hunit => ?_⟩, fun unit hunit => ?_⟩, fun unit hunit => ?_⟩
  · split
    · rfl
    · rfl
  · have hrow : (withHead env snapshot (planCenterRows env snapshot input).centers unit).rowNumber =
        none := hrowless unit hunit
    rw [planParentChoice, parentChoice, hrow]
    rfl
  · rw [sameNameNotices, hplaced unit hunit]
    rfl
  · rw [siblingNotices, hplaced unit hunit]
    rfl
  · rw [cyclicNotices, hplaced unit hunit]
    rfl
  · rw [prefixNoticesOf, hplaced unit hunit]
    rfl
  · rw [placeCenter_of_no_row (hcenter center hmem)]
    rfl
  · rw [placedCenters, KeyedMap.values_mapValues, List.mem_map] at hmem
    obtain ⟨before, hbefore, rfl⟩ := hmem
    have hrow := hcenter before hbefore
    rw [placeCenter_of_no_row hrow, settleCenter_of_no_row hrow]
    rfl
  · rw [headChoice, hrowless unit hunit]
    rfl
  · rw [strayHeadNotices, hplaced unit hunit]
    rfl
  · rw [settleUnit, hplaced unit hunit]
    rfl

/-- A plan without rows finds nothing wrong and does nothing. -/
theorem plan_of_no_rows (hdistinct : LivePrefixesDistinct snapshot.units) (hrows : input.units = [])
    (hsheet : input.hasCenterSheet = false) :
    (planOrgChart env snapshot input).errors = [] ∧ (planOrgChart env snapshot input).units = [] ∧
      (planOrgChart env snapshot input).centers = [] ∧
      (planOrgChart env snapshot input).changes = [] := by
  have hunit : ∀ unit ∈ inRowOrder FinalUnit.rowNumber (settledUnits env snapshot input).values,
      unit.rowNumber = none := by
    intro unit hunit
    rw [inRowOrder, List.mem_insertionSort, values_settledUnits] at hunit
    obtain ⟨rowed, hrowed, rfl⟩ := List.mem_map.mp hunit
    obtain ⟨before, -, rfl⟩ := rowedUnits_of_no_rows hrows hrowed
    exact (settledUnit_identity env snapshot input _).2.2.1
  have hcenter : ∀ center ∈ inRowOrder FinalCenter.rowNumber (settledCenters env snapshot input).values,
      center.rowNumber = none := by
    intro center hcenter
    rw [inRowOrder, List.mem_insertionSort] at hcenter
    exact settledCenter_of_no_sheet hsheet hcenter
  have hunitOp : ∀ unit ∈ inRowOrder FinalUnit.rowNumber (settledUnits env snapshot input).values,
      unitOp snapshot (settledUnits env snapshot input) (settledCenters env snapshot input) unit =
        none := by
    intro unit hmem
    rw [unitOp, hunit unit hmem]
    rfl
  have hcenterOp : ∀ center ∈ inRowOrder FinalCenter.rowNumber
      (settledCenters env snapshot input).values,
      centerOp snapshot (settledUnits env snapshot input) (settledCenters env snapshot input) center =
        none := by
    intro center hmem
    rw [centerOp, hcenter center hmem]
    rfl
  have hnotices : issuesOf .error (planNotices env snapshot input) = [] :=
    planNotices_of_no_rows hdistinct hrows hsheet
  have hunitOps := List.filterMap_eq_nil_iff.mpr hunitOp
  have hcenterOps := List.filterMap_eq_nil_iff.mpr hcenterOp
  have hunitChanges : (inRowOrder FinalUnit.rowNumber (settledUnits env snapshot input).values).filterMap
      (unitChange snapshot (settledUnits env snapshot input) (settledCenters env snapshot input)) =
        [] := by
    rw [List.filterMap_eq_nil_iff]
    intro unit hmem
    rw [unitChange, hunitOp unit hmem, Option.map_none]
  have hcenterChanges : (inRowOrder FinalCenter.rowNumber
      (settledCenters env snapshot input).values).filterMap
      (centerChange snapshot (settledUnits env snapshot input) (settledCenters env snapshot input)) =
        [] := by
    rw [List.filterMap_eq_nil_iff]
    intro center hmem
    rw [centerChange, hcenterOp center hmem, Option.map_none]
  unfold planOrgChart
  dsimp only
  rw [hunitOps, hcenterOps, hunitChanges, hcenterChanges]
  exact ⟨hnotices, rfl, rfl, rfl⟩

end NoRows

/-! ### The merge of an export that nobody edited -/

section Exported

variable {env : Runtime} {units : List SnapshotUnit} {centers : List SnapshotCenter}
  {input : OrgChartInput} {generatedAt : IsoDate} {context : MergeContext}

/-- Nothing of the file is left and nothing is wrong so far. -/
structure NothingLeft (state : MergeState) : Prop where
  units : state.units = []
  conflicts : state.conflicts = []
  errors : issuesOf .error state.notices = []

/-- A row of an export that nobody edited leaves nothing. -/
theorem NothingLeft.mergeRow {state : MergeState} (hstate : NothingLeft state)
    (hcodes : (units.map SnapshotUnit.code).Nodup)
    (hpattern : ∀ unit ∈ units, unitCodePattern unit.code = true)
    (hstamp : input.stamp = some (exportStamp env units centers generatedAt)) {row : ExportUnitRow}
    (hrow : row ∈ orgChartExportRows env units centers) (rowNumber : ℕ) :
    NothingLeft (mergeRow env input context state (writtenRow rowNumber row)) := by
  obtain ⟨unit, hunit, depth, hexport⟩ := exists_of_mem_export env hrow
  have hcode : row.code = some unit.code := by
    rw [hexport]
    rfl
  have hne : unit.code ≠ "" := by
    intro hempty
    have hbad := hpattern unit hunit
    rw [hempty] at hbad
    cases hbad
  have hpresent : present (writtenRow rowNumber row).code = some unit.code :=
    present_eq_some.mpr ⟨hcode, hne⟩
  have hexample : isTemplateExample env (writtenRow rowNumber row) = false := by
    have hsome : (writtenRow rowNumber row).code.isNone = false := by
      rw [show (writtenRow rowNumber row).code = row.code from rfl, hcode]
      rfl
    rw [isTemplateExample, hsome]
    rfl
  rw [OrgChart.mergeRow, hexample, if_neg Bool.false_ne_true, hpresent]
  dsimp only
  rw [mergeCodedRow]
  cases hfind : findByCode env.unicode context.units unit.code with
  | none =>
    refine ⟨hstate.units, hstate.conflicts, ?_⟩
    rw [MergeState.note, issuesOf_append, hstate.errors, deletedWarning, issuesOf_unitWarning,
      List.append_nil]
  | some found =>
    have hfound : found.code = unit.code := by
      rw [findByCode, toUpperCase_of_unitCodePattern env.unicode (hpattern unit hunit),
        Option.or_self] at hfind
      exact (KeyedMap.mem_of_get?_index hfind).2
    have horiginal : (stampByCode input).get? found.code =
        some (stampRow env unit.code (exportValues row)) := by
      rw [hfound]
      exact (get?_stampByCode env hcodes hstamp).mpr ⟨row, hrow, hcode, hne, rfl⟩
    have hprints : ∀ column, fingerprint env column (rowValues (writtenRow rowNumber row) column) =
        (stampRow env unit.code (exportValues row)).columns column := by
      intro column
      rw [rowValues_writtenRow]
      rfl
    dsimp only
    rw [horiginal]
    dsimp only
    rw [mergeStamped, mergeStampedWith_of_prints_eq env context _ _ found _ hprints rfl]
    refine ⟨?_, ?_, ?_⟩
    · rw [hstate.units]
      rfl
    · rw [hstate.conflicts]
      rfl
    · dsimp only
      rw [List.append_nil]
      exact hstate.errors

/-- Nothing of an export that nobody edited is left by the merge. -/
theorem nothingLeft_mergeRows (hcodes : (units.map SnapshotUnit.code).Nodup)
    (hpattern : ∀ unit ∈ units, unitCodePattern unit.code = true) (fileCreatedAt : Option IsoDate) :
    NothingLeft (mergeRows env (exportedInput env units centers generatedAt fileCreatedAt) context) := by
  have hstart : issuesOf .error
      (fileNotices env (exportedInput env units centers generatedAt fileCreatedAt) context) = [] := by
    unfold fileNotices
    rw [issuesOf_append]
    refine List.append_eq_nil_iff.mpr ⟨?_, ?_⟩
    · split
      · split
        · rfl
        · rfl
      · rfl
    · split
      · rfl
      · rfl
  unfold mergeRows
  refine List.foldlRecOn (motive := NothingLeft) _ _ ⟨rfl, rfl, hstart⟩ fun state hstate row hrow => ?_
  obtain ⟨index, hindex, hexport⟩ := List.mem_mapIdx.mp hrow
  rw [← hexport]
  exact hstate.mergeRow hcodes hpattern rfl (List.getElem_mem hindex) (index + 2)

/-- The export of any state, uploaded unedited over any other state with distinct
live prefixes, brings no error, no conflict, no operation and no change. -/
theorem reupload_does_nothing (env : Runtime) (units : List SnapshotUnit)
    (centers : List SnapshotCenter) (generatedAt : IsoDate) (fileCreatedAt : Option IsoDate)
    (snapshot : OrgChartSnapshot) (context : MergeContext)
    (hcodes : (units.map SnapshotUnit.code).Nodup)
    (hpattern : ∀ unit ∈ units, unitCodePattern unit.code = true)
    (hdistinct : LivePrefixesDistinct snapshot.units) :
    let merge := mergeOrgChartInput env (exportedInput env units centers generatedAt fileCreatedAt)
      context
    let plan := planOrgChart env snapshot merge.input
    merge.errors = [] ∧ merge.conflicts = [] ∧ plan.errors = [] ∧ plan.units = [] ∧
      plan.centers = [] ∧ plan.changes = [] := by
  intro merge plan
  have hnothing : NothingLeft (mergeRows env
      (exportedInput env units centers generatedAt fileCreatedAt) context) :=
    nothingLeft_mergeRows hcodes hpattern fileCreatedAt
  have hrows : merge.input.units = [] := hnothing.units
  have herrors : merge.errors = [] := by
    have hsame : merge.errors = issuesOf .error ((mergeRows env
        (exportedInput env units centers generatedAt fileCreatedAt) context).notices ++ []) := rfl
    rw [hsame, List.append_nil]
    exact hnothing.errors
  exact ⟨herrors, hnothing.conflicts, plan_of_no_rows hdistinct hrows rfl⟩

end Exported

/-- The branch later: its first office left, its code went to the second, and the
last one is back under it. -/
def laterBranch : OrgChartSnapshot where
  units := [sampleOffice ⟨"2", two_ne_empty⟩ "A" none true,
    sampleOffice ⟨"3", three_ne_empty⟩ "C" (some ⟨"2", two_ne_empty⟩) true]
  centers := []
  removal := .empty
  unitIds := by decide
  centerIds := List.nodup_nil

/-- The export of the branch, uploaded over the later one. -/
theorem reupload_does_nothing_branch :
    let merge := mergeOrgChartInput blindRuntime
      (exportedInput blindRuntime archivedBranch.units [] ⟨"2024-02-02", 2000⟩ none)
      { units := laterBranch.units, centers := [], lastChanges := .empty, deletedUnits := .empty,
        unitOrigins := .empty, now := 3000 }
    let plan := planOrgChart blindRuntime laterBranch merge.input
    merge.errors = [] ∧ merge.conflicts = [] ∧ plan.errors = [] ∧ plan.units = [] ∧
      plan.centers = [] ∧ plan.changes = [] := by
  have hdistinct : LivePrefixesDistinct laterBranch.units := by
    have hnone : ∀ unit ∈ laterBranch.units, unit.codePrefix = none := by decide
    intro unit hunit other _ _ _ text htext
    rw [hnone unit hunit] at htext
    cases htext
  exact reupload_does_nothing blindRuntime archivedBranch.units [] ⟨"2024-02-02", 2000⟩ none laterBranch
    _ (by decide) (by decide) hdistinct

end InternalControl.OrgChart
