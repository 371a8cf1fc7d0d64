import InternalControl.OrgChartPlacing

/-!
# The units after a plan

The operations of a plan, applied to the stored units, leave the units that
the passes end with, less the deleted ones. A plan without errors has passed
each of its checks.
-/

namespace InternalControl.OrgChart

open Text

section Fields

variable (env : Runtime) (snapshot : OrgChartSnapshot) (input : OrgChartInput)

/-- A unit that the rows left, with its own centre and its parent. -/
def placedUnit (unit : FinalUnit) : FinalUnit :=
  withParent env (headedUnits env snapshot input) (planCenterRows env snapshot input).centers
    (planHolders env snapshot input).holders
    (withHead env snapshot (planCenterRows env snapshot input).centers unit)

/-- A unit that the rows left, as the passes end with it. -/
def settledUnit (unit : FinalUnit) : FinalUnit :=
  (settleUnit snapshot (placedUnits env snapshot input) (settledCenters env snapshot input)
    (placedUnit env snapshot input unit)).1

/-- The units that the rows leave. -/
def rowedUnits : UnitMap := (planUnitRows env snapshot input).units

theorem values_headedUnits : (headedUnits env snapshot input).values =
    (rowedUnits env snapshot input).values.map
      (withHead env snapshot (planCenterRows env snapshot input).centers) :=
  KeyedMap.values_mapValues _ _

theorem get?_placedUnits (key : PlanKey) : (placedUnits env snapshot input).get? key =
    ((rowedUnits env snapshot input).get? key).map (placedUnit env snapshot input) := by
  rw [placedUnits, KeyedMap.get?_mapValues, headedUnits, KeyedMap.get?_mapValues, Option.map_map]
  rfl

theorem values_placedUnits : (placedUnits env snapshot input).values =
    (rowedUnits env snapshot input).values.map (placedUnit env snapshot input) := by
  rw [placedUnits, KeyedMap.values_mapValues, values_headedUnits, List.map_map]
  rfl

theorem values_settledUnits : (settledUnits env snapshot input).values =
    (rowedUnits env snapshot input).values.map (settledUnit env snapshot input) := by
  rw [settledUnits, KeyedMap.values_mapValues, values_placedUnits, List.map_map]
  rfl

variable (unit : FinalUnit)

@[simp] theorem placedUnit_key : (placedUnit env snapshot input unit).key = unit.key := rfl

@[simp] theorem placedUnit_existingId :
    (placedUnit env snapshot input unit).existingId = unit.existingId := rfl

@[simp] theorem placedUnit_rowNumber :
    (placedUnit env snapshot input unit).rowNumber = unit.rowNumber := rfl

@[simp] theorem placedUnit_code : (placedUnit env snapshot input unit).code = unit.code := rfl

@[simp] theorem placedUnit_name : (placedUnit env snapshot input unit).name = unit.name := rfl

@[simp] theorem placedUnit_unitType :
    (placedUnit env snapshot input unit).unitType = unit.unitType := rfl

@[simp] theorem placedUnit_codePrefix :
    (placedUnit env snapshot input unit).codePrefix = unit.codePrefix := rfl

@[simp] theorem placedUnit_isActive :
    (placedUnit env snapshot input unit).isActive = unit.isActive := rfl

@[simp] theorem placedUnit_removal :
    (placedUnit env snapshot input unit).removal = unit.removal := rfl

@[simp] theorem placedUnit_parentText :
    (placedUnit env snapshot input unit).parentText = unit.parentText := rfl

@[simp] theorem isLiveUnit_placedUnit :
    isLiveUnit (placedUnit env snapshot input unit) = isLiveUnit unit := rfl

@[simp] theorem storedUnit_placedUnit :
    storedUnit snapshot (placedUnit env snapshot input unit) = storedUnit snapshot unit := rfl

/-- A unit that leaves is settled by turning its removal into an archival, or as it is. -/
theorem settleUnit_cases (units : UnitMap) (centers : CenterMap) :
    (settleUnit snapshot units centers unit).1 = unit ∨
      unit.removal = some .delete ∧ (settleUnit snapshot units centers unit).1 =
        { unit with removal := some .archive, isActive := false } := by
  unfold settleUnit
  dsimp only
  split
  · exact Or.inl rfl
  · split
    · exact Or.inl rfl
    · split
      · exact Or.inl rfl
      · split
        · exact Or.inl rfl
        · split
          · next hdelete => exact Or.inr ⟨by assumption, rfl⟩
          · exact Or.inl rfl

theorem settledUnit_cases :
    settledUnit env snapshot input unit = placedUnit env snapshot input unit ∨
      unit.removal = some .delete ∧ settledUnit env snapshot input unit =
        { placedUnit env snapshot input unit with removal := some .archive, isActive := false } :=
  settleUnit_cases snapshot _ _ _

/-- A live unit is not touched by the pass over the units that leave. -/
theorem settledUnit_of_live (h : isLiveUnit unit = true) :
    settledUnit env snapshot input unit = placedUnit env snapshot input unit := by
  rcases settledUnit_cases env snapshot input unit with hsame | ⟨hdelete, -⟩
  · exact hsame
  · rw [isLiveUnit, hdelete] at h
    simp at h

end Fields

/-! ### What a unit of the plan is -/

section Rows

variable {env : Runtime} {snapshot : OrgChartSnapshot} {input : OrgChartInput} {unit : FinalUnit}

/-- A unit of the plan is an untouched stored one, or what an accepted row says. -/
theorem rowedUnits_cases (h : unit ∈ (rowedUnits env snapshot input).values) :
    (∃ before ∈ snapshot.units, unit = .ofSnapshot before) ∨
      ∃ row ∈ unitSheetRows input, Placeable env.unicode snapshot.units row ∧
        PlacedBy env.unicode snapshot.units row unit := by
  obtain ⟨key, hget⟩ := (KeyedMap.mem_values_iff _ unit).mp h
  have hplaced := rowsPlaced_readUnitRows env.unicode snapshot.unitIds (unitSheetRows input)
  obtain ⟨-, hcase⟩ := hplaced.entry key unit hget
  rcases hcase with ⟨-, before, hbefore, hsame⟩ | ⟨-, row, hrow, hplaceable, hby⟩
  · exact Or.inl ⟨before, hbefore, hsame⟩
  · exact Or.inr ⟨row, hrow, hplaceable, hby⟩

/-- Units of the plan are found under their own keys. -/
theorem get?_rowedUnits_iff {key : PlanKey} : (rowedUnits env snapshot input).get? key = some unit ↔
    unit ∈ (rowedUnits env snapshot input).values ∧ unit.key = key := by
  have hplaced := rowsPlaced_readUnitRows env.unicode snapshot.unitIds (unitSheetRows input)
  constructor
  · intro hget
    exact ⟨(KeyedMap.mem_values_iff _ unit).mpr ⟨key, hget⟩, (hplaced.entry key unit hget).1⟩
  · rintro ⟨hmem, rfl⟩
    obtain ⟨other, hget⟩ := (KeyedMap.mem_values_iff _ unit).mp hmem
    rw [(hplaced.entry other unit hget).1]
    exact hget

/-- Every stored unit is a unit of the plan. -/
theorem exists_rowedUnits (env : Runtime) (input : OrgChartInput) {before : SnapshotUnit}
    (h : before ∈ snapshot.units) :
    ∃ unit, (rowedUnits env snapshot input).get? (.stored before.id) = some unit := by
  have hplaced := rowsPlaced_readUnitRows env.unicode snapshot.unitIds (unitSheetRows input)
  exact Option.isSome_iff_exists.mp
    ((KeyedMap.get?_isSome_iff _ _).mpr (hplaced.stored before h))

/-- The stored unit with an id. -/
theorem get?_unitById {before : SnapshotUnit} (h : before ∈ snapshot.units) :
    (unitById snapshot.units).get? before.id = some before :=
  (KeyedMap.get?_index_iff snapshot.unitIds).mpr ⟨h, rfl⟩

@[simp] theorem storedUnit_ofSnapshot {before : SnapshotUnit} (h : before ∈ snapshot.units) :
    storedUnit snapshot (.ofSnapshot before) = some before := get?_unitById h

/-- What an accepted row leaves, whoever the row is about. -/
theorem PlacedBy.spec {row : UnitRowInput} (h : PlacedBy env.unicode snapshot.units row unit) :
    unit.rowNumber = some row.rowNumber ∧
      storedUnit snapshot unit = rowExisting env.unicode row snapshot.units ∧
      unit.existingId = (rowExisting env.unicode row snapshot.units).map SnapshotUnit.id ∧
      unit.removal = rowAction env.unicode row ∧ unit.parentText = row.parent ∧
      unit.headCenterText = row.headCenter ∧
      (unit.removal = some .archive → unit.isActive = false) := by
  have hactive : ∀ {key code current}, (rowUnit env.unicode row snapshot.units key code current).removal =
      some .archive →
        (rowUnit env.unicode row snapshot.units key code current).isActive = false := by
    intro key code current hremoval
    exact if_pos hremoval
  have hstored : ∀ {key code current},
      storedUnit snapshot (rowUnit env.unicode row snapshot.units key code current) =
        rowExisting env.unicode row snapshot.units := by
    intro key code current
    cases hexisting : rowExisting env.unicode row snapshot.units with
    | none => simp [storedUnit, rowUnit, hexisting]
    | some before =>
      have hbefore := get?_unitById (mem_of_rowExisting hexisting)
      simp [storedUnit, rowUnit, hexisting, hbefore]
  rcases h with ⟨before, -, -, rfl⟩ | ⟨-, code, -, rfl⟩
  · exact ⟨rfl, hstored, rfl, rfl, rfl, rfl, hactive⟩
  · exact ⟨rfl, hstored, rfl, rfl, rfl, rfl, hactive⟩

/-- Only a stored unit has an id, and its key and code are those it had. -/
theorem storedUnit_of_mem (h : unit ∈ (rowedUnits env snapshot input).values) :
    (∃ before ∈ snapshot.units, storedUnit snapshot unit = some before ∧
      unit.existingId = some before.id ∧ unit.key = .stored before.id ∧ unit.code = before.code) ∨
    storedUnit snapshot unit = none ∧ unit.existingId = none ∧ unit.rowNumber.isSome = true ∧
      unit.removal = none ∧ ∃ code, unit.key = .new code ∧ unit.code = code ∧
        code ∉ snapshot.units.map SnapshotUnit.code := by
  rcases rowedUnits_cases h with ⟨before, hbefore, rfl⟩ | ⟨row, -, hplaceable, hby⟩
  · exact Or.inl ⟨before, hbefore, storedUnit_ofSnapshot hbefore, rfl, rfl, rfl⟩
  · obtain ⟨hrow, hstored, hid, hremoval, -⟩ := hby.spec
    rcases hby with ⟨before, hbefore, hexisting, hunit⟩ | ⟨hexisting, code, hcode, hunit⟩
    · rw [hexisting] at hstored hid
      exact Or.inl ⟨before, hbefore, hstored, hid, by rw [hunit]; rfl, by rw [hunit]; rfl⟩
    · rw [hexisting] at hstored hid
      refine Or.inr ⟨hstored, hid, by rw [hrow]; rfl, ?_, code, by rw [hunit]; rfl,
        by rw [hunit]; rfl, hcode⟩
      rw [hremoval]
      exact (hplaceable.newUnit hexisting).1

/-- A unit of the plan that leaves to be archived is not active. -/
theorem isActive_of_archive (h : unit ∈ (rowedUnits env snapshot input).values)
    (hremoval : unit.removal = some .archive) : unit.isActive = false := by
  rcases rowedUnits_cases h with ⟨before, -, rfl⟩ | ⟨row, -, -, hby⟩
  · cases hremoval
  · obtain ⟨-, -, -, -, -, -, hactive⟩ := hby.spec
    exact hactive hremoval

end Rows

/-! ### Operations and what they leave -/

/-- A unit of the plan without the marks of the file. -/
def FinalUnit.planned (unit : FinalUnit) : PlannedUnit :=
  { key := unit.key
    code := unit.code
    name := unit.name
    unitType := unit.unitType
    relationType := unit.relationType
    codePrefix := unit.codePrefix
    parentKey := unit.parentKey
    headCenterKey := unit.headCenterKey
    headCenterCode := unit.headCenterCode
    color := unit.color
    isActive := unit.isActive }

section Operations

variable {env : Runtime} {snapshot : OrgChartSnapshot} {input : OrgChartInput}

theorem changeIf_eq_nil {κ : Type} {differs : Bool} {kind : κ} {detail : String} :
    changeIf differs kind detail = [] ↔ differs = false := by
  cases differs <;> simp [changeIf]

/-- What an operation says of its unit. -/
theorem unitOp_eq_some {units : UnitMap} {centers : CenterMap} {unit : FinalUnit} {op : UnitOp}
    (h : unitOp snapshot units centers unit = some op) :
    op.existingId = unit.existingId ∧ op.removal = unit.removal ∧
      PlannedUnit.ofOp op = unit.planned ∧
      op.kinds = (unitChanges snapshot units centers unit).map Prod.fst := by
  obtain ⟨rowNumber, -, hop⟩ := Option.bind_eq_some_iff.mp h
  dsimp only at hop
  split at hop
  · cases hop
  · cases hop
    exact ⟨rfl, rfl, rfl, rfl⟩

/-- A stored unit of the file without an operation stays as it was. -/
theorem planned_of_unitOp_eq_none {units : UnitMap} {centers : CenterMap} {unit : FinalUnit}
    {before : SnapshotUnit} (hrow : unit.rowNumber.isSome = true)
    (hstored : storedUnit snapshot unit = some before) (hkey : unit.key = .stored before.id)
    (hcode : unit.code = before.code) (h : unitOp snapshot units centers unit = none) :
    unit.removal ≠ some .delete ∧ unit.planned = .ofSnapshot before := by
  obtain ⟨rowNumber, hnumber⟩ := Option.isSome_iff_exists.mp hrow
  rw [unitOp, hnumber, Option.bind_some] at h
  dsimp only at h
  split at h
  · next hempty =>
    rw [List.isEmpty_iff, List.map_eq_nil_iff, unitChanges, hstored] at hempty
    dsimp only at hempty
    split at hempty
    · cases hempty
    · next hkept =>
      refine ⟨hkept, ?_⟩
      simp only [keptUnitChanges, List.append_eq_nil_iff, changeIf_eq_nil, decide_eq_false_iff_not,
        not_not, Bool.or_eq_false_iff, ne_eq] at hempty
      obtain ⟨⟨⟨⟨⟨⟨⟨⟨hname, htype⟩, hparent⟩, hshown⟩, hrelation⟩, hhead⟩, hcolor⟩, hback⟩, hout⟩ :=
        hempty
      have hactive : before.isActive = unit.isActive := by
        cases hb : before.isActive <;> cases hu : unit.isActive <;> simp_all
      simp only [FinalUnit.planned, PlannedUnit.ofSnapshot, hkey, hcode, hname, htype, hparent,
        hshown, hrelation, hhead.1, hhead.2, hcolor, hactive]
  · cases h

theorem mem_plan_units {op : UnitOp} : op ∈ (planOrgChart env snapshot input).units ↔
    ∃ unit ∈ (rowedUnits env snapshot input).values,
      unitOp snapshot (settledUnits env snapshot input) (settledCenters env snapshot input)
        (settledUnit env snapshot input unit) = some op := by
  have hordered : ∀ unit, unit ∈ inRowOrder FinalUnit.rowNumber (settledUnits env snapshot input).values ↔
      ∃ rowed ∈ (rowedUnits env snapshot input).values,
        settledUnit env snapshot input rowed = unit := by
    intro unit
    rw [inRowOrder, List.mem_insertionSort, values_settledUnits, List.mem_map]
  unfold planOrgChart
  dsimp only
  rw [List.mem_filterMap]
  constructor
  · rintro ⟨unit, hunit, hop⟩
    obtain ⟨rowed, hrowed, hsame⟩ := (hordered unit).mp hunit
    exact ⟨rowed, hrowed, hsame ▸ hop⟩
  · rintro ⟨rowed, hrowed, hop⟩
    exact ⟨_, (hordered _).mpr ⟨rowed, hrowed, rfl⟩, hop⟩

/-- The passes keep who a unit is. -/
theorem settledUnit_identity (env : Runtime) (snapshot : OrgChartSnapshot) (input : OrgChartInput)
    (unit : FinalUnit) :
    (settledUnit env snapshot input unit).key = unit.key ∧
      (settledUnit env snapshot input unit).existingId = unit.existingId ∧
      (settledUnit env snapshot input unit).rowNumber = unit.rowNumber ∧
      (settledUnit env snapshot input unit).code = unit.code ∧
      storedUnit snapshot (settledUnit env snapshot input unit) = storedUnit snapshot unit := by
  rcases settledUnit_cases env snapshot input unit with hsame | ⟨-, hsame⟩
  · rw [hsame]
    exact ⟨rfl, rfl, rfl, rfl, rfl⟩
  · rw [hsame]
    exact ⟨rfl, rfl, rfl, rfl, rfl⟩

/-- A unit that no row touched ends as it was stored. -/
theorem planned_settledUnit_ofSnapshot (env : Runtime) (snapshot : OrgChartSnapshot)
    (input : OrgChartInput) (before : SnapshotUnit) :
    (settledUnit env snapshot input (.ofSnapshot before)).removal = none ∧
      (settledUnit env snapshot input (.ofSnapshot before)).planned = .ofSnapshot before := by
  have hhead : withHead env snapshot (planCenterRows env snapshot input).centers
      (.ofSnapshot before) = .ofSnapshot before := rfl
  have hplaced : placedUnit env snapshot input (.ofSnapshot before) = .ofSnapshot before := by
    rw [placedUnit, hhead]
    rfl
  have hsettled : settledUnit env snapshot input (.ofSnapshot before) = .ofSnapshot before := by
    rw [settledUnit, hplaced]
    rfl
  rw [hsettled]
  exact ⟨rfl, rfl⟩

/-- The operation found for a stored unit is the one on it. -/
theorem find_op_cases {before : SnapshotUnit} {unit : FinalUnit}
    (hunit : (rowedUnits env snapshot input).get? (.stored before.id) = some unit) :
    ((planOrgChart env snapshot input).units.find? fun op => op.existingId = some before.id) =
      unitOp snapshot (settledUnits env snapshot input) (settledCenters env snapshot input)
        (settledUnit env snapshot input unit) := by
  obtain ⟨hmem, hkey⟩ := get?_rowedUnits_iff.mp hunit
  have hone : ∀ op ∈ (planOrgChart env snapshot input).units, op.existingId = some before.id →
      unitOp snapshot (settledUnits env snapshot input) (settledCenters env snapshot input)
        (settledUnit env snapshot input unit) = some op := by
    intro op hop hid
    obtain ⟨other, hother, hopOther⟩ := mem_plan_units.mp hop
    have hexisting : other.existingId = some before.id := by
      rw [← hid, (unitOp_eq_some hopOther).1, (settledUnit_identity env snapshot input other).2.1]
    have hotherKey : other.key = .stored before.id := by
      rcases storedUnit_of_mem hother with ⟨found, -, -, hfound, hfoundKey, -⟩ | ⟨-, hnone, -⟩
      · rw [hexisting] at hfound
        rw [hfoundKey, Option.some.inj hfound]
      · rw [hexisting] at hnone
        cases hnone
    have hsame : other = unit := by
      have hget := get?_rowedUnits_iff.mpr ⟨hother, hotherKey⟩
      rw [hunit] at hget
      exact (Option.some.inj hget).symm
    exact hsame ▸ hopOther
  cases hop : unitOp snapshot (settledUnits env snapshot input) (settledCenters env snapshot input)
      (settledUnit env snapshot input unit) with
  | none =>
    rw [List.find?_eq_none]
    intro op hmemOp hid
    rw [decide_eq_true_eq] at hid
    rw [hone op hmemOp hid] at hop
    cases hop
  | some op =>
    have hmemOp := mem_plan_units.mpr ⟨unit, hmem, hop⟩
    have hid : op.existingId = some before.id := by
      rw [(unitOp_eq_some hop).1, (settledUnit_identity env snapshot input unit).2.1]
      rcases storedUnit_of_mem hmem with ⟨found, -, -, hfound, hfoundKey, -⟩ | ⟨-, -, -, -, code, hcode, -⟩
      · rw [hkey] at hfoundKey
        rw [hfound, PlanKey.stored.inj hfoundKey]
      · rw [hkey] at hcode
        cases hcode
    cases hfind : (planOrgChart env snapshot input).units.find? fun op =>
        decide (op.existingId = some before.id) with
    | none =>
      have hnone := List.find?_eq_none.mp hfind op hmemOp
      exact absurd (decide_eq_true hid) hnone
    | some found =>
      have hfoundId := List.find?_some hfind
      have hfoundOp := hone found (List.mem_of_find?_eq_some hfind) (of_decide_eq_true hfoundId)
      rw [hop] at hfoundOp
      exact hfoundOp.symm

/-- The units after a plan are those the passes end with, less the deleted ones. -/
theorem mem_finalUnits {planned : PlannedUnit} : planned ∈ finalUnits env snapshot input ↔
    ∃ unit ∈ (rowedUnits env snapshot input).values,
      (settledUnit env snapshot input unit).removal ≠ some .delete ∧
        planned = (settledUnit env snapshot input unit).planned := by
  unfold finalUnits applyUnitOps
  rw [List.mem_append, List.mem_filterMap, List.mem_map]
  constructor
  · rintro (⟨before, hbefore, hplanned⟩ | ⟨op, hop, rfl⟩)
    · obtain ⟨unit, hunit⟩ := exists_rowedUnits env input hbefore
      obtain ⟨hmem, hkey⟩ := get?_rowedUnits_iff.mp hunit
      rw [find_op_cases hunit] at hplanned
      refine ⟨unit, hmem, ?_⟩
      cases hop : unitOp snapshot (settledUnits env snapshot input)
          (settledCenters env snapshot input) (settledUnit env snapshot input unit) with
      | some op =>
        rw [hop] at hplanned
        dsimp only at hplanned
        obtain ⟨-, hremoval, hsame, -⟩ := unitOp_eq_some hop
        split at hplanned
        · cases hplanned
        · next hkept =>
          rw [← hremoval]
          exact ⟨hkept, (Option.some.inj hplanned).symm.trans hsame⟩
      | none =>
        rw [hop] at hplanned
        have hstays : planned = .ofSnapshot before := (Option.some.inj hplanned).symm
        obtain ⟨hkey', -, hrow', hcode', hstored'⟩ :=
        settledUnit_identity env snapshot input unit
        rcases rowedUnits_cases hmem with ⟨found, hfound, rfl⟩ | ⟨row, -, -, hby⟩
        · have hid : found.id = before.id := PlanKey.stored.inj hkey
          rw [List.inj_on_of_nodup_map snapshot.unitIds hfound hbefore hid]
          have hsettled := planned_settledUnit_ofSnapshot env snapshot input before
          rw [hsettled.1, hsettled.2]
          exact ⟨nofun, hstays⟩
        · rcases storedUnit_of_mem hmem with
            ⟨found, hfound, hstored, -, hfoundKey, hfoundCode⟩ | ⟨-, -, -, -, code, hcode, -⟩
          · have hid : found.id = before.id := PlanKey.stored.inj (hfoundKey.symm.trans hkey)
            have hsame := List.inj_on_of_nodup_map snapshot.unitIds hfound hbefore hid
            subst hsame
            have hrow : (settledUnit env snapshot input unit).rowNumber.isSome = true := by
              rw [hrow', hby.spec.1]
              rfl
            have hnone := planned_of_unitOp_eq_none hrow (hstored'.trans hstored)
              (hkey'.trans hfoundKey) (hcode'.trans hfoundCode) hop
            exact ⟨hnone.1, hstays.trans hnone.2.symm⟩
          · rw [hkey] at hcode
            cases hcode
    · obtain ⟨hmemOp, hnew⟩ := List.mem_filter.mp hop
      rw [Option.isNone_iff_eq_none] at hnew
      obtain ⟨unit, hmem, hopUnit⟩ := mem_plan_units.mp hmemOp
      obtain ⟨hid, hremoval, hsame, -⟩ := unitOp_eq_some hopUnit
      refine ⟨unit, hmem, ?_, hsame⟩
      rcases storedUnit_of_mem hmem with ⟨found, -, -, hfound, -⟩ | ⟨-, -, -, hnone, -⟩
      · rw [hnew, (settledUnit_identity env snapshot input unit).2.1, hfound] at hid
        cases hid
      · rcases settledUnit_cases env snapshot input unit with hplain | ⟨hdelete, -⟩
        · rw [hplain, placedUnit_removal, hnone]
          exact nofun
        · rw [hnone] at hdelete
          cases hdelete
  · rintro ⟨unit, hmem, hkept, rfl⟩
    rcases storedUnit_of_mem hmem with
      ⟨before, hbefore, hstored, -, hkey, hcode⟩ | ⟨hnone, hexisting, hrow, -⟩
    · refine Or.inl ⟨before, hbefore, ?_⟩
      have hunit := get?_rowedUnits_iff.mpr ⟨hmem, hkey⟩
      rw [find_op_cases hunit]
      obtain ⟨hkey', -, hrow', hcode', hstored'⟩ :=
        settledUnit_identity env snapshot input unit
      cases hop : unitOp snapshot (settledUnits env snapshot input)
          (settledCenters env snapshot input) (settledUnit env snapshot input unit) with
      | some op =>
        obtain ⟨-, hremoval, hsame, -⟩ := unitOp_eq_some hop
        dsimp only
        rw [hremoval, if_neg hkept, hsame]
      | none =>
        rcases rowedUnits_cases hmem with ⟨found, hfound, rfl⟩ | ⟨row, -, -, hby⟩
        · have hsettled := planned_settledUnit_ofSnapshot env snapshot input found
          have hid : found.id = before.id := PlanKey.stored.inj hkey
          rw [hsettled.2, List.inj_on_of_nodup_map snapshot.unitIds hfound hbefore hid]
        · have hrow : (settledUnit env snapshot input unit).rowNumber.isSome = true := by
            rw [hrow', hby.spec.1]
            rfl
          have hnone := planned_of_unitOp_eq_none hrow (hstored'.trans hstored)
            (hkey'.trans hkey) (hcode'.trans hcode) hop
          rw [hnone.2]
    · refine Or.inr ?_
      obtain ⟨-, hexisting', hrow', -, hstored'⟩ :=
        settledUnit_identity env snapshot input unit
      obtain ⟨rowNumber, hnumber⟩ := Option.isSome_iff_exists.mp (hrow'.symm ▸ hrow)
      cases hop : unitOp snapshot (settledUnits env snapshot input)
          (settledCenters env snapshot input) (settledUnit env snapshot input unit) with
      | some op =>
        obtain ⟨hid, -, hsame, -⟩ := unitOp_eq_some hop
        refine ⟨op, List.mem_filter.mpr ⟨mem_plan_units.mpr ⟨unit, hmem, hop⟩, ?_⟩, hsame⟩
        rw [hid, hexisting', hexisting]
        rfl
      | none =>
        rw [unitOp, hnumber, Option.bind_some, unitChanges, hstored', hnone] at hop
        cases hop

/-- The live units after a plan are the live ones among those the rows left. -/
theorem mem_finalUnits_live {planned : PlannedUnit} :
    planned ∈ finalUnits env snapshot input ∧ planned.isActive = true ↔
      ∃ unit ∈ (rowedUnits env snapshot input).values, isLiveUnit unit = true ∧
        planned = (placedUnit env snapshot input unit).planned := by
  rw [mem_finalUnits]
  constructor
  · rintro ⟨⟨unit, hmem, hkept, rfl⟩, hactive⟩
    rcases settledUnit_cases env snapshot input unit with hplain | ⟨-, harchived⟩
    · rw [hplain] at hkept hactive ⊢
      have hactive' : unit.isActive = true := hactive
      refine ⟨unit, hmem, ?_, rfl⟩
      cases hremoval : unit.removal with
      | none => simp [isLiveUnit, hactive', hremoval]
      | some action =>
        cases action with
        | delete => exact absurd hremoval hkept
        | archive =>
          rw [isActive_of_archive hmem hremoval] at hactive'
          cases hactive'
    · rw [harchived] at hactive
      cases hactive
  · rintro ⟨unit, hmem, hlive, rfl⟩
    have hsettled := settledUnit_of_live env snapshot input unit hlive
    rw [isLiveUnit, Bool.and_eq_true, Option.isNone_iff_eq_none] at hlive
    refine ⟨⟨unit, hmem, ?_, by rw [hsettled]⟩, hlive.1⟩
    rw [hsettled, placedUnit_removal, hlive.2]
    exact nofun

end Operations

/-! ### Who holds a prefix -/

section Holders

/-- What holds of the holders while the units are visited. -/
structure HoldersOf (visited : List FinalUnit) (state : PrefixHolders) : Prop where
  live : ∀ text holder, state.holders.get? text = some holder →
    holder ∈ visited ∧ isLiveUnit holder = true ∧ present holder.codePrefix = some text
  held : issuesOf .error state.notices = [] → ∀ unit ∈ visited, isLiveUnit unit = true →
    ∀ text, present unit.codePrefix = some text → state.holders.get? text = some unit

/-- Visiting one more unit. -/
theorem HoldersOf.holdPrefix {visited : List FinalUnit} {state : PrefixHolders}
    (hstate : HoldersOf visited state) {unit : FinalUnit} :
    HoldersOf (visited ++ [unit]) (holdPrefix state unit) := by
  have hearlier : ∀ text holder, state.holders.get? text = some holder →
      holder ∈ visited ++ [unit] ∧ isLiveUnit holder = true ∧
        present holder.codePrefix = some text := by
    intro text holder hget
    obtain ⟨hmem, hlive, hshown⟩ := hstate.live text holder hget
    exact ⟨List.mem_append_left _ hmem, hlive, hshown⟩
  unfold OrgChart.holdPrefix
  split
  · next text hlive hshown =>
    split
    · next hfree =>
      refine ⟨fun other holder hget => ?_, fun hclean held hheld hheldLive other hother => ?_⟩
      · dsimp only at hget
        rw [KeyedMap.get?_set] at hget
        split at hget
        · next hsame =>
          cases hget
          exact ⟨by simp, hlive, hsame ▸ hshown⟩
        · exact hearlier other holder hget
      · dsimp only at hclean ⊢
        rw [KeyedMap.get?_set]
        rcases List.mem_append.mp hheld with hheld | hheld
        · have hget := hstate.held hclean held hheld hheldLive other hother
          rw [if_neg fun hsame => ?_]
          · exact hget
          · rw [hsame, hfree] at hget
            cases hget
        · rw [List.mem_singleton.mp hheld] at hother ⊢
          rw [hshown] at hother
          rw [if_pos (Option.some.inj hother).symm]
    · next holder hheld =>
      refine ⟨hearlier, fun hclean => ?_⟩
      dsimp only at hclean
      rw [issuesOf_append, List.append_eq_nil_iff] at hclean
      cases hclean.2
  · next hnone =>
    refine ⟨hearlier, fun hclean held hheld hheldLive other hother => ?_⟩
    rcases List.mem_append.mp hheld with hheld | hheld
    · exact hstate.held hclean held hheld hheldLive other hother
    · rw [List.mem_singleton.mp hheld] at hheldLive hother
      exact absurd hother (hnone other hheldLive)

/-- What holds of the holders once a list of units is visited. -/
theorem holdersOf_foldl (visits : List FinalUnit) :
    HoldersOf visits (visits.foldl OrgChart.holdPrefix ⟨.empty, []⟩) := by
  induction visits using List.reverseRecOn with
  | nil => exact ⟨fun text holder hget => by simp at hget, fun _ unit hunit => absurd hunit List.not_mem_nil⟩
  | append_singleton visited unit ih =>
    rw [List.foldl_append, List.foldl_cons, List.foldl_nil]
    exact ih.holdPrefix

/-- A holder is a live unit with the prefix; without errors every live unit with
a prefix holds it. -/
theorem holdersOf_prefixHolders (units : UnitMap) : HoldersOf units.values (prefixHolders units) :=
  holdersOf_foldl units.values

/-- Nothing is said of units whose live prefixes are different. -/
theorem prefixHolders_notices {units : UnitMap} (hkeys : (units.values.map FinalUnit.key).Nodup)
    (hdistinct : ∀ unit ∈ units.values, ∀ other ∈ units.values, isLiveUnit unit = true →
      isLiveUnit other = true → ∀ text, present unit.codePrefix = some text →
        present other.codePrefix = some text → unit.key = other.key) :
    (prefixHolders units).notices = [] := by
  unfold prefixHolders
  generalize units.values = visits at hkeys hdistinct
  induction visits using List.reverseRecOn with
  | nil => rfl
  | append_singleton visited unit ih =>
    rw [List.map_append, List.nodup_append] at hkeys
    obtain ⟨hvisited, -, hapart⟩ := hkeys
    have hbefore := ih hvisited fun first hfirst second hsecond =>
      hdistinct first (List.mem_append_left _ hfirst) second (List.mem_append_left _ hsecond)
    rw [List.foldl_append, List.foldl_cons, List.foldl_nil, OrgChart.holdPrefix]
    split
    · next text hlive hshown =>
      split
      · exact hbefore
      · next holder hholder =>
        obtain ⟨hmem, hholderLive, hholderPrefix⟩ := (holdersOf_foldl visited).live text holder hholder
        have hsame : holder.key = unit.key :=
          hdistinct holder (List.mem_append_left _ hmem) unit (by simp) hholderLive hlive text
            hholderPrefix hshown
        exact absurd hsame (hapart _ (List.mem_map_of_mem hmem) _ (by simp))
    · exact hbefore

end Holders

/-! ### A plan without errors -/

section Sound

variable (env : Runtime) (snapshot : OrgChartSnapshot) (input : OrgChartInput)

/-- The checks on the units that found nothing wrong. -/
structure PlanSound : Prop where
  rows : issuesOf .error (planUnitRows env snapshot input).notices = []
  holders : issuesOf .error (planHolders env snapshot input).notices = []
  parents : ∀ unit ∈ (rowedUnits env snapshot input).values,
    issuesOf .error (planParentChoice env snapshot input
      (withHead env snapshot (planCenterRows env snapshot input).centers unit)).notices = []
  siblings : ∀ unit ∈ (rowedUnits env snapshot input).values,
    issuesOf .error (siblingNotices env snapshot (placedUnits env snapshot input)
      (placedUnit env snapshot input unit)) = []
  loops : ∀ unit ∈ (rowedUnits env snapshot input).values,
    issuesOf .error (cyclicNotices (placedUnits env snapshot input)
      (placedUnit env snapshot input unit)) = []
  prefixes : ∀ unit ∈ (rowedUnits env snapshot input).values,
    issuesOf .error (prefixNoticesOf snapshot (placedUnits env snapshot input)
      (planHolders env snapshot input).holders (placedUnit env snapshot input unit)) = []
  heads : ∀ unit ∈ (rowedUnits env snapshot input).values,
    issuesOf .error (headChoice env snapshot (planCenterRows env snapshot input).centers
      unit).notices = []
  leaving : ∀ unit ∈ (rowedUnits env snapshot input).values,
    issuesOf .error (settleUnit snapshot (placedUnits env snapshot input)
      (settledCenters env snapshot input) (placedUnit env snapshot input unit)).2 = []

variable {env snapshot input}

/-- A plan without errors has passed its checks. -/
theorem planSound (h : (planOrgChart env snapshot input).errors = []) :
    PlanSound env snapshot input := by
  have hnotices : issuesOf .error (planNotices env snapshot input) = [] := h
  unfold planNotices at hnotices
  simp only [issuesOf_append, List.append_eq_nil_iff, issuesOf_flatMap, List.flatMap_eq_nil_iff,
    values_headedUnits, values_placedUnits, List.forall_mem_map] at hnotices
  obtain ⟨⟨⟨⟨⟨⟨⟨⟨⟨⟨⟨⟨⟨⟨-, hrows⟩, -⟩, hholders⟩, -⟩, hparents⟩, -⟩, hsiblings⟩, hloops⟩, hprefixes⟩, -⟩, -⟩,
    hheads⟩, -⟩, hleaving⟩ := hnotices
  exact ⟨hrows, hholders, hparents, hsiblings, hloops, hprefixes, hheads, hleaving⟩

/-- Without errors every row about a stored unit says what the unit becomes. -/
theorem PlanSound.get?_rowedUnits (hsound : PlanSound env snapshot input) {row : UnitRowInput}
    (hrow : row ∈ unitSheetRows input) (hblank : isBlankUnitRow row = false) {before : SnapshotUnit}
    (hexisting : rowExisting env.unicode row snapshot.units = some before) :
    (rowedUnits env snapshot input).get? (.stored before.id) =
      some (rowUnit env.unicode row snapshot.units (.stored before.id) before.code
        (some (.ofSnapshot before))) :=
  (get?_readUnitRows snapshot.unitIds hsound.rows row hrow hblank before hexisting).1

end Sound

end InternalControl.OrgChart
