import InternalControl.OrgChartParents

/-!
# Collegiate bodies without prefix and own centre

Councils, committees and commissions carry neither a prefix nor an own centre.
The prefix is checked on the unit as it ends. The own centre is checked only
where a row writes one, so a unit that had one and is turned into a collegiate
body with a blank cell keeps it.
-/

namespace InternalControl.OrgChart

open Text

/-- Neither an own centre nor the code of one that is still to come. -/
def NoOwnCenter (key : Option PlanKey) (code : Option String) : Prop :=
  key = none ∧ present code = none

/-- A live stored collegiate body has no prefix and no own centre. -/
def StoredCollegiateBare (units : List SnapshotUnit) : Prop :=
  ∀ unit ∈ units, unit.isActive = true → isCollegiateBody unit.unitType = true →
    present unit.codePrefix = none ∧
      NoOwnCenter (unit.headCostCenterId.map .stored) unit.headCostCenterCode

/-- A live collegiate body after a plan has no prefix and no own centre. -/
def PlannedCollegiateBare (units : List PlannedUnit) : Prop :=
  ∀ unit ∈ units, unit.isActive = true → isCollegiateBody unit.unitType = true →
    present unit.codePrefix = none ∧ NoOwnCenter unit.headCenterKey unit.headCenterCode

section Condition

variable (unicode : Unicode) (units : List SnapshotUnit)

/-- The row leaves the stored unit as a live collegiate body. -/
structure EndsCollegiate (row : UnitRowInput) (unit : SnapshotUnit) : Prop where
  notBlank : isBlankUnitRow row = false
  about : rowExisting unicode row units = some unit
  action : rowAction unicode row = none
  active : (rowStatus unicode row).getD unit.isActive = true
  collegiate : isCollegiateBody ((rowType unicode row).getD unit.unitType) = true

/-- No row with a blank own centre makes a collegiate body of a unit that has one. -/
def OwnCentersCleared (rows : List UnitRowInput) : Prop :=
  ∀ row ∈ rows, ∀ unit, EndsCollegiate unicode units row unit → present row.headCenter = none →
    NoOwnCenter (unit.headCostCenterId.map .stored) unit.headCostCenterCode

end Condition

variable {env : Runtime} {snapshot : OrgChartSnapshot} {input : OrgChartInput}

theorem placedUnit_head (unit : FinalUnit) :
    (placedUnit env snapshot input unit).headCenterKey =
        (headChoice env snapshot (planCenterRows env snapshot input).centers unit).headCenterKey ∧
      (placedUnit env snapshot input unit).headCenterCode =
        (headChoice env snapshot (planCenterRows env snapshot input).centers unit).headCenterCode :=
  ⟨rfl, rfl⟩

/-- A collegiate body with a blank cell keeps the own centre it has. -/
theorem headChoice_of_blank (env : Runtime) (snapshot : OrgChartSnapshot) (centers : CenterMap)
    {unit : FinalUnit}
    (hcollegiate : isCollegiateBody unit.unitType = true)
    (hblank : present unit.headCenterText = none) :
    headChoice env snapshot centers unit = .keep unit [] := by
  unfold headChoice
  rw [hblank, hcollegiate]
  split
  · rfl
  · simp
  · next hnone => cases hnone

/-- Without errors a live collegiate body of the file has no prefix. -/
theorem PlanSound.collegiate_prefix (hsound : PlanSound env snapshot input) {unit : FinalUnit}
    (hunit : unit ∈ (rowedUnits env snapshot input).values) {rowNumber : ℕ}
    (hrow : unit.rowNumber = some rowNumber) (hlive : isLiveUnit unit = true)
    (hcollegiate : isCollegiateBody unit.unitType = true) : present unit.codePrefix = none := by
  have hacyclic : (placedUnit env snapshot input unit).key ∉
      cyclicKeys (placedUnits env snapshot input) := by
    intro hmem
    obtain ⟨placed, hplaced, -⟩ := List.mem_map.mp hmem
    obtain ⟨hvalue, hcyclic⟩ := List.mem_filter.mp hplaced
    rw [values_placedUnits] at hvalue
    obtain ⟨other, hother, rfl⟩ := List.mem_map.mp hvalue
    rw [Bool.and_eq_true] at hcyclic
    obtain ⟨otherRow, hotherRow⟩ := Option.isSome_iff_exists.mp hcyclic.1
    have hloops := hsound.loops other hother
    unfold cyclicNotices at hloops
    rw [hotherRow] at hloops
    dsimp only at hloops
    rw [if_pos hcyclic.2] at hloops
    cases hloops
  cases hshown : present unit.codePrefix with
  | none => rfl
  | some text =>
    have hprefixes := hsound.prefixes unit hunit
    unfold prefixNoticesOf at hprefixes
    rw [placedUnit_rowNumber, hrow, placedUnit_codePrefix, hshown] at hprefixes
    dsimp only at hprefixes
    have hchecked : ¬(decide ((placedUnit env snapshot input unit).key ∈
        cyclicKeys (placedUnits env snapshot input)) || !true) = true := by
      rw [decide_eq_false hacyclic]
      decide
    rw [isLiveUnit_placedUnit, hlive, placedUnit_unitType, hcollegiate, if_neg hchecked,
      if_pos rfl] at hprefixes
    cases hprefixes

/-- Without errors a collegiate body of the file has the own centre it had, when the
cell is blank, and none otherwise. -/
theorem PlanSound.collegiate_head (hsound : PlanSound env snapshot input) {unit : FinalUnit}
    (hunit : unit ∈ (rowedUnits env snapshot input).values) {rowNumber : ℕ}
    (hrow : unit.rowNumber = some rowNumber)
    (hcollegiate : isCollegiateBody unit.unitType = true) :
    present unit.headCenterText = none ∨
      NoOwnCenter (placedUnit env snapshot input unit).headCenterKey
        (placedUnit env snapshot input unit).headCenterCode := by
  cases htext : present unit.headCenterText with
  | none => exact Or.inl rfl
  | some text =>
    refine Or.inr ?_
    have hheads := hsound.heads unit hunit
    rw [(placedUnit_head unit).1, (placedUnit_head unit).2]
    unfold headChoice at hheads ⊢
    rw [hrow, htext] at hheads ⊢
    dsimp only at hheads ⊢
    split at hheads
    · next hremoved =>
      rw [if_pos hremoved]
      exact ⟨rfl, rfl⟩
    · cases hheads

/-- The unit that a collegiate row leaves. -/
theorem PlanSound.endsCollegiate (hsound : PlanSound env snapshot input) {row : UnitRowInput}
    (hrow : row ∈ unitSheetRows input) {before : SnapshotUnit}
    (hends : EndsCollegiate env.unicode snapshot.units row before) :
    ∃ unit ∈ (rowedUnits env snapshot input).values, isLiveUnit unit = true ∧
      isCollegiateBody unit.unitType = true ∧ unit.headCenterText = row.headCenter ∧
      unit.headCenterKey = before.headCostCenterId.map .stored ∧
      unit.headCenterCode = before.headCostCenterCode := by
  have hget := hsound.get?_rowedUnits hrow hends.notBlank hends.about
  obtain ⟨hmem, -⟩ := get?_rowedUnits_iff.mp hget
  refine ⟨_, hmem, ?_, ?_, rfl, rfl, rfl⟩
  · have hactive : ((rowStatus env.unicode row).or (some before.isActive)).getD true = true := by
      rw [← hends.active]
      cases rowStatus env.unicode row <;> rfl
    simpa [isLiveUnit, rowUnit, hends.action, FinalUnit.ofSnapshot] using hactive
  · have htype : ((rowType env.unicode row).or (some before.unitType)).getD .dependency =
        (rowType env.unicode row).getD before.unitType := by
      cases rowType env.unicode row <;> rfl
    rw [← hends.collegiate, ← htype]
    rfl

/-- A plan without errors over bare collegiate bodies leaves them bare exactly when
no row with a blank own centre makes one of a unit that has an own centre. -/
theorem plannedCollegiateBare_iff (env : Runtime) (snapshot : OrgChartSnapshot)
    (input : OrgChartInput) (hsnapshot : StoredCollegiateBare snapshot.units)
    (herrors : (planOrgChart env snapshot input).errors = []) :
    PlannedCollegiateBare (finalUnits env snapshot input) ↔
      OwnCentersCleared env.unicode snapshot.units (unitSheetRows input) := by
  have hsound := planSound herrors
  constructor
  · intro hbare row hrow before hends hblank
    obtain ⟨unit, hunit, hlive, hcollegiate, htext, hkey, hcode⟩ :=
      hsound.endsCollegiate hrow hends
    obtain ⟨hmem, hactive⟩ := mem_finalUnits_live.mpr ⟨unit, hunit, hlive, rfl⟩
    have hhead := (hbare _ hmem hactive hcollegiate).2
    have hkept := headChoice_of_blank env snapshot (planCenterRows env snapshot input).centers
      hcollegiate (htext ▸ hblank)
    have hkeptKey : (placedUnit env snapshot input unit).headCenterKey = unit.headCenterKey := by
      rw [(placedUnit_head unit).1, hkept]
      rfl
    have hkeptCode : (placedUnit env snapshot input unit).headCenterCode = unit.headCenterCode := by
      rw [(placedUnit_head unit).2, hkept]
      rfl
    have hplanned : NoOwnCenter (placedUnit env snapshot input unit).headCenterKey
        (placedUnit env snapshot input unit).headCenterCode := hhead
    rw [hkeptKey, hkeptCode, hkey, hcode] at hplanned
    exact hplanned
  · intro hcleared planned hplanned hactive hcollegiate
    obtain ⟨unit, hunit, hlive, rfl⟩ := mem_finalUnits_live.mp ⟨hplanned, hactive⟩
    have htype : isCollegiateBody unit.unitType = true := hcollegiate
    rcases rowedUnits_cases hunit with ⟨before, hbefore, rfl⟩ | ⟨row, hrow, hplaceable, hby⟩
    · rw [isLiveUnit, Bool.and_eq_true] at hlive
      exact hsnapshot before hbefore hlive.1 htype
    · obtain ⟨hnumber, -, -, -, -, hheadText, -⟩ := hby.spec
      have hshown : present unit.codePrefix = none :=
        hsound.collegiate_prefix hunit hnumber hlive htype
      refine ⟨hshown, ?_⟩
      rcases hsound.collegiate_head hunit hnumber htype with hblank | hnone
      · -- the cell is blank: what the unit had is what it has
        have hkept := headChoice_of_blank env snapshot (planCenterRows env snapshot input).centers
          htype hblank
        have hplaced : NoOwnCenter unit.headCenterKey unit.headCenterCode →
            NoOwnCenter (placedUnit env snapshot input unit).headCenterKey
              (placedUnit env snapshot input unit).headCenterCode := by
          intro hhad
          rw [(placedUnit_head unit).1, (placedUnit_head unit).2, hkept]
          exact hhad
        refine hplaced ?_
        rcases hby with ⟨before, -, hexisting, rfl⟩ | ⟨-, code, -, rfl⟩
        · refine hcleared row hrow before ⟨hplaceable.notBlank, hexisting, ?_, ?_, ?_⟩ ?_
          · rw [isLiveUnit, Bool.and_eq_true, Option.isNone_iff_eq_none] at hlive
            exact hlive.2
          · rw [isLiveUnit, Bool.and_eq_true, Option.isNone_iff_eq_none] at hlive
            have haction : rowAction env.unicode row = none := hlive.2
            have hlive' := hlive.1
            rw [rowUnit] at hlive'
            have hsaid : ((rowStatus env.unicode row).or (some before.isActive)).getD true = true := by
              simpa [haction, FinalUnit.ofSnapshot] using hlive'
            rw [← hsaid]
            cases rowStatus env.unicode row <;> rfl
          · rw [← htype]
            have hsaid : (rowUnit env.unicode row snapshot.units (.stored before.id) before.code
                (some (.ofSnapshot before))).unitType = (rowType env.unicode row).getD
                  before.unitType := by
              rw [rowUnit]
              cases rowType env.unicode row <;> rfl
            rw [hsaid]
          · rw [← hheadText]
            exact hblank
        · exact ⟨rfl, rfl⟩
      · exact hnone

/-! ### An office turned into a council -/

section Sample

/-- A live office whose own centre is still to come. -/
def awaitingOffice : OrgChartSnapshot where
  units := [{ sampleOffice ⟨"1", one_ne_empty⟩ "A" none true with headCostCenterCode := some "4010" }]
  centers := []
  removal := .empty
  unitIds := by decide
  centerIds := List.nodup_nil

/-- A row that turns the office into a council and leaves its own centre blank. -/
def councilRow : UnitRowInput := { backRow 2 "A" with type := some "Consejo", status := none }

theorem awaitingOffice_bare : StoredCollegiateBare awaitingOffice.units := by
  have hoffice : ∀ unit ∈ awaitingOffice.units, isCollegiateBody unit.unitType = false := by decide
  intro unit hunit _ hcollegiate
  rw [hoffice unit hunit] at hcollegiate
  cases hcollegiate

theorem plan_councilRow :
    (planOrgChart blindRuntime awaitingOffice (unitsFile [councilRow])).errors = [] := by
  decide +kernel

/-- The council keeps the code of the own centre. -/
theorem council_keeps_own_center : ∃ env snapshot input,
    StoredCollegiateBare snapshot.units ∧ (planOrgChart env snapshot input).errors = [] ∧
      ¬PlannedCollegiateBare (finalUnits env snapshot input) := by
  refine ⟨blindRuntime, awaitingOffice, unitsFile [councilRow], awaitingOffice_bare,
    plan_councilRow, fun hbare => ?_⟩
  have hcouncil : ∃ unit ∈ finalUnits blindRuntime awaitingOffice (unitsFile [councilRow]),
      unit.isActive = true ∧ isCollegiateBody unit.unitType = true ∧
        present unit.headCenterCode = some "4010" := by
    decide +kernel
  obtain ⟨unit, hunit, hactive, hcollegiate, hcode⟩ := hcouncil
  have hnone := (hbare unit hunit hactive hcollegiate).2.2
  rw [hcode] at hnone
  cases hnone

/-- The office and the row that turns it into a council. -/
theorem plannedCollegiateBare_iff_council :
    PlannedCollegiateBare (finalUnits blindRuntime awaitingOffice (unitsFile [councilRow])) ↔
      OwnCentersCleared blindRuntime.unicode awaitingOffice.units [councilRow] :=
  plannedCollegiateBare_iff blindRuntime awaitingOffice (unitsFile [councilRow])
    awaitingOffice_bare plan_councilRow

end Sample

end InternalControl.OrgChart
