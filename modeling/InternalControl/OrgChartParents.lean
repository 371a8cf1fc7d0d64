import InternalControl.OrgChartLoops

/-!
# Live units under live parents

A parent that a row names is live, and a unit that leaves has nothing live
below. A unit that a row brings back without naming its parent is checked by
neither rule: its stored parent has to be live or to be brought back too.
-/

namespace InternalControl.OrgChart

open Text

/-- Every live stored unit is at the first level or under a live one. -/
def StoredUnderLive (units : List SnapshotUnit) : Prop :=
  ∀ unit ∈ units, unit.isActive = true → ∀ id, unit.parentId = some id →
    ∃ parent ∈ units, parent.id = id ∧ parent.isActive = true

/-- Every live unit after a plan is at the first level or under a live one. -/
def PlannedUnderLive (units : List PlannedUnit) : Prop :=
  ∀ unit ∈ units, unit.isActive = true → ∀ key, unit.parentKey = some key →
    ∃ parent ∈ units, parent.key = key ∧ parent.isActive = true

section Condition

variable (unicode : Unicode) (units : List SnapshotUnit)

/-- The row brings an archived unit back. -/
structure BringsBack (row : UnitRowInput) (unit : SnapshotUnit) : Prop where
  notBlank : isBlankUnitRow row = false
  about : rowExisting unicode row units = some unit
  archived : unit.isActive = false
  action : rowAction unicode row = none
  status : rowStatus unicode row = some true

/-- Units brought back with a blank parent cell have a stored parent that is live
or that another row brings back. -/
def ParentsComeBack (rows : List UnitRowInput) : Prop :=
  ∀ row ∈ rows, ∀ unit, BringsBack unicode units row unit → present row.parent = none →
    ∀ id, unit.parentId = some id → ∃ parent ∈ units, parent.id = id ∧
      (parent.isActive = true ∨ ∃ other ∈ rows, BringsBack unicode units other parent)

end Condition

variable {env : Runtime} {snapshot : OrgChartSnapshot} {input : OrgChartInput}

/-- Some live unit of the plan has the key. -/
def LiveAt (env : Runtime) (snapshot : OrgChartSnapshot) (input : OrgChartInput) (key : PlanKey) :
    Prop :=
  ∃ unit ∈ (rowedUnits env snapshot input).values, unit.key = key ∧ isLiveUnit unit = true

/-- The live units after a plan, in terms of what the rows left. -/
theorem plannedUnderLive_iff : PlannedUnderLive (finalUnits env snapshot input) ↔
    ∀ unit ∈ (rowedUnits env snapshot input).values, isLiveUnit unit = true → ∀ key,
      (placedUnit env snapshot input unit).parentKey = some key →
        LiveAt env snapshot input key := by
  constructor
  · intro h unit hunit hlive key hkey
    obtain ⟨hmem, hactive⟩ := mem_finalUnits_live.mpr ⟨unit, hunit, hlive, rfl⟩
    obtain ⟨parent, hparent, hparentKey, hparentActive⟩ := h _ hmem hactive key hkey
    obtain ⟨above, habove, haboveLive, hsame⟩ :=
      mem_finalUnits_live.mp ⟨hparent, hparentActive⟩
    exact ⟨above, habove, by rw [← hparentKey, hsame]; rfl, haboveLive⟩
  · intro h planned hplanned hactive key hkey
    obtain ⟨unit, hunit, hlive, hsame⟩ := mem_finalUnits_live.mp ⟨hplanned, hactive⟩
    rw [hsame] at hkey
    obtain ⟨above, habove, haboveKey, haboveLive⟩ := h unit hunit hlive key hkey
    obtain ⟨hmem, haboveActive⟩ := mem_finalUnits_live.mpr ⟨above, habove, haboveLive, rfl⟩
    exact ⟨_, hmem, haboveKey, haboveActive⟩

/-- A live stored unit with a live unit below it stays live. -/
theorem PlanSound.liveAt_of_child (hsound : PlanSound env snapshot input) {parent : SnapshotUnit}
    (hparent : parent ∈ snapshot.units) (hactive : parent.isActive = true) {child : FinalUnit}
    (hchild : child ∈ (rowedUnits env snapshot input).values) (hlive : isLiveUnit child = true)
    (hkey : (placedUnit env snapshot input child).parentKey = some (.stored parent.id)) :
    LiveAt env snapshot input (.stored parent.id) := by
  obtain ⟨unit, hget⟩ := exists_rowedUnits env input hparent
  obtain ⟨hunit, hunitKey⟩ := get?_rowedUnits_iff.mp hget
  refine ⟨unit, hunit, hunitKey, ?_⟩
  by_contra hleaves
  rw [Bool.not_eq_true] at hleaves
  have hstored : storedUnit snapshot unit = some parent := by
    rcases storedUnit_of_mem hunit with
      ⟨before, hbefore, hstored, -, hbeforeKey, -⟩ | ⟨-, -, -, -, code, hcode, -⟩
    · have hid : before.id = parent.id := PlanKey.stored.inj (hbeforeKey.symm.trans hunitKey)
      rw [hstored, List.inj_on_of_nodup_map snapshot.unitIds hbefore hparent hid]
    · rw [hunitKey] at hcode
      cases hcode
  rcases rowedUnits_cases hunit with ⟨before, hbefore, rfl⟩ | ⟨row, -, -, hby⟩
  · -- an untouched unit is as live as it was
    rw [storedUnit_ofSnapshot hbefore] at hstored
    rw [Option.some.inj hstored] at hleaves
    simp [isLiveUnit, FinalUnit.ofSnapshot, hactive] at hleaves
  · have hleaving := hsound.leaving unit hunit
    have hchildren : liveChildren (placedUnits env snapshot input)
        (placedUnit env snapshot input unit) ≠ [] := by
      refine List.ne_nil_of_mem (a := placedUnit env snapshot input child) ?_
      rw [liveChildren, List.mem_filter, values_placedUnits]
      refine ⟨List.mem_map_of_mem hchild, ?_⟩
      rw [hkey, placedUnit_key, hunitKey, isLiveUnit_placedUnit, hlive]
      simp
    unfold settleUnit at hleaving
    rw [placedUnit_rowNumber, hby.spec.1] at hleaving
    dsimp only at hleaving
    rw [isLiveUnit_placedUnit, hleaves, if_neg Bool.false_ne_true, storedUnit_placedUnit, hstored,
      Option.any_some, hactive] at hleaving
    rw [if_neg (by simp), if_pos (by simp [hchildren])] at hleaving
    cases hleaving

/-- A deduced parent is live. -/
theorem liveAt_of_deduceParent {unit : FinalUnit} {key : PlanKey}
    (h : (deduceParent (headedUnits env snapshot input) (planHolders env snapshot input).holders
      unit).parentKey = some key) : LiveAt env snapshot input key := by
  have hheaded : ∀ parent ∈ (headedUnits env snapshot input).values, isLiveUnit parent = true →
      LiveAt env snapshot input parent.key := by
    intro parent hparent hlive
    rw [values_headedUnits] at hparent
    obtain ⟨above, habove, rfl⟩ := List.mem_map.mp hparent
    exact ⟨above, habove, rfl, hlive⟩
  unfold deduceParent at h
  dsimp only at h
  split at h
  · cases h
  · split at h
    · cases h
    · split at h
      · split at h
        · next parent hnearest =>
          cases h
          obtain ⟨length, -, hholder⟩ := List.exists_of_findSome?_eq_some hnearest
          obtain ⟨hmem, hlive, -⟩ := (holdersOf_prefixHolders _).live _ parent hholder
          exact hheaded parent hmem hlive
        · cases h
      · split at h
        · next parent hrectorates =>
          cases h
          have hmem : parent ∈ (headedUnits env snapshot input).values.filter fun other =>
              other.key ≠ unit.key && other.unitType = .rectorate && isLiveUnit other := by
            rw [hrectorates]
            exact List.mem_singleton_self parent
          obtain ⟨hparent, htest⟩ := List.mem_filter.mp hmem
          simp only [Bool.and_eq_true] at htest
          exact hheaded parent hparent htest.2
        · cases h

/-- The unit that a parent cell names is a unit of the plan. -/
theorem exists_of_resolveParentText {text : String} {parent : FinalUnit} {viaHead : Bool}
    (h : resolveParentText env (headedUnits env snapshot input)
      (planCenterRows env snapshot input).centers (planHolders env snapshot input).holders text =
        (some parent, viaHead)) :
    ∃ above ∈ (rowedUnits env snapshot input).values, above.key = parent.key ∧
      isLiveUnit above = isLiveUnit parent := by
  have hheaded : parent ∈ (headedUnits env snapshot input).values := by
    unfold resolveParentText at h
    split at h
    · have hfound := congrArg Prod.fst h
      rcases Option.or_eq_some_iff.mp hfound with hcode | ⟨-, hcode⟩
      · exact (KeyedMap.mem_of_get?_index hcode).1
      · exact (KeyedMap.mem_of_get?_index hcode).1
    · split at h
      · next holder hholder =>
        have hsame : holder = parent := Option.some.inj (congrArg Prod.fst h)
        subst hsame
        rcases Option.or_eq_some_iff.mp hholder with hheld | ⟨-, hheld⟩
        · exact ((holdersOf_prefixHolders _).live _ holder hheld).1
        · exact ((holdersOf_prefixHolders _).live _ holder hheld).1
      · exact List.mem_of_find?_eq_some (congrArg Prod.fst h)
  rw [values_headedUnits] at hheaded
  obtain ⟨above, habove, rfl⟩ := List.mem_map.mp hheaded
  exact ⟨above, habove, rfl, rfl⟩

/-- A live unit of the file ends at the first level, under a live parent, or with
a blank parent cell under the stored one. -/
theorem PlanSound.parent_cases (hsound : PlanSound env snapshot input) {unit : FinalUnit}
    (hunit : unit ∈ (rowedUnits env snapshot input).values) (hlive : isLiveUnit unit = true)
    {key : PlanKey} (hkey : (placedUnit env snapshot input unit).parentKey = some key) :
    LiveAt env snapshot input key ∨
      unit.parentKey = some key ∧ (unit.rowNumber = none ∨ present unit.parentText = none) ∧
        unit.existingId.isSome = true := by
  have hparents := hsound.parents unit hunit
  rw [placedUnit_parentKey] at hkey
  unfold planParentChoice parentChoice at hkey hparents
  split at hkey
  · next hrow =>
    have hrow' : unit.rowNumber = none := hrow
    refine Or.inr ⟨?_, Or.inl hrow', ?_⟩
    · rcases rowedUnits_cases hunit with ⟨before, -, rfl⟩ | ⟨row, -, -, hby⟩
      · exact hkey
      · rw [hby.spec.1] at hrow'
        cases hrow'
    · rcases rowedUnits_cases hunit with ⟨before, -, rfl⟩ | ⟨row, -, -, hby⟩
      · rfl
      · rw [hby.spec.1] at hrow'
        cases hrow'
  · next htext =>
    split at hkey
    · exact Or.inl (liveAt_of_deduceParent hkey)
    · next hexisting =>
      refine Or.inr ⟨hkey, Or.inr htext, ?_⟩
      rw [Bool.not_eq_true, Option.isNone_eq_false_iff] at hexisting
      exact hexisting
  · next rowNumber text hrow htext =>
    rw [hrow, htext] at hparents
    dsimp only at hparents
    split at hkey
    · cases hkey
    · next hroot =>
      rw [if_neg hroot] at hparents
      split at hkey
      · next hresolve =>
        rw [hresolve] at hparents
        cases hparents
      · next parent viaHead hresolve =>
        rw [hresolve] at hparents
        dsimp only at hparents
        split at hkey
        · next hself =>
          rw [if_pos hself] at hparents
          cases hparents
        · next hself =>
          rw [if_neg hself] at hparents
          split at hkey
          · next harchived =>
            rw [if_pos harchived] at hparents
            cases hparents
          · next hboth =>
            cases hkey
            obtain ⟨above, habove, haboveKey, haboveLive⟩ := exists_of_resolveParentText hresolve
            have hunitLive : isLiveUnit (withHead env snapshot
                (planCenterRows env snapshot input).centers unit) = true := hlive
            rw [hunitLive, Bool.and_true, Bool.not_eq_true, Bool.not_eq_false'] at hboth
            exact Or.inl ⟨above, habove, haboveKey, haboveLive.trans hboth⟩

/-- A blank parent cell keeps the parent of a stored unit. -/
theorem parentKey_of_blank {unit : FinalUnit} (hblank : present unit.parentText = none)
    (hstored : unit.existingId.isSome = true) :
    (placedUnit env snapshot input unit).parentKey = unit.parentKey := by
  have htext : present (withHead env snapshot (planCenterRows env snapshot input).centers
      unit).parentText = none := hblank
  have hid : (withHead env snapshot (planCenterRows env snapshot input).centers
      unit).existingId.isNone = false := by
    rw [Option.isNone_eq_false_iff]
    exact hstored
  rw [placedUnit_parentKey, planParentChoice]
  unfold parentChoice
  rw [htext, hid]
  split
  · rfl
  · rfl
  · next hnone => cases hnone

/-- A row that brings a unit back leaves it live under its stored parent, when the
parent cell is blank. -/
theorem PlanSound.broughtBack (hsound : PlanSound env snapshot input) {row : UnitRowInput}
    (hrow : row ∈ unitSheetRows input) {unit : SnapshotUnit}
    (hback : BringsBack env.unicode snapshot.units row unit) :
    ∃ live ∈ (rowedUnits env snapshot input).values, live.key = .stored unit.id ∧
      isLiveUnit live = true ∧ (present row.parent = none →
        (placedUnit env snapshot input live).parentKey = unit.parentId.map PlanKey.stored) := by
  have hget := hsound.get?_rowedUnits hrow hback.notBlank hback.about
  obtain ⟨hmem, hkey⟩ := get?_rowedUnits_iff.mp hget
  refine ⟨_, hmem, hkey, ?_, fun hblank => ?_⟩
  · have hnoArchive : rowAction env.unicode row ≠ some .archive := by
      rw [hback.action]
      exact nofun
    simp [isLiveUnit, rowUnit, hback.action, hback.status]
  · have hid : (rowUnit env.unicode row snapshot.units (.stored unit.id) unit.code
        (some (.ofSnapshot unit))).existingId = some unit.id := by
      rw [rowUnit, hback.about]
      rfl
    exact parentKey_of_blank hblank (by rw [hid]; rfl)

/-- A live unit with a row that is about a stored one was live, or the row brings
it back. -/
theorem active_or_broughtBack {row : UnitRowInput} {before : SnapshotUnit}
    (hplaceable : Placeable env.unicode snapshot.units row)
    (hexisting : rowExisting env.unicode row snapshot.units = some before)
    (hlive : isLiveUnit (rowUnit env.unicode row snapshot.units (.stored before.id) before.code
      (some (.ofSnapshot before))) = true) :
    before.isActive = true ∨ BringsBack env.unicode snapshot.units row before := by
  rw [isLiveUnit, Bool.and_eq_true, Option.isNone_iff_eq_none] at hlive
  obtain ⟨hactive, hremoval⟩ := hlive
  have haction : rowAction env.unicode row = none := hremoval
  have hstatus : ((rowStatus env.unicode row).or (some before.isActive)).getD true = true := by
    have hactive' := hactive
    rw [rowUnit] at hactive'
    simpa [haction, FinalUnit.ofSnapshot] using hactive'
  cases hbefore : before.isActive with
  | true => exact Or.inl rfl
  | false =>
    refine Or.inr ⟨hplaceable.notBlank, hexisting, hbefore, haction, ?_⟩
    cases hsaid : rowStatus env.unicode row with
    | none =>
      rw [hsaid, hbefore] at hstatus
      cases hstatus
    | some status =>
      rw [hsaid] at hstatus
      have htrue : status = true := hstatus
      rw [htrue]

/-- A plan without errors over live units under live parents leaves them so exactly
when the parents of the units brought back with a blank parent cell are live or
brought back too. -/
theorem plannedUnderLive_iff_parentsComeBack (env : Runtime) (snapshot : OrgChartSnapshot)
    (input : OrgChartInput) (hsnapshot : StoredUnderLive snapshot.units)
    (herrors : (planOrgChart env snapshot input).errors = []) :
    PlannedUnderLive (finalUnits env snapshot input) ↔
      ParentsComeBack env.unicode snapshot.units (unitSheetRows input) := by
  have hsound := planSound herrors
  rw [plannedUnderLive_iff]
  constructor
  · intro h row hrow unit hback hblank id hid
    obtain ⟨live, hmem, -, hlive, hparent⟩ := hsound.broughtBack hrow hback
    have hkey : (placedUnit env snapshot input live).parentKey = some (.stored id) := by
      rw [hparent hblank, hid]
      rfl
    obtain ⟨above, habove, haboveKey, haboveLive⟩ := h live hmem hlive _ hkey
    rcases rowedUnits_cases habove with ⟨before, hbefore, rfl⟩ | ⟨other, hother, hplaceable, hby⟩
    · rw [isLiveUnit, Bool.and_eq_true] at haboveLive
      exact ⟨before, hbefore, PlanKey.stored.inj haboveKey, Or.inl haboveLive.1⟩
    · rcases hby with ⟨before, hbefore, hexisting, rfl⟩ | ⟨-, code, -, rfl⟩
      · refine ⟨before, hbefore, PlanKey.stored.inj haboveKey, ?_⟩
        rcases active_or_broughtBack hplaceable hexisting haboveLive with hactive | hreturns
        · exact Or.inl hactive
        · exact Or.inr ⟨other, hother, hreturns⟩
      · cases haboveKey
  · intro hcomeBack unit hunit hlive key hkey
    rcases hsound.parent_cases hunit hlive hkey with habove | ⟨hstored, htext, hexists⟩
    · exact habove
    · -- the parent is the stored one: it was live, or it is brought back
      have hparent : ∀ before ∈ snapshot.units, unit.parentKey = before.parentId.map .stored →
          (before.isActive = true ∨ ∃ row ∈ unitSheetRows input,
            BringsBack env.unicode snapshot.units row before ∧ present row.parent = none) →
          LiveAt env snapshot input key := by
        intro before hbefore hparentKey hwhy
        rw [hstored] at hparentKey
        obtain ⟨id, hid, rfl⟩ := Option.map_eq_some_iff.mp hparentKey.symm
        have hactive : ∀ parent ∈ snapshot.units, parent.id = id → parent.isActive = true →
            LiveAt env snapshot input (.stored id) := by
          intro parent hparent hsame hparentActive
          subst hsame
          exact hsound.liveAt_of_child hparent hparentActive hunit hlive hkey
        rcases hwhy with hbeforeActive | ⟨row, hrow, hback, hblank⟩
        · obtain ⟨parent, hparent, hsame, hparentActive⟩ :=
            hsnapshot before hbefore hbeforeActive id hid
          exact hactive parent hparent hsame hparentActive
        · obtain ⟨parent, hparent, hsame, hparentActive | ⟨other, hother, hreturns⟩⟩ :=
            hcomeBack row hrow before hback hblank id hid
          · exact hactive parent hparent hsame hparentActive
          · obtain ⟨live, hmem, hliveKey, hliveLive, -⟩ := hsound.broughtBack hother hreturns
            exact ⟨live, hmem, by rw [hliveKey, hsame], hliveLive⟩
      rcases rowedUnits_cases hunit with ⟨before, hbefore, rfl⟩ | ⟨row, hrow, hplaceable, hby⟩
      · rw [isLiveUnit, Bool.and_eq_true] at hlive
        exact hparent before hbefore rfl (Or.inl hlive.1)
      · obtain ⟨hnumber, -, hid, -, hparentText, -, -⟩ := hby.spec
        have hblank : present row.parent = none := by
          rcases htext with htext | htext
          · rw [hnumber] at htext
            cases htext
          · rw [← hparentText]
            exact htext
        rcases hby with ⟨before, hbefore, hexisting, rfl⟩ | ⟨hexisting, code, -, rfl⟩
        · refine hparent before hbefore rfl ?_
          rcases active_or_broughtBack hplaceable hexisting hlive with hactive | hreturns
          · exact Or.inl hactive
          · exact Or.inr ⟨row, hrow, hreturns, hblank⟩
        · rw [hid, hexisting] at hexists
          cases hexists

/-! ### A unit brought back under an archived one -/

section Sample

theorem one_ne_empty : "1" ≠ "" := by decide

theorem two_ne_empty : "2" ≠ "" := by decide

theorem three_ne_empty : "3" ≠ "" := by decide

/-- An office with the given place and state. -/
def sampleOffice (id : RowId) (code : String) (parentId : Option RowId) (isActive : Bool) :
    SnapshotUnit :=
  { id, code, name := code, unitType := .office, parentId, relationType := .authority
    headCostCenterId := none, headCostCenterCode := none, codePrefix := none, isActive
    color := none }

/-- A row that names a unit by its code and says that it is active. -/
def backRow (rowNumber : ℕ) (code : String) : UnitRowInput :=
  { rowNumber, codePrefix := none, name := some code, type := none, parent := none
    relation := none, headCenter := none, color := none, status := some "Activo", action := none
    code := some code }

/-- A live office, an archived one below it, and an archived one below that. -/
def archivedBranch : OrgChartSnapshot where
  units := [sampleOffice ⟨"1", one_ne_empty⟩ "A" none true,
    sampleOffice ⟨"2", two_ne_empty⟩ "B" (some ⟨"1", one_ne_empty⟩) false,
    sampleOffice ⟨"3", three_ne_empty⟩ "C" (some ⟨"2", two_ne_empty⟩) false]
  centers := []
  removal := .empty
  unitIds := by decide
  centerIds := List.nodup_nil

theorem archivedBranch_underLive : StoredUnderLive archivedBranch.units := by
  have hroot : ∀ unit ∈ archivedBranch.units, unit.isActive = true → unit.parentId = none := by
    decide
  intro unit hunit hactive id hid
  rw [hroot unit hunit hactive] at hid
  cases hid

theorem plan_backRow :
    (planOrgChart blindRuntime archivedBranch (unitsFile [backRow 2 "C"])).errors = [] := by
  decide +kernel

/-- The file brings the last office back under the archived one. -/
theorem broughtBack_under_archived : ∃ env snapshot input,
    StoredUnderLive snapshot.units ∧ (planOrgChart env snapshot input).errors = [] ∧
      ¬PlannedUnderLive (finalUnits env snapshot input) := by
  refine ⟨blindRuntime, archivedBranch, unitsFile [backRow 2 "C"], archivedBranch_underLive,
    plan_backRow, fun hunder => ?_⟩
  have hchild : ∃ unit ∈ finalUnits blindRuntime archivedBranch (unitsFile [backRow 2 "C"]),
      unit.isActive = true ∧ unit.parentKey = some (.stored ⟨"2", by decide⟩) := by
    decide +kernel
  have harchived : ∀ unit ∈ finalUnits blindRuntime archivedBranch (unitsFile [backRow 2 "C"]),
      unit.key = .stored ⟨"2", by decide⟩ → unit.isActive = false := by
    decide +kernel
  obtain ⟨unit, hunit, hactive, hkey⟩ := hchild
  obtain ⟨parent, hparent, hparentKey, hparentActive⟩ := hunder unit hunit hactive _ hkey
  rw [harchived parent hparent hparentKey] at hparentActive
  cases hparentActive

/-- The archived branch and the row about its last office. -/
theorem plannedUnderLive_iff_parentsComeBack_branch :
    PlannedUnderLive (finalUnits blindRuntime archivedBranch (unitsFile [backRow 2 "C"])) ↔
      ParentsComeBack blindRuntime.unicode archivedBranch.units [backRow 2 "C"] :=
  plannedUnderLive_iff_parentsComeBack blindRuntime archivedBranch (unitsFile [backRow 2 "C"])
    archivedBranch_underLive plan_backRow

end Sample

end InternalControl.OrgChart
