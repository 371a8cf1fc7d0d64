import InternalControl.OrgChartParents

/-!
# Codes, prefixes and names after a plan

After a plan without errors no two units share a code, no two live units share
a prefix, and live units that share a name in one place already did before.
-/

namespace InternalControl.OrgChart

open Text

variable {env : Runtime} {snapshot : OrgChartSnapshot} {input : OrgChartInput}

/-! ### Each unit once -/

/-- The units that the rows leave have different keys. -/
theorem nodup_rowedUnits_keys :
    ((rowedUnits env snapshot input).values.map FinalUnit.key).Nodup := by
  have hkeys : (rowedUnits env snapshot input).values.map FinalUnit.key =
      (rowedUnits env snapshot input).keys := by
    rw [KeyedMap.values, KeyedMap.keys, List.map_map]
    refine List.map_congr_left fun entry hentry => ?_
    have hget := (KeyedMap.mem_entries_iff _ entry.1 entry.2).mp hentry
    exact (get?_rowedUnits_iff.mp hget).2
  rw [hkeys]
  exact KeyedMap.nodup_keys _

/-- Each unit has at most one operation. -/
theorem nodup_plan_keys : ((planOrgChart env snapshot input).units.map UnitOp.key).Nodup := by
  have hvalues : ((settledUnits env snapshot input).values.map FinalUnit.key).Nodup := by
    rw [values_settledUnits, List.map_map]
    have hsame : FinalUnit.key ∘ settledUnit env snapshot input = FinalUnit.key := by
      funext unit
      exact (settledUnit_identity env snapshot input unit).1
    rw [hsame]
    exact nodup_rowedUnits_keys
  have hordered : ((inRowOrder FinalUnit.rowNumber (settledUnits env snapshot input).values).map
      FinalUnit.key).Nodup :=
    ((List.perm_insertionSort _ _).map _).nodup_iff.mpr hvalues
  unfold planOrgChart
  dsimp only
  refine hordered.sublist (KeyedMap.filterMap_map_sublist (fun unit op hop => ?_) _)
  have hplanned := (unitOp_eq_some hop).2.2.1
  exact congrArg PlannedUnit.key hplanned

/-- The units after a plan have different keys. -/
theorem nodup_finalUnits_keys : ((finalUnits env snapshot input).map PlannedUnit.key).Nodup := by
  have hopKey : ∀ op ∈ (planOrgChart env snapshot input).units, ∀ id, op.existingId = some id →
      op.key = .stored id := by
    intro op hop id hid
    obtain ⟨unit, hunit, hopUnit⟩ := mem_plan_units.mp hop
    obtain ⟨hopId, -, hplanned, -⟩ := unitOp_eq_some hopUnit
    obtain ⟨hkey, hexisting, -⟩ := settledUnit_identity env snapshot input unit
    have hopKey : op.key = unit.key := (congrArg PlannedUnit.key hplanned).trans hkey
    rw [hopId, hexisting] at hid
    rcases storedUnit_of_mem hunit with ⟨before, -, -, hbefore, hbeforeKey, -⟩ | ⟨-, hnone, -⟩
    · rw [hid] at hbefore
      rw [hopKey, hbeforeKey, Option.some.inj hbefore]
    · rw [hnone] at hid
      cases hid
  have hnewKey : ∀ op ∈ (planOrgChart env snapshot input).units, op.existingId = none →
      ∃ code, op.key = .new code := by
    intro op hop hid
    obtain ⟨unit, hunit, hopUnit⟩ := mem_plan_units.mp hop
    obtain ⟨hopId, -, hplanned, -⟩ := unitOp_eq_some hopUnit
    obtain ⟨hkey, hexisting, -⟩ := settledUnit_identity env snapshot input unit
    have hopKey : op.key = unit.key := (congrArg PlannedUnit.key hplanned).trans hkey
    rw [hopId, hexisting] at hid
    rcases storedUnit_of_mem hunit with ⟨before, -, -, hbefore, -⟩ | ⟨-, -, -, -, code, hcode, -⟩
    · rw [hid] at hbefore
      cases hbefore
    · exact ⟨code, hopKey.trans hcode⟩
  obtain ⟨keep, hfinal, hstoredKey⟩ : ∃ keep : SnapshotUnit → Option PlannedUnit,
      finalUnits env snapshot input = snapshot.units.filterMap keep ++
        ((planOrgChart env snapshot input).units.filter fun op => op.existingId.isNone).map
          PlannedUnit.ofOp ∧
      ∀ before planned, keep before = some planned → planned.key = .stored before.id := by
    refine ⟨_, rfl, ?_⟩
    intro before planned hplanned
    split at hplanned
    · rw [← Option.some.inj hplanned]
      rfl
    · next op hop =>
      split at hplanned
      · cases hplanned
      · have hid := List.find?_some hop
        rw [decide_eq_true_eq] at hid
        rw [← Option.some.inj hplanned]
        exact hopKey op (List.mem_of_find?_eq_some hop) before.id hid
  rw [hfinal, List.map_append, List.nodup_append]
  refine ⟨?_, ?_, ?_⟩
  · have hids : (snapshot.units.map fun unit => PlanKey.stored unit.id).Nodup := by
      have hmap := snapshot.unitIds.map (f := PlanKey.stored) fun a b h => PlanKey.stored.inj h
      rw [List.map_map] at hmap
      exact hmap
    exact hids.sublist (KeyedMap.filterMap_map_sublist hstoredKey _)
  · rw [List.map_map]
    exact nodup_plan_keys.sublist (List.filter_sublist.map _)
  · intro first hfirst second hsecond hsame
    obtain ⟨planned, hplanned, rfl⟩ := List.mem_map.mp hfirst
    obtain ⟨before, -, hbefore⟩ := List.mem_filterMap.mp hplanned
    obtain ⟨added, hadded, rfl⟩ := List.mem_map.mp hsecond
    obtain ⟨op, hop, rfl⟩ := List.mem_map.mp hadded
    obtain ⟨hopMem, hopNew⟩ := List.mem_filter.mp hop
    rw [Option.isNone_iff_eq_none] at hopNew
    obtain ⟨code, hcode⟩ := hnewKey op hopMem hopNew
    have hstored := hstoredKey before planned hbefore
    rw [hsame, show (PlannedUnit.ofOp op).key = op.key from rfl, hcode] at hstored
    cases hstored

/-! ### Codes -/

/-- Units of the plan with one code are one unit. -/
theorem eq_of_code_eq (hcodes : (snapshot.units.map SnapshotUnit.code).Nodup) {unit other : FinalUnit}
    (hunit : unit ∈ (rowedUnits env snapshot input).values)
    (hother : other ∈ (rowedUnits env snapshot input).values) (hcode : unit.code = other.code) :
    unit = other := by
  have hkey : unit.key = other.key := by
    rcases storedUnit_of_mem hunit with
      ⟨before, hbefore, -, -, hkey, hbeforeCode⟩ | ⟨-, -, -, -, code, hkey, hnew, hfree⟩ <;>
    rcases storedUnit_of_mem hother with
      ⟨second, hsecond, -, -, hsecondKey, hsecondCode⟩ |
        ⟨-, -, -, -, second, hsecondKey, hsecondNew, hsecondFree⟩
    · rw [hkey, hsecondKey, List.inj_on_of_nodup_map hcodes hbefore hsecond
        (by rw [← hbeforeCode, ← hsecondCode, hcode])]
    · refine absurd ?_ hsecondFree
      rw [← hsecondNew, ← hcode, hbeforeCode]
      exact List.mem_map_of_mem hbefore
    · refine absurd ?_ hfree
      rw [← hnew, hcode, hsecondCode]
      exact List.mem_map_of_mem hsecond
    · rw [hkey, hsecondKey, ← hnew, ← hsecondNew, hcode]
  have hget := get?_rowedUnits_iff.mpr ⟨hunit, hkey⟩
  rw [get?_rowedUnits_iff.mpr ⟨hother, rfl⟩] at hget
  exact (Option.some.inj hget).symm

theorem nodup_finalUnits_codes (hcodes : (snapshot.units.map SnapshotUnit.code).Nodup) :
    ((finalUnits env snapshot input).map PlannedUnit.code).Nodup := by
  refine List.Nodup.map_on (fun first hfirst second hsecond hcode => ?_)
    (List.Nodup.of_map _ nodup_finalUnits_keys)
  obtain ⟨unit, hunit, -, rfl⟩ := mem_finalUnits.mp hfirst
  obtain ⟨other, hother, -, rfl⟩ := mem_finalUnits.mp hsecond
  have hsame : unit.code = other.code := by
    rw [← (settledUnit_identity env snapshot input unit).2.2.2.1,
      ← (settledUnit_identity env snapshot input other).2.2.2.1]
    exact hcode
  rw [eq_of_code_eq hcodes hunit hother hsame]

/-! ### Prefixes -/

/-- The prefixes of the live units. -/
def livePrefixes (units : List PlannedUnit) : List String :=
  (units.filter PlannedUnit.isActive).filterMap fun unit => present unit.codePrefix

/-- Without errors live units with one prefix are one unit. -/
theorem PlanSound.eq_of_prefix_eq (hsound : PlanSound env snapshot input) {unit other : FinalUnit}
    (hunit : unit ∈ (rowedUnits env snapshot input).values) (hlive : isLiveUnit unit = true)
    (hother : other ∈ (rowedUnits env snapshot input).values) (hotherLive : isLiveUnit other = true)
    {text : String} (hshown : present unit.codePrefix = some text)
    (hotherPrefix : present other.codePrefix = some text) : unit.key = other.key := by
  have hholders := (holdersOf_prefixHolders (headedUnits env snapshot input)).held hsound.holders
  have hheaded : ∀ rowed ∈ (rowedUnits env snapshot input).values,
      withHead env snapshot (planCenterRows env snapshot input).centers rowed ∈
        (headedUnits env snapshot input).values := by
    intro rowed hrowed
    rw [values_headedUnits]
    exact List.mem_map_of_mem hrowed
  have hfirst := hholders _ (hheaded unit hunit) hlive text hshown
  have hsecond := hholders _ (hheaded other hother) hotherLive text hotherPrefix
  rw [hfirst] at hsecond
  have hkey := congrArg FinalUnit.key (Option.some.inj hsecond)
  exact hkey

theorem PlanSound.nodup_livePrefixes (hsound : PlanSound env snapshot input) :
    (livePrefixes (finalUnits env snapshot input)).Nodup := by
  have hlist : ((finalUnits env snapshot input).filter PlannedUnit.isActive).Nodup :=
    (List.Nodup.of_map _ nodup_finalUnits_keys).filter _
  unfold livePrefixes List.Nodup
  rw [List.pairwise_filterMap]
  refine List.Pairwise.imp_of_mem (fun {first second} hfirst hsecond hne text htext other hother => ?_)
    hlist
  rintro rfl
  refine hne ?_
  obtain ⟨hfirst, hfirstLive⟩ := List.mem_filter.mp hfirst
  obtain ⟨hsecond, hsecondLive⟩ := List.mem_filter.mp hsecond
  obtain ⟨unit, hunit, hlive, rfl⟩ := mem_finalUnits_live.mp ⟨hfirst, hfirstLive⟩
  obtain ⟨rowed, hrowed, hrowedLive, rfl⟩ := mem_finalUnits_live.mp ⟨hsecond, hsecondLive⟩
  have hkey : unit.key = rowed.key :=
    hsound.eq_of_prefix_eq hunit hlive hrowed hrowedLive htext hother
  exact finalUnit_unique hfirst hsecond hkey

/-! ### Names -/

/-- A stored unit that was live with a name under a parent. -/
def WasInPlace (unicode : Unicode) (units : List SnapshotUnit) (planned : PlannedUnit) : Prop :=
  ∃ before ∈ units, planned.key = .stored before.id ∧ before.isActive = true ∧
    before.parentId.map PlanKey.stored = planned.parentKey ∧
    sameUnitName unicode before.name planned.name = true

/-- A parent cell that names a unit gives the unit a parent, or an error. -/
theorem PlanSound.parentKey_isSome (hsound : PlanSound env snapshot input) {unit : FinalUnit}
    (hunit : unit ∈ (rowedUnits env snapshot input).values) {rowNumber : ℕ}
    (hrow : unit.rowNumber = some rowNumber) {text : String}
    (htext : present unit.parentText = some text) (hroot : isRootText env.unicode text = false) :
    (placedUnit env snapshot input unit).parentKey.isSome = true := by
  have hparents := hsound.parents unit hunit
  have hrow' : (withHead env snapshot (planCenterRows env snapshot input).centers unit).rowNumber =
      some rowNumber := hrow
  have htext' : present (withHead env snapshot (planCenterRows env snapshot input).centers
      unit).parentText = some text := htext
  rw [placedUnit_parentKey]
  unfold planParentChoice parentChoice at hparents ⊢
  rw [hrow', htext'] at hparents ⊢
  dsimp only at hparents ⊢
  rw [hroot, if_neg Bool.false_ne_true] at hparents ⊢
  split at hparents
  · cases hparents
  · split at hparents
    · cases hparents
    · next hself =>
      split at hparents
      · cases hparents
      · next hboth =>
        rw [if_neg hself, if_neg hboth]
        rfl

/-- Without errors a live unit that has a live namesake in its place was there before. -/
theorem PlanSound.keepsPlace (hsound : PlanSound env snapshot input) {unit other : FinalUnit}
    (hunit : unit ∈ (rowedUnits env snapshot input).values) (hlive : isLiveUnit unit = true)
    (hother : other ∈ (rowedUnits env snapshot input).values) (hotherLive : isLiveUnit other = true)
    (hne : other.key ≠ unit.key)
    (hparent : (placedUnit env snapshot input other).parentKey =
      (placedUnit env snapshot input unit).parentKey)
    (hname : sameUnitName env.unicode other.name unit.name = true) :
    OrgChart.keepsPlace env snapshot (placedUnit env snapshot input unit) = true := by
  rcases rowedUnits_cases hunit with ⟨before, hbefore, rfl⟩ | ⟨row, -, -, hby⟩
  · -- an untouched unit is where it was
    have hactive : before.isActive = true := by
      rw [isLiveUnit, Bool.and_eq_true] at hlive
      exact hlive.1
    have hplaced : (placedUnit env snapshot input (.ofSnapshot before)).parentKey =
        before.parentId.map PlanKey.stored := rfl
    unfold OrgChart.keepsPlace
    rw [storedUnit_placedUnit, storedUnit_ofSnapshot hbefore, hplaced]
    simp [sameUnitName, FinalUnit.ofSnapshot, hactive]
  · obtain ⟨hrow, -⟩ := hby.spec
    have hsiblings := hsound.siblings unit hunit
    by_contra hmoved
    have hrow' : (placedUnit env snapshot input unit).rowNumber = some row.rowNumber := hrow
    unfold siblingNotices at hsiblings
    rw [hrow'] at hsiblings
    dsimp only at hsiblings
    rw [isLiveUnit_placedUnit, hlive, if_neg (by simpa using hmoved)] at hsiblings
    split at hsiblings
    · next hskipped =>
      rw [Bool.and_eq_true, Option.any_eq_true] at hskipped
      obtain ⟨⟨text, htext, hroot⟩, hnone⟩ := hskipped
      have hsome := hsound.parentKey_isSome hunit hrow htext (by simpa using hroot)
      rw [Option.isNone_iff_eq_none] at hnone
      rw [hnone] at hsome
      cases hsome
    · have hmem : placedUnit env snapshot input other ∈ sameNameSiblings env
          (placedUnits env snapshot input) (placedUnit env snapshot input unit) := by
        rw [sameNameSiblings, List.mem_filter, values_placedUnits]
        refine ⟨List.mem_map_of_mem hother, ?_⟩
        simp only [placedUnit_key, isLiveUnit_placedUnit, placedUnit_name, Bool.and_eq_true]
        exact ⟨⟨⟨decide_eq_true hne, hotherLive⟩, decide_eq_true hparent⟩, hname⟩
      split at hsiblings
      · next hnone =>
        rw [Option.or_eq_none_iff, List.head?_eq_none_iff] at hnone
        rw [hnone.2] at hmem
        cases hmem
      · cases hsiblings

/-- After a plan without errors over units with distinct codes the codes and the
live prefixes are distinct, and live namesakes in one place were there before. -/
theorem finalUnits_identifiers (env : Runtime) (snapshot : OrgChartSnapshot) (input : OrgChartInput)
    (hcodes : (snapshot.units.map SnapshotUnit.code).Nodup)
    (herrors : (planOrgChart env snapshot input).errors = []) :
    ((finalUnits env snapshot input).map PlannedUnit.code).Nodup ∧
      (livePrefixes (finalUnits env snapshot input)).Nodup ∧
      ∀ first ∈ finalUnits env snapshot input, ∀ second ∈ finalUnits env snapshot input,
        first ≠ second → first.isActive = true → second.isActive = true →
        first.parentKey = second.parentKey →
        sameUnitName env.unicode first.name second.name = true →
          WasInPlace env.unicode snapshot.units first ∧
            WasInPlace env.unicode snapshot.units second := by
  have hsound := planSound herrors
  refine ⟨nodup_finalUnits_codes hcodes, hsound.nodup_livePrefixes, ?_⟩
  have hplace : ∀ first ∈ finalUnits env snapshot input, ∀ second ∈ finalUnits env snapshot input,
      first ≠ second → first.isActive = true → second.isActive = true →
      first.parentKey = second.parentKey → sameUnitName env.unicode first.name second.name = true →
        WasInPlace env.unicode snapshot.units second := by
    intro first hfirst second hsecond hne hfirstActive hsecondActive hparent hname
    obtain ⟨other, hother, hotherLive, hotherSame⟩ :=
      mem_finalUnits_live.mp ⟨hfirst, hfirstActive⟩
    obtain ⟨unit, hunit, hlive, hsame⟩ := mem_finalUnits_live.mp ⟨hsecond, hsecondActive⟩
    have hkey : other.key ≠ unit.key := by
      intro hkeys
      refine hne (finalUnit_unique hfirst hsecond ?_)
      rw [hotherSame, hsame]
      exact hkeys
    rw [hotherSame, hsame] at hparent hname
    have hkeeps := hsound.keepsPlace hunit hlive hother hotherLive hkey hparent hname
    unfold OrgChart.keepsPlace at hkeeps
    rw [storedUnit_placedUnit] at hkeeps
    rcases storedUnit_of_mem hunit with ⟨before, hbefore, hstored, -, hbeforeKey, -⟩ | ⟨hnone, -⟩
    · rw [hstored] at hkeeps
      simp only [Bool.and_eq_true, decide_eq_true_eq] at hkeeps
      refine ⟨before, hbefore, ?_, hkeeps.2, ?_, ?_⟩
      · rw [hsame]
        exact hbeforeKey
      · rw [hsame]
        exact hkeeps.1.2
      · rw [hsame]
        exact hkeeps.1.1
    · rw [hnone] at hkeeps
      cases hkeeps
  intro first hfirst second hsecond hne hfirstActive hsecondActive hparent hname
  have hback : sameUnitName env.unicode second.name first.name = true := by
    rw [sameUnitName, decide_eq_true_eq] at hname ⊢
    exact hname.symm
  exact ⟨hplace second hsecond first hfirst (Ne.symm hne) hsecondActive hfirstActive hparent.symm hback,
    hplace first hfirst second hsecond hne hfirstActive hsecondActive hparent hname⟩

/-- The archived branch once its middle office is brought back. -/
theorem finalUnits_identifiers_branch :
    ((finalUnits blindRuntime archivedBranch (unitsFile [backRow 2 "B"])).map
        PlannedUnit.code).Nodup ∧
      (livePrefixes (finalUnits blindRuntime archivedBranch (unitsFile [backRow 2 "B"]))).Nodup := by
  have hcodes : (archivedBranch.units.map SnapshotUnit.code).Nodup := by decide
  have herrors : (planOrgChart blindRuntime archivedBranch (unitsFile [backRow 2 "B"])).errors = [] := by
    decide +kernel
  have hall := finalUnits_identifiers blindRuntime archivedBranch (unitsFile [backRow 2 "B"]) hcodes
    herrors
  exact ⟨hall.1, hall.2.1⟩

end InternalControl.OrgChart
