import InternalControl.OrgChartMerge
import InternalControl.OrgChartParents

/-!
# Archived units that a file brings back

A plan brings a unit back only for a row that names it by its code, since a
prefix finds active units only. The merge takes the state off such a row when
the unit was archived after the file was made, or when that cannot be told.
-/

namespace InternalControl.OrgChart

open Text

section Rows

variable {unicode : Unicode} {units : List SnapshotUnit} {row : UnitRowInput}

/-- A prefix finds active units only. -/
theorem isActive_of_findByPrefix {text : String} {unit : SnapshotUnit}
    (h : findByPrefix units text = some unit) : unit.isActive = true := by
  have hlive : ∀ {key : String}, (activeUnitByPrefix units).get? key = some unit →
      unit.isActive = true := by
    intro key hfound
    rw [activeUnitByPrefix, KeyedMap.get?_ofList, Option.map_eq_some_iff] at hfound
    obtain ⟨pair, hfind, hpair⟩ := hfound
    have hmem := List.mem_reverse.mp (List.mem_of_find?_eq_some hfind)
    obtain ⟨other, hother, hsame⟩ := List.mem_map.mp hmem
    have hunit : other = unit := by rw [← hpair, ← hsame]
    have htest := (List.mem_filter.mp hother).2
    rw [Bool.and_eq_true, hunit] at htest
    exact htest.1
  rcases Option.or_eq_some_iff.mp h with hfound | ⟨-, hfound⟩
  · exact hlive hfound
  · exact hlive hfound

/-- A row that brings a unit back names it by its code. -/
theorem BringsBack.named {unit : SnapshotUnit} (h : BringsBack unicode units row unit) :
    rowNamed unicode row units = some unit := by
  rcases Option.or_eq_some_iff.mp h.about with hnamed | ⟨-, hshown⟩
  · exact hnamed
  · split at hshown
    · obtain ⟨text, -, hfind⟩ := Option.bind_eq_some_iff.mp hshown
      have harchived := h.archived
      rw [isActive_of_findByPrefix hfind] at harchived
      cases harchived
    · cases hshown

/-- An action that a sound row asks for is understood. -/
theorem present_action_of_sound (hsound : unitRowIssues unicode row units = [])
    (haction : rowAction unicode row = none) : present row.action = none := by
  have hissues : actionIssues unicode unitError unitHeaders.action row.rowNumber row.action = [] := by
    unfold unitRowIssues at hsound
    simp only [List.append_eq_nil_iff] at hsound
    exact hsound.1.2
  cases htext : present row.action with
  | none => rfl
  | some text =>
    have hparsed : (some text).bind (parseAction unicode) = none := by
      rw [← htext]
      exact haction
    unfold actionIssues cellIssues at hissues
    rw [htext, hparsed] at hissues
    cases hissues

end Rows

section Merged

variable {env : Runtime} {snapshot : OrgChartSnapshot} {input : OrgChartInput}
  {context : MergeContext}

/-- A row keeps its code and its number in a merge. -/
theorem MergedFrom.identity {row merged : UnitRowInput} (h : MergedFrom env input context row merged) :
    merged.code = row.code ∧ merged.rowNumber = row.rowNumber := by
  unfold MergedFrom at h
  split at h
  · rw [h]
    exact ⟨rfl, rfl⟩
  · obtain ⟨unit, -, hunit⟩ := h
    split at hunit
    · unfold mergeStamped mergeStampedWith at hunit
      dsimp only at hunit
      split at hunit
      · cases hunit
      · rw [← Option.some.inj hunit]
        exact ⟨rfl, rfl⟩
    · rw [hunit, archivedGuard]
      split
      · exact ⟨rfl, rfl⟩
      · dsimp only
        split
        · split
          · exact ⟨rfl, rfl⟩
          · exact ⟨rfl, rfl⟩
        · exact ⟨rfl, rfl⟩

/-- The guard leaves an archived unit active only when it was archived before the
date of the file. -/
theorem archived_before_of_guard {row : UnitRowInput} {unit : SnapshotUnit}
    (harchived : unit.isActive = false)
    (haction : present (archivedGuard env input context row unit).1.action = none)
    (hstatus : rowStatus env.unicode (archivedGuard env input context row unit).1 = some true) :
    ∃ date change, fileDate input = some date ∧
      ((context.lastChanges.get? unit.id).bind fun fields => fields.get? .status) = some change ∧
      change.changedAt.time < date.time := by
  have hcleared : ∀ {cleared : UnitRowInput}, cleared.status = none →
      rowStatus env.unicode cleared ≠ some true := by
    intro cleared hnone
    rw [rowStatus, hnone]
    exact nofun
  unfold archivedGuard at haction hstatus
  split at hstatus
  · next hpassed =>
    -- nothing here lets the row of an archived unit pass
    rw [if_pos hpassed] at haction
    rw [harchived, haction, Bool.false_or, Option.isSome_none, Bool.or_false,
      decide_eq_true_eq] at hpassed
    exact absurd hstatus hpassed
  · dsimp only at hstatus
    split at hstatus
    · next change date hchange hdate =>
      split at hstatus
      · next hbefore => exact ⟨date, change, hdate, hchange, hbefore⟩
      · exact absurd hstatus (hcleared rfl)
    · exact absurd hstatus (hcleared rfl)

end Merged

theorem mem_map_changeIf {κ : Type} {differs : Bool} {kind other : κ} {detail : String} :
    other ∈ (changeIf differs kind detail).map Prod.fst ↔ differs = true ∧ other = kind := by
  cases differs <;> simp [changeIf]

/-- A kept unit is reactivated when it was archived and ends active. -/
theorem reactivated_mem_kept {units : UnitMap} {centers : CenterMap} {before : SnapshotUnit}
    {unit : FinalUnit}
    (h : UnitChangeKind.reactivated ∈ (keptUnitChanges units centers before unit).map Prod.fst) :
    before.isActive = false ∧ unit.isActive = true := by
  unfold keptUnitChanges at h
  simp only [List.map_append, List.mem_append, mem_map_changeIf, reduceCtorEq, and_false, or_false,
    false_or, and_true, Bool.and_eq_true, Bool.not_eq_true'] at h
  exact h

/-- A unit of a plan that is reactivated was archived, and its row brings it back. -/
theorem broughtBack_of_reactivated {env : Runtime} {snapshot : OrgChartSnapshot}
    {input : OrgChartInput} {op : UnitOp} (hop : op ∈ (planOrgChart env snapshot input).units)
    (hkind : UnitChangeKind.reactivated ∈ op.kinds) :
    ∃ row ∈ unitSheetRows input, ∃ unit ∈ snapshot.units, op.existingId = some unit.id ∧
      op.rowNumber = row.rowNumber ∧ unitRowIssues env.unicode row snapshot.units = [] ∧
      BringsBack env.unicode snapshot.units row unit := by
  obtain ⟨unit, hunit, hopUnit⟩ := mem_plan_units.mp hop
  obtain ⟨hopId, -, -, hkinds⟩ := unitOp_eq_some hopUnit
  obtain ⟨-, hid, hnumber, -, hstored⟩ := settledUnit_identity env snapshot input unit
  have hopNumber : (settledUnit env snapshot input unit).rowNumber = some op.rowNumber := by
    obtain ⟨rowNumber, hrow, hsome⟩ := Option.bind_eq_some_iff.mp hopUnit
    dsimp only at hsome
    split at hsome
    · cases hsome
    · rw [← Option.some.inj hsome]
      exact hrow
  rw [hkinds, unitChanges, hstored] at hkind
  rw [hnumber] at hopNumber
  rw [hid] at hopId
  rcases rowedUnits_cases hunit with ⟨before, -, rfl⟩ | ⟨row, hrow, hplaceable, hby⟩
  · cases hopNumber
  · obtain ⟨hrowNumber, -, hexistingId, -⟩ := hby.spec
    have hrowOp : op.rowNumber = row.rowNumber := by
      rw [hrowNumber] at hopNumber
      exact (Option.some.inj hopNumber).symm
    rcases hby with ⟨before, hbefore, hexisting, hsame⟩ | ⟨hexisting, code, -, hsame⟩
    · have hstoredUnit : storedUnit snapshot unit = some before := by
        rw [hsame]
        have hbeforeId := get?_unitById hbefore
        simp [storedUnit, rowUnit, hexisting, hbeforeId]
      rw [hstoredUnit] at hkind
      dsimp only at hkind
      split at hkind
      · simp at hkind
      · next hstays =>
        have hactive : before.isActive = false ∧
            (settledUnit env snapshot input unit).isActive = true := reactivated_mem_kept hkind
        have hlive : isLiveUnit unit = true := by
          rcases settledUnit_cases env snapshot input unit with hplain | ⟨-, harchived⟩
          · rw [hplain] at hstays hactive
            cases hremoval : unit.removal with
            | none => simpa [isLiveUnit, hremoval] using hactive.2
            | some removal =>
              cases removal with
              | delete => exact absurd hremoval hstays
              | archive =>
                have hgone := isActive_of_archive hunit hremoval
                rw [placedUnit_isActive, hgone] at hactive
                cases hactive.2
          · rw [harchived] at hactive
            cases hactive.2
        rw [hsame] at hlive
        refine ⟨row, hrow, before, hbefore, ?_, hrowOp, hplaceable.sound, ?_⟩
        · rw [hopId, hexistingId, hexisting]
          rfl
        · rcases active_or_broughtBack hplaceable hexisting hlive with hbeforeActive | hback
          · rw [hactive.1] at hbeforeActive
            cases hbeforeActive
          · exact hback
    · have hstoredUnit : storedUnit snapshot unit = none := by
        rw [hsame]
        simp [storedUnit, rowUnit, hexisting]
      rw [hstoredUnit] at hkind
      simp at hkind

/-- A file brings an archived unit that its stamp does not cover back only for a
row that names the unit by its code, and only when the file has a date that comes
after the last known change of the unit's state. -/
theorem reactivated_by_dated_code (env : Runtime) (snapshot : OrgChartSnapshot)
    (input : OrgChartInput) (context : MergeContext) (hunits : context.units = snapshot.units)
    (op : UnitOp)
    (hop : op ∈ (planOrgChart env snapshot (mergeOrgChartInput env input context).input).units)
    (hkind : UnitChangeKind.reactivated ∈ op.kinds)
    (hstamp : ∀ unit ∈ snapshot.units, op.existingId = some unit.id →
      (stampByCode input).get? unit.code = none) :
    ∃ unit ∈ snapshot.units, op.existingId = some unit.id ∧ unit.isActive = false ∧
      (∃ row ∈ input.units, op.rowNumber = row.rowNumber ∧
        rowNamed env.unicode row snapshot.units = some unit) ∧
      ∃ date change, fileDate input = some date ∧
        ((context.lastChanges.get? unit.id).bind fun fields => fields.get? .status) = some change ∧
        change.changedAt.time < date.time := by
  obtain ⟨merged, hmerged, unit, hunit, hid, hnumber, hsound, hback⟩ :=
    broughtBack_of_reactivated hop hkind
  have hmem : merged ∈ (mergeOrgChartInput env input context).input.units := by
    unfold unitSheetRows at hmerged
    split at hmerged
    · exact hmerged
    · cases hmerged
  obtain ⟨row, hrow, hfrom⟩ := exists_of_mem_mergeRows env input context hmem
  obtain ⟨hcode, hrowNumber⟩ := hfrom.identity
  have hnamed : rowNamed env.unicode row snapshot.units = some unit := by
    have hmergedNamed := hback.named
    rw [rowNamed, hcode] at hmergedNamed
    exact hmergedNamed
  obtain ⟨code, hpresent, hfind⟩ := Option.bind_eq_some_iff.mp hnamed
  have hguarded : merged = (archivedGuard env input context row unit).1 := by
    rw [MergedFrom, hpresent] at hfrom
    obtain ⟨found, hfound, hleft⟩ := hfrom
    rw [hunits, hfind] at hfound
    rw [← Option.some.inj hfound, hstamp unit hunit hid] at hleft
    exact hleft
  refine ⟨unit, hunit, hid, hback.archived,
    ⟨row, hrow, by rw [hnumber, hrowNumber], hnamed⟩, ?_⟩
  have haction := present_action_of_sound hsound hback.action
  have hstatus := hback.status
  rw [hguarded] at haction hstatus
  exact archived_before_of_guard hback.archived haction hstatus

section Sample

/-- A file of the second day about an archived office. -/
def datedBackFile : OrgChartInput :=
  { unitsFile [backRow 2 "B"] with fileCreatedAt := some ⟨"2024-02-02", 2000⟩ }

/-- The office was archived the day before. -/
def archivalKnown : MergeContext :=
  { units := archivedBranch.units
    centers := []
    lastChanges := KeyedMap.ofList
      [(⟨"2", two_ne_empty⟩, KeyedMap.ofList [(.status, ⟨⟨"2024-02-01", 1000⟩, some "Ana"⟩)])]
    deletedUnits := .empty
    unitOrigins := .empty
    now := 3000 }

/-- The office comes back, as the file is newer than its archival. -/
theorem reactivated_by_dated_code_branch :
    ∃ op ∈ (planOrgChart blindRuntime archivedBranch
        (mergeOrgChartInput blindRuntime datedBackFile archivalKnown).input).units,
      UnitChangeKind.reactivated ∈ op.kinds ∧
        ∃ unit ∈ archivedBranch.units, op.existingId = some unit.id ∧ unit.isActive = false ∧
          (∃ row ∈ datedBackFile.units, op.rowNumber = row.rowNumber ∧
            rowNamed blindRuntime.unicode row archivedBranch.units = some unit) ∧
          ∃ date change, fileDate datedBackFile = some date ∧
            ((archivalKnown.lastChanges.get? unit.id).bind fun fields => fields.get? .status) =
              some change ∧
            change.changedAt.time < date.time := by
  have hop : ∃ op ∈ (planOrgChart blindRuntime archivedBranch
      (mergeOrgChartInput blindRuntime datedBackFile archivalKnown).input).units,
        UnitChangeKind.reactivated ∈ op.kinds := by
    decide +kernel
  obtain ⟨op, hmem, hkind⟩ := hop
  exact ⟨op, hmem, hkind, reactivated_by_dated_code blindRuntime archivedBranch datedBackFile
    archivalKnown rfl op hmem hkind fun unit _ _ => rfl⟩

end Sample

end InternalControl.OrgChart
