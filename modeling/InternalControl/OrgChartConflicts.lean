import InternalControl.OrgChartListing
import InternalControl.OrgChartRevision

/-!
# Edits of a stamped file and changes since its download

For each cell there are three values: the one of the export, the current one
and the one of the file. A cell that was not edited gives way, an edit of a
column nobody changed is carried, and an edit of a changed column is a
conflict. The rules fail exactly where the digest hides a change, which is an
edited own centre whose linked centre got another code.
-/

namespace InternalControl.OrgChart

open Text ParentMap

/-! ### What becomes of a cell in the merged row -/

/-- The outcome of merging a row with its stamp. -/
abbrev StampedMerge := Option UnitRowInput × List OrgChartConflict × List Notice

section Outcome

variable (result : StampedMerge) (row : UnitRowInput) (unit : SnapshotUnit) (column : StampColumn)

/-- The merged row, if any, carries nothing in the column, or the current name. -/
def GivesWay : Prop :=
  ∀ merged, result.1 = some merged → rowValues merged column = keepValue column unit

/-- The merged row carries what the file says in the column. -/
def CarriesEdit : Prop :=
  ∃ merged, result.1 = some merged ∧ rowValues merged column = rowValues row column

/-- A conflict and an error are reported for the column. -/
def Reports : Prop :=
  (∃ conflict ∈ result.2.1, conflict.rowNumber = row.rowNumber ∧ conflict.column = column.header) ∧
    ∃ notice ∈ result.2.2, notice.level = .error ∧ notice.issue.rowNumber = row.rowNumber ∧
      notice.issue.column = some column.header

variable (env : Runtime) (base current : StampValues)

/-- The three rules of a cell, by what the export, the current state and the file
say in the column. -/
structure CellRules : Prop where
  unedited : sameValue env column (rowValues row column) (base column) = true →
    GivesWay result unit column
  conflict : sameValue env column (rowValues row column) (base column) = false →
    sameValue env column (base column) (current column) = false →
    sameValue env column (rowValues row column) (current column) = false →
      Reports result row column ∧ GivesWay result unit column
  edit : sameValue env column (rowValues row column) (base column) = false →
    sameValue env column (base column) (current column) = true →
      sameValue env column (rowValues row column) (current column) = true ∨
        CarriesEdit result row column

/-- No update is lost in the column: a blank colour carries nothing, and any other
cell follows the rules. -/
def NoLostUpdate : Prop :=
  if column = .color ∧ rowValues row column = none then
    ∀ merged, result.1 = some merged → rowValues merged column = none
  else CellRules result row unit column env base current

end Outcome

/-! ### From a cell to the row -/

@[simp] theorem rowValues_withValues (row : UnitRowInput) (values : StampColumn → Option (Option String))
    (column : StampColumn) :
    rowValues (withValues row values) column = (values column).getD (rowValues row column) := by
  cases column <;> rfl

section Row

variable {env : Runtime} {context : MergeContext} {unchanged : Bool} {row : UnitRowInput}
  {unit : SnapshotUnit} {original : StampRow} {column : StampColumn}

/-- A kept cell gives way. -/
theorem givesWay_of_value
    (h : (mergeColumn env context unchanged row unit original column).value =
      some (keepValue column unit)) :
    GivesWay (mergeStampedWith env context unchanged row unit original) unit column := by
  intro merged hmerged
  unfold mergeStampedWith at hmerged
  dsimp only at hmerged
  split at hmerged
  · cases hmerged
  · rw [← Option.some.inj hmerged, rowValues_withValues, h, Option.getD_some]

/-- A taken cell is carried. -/
theorem carriesEdit_of_take
    (h : mergeColumn env context unchanged row unit original column = .take) :
    CarriesEdit (mergeStampedWith env context unchanged row unit original) row column := by
  have happlies : (StampColumn.all.any fun column =>
      (mergeColumn env context unchanged row unit original column).applies) = true := by
    rw [List.any_eq_true]
    exact ⟨column, column.mem_all, by rw [h]; rfl⟩
  unfold mergeStampedWith
  dsimp only
  rw [happlies]
  refine ⟨_, rfl, ?_⟩
  rw [rowValues_withValues, h]
  rfl

/-- A cell in conflict is reported. -/
theorem reports_of_conflict {fileValue currentValue : Option String}
    (h : mergeColumn env context unchanged row unit original column =
      columnConflict env context row unit column fileValue currentValue) :
    Reports (mergeStampedWith env context unchanged row unit original) row column := by
  obtain ⟨conflict, hconflict, hnumber, hheader⟩ : ∃ conflict,
      (columnConflict env context row unit column fileValue currentValue).conflict = some conflict ∧
        conflict.rowNumber = row.rowNumber ∧ conflict.column = column.header :=
    ⟨_, rfl, rfl, rfl⟩
  obtain ⟨notice, hnotice, hlevel⟩ : ∃ notice,
      notice ∈ (columnConflict env context row unit column fileValue currentValue).notices ∧
        notice.level = .error ∧ notice.issue.rowNumber = row.rowNumber ∧
          notice.issue.column = some column.header :=
    ⟨_, List.mem_cons_self, rfl, rfl, rfl⟩
  rw [← h] at hconflict hnotice
  exact ⟨⟨conflict, List.mem_filterMap.mpr ⟨column, column.mem_all, hconflict⟩, hnumber, hheader⟩,
    notice, List.mem_flatMap.mpr ⟨column, column.mem_all, hnotice⟩, hlevel⟩

/-- A taken cell is not reported: the conflicts of other columns have other headers. -/
theorem not_reports_of_take
    (h : mergeColumn env context unchanged row unit original column = .take) :
    ¬Reports (mergeStampedWith env context unchanged row unit original) row column := by
  rintro ⟨⟨conflict, hconflict, -, hheader⟩, -⟩
  obtain ⟨other, -, hother⟩ := List.mem_filterMap.mp hconflict
  have hcolumn : conflict.column = other.header := by
    unfold mergeColumn at hother
    dsimp only at hother
    split at hother
    · cases hother
    · split at hother
      · split at hother
        · cases hother
        · cases hother
      · split at hother
        · cases hother
        · split at hother
          · cases hother
          · rw [columnConflict] at hother
            rw [← Option.some.inj hother]
  have hsame : other = column := StampColumn.header_injective (hcolumn.symm.trans hheader)
  rw [hsame, h] at hother
  cases hother

end Row

/-! ### The rules and the digest -/

section Rules

variable {env : Runtime} {context : MergeContext} {row : UnitRowInput} {unit : SnapshotUnit}
  {original : StampRow} {column : StampColumn} {base current : Option String}

theorem sameValue_comm (left right : Option String) :
    sameValue env column left right = sameValue env column right left := by
  rw [sameValue, sameValue]
  exact decide_eq_decide.mpr eq_comm

/-- Cells whose prints are apart compare equal exactly when they have one print. -/
theorem PrintsApart.fingerprint_ne {left right : Option String}
    (h : PrintsApart env column left right) :
    decide (fingerprint env column left ≠ fingerprint env column right) =
      !sameValue env column left right := by
  cases hsame : sameValue env column left right with
  | true => simp [fingerprint_congr env hsame]
  | false =>
    have hne : fingerprint env column left ≠ fingerprint env column right := by
      intro hprint
      rw [h hprint] at hsame
      cases hsame
    simp [hne]

/-- What becomes of a cell, by the three values of the column. -/
theorem mergeColumn_eq (unchanged : Bool) (hblank : ¬(column = .color ∧ rowValues row column = none))
    (horiginal : original.columns column = fingerprint env column base)
    (hcurrent : currentValues env context row unit column = current)
    (hfile : PrintsApart env column (rowValues row column) base)
    (hnow : PrintsApart env column current base) :
    mergeColumn env context unchanged row unit original column =
      if sameValue env column (rowValues row column) base ||
          sameValue env column (rowValues row column) current then .keep (keepValue column unit)
      else if unchanged || sameValue env column current base then .take
      else columnConflict env context row unit column (rowValues row column) current := by
  have hprint : original.columns column ≠ "" := by
    rw [horiginal]
    exact fingerprint_ne_empty env column base
  have hnotBlank : (column = .color && (rowValues row .color).isNone) = false := by
    rw [Bool.and_eq_false_iff]
    by_cases hcolor : column = .color
    · right
      rw [Option.isNone_eq_false_iff, Option.isSome_iff_ne_none]
      intro hnone
      exact hblank ⟨hcolor, hcolor ▸ hnone⟩
    · left
      exact decide_eq_false hcolor
  have hlater : (column.isLater && decide (original.columns column = "")) = false := by
    rw [decide_eq_false hprint, Bool.and_false]
  unfold mergeColumn
  dsimp only
  rw [hnotBlank, hlater, hcurrent, horiginal, hfile.fingerprint_ne, hnow.fingerprint_ne]
  cases sameValue env column (rowValues row column) base <;>
    cases sameValue env column (rowValues row column) current <;>
    cases unchanged <;> cases sameValue env column current base <;> rfl

/-- The rules hold of a cell unless an edit of a column that changed is merged by an
unchanged digest. -/
theorem cellRules_iff (unchanged : Bool) {base current : StampValues}
    (hblank : ¬(column = .color ∧ rowValues row column = none))
    (horiginal : original.columns column = fingerprint env column (base column))
    (hcurrent : currentValues env context row unit = current)
    (hfile : PrintsApart env column (rowValues row column) (base column))
    (hnow : PrintsApart env column (current column) (base column)) :
    CellRules (mergeStampedWith env context unchanged row unit original) row unit column env base
        current ↔
      ¬(unchanged = true ∧ sameValue env column (base column) (current column) = false ∧
        sameValue env column (rowValues row column) (base column) = false ∧
        sameValue env column (rowValues row column) (current column) = false) := by
  have hmerge := mergeColumn_eq unchanged hblank horiginal (congrFun hcurrent column) hfile hnow
  have hswap : sameValue env column (base column) (current column) =
      sameValue env column (current column) (base column) :=
    sameValue_comm (base column) (current column)
  constructor
  · rintro hrules ⟨hunchanged, hdiffers, hedited, hother⟩
    subst hunchanged
    rw [hedited, hother] at hmerge
    exact not_reports_of_take hmerge (hrules.conflict hedited hdiffers hother).1
  · intro hseen
    refine ⟨fun hsame => ?_, fun hedited hdiffers hother => ?_, fun hedited hsame => ?_⟩
    · rw [hsame] at hmerge
      exact givesWay_of_value (by rw [hmerge]; rfl)
    · have hslow : unchanged = false := by
        cases unchanged with
        | false => rfl
        | true => exact absurd ⟨rfl, hdiffers, hedited, hother⟩ hseen
      subst hslow
      rw [hswap] at hdiffers
      rw [hedited, hother, hdiffers] at hmerge
      exact ⟨reports_of_conflict hmerge, givesWay_of_value (by rw [hmerge]; rfl)⟩
    · cases hother : sameValue env column (rowValues row column) (current column) with
      | true => exact Or.inl rfl
      | false =>
        right
        rw [hswap] at hsame
        rw [hedited, hother, hsame, Bool.or_true] at hmerge
        exact carriesEdit_of_take hmerge

end Rules

/-- A blank colour of the file carries nothing. -/
theorem blank_color_carries_nothing {env : Runtime} {context : MergeContext} (unchanged : Bool)
    {row : UnitRowInput} (unit : SnapshotUnit) (original : StampRow)
    (hblank : rowValues row .color = none) :
    ∀ merged, (mergeStampedWith env context unchanged row unit original).1 = some merged →
      rowValues merged .color = none := by
  have hvalue : (mergeColumn env context unchanged row unit original .color).value =
      some (keepValue .color unit) := by
    unfold mergeColumn
    dsimp only
    rw [hblank]
    rfl
  exact givesWay_of_value hvalue

/-- The digest hides a change: it is that of the stamp, while the own centre of the
unit reads otherwise than in the export, and the file has yet another one. -/
structure HidesChange (env : Runtime) (units : List SnapshotUnit) (context : MergeContext)
    (row : UnitRowInput) (column : StampColumn) (base current : StampValues) : Prop where
  digest : structureRevision env context.units = structureRevision env units
  head : column = .headCenter
  changed : sameValue env column (base column) (current column) = false
  edited : sameValue env column (rowValues row column) (base column) = false
  differs : sameValue env column (rowValues row column) (current column) = false

/-- For each row about a unit of the export that still exists, and each column, no
update is lost exactly when the digest does not hide a change of the column. -/
theorem noLostUpdate_iff (env : Runtime) (units : List SnapshotUnit) (centers : List SnapshotCenter)
    (generatedAt : IsoDate) (input : OrgChartInput) (context : MergeContext)
    (hids : (units.map SnapshotUnit.id).Nodup) (hcodes : (units.map SnapshotUnit.code).Nodup)
    (hcurrentIds : (context.units.map SnapshotUnit.id).Nodup)
    (hcurrentCodes : (context.units.map SnapshotUnit.code).Nodup)
    (hacyclic : Acyclic (snapshotParents context.units))
    (hstamp : input.stamp = some (exportStamp env units centers generatedAt))
    (before : SnapshotUnit) (hbefore : before ∈ units) (unit : SnapshotUnit)
    (hunit : unit ∈ context.units) (hcode : before.code = unit.code) (original : StampRow)
    (horiginal : (stampByCode input).get? unit.code = some original) (row : UnitRowInput)
    (column : StampColumn)
    (hfile : PrintsApart env column (rowValues row column) (unitValues units centers before column))
    (hnow : PrintsApart env column (unitValues context.units context.centers unit column)
      (unitValues units centers before column))
    (hrevisions : RevisionsApart env context.units units) :
    NoLostUpdate (mergeStamped env input context row unit original) row unit column env
        (unitValues units centers before) (unitValues context.units context.centers unit) ↔
      ¬HidesChange env units context row column (unitValues units centers before)
        (unitValues context.units context.centers unit) := by
  -- the stamp has the prints of the unit, and the current values are those of the unit
  obtain ⟨baseRow, hbaseRow, hbaseCode, hne, rfl⟩ := (get?_stampByCode env hcodes hstamp).mp horiginal
  obtain ⟨exported, hexported, depth, hbase⟩ := exists_of_mem_export env hbaseRow
  have hsameUnit : exported = before := by
    refine List.inj_on_of_nodup_map hcodes hexported hbefore ?_
    rw [hbase] at hbaseCode
    exact (Option.some.inj hbaseCode).trans hcode.symm
  have hprints : (stampRow env unit.code (exportValues baseRow)).columns column =
      fingerprint env column (unitValues units centers before column) := by
    rw [hbase, hsameUnit]
    rfl
  obtain ⟨level, hlisted⟩ := exists_export_row env hcurrentIds hacyclic context.centers hunit
  have hcurrent : currentValues env context row unit =
      unitValues context.units context.centers unit := by
    have hget := (get?_currentByCode env hcurrentCodes).mpr ⟨_, hlisted, rfl, hne, rfl⟩
    rw [currentValues, hget]
    rfl
  have hdigest : unchangedSinceStamp env input context = true ↔
      structureRevision env context.units = structureRevision env units := by
    rw [unchangedSinceStamp, hstamp, Option.any_some, decide_eq_true_eq]
    exact eq_comm
  rw [mergeStamped, NoLostUpdate]
  split
  · next hblank =>
    obtain ⟨rfl, hnone⟩ := hblank
    exact iff_of_true (blank_color_carries_nothing _ unit _ hnone) fun hides => by cases hides.head
  · next hblank =>
    rw [cellRules_iff _ hblank hprints hcurrent hfile hnow]
    refine not_congr (Iff.intro ?_ fun hides =>
      ⟨hdigest.mpr hides.digest, hides.changed, hides.edited, hides.differs⟩)
    rintro ⟨hunchanged, hchanged, hedited, hdiffers⟩
    have hrevision := hdigest.mp hunchanged
    refine ⟨hrevision, ?_, hchanged, hedited, hdiffers⟩
    -- under one digest only the own centre may read otherwise
    by_contra hcolumn
    have hperm : units.Perm context.units := (perm_of_revisionText_eq (hrevisions hrevision)).symm
    have hsame : before = unit :=
      List.inj_on_of_nodup_map hcodes hbefore (hperm.mem_iff.mpr hunit) hcode
    rw [hsame, unitValues_perm hperm hids centers context.centers unit hcolumn] at hchanged
    rw [sameValue, decide_eq_false_iff_not] at hchanged
    exact hchanged rfl

/-! ### An edit that undoes a change -/

section Sample

theorem office_acyclic : Acyclic (snapshotParents recodedCenter.units) := by
  refine acyclic_of_rank (fun _ => 0) fun id parent hparent => ?_
  obtain ⟨unit, hunit, hup⟩ := Option.bind_eq_some_iff.mp hparent
  have hmem := (KeyedMap.mem_of_get?_index hunit).1
  rw [recodedCenter, List.mem_singleton] at hmem
  rw [hmem] at hup
  cases hup

theorem office_prints :
    PrintsApart officeRuntime .headCenter (rowValues editedHeadRow .headCenter)
        (unitValues [headedOffice] [linkedCenter "1010"] headedOffice .headCenter) ∧
      PrintsApart officeRuntime .headCenter
        (unitValues recodedCenter.units recodedCenter.centers headedOffice .headCenter)
        (unitValues [headedOffice] [linkedCenter "1010"] headedOffice .headCenter) := by
  unfold PrintsApart
  decide +kernel

/-- The centre of the office got another code, the file names a third one, and the
edit is carried without a conflict. -/
theorem edit_over_recoded_center : ∃ env units centers generatedAt input context,
    (units.map SnapshotUnit.id).Nodup ∧ (units.map SnapshotUnit.code).Nodup ∧
      (context.units.map SnapshotUnit.id).Nodup ∧ (context.units.map SnapshotUnit.code).Nodup ∧
      Acyclic (snapshotParents context.units) ∧
      input.stamp = some (exportStamp env units centers generatedAt) ∧
      ∃ before ∈ units, ∃ unit ∈ context.units, before.code = unit.code ∧ ∃ original row column,
        (stampByCode input).get? unit.code = some original ∧
          PrintsApart env column (rowValues row column) (unitValues units centers before column) ∧
          PrintsApart env column (unitValues context.units context.centers unit column)
            (unitValues units centers before column) ∧
          ¬NoLostUpdate (mergeStamped env input context row unit original) row unit column env
            (unitValues units centers before) (unitValues context.units context.centers unit) := by
  refine ⟨officeRuntime, [headedOffice], [linkedCenter "1010"], ⟨"2024-02-01", 1000⟩, officeFile,
    recodedCenter, by decide, by decide, by decide, by decide, office_acyclic, rfl, headedOffice,
    List.mem_cons_self, headedOffice, List.mem_cons_self, rfl, officeStamp, editedHeadRow, .headCenter,
    officeFile_stamp, office_prints.1, office_prints.2, fun hkept => ?_⟩
  rw [NoLostUpdate, if_neg (by decide)] at hkept
  have hconflicts : (mergeStamped officeRuntime officeFile recodedCenter editedHeadRow headedOffice
      officeStamp).2.1.length = 0 := by
    decide +kernel
  have hreports := (hkept.conflict (by decide +kernel) (by decide +kernel) (by decide +kernel)).1
  obtain ⟨⟨conflict, hconflict, -⟩, -⟩ := hreports
  rw [List.length_eq_zero_iff] at hconflicts
  rw [hconflicts] at hconflict
  cases hconflict

/-- The own centre of the office in the edited file. -/
theorem noLostUpdate_iff_office :
    NoLostUpdate (mergeStamped officeRuntime officeFile recodedCenter editedHeadRow headedOffice
        officeStamp) editedHeadRow headedOffice .headCenter officeRuntime
        (unitValues [headedOffice] [linkedCenter "1010"] headedOffice)
        (unitValues recodedCenter.units recodedCenter.centers headedOffice) ↔
      ¬HidesChange officeRuntime [headedOffice] recodedCenter editedHeadRow .headCenter
        (unitValues [headedOffice] [linkedCenter "1010"] headedOffice)
        (unitValues recodedCenter.units recodedCenter.centers headedOffice) :=
  noLostUpdate_iff officeRuntime [headedOffice] [linkedCenter "1010"] ⟨"2024-02-01", 1000⟩ officeFile
    recodedCenter (by decide) (by decide) (by decide) (by decide) office_acyclic rfl headedOffice
    List.mem_cons_self headedOffice List.mem_cons_self rfl officeStamp officeFile_stamp editedHeadRow
    .headCenter office_prints.1 office_prints.2 fun _ => rfl

end Sample

end InternalControl.OrgChart
