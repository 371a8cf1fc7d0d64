import InternalControl.OrgChartMerge
import InternalControl.OrgChartLoops

/-!
# Exported rows, their prints and the current ones

The stamp of an export and the current values both go by the code of a unit.
Without loops every unit is listed, so both know every unit. A cell that was
not edited has the print of the stamp and gives way to the current value.
-/

namespace InternalControl.OrgChart

open Text ParentMap

/-- A code that a unit may have is its own upper case. -/
theorem toUpperCase_of_unitCodePattern (unicode : Unicode) {code : String}
    (h : unitCodePattern code = true) : unicode.toUpperCase code = code := by
  refine unicode.toUpperCase_plain code ?_
  unfold unitCodePattern at h
  split at h
  · cases h
  · next first rest hcode =>
    rw [Bool.and_eq_true] at h
    rw [hcode, List.all_cons, h.1]
    exact h.2

/-! ### Looking up by code -/

section Codes

variable (env : Runtime) {units : List SnapshotUnit} {centers : List SnapshotCenter}

/-- Exported rows with one code are one row. -/
theorem eq_of_export_code (hcodes : (units.map SnapshotUnit.code).Nodup) {row other : ExportUnitRow}
    (hrow : row ∈ orgChartExportRows env units centers)
    (hother : other ∈ orgChartExportRows env units centers) (hcode : row.code = other.code) :
    row = other :=
  List.inj_on_of_nodup_map (nodup_export_codes env centers hcodes) hrow hother hcode

/-- The exported rows that a stamp keeps have different codes. -/
theorem nodup_stamped_codes (hcodes : (units.map SnapshotUnit.code).Nodup) :
    (((orgChartExportRows env units centers).filter fun row => (present row.code).isSome).map
      fun row => row.code.getD "").Nodup := by
  have hrows : (orgChartExportRows env units centers).Nodup :=
    List.Nodup.of_map _ (nodup_export_codes env centers hcodes)
  refine List.Nodup.map_on (fun row hrow other hother hcode => ?_) (hrows.filter _)
  have hrow' := (List.mem_filter.mp hrow).1
  have hother' := (List.mem_filter.mp hother).1
  obtain ⟨unit, -, depth, hunit⟩ := exists_of_mem_export env hrow'
  obtain ⟨second, -, level, hsecond⟩ := exists_of_mem_export env hother'
  have hrowCode : row.code = some unit.code := by rw [hunit]; rfl
  have hotherCode : other.code = some second.code := by rw [hsecond]; rfl
  refine eq_of_export_code env hcodes hrow' hother' ?_
  rw [hrowCode, hotherCode] at hcode ⊢
  exact congrArg some hcode

variable {input : OrgChartInput} {generatedAt : IsoDate} {code : String}

/-- The stamp of an export has the prints of each row with a code. -/
theorem get?_stampByCode (hcodes : (units.map SnapshotUnit.code).Nodup)
    (hstamp : input.stamp = some (exportStamp env units centers generatedAt)) {original : StampRow} :
    (stampByCode input).get? code = some original ↔ ∃ row ∈ orgChartExportRows env units centers,
      row.code = some code ∧ code ≠ "" ∧ original = stampRow env code (exportValues row) := by
  have hrows : (input.stamp.map OrgChartStamp.rows).getD [] =
      ((orgChartExportRows env units centers).filter fun row => (present row.code).isSome).map
        fun row => stampRow env (row.code.getD "") (exportValues row) := by
    rw [hstamp]
    rfl
  have hkeys : (((orgChartExportRows env units centers).filter
      fun row => (present row.code).isSome).map
        fun row => stampRow env (row.code.getD "") (exportValues row)).map StampRow.code =
      ((orgChartExportRows env units centers).filter fun row => (present row.code).isSome).map
        fun row => row.code.getD "" := List.map_map
  rw [stampByCode, hrows, KeyedMap.get?_index_iff (by rw [hkeys]; exact nodup_stamped_codes env hcodes)]
  constructor
  · rintro ⟨hmem, hcode⟩
    obtain ⟨row, hrow, hprints⟩ := List.mem_map.mp hmem
    obtain ⟨hlisted, hpresent⟩ := List.mem_filter.mp hrow
    obtain ⟨text, htext⟩ := Option.isSome_iff_exists.mp hpresent
    obtain ⟨hrowCode, hne⟩ := present_eq_some.mp htext
    have hsame : text = code := by
      rw [← hcode, ← hprints, hrowCode]
      rfl
    refine ⟨row, hlisted, by rw [hrowCode, hsame], hsame ▸ hne, ?_⟩
    rw [← hprints, hrowCode, ← hsame]
    rfl
  · rintro ⟨row, hrow, hcode, hne, rfl⟩
    refine ⟨List.mem_map.mpr ⟨row, List.mem_filter.mpr ⟨hrow, ?_⟩, ?_⟩, rfl⟩
    · rw [present_eq_some.mpr ⟨hcode, hne⟩]
      rfl
    · rw [hcode]
      rfl

/-- The current values are those of each listed row with a code. -/
theorem get?_currentByCode {context : MergeContext}
    (hcodes : (context.units.map SnapshotUnit.code).Nodup) {current : StampValues} :
    (currentByCode env context).get? code = some current ↔
      ∃ row ∈ orgChartExportRows env context.units context.centers,
        row.code = some code ∧ code ≠ "" ∧ current = exportValues row := by
  have hkeys : (((orgChartExportRows env context.units context.centers).filter
      fun row => (present row.code).isSome).map
        fun row => (row.code.getD "", exportValues row)).map Prod.fst =
      ((orgChartExportRows env context.units context.centers).filter
        fun row => (present row.code).isSome).map fun row => row.code.getD "" := List.map_map
  rw [currentByCode,
    KeyedMap.get?_ofList_iff (by rw [hkeys]; exact nodup_stamped_codes env hcodes), List.mem_map]
  constructor
  · rintro ⟨row, hrow, hpair⟩
    obtain ⟨hlisted, hpresent⟩ := List.mem_filter.mp hrow
    obtain ⟨text, htext⟩ := Option.isSome_iff_exists.mp hpresent
    obtain ⟨hrowCode, hne⟩ := present_eq_some.mp htext
    obtain ⟨hsame, hvalues⟩ := Prod.mk.inj hpair
    rw [hrowCode, Option.getD_some] at hsame
    exact ⟨row, hlisted, by rw [hrowCode, hsame], hsame ▸ hne, hvalues.symm⟩
  · rintro ⟨row, hrow, hcode, hne, rfl⟩
    refine ⟨row, List.mem_filter.mpr ⟨hrow, ?_⟩, ?_⟩
    · rw [present_eq_some.mpr ⟨hcode, hne⟩]
      rfl
    · rw [hcode]
      rfl

end Codes

/-! ### Cells that were not edited -/

section Cells

variable (env : Runtime) (context : MergeContext) (unchanged : Bool) (row : UnitRowInput)
  (unit : SnapshotUnit) (original : StampRow) (column : StampColumn)

/-- A cell with the print of the stamp gives way to the current value. -/
theorem mergeColumn_of_print_eq
    (h : fingerprint env column (rowValues row column) = original.columns column) :
    mergeColumn env context unchanged row unit original column = .keep (keepValue column unit) := by
  have hprint : original.columns column ≠ "" := by
    rw [← h]
    exact fingerprint_ne_empty env column _
  unfold mergeColumn
  dsimp only
  split
  · next hblank =>
    rw [Bool.and_eq_true, decide_eq_true_eq] at hblank
    rw [hblank.1]
    rfl
  · rw [if_neg (by simp [hprint]), if_pos (by simp [h])]

/-- A row with the prints of the stamp and no action is dropped without a word. -/
theorem mergeStampedWith_of_prints_eq
    (h : ∀ column, fingerprint env column (rowValues row column) = original.columns column)
    (haction : row.action = none) :
    mergeStampedWith env context unchanged row unit original = (none, [], []) := by
  have hkeep : ∀ column, mergeColumn env context unchanged row unit original column =
      .keep (keepValue column unit) :=
    fun column => mergeColumn_of_print_eq env context unchanged row unit original column (h column)
  simp [mergeStampedWith, hkeep, ColumnMerge.keep, haction]

end Cells

end InternalControl.OrgChart
