import InternalControl.OrgChartParents
import InternalControl.OrgChartStamped

/-!
# The digest of the structure and the cells of the export

The digest covers the stored units, so under one digest every column of the
export reads the same, except the own centre: its cell shows the code of the
linked centre, which is no part of a unit. The merge by the digest is the merge
by the cells as long as those cells read the same.
-/

namespace InternalControl.OrgChart

open Text

/-- The text whose digest is the revision. -/
def revisionText (env : Runtime) (units : List SnapshotUnit) : String :=
  JsonText.stringify (.array ((units.insertionSort fun left right =>
    env.collation.le left.id.text right.id.text = true).map revisionEntry))

/-- The revisions of two lists of units are the same for one text only. -/
def RevisionsApart (env : Runtime) (units others : List SnapshotUnit) : Prop :=
  structureRevision env units = structureRevision env others →
    revisionText env units = revisionText env others

/-- Two cells have the same print only when they compare equal. -/
def PrintsApart (env : Runtime) (column : StampColumn) (left right : Option String) : Prop :=
  fingerprint env column left = fingerprint env column right → sameValue env column left right = true

/-! ### What a revision covers -/

theorem OrgUnitType.value_injective : Function.Injective OrgUnitType.value := by
  intro a b h
  cases a <;> cases b <;> first | rfl | exact absurd h (by decide)

theorem OrgRelationType.value_injective : Function.Injective OrgRelationType.value := by
  intro a b h
  cases a <;> cases b <;> first | rfl | exact absurd h (by decide)

theorem ofOption_injective : Function.Injective JsValue.ofOption := by
  intro a b h
  cases a <;> cases b <;> simp_all [JsValue.ofOption]

theorem rowId_text_injective : Function.Injective RowId.text := by
  intro a b h
  cases a
  cases b
  cases h
  rfl

/-- The entry of a unit has all that is stored of it. -/
theorem revisionEntry_injective : Function.Injective revisionEntry := by
  intro a b h
  simp only [revisionEntry, JsValue.array.injEq, List.cons.injEq, JsValue.string.injEq,
    JsValue.bool.injEq, and_true] at h
  obtain ⟨hid, hcode, hname, htype, hparent, hrelation, hhead, hheadCode, hshown, hactive, hcolor⟩ := h
  have hid' := rowId_text_injective hid
  have htype' := OrgUnitType.value_injective htype
  have hrelation' := OrgRelationType.value_injective hrelation
  have hparent' := Option.map_injective rowId_text_injective (ofOption_injective hparent)
  have hhead' := Option.map_injective rowId_text_injective (ofOption_injective hhead)
  have hheadCode' := ofOption_injective hheadCode
  have hshown' := ofOption_injective hshown
  have hcolor' := ofOption_injective hcolor
  cases a
  cases b
  simp_all

theorem plain_ofOption (value : Option String) : JsonText.Plain (.ofOption value) := by
  cases value with
  | none => trivial
  | some text => trivial

theorem plain_revisionEntry (unit : SnapshotUnit) : JsonText.Plain (revisionEntry unit) := by
  simp [revisionEntry, JsonText.Plain, JsonText.PlainItems, plain_ofOption]

theorem plainItems_revisionEntry (units : List SnapshotUnit) :
    JsonText.PlainItems (units.map revisionEntry) := by
  induction units with
  | nil => trivial
  | cons unit rest ih => exact ⟨plain_revisionEntry unit, ih⟩

/-- Under one revision text there are the same units. -/
theorem perm_of_revisionText_eq {env : Runtime} {units others : List SnapshotUnit}
    (h : revisionText env units = revisionText env others) : units.Perm others := by
  have hvalue := JsonText.stringify_injective (v := .array _) (w := .array _)
    (plainItems_revisionEntry _) (plainItems_revisionEntry _) h
  rw [JsValue.array.injEq, revisionEntry_injective.list_map.eq_iff] at hvalue
  exact ((List.perm_insertionSort _ units).symm.trans (List.Perm.of_eq hvalue)).trans
    (List.perm_insertionSort _ others)

/-! ### What the same units read -/

/-- What the cells of a unit read in an export. -/
def unitValues (units : List SnapshotUnit) (centers : List SnapshotCenter) (unit : SnapshotUnit) :
    StampValues :=
  exportValues (exportRow units centers unit 0)

section SameUnits

variable {units others : List SnapshotUnit}

theorem unitById_perm (hperm : units.Perm others) (hids : (units.map SnapshotUnit.id).Nodup)
    (id : RowId) : (unitById units).get? id = (unitById others).get? id := by
  have hotherIds : (others.map SnapshotUnit.id).Nodup := (hperm.map _).nodup_iff.mp hids
  ext unit
  rw [unitById, unitById, KeyedMap.get?_index_iff hids, KeyedMap.get?_index_iff hotherIds,
    hperm.mem_iff]

/-- Among the same units only the own centre of a unit may read otherwise. -/
theorem unitValues_perm (hperm : units.Perm others) (hids : (units.map SnapshotUnit.id).Nodup)
    (centers otherCenters : List SnapshotCenter) (unit : SnapshotUnit) {column : StampColumn}
    (hcolumn : column ≠ .headCenter) :
    unitValues units centers unit column = unitValues others otherCenters unit column := by
  have hparents : (unitById units).get? = (unitById others).get? :=
    funext fun id => unitById_perm hperm hids id
  cases column with
  | headCenter => exact absurd rfl hcolumn
  | parent =>
    rw [unitValues, unitValues, exportValues, exportValues, exportRow, exportRow]
    dsimp only
    rw [hparents]
  | codePrefix => rfl
  | name => rfl
  | type => rfl
  | relation => rfl
  | status => rfl
  | color => rfl

end SameUnits

/-! ### The merge by the digest and the merge by the cells -/

section FastPath

variable (env : Runtime) (units : List SnapshotUnit) (centers : List SnapshotCenter)
  (input : OrgChartInput) (context : MergeContext)

/-- No unit of both exports has a column whose current print differs from the stamp. -/
def PrintsAgree : Prop :=
  ∀ code original current, (stampByCode input).get? code = some original →
    (currentByCode env context).get? code = some current →
      ∀ column, fingerprint env column (current column) = original.columns column

/-- Whatever the row says, it is merged as without looking at the digest. -/
def FastPathAgrees : Prop :=
  ∀ row, ∀ unit ∈ context.units, ∀ original, (stampByCode input).get? unit.code = some original →
    mergeStamped env input context row unit original =
      mergeStampedWith env context false row unit original

/-- The own centre of each unit reads the same in both exports. -/
def SameHeadCells : Prop :=
  ∀ row ∈ orgChartExportRows env units centers,
    ∀ other ∈ orgChartExportRows env context.units context.centers,
      (present row.code).isSome = true → row.code = other.code →
        sameValue env .headCenter row.headCenter other.headCenter = true

variable {env context}

/-- Looking at the digest changes nothing for a cell that is not edited against the
current value, or whose current print is that of the stamp. -/
theorem mergeColumn_unchanged (unchanged : Bool) {row : UnitRowInput} {unit : SnapshotUnit}
    {original : StampRow} {column : StampColumn}
    (h : sameValue env column (rowValues row column) (currentValues env context row unit column) =
        true ∨
      fingerprint env column (currentValues env context row unit column) = original.columns column) :
    mergeColumn env context unchanged row unit original column =
      mergeColumn env context false row unit original column := by
  unfold mergeColumn
  dsimp only
  rcases h with hsame | hprint
  · rw [hsame]
    simp
  · rw [hprint]
    simp

variable {input}

/-- When the prints agree, the digest decides as the cells do. -/
theorem fastPathAgrees_of_printsAgree (h : PrintsAgree env input context) :
    FastPathAgrees env input context := by
  intro row unit hunit original horiginal
  have hcolumn : ∀ column, mergeColumn env context (unchangedSinceStamp env input context) row unit
      original column = mergeColumn env context false row unit original column := by
    intro column
    refine mergeColumn_unchanged _ ?_
    cases hcurrent : (currentByCode env context).get? unit.code with
    | none =>
      left
      have hfile : currentValues env context row unit = rowValues row := by
        rw [currentValues, hcurrent, Option.getD_none]
      rw [hfile, sameValue, decide_eq_true_eq]
    | some current =>
      right
      have hlisted : currentValues env context row unit = current := by
        rw [currentValues, hcurrent, Option.getD_some]
      rw [hlisted]
      exact h unit.code original current horiginal hcurrent column
  rw [mergeStamped, mergeStampedWith, mergeStampedWith, funext hcolumn]

end FastPath

/-- Under one digest the prints agree exactly when the own centres read the same,
and then the digest decides as the cells do. -/
theorem fast_path_iff_sameHeadCells (env : Runtime) (units : List SnapshotUnit)
    (centers : List SnapshotCenter) (generatedAt : IsoDate) (input : OrgChartInput)
    (context : MergeContext) (hids : (units.map SnapshotUnit.id).Nodup) (hcodes : (units.map SnapshotUnit.code).Nodup)
    (hcurrentCodes : (context.units.map SnapshotUnit.code).Nodup)
    (hstamp : input.stamp = some (exportStamp env units centers generatedAt))
    (hunchanged : unchangedSinceStamp env input context = true)
    (hrevisions : RevisionsApart env context.units units)
    (hprints : ∀ row ∈ orgChartExportRows env units centers,
      ∀ other ∈ orgChartExportRows env context.units context.centers, row.code = other.code →
        PrintsApart env .headCenter other.headCenter row.headCenter) :
    (PrintsAgree env input context ∧ FastPathAgrees env input context) ↔
      SameHeadCells env units centers context := by
  have hrevision : structureRevision env context.units = structureRevision env units := by
    rw [unchangedSinceStamp, hstamp, Option.any_some, decide_eq_true_eq] at hunchanged
    exact hunchanged.symm
  have hperm : units.Perm context.units := (perm_of_revisionText_eq (hrevisions hrevision)).symm
  constructor
  · rintro ⟨hagree, -⟩ row hrow other hother hcode hsame
    obtain ⟨code, hpresent⟩ := Option.isSome_iff_exists.mp hcode
    obtain ⟨hrowCode, hne⟩ := present_eq_some.mp hpresent
    have horiginal := (get?_stampByCode env hcodes hstamp).mpr ⟨row, hrow, hrowCode, hne, rfl⟩
    have hcurrent := (get?_currentByCode env hcurrentCodes).mpr
      ⟨other, hother, hsame.symm.trans hrowCode, hne, rfl⟩
    have hprint := hagree code _ _ horiginal hcurrent .headCenter
    have hvalue := hprints row hrow other hother hsame hprint
    rw [sameValue, decide_eq_true_eq] at hvalue ⊢
    exact hvalue.symm
  · intro hheads
    have hagree : PrintsAgree env input context := by
      intro code original current horiginal hcurrent column
      obtain ⟨row, hrow, hrowCode, hne, rfl⟩ := (get?_stampByCode env hcodes hstamp).mp horiginal
      obtain ⟨other, hother, hotherCode, -, rfl⟩ := (get?_currentByCode env hcurrentCodes).mp hcurrent
      obtain ⟨unit, hunit, depth, hrowUnit⟩ := exists_of_mem_export env hrow
      obtain ⟨second, hsecond, level, hotherUnit⟩ := exists_of_mem_export env hother
      have hrowUnitCode : row.code = some unit.code := by rw [hrowUnit]; rfl
      have hotherUnitCode : other.code = some second.code := by rw [hotherUnit]; rfl
      have hunits : second = unit := by
        refine List.inj_on_of_nodup_map hcodes (hperm.mem_iff.mpr hsecond) hunit ?_
        have hcode := hotherUnitCode.symm.trans (hotherCode.trans (hrowCode.symm.trans hrowUnitCode))
        exact Option.some.inj hcode
      subst hunits
      by_cases hcolumn : column = .headCenter
      · subst hcolumn
        have hpresent : (present row.code).isSome = true := by
          rw [present_eq_some.mpr ⟨hrowCode, hne⟩]
          rfl
        have hsame := hheads row hrow other hother hpresent (hrowCode.trans hotherCode.symm)
        exact (fingerprint_congr env hsame).symm
      · have hvalues : exportValues other column = exportValues row column := by
          rw [hrowUnit, hotherUnit]
          exact (unitValues_perm hperm hids centers context.centers second hcolumn).symm
        rw [hvalues]
        rfl
    exact ⟨hagree, fastPathAgrees_of_printsAgree hagree⟩

/-! ### A centre whose code changes -/

section Sample

theorem nine_ne_empty : "9" ≠ "" := by decide

/-- An archived office with a linked centre. -/
def headedOffice : SnapshotUnit :=
  { sampleOffice ⟨"2", two_ne_empty⟩ "B" none false with
    headCostCenterId := some ⟨"9", nine_ne_empty⟩
    headCostCenterCode := some "1010" }

/-- The linked centre under a code. -/
def linkedCenter (code : String) : SnapshotCenter :=
  { id := ⟨"9", nine_ne_empty⟩, externalCode := code, name := "Archivo", hasMovement := true
    isActive := true, unitId := none, parentId := none, activeAssets := 0 }

/-- The digests of the cells of the office, and of its revision. -/
def officeRuntime : Runtime := .ascii (.ofTable
   [("[[\"2\",\"B\",\"B\",\"OFFICE\",null,\"AUTHORITY\",\"9\",\"1010\",null,false,null]]",
      "6d90650ecfb0b05587d963efdc2802abd7f1eec5d57945889a4f8ac6476574db"),
    ("prefix\x00",
      "07c6eaadce7b52605ca51522f012a4e7d9a90056f49aec9e3b9f15b87dafe831"),
    ("name\x00B",
      "a25634c36f19b0eb8e358cce5f9dd2794c5e2972c254c9f386beb061a3a9323a"),
    ("type\x00oficina",
      "8e370b112e99d362764c65185f5ff8686ed96c2d62ec244f13bad63d302462fb"),
    ("parent\x00",
      "94daf2fb65daade27b0ac383c1cb8402c99f0bdaa674b2dbc34a3d4d2a0cc041"),
    ("relation\x00autoridad",
      "d997d6589fb721fe250cf210192456da4cec2be9005e0af0bbd5156ea3513517"),
    ("headCenter\x001010",
      "fe1e2fb17cd7c5e3d4e7509682a061be63fda1e75d9d3b18d9c210a8101103fb"),
    ("headCenter\x002020",
      "542464eb689a97b223425dc7fc7a6275e292aa20e0fbd2f39a13217a58e4fbb6"),
    ("headCenter\x003030",
      "35ed5a59bb8c0e2d70798b85b95ac8abf0372f8b94a8ddd355927cc60e216a3b"),
    ("status\x00archivado",
      "8a5c17fd78a97b82e38088e53d1e64d24e243f7883b61ed2e76932f7e0a0b2e8"),
    ("color\x00",
      "d0a30ea822d7c64b1b2ecf30d97a6244ca5d8a9e7b4a9b52822d01e5d54b3ac2")] (by decide))

/-- The file of the office, downloaded while its centre had the first code. -/
def officeFile : OrgChartInput :=
  exportedInput officeRuntime [headedOffice] [linkedCenter "1010"] ⟨"2024-02-01", 1000⟩ none

/-- The office unchanged, and its centre under another code. -/
def recodedCenter : MergeContext :=
  { units := [headedOffice], centers := [linkedCenter "2020"], lastChanges := .empty
    deletedUnits := .empty, unitOrigins := .empty, now := 2000 }

/-- A row of the file whose own centre somebody edited. -/
def editedHeadRow : UnitRowInput :=
  { backRow 2 "B" with
    type := some "Oficina", relation := some "Autoridad", headCenter := some "3030"
    status := some "Archivado" }

/-- The stamp of the office. -/
def officeStamp : StampRow :=
  stampRow officeRuntime "B" (unitValues [headedOffice] [linkedCenter "1010"] headedOffice)

theorem officeFile_stamp : (stampByCode officeFile).get? "B" = some officeStamp := by
  have hcodes : ([headedOffice].map SnapshotUnit.code).Nodup := by decide
  have hlisted : exportRow [headedOffice] [linkedCenter "1010"] headedOffice 0 ∈
      orgChartExportRows officeRuntime [headedOffice] [linkedCenter "1010"] := by
    decide +kernel
  have hstamp : officeFile.stamp =
      some (exportStamp officeRuntime [headedOffice] [linkedCenter "1010"] ⟨"2024-02-01", 1000⟩) := rfl
  exact (get?_stampByCode officeRuntime hcodes hstamp).mpr ⟨_, hlisted, rfl, by decide, rfl⟩

/-- The digest stays while the cell of the own centre changes: the prints differ,
and an edit of that cell is a conflict by the cells but not by the digest. -/
theorem recoded_center_is_not_seen : ∃ env units centers generatedAt input context,
    (units.map SnapshotUnit.id).Nodup ∧ (units.map SnapshotUnit.code).Nodup ∧
      (context.units.map SnapshotUnit.code).Nodup ∧
      input.stamp = some (exportStamp env units centers generatedAt) ∧
      unchangedSinceStamp env input context = true ∧
      ¬PrintsAgree env input context ∧ ¬FastPathAgrees env input context := by
  refine ⟨officeRuntime, [headedOffice], [linkedCenter "1010"], ⟨"2024-02-01", 1000⟩, officeFile,
    recodedCenter, by decide, by decide, by decide, rfl, by decide +kernel, fun hagree => ?_,
    fun hfast => ?_⟩
  · have hcurrent : ((currentByCode officeRuntime recodedCenter).get? "B").map (fun current =>
        fingerprint officeRuntime .headCenter (current .headCenter)) = some "542464eb689a97b2" := by
      decide +kernel
    have hstamped : officeStamp.columns .headCenter = "fe1e2fb17cd7c5e3" := by decide +kernel
    obtain ⟨current, hlisted, hprint⟩ := Option.map_eq_some_iff.mp hcurrent
    have hsame := hagree "B" officeStamp current officeFile_stamp hlisted .headCenter
    rw [hprint, hstamped] at hsame
    exact absurd hsame (by decide)
  · have hfastRow : (mergeStamped officeRuntime officeFile recodedCenter editedHeadRow headedOffice
        officeStamp).2.1.length = 0 := by
      decide +kernel
    have hslowRow : (mergeStampedWith officeRuntime recodedCenter false editedHeadRow headedOffice
        officeStamp).2.1.length = 1 := by
      decide +kernel
    have hsame := hfast editedHeadRow headedOffice List.mem_cons_self officeStamp officeFile_stamp
    rw [hsame, hslowRow] at hfastRow
    exact absurd hfastRow (by decide)

/-- The office and its centre under the second code. -/
theorem fast_path_iff_sameHeadCells_office :
    (PrintsAgree officeRuntime officeFile recodedCenter ∧
        FastPathAgrees officeRuntime officeFile recodedCenter) ↔
      SameHeadCells officeRuntime [headedOffice] [linkedCenter "1010"] recodedCenter := by
  have hprints : ∀ row ∈ orgChartExportRows officeRuntime [headedOffice] [linkedCenter "1010"],
      ∀ other ∈ orgChartExportRows officeRuntime recodedCenter.units recodedCenter.centers,
        row.code = other.code → PrintsApart officeRuntime .headCenter other.headCenter
          row.headCenter := by
    unfold PrintsApart
    decide +kernel
  exact fast_path_iff_sameHeadCells officeRuntime [headedOffice] [linkedCenter "1010"]
    ⟨"2024-02-01", 1000⟩ officeFile recodedCenter (by decide) (by decide) (by decide) rfl
    (by decide +kernel) (fun _ => rfl) hprints

end Sample

end InternalControl.OrgChart
