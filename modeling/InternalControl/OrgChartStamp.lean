import InternalControl.JsonText
import InternalControl.OrgChartTypes

/-!
# The exported workbook and its stamp

The rows an export writes, one for each unit reached from the first level,
and the hidden stamp that keeps a fingerprint of each cell. The fingerprints
tell later which cells of a file were edited.
-/

namespace InternalControl.OrgChart

open Text

/-! ### Columns and fingerprints -/

/-- STAMP_COLUMNS: the columns whose edits are told apart. -/
inductive StampColumn where
  | codePrefix
  | name
  | type
  | parent
  | relation
  | headCenter
  | status
  | color
  deriving DecidableEq

namespace StampColumn

/-- The columns in the order of the stamp. -/
def all : List StampColumn :=
  [codePrefix, name, type, parent, relation, headCenter, status, color]

/-- The column's word in the stamp. -/
def key : StampColumn → String
  | codePrefix => "prefix"
  | name => "name"
  | type => "type"
  | parent => "parent"
  | relation => "relation"
  | headCenter => "headCenter"
  | status => "status"
  | color => "color"

/-- STAMP_COLUMN_HEADERS. -/
def header : StampColumn → String
  | codePrefix => unitHeaders.codePrefix
  | name => unitHeaders.name
  | type => unitHeaders.type
  | parent => unitHeaders.parent
  | relation => unitHeaders.relation
  | headCenter => unitHeaders.headCenter
  | status => unitHeaders.status
  | color => unitHeaders.color

/-- LATER_STAMP_COLUMNS: a stamp of an earlier version has no print of it. -/
def isLater : StampColumn → Bool
  | color => true
  | _ => false

theorem mem_all (column : StampColumn) : column ∈ all := by cases column <;> decide

/-- The headers tell the columns apart. -/
theorem header_injective : Function.Injective header := by
  intro a b
  cases a <;> cases b <;> decide

end StampColumn

/-- The text of each column of a row. -/
abbrev StampValues := StampColumn → Option String

/-- The prints of one exported row. -/
structure StampRow where
  code : String
  columns : StampColumn → String

/-- What a stamp was made for. -/
inductive StampKind where
  | exported
  | template
  deriving DecidableEq

/-- The stamp of a workbook. -/
structure OrgChartStamp where
  formatVersion : ℕ
  kind : StampKind
  exportedAt : IsoDate
  revision : String
  rows : List StampRow

/-- What is read from a workbook. -/
structure OrgChartInput where
  units : List UnitRowInput
  centers : List CenterRowInput
  hasUnitSheet : Bool
  hasCenterSheet : Bool
  ignoredCenterSheet : Bool
  stamp : Option OrgChartStamp
  invalidStamp : Bool
  fileCreatedAt : Option IsoDate

variable (env : Runtime)

/-- The text by which two cells of a column are compared. -/
def comparableValue (column : StampColumn) (text : Option String) : String :=
  match text with
  | none => ""
  | some given =>
    if column = .name then trim given
    else
      match cellText (some given) with
      | none => ""
      | some compact =>
        if column = .color then (parseUnitColor compact).getD (normalizeText env.unicode compact)
        else normalizeText env.unicode compact

/-- The first 16 digits of the digest of a cell. -/
def fingerprint (column : StampColumn) (text : Option String) : String :=
  sliceTo (env.sha256.hex (column.key ++ "\x00" ++ comparableValue env column text)) 16

/-- Two cells of a column that compare equal. -/
def sameValue (column : StampColumn) (left right : Option String) : Bool :=
  comparableValue env column left = comparableValue env column right

/-- The cells of a row by column. -/
def rowValues (row : UnitRowInput) : StampValues
  | .codePrefix => row.codePrefix
  | .name => row.name
  | .type => row.type
  | .parent => row.parent
  | .relation => row.relation
  | .headCenter => row.headCenter
  | .status => row.status
  | .color => row.color

/-- The word of the status column. -/
def statusText (isActive : Bool) : String := if isActive then statusActive else statusArchived

/-- The prints of a row's values. -/
def stampRow (code : String) (values : StampValues) : StampRow :=
  ⟨code, fun column => fingerprint env column (values column)⟩

/-- What of a unit goes into the digest of the structure. -/
def revisionEntry (unit : SnapshotUnit) : JsValue :=
  .array [.string unit.id.text, .string unit.code, .string unit.name, .string unit.unitType.value,
    JsValue.ofOption (unit.parentId.map RowId.text), .string unit.relationType.value,
    JsValue.ofOption (unit.headCostCenterId.map RowId.text),
    JsValue.ofOption unit.headCostCenterCode, JsValue.ofOption unit.codePrefix,
    .bool unit.isActive, JsValue.ofOption unit.color]

/-- The digest of all the units. -/
def structureRevision (units : List SnapshotUnit) : String :=
  env.sha256.hex (JsonText.stringify (.array
    ((units.insertionSort fun left right =>
      env.collation.le left.id.text right.id.text = true).map revisionEntry)))

/-! ### Exported rows -/

/-- A row of the exported sheet. -/
structure ExportUnitRow where
  depth : ℕ
  codePrefix : Option String
  name : String
  typeLabel : String
  parent : Option String
  relationLabel : String
  headCenter : Option String
  color : Option String
  isActive : Bool
  code : Option String
  deriving DecidableEq

/-- The unit with an id. -/
def unitById (units : List SnapshotUnit) : KeyedMap RowId SnapshotUnit :=
  KeyedMap.index SnapshotUnit.id units

/-- The centre with an id. -/
def centerById (centers : List SnapshotCenter) : KeyedMap RowId SnapshotCenter :=
  KeyedMap.index SnapshotCenter.id centers

/-- Under which key a unit is listed: its parent, when that is a unit. -/
def exportKey (units : List SnapshotUnit) (unit : SnapshotUnit) : Option RowId :=
  unit.parentId.filter (unitById units).has

/-- By prefix, units without one behind by name. -/
def exportOrder (left right : SnapshotUnit) : Bool :=
  match present left.codePrefix, present right.codePrefix with
  | some a, some b => env.collation.le a b
  | some _, none => true
  | none, some _ => false
  | none, none => env.spanish.le left.name right.name

/-- The units listed under a key, in export order. -/
def exportChildren (units : List SnapshotUnit) (parent : Option RowId) : List SnapshotUnit :=
  (units.filter fun unit => exportKey units unit = parent).insertionSort fun left right =>
    exportOrder env left right = true

/-- The units visited below a parent, each with its depth, in order. -/
def exportWalk (units : List SnapshotUnit) : ℕ → Option RowId → ℕ →
    List (SnapshotUnit × ℕ) → List (SnapshotUnit × ℕ)
  | 0, _, _, visited => visited
  | fuel + 1, parent, depth, visited =>
    (exportChildren env units parent).foldl (fun visited unit =>
      if unit.id ∈ visited.map fun entry => entry.1.id then visited
      else exportWalk units fuel (some unit.id) (depth + 1) (visited ++ [(unit, depth)])) visited

/-- The row of one unit. -/
def exportRow (units : List SnapshotUnit) (centers : List SnapshotCenter) (unit : SnapshotUnit)
    (depth : ℕ) : ExportUnitRow :=
  { depth
    codePrefix := unit.codePrefix
    name := unit.name
    typeLabel := unit.unitType.label
    parent := (unit.parentId.bind (unitById units).get?).map fun parent =>
      parent.codePrefix.getD parent.code
    relationLabel := unit.relationType.label
    headCenter := ((unit.headCostCenterId.bind (centerById centers).get?).map
      SnapshotCenter.externalCode).or unit.headCostCenterCode
    color := unit.color
    isActive := unit.isActive
    code := some unit.code }

/-- The rows of the exported sheet: each level below its parent. A walk visits
a new unit at every step down, so one step more than there are units is enough. -/
def orgChartExportRows (units : List SnapshotUnit) (centers : List SnapshotCenter) :
    List ExportUnitRow :=
  (exportWalk env units (units.length + 1) none 0 []).map fun entry =>
    exportRow units centers entry.1 entry.2

/-- The cells of an exported row by column. -/
def exportValues (unit : ExportUnitRow) : StampValues
  | .codePrefix => unit.codePrefix
  | .name => some unit.name
  | .type => some unit.typeLabel
  | .parent => unit.parent
  | .relation => some unit.relationLabel
  | .headCenter => unit.headCenter
  | .status => some (statusText unit.isActive)
  | .color => unit.color

/-- The stamp of an exported workbook. -/
def exportStamp (units : List SnapshotUnit) (centers : List SnapshotCenter) (generatedAt : IsoDate) :
    OrgChartStamp :=
  { formatVersion := 1
    kind := .exported
    exportedAt := generatedAt
    revision := structureRevision env units
    rows := ((orgChartExportRows env units centers).filter fun row => (present row.code).isSome).map
      fun row => stampRow env (row.code.getD "") (exportValues row) }

/-- A sheet row with the cells of an exported row as written. -/
def writtenRow (rowNumber : ℕ) (row : ExportUnitRow) : UnitRowInput :=
  { rowNumber
    codePrefix := row.codePrefix
    name := some row.name
    type := some row.typeLabel
    parent := row.parent
    relation := some row.relationLabel
    headCenter := row.headCenter
    color := row.color
    status := some (statusText row.isActive)
    action := none
    code := row.code }

/-- What is read from an exported workbook that nobody edited: its rows from
the second on, and its stamp. -/
def exportedInput (units : List SnapshotUnit) (centers : List SnapshotCenter)
    (generatedAt : IsoDate) (fileCreatedAt : Option IsoDate) : OrgChartInput :=
  { units := (orgChartExportRows env units centers).mapIdx fun index row => writtenRow (index + 2) row
    centers := []
    hasUnitSheet := true
    hasCenterSheet := false
    ignoredCenterSheet := false
    stamp := some (exportStamp env units centers generatedAt)
    invalidStamp := false
    fileCreatedAt }

/-- TEMPLATE_EXAMPLE. -/
def templateExample : StampValues
  | .codePrefix => some "4"
  | .name => some "Vicerrectoría Financiera"
  | .type => some (OrgUnitType.label .vicerectorate)
  | .parent => none
  | .relation => some (OrgRelationType.label .authority)
  | .headCenter => some "4010"
  | .status => some statusActive
  | .color => none

/-! ### What the export and its prints keep -/

@[simp] theorem rowValues_writtenRow (rowNumber : ℕ) (row : ExportUnitRow) :
    rowValues (writtenRow rowNumber row) = exportValues row := by
  funext column
  cases column <;> rfl

/-- A print has 16 characters, so it never reads as a missing one. -/
theorem fingerprint_ne_empty (column : StampColumn) (text : Option String) :
    fingerprint env column text ≠ "" := by
  intro h
  have hlength := congrArg (fun s => s.toList.length) h
  have hhex := env.sha256.length_hex (column.key ++ "\x00" ++ comparableValue env column text)
  simp only [fingerprint, sliceTo, String.toList_ofList, List.length_take, hhex] at hlength
  exact absurd hlength (by decide)

/-- Cells that compare equal have the same print. -/
theorem fingerprint_congr {column : StampColumn} {left right : Option String}
    (h : sameValue env column left right = true) :
    fingerprint env column left = fingerprint env column right := by
  have hvalue : comparableValue env column left = comparableValue env column right := by
    simpa [sameValue] using h
  rw [fingerprint, fingerprint, hvalue]

/-- What holds of the start of a walk and survives each new visit holds at its end. -/
theorem exportWalk_induction {units : List SnapshotUnit} (P : List (SnapshotUnit × ℕ) → Prop)
    (hvisit : ∀ visited unit depth, P visited → unit ∈ units →
      unit.id ∉ (visited.map fun entry => entry.1.id) → P (visited ++ [(unit, depth)]))
    (fuel : ℕ) (parent : Option RowId) (depth : ℕ) (visited : List (SnapshotUnit × ℕ))
    (hstart : P visited) : P (exportWalk env units fuel parent depth visited) := by
  induction fuel generalizing parent depth visited with
  | zero => exact hstart
  | succ fuel ih =>
    rw [exportWalk]
    have hchildren : ∀ unit ∈ exportChildren env units parent, unit ∈ units := by
      intro unit hunit
      rw [exportChildren, List.mem_insertionSort] at hunit
      exact (List.mem_filter.mp hunit).1
    generalize exportChildren env units parent = children at hchildren ⊢
    induction children generalizing visited with
    | nil => exact hstart
    | cons unit rest ihrest =>
      rw [List.foldl_cons]
      refine ihrest _ ?_ fun other hother => hchildren other (List.mem_cons_of_mem _ hother)
      split
      · exact hstart
      · next hnew =>
        exact ih (some unit.id) (depth + 1) _
          (hvisit visited unit depth hstart (hchildren unit List.mem_cons_self) hnew)

/-- The visited units are units of the list, each visited once. -/
theorem exportWalk_visits (units : List SnapshotUnit) (fuel : ℕ) :
    (∀ entry ∈ exportWalk env units fuel none 0 [], entry.1 ∈ units) ∧
      ((exportWalk env units fuel none 0 []).map fun entry => entry.1.id).Nodup := by
  refine exportWalk_induction env (fun visited => (∀ entry ∈ visited, entry.1 ∈ units) ∧
    (visited.map fun entry => entry.1.id).Nodup) ?_ fuel none 0 [] ⟨by simp, by simp⟩
  rintro visited unit depth ⟨hmem, hnodup⟩ hunit hnew
  constructor
  · intro entry hentry
    rcases List.mem_append.mp hentry with hentry | hentry
    · exact hmem entry hentry
    · rw [List.mem_singleton.mp hentry]
      exact hunit
  · rw [List.map_append]
    exact List.nodup_append.mpr ⟨hnodup, by simp, by
      intro a ha b hb hab
      rw [List.map_cons, List.map_nil, List.mem_singleton] at hb
      exact hnew (hb ▸ hab ▸ ha)⟩

/-- Every exported row is the row of a unit. -/
theorem exists_of_mem_export {units : List SnapshotUnit} {centers : List SnapshotCenter}
    {row : ExportUnitRow} (h : row ∈ orgChartExportRows env units centers) :
    ∃ unit ∈ units, ∃ depth, row = exportRow units centers unit depth := by
  obtain ⟨entry, hentry, rfl⟩ := List.mem_map.mp h
  exact ⟨entry.1, (exportWalk_visits env units _).1 entry hentry, entry.2, rfl⟩

/-- Units with distinct codes are exported with distinct codes. -/
theorem nodup_export_codes {units : List SnapshotUnit} (centers : List SnapshotCenter)
    (hcodes : (units.map SnapshotUnit.code).Nodup) :
    ((orgChartExportRows env units centers).map ExportUnitRow.code).Nodup := by
  obtain ⟨hmem, hnodup⟩ := exportWalk_visits env units (units.length + 1)
  have hentries := List.Nodup.of_map (fun entry : SnapshotUnit × ℕ => entry.1.id) hnodup
  rw [orgChartExportRows, List.map_map]
  refine List.Nodup.map_on ?_ hentries
  intro a ha b hb hcode
  have hunit : a.1 = b.1 := by
    refine List.inj_on_of_nodup_map hcodes (hmem a ha) (hmem b hb) ?_
    simpa [exportRow] using hcode
  exact List.inj_on_of_nodup_map hnodup ha hb (congrArg SnapshotUnit.id hunit)

end InternalControl.OrgChart
