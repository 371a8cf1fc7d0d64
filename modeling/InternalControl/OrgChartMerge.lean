import InternalControl.OrgChartRows

/-!
# Merging a file with what changed since it was downloaded

The stamp of a file tells which cells were edited and which columns changed in
the meantime. A cell that was not edited gives way to the current value, an
edited one is kept when nobody else changed the column, and otherwise it is a
conflict. Rows without a stamp pass as they are, but an archived unit only comes
back with a file that is newer than its archival.
-/

namespace InternalControl.OrgChart

open Text

/-- The fields of the history of units and centres. -/
inductive OrgHistoryField where
  | name
  | code
  | type
  | parent
  | codePrefix
  | relation
  | headCostCenter
  | status
  | color
  deriving DecidableEq

/-- HISTORY_FIELD. -/
def historyField : StampColumn → OrgHistoryField
  | .codePrefix => .codePrefix
  | .name => .name
  | .type => .type
  | .parent => .parent
  | .relation => .relation
  | .headCenter => .headCostCenter
  | .status => .status
  | .color => .color

/-- When something changed and by whom. -/
structure ChangeInfo where
  changedAt : IsoDate
  byName : Option String

/-- When a unit was deleted, by whom, and what it was called. -/
structure DeletedUnitInfo extends ChangeInfo where
  name : Option String

/-- What a file is merged with. -/
structure MergeContext where
  units : List SnapshotUnit
  centers : List SnapshotCenter
  lastChanges : KeyedMap RowId (KeyedMap OrgHistoryField ChangeInfo)
  deletedUnits : KeyedMap String DeletedUnitInfo
  unitOrigins : KeyedMap RowId ChangeInfo
  /-- The current time, in milliseconds. -/
  now : ℤ

/-- A cell that was edited in a column that somebody else changed. -/
structure OrgChartConflict where
  rowNumber : ℕ
  unitName : String
  column : String
  fileValue : Option String
  currentValue : Option String
  changedAt : Option IsoDate
  changedBy : Option String

/-- The outcome of a merge. -/
structure MergeResult where
  input : OrgChartInput
  errors : List RowIssue
  warnings : List RowIssue
  conflicts : List OrgChartConflict
  fileAgeDays : Option ℤ

/-- STALE_FILE_DAYS. -/
def staleFileDays : ℤ := 7

/-- DAY_MS. -/
def dayMs : ℤ := 24 * 60 * 60 * 1000

/-- By whom a change was made. -/
def byWhom (info : ChangeInfo) : String :=
  match present info.byName with
  | some name => " por " ++ name
  | none => ""

/-- How a cell is shown in a message. -/
def shown (value : Option String) : String :=
  match present value with
  | some text => if trim text ≠ "" then text else "(vacío)"
  | none => "(vacío)"

/-- What a column is left with to keep the current value: nothing, but the name. -/
def keepValue (column : StampColumn) (unit : SnapshotUnit) : Option String :=
  if column = .name then some unit.name else none

/-- A row with some of its cells replaced. -/
def withValues (row : UnitRowInput) (values : StampColumn → Option (Option String)) : UnitRowInput :=
  { row with
    codePrefix := (values .codePrefix).getD row.codePrefix
    name := (values .name).getD row.name
    type := (values .type).getD row.type
    parent := (values .parent).getD row.parent
    relation := (values .relation).getD row.relation
    headCenter := (values .headCenter).getD row.headCenter
    status := (values .status).getD row.status
    color := (values .color).getD row.color }

variable (env : Runtime) (input : OrgChartInput) (context : MergeContext)

/-- The row that the template gives as an example. -/
def isTemplateExample (row : UnitRowInput) : Bool :=
  row.code.isNone && row.action.isNone && StampColumn.all.all fun column =>
    sameValue env column (rowValues row column) (templateExample column) ||
      column = .status && row.status.isNone

/-- The date of the file: that of its stamp, or its own. -/
def fileDate : Option IsoDate := (input.stamp.map OrgChartStamp.exportedAt).or input.fileCreatedAt

/-- How many days ago a stamped file was downloaded. -/
def fileAgeDays : Option ℤ :=
  input.stamp.map fun stamp => max 0 ((context.now - stamp.exportedAt.time) / dayMs)

/-- The active unit whose own centre has a code. -/
def activeByHead (units : List SnapshotUnit) : KeyedMap String SnapshotUnit :=
  KeyedMap.ofList ((units.filter fun unit => unit.isActive &&
    (present unit.headCostCenterCode).isSome).map fun unit => (unit.headCostCenterCode.getD "", unit))

/-- The current values by code. -/
def currentByCode : KeyedMap String StampValues :=
  KeyedMap.ofList (((orgChartExportRows env context.units context.centers).filter fun row =>
    (present row.code).isSome).map fun row => (row.code.getD "", exportValues row))

/-- The stamped rows by code. -/
def stampByCode : KeyedMap String StampRow :=
  KeyedMap.index StampRow.code ((input.stamp.map OrgChartStamp.rows).getD [])

/-- The digest of the units is still the one of the stamp. -/
def unchangedSinceStamp : Bool :=
  input.stamp.any fun stamp => stamp.revision = structureRevision env context.units

/-- Since when a unit is there. -/
def createdText (unit : SnapshotUnit) : Option String :=
  (context.unitOrigins.get? unit.id).map fun origin =>
    "creada el " ++ env.formatDay origin.changedAt ++ byWhom origin

/-- The same in brackets. -/
def createdNote (unit : SnapshotUnit) : String :=
  match present (createdText env context unit) with
  | some text => " (" ++ text ++ ")"
  | none => ""

/-- The name of a parent. -/
def parentName (parentId : Option RowId) : Option String :=
  (parentId.bind (unitById context.units).get?).map SnapshotUnit.name

/-- The first row of the file about each stored unit. -/
def fileRowByCode : KeyedMap String UnitRowInput :=
  input.units.foldl (fun rows row =>
    match (present row.code).bind (findByCode env.unicode context.units) with
    | some existing => if rows.has existing.code then rows else rows.set existing.code row
    | none => rows) .empty

/-- The parent that a cell names, if it names one; no parent is one of the answers. -/
def resolveParentId (text : Option String) : Option (Option RowId) :=
  match present text with
  | none => some none
  | some text =>
    if normalizeText env.unicode text = "raiz" then some none
    else if allDigits text then
      ((findByPrefix context.units text).or ((activeByHead context.units).get? text)).map fun unit =>
        some unit.id
    else (findByCode env.unicode context.units text).map fun unit => some unit.id

/-- The file takes the unit away from where it is. -/
def leavesPlace (unit : SnapshotUnit) : Bool :=
  match (fileRowByCode env input context).get? unit.code with
  | none => false
  | some row =>
    let touched (column : StampColumn) : Bool :=
      match (stampByCode input).get? unit.code with
      | none => true
      | some original => fingerprint env column (rowValues row column) ≠ original.columns column
    (present row.action).isSome ||
      ((present row.status).bind (parseStatus env.unicode) = some false && touched .status) ||
      ((present row.name).any (fun name =>
        normalizeText env.unicode name ≠ normalizeText env.unicode unit.name) && touched .name) ||
      ((present row.parent).isSome && touched .parent &&
        resolveParentId env context row.parent ≠ some unit.parentId)

/-! ### Rows with a stamp -/

/-- What becomes of one cell. -/
structure ColumnMerge where
  /-- What the cell is replaced with, if it is. -/
  value : Option (Option String)
  /-- The cell is an edit to apply. -/
  applies : Bool
  conflict : Option OrgChartConflict
  notices : List Notice

/-- The current value is kept. -/
def ColumnMerge.keep (value : Option String) : ColumnMerge := ⟨some value, false, none, []⟩

/-- The cell is taken as it is. -/
def ColumnMerge.take : ColumnMerge := ⟨none, true, none, []⟩

/-- What an edited cell of a column that changed is reported with. -/
def columnConflict (row : UnitRowInput) (unit : SnapshotUnit) (column : StampColumn)
    (fileValue currentValue : Option String) : ColumnMerge :=
  let change := (context.lastChanges.get? unit.id).bind fun fields =>
    fields.get? (historyField column)
  let header := column.header
  let message := match change with
    | some change => "El " ++ env.formatWhen change.changedAt ++ byWhom change ++
        " se cambió la columna " ++ header ++ " de " ++ unit.name ++ " a " ++ shown currentValue ++
        ". Su archivo dice " ++ shown fileValue ++
        ". Descargue el organigrama de nuevo y repita su cambio."
    | none => "La columna " ++ header ++ " de " ++ unit.name ++ " cambió a " ++ shown currentValue ++
        " después de que descargó este archivo. Su archivo dice " ++ shown fileValue ++
        ". Descargue el organigrama de nuevo y repita su cambio."
  { value := some (keepValue column unit)
    applies := false
    conflict := some
      { rowNumber := row.rowNumber
        unitName := unit.name
        column := header
        fileValue
        currentValue
        changedAt := change.map ChangeInfo.changedAt
        changedBy := change.bind ChangeInfo.byName }
    notices := [unitError row.rowNumber (some header) message] }

/-- The current values of a unit; those of the file when it is not listed. -/
def currentValues (row : UnitRowInput) (unit : SnapshotUnit) : StampValues :=
  ((currentByCode env context).get? unit.code).getD (rowValues row)

/-- Merge one cell. -/
def mergeColumn (unchanged : Bool) (row : UnitRowInput) (unit : SnapshotUnit) (original : StampRow)
    (column : StampColumn) : ColumnMerge :=
  let file := rowValues row
  let current := currentValues env context row unit
  let originalPrint := original.columns column
  if column = .color && (file .color).isNone then .keep none
  else if column.isLater && originalPrint = "" then
    if sameValue env column (file column) (current column) then .keep (keepValue column unit)
    else .take
  else
    let touched := fingerprint env column (file column) ≠ originalPrint
    let equalsBase := sameValue env column (file column) (current column)
    let baseChanged := !unchanged && fingerprint env column (current column) ≠ originalPrint
    if !touched || equalsBase then .keep (keepValue column unit)
    else if !baseChanged then .take
    else columnConflict env context row unit column (file column) (current column)

/-- Merge a row with its stamp; a row without edits and without an action is dropped. -/
def mergeStampedWith (unchanged : Bool) (row : UnitRowInput) (unit : SnapshotUnit)
    (original : StampRow) : Option UnitRowInput × List OrgChartConflict × List Notice :=
  let merge := mergeColumn env context unchanged row unit original
  let applies := StampColumn.all.any fun column => (merge column).applies
  (if !applies && row.action.isNone then none
    else some (withValues row fun column => (merge column).value),
    StampColumn.all.filterMap fun column => (merge column).conflict,
    StampColumn.all.flatMap fun column => (merge column).notices)

/-- Merge a row with its stamp, by the digest of the stamp when that tells enough. -/
def mergeStamped (row : UnitRowInput) (unit : SnapshotUnit) (original : StampRow) :
    Option UnitRowInput × List OrgChartConflict × List Notice :=
  mergeStampedWith env context (unchangedSinceStamp env input context) row unit original

/-! ### Rows without a stamp -/

/-- An archived unit comes back only with a file newer than its archival. -/
def archivedGuard (row : UnitRowInput) (unit : SnapshotUnit) : UnitRowInput × List Notice :=
  if unit.isActive || (present row.status).bind (parseStatus env.unicode) ≠ some true ||
      (present row.action).isSome then (row, [])
  else
    let archived := (context.lastChanges.get? unit.id).bind fun fields => fields.get? .status
    match archived, fileDate input with
    | some change, some date =>
      if change.changedAt.time < date.time then (row, [])
      else ({ row with status := none }, [unitWarning row.rowNumber (some unitHeaders.status)
        (unit.name ++ " se archivó el " ++ env.formatWhen change.changedAt ++ byWhom change ++
          ", después de que se descargó este archivo. No se reactiva. Para reactivarla, descargue " ++
          "el organigrama actual y cambie el Estado.")])
    | _, _ => ({ row with status := none }, [unitWarning row.rowNumber (some unitHeaders.status)
        (unit.name ++ " está archivada y no se reactiva. Para reactivarla, descargue el " ++
          "organigrama actual y cambie el Estado.")])

/-! ### All the rows -/

/-- What the rows merged so far have left. -/
structure MergeState where
  units : List UnitRowInput
  stamplessCodes : ℕ
  newRowBySibling : KeyedMap String (ℕ × String)
  conflicts : List OrgChartConflict
  notices : List Notice

/-- The same with more to say. -/
def MergeState.note (state : MergeState) (notices : List Notice) : MergeState :=
  { state with notices := state.notices ++ notices }

/-- A row about no unit that exists. -/
def deletedWarning (row : UnitRowInput) (code : String) : Notice :=
  unitWarning row.rowNumber (some unitHeaders.code)
    (match (context.deletedUnits.get? code).or
        (context.deletedUnits.get? (env.unicode.toUpperCase code)) with
      | some deleted => (deleted.name.or row.name).getD code ++ " se eliminó el " ++
          env.formatWhen deleted.changedAt ++ byWhom deleted.toChangeInfo ++
          ". No se vuelve a crear. Para crearla de nuevo, borre su código interno."
      | none => "No hay ninguna dependencia con el código interno " ++ code ++
          ". Para crearla como nueva, borre su código interno.")

/-- Merge a row that names a unit by its internal code. -/
def mergeCodedRow (state : MergeState) (row : UnitRowInput) (code : String) : MergeState :=
  match findByCode env.unicode context.units code with
  | none => state.note [deletedWarning env context row code]
  | some unit =>
    match (stampByCode input).get? unit.code with
    | some original =>
      let merged := mergeStamped env input context row unit original
      { state with
        units := state.units ++ merged.1.toList
        conflicts := state.conflicts ++ merged.2.1
        notices := state.notices ++ merged.2.2 }
    | none =>
      let guarded := archivedGuard env input context row unit
      { state with
        units := state.units ++ [guarded.1]
        stamplessCodes := state.stamplessCodes + 1
        notices := state.notices ++ guarded.2 }

/-- What tells the new units of a file apart: place and name. -/
def siblingKey (row : UnitRowInput) (name : String) : String :=
  (match resolveParentId env context row.parent with
    | none => "text:" ++ normalizeText env.unicode (row.parent.getD "")
    | some parentId => "id:" ++ (parentId.map RowId.text).getD "") ++ "|" ++ name

/-- Merge a row that has neither a code nor a prefix: it is new unless its name is
taken in its place. -/
def mergeNamedRow (state : MergeState) (row : UnitRowInput) (rowName : String) : MergeState :=
  let parentId := resolveParentId env context row.parent
  let name := normalizeText env.unicode rowName
  let key := siblingKey env context row name
  match state.newRowBySibling.get? key with
  | some earlier =>
    let place := unitPlace (match parentId with
      | none => row.parent
      | some parentId => parentName context parentId)
    state.note [unitError row.rowNumber (some unitHeaders.name)
      ("La fila " ++ toString earlier.1 ++ " ya crea " ++ earlier.2 ++ " " ++ place ++
        ". Si es la misma, borre esta fila. Si es otra, póngale prefijo o un nombre distinto.")]
  | none =>
    let existing := parentId.bind fun parentId =>
      (context.units.filter SnapshotUnit.isActive).find? fun unit => unit.parentId = parentId &&
        normalizeText env.unicode unit.name = name && !leavesPlace env input context unit
    match existing with
    | some existing =>
      let afterFile := match context.unitOrigins.get? existing.id, fileDate input with
        | some origin, some date => decide (origin.changedAt.time ≥ date.time)
        | _, _ => false
      state.note [unitError row.rowNumber (some unitHeaders.name)
        (existingSiblingText existing.name (parentName context existing.parentId)
            (present (createdText env context existing)).toList ++
          ". Si es la misma, copie su código interno " ++ existing.code ++
          " en la fila. Si es otra, póngale prefijo o un nombre distinto." ++
          if afterFile then " Se creó después de que se descargó este archivo. Si ya lo subió " ++
            "antes, esta fila ya está aplicada." else "")]
    | none =>
      { state with
        units := state.units ++ [row]
        newRowBySibling := state.newRowBySibling.set key (row.rowNumber, rowName) }

/-- Merge one row. -/
def mergeRow (state : MergeState) (row : UnitRowInput) : MergeState :=
  if isTemplateExample env row then
    state.note [unitWarning row.rowNumber none "Es la fila de ejemplo de la plantilla. Se ignora."]
  else
    match present row.code with
    | some code => mergeCodedRow env input context state row code
    | none =>
      match (present row.codePrefix).filter prefixPattern with
      | some text =>
        { state with
          units := state.units ++ [row]
          notices := state.notices ++
            match findByPrefix context.units text with
            | some existing => [unitWarning row.rowNumber (some unitHeaders.codePrefix)
                ("El prefijo " ++ text ++ " ya es de " ++ existing.name ++
                  createdNote env context existing ++ ". La fila se toma como esa dependencia.")]
            | none => [] }
      | none =>
        match present row.name with
        | some name =>
          if row.codePrefix.isNone && row.action.isNone then
            mergeNamedRow env input context state row name
          else { state with units := state.units ++ [row] }
        | none => { state with units := state.units ++ [row] }

/-- What is said of the file as a whole, before its rows. -/
def fileNotices : List Notice :=
  (match input.stamp, fileAgeDays input context with
    | some stamp, some days =>
      if days > staleFileDays then
        [unitWarning 1 none ("Este archivo se descargó hace " ++ toString days ++ " días, el " ++
          env.formatDay stamp.exportedAt ++
          ". Si alguien cambió el organigrama desde entonces, descargue la versión actual.")]
      else []
    | _, _ => []) ++
    if input.invalidStamp then
      [unitWarning 1 none
        "El sello oculto del archivo está dañado. Se revisará como un archivo sin sello."]
    else []

/-- The rows merged, from the first. -/
def mergeRows : MergeState :=
  input.units.foldl (mergeRow env input context)
    { units := [], stamplessCodes := 0, newRowBySibling := .empty, conflicts := []
      notices := fileNotices env input context }

/-- Merge a file with what changed since it was downloaded. -/
def mergeOrgChartInput : MergeResult :=
  let state := mergeRows env input context
  let notices := state.notices ++
    if input.stamp.isNone && state.stamplessCodes > 0 then
      [unitWarning 1 none ("Este archivo no tiene el sello de descarga. Las filas con código " ++
        "interno se aplican tal como vienen y pueden deshacer cambios de otras personas. Para " ++
        "evitarlo, descargue el organigrama actual.")]
    else []
  { input := { input with units := state.units }
    errors := issuesOf .error notices
    warnings := issuesOf .warning notices
    conflicts := state.conflicts
    fileAgeDays := fileAgeDays input context }

/-! ### Where the rows left come from -/

/-- What a row of the file is left as, if it is left: a row with a code as the
stamp of its unit or the guard of archived units leaves it, any other as it is. -/
def MergedFrom (row merged : UnitRowInput) : Prop :=
  match present row.code with
  | none => merged = row
  | some code => ∃ unit, findByCode env.unicode context.units code = some unit ∧
      match (stampByCode input).get? unit.code with
      | some original => (mergeStamped env input context row unit original).1 = some merged
      | none => merged = (archivedGuard env input context row unit).1

/-- The rows that one row leaves come from it, and those left before are kept. -/
def LeavesFrom (row : UnitRowInput) (before after : List UnitRowInput) : Prop :=
  ∃ rows, after = before ++ rows ∧ ∀ merged ∈ rows, MergedFrom env input context row merged

theorem leavesFrom_nothing (row : UnitRowInput) (units : List UnitRowInput) :
    LeavesFrom env input context row units units :=
  ⟨[], (List.append_nil units).symm, fun _ hmerged => absurd hmerged List.not_mem_nil⟩

theorem leavesFrom_itself {row : UnitRowInput} (hcode : present row.code = none)
    (units : List UnitRowInput) : LeavesFrom env input context row units (units ++ [row]) := by
  refine ⟨[row], rfl, fun merged hmerged => ?_⟩
  rw [MergedFrom, hcode]
  exact List.mem_singleton.mp hmerged

theorem mergeCodedRow_units (state : MergeState) {row : UnitRowInput} {code : String}
    (hcode : present row.code = some code) : LeavesFrom env input context row state.units
      (mergeCodedRow env input context state row code).units := by
  unfold mergeCodedRow
  cases hunit : findByCode env.unicode context.units code with
  | none => exact leavesFrom_nothing env input context row state.units
  | some unit =>
    dsimp only
    cases horiginal : (stampByCode input).get? unit.code with
    | none =>
      refine ⟨_, rfl, fun merged hmerged => ?_⟩
      rw [MergedFrom, hcode]
      refine ⟨unit, hunit, ?_⟩
      rw [horiginal]
      exact List.mem_singleton.mp hmerged
    | some original =>
      refine ⟨_, rfl, fun merged hmerged => ?_⟩
      rw [MergedFrom, hcode]
      refine ⟨unit, hunit, ?_⟩
      rw [horiginal]
      exact Option.mem_toList.mp hmerged

theorem mergeNamedRow_units (state : MergeState) {row : UnitRowInput} (rowName : String)
    (hcode : present row.code = none) : LeavesFrom env input context row state.units
      (mergeNamedRow env input context state row rowName).units := by
  unfold mergeNamedRow
  dsimp only
  split
  · exact leavesFrom_nothing env input context row state.units
  · split
    · exact leavesFrom_nothing env input context row state.units
    · exact leavesFrom_itself env input context hcode state.units

theorem mergeRow_units (state : MergeState) (row : UnitRowInput) :
    LeavesFrom env input context row state.units (mergeRow env input context state row).units := by
  unfold mergeRow
  split
  · exact leavesFrom_nothing env input context row state.units
  · cases hcode : present row.code with
    | some code => exact mergeCodedRow_units env input context state hcode
    | none =>
      dsimp only
      have hitself := leavesFrom_itself env input context hcode state.units
      split
      · exact hitself
      · split
        · split
          · exact mergeNamedRow_units env input context state _ hcode
          · exact hitself
        · exact hitself

/-- Every row left comes from a row of the file. -/
theorem exists_of_mem_mergeRows {merged : UnitRowInput}
    (h : merged ∈ (mergeOrgChartInput env input context).input.units) :
    ∃ row ∈ input.units, MergedFrom env input context row merged := by
  have hrun : ∀ merged ∈ (mergeRows env input context).units,
      ∃ row ∈ input.units, MergedFrom env input context row merged := by
    unfold mergeRows
    refine List.foldlRecOn (motive := fun state : MergeState => ∀ merged ∈ state.units,
      ∃ row ∈ input.units, MergedFrom env input context row merged) input.units _ ?_ ?_
    · exact fun _ hmerged => absurd hmerged List.not_mem_nil
    · intro state hstate row hrow merged hmerged
      obtain ⟨rows, hunits, hfrom⟩ := mergeRow_units env input context state row
      rw [hunits, List.mem_append] at hmerged
      rcases hmerged with hbefore | hnew
      · exact hstate merged hbefore
      · exact ⟨row, hrow, hfrom merged hnew⟩
  exact hrun merged h

end InternalControl.OrgChart
