import InternalControl.OrgChartStamp

/-!
# From the rows of a workbook to the units and centres asked for

Each row is read on its own: what its cells say, which stored unit or centre
it names, and what is wrong with it. The rows are then placed one after the
other over the stored units and centres; a second row about the same one is
refused.
-/

namespace InternalControl.OrgChart

open Text CodePrefix

/-- The key of a unit or centre in a plan: the id of a stored one, or the code
of a new one. -/
inductive PlanKey where
  | stored (id : RowId)
  | new (code : String)
  deriving DecidableEq

/-- The key as a text. -/
def PlanKey.text : PlanKey → String
  | .stored id => id.text
  | .new code => "new:" ++ code

/-- A unit as the file leaves it. -/
structure FinalUnit where
  key : PlanKey
  existingId : Option RowId
  rowNumber : Option ℕ
  code : String
  name : String
  unitType : OrgUnitType
  relationType : OrgRelationType
  codePrefix : Option String
  rawPrefix : Option String
  parentKey : Option PlanKey
  headCenterKey : Option PlanKey
  headCenterCode : Option String
  color : Option String
  isActive : Bool
  removal : Option RowAction
  parentText : Option String
  headCenterText : Option String
  deriving DecidableEq

/-- A stored unit that no row has touched. -/
def FinalUnit.ofSnapshot (unit : SnapshotUnit) : FinalUnit :=
  { key := .stored unit.id
    existingId := some unit.id
    rowNumber := none
    code := unit.code
    name := unit.name
    unitType := unit.unitType
    relationType := unit.relationType
    codePrefix := unit.codePrefix
    rawPrefix := unit.codePrefix
    parentKey := unit.parentId.map .stored
    headCenterKey := unit.headCostCenterId.map .stored
    headCenterCode := unit.headCostCenterCode
    color := unit.color
    isActive := unit.isActive
    removal := none
    parentText := none
    headCenterText := none }

/-- Active and not marked to leave. -/
def isLiveUnit (unit : FinalUnit) : Bool := unit.isActive && unit.removal.isNone

/-- A cost centre as the file leaves it. -/
structure FinalCenter where
  key : PlanKey
  existingId : Option RowId
  rowNumber : Option ℕ
  code : String
  previousCode : Option String
  name : String
  hasMovement : Bool
  isActive : Bool
  unitKey : Option PlanKey
  parentKey : Option PlanKey
  removal : Option RowAction
  activeAssets : ℕ
  deriving DecidableEq

/-- A stored centre that no row has touched. -/
def FinalCenter.ofSnapshot (center : SnapshotCenter) : FinalCenter :=
  { key := .stored center.id
    existingId := some center.id
    rowNumber := none
    code := center.externalCode
    previousCode := none
    name := center.name
    hasMovement := center.hasMovement
    isActive := center.isActive
    unitKey := center.unitId.map .stored
    parentKey := center.parentId.map .stored
    removal := none
    activeAssets := center.activeAssets }

/-- Active and not marked to leave. -/
def isLiveCenter (center : FinalCenter) : Bool := center.isActive && center.removal.isNone

/-! ### Lookups among the stored units and centres -/

variable (unicode : Unicode)

/-- The unit with a code. -/
def unitByCode (units : List SnapshotUnit) : KeyedMap String SnapshotUnit :=
  KeyedMap.index SnapshotUnit.code units

/-- The unit with a code, or with the code in capitals. -/
def findByCode (units : List SnapshotUnit) (code : String) : Option SnapshotUnit :=
  ((unitByCode units).get? code).or ((unitByCode units).get? (unicode.toUpperCase code))

/-- The active unit with a prefix. -/
def activeUnitByPrefix (units : List SnapshotUnit) : KeyedMap String SnapshotUnit :=
  KeyedMap.ofList ((units.filter fun unit => unit.isActive && (present unit.codePrefix).isSome).map
    fun unit => (unit.codePrefix.getD "", unit))

/-- The active unit with a prefix, as written or as an accounting code. -/
def findByPrefix (units : List SnapshotUnit) (text : String) : Option SnapshotUnit :=
  ((activeUnitByPrefix units).get? text).or
    ((activeUnitByPrefix units).get? (normalizeUnitPrefix text))

/-- The centre with a code. -/
def centerByCode (centers : List SnapshotCenter) : KeyedMap String SnapshotCenter :=
  KeyedMap.index SnapshotCenter.externalCode centers

/-! ### The checks that both sheets make -/

/-- Make an issue about a row, a column and a message. -/
abbrev MakeNotice := ℕ → Option String → String → Notice

/-- A name is there and is not too long. -/
def nameIssues (error : MakeNotice) (column : String) (rowNumber : ℕ) (name : Option String) :
    List Notice :=
  match present name with
  | none => [error rowNumber (some column) "Escriba el nombre."]
  | some text =>
    if utf16Length text > nameMax then
      [error rowNumber (some column) ("Use hasta " ++ toString nameMax ++ " caracteres.")]
    else []

/-- A cell that says something says something that is understood. -/
def cellIssues {α : Type} (error : MakeNotice) (column : String) (rowNumber : ℕ)
    (cell : Option String) (value : Option α) (message : String → String) : List Notice :=
  match present cell, value with
  | some text, none => [error rowNumber (some column) (message text)]
  | _, _ => []

/-- The state of a row. -/
def statusIssues (error : MakeNotice) (column : String) (rowNumber : ℕ) (cell : Option String) :
    List Notice :=
  cellIssues error column rowNumber cell ((present cell).bind (parseStatus unicode)) fun text =>
    "El estado " ++ text ++ " no existe. Use Activo o Archivado."

/-- The action of a row. -/
def actionIssues (error : MakeNotice) (column : String) (rowNumber : ℕ) (cell : Option String) :
    List Notice :=
  cellIssues error column rowNumber cell ((present cell).bind (parseAction unicode)) fun text =>
    "La acción " ++ text ++ " no existe. Use ELIMINAR, ARCHIVAR o deje la celda vacía."

/-! ### What a row of the sheet of units says -/

section UnitRow

variable (row : UnitRowInput)

/-- Nothing in any cell. -/
def isBlankUnitRow : Bool :=
  [row.codePrefix, row.name, row.type, row.parent, row.relation, row.headCenter, row.color,
    row.status, row.action, row.code].all Option.isNone

/-- The row takes the prefix away. -/
def prefixRemoved : Bool := row.codePrefix.any (isNoneText unicode)

/-- The kind the row gives. -/
def rowType : Option OrgUnitType := (present row.type).bind (parseUnitType unicode)

/-- The line the row gives. -/
def rowRelation : Option OrgRelationType := (present row.relation).bind (parseRelation unicode)

/-- The row takes the colour away. -/
def colorRemoved : Bool := row.color.any (isNoneText unicode)

/-- The colour the row gives. -/
def rowColor : Option String :=
  if colorRemoved unicode row then none else (present row.color).bind parseUnitColor

/-- The state the row gives. -/
def rowStatus : Option Bool := (present row.status).bind (parseStatus unicode)

/-- The action the row asks for. -/
def rowAction : Option RowAction := (present row.action).bind (parseAction unicode)

variable (units : List SnapshotUnit)

/-- The unit the row names by its internal code. -/
def rowNamed : Option SnapshotUnit := (present row.code).bind (findByCode unicode units)

/-- The internal code of the row, in capitals when no unit has it. -/
def rowCode : Option String :=
  (present row.code).map fun text =>
    ((rowNamed unicode row units).map SnapshotUnit.code).getD (unicode.toUpperCase text)

/-- The unit the row is about: the one it names, or without a code the active
one with its prefix. -/
def rowExisting : Option SnapshotUnit :=
  (rowNamed unicode row units).or
    (if (present (rowCode unicode row units)).isNone && !prefixRemoved unicode row then
      (present row.codePrefix).bind (findByPrefix units)
    else none)

/-- The prefix the row writes. -/
def filePrefix : Option String := if prefixRemoved unicode row then none else row.codePrefix

/-- The prefix the unit ends with: a blank cell keeps the old one. -/
def rowPrefix : Option String :=
  let before := (rowExisting unicode row units).bind SnapshotUnit.codePrefix
  match present (filePrefix unicode row) with
  | none => if prefixRemoved unicode row then none else before
  | some text => if before ≠ some text then some (normalizeUnitPrefix text) else some text

/-- The prefix has one to four digits. -/
def prefixIssues : List Notice :=
  match present row.codePrefix with
  | none => []
  | some text =>
    if !prefixRemoved unicode row && !prefixPattern text then
      [unitError row.rowNumber (some unitHeaders.codePrefix)
        (text ++ " no es un prefijo válido. Escriba de 1 a 4 números.")]
    else []

/-- A code that no unit has is a code that a unit may have. -/
def codeIssues : List Notice :=
  match rowNamed unicode row units, present (rowCode unicode row units) with
  | none, some code =>
    if !unitCodePattern code || utf16Length code > unitCodeMax then
      [unitError row.rowNumber (some unitHeaders.code)
        (row.code.getD "" ++ " no es un código interno válido. Use mayúsculas sin tildes, números " ++
          "y guion bajo, hasta " ++ toString unitCodeMax ++ ".")]
    else []
  | _, _ => []

/-- What is wrong with the cells of a row. -/
def unitRowIssues : List Notice :=
  nameIssues unitError unitHeaders.name row.rowNumber row.name ++
    prefixIssues unicode row ++
    cellIssues unitError unitHeaders.type row.rowNumber row.type (rowType unicode row)
      (fun text => "El tipo " ++ text ++ " no existe. Use uno de estos: " ++ unitTypeOptions ++ ".") ++
    cellIssues unitError unitHeaders.relation row.rowNumber row.relation (rowRelation unicode row)
      (fun text => "La línea " ++ text ++ " no existe. Use Autoridad, Asesoría o Coordinación.") ++
    (if colorRemoved unicode row then []
      else cellIssues unitError unitHeaders.color row.rowNumber row.color (rowColor unicode row)
        fun text => text ++ " no es un color válido. Use el formato #RRGGBB o escriba NINGUNO para " ++
          "quitarlo.") ++
    statusIssues unicode unitError unitHeaders.status row.rowNumber row.status ++
    actionIssues unicode unitError unitHeaders.action row.rowNumber row.action ++
    codeIssues unicode row units

/-- The unit as the row leaves it; `current` is what the plan has of it so far. -/
def rowUnit (key : PlanKey) (code : String) (current : Option FinalUnit) : FinalUnit :=
  { key
    existingId := (rowExisting unicode row units).map SnapshotUnit.id
    rowNumber := some row.rowNumber
    code
    name := row.name.getD ""
    unitType := ((rowType unicode row).or (current.map FinalUnit.unitType)).getD .dependency
    relationType := ((rowRelation unicode row).or (current.map FinalUnit.relationType)).getD .authority
    codePrefix := rowPrefix unicode row units
    rawPrefix := (filePrefix unicode row).or (rowPrefix unicode row units)
    parentKey := current.bind FinalUnit.parentKey
    headCenterKey := current.bind FinalUnit.headCenterKey
    headCenterCode := current.bind FinalUnit.headCenterCode
    color := if colorRemoved unicode row then none
      else (rowColor unicode row).or (current.bind FinalUnit.color)
    isActive := if rowAction unicode row = some .archive then false
      else ((rowStatus unicode row).or (current.map FinalUnit.isActive)).getD true
    removal := rowAction unicode row
    parentText := row.parent
    headCenterText := row.headCenter }

end UnitRow

/-! ### Codes for new units -/

/-- Every run of characters that a code cannot have becomes one underscore. -/
def underscored : List Char → List Char
  | [] => []
  | c :: rest =>
    if c.isUpper || c.isDigit then c :: underscored rest
    else
      match underscored rest with
      | '_' :: tail => '_' :: tail
      | slug => '_' :: slug

/-- The name in capitals, digits and underscores. -/
def asciiSlug (name : String) : String :=
  let plain := String.ofList ((unicode.normalizeNFD name).toList.filter fun c => !isCombiningMark c)
  String.ofList (dropEnd (· == '_')
    ((underscored (unicode.toUpperCase plain).toList).dropWhile (· == '_')))

/-- The code to try first. -/
def unitCodeBase (prefixText : Option String) (name : String) : String :=
  let slug := asciiSlug unicode name
  let base := match present prefixText with
    | some text => "U" ++ text
    | none => if slug.toList.head?.any Char.isUpper then slug else "U_" ++ slug
  let trimmed := String.ofList (dropEnd (· == '_') (base.toList.take unitCodeMax))
  (present (some trimmed)).getD "UNIDAD"

/-- The code with a number behind it; a tail beyond the length cuts from the end. -/
def unitCodeCandidate (trimmed : String) (suffix : ℕ) : String :=
  let tail := "_" ++ toString suffix
  let kept := if tail.length ≤ unitCodeMax then unitCodeMax - tail.length
    else trimmed.length - (tail.length - unitCodeMax)
  String.ofList (trimmed.toList.take kept) ++ tail

/-- The first code not in use: as it is, or with the first free number from 2 on.
One of as many numbers as there are codes in use, and one more, is free. -/
def generateUnitCode (prefixText : Option String) (name : String) (used : List String) : String :=
  let trimmed := unitCodeBase unicode prefixText name
  if trimmed ∉ used then trimmed
  else
    (((List.range (used.length + 1)).map fun n => unitCodeCandidate trimmed (n + 2)).find? fun code =>
      code ∉ used).getD trimmed

/-! ### The rows of the sheet of units -/

/-- What the rows read so far have left. -/
structure UnitRows where
  units : KeyedMap PlanKey FinalUnit
  usedUnitCodes : List String
  unitRows : KeyedMap PlanKey ℕ
  notices : List Notice

/-- Before the first row. -/
def UnitRows.start (units : List SnapshotUnit) : UnitRows :=
  { units := KeyedMap.index FinalUnit.key (units.map FinalUnit.ofSnapshot)
    usedUnitCodes := units.map SnapshotUnit.code
    unitRows := .empty
    notices := [] }

/-- The same with more to say. -/
def UnitRows.note (state : UnitRows) (notices : List Notice) : UnitRows :=
  { state with notices := state.notices ++ notices }

section PlaceUnitRow

variable (units : List SnapshotUnit) (row : UnitRowInput)

/-- The code the row's unit has or gets. -/
def unitRowCode (used : List String) : String :=
  match rowExisting unicode row units with
  | some unit => unit.code
  | none => (rowCode unicode row units).getD
      (generateUnitCode unicode (rowPrefix unicode row units) (row.name.getD "") used)

/-- The key of the row's unit. -/
def unitRowKey (code : String) : PlanKey :=
  match rowExisting unicode row units with
  | some unit => .stored unit.id
  | none => .new code

/-- A prefix that is not taken as written. -/
def prefixNotices : List Notice :=
  match present (filePrefix unicode row) with
  | some text =>
    if rowPrefix unicode row units ≠ some text then
      [unitWarning row.rowNumber (some unitHeaders.codePrefix)
        (text ++ " se tomó como el prefijo " ++ (rowPrefix unicode row units).getD "" ++ ".")]
    else []
  | none => []

/-- Place a row whose cells are in order. -/
def placeUnitRow (state : UnitRows) : UnitRows :=
  let existing := rowExisting unicode row units
  let code := unitRowCode unicode units row state.usedUnitCodes
  let key := unitRowKey unicode units row code
  let usedUnitCodes := if existing.isNone then code :: state.usedUnitCodes else state.usedUnitCodes
  match state.unitRows.get? key with
  | some previousRow =>
    { state with
      usedUnitCodes
      notices := state.notices ++ [unitError row.rowNumber
        (some (if existing.isSome then unitHeaders.code else unitHeaders.codePrefix))
        ("Esta dependencia ya está en la fila " ++ toString previousRow ++ ".")] }
  | none =>
    { units := state.units.set key (rowUnit unicode row units key code (state.units.get? key))
      usedUnitCodes
      unitRows := state.unitRows.set key row.rowNumber
      notices := state.notices ++ prefixNotices unicode units row }

/-- Read one row. -/
def readUnitRow (state : UnitRows) : UnitRows :=
  let existing := rowExisting unicode row units
  if isBlankUnitRow row then state
  else if !(unitRowIssues unicode row units).isEmpty then
    state.note (unitRowIssues unicode row units)
  else if existing.isNone && (rowAction unicode row).isSome then
    state.note [unitWarning row.rowNumber (some unitHeaders.action)
      "Esta fila es nueva y pide eliminar o archivar. Se ignora."]
  else if existing.isNone && (rowType unicode row).isNone then
    state.note [unitError row.rowNumber (some unitHeaders.type)
      "Escriba el tipo de la dependencia nueva."]
  else placeUnitRow unicode units row state

end PlaceUnitRow

/-- The rows of the sheet of units that are read. -/
def unitSheetRows (input : OrgChartInput) : List UnitRowInput :=
  if input.hasUnitSheet then input.units else []

/-- Read all the rows, from the first. -/
def readUnitRows (units : List SnapshotUnit) (rows : List UnitRowInput) : UnitRows :=
  rows.foldl (fun state row => readUnitRow unicode units row state) (.start units)

/-! ### The rows of the sheet of centres -/

/-- Nothing in any cell. -/
def isBlankCenterRow (row : CenterRowInput) : Bool :=
  [row.code, row.name, row.movement, row.status, row.action, row.previousCode].all Option.isNone

/-- What the rows read so far have left. -/
structure CenterRows where
  centers : KeyedMap PlanKey FinalCenter
  centerRows : KeyedMap PlanKey ℕ
  codeRows : KeyedMap String ℕ
  notices : List Notice

/-- Before the first row. -/
def CenterRows.start (centers : List SnapshotCenter) : CenterRows :=
  { centers := KeyedMap.index FinalCenter.key (centers.map FinalCenter.ofSnapshot)
    centerRows := .empty
    codeRows := .empty
    notices := [] }

/-- The same with more to say. -/
def CenterRows.note (state : CenterRows) (notices : List Notice) : CenterRows :=
  { state with notices := state.notices ++ notices }

section CenterRow

variable (centers : List SnapshotCenter) (row : CenterRowInput)

/-- Whether the centre receives movements, as the row says. -/
def rowMovement : Option Bool := (present row.movement).bind (parseMovement unicode)

/-- The state the row gives. -/
def centerRowStatus : Option Bool := (present row.status).bind (parseStatus unicode)

/-- The action the row asks for. -/
def centerRowAction : Option RowAction := (present row.action).bind (parseAction unicode)

/-- The code the centre had, when the row changes it. -/
def rowPreviousCode (code : String) : Option String :=
  (present row.previousCode).filter fun previous => previous ≠ code

/-- The centre the row is about. -/
def centerRowExisting (code : String) : Option SnapshotCenter :=
  match rowPreviousCode row code with
  | some previous => (centerByCode centers).get? previous
  | none => (centerByCode centers).get? code

/-- The code of a new centre is a number. -/
def centerCodeIssues (code : String) : List Notice :=
  if !centerCodePattern code &&
      (!(centerByCode centers).has code || (present row.previousCode).isSome) then
    [centerError row.rowNumber (some centerHeaders.code)
      (code ++ " no es un código de centro de costo. Escriba solo números.")]
  else []

/-- A centre that changes its code exists, and nobody has the new code. -/
def previousCodeIssues (code : String) : List Notice :=
  match rowPreviousCode row code with
  | none => []
  | some previous =>
    match (centerByCode centers).get? previous, (centerByCode centers).get? code with
    | none, _ =>
      [centerError row.rowNumber (some centerHeaders.previousCode)
        ("No existe el centro " ++ previous ++ ".")]
    | some _, some holder =>
      [centerError row.rowNumber (some centerHeaders.code)
        ("El código " ++ code ++ " ya es de " ++ holder.name ++ ".")]
    | some _, none => []

/-- No row before has the code. -/
def repeatedCodeIssues (code : String) (codeRows : KeyedMap String ℕ) : List Notice :=
  match codeRows.get? code with
  | none => []
  | some codeRow =>
    [centerError row.rowNumber (some centerHeaders.code)
      ("El código " ++ code ++ " ya está en la fila " ++ toString codeRow ++ ".")]

/-- What is wrong with the cells of a row. -/
def centerRowIssues (code : String) (codeRows : KeyedMap String ℕ) : List Notice :=
  nameIssues centerError centerHeaders.name row.rowNumber row.name ++
    cellIssues centerError centerHeaders.movement row.rowNumber row.movement (rowMovement unicode row)
      (fun text => "El movimiento " ++ text ++
        " no existe. Use 1 si recibe movimientos o 0 si es agrupador.") ++
    statusIssues unicode centerError centerHeaders.status row.rowNumber row.status ++
    actionIssues unicode centerError centerHeaders.action row.rowNumber row.action ++
    previousCodeIssues centers row code ++
    repeatedCodeIssues row code codeRows

/-- The centre as the row leaves it. -/
def rowCenter (key : PlanKey) (code : String) (current : Option FinalCenter) : FinalCenter :=
  let existing := centerRowExisting centers row code
  { key
    existingId := existing.map SnapshotCenter.id
    rowNumber := some row.rowNumber
    code
    previousCode := if (rowPreviousCode row code).isSome then existing.map SnapshotCenter.externalCode
      else none
    name := row.name.getD ""
    hasMovement := ((rowMovement unicode row).or (current.map FinalCenter.hasMovement)).getD true
    isActive := if centerRowAction unicode row = some .archive then false
      else ((centerRowStatus unicode row).or (current.map FinalCenter.isActive)).getD true
    unitKey := current.bind FinalCenter.unitKey
    parentKey := current.bind FinalCenter.parentKey
    removal := centerRowAction unicode row
    activeAssets := (existing.map SnapshotCenter.activeAssets).getD 0 }

/-- Place a row whose cells are in order. -/
def placeCenterRow (code : String) (state : CenterRows) : CenterRows :=
  let existing := centerRowExisting centers row code
  let key := match existing with
    | some center => PlanKey.stored center.id
    | none => .new code
  match state.centerRows.get? key with
  | some previousRow =>
    state.note [centerError row.rowNumber (some centerHeaders.previousCode)
      ("Este centro ya está en la fila " ++ toString previousRow ++ ".")]
  | none =>
    { centers := state.centers.set key (rowCenter unicode centers row key code (state.centers.get? key))
      centerRows := state.centerRows.set key row.rowNumber
      codeRows := state.codeRows
      notices := state.notices ++
        if isDetailCode code then []
        else [centerWarning row.rowNumber (some centerHeaders.code)
          ("El código " ++ code ++ " no tiene cuatro dígitos. Queda sin centro padre.")] }

/-- Read one row. -/
def readCenterRow (state : CenterRows) : CenterRows :=
  if isBlankCenterRow row then state
  else
    match present row.code with
    | none => state.note [centerError row.rowNumber (some centerHeaders.code) "Escriba el código."]
    | some code =>
      if !(centerCodeIssues centers row code).isEmpty then
        state.note (centerCodeIssues centers row code)
      else
        let issues := centerRowIssues unicode centers row code state.codeRows
        let seen := { state with codeRows := state.codeRows.set code row.rowNumber }
        if !issues.isEmpty then seen.note issues
        else if (centerRowExisting centers row code).isNone && (centerRowAction unicode row).isSome then
          seen.note [centerWarning row.rowNumber (some centerHeaders.action)
            "Esta fila es nueva y pide eliminar o archivar. Se ignora."]
        else placeCenterRow unicode centers row code seen

end CenterRow

/-- Read all the rows of the sheet of centres, from the first. -/
def readCenterRows (centers : List SnapshotCenter) (input : OrgChartInput) : CenterRows :=
  (if input.hasCenterSheet then input.centers else []).foldl
    (fun state row => readCenterRow unicode centers row state) (.start centers)

end InternalControl.OrgChart
