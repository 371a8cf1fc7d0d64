import InternalControl.OrgChartRows
import InternalControl.ParentMap

/-!
# The plan of an organisation chart

After the rows are placed, passes over the units and the centres settle the
own centres, the parents and the places of the centres, check names, loops and
prefixes, and turn removals of units with a history into archivals. What
differs from the stored state becomes the operations of the plan.
-/

namespace InternalControl.OrgChart

open Text CodePrefix

/-- The units of a plan by key. -/
abbrev UnitMap := KeyedMap PlanKey FinalUnit

/-- The centres of a plan by key. -/
abbrev CenterMap := KeyedMap PlanKey FinalCenter

variable (env : Runtime) (snapshot : OrgChartSnapshot) (input : OrgChartInput)

/-- The stored unit behind a unit of the plan. -/
def storedUnit (unit : FinalUnit) : Option SnapshotUnit :=
  unit.existingId.bind (unitById snapshot.units).get?

/-- The stored centre behind a centre of the plan. -/
def storedCenter (center : FinalCenter) : Option SnapshotCenter :=
  center.existingId.bind (centerById snapshot.centers).get?

/-! ### Own centres -/

/-- The live centre with a code. -/
def liveCenterByCode (centers : CenterMap) : KeyedMap String FinalCenter :=
  KeyedMap.index FinalCenter.code (centers.values.filter isLiveCenter)

/-- What the file says of a unit's own centre. -/
structure HeadChoice where
  headCenterKey : Option PlanKey
  headCenterCode : Option String
  notices : List Notice
  /-- The row names a centre that is there. -/
  isExplicit : Bool

/-- The centre that a prefix stands for. -/
def deducedHead (centers : CenterMap) (unit : FinalUnit) : Option FinalCenter :=
  let byCode := ((present unit.rawPrefix).filter isDetailCode).bind (liveCenterByCode centers).get?
  let byRoot := if unit.existingId.isNone then
      (unit.codePrefix.filter fun text => utf16Length text = 1).bind fun text =>
        (liveCenterByCode centers).get? (text ++ "010")
    else none
  byCode.or byRoot

/-- Whether a blank cell lets the prefix choose the own centre. -/
def headDeducible (unit : FinalUnit) : Bool :=
  match storedUnit snapshot unit with
  | none => true
  | some before => unit.headCenterKey.isNone && (present unit.headCenterCode).isNone &&
      before.codePrefix ≠ unit.codePrefix

/-- The unit keeps the own centre it has. -/
def HeadChoice.keep (unit : FinalUnit) (notices : List Notice) : HeadChoice :=
  ⟨unit.headCenterKey, unit.headCenterCode, notices, false⟩

/-- The own centre of a unit, by the cell of its row. -/
def headChoice (centers : CenterMap) (unit : FinalUnit) : HeadChoice :=
  match unit.rowNumber, present unit.headCenterText with
  | none, _ => .keep unit []
  | some rowNumber, none =>
    if headDeducible snapshot unit && !isCollegiateBody unit.unitType then
      match deducedHead centers unit with
      | some deduced => ⟨some deduced.key, some deduced.code,
          [unitWarning rowNumber (some unitHeaders.headCenter)
            ("Se tomó el centro propio " ++ deduced.code ++ ".")], false⟩
      | none => .keep unit []
    else .keep unit []
  | some rowNumber, some text =>
    if isNoneText env.unicode text then ⟨none, none, [], false⟩
    else if isCollegiateBody unit.unitType then
      .keep unit [unitError rowNumber (some unitHeaders.headCenter)
        "Los consejos, comités y comisiones no llevan centro propio."]
    else
      match ((liveCenterByCode centers).get? text).filter isLiveCenter with
      | some head => ⟨some head.key, some head.code, [], true⟩
      | none =>
        if !headCenterCodePattern text then
          .keep unit [unitError rowNumber (some unitHeaders.headCenter)
            (text ++ " no es un código de centro de costo. Escriba solo números, hasta 20.")]
        else
          let archived := centers.values.any fun center => center.code = text
          ⟨none, some text, [unitWarning rowNumber (some unitHeaders.headCenter)
            (pendingHeadCenterMessage text archived)], false⟩

/-- The unit with its own centre settled. -/
def withHead (centers : CenterMap) (unit : FinalUnit) : FinalUnit :=
  let choice := headChoice env snapshot centers unit
  { unit with headCenterKey := choice.headCenterKey, headCenterCode := choice.headCenterCode }

/-! ### Prefixes and who holds them -/

/-- The holder of each prefix found so far, and what was said on the way. -/
structure PrefixHolders where
  holders : KeyedMap String FinalUnit
  notices : List Notice

/-- A live unit takes its prefix unless another one holds it. -/
def holdPrefix (state : PrefixHolders) (unit : FinalUnit) : PrefixHolders :=
  match isLiveUnit unit, present unit.codePrefix with
  | true, some text =>
    match state.holders.get? text with
    | none => { state with holders := state.holders.set text unit }
    | some holder =>
      let (inFile, other) := if unit.rowNumber.isSome then (unit, holder) else (holder, unit)
      let fix := if utf16Length text < 4 then "Use más dígitos o déjelo vacío."
        else "Use otro o déjelo vacío."
      let usedBy := match other.rowNumber with
        | some rowNumber => "ya está en la fila " ++ toString rowNumber
        | none => "ya es de " ++ other.name
      { state with notices := state.notices ++
          [unitError (inFile.rowNumber.getD 0) (some unitHeaders.codePrefix)
            ("El prefijo " ++ text ++ " " ++ usedBy ++ ". " ++ fix)] }
  | _, _ => state

/-- The live units by prefix, the first of each. -/
def prefixHolders (units : UnitMap) : PrefixHolders :=
  units.values.foldl holdPrefix ⟨.empty, []⟩

/-- The unit with a code, among those of the plan. -/
def finalUnitByCode (units : UnitMap) : KeyedMap String FinalUnit :=
  KeyedMap.index FinalUnit.code units.values

/-- The first live unit whose own centre has a code. -/
def unitByHeadCode (units : UnitMap) (centers : CenterMap) (code : String) : Option FinalUnit :=
  units.values.find? fun unit => isLiveUnit unit &&
    (unit.headCenterKey.bind centers.get?).map FinalCenter.code = some code

/-! ### Parents -/

/-- What the file says of a unit's parent. -/
structure ParentChoice where
  parentKey : Option PlanKey
  notices : List Notice

/-- The nearest live unit whose prefix a longer prefix begins with. -/
def nearestHolder (holders : KeyedMap String FinalUnit) (text : String) : Option FinalUnit :=
  (List.range (utf16Length text - 1)).reverse.findSome? fun n => holders.get? (sliceTo text (n + 1))

/-- The parent of a new unit whose row does not name one. -/
def deduceParent (units : UnitMap) (holders : KeyedMap String FinalUnit) (unit : FinalUnit) :
    ParentChoice :=
  let under (parent : FinalUnit) (why : String) : ParentChoice :=
    ⟨some parent.key, [unitWarning (unit.rowNumber.getD 0) (some unitHeaders.parent)
      ("Quedó bajo " ++ parent.name ++ why)]⟩
  let alone : ParentChoice :=
    ⟨none, [unitWarning (unit.rowNumber.getD 0) (some unitHeaders.parent)
      "No dice de quién depende. Queda en el primer nivel."]⟩
  if unit.unitType = .rectorate then ⟨none, []⟩
  else
    match present unit.codePrefix with
    | none => alone
    | some text =>
      if utf16Length text > 1 then
        match nearestHolder holders text with
        | some parent => under parent " por su prefijo."
        | none => alone
      else
        match units.values.filter fun other => other.key ≠ unit.key && other.unitType = .rectorate &&
            isLiveUnit other with
        | [parent] => under parent "."
        | _ => alone

/-- The unit that a parent cell names, and whether by its own centre. -/
def resolveParentText (units : UnitMap) (centers : CenterMap) (holders : KeyedMap String FinalUnit)
    (text : String) : Option FinalUnit × Bool :=
  if !allDigits text then
    (((finalUnitByCode units).get? text).or
      ((finalUnitByCode units).get? (env.unicode.toUpperCase text)), false)
  else
    match (holders.get? text).or (holders.get? (normalizeUnitPrefix text)) with
    | some parent => (some parent, false)
    | none => (unitByHeadCode units centers text, (unitByHeadCode units centers text).isSome)

/-- The units among the holders that centres may fall under. -/
def prefixOwners (holders : KeyedMap String FinalUnit) : List FinalUnit :=
  holders.values.filter fun unit => !isCollegiateBody unit.unitType

/-- What is said of a parent cell that names no unit. -/
def unresolvedParentMessage (centers : CenterMap) (holders : KeyedMap String FinalUnit)
    (text : String) : String :=
  if allDigits text && (liveCenterByCode centers).has text then
    let owner := resolveCenterUnit (fun unit : FinalUnit => unit.codePrefix.getD "") text
      (prefixOwners holders)
    match owner, present (owner.bind FinalUnit.codePrefix) with
    | some unit, some prefixText =>
      text ++ " es un centro de costo de " ++ unit.name ++ ". Escriba su prefijo, " ++ prefixText ++ "."
    | _, _ => text ++ " es un centro de costo. Escriba el prefijo de la dependencia."
  else "No hay ninguna dependencia activa con el prefijo o código " ++ text ++ "."

/-- The parent of a unit, by the cell of its row. -/
def parentChoice (units : UnitMap) (centers : CenterMap) (holders : KeyedMap String FinalUnit)
    (unit : FinalUnit) : ParentChoice :=
  match unit.rowNumber, present unit.parentText with
  | none, _ => ⟨unit.parentKey, []⟩
  | some _, none =>
    if unit.existingId.isNone then deduceParent units holders unit else ⟨unit.parentKey, []⟩
  | some rowNumber, some text =>
    if isRootText env.unicode text then ⟨none, []⟩
    else
      match resolveParentText env units centers holders text with
      | (none, _) =>
        ⟨unit.parentKey, [unitError rowNumber (some unitHeaders.parent)
          (unresolvedParentMessage centers holders text)]⟩
      | (some parent, viaHead) =>
        if parent.key = unit.key then
          ⟨unit.parentKey, [unitError rowNumber (some unitHeaders.parent)
            "Una dependencia no puede depender de sí misma."]⟩
        else if !isLiveUnit parent && isLiveUnit unit then
          ⟨unit.parentKey, [unitError rowNumber (some unitHeaders.parent)
            (parent.name ++ " está archivada o se va a quitar. Elija otra dependencia.")]⟩
        else
          ⟨some parent.key,
            if viaHead then
              [unitWarning rowNumber (some unitHeaders.parent)
                ("Quedó bajo " ++ parent.name ++ " por su centro propio " ++ text ++ ".")]
            else []⟩

/-- The unit with its parent settled. -/
def withParent (units : UnitMap) (centers : CenterMap) (holders : KeyedMap String FinalUnit)
    (unit : FinalUnit) : FinalUnit :=
  { unit with parentKey := (parentChoice env units centers holders unit).parentKey }

/-- More than one rectorate is worth a warning. -/
def rectorateNotices (units : UnitMap) : List Notice :=
  let rectorates := units.values.filter fun unit => unit.unitType = .rectorate && isLiveUnit unit
  match ((rectorates.filterMap FinalUnit.rowNumber).insertionSort (· ≤ ·)).head? with
  | none => []
  | some rowNumber =>
    if rectorates.length > 1 then
      let labels := rectorates.map fun unit =>
        (match present unit.codePrefix with
          | some text => text ++ " "
          | none => "") ++ unit.name
      [unitWarning rowNumber (some unitHeaders.type)
        ("Hay " ++ toString rectorates.length ++ " rectorías (" ++ String.intercalate ", " labels ++
          "). Las filas nuevas de un solo número sin Depende de quedan en el primer nivel.")]
    else []

/-! ### Names, loops and prefixes -/

/-- A unit with the name of its boss is worth a warning. -/
def sameNameNotices (units : UnitMap) (unit : FinalUnit) : List Notice :=
  match unit.rowNumber, unit.parentKey.bind units.get? with
  | some rowNumber, some parent =>
    if normalizeText env.unicode parent.name = normalizeText env.unicode unit.name then
      let own := (unit.rawPrefix.or unit.codePrefix).getD unit.code
      let head := (parent.rawPrefix.or parent.codePrefix).getD parent.code
      [unitWarning rowNumber (some unitHeaders.name)
        (own ++ " se llama igual que su jefe " ++ head ++ ". Revise si es su centro propio.")]
    else []
  | _, _ => []

/-- The unit was live with this name under this parent. -/
def keepsPlace (unit : FinalUnit) : Bool :=
  match storedUnit snapshot unit with
  | some before => sameUnitName env.unicode before.name unit.name &&
      before.parentId.map PlanKey.stored = unit.parentKey && before.isActive
  | none => false

/-- The live units with the name and the parent of a unit. -/
def sameNameSiblings (units : UnitMap) (unit : FinalUnit) : List FinalUnit :=
  units.values.filter fun other => other.key ≠ unit.key && isLiveUnit other &&
    other.parentKey = unit.parentKey && sameUnitName env.unicode other.name unit.name

/-- A unit that comes to a place finds no other with its name there. -/
def siblingNotices (units : UnitMap) (unit : FinalUnit) : List Notice :=
  match unit.rowNumber with
  | none => []
  | some rowNumber =>
    if !isLiveUnit unit || keepsPlace env snapshot unit then []
    else if (present unit.parentText).any (fun text => !isRootText env.unicode text) &&
        unit.parentKey.isNone then []
    else
      let siblings := sameNameSiblings env units unit
      match (siblings.find? (keepsPlace env snapshot)).or siblings.head? with
      | none => []
      | some sibling =>
        let parentName := (unit.parentKey.bind units.get?).map FinalUnit.name
        [unitError rowNumber (some unitHeaders.name)
          (match keepsPlace env snapshot sibling, sibling.rowNumber with
            | false, some siblingRow =>
              "La fila " ++ toString siblingRow ++ " repite el nombre " ++ sibling.name ++ " " ++
                unitPlace parentName ++ "."
            | _, _ => duplicateSiblingError sibling.name parentName)]

/-- The parent of each unit of the plan, when that is a unit of the plan. -/
def parentMap (units : UnitMap) (key : PlanKey) : Option PlanKey :=
  (units.get? key).bind fun unit => unit.parentKey.filter units.has

/-- The walk from the unit's parent comes back to the unit. -/
def isCyclic (units : UnitMap) (unit : FinalUnit) : Bool :=
  ParentMap.meetsWithin (parentMap units) unit.key maxDepth (unit.parentKey.filter units.has)

/-- A unit of the file does not end below itself. -/
def cyclicNotices (units : UnitMap) (unit : FinalUnit) : List Notice :=
  match unit.rowNumber with
  | none => []
  | some rowNumber =>
    if isCyclic units unit then
      [unitError rowNumber (some unitHeaders.parent)
        "Con ese jefe la dependencia quedaría debajo de sí misma."]
    else []

/-- The keys of the units found below themselves. -/
def cyclicKeys (units : UnitMap) : List PlanKey :=
  (units.values.filter fun unit => unit.rowNumber.isSome && isCyclic units unit).map FinalUnit.key

/-- The units above one, nearest first. -/
def unitsAbove (units : UnitMap) (unit : FinalUnit) : List FinalUnit :=
  (ParentMap.walk (parentMap units) maxDepth (unit.parentKey.filter units.has)).filterMap units.get?

/-- The prefix of a unit fits its kind and its place. -/
def prefixNoticesOf (units : UnitMap) (holders : KeyedMap String FinalUnit) (unit : FinalUnit) :
    List Notice :=
  match unit.rowNumber, present unit.codePrefix with
  | some rowNumber, some text =>
    if unit.key ∈ cyclicKeys units || !isLiveUnit unit then []
    else if isCollegiateBody unit.unitType then
      [unitError rowNumber (some unitHeaders.codePrefix)
        "Los consejos, comités y comisiones no llevan prefijo."]
    else
      let prefixed := (unitsAbove units unit).filter fun above => (present above.codePrefix).isSome
      let others := KeyedMap.ofList ((holders.entries.filter fun entry => entry.1 ≠ text).map
        fun entry => (entry.1, entry.2.name))
      let check := checkUnitPrefix text (prefixed.head?.bind FinalUnit.codePrefix) others
        (prefixed.map fun above => above.codePrefix.getD "") (some unit.name)
        (prefixed.head?.map FinalUnit.name)
      match check.level, present check.message with
      | .ok, _ => []
      | _, none => []
      | level, some message =>
        let changed := match storedUnit snapshot unit with
          | none => true
          | some before => before.codePrefix ≠ unit.codePrefix ||
              before.parentId.map PlanKey.stored ≠ unit.parentKey
        [(if level = PrefixLevel.error ∧ changed = true then unitError else unitWarning) rowNumber
          (some unitHeaders.codePrefix) message]
  | _, _ => []

/-! ### The places of the centres -/

/-- What is said of a centre with assets. -/
def assetsText (count : ℕ) : String :=
  if count = 1 then "Tiene 1 activo asignado." else "Tiene " ++ toString count ++ " activos asignados."

/-- The units that centres may fall under, but those below themselves. -/
def prefixedUnits (units : UnitMap) (holders : KeyedMap String FinalUnit) : List FinalUnit :=
  (prefixOwners holders).filter fun unit => unit.key ∉ cyclicKeys units

/-- The column of a request to leave. -/
def leavingColumn (removal : Option RowAction) (action status : String) : String :=
  if removal.isSome then action else status

/-- The unit a centre falls under. -/
def centerUnit (units : UnitMap) (holders : KeyedMap String FinalUnit) (rowNumber : ℕ)
    (center : FinalCenter) : Option PlanKey × List Notice :=
  match resolveCenterUnit (fun unit : FinalUnit => unit.codePrefix.getD "") center.code
      (prefixedUnits units holders) with
  | some unit => (some unit.key, [])
  | none =>
    let currentUnit := center.unitKey.bind units.get?
    let unitKey := if currentUnit.any isLiveUnit then center.unitKey else none
    (unitKey, [centerWarning rowNumber (some centerHeaders.unit)
      ("Ninguna dependencia tiene un prefijo que coincida con " ++ center.code ++
        match unitKey with
        | some _ => ". Se queda en " ++ (currentUnit.map FinalUnit.name).getD "" ++ "."
        | none => ". Queda sin dependencia.")])

/-- The centre a centre falls under. -/
def centerParent (centers : CenterMap) (rowNumber : ℕ) (center : FinalCenter) :
    Option PlanKey × List Notice :=
  if isDetailCode center.code then
    let resolution := resolveCenterParent center.code fun code =>
      code ≠ center.code && (liveCenterByCode centers).has code
    (((present resolution.parentCode).bind (liveCenterByCode centers).get?).map FinalCenter.key,
      match present resolution.missingParentCode with
      | some missing =>
        [centerWarning rowNumber (some centerHeaders.parent)
          ("El centro padre " ++ missing ++ " no existe. Queda sin centro padre.")]
      | none => [])
  else (center.parentKey.filter fun key => (centers.get? key).any isLiveCenter, [])

/-- The place of a centre of the file. -/
def placeCenter (units : UnitMap) (holders : KeyedMap String FinalUnit) (centers : CenterMap)
    (center : FinalCenter) : FinalCenter × List Notice :=
  match center.rowNumber with
  | none => (center, [])
  | some rowNumber =>
    if center.activeAssets > 0 && (center.removal.isSome || !center.isActive) then
      (center, [centerError rowNumber
        (some (leavingColumn center.removal centerHeaders.action centerHeaders.status))
        (assetsText center.activeAssets ++ " No se puede eliminar ni archivar.")])
    else if center.activeAssets > 0 &&
        (storedCenter snapshot center).any SnapshotCenter.hasMovement && !center.hasMovement then
      (center, [centerError rowNumber (some centerHeaders.movement)
        (assetsText center.activeAssets ++ " No puede quedar como agrupador.")])
    else if !isLiveCenter center then (center, [])
    else
      let unit := centerUnit units holders rowNumber center
      let parent := centerParent centers rowNumber center
      ({ center with unitKey := unit.1, parentKey := parent.1 }, unit.2 ++ parent.2)

/-- The history that keeps a stored row from being deleted. -/
def historyOf (id : Option RowId) : Option String :=
  present (id.bind fun id => (snapshot.removal.get? id).join)

/-- A centre that leaves has no live centres below; with a history it is archived. -/
def settleCenter (centers : CenterMap) (center : FinalCenter) : FinalCenter × List Notice :=
  match center.rowNumber with
  | none => (center, [])
  | some rowNumber =>
    if isLiveCenter center then (center, [])
    else
      let children := centers.values.filter fun child => child.key ≠ center.key &&
        child.parentKey = some center.key && isLiveCenter child
      if !children.isEmpty then
        (center, [centerError rowNumber
          (some (leavingColumn center.removal centerHeaders.action centerHeaders.status))
          ("Tiene centros hijos activos (" ++
            String.intercalate ", " (children.map FinalCenter.code) ++
            "). Muévalos o márquelos también.")])
      else
        match center.removal, historyOf snapshot center.existingId with
        | some .delete, some history =>
          ({ center with removal := some .archive, isActive := false },
            [centerWarning rowNumber (some centerHeaders.action)
              ("Se archivará en vez de eliminarse. " ++ history)])
        | _, _ => (center, [])

/-- The own centre a row names ends in the unit. -/
def strayHeadNotices (explicitHeads : List PlanKey) (centers : CenterMap) (unit : FinalUnit) :
    List Notice :=
  match unit.rowNumber, unit.headCenterKey.bind centers.get? with
  | some rowNumber, some head =>
    if unit.key ∈ explicitHeads && head.unitKey ≠ some unit.key then
      [unitWarning rowNumber (some unitHeaders.headCenter)
        ("El centro propio " ++ head.code ++ " no queda en esta dependencia.")]
    else []
  | _, _ => []

/-! ### Units that leave -/

/-- A count with its noun. -/
def counted (count : ℕ) (one many : String) : String :=
  toString count ++ " " ++ if count = 1 then one else many

/-- The live units below a unit. -/
def liveChildren (units : UnitMap) (unit : FinalUnit) : List FinalUnit :=
  units.values.filter fun child => child.parentKey = some unit.key && isLiveUnit child

/-- A unit that leaves has nothing live below; with a history it is archived.
Whether a unit is live does not depend on this pass, so each unit is settled
on its own. -/
def settleUnit (units : UnitMap) (centers : CenterMap) (unit : FinalUnit) : FinalUnit × List Notice :=
  match unit.rowNumber with
  | none => (unit, [])
  | some rowNumber =>
    if isLiveUnit unit then (unit, [])
    else if !(storedUnit snapshot unit).any SnapshotUnit.isActive && unit.removal ≠ some .delete then
      (unit, [])
    else
      let children := liveChildren units unit
      let liveCenters := centers.values.filter fun center =>
        center.unitKey = some unit.key && isLiveCenter center
      if !children.isEmpty || !liveCenters.isEmpty then
        let parts :=
          (if children.isEmpty then []
            else [counted children.length "dependencia activa" "dependencias activas"]) ++
          (if liveCenters.isEmpty then []
            else [counted liveCenters.length "centro de costo activo" "centros de costo activos"])
        (unit, [unitError rowNumber
          (some (leavingColumn unit.removal unitHeaders.action unitHeaders.status))
          ("Tiene " ++ String.intercalate " y " parts ++ ". Muévalos o márquelos también.")])
      else
        match unit.removal, historyOf snapshot unit.existingId with
        | some .delete, some history =>
          ({ unit with removal := some .archive, isActive := false },
            [unitWarning rowNumber (some unitHeaders.action)
              ("Se archivará en vez de eliminarse. " ++ history)])
        | _, _ => (unit, [])

/-! ### The stages of a plan -/

/-- The units as the rows leave them. -/
def planUnitRows : UnitRows := readUnitRows env.unicode snapshot.units (unitSheetRows input)

/-- The centres as the rows leave them. -/
def planCenterRows : CenterRows := readCenterRows env.unicode snapshot.centers input

/-- The units with their own centres. -/
def headedUnits : UnitMap :=
  (planUnitRows env snapshot input).units.mapValues
    (withHead env snapshot (planCenterRows env snapshot input).centers)

/-- The holders of the prefixes. -/
def planHolders : PrefixHolders := prefixHolders (headedUnits env snapshot input)

/-- The parent of a unit of the plan. -/
def planParentChoice : FinalUnit → ParentChoice :=
  parentChoice env (headedUnits env snapshot input) (planCenterRows env snapshot input).centers
    (planHolders env snapshot input).holders

/-- The units with their parents. -/
def placedUnits : UnitMap :=
  (headedUnits env snapshot input).mapValues
    (withParent env (headedUnits env snapshot input) (planCenterRows env snapshot input).centers
      (planHolders env snapshot input).holders)

/-- The centres in their places. -/
def placedCenters : CenterMap :=
  (planCenterRows env snapshot input).centers.mapValues fun center =>
    (placeCenter snapshot (placedUnits env snapshot input) (planHolders env snapshot input).holders
      (planCenterRows env snapshot input).centers center).1

/-- The centres at the end. -/
def settledCenters : CenterMap :=
  (placedCenters env snapshot input).mapValues fun center =>
    (settleCenter snapshot (placedCenters env snapshot input) center).1

/-- The units at the end. -/
def settledUnits : UnitMap :=
  (placedUnits env snapshot input).mapValues fun unit =>
    (settleUnit snapshot (placedUnits env snapshot input) (settledCenters env snapshot input) unit).1

/-- IGNORED_CENTER_SHEET_WARNING. -/
def ignoredCenterSheetWarning : String :=
  "No se leyó la hoja Centros de costo. Los centros de costo se editan en su propia pantalla."

/-- What is said of a plan, in order. -/
def planNotices : List Notice :=
  let unitRows := planUnitRows env snapshot input
  let centerRows := planCenterRows env snapshot input
  let headed := headedUnits env snapshot input
  let holders := planHolders env snapshot input
  let placed := placedUnits env snapshot input
  let choices := headChoice env snapshot centerRows.centers
  (if input.ignoredCenterSheet then [centerWarning 1 none ignoredCenterSheetWarning] else []) ++
    unitRows.notices ++
    centerRows.notices ++
    holders.notices ++
    rectorateNotices headed ++
    headed.values.flatMap (fun unit => (planParentChoice env snapshot input unit).notices) ++
    placed.values.flatMap (sameNameNotices env placed) ++
    placed.values.flatMap (siblingNotices env snapshot placed) ++
    placed.values.flatMap (cyclicNotices placed) ++
    placed.values.flatMap (prefixNoticesOf snapshot placed holders.holders) ++
    centerRows.centers.values.flatMap (fun center =>
      (placeCenter snapshot placed holders.holders centerRows.centers center).2) ++
    (placedCenters env snapshot input).values.flatMap (fun center =>
      (settleCenter snapshot (placedCenters env snapshot input) center).2) ++
    unitRows.units.values.flatMap (fun unit => (choices unit).notices) ++
    placed.values.flatMap (strayHeadNotices
      ((unitRows.units.values.filter fun unit => (choices unit).isExplicit).map FinalUnit.key)
      (settledCenters env snapshot input)) ++
    placed.values.flatMap (fun unit =>
      (settleUnit snapshot placed (settledCenters env snapshot input) unit).2)

/-! ### Operations -/

/-- UNIT_CHANGE_KINDS. -/
inductive UnitChangeKind where
  | created
  | renamed
  | moved
  | retyped
  | prefixChanged
  | relationChanged
  | headChanged
  | colorChanged
  | reactivated
  | archived
  | deleted
  deriving DecidableEq

/-- The stored text of a kind. -/
def UnitChangeKind.value : UnitChangeKind → String
  | created => "CREATED"
  | renamed => "RENAMED"
  | moved => "MOVED"
  | retyped => "RETYPED"
  | prefixChanged => "PREFIX_CHANGED"
  | relationChanged => "RELATION_CHANGED"
  | headChanged => "HEAD_CHANGED"
  | colorChanged => "COLOR_CHANGED"
  | reactivated => "REACTIVATED"
  | archived => "ARCHIVED"
  | deleted => "DELETED"

/-- CENTER_CHANGE_KINDS. -/
inductive CenterChangeKind where
  | created
  | renamed
  | recoded
  | relocated
  | movementChanged
  | reactivated
  | archived
  | deleted
  deriving DecidableEq

/-- The stored text of a kind. -/
def CenterChangeKind.value : CenterChangeKind → String
  | created => "CREATED"
  | renamed => "RENAMED"
  | recoded => "RECODED"
  | relocated => "RELOCATED"
  | movementChanged => "MOVEMENT_CHANGED"
  | reactivated => "REACTIVATED"
  | archived => "ARCHIVED"
  | deleted => "DELETED"

/-- What is done to one unit. -/
structure UnitOp where
  key : PlanKey
  existingId : Option RowId
  rowNumber : ℕ
  code : String
  name : String
  unitType : OrgUnitType
  relationType : OrgRelationType
  codePrefix : Option String
  parentKey : Option PlanKey
  headCenterKey : Option PlanKey
  headCenterCode : Option String
  color : Option String
  isActive : Bool
  removal : Option RowAction
  kinds : List UnitChangeKind

/-- What is done to one centre. -/
structure CenterOp where
  key : PlanKey
  existingId : Option RowId
  rowNumber : ℕ
  code : String
  previousCode : Option String
  name : String
  hasMovement : Bool
  isActive : Bool
  unitKey : Option PlanKey
  parentKey : Option PlanKey
  removal : Option RowAction
  kinds : List CenterChangeKind

/-- A line of the list of changes. -/
structure PlanChange where
  sheet : String
  rowNumber : ℕ
  entity : String
  kind : String
  code : String
  name : String
  detail : String

/-- A plan. -/
structure OrgChartPlan where
  units : List UnitOp
  centers : List CenterOp
  changes : List PlanChange
  errors : List RowIssue
  warnings : List RowIssue
  unitCounts : UnitChangeKind → ℕ
  centerCounts : CenterChangeKind → ℕ
  hash : String

section Changes

variable (units : UnitMap) (centers : CenterMap)

/-- How a unit is called in the list of changes. -/
def unitLabel : Option PlanKey → String
  | none => "(raíz)"
  | some key =>
    match units.get? key with
    | some unit => unit.codePrefix.getD unit.code ++ " · " ++ unit.name
    | none => "?"

/-- How a centre is called in the list of changes. -/
def centerLabel : Option PlanKey → String
  | none => "(sin padre)"
  | some key => ((centers.get? key).map FinalCenter.code).getD "?"

/-- How an own centre is called in the list of changes. -/
def headLabel (key : Option PlanKey) (code : Option String) : String :=
  match key, present code with
  | some key, _ => centerLabel centers (some key)
  | none, some code => code ++ " (pendiente)"
  | none, none => "(ninguno)"

/-- One change, when something differs. -/
def changeIf {κ : Type} (differs : Bool) (kind : κ) (detail : String) : List (κ × String) :=
  if differs then [(kind, detail)] else []

/-- What changes in a stored unit that stays. -/
def keptUnitChanges (before : SnapshotUnit) (unit : FinalUnit) : List (UnitChangeKind × String) :=
  changeIf (before.name ≠ unit.name) .renamed ("Nombre: " ++ before.name ++ " → " ++ unit.name) ++
    changeIf (before.unitType ≠ unit.unitType) .retyped
      ("Tipo: " ++ before.unitType.label ++ " → " ++ unit.unitType.label) ++
    changeIf (before.parentId.map PlanKey.stored ≠ unit.parentKey) .moved
      ("Depende de: " ++ unitLabel units (before.parentId.map .stored) ++ " → " ++
        unitLabel units unit.parentKey) ++
    changeIf (before.codePrefix ≠ unit.codePrefix) .prefixChanged
      ("Prefijo: " ++ before.codePrefix.getD "(sin prefijo)" ++ " → " ++
        unit.codePrefix.getD "(sin prefijo)") ++
    changeIf (before.relationType ≠ unit.relationType) .relationChanged
      ("Línea: " ++ before.relationType.label ++ " → " ++ unit.relationType.label) ++
    changeIf (before.headCostCenterId.map PlanKey.stored ≠ unit.headCenterKey ||
        before.headCostCenterCode ≠ unit.headCenterCode) .headChanged
      ("Centro propio: " ++
        headLabel centers (before.headCostCenterId.map .stored) before.headCostCenterCode ++ " → " ++
        headLabel centers unit.headCenterKey unit.headCenterCode) ++
    changeIf (before.color ≠ unit.color) .colorChanged
      (match present unit.color with
        | some color => "Color: " ++ before.color.getD "(sin color)" ++ " → " ++ color
        | none => "Color quitado") ++
    changeIf (!before.isActive && unit.isActive) .reactivated "Se reactiva" ++
    changeIf (before.isActive && !unit.isActive) .archived "Se archiva"

/-- What changes in a unit of the file. -/
def unitChanges (unit : FinalUnit) : List (UnitChangeKind × String) :=
  match storedUnit snapshot unit with
  | none =>
    [(.created, "Se crea " ++
      (match unit.parentKey with
        | some key => "bajo " ++ unitLabel units (some key)
        | none => "en el primer nivel") ++ " como " ++ unit.unitType.label)]
  | some before =>
    if unit.removal = some .delete then [(.deleted, "Se elimina")]
    else keptUnitChanges units centers before unit

/-- What changes in a stored centre that stays. -/
def keptCenterChanges (before : SnapshotCenter) (center : FinalCenter) :
    List (CenterChangeKind × String) :=
  let unitMoved := before.unitId.map PlanKey.stored ≠ center.unitKey
  let parentMoved := before.parentId.map PlanKey.stored ≠ center.parentKey
  let movement (receives : Bool) : String := if receives then "1" else "0"
  changeIf (before.externalCode ≠ center.code) .recoded
      ("Código: " ++ before.externalCode ++ " → " ++ center.code) ++
    changeIf (before.name ≠ center.name) .renamed ("Nombre: " ++ before.name ++ " → " ++ center.name) ++
    changeIf (unitMoved || parentMoved) .relocated
      (String.intercalate "; "
        ((if unitMoved then ["Dependencia: " ++ unitLabel units (before.unitId.map .stored) ++ " → " ++
            unitLabel units center.unitKey] else []) ++
          if parentMoved then ["Padre: " ++ centerLabel centers (before.parentId.map .stored) ++ " → " ++
            centerLabel centers center.parentKey] else [])) ++
    changeIf (before.hasMovement ≠ center.hasMovement) .movementChanged
      ("Movimiento: " ++ movement before.hasMovement ++ " → " ++ movement center.hasMovement) ++
    changeIf (!before.isActive && center.isActive) .reactivated "Se reactiva" ++
    changeIf (before.isActive && !center.isActive) .archived "Se archiva"

/-- What changes in a centre of the file. -/
def centerChanges (center : FinalCenter) : List (CenterChangeKind × String) :=
  match storedCenter snapshot center with
  | none =>
    [(.created, "Nuevo en " ++ unitLabel units center.unitKey ++
      match center.parentKey with
      | some key => ", bajo " ++ centerLabel centers (some key)
      | none => "")]
  | some before =>
    if center.removal = some .delete then [(.deleted, "Se elimina")]
    else keptCenterChanges units centers before center

/-- The operation on a unit of the file, when something changes. -/
def unitOp (unit : FinalUnit) : Option UnitOp :=
  unit.rowNumber.bind fun rowNumber =>
    let kinds := (unitChanges snapshot units centers unit).map Prod.fst
    if kinds.isEmpty then none
    else some
      { key := unit.key
        existingId := unit.existingId
        rowNumber
        code := unit.code
        name := unit.name
        unitType := unit.unitType
        relationType := unit.relationType
        codePrefix := unit.codePrefix
        parentKey := unit.parentKey
        headCenterKey := unit.headCenterKey
        headCenterCode := unit.headCenterCode
        color := unit.color
        isActive := unit.isActive
        removal := unit.removal
        kinds }

/-- The operation on a centre of the file, when something changes. -/
def centerOp (center : FinalCenter) : Option CenterOp :=
  center.rowNumber.bind fun rowNumber =>
    let kinds := (centerChanges snapshot units centers center).map Prod.fst
    if kinds.isEmpty then none
    else some
      { key := center.key
        existingId := center.existingId
        rowNumber
        code := center.code
        previousCode := center.previousCode
        name := center.name
        hasMovement := center.hasMovement
        isActive := center.isActive
        unitKey := center.unitKey
        parentKey := center.parentKey
        removal := center.removal
        kinds }

/-- The line about a unit in the list of changes. -/
def unitChange (unit : FinalUnit) : Option PlanChange :=
  (unitOp snapshot units centers unit).map fun op =>
    { sheet := unitSheet
      rowNumber := op.rowNumber
      entity := "ORG_UNIT"
      kind := (op.kinds.head?.getD .created).value
      code := unit.codePrefix.getD unit.code
      name := unit.name
      detail := String.intercalate "; " ((unitChanges snapshot units centers unit).map Prod.snd) }

/-- The line about a centre in the list of changes. -/
def centerChange (center : FinalCenter) : Option PlanChange :=
  (centerOp snapshot units centers center).map fun op =>
    { sheet := centerSheet
      rowNumber := op.rowNumber
      entity := "COST_CENTER"
      kind := (op.kinds.head?.getD .created).value
      code := center.code
      name := center.name
      detail := String.intercalate "; " ((centerChanges snapshot units centers center).map Prod.snd) }

end Changes

/-! ### The digest of a plan -/

theorem toString_numeric (n : ℕ) :
    toString n ≠ "" ∧ (toString n).toList.all numericChar = true := by
  refine ⟨Nat.repr_ne_empty, List.all_eq_true.mpr fun c hc => ?_⟩
  have hdigits : (toString n).toList = Nat.toDigits 10 n := Nat.toList_repr
  have hdigit := Nat.isDigit_of_mem_toDigits (by decide) (by decide) (hdigits ▸ hc)
  simp [numericChar, hdigit]

/-- A natural number as JSON. -/
def natValue (n : ℕ) : JsValue := .number ⟨toString n, toString_numeric n⟩

/-- An optional key as JSON. -/
def keyValue (key : Option PlanKey) : JsValue := JsValue.ofOption (key.map PlanKey.text)

/-- A removal as JSON. -/
def removalValue (removal : Option RowAction) : JsValue :=
  JsValue.ofOption (removal.map fun
    | .delete => "DELETE"
    | .archive => "ARCHIVE")

/-- An operation on a unit as JSON. -/
def UnitOp.json (op : UnitOp) : JsValue :=
  .object
    [("key", .string op.key.text), ("existingId", JsValue.ofOption (op.existingId.map RowId.text)),
      ("rowNumber", natValue op.rowNumber), ("code", .string op.code), ("name", .string op.name),
      ("unitType", .string op.unitType.value), ("relationType", .string op.relationType.value),
      ("codePrefix", JsValue.ofOption op.codePrefix), ("parentKey", keyValue op.parentKey),
      ("headCenterKey", keyValue op.headCenterKey),
      ("headCenterCode", JsValue.ofOption op.headCenterCode), ("color", JsValue.ofOption op.color),
      ("isActive", .bool op.isActive), ("removal", removalValue op.removal),
      ("kinds", .array (op.kinds.map fun kind => .string kind.value))]

/-- An operation on a centre as JSON. -/
def CenterOp.json (op : CenterOp) : JsValue :=
  .object
    [("key", .string op.key.text), ("existingId", JsValue.ofOption (op.existingId.map RowId.text)),
      ("rowNumber", natValue op.rowNumber), ("code", .string op.code),
      ("previousCode", JsValue.ofOption op.previousCode), ("name", .string op.name),
      ("hasMovement", .bool op.hasMovement), ("isActive", .bool op.isActive),
      ("unitKey", keyValue op.unitKey), ("parentKey", keyValue op.parentKey),
      ("removal", removalValue op.removal),
      ("kinds", .array (op.kinds.map fun kind => .string kind.value))]

/-! ### The plan -/

/-- The values in the order of their rows, those without a row first. -/
def inRowOrder {α : Type} (rowNumber : α → Option ℕ) (items : List α) : List α :=
  items.insertionSort fun left right => (rowNumber left).getD 0 ≤ (rowNumber right).getD 0

/-- Plan what a file asks of a snapshot. -/
def planOrgChart : OrgChartPlan :=
  let units := settledUnits env snapshot input
  let centers := settledCenters env snapshot input
  let orderedUnits := inRowOrder FinalUnit.rowNumber units.values
  let orderedCenters := inRowOrder FinalCenter.rowNumber centers.values
  let unitOps := orderedUnits.filterMap (unitOp snapshot units centers)
  let centerOps := orderedCenters.filterMap (centerOp snapshot units centers)
  let notices := planNotices env snapshot input
  { units := unitOps
    centers := centerOps
    changes := orderedUnits.filterMap (unitChange snapshot units centers) ++
      orderedCenters.filterMap (centerChange snapshot units centers)
    errors := issuesOf .error notices
    warnings := issuesOf .warning notices
    unitCounts := fun kind => (unitOps.flatMap UnitOp.kinds).count kind
    centerCounts := fun kind => (centerOps.flatMap CenterOp.kinds).count kind
    hash := env.sha256.hex (JsonText.stringify (.object
      [("units", .array (unitOps.map UnitOp.json)),
        ("centers", .array (centerOps.map CenterOp.json))])) }

/-! ### The units after a plan -/

/-- A unit as a plan leaves it. -/
structure PlannedUnit where
  key : PlanKey
  code : String
  name : String
  unitType : OrgUnitType
  relationType : OrgRelationType
  codePrefix : Option String
  parentKey : Option PlanKey
  headCenterKey : Option PlanKey
  headCenterCode : Option String
  color : Option String
  isActive : Bool
  deriving DecidableEq

/-- A stored unit that the plan leaves alone. -/
def PlannedUnit.ofSnapshot (unit : SnapshotUnit) : PlannedUnit :=
  { key := .stored unit.id
    code := unit.code
    name := unit.name
    unitType := unit.unitType
    relationType := unit.relationType
    codePrefix := unit.codePrefix
    parentKey := unit.parentId.map .stored
    headCenterKey := unit.headCostCenterId.map .stored
    headCenterCode := unit.headCostCenterCode
    color := unit.color
    isActive := unit.isActive }

/-- A unit with the values an operation writes. -/
def PlannedUnit.ofOp (op : UnitOp) : PlannedUnit :=
  { key := op.key
    code := op.code
    name := op.name
    unitType := op.unitType
    relationType := op.relationType
    codePrefix := op.codePrefix
    parentKey := op.parentKey
    headCenterKey := op.headCenterKey
    headCenterCode := op.headCenterCode
    color := op.color
    isActive := op.isActive }

/-- The stored units with the operations applied: the deleted ones are gone,
the others have what their operation writes, and the new ones are added. -/
def applyUnitOps (units : List SnapshotUnit) (ops : List UnitOp) : List PlannedUnit :=
  (units.filterMap fun unit =>
    match ops.find? fun op => op.existingId = some unit.id with
    | none => some (PlannedUnit.ofSnapshot unit)
    | some op => if op.removal = some .delete then none else some (PlannedUnit.ofOp op)) ++
    (ops.filter fun op => op.existingId.isNone).map PlannedUnit.ofOp

/-- The units after the plan of a file. -/
def finalUnits : List PlannedUnit :=
  applyUnitOps snapshot.units (planOrgChart env snapshot input).units

end InternalControl.OrgChart
