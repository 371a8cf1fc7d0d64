import InternalControl.CodePrefix
import InternalControl.KeyedMap

/-!
# The structure of imported cost centres

A file of cost centres is planned before it is written: its one-digit rows name
units, and each centre gets a parent from its code, a unit from its prefix and
its movement flag. A code counts as a grouping one by the flag of its row in the
file, or by the one stored when the file has no row for it.
-/

namespace InternalControl.CostCenterStructure

open CodePrefix Text

/-- A row of the file. -/
structure FileCenter where
  rowNumber : ℕ
  code : String
  name : String
  hasMovement : Bool
  unitCode : Option String
  deriving DecidableEq

/-- A centre as stored. -/
structure DbCenter where
  id : RowId
  code : String
  name : String
  parentId : Option RowId
  unitId : Option RowId
  hasMovement : Bool
  isActive : Bool
  activeAssets : ℕ
  deriving DecidableEq

/-- A unit as stored. -/
structure DbUnit where
  id : RowId
  code : String
  name : String
  codePrefix : Option String
  isActive : Bool
  deriving DecidableEq

/-- A stored unit, or one that the plan makes for a prefix. -/
inductive UnitRef where
  | id (id : RowId)
  | codePrefix (codePrefix : String)
  deriving DecidableEq

inductive UnitAction where
  | create
  | associate
  | existing
  deriving DecidableEq

structure PlannedUnit where
  codePrefix : String
  rowNumber : ℕ
  name : String
  action : UnitAction
  unitId : Option RowId
  code : String
  deriving DecidableEq

structure PlannedCenter where
  rowNumber : ℕ
  code : String
  name : String
  existingId : Option RowId
  parentCode : Option String
  unit : Option UnitRef
  hasMovement : Bool
  parentChanges : Bool
  unitChanges : Bool
  movementChanges : Bool
  deriving DecidableEq

structure PlanIssue where
  rowNumber : Option ℕ
  code : String
  rawValue : Option String
  detail : String
  deriving DecidableEq

structure StructurePlanCounts where
  toInsert : ℕ
  existingInFile : ℕ
  parentChanges : ℕ
  unitChanges : ℕ
  movementChanges : ℕ
  nameDifferences : ℕ
  orphans : ℕ
  groupingCenters : ℕ
  movementCenters : ℕ
  unitsToCreate : ℕ
  unitsToAssociate : ℕ
  groupingWithAssets : ℕ
  groupingWithoutChildren : ℕ
  notInFile : ℕ
  prefixesWithoutUnit : List String

structure StructurePlan where
  units : List PlannedUnit
  centers : List PlannedCenter
  issues : List PlanIssue
  counts : StructurePlanCounts

def unitCodeForPrefix (codePrefix : String) : String := "CC_" ++ codePrefix

/-- The reference is the unit that is stored. -/
def sameUnit (unit : Option UnitRef) (unitId : Option RowId) : Bool :=
  match unit with
  | none => unitId.isNone
  | some (.id id) => unitId == some id
  | some (.codePrefix _) => false

/-! ### Rows -/

/-- The row as the plan takes it: a one-digit code is a grouping one whatever its row says. -/
def readRow (row : FileCenter) : FileCenter :=
  if isRootCode row.code then { row with hasMovement := false } else row

/-- The rows by their codes. -/
def fileByCode (file : List FileCenter) : KeyedMap String FileCenter :=
  KeyedMap.index FileCenter.code (file.map readRow)

def dbByCode (db : List DbCenter) : KeyedMap String DbCenter := KeyedMap.index DbCenter.code db

def dbById (db : List DbCenter) : KeyedMap RowId DbCenter := KeyedMap.index DbCenter.id db

/-- Whether a code is known as a grouping one: by its row, or else as stored. -/
def isGrouping (file : List FileCenter) (db : List DbCenter) (code : String) : Option Bool :=
  match (fileByCode file).get? code with
  | some row => some !row.hasMovement
  | none => ((dbByCode db).get? code).map fun center => !center.hasMovement

/-! ### Units -/

section Units

variable (units : List DbUnit)

def activeUnits : List DbUnit := units.filter DbUnit.isActive

/-- What a one-digit row makes of the units. -/
def planUnit (row : FileCenter) : Option PlannedUnit × List PlanIssue :=
  match (activeUnits units).find? fun unit => unit.codePrefix = some row.code with
  | some byPrefix =>
    (some ⟨row.code, row.rowNumber, byPrefix.name, .existing, some byPrefix.id, byPrefix.code⟩, [])
  | none =>
    let code := unitCodeForPrefix row.code
    match units.find? fun unit => unit.code = code with
    | some byCode =>
      if byCode.codePrefix ≠ none ∨ !byCode.isActive then
        (none, [⟨some row.rowNumber, "UNIT_PREFIX_CONFLICT", some row.code,
          if byCode.isActive then
            byCode.name ++ " ya tiene los códigos que empiezan por " ++ byCode.codePrefix.getD "" ++
              ". No se asigna a los que empiezan por " ++ row.code ++ "."
          else byCode.name ++ " está archivada. No se asigna a los códigos que empiezan por " ++
            row.code ++ "."⟩])
      else
        (some ⟨row.code, row.rowNumber, byCode.name, .associate, some byCode.id, code⟩,
          [⟨some row.rowNumber, "UNIT_ASSOCIATED", some row.code,
            byCode.name ++ " queda con los códigos que empiezan por " ++ row.code ++ "."⟩])
    | none =>
      (some ⟨row.code, row.rowNumber, row.name, .create, none, code⟩,
        [⟨some row.rowNumber, "UNIT_CREATED", some row.code,
          "Se crea la dependencia " ++ row.name ++ " con los códigos del " ++
            (prefixRange row.code).from_ ++ " al " ++ (prefixRange row.code).to_ ++ "."⟩])

/-- The rows of one-digit codes. -/
def rootRows (file : List FileCenter) : List FileCenter :=
  (file.map readRow).filter fun row => isRootCode row.code

def plannedUnits (file : List FileCenter) : List PlannedUnit :=
  (rootRows file).filterMap fun row => (planUnit units row).1

def unitIssues (file : List FileCenter) : List PlanIssue :=
  (rootRows file).flatMap fun row => (planUnit units row).2

/-- The prefixes with their units: the stored ones that the plan leaves, and the planned ones. -/
def prefixed (file : List FileCenter) : List (String × UnitRef) :=
  ((activeUnits units).filter fun unit =>
      unit.codePrefix ≠ none ∧
        ¬∃ planned ∈ plannedUnits units file, some planned.codePrefix = unit.codePrefix).map
    (fun unit => (unit.codePrefix.getD "", .id unit.id)) ++
  (plannedUnits units file).map fun planned =>
    (planned.codePrefix, match planned.unitId with
      | some id => .id id
      | none => .codePrefix planned.codePrefix)

end Units

/-! ### Centres -/

section Centers

variable (file : List FileCenter) (db : List DbCenter) (units : List DbUnit) (row : FileCenter)

/-- The parent that the code of a row derives. -/
def derivedParent : Option String := deriveParentCode row.code (isGrouping file db)

/-- The code is one of those with a place in the structure. -/
def hasPlace (code : String) : Bool := isRootCode code || isDetailCode code

/-- The row asks for a parent that nobody is. -/
def isOrphan : Bool :=
  isDetailCode row.code && !isRootCode row.code && (derivedParent file db row).isNone

/-- The codes that could stand above, as the message lists them. -/
def parentCodes (code : String) : List String :=
  (([sliceTo code 3 ++ "0", sliceTo code 2 ++ "00", sliceTo code 1 ++ "000", sliceTo code 1].filter
    (· ≠ code)).reverse.dedup).reverse

/-- A stored centre with assets does not become a grouping one. -/
def keepsMovement : Bool :=
  ((dbByCode db).get? row.code).any fun existing =>
    existing.hasMovement && !row.hasMovement && decide (0 < existing.activeAssets)

/-- The unit that the row names, or else the one with the longest prefix of its code. -/
def chosenUnit : Option UnitRef :=
  match (present row.unitCode).bind (KeyedMap.index DbUnit.code units).get? with
  | some explicit => some (.id explicit.id)
  | none =>
    if hasPlace row.code then
      (longestPrefix Prod.fst row.code (prefixed units file)).map Prod.snd
    else none

/-- The code of the stored parent of a centre. -/
def storedParentCode (existing : DbCenter) : Option String :=
  (existing.parentId.bind (dbById db).get?).map DbCenter.code

/-- The parent code of the planned centre: the derived one, or the stored one of a stored centre
whose parent cannot be derived. -/
def plannedParent : Option String :=
  match (dbByCode db).get? row.code with
  | some existing =>
    if (derivedParent file db row).isNone && !isRootCode row.code then storedParentCode db existing
    else derivedParent file db row
  | none => derivedParent file db row

/-- The centre as the plan leaves it. -/
def planCenter : PlannedCenter :=
  let existing := (dbByCode db).get? row.code
  let parentCode := plannedParent file db row
  let hasMovement := if keepsMovement db row then true else row.hasMovement
  let unit := (chosenUnit file units row).or ((existing.bind DbCenter.unitId).map .id)
  { rowNumber := row.rowNumber
    code := row.code
    name := row.name
    existingId := existing.map DbCenter.id
    parentCode
    unit
    hasMovement
    parentChanges := existing.any fun existing => parentCode ≠ storedParentCode db existing
    unitChanges := existing.any fun existing => !sameUnit unit existing.unitId
    movementChanges := existing.any fun existing => hasMovement ≠ existing.hasMovement }

/-- What the plan says of one row. -/
def centerIssues : List PlanIssue :=
  let at_ := some row.rowNumber
  let raw := some row.code
  (if !isRootCode row.code && !isDetailCode row.code then
      [⟨at_, "CODE_OUTSIDE_PLAN", raw,
        "El código no tiene 1 ni 4 dígitos. No se le asigna centro padre ni dependencia."⟩]
    else if isOrphan file db row then
      [⟨at_, "PARENT_NOT_FOUND", raw, "No existe ninguno de estos centros: " ++
        String.intercalate ", " (parentCodes row.code) ++ ". Queda sin centro padre."⟩]
    else []) ++
  (match derivedParent file db row with
    | some parent =>
      if isGrouping file db parent = some false then
        [⟨at_, "PARENT_HAS_MOVEMENT", raw,
          "Su centro padre " ++ parent ++ " tiene Movimiento 1. Debería ser agrupador."⟩]
      else []
    | none => []) ++
  (match (dbByCode db).get? row.code with
    | some existing =>
      (if keepsMovement db row then
        [⟨at_, "GROUPING_HAS_ASSETS", raw, "Tiene " ++
          (if existing.activeAssets = 1 then "1 activo" else toString existing.activeAssets ++ " activos") ++
            ". Sigue con Movimiento 1 aunque el archivo diga 0."⟩]
        else []) ++
      (if existing.name ≠ row.name then
        [⟨at_, "NAME_DIFFERS", raw, "El archivo dice " ++ row.name ++ " y el sistema dice " ++
          existing.name ++ ". El nombre no cambia."⟩]
        else [])
    | none => [])

end Centers

/-! ### The plan -/

section Plan

variable (file : List FileCenter) (db : List DbCenter) (units : List DbUnit)

def plannedCenters : List PlannedCenter := (file.map readRow).map (planCenter file db units)

/-- How many centres of a first digit have no unit. -/
def prefixesWithoutUnit : KeyedMap String ℕ :=
  (file.map readRow).foldl (fun counts row =>
    if (chosenUnit file units row).isNone && hasPlace row.code then
      counts.set (sliceTo row.code 1) ((counts.get? (sliceTo row.code 1)).getD 0 + 1)
    else counts) .empty

/-- The codes that stand above some centre, planned or not in the file. -/
def parentsInUse : List String :=
  (plannedCenters file db units).filterMap PlannedCenter.parentCode ++
    (db.filter fun center => center.code ∉ file.map FileCenter.code).filterMap (storedParentCode db)

/-- The grouping centres with nothing below. -/
def childless : List PlannedCenter :=
  (plannedCenters file db units).filter fun center =>
    !center.hasMovement && decide (center.code ∉ parentsInUse file db units)

def prefixIssue (entry : String × ℕ) : PlanIssue :=
  let range := prefixRange entry.1
  ⟨none, "PREFIX_WITHOUT_UNIT", some entry.1,
    (if entry.2 = 1 then "1 centro" else toString entry.2 ++ " centros") ++ " del " ++ range.from_ ++
      " al " ++ range.to_ ++ " quedan sin dependencia. Agregue la fila " ++ entry.1 ++
      " al archivo o asigne esos códigos a una dependencia."⟩

def planCostCenterStructure : StructurePlan :=
  let rows := file.map readRow
  let centers := plannedCenters file db units
  { units := plannedUnits units file
    centers
    issues := unitIssues units file ++ rows.flatMap (centerIssues file db) ++
      (childless file db units).map (fun center =>
        ⟨some center.rowNumber, "GROUPING_WITHOUT_CHILDREN", some center.code,
          "Es agrupador pero ningún centro queda debajo por su código."⟩) ++
      (prefixesWithoutUnit file units).entries.map prefixIssue
    counts :=
      { toInsert := centers.countP fun center => center.existingId.isNone
        existingInFile := centers.countP fun center => center.existingId.isSome
        parentChanges := centers.countP PlannedCenter.parentChanges
        unitChanges := centers.countP PlannedCenter.unitChanges
        movementChanges := centers.countP PlannedCenter.movementChanges
        nameDifferences := rows.countP fun row =>
          ((dbByCode db).get? row.code).any fun existing => existing.name ≠ row.name
        orphans := rows.countP (isOrphan file db)
        groupingCenters := centers.countP fun center => !center.hasMovement
        movementCenters := centers.countP PlannedCenter.hasMovement
        unitsToCreate := (plannedUnits units file).countP fun unit => unit.action = .create
        unitsToAssociate := (plannedUnits units file).countP fun unit => unit.action = .associate
        groupingWithAssets := rows.countP (keepsMovement db)
        groupingWithoutChildren := (childless file db units).length
        notInFile := db.countP fun center => center.isActive && center.code ∉ rows.map FileCenter.code
        prefixesWithoutUnit :=
          (prefixesWithoutUnit file units).keys.insertionSort fun left right => unitsLe left right } }

end Plan

end InternalControl.CostCenterStructure
