import InternalControl.OrgChartTypes
import InternalControl.ParentMap
import InternalControl.SqlLike

/-!
# Edits of an organisational unit

A unit keeps its place in the tree as a level and as a path of the codes
above it. An edit of its code or its parent writes the new place, and one
statement rewrites the paths that look like being below the old one.
-/

namespace InternalControl.UnitHierarchy

open OrgChart Text

/-- A unit with its place in the tree. -/
structure OrganizationalUnit where
  id : RowId
  parentId : Option RowId
  code : String
  name : String
  unitType : OrgUnitType
  hierarchyLevel : ℤ
  hierarchyPath : Option String
  codePrefix : Option String
  relationType : OrgRelationType
  headCostCenterId : Option RowId
  headCostCenterCode : Option String
  color : Option String
  isActive : Bool
  deriving DecidableEq

/-- A cost centre as the edit of a unit sees it. -/
structure UnitCenter where
  id : RowId
  externalCode : String
  isActive : Bool
  organizationalUnitId : Option RowId
  deriving DecidableEq

/-- The two tables an edit reads. -/
structure System where
  units : List OrganizationalUnit
  costCenters : List UnitCenter

/-- What an edit changes: a field that is not sent stays as it is. -/
structure UpdateOrganizationalUnitDto where
  code : Option String := none
  name : Option String := none
  type : Option OrgUnitType := none
  parentId : Option (Option RowId) := none
  isActive : Option Bool := none
  codePrefix : Option (Option String) := none
  relationType : Option OrgRelationType := none
  color : Option (Option String) := none
  headCostCenterId : Option (Option RowId) := none
  headCostCenterCode : Option (Option String) := none

/-- Why an edit is refused. -/
inductive ErrorCode where
  | resourceNotFound
  | validationFailed
  | orgUnitCycle
  | orgUnitParentArchived
  | orgUnitHasChildren
  | hasDependentEntities
  | orgUnitPrefixOutOfParent
  | orgUnitCodePrefixExists
  | orgUnitNameDuplicate
  | orgUnitCodeAlreadyExists
  deriving DecidableEq

/-- The error of a refused edit, with the fields it is about. -/
structure ApiException where
  code : ErrorCode
  message : Option String := none
  fields : List (String × String) := []
  deriving DecidableEq

/-- What a warning of a saved edit is about. -/
inductive OrgUnitWarningCode where
  | prefixOutsideParent
  | headCenterPending
  deriving DecidableEq

/-- A warning of a saved edit. -/
structure OrgUnitWarningDetail where
  field : String
  code : OrgUnitWarningCode
  message : String
  deriving DecidableEq

/-- The head centre an edit asks for. -/
structure HeadCenterChoice where
  headCostCenterId : Option RowId
  headCostCenterCode : Option String
  warning : Option OrgUnitWarningDetail

/-! ### Reads -/

/-- The unit with an id. -/
def findById (units : List OrganizationalUnit) (id : RowId) : Option OrganizationalUnit :=
  units.find? fun unit => unit.id = id

/-- The unit with an id, or the error that there is none. -/
def requireUnit (units : List OrganizationalUnit) (id : RowId) :
    Except ApiException OrganizationalUnit :=
  match findById units id with
  | some unit => .ok unit
  | none => .error { code := .resourceNotFound }

/-- The parent of each unit. -/
def parentOf (units : List OrganizationalUnit) (id : RowId) : Option RowId :=
  (findById units id).bind OrganizationalUnit.parentId

/-- Whether the first unit is met on the way up from the second. No way up
through different units is longer than there are units. -/
def isAncestorOf (units : List OrganizationalUnit) (ancestorId nodeId : RowId) : Bool :=
  ParentMap.meetsWithin (parentOf units) ancestorId units.length (parentOf units nodeId)

/-- The path segment of a code. -/
def toPathSegment (code : String) : String := asciiLower code

/-- The path of a unit below a path. -/
def childPath (parentPath : Option String) (code : String) : String :=
  match present parentPath with
  | some path => path ++ "/" ++ toPathSegment code
  | none => "/" ++ toPathSegment code

/-! ### Checks -/

/-- The parent must be active. -/
def assertParentActive (parent : Option OrganizationalUnit) : Except ApiException Unit :=
  match parent with
  | some parent =>
    if !parent.isActive then
      .error
        { code := .orgUnitParentArchived
          message := some (parent.name ++ " está archivada. Elija otra dependencia o reactívela primero.")
          fields := [("parentId", parent.id.text)] }
    else .ok ()
  | none => .ok ()

/-- A unit with active units or centres below it is not archived. -/
def assertArchivable (system : System) (unit : OrganizationalUnit) : Except ApiException Unit :=
  let children := system.units.countP fun other => other.parentId = some unit.id && other.isActive
  let activeCenters := system.costCenters.countP fun center =>
    center.organizationalUnitId = some unit.id && center.isActive
  if 0 < children then
    .error
      { code := .orgUnitHasChildren
        message := some (
          if children = 1 then "Tiene 1 dependencia activa debajo. Muévala o archívela primero."
          else "Tiene " ++ toString children ++
            " dependencias activas debajo. Muévalas o archívelas primero.")
        fields := [("activeChildren", toString children)] }
  else if 0 < activeCenters then
    .error
      { code := .hasDependentEntities
        message := some (
          if activeCenters = 1 then
            "Tiene 1 centro de costo activo. Muévalo a otra dependencia o archívelo primero."
          else "Tiene " ++ toString activeCenters ++
            " centros de costo activos. Muévalos a otra dependencia o archívelos primero.")
        fields := [("activeCostCenters", toString activeCenters)] }
  else .ok ()

/-- Collegiate bodies have neither a prefix nor a head centre. -/
def assertCollegiateBodyRules (type : OrgUnitType) (codePrefix : Option String)
    (dto : UpdateOrganizationalUnitDto) : Except ApiException Unit :=
  if !isCollegiateBody type then .ok ()
  else if (present codePrefix).isSome then
    .error
      { code := .validationFailed
        message := some "Los consejos, comités y comisiones no llevan prefijo."
        fields := [("codePrefix", "Deje el prefijo vacío.")] }
  else
    let headCode := dto.headCostCenterCode.join
    let head := headCode.or (dto.headCostCenterId.join.map RowId.text)
    if (present head).isSome then
      .error
        { code := .validationFailed
          message := some "Los consejos, comités y comisiones no llevan centro propio."
          fields := [(if (present headCode).isSome then "headCostCenterCode" else "headCostCenterId",
            "Deje el centro propio vacío.")] }
    else .ok ()

/-- The units from one upwards, at most a number of them. -/
def ancestorsFrom (units : List OrganizationalUnit) : ℕ → Option OrganizationalUnit →
    List OrganizationalUnit
  | 0, _ => []
  | _, none => []
  | n + 1, some unit => unit :: ancestorsFrom units n (unit.parentId.bind (findById units))

/-- Check a prefix against those above it. -/
def assertPrefixInParent (system : System) (codePrefix unitName : String)
    (parent : Option OrganizationalUnit) (unitId : RowId) :
    Except ApiException (Option OrgUnitWarningDetail) :=
  let prefixed := (ancestorsFrom system.units maxDepth parent).filter fun unit =>
    (present unit.codePrefix).isSome
  let ancestor := prefixed.head?
  let expected := ancestor.bind OrganizationalUnit.codePrefix
  let others := KeyedMap.ofList
    (((system.units.filter OrganizationalUnit.isActive).filter fun unit =>
      (present unit.codePrefix).isSome && unit.id ≠ unitId && unit.codePrefix ≠ some codePrefix).map
      fun unit => (unit.codePrefix.getD "", unit.name))
  let check := checkUnitPrefix codePrefix expected others
    (prefixed.filterMap OrganizationalUnit.codePrefix) (some unitName)
    (ancestor.map OrganizationalUnit.name)
  match check.level, present check.message with
  | .error, _ =>
    .error
      { code := .orgUnitPrefixOutOfParent
        message := check.message
        fields := [("codePrefix", expected.getD "" ++ "…")] }
  | .warning, some message => .ok (some ⟨"codePrefix", .prefixOutsideParent, message⟩)
  | _, _ => .ok none

/-- No other active unit has the prefix. -/
def assertPrefixFree (units : List OrganizationalUnit) (codePrefix : String) (unitId : RowId) :
    Except ApiException Unit :=
  match units.find? fun unit => unit.codePrefix = some codePrefix && unit.isActive with
  | some holder =>
    if holder.id ≠ unitId then
      .error
        { code := .orgUnitCodePrefixExists
          message := some ("El prefijo " ++ codePrefix ++ " ya es de " ++ holder.name ++ ".")
          fields := [("codePrefix", holder.code)] }
    else .ok ()
  | none => .ok ()

/-- No other active unit has the name under the same parent. -/
def assertNameFree (unicode : Unicode) (units : List OrganizationalUnit) (name : String)
    (parent : Option OrganizationalUnit) (unitId : RowId) : Except ApiException Unit :=
  match units.find? fun other => other.id ≠ unitId && other.isActive &&
      other.parentId = parent.map OrganizationalUnit.id && sameUnitName unicode other.name name with
  | some sibling =>
    .error
      { code := .orgUnitNameDuplicate
        message := some (duplicateSiblingError sibling.name (parent.map OrganizationalUnit.name))
        fields := [("name", sibling.id.text)] }
  | none => .ok ()

/-- The head centre of an edit, by its code or by its id. -/
def chooseHeadCenter (system : System) (dto : UpdateOrganizationalUnitDto) :
    Except ApiException (Option HeadCenterChoice) :=
  match dto.headCostCenterCode, dto.headCostCenterId with
  | some none, _ => .ok (some ⟨none, none, none⟩)
  | some (some code), _ =>
    match system.costCenters.find? fun center => center.externalCode = code with
    | some center =>
      if center.isActive then .ok (some ⟨some center.id, some code, none⟩)
      else
        .ok (some ⟨none, some code, some ⟨"headCostCenterCode", .headCenterPending,
          pendingHeadCenterMessage code true⟩⟩)
    | none =>
      .ok (some ⟨none, some code, some ⟨"headCostCenterCode", .headCenterPending,
        pendingHeadCenterMessage code false⟩⟩)
  | none, none => .ok none
  | none, some none => .ok (some ⟨none, none, none⟩)
  | none, some (some id) =>
    match system.costCenters.find? fun center => center.id = id with
    | some center => .ok (some ⟨some id, some center.externalCode, none⟩)
    | none =>
      .error
        { code := .resourceNotFound
          message := some "Ese centro de costo no existe."
          fields := [("headCostCenterId", id.text)] }

/-! ### The edit -/

/-- The parent an edit leaves a unit with. -/
def chooseParent (units : List OrganizationalUnit) (unit : OrganizationalUnit)
    (dto : UpdateOrganizationalUnitDto) : Except ApiException (Option OrganizationalUnit) :=
  match dto.parentId with
  | none => .ok (unit.parentId.bind (findById units))
  | some none => .ok none
  | some (some parentId) =>
    if parentId = unit.id then .error { code := .orgUnitCycle }
    else
      match requireUnit units parentId with
      | .error error => .error error
      | .ok parent =>
        if isAncestorOf units unit.id parent.id then .error { code := .orgUnitCycle }
        else .ok (some parent)

/-- The id of the parent an edit leaves a unit with. -/
def chooseParentId (unit : OrganizationalUnit) (dto : UpdateOrganizationalUnitDto) : Option RowId :=
  dto.parentId.getD unit.parentId

/-- The checks of an edit on the columns besides the code, with its warnings
and the head centre it asks for. -/
def checkUpdate (unicode : Unicode) (system : System) (unit : OrganizationalUnit)
    (parent : Option OrganizationalUnit) (dto : UpdateOrganizationalUnitDto) :
    Except ApiException (List OrgUnitWarningDetail × Option HeadCenterChoice) := do
  let parentId := chooseParentId unit dto
  let reactivating := dto.isActive = some true ∧ unit.isActive = false
  if parentId ≠ unit.parentId ∨ reactivating then assertParentActive parent
  if dto.isActive = some false ∧ unit.isActive = true then assertArchivable system unit
  let nextPrefix := dto.codePrefix.getD unit.codePrefix
  assertCollegiateBodyRules (dto.type.getD unit.unitType) nextPrefix dto
  let prefixWarning ← match present nextPrefix with
    | some codePrefix =>
      if nextPrefix ≠ unit.codePrefix ∨ parentId ≠ unit.parentId then
        assertPrefixInParent system codePrefix (dto.name.getD unit.name) parent unit.id
      else pure none
    | none => pure none
  match present nextPrefix with
  | some codePrefix =>
    if dto.isActive.getD unit.isActive then assertPrefixFree system.units codePrefix unit.id
  | none => pure ()
  let nextName := dto.name.getD unit.name
  if dto.isActive.getD unit.isActive = true ∧
      (sameUnitName unicode nextName unit.name = false ∨ parentId ≠ unit.parentId ∨ reactivating) then
    assertNameFree unicode system.units nextName parent unit.id
  let head ← chooseHeadCenter system dto
  return (prefixWarning.toList ++ (head.bind HeadCenterChoice.warning).toList, head)

/-- The path an edit gives a unit. -/
def nextPath (unit : OrganizationalUnit) (parent : Option OrganizationalUnit)
    (dto : UpdateOrganizationalUnitDto) : String :=
  childPath (parent.bind OrganizationalUnit.hierarchyPath) (dto.code.getD unit.code)

/-- The level an edit gives a unit. -/
def nextLevel (parent : Option OrganizationalUnit) : ℤ :=
  match parent with
  | some parent => parent.hierarchyLevel + 1
  | none => 0

/-- Whether an edit changes the path of a unit. -/
def pathChanged (unit : OrganizationalUnit) (parent : Option OrganizationalUnit)
    (dto : UpdateOrganizationalUnitDto) : Bool :=
  some (nextPath unit parent dto) ≠ unit.hierarchyPath

/-- The unit with the columns of an edit. -/
def updated (unit : OrganizationalUnit) (parent : Option OrganizationalUnit)
    (dto : UpdateOrganizationalUnitDto) (head : Option HeadCenterChoice) : OrganizationalUnit :=
  { unit with
    name := dto.name.getD unit.name
    unitType := dto.type.getD unit.unitType
    isActive := dto.isActive.getD unit.isActive
    code := dto.code.getD unit.code
    codePrefix := dto.codePrefix.getD unit.codePrefix
    parentId := chooseParentId unit dto
    relationType := dto.relationType.getD unit.relationType
    color := dto.color.getD unit.color
    headCostCenterId := (head.map HeadCenterChoice.headCostCenterId).getD unit.headCostCenterId
    headCostCenterCode := (head.map HeadCenterChoice.headCostCenterCode).getD unit.headCostCenterCode
    hierarchyPath :=
      if pathChanged unit parent dto then some (nextPath unit parent dto) else unit.hierarchyPath
    hierarchyLevel :=
      if pathChanged unit parent dto then nextLevel parent else unit.hierarchyLevel }

/-- Whether the statement that rewrites paths takes a unit. -/
def looksBelow (oldPath : String) (unit : OrganizationalUnit) : Bool :=
  unit.hierarchyPath.any fun path => SqlLike.like (oldPath ++ "/%").toList path.toList

/-- The new place of a unit below a path that changed. -/
def rewritten (oldPath newPath : String) (levelDelta : ℤ) (unit : OrganizationalUnit) :
    OrganizationalUnit :=
  { unit with
    hierarchyPath := unit.hierarchyPath.map fun path =>
      newPath ++ String.ofList (path.toList.drop (utf16Length oldPath))
    hierarchyLevel := unit.hierarchyLevel + levelDelta }

/-- Rewrite the paths that look like being below the old one. -/
def rewriteDescendantPaths (oldPath newPath : String) (levelDelta : ℤ)
    (units : List OrganizationalUnit) : List OrganizationalUnit :=
  units.map fun unit =>
    if looksBelow oldPath unit then rewritten oldPath newPath levelDelta unit else unit

/-- The table with the columns of an edit, before the paths below are rewritten. -/
def written (units : List OrganizationalUnit) (unit after : OrganizationalUnit) :
    List OrganizationalUnit :=
  units.map fun other => if other.id = unit.id then after else other

/-- Edit a unit: the table after it, with the warnings of the edit. -/
def update (unicode : Unicode) (system : System) (id : RowId) (dto : UpdateOrganizationalUnitDto) :
    Except ApiException (List OrganizationalUnit × List OrgUnitWarningDetail) := do
  let unit ← requireUnit system.units id
  let parent ← chooseParent system.units unit dto
  let (warnings, head) ← checkUpdate unicode system unit parent dto
  let after := updated unit parent dto head
  let units := written system.units unit after
  -- the code is unique in the table
  if system.units.any fun other => other.id ≠ unit.id && other.code = after.code then
    .error { code := .orgUnitCodeAlreadyExists }
  match present unit.hierarchyPath with
  | some oldPath =>
    if pathChanged unit parent dto then
      return (rewriteDescendantPaths oldPath (nextPath unit parent dto)
        (nextLevel parent - unit.hierarchyLevel) units, warnings)
    else return (units, warnings)
  | none => return (units, warnings)

end InternalControl.UnitHierarchy
