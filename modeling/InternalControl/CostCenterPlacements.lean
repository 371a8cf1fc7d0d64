import InternalControl.OrgChartTypes
import InternalControl.ParentMap
import InternalControl.Table
import InternalControl.Timeline

/-!
# Placements of cost centres

Where a cost centre belongs is written twice: in its row, and in the open one of
its placements. A change closes the open placement and opens the next one where
it ends, whatever the clock shows. The store keeps microseconds and the runtime
milliseconds, so an end that the store returns can lose its last three digits on
the way into the next placement; a condition on the step says when it does not.
-/

namespace InternalControl.CostCenterPlacements

abbrev Uuid := String

/-- A time of the store, in microseconds. -/
abbrev Timestamp := ℤ

/-- A time of the runtime, in milliseconds. -/
abbrev Date := ℤ

def toTimestamp (date : Date) : Timestamp := date * 1000

/-- What the driver makes of a time of the store. -/
def toDate (timestamp : Timestamp) : Date := timestamp / 1000

/-- A time of the store is kept by the driver when it has no digits below the millisecond. -/
theorem toTimestamp_toDate (timestamp : ℤ) :
    toTimestamp (toDate timestamp) = timestamp ↔ timestamp % 1000 = 0 := by
  change timestamp / 1000 * 1000 = timestamp ↔ timestamp % 1000 = 0
  omega

inductive PlacementMode where
  | auto
  | manual
  deriving DecidableEq

inductive PlacementSource where
  | manual
  | import_
  | migration
  | auto
  deriving DecidableEq

inductive CostCenterSyncSource where
  | manual
  | importExcel
  | apiErp
  deriving DecidableEq

/-- Why a call is refused. -/
inductive ErrorCode where
  | resourceNotFound
  | validationFailed
  | costCenterPlacementCycle
  | costCenterGroupingHasAssets
  /-- A statement violates a constraint of the store. -/
  | internal
  deriving DecidableEq

structure ApiException where
  code : ErrorCode
  message : Option String := none
  fields : List (String × String) := []
  deriving DecidableEq

structure PlacementState where
  unitId : Option Uuid
  parentId : Option Uuid
  hasMovement : Bool
  deriving DecidableEq

/-- The changes that are asked for. A reference can be cleared. -/
structure PlacementPatch where
  unitId : Option (Option Uuid) := none
  parentId : Option (Option Uuid) := none
  hasMovement : Option Bool := none

structure PlacementContext where
  reason : String
  actorId : Option Uuid
  source : PlacementSource
  ip : Option String := none
  userAgent : Option String := none
  stagingImportId : Option Uuid := none
  mode : Option PlacementMode := none

structure PlacementChange where
  placementId : Uuid
  from_ : PlacementState
  to_ : PlacementState
  fromMode : PlacementMode
  toMode : PlacementMode
  acceptsAssetsCleared : Bool
  deriving DecidableEq

structure CostCenter where
  id : Uuid
  externalCode : String
  state : PlacementState
  acceptsAssets : Bool
  syncSource : CostCenterSyncSource
  createdAt : Timestamp
  deriving DecidableEq

structure Placement where
  id : Uuid
  costCenterId : Uuid
  state : PlacementState
  validFrom : Timestamp
  validUntil : Option Timestamp
  reason : String
  changedBy : Option Uuid
  ipAddress : Option String
  userAgent : Option String
  source : PlacementSource
  stagingImportId : Option Uuid
  mode : PlacementMode
  deriving DecidableEq

abbrev Centers := Table CostCenter.id

abbrev Placements := Table Placement.id

/-- The condition under which a placement is the one of an instant. -/
def validAt (placement : Placement) (at_ : Timestamp) : Prop :=
  Timeline.Covers Placement.validFrom Placement.validUntil placement at_

instance (placement : Placement) (at_ : Timestamp) : Decidable (validAt placement at_) :=
  inferInstanceAs (Decidable (Timeline.Covers _ _ placement at_))

def userAgentMax : ℕ := 500

/-! ### The store -/

/-- Without the blanks at both ends. -/
def btrim (text : String) : List Char :=
  ((text.toList.dropWhile (· = ' ')).reverse.dropWhile (· = ' ')).reverse

/-- The constraints on one placement. -/
def Placement.Allowed (placement : Placement) : Prop :=
  (placement.stagingImportId = none ∨ placement.source = .import_) ∧
    3 ≤ (btrim placement.reason).length ∧
    (∀ until_ ∈ placement.validUntil, placement.validFrom ≤ until_) ∧
    placement.state.parentId ≠ some placement.costCenterId

/-- The instants of one placement and of another meet. -/
def Placement.Overlaps (placement other : Placement) : Prop :=
  (∀ until_ ∈ placement.validUntil, placement.validFrom < until_ ∧ other.validFrom < until_) ∧
    ∀ until_ ∈ other.validUntil, other.validFrom < until_ ∧ placement.validFrom < until_

/-- Two placements of one centre that cannot stand together. -/
def Placement.Conflicts (placement other : Placement) : Prop :=
  placement.costCenterId = other.costCenterId ∧
    ((placement.validUntil = none ∧ other.validUntil = none) ∨ placement.Overlaps other)

instance (placement : Placement) : Decidable placement.Allowed := by
  unfold Placement.Allowed
  infer_instance

instance (placement other : Placement) : Decidable (placement.Conflicts other) := by
  unfold Placement.Conflicts Placement.Overlaps
  infer_instance

/-- Insert a placement, under the constraints of its table. -/
def insertPlacement (placements : Placements) (placement : Placement) :
    Except ApiException Placements :=
  if placement.Allowed ∧ ∀ other ∈ placements.rows, ¬placement.Conflicts other then
    match placements.insert placement with
    | some after => .ok after
    | none => .error { code := .internal }
  else .error { code := .internal }

/-- The open placement of a centre. -/
def openPlacement (placements : Placements) (costCenterId : Uuid) : Option Placement :=
  placements.rows.find? fun placement =>
    placement.costCenterId = costCenterId ∧ placement.validUntil = none

/-- Where a placement ends when it is closed: never before it starts. -/
def closedAt (now : Date) (placement : Placement) : Timestamp :=
  max (toTimestamp now) placement.validFrom

/-- Close the open placement of a centre. -/
def close (placements : Placements) (costCenterId : Uuid) (now : Date) : Placements :=
  placements.update
    (fun placement => placement.costCenterId = costCenterId ∧ placement.validUntil = none)
    (fun placement => { placement with validUntil := some (closedAt now placement) })
    fun _ => rfl

/-- The placement a centre starts with. -/
def initialPlacement (center : CostCenter) (context : PlacementContext) (id : Uuid) :
    Placement where
  id := id
  costCenterId := center.id
  state := center.state
  validFrom := center.createdAt
  validUntil := none
  reason := OrgChart.trim context.reason
  changedBy := context.actorId
  ipAddress := context.ip
  userAgent := context.userAgent.map fun agent => Text.sliceTo agent userAgentMax
  source := context.source
  stagingImportId := context.stagingImportId
  mode := context.mode.getD .auto

/-- The rows of centres and placements, and which centres their own transaction has not
committed. -/
structure System where
  centers : Centers
  placements : Placements
  creating : List Uuid

/-! ### Opening -/

/-- Open the first placement of a centre. -/
def open_ (system : System) (costCenterId : Uuid) (context : PlacementContext)
    (placementId : Uuid) : Except ApiException System := do
  match system.centers.find? costCenterId with
  | none => .error ⟨.resourceNotFound, some "No encontramos el centro de costo.", []⟩
  | some center =>
    let placements ← insertPlacement system.placements
      (initialPlacement center context placementId)
    return { system with placements := placements }

/-- Open the first placements of the centres that are given. -/
def openMany (system : System) (costCenterIds : List Uuid) (context : PlacementContext)
    (placementIds : Uuid → Uuid) : Except ApiException System := do
  let centers := system.centers.rows.filter fun center => center.id ∈ costCenterIds
  let placements ← centers.foldlM (fun placements center =>
    insertPlacement placements (initialPlacement center context (placementIds center.id)))
    system.placements
  return { system with placements := placements }

/-- What opens a placement for a centre that is committed without one. -/
def triggerContext (center : CostCenter) : PlacementContext where
  reason := "Alta del centro de costo sin historial abierto por la aplicación"
  actorId := none
  source := if center.syncSource = .manual then .manual else .import_

/-- The transaction that creates a centre commits. -/
def commitCenter (system : System) (costCenterId placementId : Uuid) :
    Except ApiException System := do
  let committed := { system with creating := system.creating.filter (· ≠ costCenterId) }
  if ∃ placement ∈ system.placements.rows, placement.costCenterId = costCenterId then
    return committed
  match system.centers.find? costCenterId with
  | none => return committed
  | some center => open_ committed costCenterId (triggerContext center) placementId

/-! ### Changing -/

/-- What the statements of a change read of rows that it does not lock. -/
structure Reads where
  /-- Whether the units that there are are active. -/
  units : Uuid → Option Bool
  /-- The parents of the centres that there are. -/
  parents : Uuid → Option (Option Uuid)
  /-- How many assets of the centre are not written off. -/
  assets : ℕ

def PlacementPatch.applied (patch : PlacementPatch) (from_ : PlacementState) :
    PlacementState where
  unitId := patch.unitId.getD from_.unitId
  parentId := patch.parentId.getD from_.parentId
  hasMovement := patch.hasMovement.getD from_.hasMovement

/-- A unit that a centre is moved to is there and active. -/
def assertUnit (reads : Reads) (from_ to_ : PlacementState) : Except ApiException Unit :=
  match to_.unitId with
  | none => .ok ()
  | some unitId =>
    if to_.unitId = from_.unitId then .ok ()
    else match reads.units unitId with
      | none => .error ⟨.resourceNotFound, some "Esa dependencia no existe.", []⟩
      | some false => .error ⟨.validationFailed,
          some "Esa dependencia está archivada. Elija otra.",
          [("organizationalUnitId", "Dependencia archivada.")]⟩
      | some true => .ok ()

/-- A parent that a centre is moved under is there, and not below the centre as far as it is
walked up. -/
def assertNoCycle (reads : Reads) (costCenterId parentId : Uuid) : Except ApiException Unit :=
  if parentId = costCenterId then
    .error ⟨.costCenterPlacementCycle, some "Un centro no puede ser su propio padre.", []⟩
  else if reads.parents parentId = none then
    .error ⟨.resourceNotFound, some "No encontramos el centro padre.", []⟩
  else if ParentMap.meetsWithin (fun id => (reads.parents id).join) costCenterId 65
      (some parentId) then
    .error ⟨.costCenterPlacementCycle, none, []⟩
  else .ok ()

def assertParent (reads : Reads) (costCenterId : Uuid) (from_ to_ : PlacementState) :
    Except ApiException Unit :=
  match to_.parentId with
  | none => .ok ()
  | some parentId =>
    if to_.parentId = from_.parentId then .ok ()
    else assertNoCycle reads costCenterId parentId

/-- Whether a centre that becomes a grouping one stops accepting assets. -/
def clearsAssets (reads : Reads) (center : CostCenter) (to_ : PlacementState) :
    Except ApiException Bool :=
  if to_.hasMovement = false ∧ center.state.hasMovement = true then
    if 0 < reads.assets then
      let count := if reads.assets = 1 then "1 activo asignado"
        else toString reads.assets ++ " activos asignados"
      .error ⟨.costCenterGroupingHasAssets,
        some ("El centro " ++ center.externalCode ++ " tiene " ++ count ++
          ". No puede quedar como agrupador."),
        [("activeAssets", toString reads.assets)]⟩
    else .ok center.acceptsAssets
  else .ok false

/-- Where the next placement starts: where the open one was closed, as the driver shows it. -/
def nextValidFrom (placements : Placements) (costCenterId : Uuid) (now : Date) : Date :=
  match openPlacement placements costCenterId with
  | some current => toDate (closedAt now current)
  | none => now

def nextPlacement (placements : Placements) (costCenterId : Uuid) (to_ : PlacementState)
    (toMode : PlacementMode) (context : PlacementContext) (now : Date) (placementId : Uuid) :
    Placement where
  id := placementId
  costCenterId := costCenterId
  state := to_
  validFrom := toTimestamp (nextValidFrom placements costCenterId now)
  validUntil := none
  reason := OrgChart.trim context.reason
  changedBy := context.actorId
  ipAddress := context.ip
  userAgent := context.userAgent.map fun agent => Text.sliceTo agent userAgentMax
  source := context.source
  stagingImportId := context.stagingImportId
  mode := toMode

/-- Write where a centre belongs into its row. -/
def place (centers : Centers) (costCenterId : Uuid) (to_ : PlacementState)
    (acceptsAssetsCleared : Bool) : Centers :=
  centers.update (fun center => center.id = costCenterId)
    (fun center => { center with
      state := to_
      acceptsAssets := if acceptsAssetsCleared then false else center.acceptsAssets })
    fun _ => rfl

/-- Change where a centre belongs. Its row is locked until the transaction ends. -/
def change (system : System) (reads : Reads) (costCenterId : Uuid) (patch : PlacementPatch)
    (context : PlacementContext) (now : Date) (placementId : Uuid) :
    Except ApiException (System × Option PlacementChange) := do
  match system.centers.find? costCenterId with
  | none => .error ⟨.resourceNotFound, some "No encontramos el centro de costo.", []⟩
  | some center =>
    let to_ := patch.applied center.state
    let fromMode :=
      ((openPlacement system.placements costCenterId).map Placement.mode).getD .auto
    let toMode := context.mode.getD fromMode
    if center.state = to_ ∧ fromMode = toMode then return (system, none)
    assertUnit reads center.state to_
    assertParent reads costCenterId center.state to_
    let acceptsAssetsCleared ← clearsAssets reads center to_
    let placements ← insertPlacement (close system.placements costCenterId now)
      (nextPlacement system.placements costCenterId to_ toMode context now placementId)
    return ({ system with
        centers := place system.centers costCenterId to_ acceptsAssetsCleared
        placements := placements },
      some ⟨placementId, center.state, to_, fromMode, toMode, acceptsAssetsCleared⟩)

end InternalControl.CostCenterPlacements
