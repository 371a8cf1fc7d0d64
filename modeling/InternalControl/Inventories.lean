import InternalControl.AssetChanges

/-!
# The service of physical inventories

An inventory starts with the assets of its scope, records what is found of
each, and closes. Its reconciliation, asked for by one person and approved by
another, then changes the assets.
-/

namespace InternalControl.Inventories

open Assets AssetProcesses Fallible

/-- The statuses each status of an inventory may change to. -/
def allowed : InventoryStatus → List InventoryStatus
  | .planned => [.inProgress, .cancelled]
  | .inProgress => [.closed, .cancelled]
  | .closed => [.reconciled]
  | .reconciled => []
  | .cancelled => []

def assertInventoryTransition (source target : InventoryStatus) : Except Failure Unit :=
  if target ∉ allowed source then refuse .invalidState else .ok ()

/-- More than one asset in twenty is still to be verified. -/
def exceedsUnverifiedThreshold (pending expected : ℕ) : Bool := expected < 20 * pending

/-- The inventory with an id. -/
def requireInventory (system : System) (id : RowId) : Except Failure PhysicalInventory :=
  match system.inventories.find? fun inventory => inventory.id = id with
  | some inventory => .ok inventory
  | none => refuse .resourceNotFound

/-- The inventory with an id, which is going on. -/
def requireInProgress (system : System) (id : RowId) : Except Failure PhysicalInventory := do
  let inventory ← requireInventory system id
  if inventory.status ≠ .inProgress then refuse .invalidState
  return inventory

/-- Write an inventory back. -/
def save (system : System) (inventory : PhysicalInventory) : System :=
  { system with
    inventories := system.inventories.map fun other =>
      if other.id = inventory.id then inventory else other }

/-- Write an item of an inventory back. -/
def saveItem (system : System) (inventory : PhysicalInventory) (item : PhysicalInventoryItem) :
    System :=
  save system { inventory with
    items := inventory.items.map fun other => if other.id = item.id then item else other }

/-- The item of an asset. -/
def findItem (inventory : PhysicalInventory) (assetId : RowId) : Option PhysicalInventoryItem :=
  inventory.items.find? fun item => item.assetId = some assetId

/-- The item of an asset, which has no result yet. -/
def requirePending (inventory : PhysicalInventory) (assetId : RowId) :
    Except Failure PhysicalInventoryItem :=
  match findItem inventory assetId with
  | none => refuse .resourceNotFound
  | some item =>
    if item.verificationResult = .surplus then refuse .resourceNotFound
    else if item.verificationResult ≠ .pending then refuse .invalidState
    else .ok item

/-! ### While it goes on -/

/-- The item an inventory starts with for an asset. -/
def expectedItem (itemId : RowId → RowId) (asset : Asset) : PhysicalInventoryItem where
  id := itemId asset.id
  assetId := some asset.id
  verificationResult := .pending
  expectedLocationId := asset.locationId
  actualLocationId := none
  expectedCondition := asset.physicalCondition
  actualCondition := none
  isOnLoan := asset.operationalStatus = .onLoan
  wasLost := false
  voided := false

/-- Start an inventory with the assets of its scope: `outside` is what the
policy and the other inventories say. -/
def start (system : System) (id : RowId) (inScope : Asset → Bool) (itemId : RowId → RowId)
    (outside : Except Failure Unit) : Except Failure System := do
  let inventory ← requireInventory system id
  assertInventoryTransition inventory.status .inProgress
  outside
  let assets := system.assets.filter fun asset =>
    asset.operationalStatus ≠ .writtenOff && inScope asset
  return save system { inventory with
    status := .inProgress
    items := inventory.items ++ assets.map (expectedItem itemId) }

/-- Record where and how an asset was found. -/
def verifyAsset (system : System) (id assetId : RowId) (locationId : Option RowId)
    (condition : Option Assets.PhysicalCondition) (outside : Except Failure Unit) :
    Except Failure System := do
  let inventory ← requireInProgress system id
  outside
  let item ← requirePending inventory assetId
  let actualLocationId := locationId.or item.expectedLocationId
  let misplaced := actualLocationId.isSome && item.expectedLocationId.isSome &&
    actualLocationId ≠ item.expectedLocationId
  let system ← changeAsset system { assetId := assetId, patch := {} }
  return saveItem system inventory { item with
    verificationResult := if misplaced then .misplaced else .found
    actualLocationId := actualLocationId
    actualCondition := condition }

/-- Record that an asset was not found. -/
def reportNotFound (system : System) (id assetId : RowId) (outside : Except Failure Unit) :
    Except Failure System := do
  let inventory ← requireInProgress system id
  let item ← requirePending inventory assetId
  outside
  return saveItem system inventory { item with verificationResult := .missing }

/-- Record something the inventory did not expect. -/
def reportUnexpected (system : System) (id itemId : RowId) (assetId locationId : Option RowId)
    (condition : Option Assets.PhysicalCondition) (outside : Except Failure Unit) :
    Except Failure System := do
  let inventory ← requireInProgress system id
  outside
  let asset ← assetId.mapM fun assetId => do
    if (findItem inventory assetId).any fun item => !item.voided then refuse .invalidState
    let asset ← findAsset system.assets assetId
    if asset.operationalStatus = .writtenOff then refuse .inventoryAssetWrittenOff
    return asset
  return save system { inventory with
    items := inventory.items ++
      [{ id := itemId
         assetId := assetId
         verificationResult := .surplus
         expectedLocationId := none
         actualLocationId := locationId
         expectedCondition := none
         actualCondition := condition
         isOnLoan := false
         wasLost := asset.any fun asset => asset.operationalStatus = .lost
         voided := false }] }

/-- What a correction says of an item. -/
structure CorrectInventoryItemDto where
  result : VerificationResult
  actualLocationId : Option RowId
  actualCondition : Option Assets.PhysicalCondition

/-- An error about a field of a correction. -/
def invalid {α : Type} (field message : String) : Except Failure α :=
  .error (.api .validationFailed (some message) [(field, message)])

/-- The item with a corrected result: `outside` is what the catalogues say. -/
def applyResult (item : PhysicalInventoryItem) (dto : CorrectInventoryItemDto)
    (outside : Except Failure Unit) : Except Failure PhysicalInventoryItem :=
  match dto.result with
  | .pending =>
    if dto.actualCondition.isSome || dto.actualLocationId.isSome then
      invalid "result" "Un activo pendiente no lleva condición ni ubicación."
    else .ok { item with
      verificationResult := .pending, actualCondition := none, actualLocationId := none }
  | .missing =>
    if dto.actualCondition.isSome || dto.actualLocationId.isSome then
      invalid "result" "Un faltante no lleva condición ni ubicación."
    else do
      outside
      return { item with
        verificationResult := .missing, actualCondition := none, actualLocationId := none }
  | result =>
    if dto.actualCondition.isNone then
      invalid "actualCondition" "Indique la condición del activo."
    else do
      outside
      let actualLocationId :=
        if result = .found then dto.actualLocationId.or item.expectedLocationId
        else dto.actualLocationId
      if result = .found ∧ item.expectedLocationId.isSome ∧
          actualLocationId ≠ item.expectedLocationId then
        invalid "actualLocationId"
          "Si está en otra ubicación, márquelo como en otra ubicación."
      if result ≠ .found ∧ (dto.actualLocationId.isNone ∨ item.expectedLocationId.isNone ∨
          dto.actualLocationId = item.expectedLocationId) then
        invalid "actualLocationId" "Indique una ubicación distinta de la esperada."
      return { item with
        verificationResult := result
        actualCondition := dto.actualCondition
        actualLocationId := actualLocationId }

/-- The item with an id. -/
def requireItem (inventory : PhysicalInventory) (itemId : RowId) :
    Except Failure PhysicalInventoryItem :=
  match inventory.items.find? fun item => item.id = itemId with
  | some item => .ok item
  | none => refuse .resourceNotFound

/-- Correct the result of an item: `changed` is whether its category changes. -/
def correct (system : System) (id itemId : RowId) (dto : CorrectInventoryItemDto)
    (changed : Bool) (outside : Except Failure Unit) : Except Failure System := do
  let inventory ← requireInProgress system id
  let item ← requireItem inventory itemId
  if item.verificationResult = .surplus then
    refuseWith .invalidState
      "Un sobrante no se corrige. Anúlelo y regístrelo de nuevo si hace falta."
  let corrected ← applyResult item dto outside
  if corrected = item ∧ !changed then invalid "result" "La corrección no cambia nada."
  return saveItem system inventory corrected

/-- Take back something the inventory did not expect. -/
def voidSurplus (system : System) (id itemId : RowId) (outside : Except Failure Unit) :
    Except Failure System := do
  let inventory ← requireInProgress system id
  outside
  let item ← requireItem inventory itemId
  if item.verificationResult ≠ .surplus ∨ item.voided then
    refuseWith .invalidState "Este sobrante ya está anulado."
  return saveItem system inventory { item with voided := true }

/-! ### Closing and reconciliation -/

/-- The items an inventory expects: all but what was come across. -/
def expectedItems (inventory : PhysicalInventory) : List PhysicalInventoryItem :=
  inventory.items.filter fun item => item.verificationResult ≠ .surplus

/-- Close an inventory: `authorized` is whether the closing without verification
is asked for and permitted. -/
def close (system : System) (id : RowId) (authorized outside : Except Failure Unit) :
    Except Failure System := do
  let inventory ← requireInventory system id
  assertInventoryTransition inventory.status .closed
  outside
  let expected := expectedItems inventory
  let pending := expected.filter fun item => item.verificationResult = .pending
  if exceedsUnverifiedThreshold pending.length expected.length then authorized
  return save system { inventory with
    status := .closed
    items := inventory.items.map fun item =>
      if item.verificationResult = .pending then { item with verificationResult := .notVerified }
      else item }

/-- Ask for the reconciliation of a closed inventory. -/
def requestReconcile (system : System) (id actorId : RowId) (outside : Except Failure Unit) :
    Except Failure System := do
  let inventory ← requireInventory system id
  if inventory.status ≠ .closed then refuse .invalidState
  if inventory.responsibleUserId ≠ actorId then refuse .insufficientPermissions
  if inventory.reconcileRequestedBy.isSome then refuse .invalidState
  outside
  return save system { inventory with reconcileRequestedBy := some actorId }

/-- Move an asset to where it was found. -/
def applyLocation (item : PhysicalInventoryItem) (assets : List Asset) :
    Except Failure (List Asset) :=
  match item.assetId, item.actualLocationId with
  | some assetId, some actualLocationId => do
    let asset ← findAsset assets assetId
    if asset.locationId = some actualLocationId then return assets
    else
      applyAll assets
        [{ assetId := assetId, patch := { locationId := some (some actualLocationId) } }]
  | _, _ => .ok assets

/-- Mark an asset that was not found as lost. -/
def applyLost (item : PhysicalInventoryItem) (assets : List Asset) :
    Except Failure (List Asset) :=
  match item.assetId with
  | none => .ok assets
  | some assetId => do
    let asset ← findAsset assets assetId
    if asset.operationalStatus = .lost ∨ asset.operationalStatus = .writtenOff then return assets
    else
      applyAll assets [{ assetId := assetId, patch := { operationalStatus := some .lost } }]

/-- Write the physical state an asset was found in. -/
def applyCondition (item : PhysicalInventoryItem) (assets : List Asset) :
    Except Failure (List Asset) :=
  match item.assetId, item.actualCondition with
  | some assetId, some actualCondition =>
    applyAll assets
      [{ assetId := assetId, patch := { physicalCondition := some (some actualCondition) } }]
  | _, _ => .ok assets

/-- The physical state found is not the one that was expected. -/
def conditionDiffers (item : PhysicalInventoryItem) : Bool :=
  (item.verificationResult = .found || item.verificationResult = .misplaced) &&
    item.actualCondition.isSome && item.expectedCondition.isSome &&
      item.actualCondition ≠ item.expectedCondition

/-- A change of the assets that is made in some case only. -/
def applyWhen (needed : Bool) (change : List Asset → Except Failure (List Asset))
    (assets : List Asset) : Except Failure (List Asset) :=
  if needed then change assets else .ok assets

/-- What the reconciliation does for an item. -/
def reconcileItem (assets : List Asset) (item : PhysicalInventoryItem) :
    Except Failure (List Asset) :=
  if item.assetId.isNone then .ok assets
  else do
    let assets ← applyWhen (item.verificationResult = .misplaced) (applyLocation item) assets
    let assets ← applyWhen (item.verificationResult = .missing) (applyLost item) assets
    applyWhen (conditionDiffers item) (applyCondition item) assets

/-- What the reconciliation does for items, one after another. -/
def reconcileItems : List Asset → List PhysicalInventoryItem → Except Failure (List Asset)
  | assets, [] => .ok assets
  | assets, item :: rest => do
    let assets ← reconcileItem assets item
    reconcileItems assets rest

/-- Approve the reconciliation of an inventory: `before` is what the request read. -/
def approveReconcile (before system : System) (id actorId : RowId)
    (outside : Except Failure Unit) : Except Failure System := do
  let inventory ← requireInventory before id
  if inventory.status ≠ .closed then refuse .invalidState
  if inventory.reconcileRequestedBy.isNone then refuse .invalidState
  if inventory.reconcileRequestedBy = some actorId then refuse .inventoryReconcileSod
  outside
  let assets ← reconcileItems system.assets inventory.items
  return { system with
    assets := assets
    inventories := system.inventories.map fun other =>
      if other.id = id then { other with status := .reconciled } else other }

end InternalControl.Inventories
