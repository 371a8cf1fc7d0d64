import InternalControl.Documents

/-!
# The service of transfers

A transfer takes assets from one cost centre to another. It holds them from
the moment it is a draft, and its act, once signed, moves them.
-/

namespace InternalControl.Transfers

open Assets AssetProcesses Documents

/-- The statuses each status of a transfer may change to. -/
def allowed : TransferStatus → List TransferStatus
  | .draft => [.pendingSignatures, .cancelled]
  | .pendingSignatures => [.completed, .rejected, .cancelled]
  | .completed => []
  | .rejected => []
  | .cancelled => []

def canTransferTransition (source target : TransferStatus) : Bool := target ∈ allowed source

/-- The text of a status in an error. -/
def statusText : TransferStatus → String
  | .draft => "DRAFT"
  | .pendingSignatures => "PENDING_SIGNATURES"
  | .completed => "COMPLETED"
  | .rejected => "REJECTED"
  | .cancelled => "CANCELLED"

/-- The type of the documents of transfers. -/
def entityType : String := "TRANSFER"

def formatKey : String := "OCI-17-89"

/-- The transfer with an id, locked. -/
def lock (system : System) (id : RowId) : Except Failure AssetTransfer :=
  match system.transfers.find? fun transfer => transfer.id = id with
  | some transfer => .ok transfer
  | none => refuseWith .resourceNotFound "No encontramos el traslado."

/-- Write a transfer back. -/
def save (system : System) (transfer : AssetTransfer) : System :=
  { system with
    transfers := system.transfers.map fun other =>
      if other.id = transfer.id then transfer else other }

/-! ### Which assets may be transferred -/

/-- An item of a transfer, as it is asked for. -/
structure TransferItemInputDto where
  assetId : RowId
  reasonId : RowId
  deriving DecidableEq

/-- No asset is named twice. -/
def assertDistinct (assetIds : List RowId) : Except Failure Unit :=
  if ¬assetIds.Nodup then
    refuseWith .validationFailed "Un activo aparece más de una vez en el traslado."
      ((assetIds.filter fun id => 1 < assetIds.count id).dedup.map fun _ =>
        ("items", "Este activo está repetido."))
  else .ok ()

/-- Fail with a code when some assets are in the way. -/
def failOn (code : ErrorCode) (assets : List Asset) (message : Asset → String) :
    Except Failure Unit :=
  if assets ≠ [] then
    .error (.api code none (assets.map fun asset => ("items", message asset)))
  else .ok ()

/-- The open transfer of an asset besides one. -/
def openTransferOf (system : System) (ownTransfer : Option RowId) (asset : Asset) :
    Option AssetTransfer :=
  system.transfers.find? fun transfer =>
    some transfer.id ≠ ownTransfer && heldIn transfer.items asset.id

/-- What is read of the assets once they are locked: none is missing, all are
in one cost centre, and none is held. -/
def assertFree (system : System) (assetIds : List RowId) (expectedSource : Option RowId)
    (ownTransfer : Option RowId) : Except Failure (Option RowId) := do
  let found := assetIds.filterMap fun id => system.assets.find? fun asset => asset.id = id
  if found.length ≠ assetIds.length then
    refuseWith .resourceNotFound "Algunos activos del traslado no existen."
      ((assetIds.filter fun id => (statusOf system.assets id).isNone).map fun _ =>
        ("items", "Este activo no existe."))
  let source := expectedSource.or (found.head?.map Asset.costCenterId)
  failOn .transferMixedSourceCostCenter (found.filter fun asset => some asset.costCenterId ≠ source)
    fun asset => "El activo " ++ asset.internalCode ++ " está en otro centro de costo."
  failOn .assetAlreadyWrittenOff
    (found.filter fun asset => asset.operationalStatus = .writtenOff)
    fun asset => "El activo " ++ asset.internalCode ++ " está dado de baja"
  failOn .assetCannotBeModified (found.filter fun asset => asset.operationalStatus = .onLoan)
    fun asset => "El activo " ++ asset.internalCode ++ " está en préstamo"
  failOn .assetUnderInventory (found.filter fun asset => inOpenInventory system asset.id)
    fun asset => "El activo " ++ asset.internalCode ++ " está en una toma física abierta"
  failOn .assetHasActiveLoan (found.filter fun asset => inOpenLoan system asset.id)
    fun asset => "El activo " ++ asset.internalCode ++ " está en un préstamo abierto"
  failOn .transferAssetInOpenTransfer
    (found.filter fun asset => (openTransferOf system ownTransfer asset).isSome)
    fun asset => "El activo " ++ asset.internalCode ++ " está en el traslado abierto " ++
      ((openTransferOf system ownTransfer asset).map fun transfer => transfer.id.text).getD "null"
  failOn .assetInOpenWriteOff (found.filter fun asset => inOpenWriteOff system none asset.id)
    fun asset => "El activo " ++ asset.internalCode ++ " está en una baja abierta."
  return source

/-- The reasons of the items are in the catalogue: `unavailable` are those that are not. -/
def assertReasons (items : List TransferItemInputDto) (unavailable : RowId → Bool) :
    Except Failure Unit :=
  let reasons := (items.map TransferItemInputDto.reasonId).dedup.filter unavailable
  if reasons ≠ [] then
    .error (.api .transferReasonUnavailable none
      (reasons.map fun _ => ("items.reasonId", "Ese motivo no existe o está inactivo.")))
  else .ok ()

/-! ### The operations -/

/-- Insert a new transfer with its items. -/
def insert (system : System) (id source target : RowId) (assetIds : List RowId)
    (assetRequestId : Option RowId) : Except Failure System :=
  if system.transfers.any fun transfer => transfer.id = id then .error (.internal "duplicate key")
  else if assetIds.any fun assetId => inOpenTransfer system none assetId then
    refuse .transferAssetInOpenTransfer
  else .ok { system with
    transfers := system.transfers ++
      [{ id := id
         status := .draft
         sourceCostCenterId := source
         targetCostCenterId := target
         documentId := none
         assetRequestId := assetRequestId
         items := openItems assetIds }] }

/-- The centre the assets are in: an empty id is none the database has. -/
def requireSource (source : Option RowId) : Except Failure RowId :=
  match source with
  | some source => .ok source
  | none => .error (.internal "invalid input syntax for type uuid")

/-- Create a transfer: `persons` and `target` are what the people and the target
centre say. -/
def createWithin (system : System) (id target : RowId) (items : List TransferItemInputDto)
    (assetRequestId : Option RowId) (unavailable : RowId → Bool) (persons : Except Failure Unit)
    (targetOf : RowId → Except Failure Unit) : Except Failure System := do
  persons
  assertDistinct (items.map TransferItemInputDto.assetId)
  let source ← assertFree system (items.map TransferItemInputDto.assetId) none none
  assertReasons items unavailable
  let source ← requireSource source
  targetOf source
  insert system id source target (items.map TransferItemInputDto.assetId) assetRequestId

/-- A transfer is a draft, so its items may be edited. -/
def assertDraft (transfer : AssetTransfer) : Except Failure Unit :=
  if transfer.status ≠ .draft then
    refuseWith .transferInvalidStateTransition
      "Los activos solo se editan mientras el traslado es borrador."
  else .ok ()

/-- Put other items in a draft. -/
def replaceItems (system : System) (id : RowId) (assetIds : List RowId) :
    Except Failure System := do
  let transfer ← lock system id
  if assetIds.any fun assetId => inOpenTransfer system (some id) assetId then
    refuse .transferAssetInOpenTransfer
  return save system { transfer with items := openItems assetIds }

/-- Edit the items of a draft: its own are deleted before the others are looked at. -/
def updateItems (system : System) (id : RowId) (items : List TransferItemInputDto)
    (unavailable : RowId → Bool) : Except Failure System := do
  let transfer ← lock system id
  assertDraft transfer
  assertDistinct (items.map TransferItemInputDto.assetId)
  let _ ← assertFree (save system { transfer with items := [] })
    (items.map TransferItemInputDto.assetId) (some transfer.sourceCostCenterId) none
  assertReasons items unavailable
  replaceItems system id (items.map TransferItemInputDto.assetId)

/-- Ask for the act of a draft: `outside` is what the reasons, the centres, the
signers and the engine of documents say. -/
def generateWithin (system : System) (id : RowId) (outside : Except Failure Unit) :
    Except Failure System := do
  let transfer ← lock system id
  if !canTransferTransition transfer.status .pendingSignatures then
    refuseWith .transferInvalidStateTransition
      "El acta del traslado ya se generó o el traslado está cerrado."
  if transfer.items = [] then refuseWith .validationFailed "El traslado no tiene activos."
  assertDistinct (transfer.items.map HeldItem.assetId)
  let _ ← assertFree system (transfer.items.map HeldItem.assetId)
    (some transfer.sourceCostCenterId) (some id)
  outside
  return save system { transfer with status := .pendingSignatures }

/-- Cancel a transfer: `signed` is whether a slot of its pending act is signed,
`voided` is what came of voiding its documents. -/
def cancel (system : System) (id : RowId) (signed : Bool) (voided : Except Failure Unit) :
    Except Failure System := do
  let transfer ← lock system id
  if !canTransferTransition transfer.status .cancelled then
    refuseWith .transferInvalidStateTransition
      "El traslado no se puede cancelar en su estado actual."
  if signed then
    refuseWith .transferInvalidStateTransition
      "El acta del traslado ya tiene firmas y no se puede cancelar. Un firmante puede rechazarla."
  voided
  return save system { transfer with
    status := .cancelled, items := transfer.items.map closedItem }

/-! ### The act -/

/-- The transfer of an act. -/
def lockFor (system : System) (event : DocumentLifecycleEvent) : Except Failure AssetTransfer :=
  if event.formatKey ≠ formatKey then
    .error (.internal ("El acta " ++ event.number ++ " es " ++ event.formatKey ++ ", no " ++
      formatKey))
  else
    match event.entityId with
    | none => .error (.internal ("El acta " ++ event.number ++ " no nombra su traslado"))
    | some id => lock system id

def onGenerated (system : System) (event : DocumentLifecycleEvent) : Except Failure System := do
  let transfer ← lockFor system event
  if transfer.status ≠ .pendingSignatures ∨ transfer.documentId ≠ none then
    .error (.internal ("El traslado " ++ transfer.id.text ++ " no espera acta (" ++
      orText transfer.documentId (statusText transfer.status) ++ ")"))
  return save system { transfer with documentId := some event.documentId }

/-- The act is the one the transfer has. -/
def assertOwnAct (transfer : AssetTransfer) (event : DocumentLifecycleEvent) :
    Except Failure Unit :=
  if transfer.documentId ≠ some event.documentId then
    .error (.internal ("El acta " ++ event.number ++ " no es la del traslado " ++
      transfer.id.text))
  else .ok ()

/-- The transfer waits for signatures. -/
def assertPending (transfer : AssetTransfer) : Except Failure Unit :=
  if transfer.status ≠ .pendingSignatures then
    .error (.internal ("El traslado " ++ transfer.id.text ++ " está " ++
      statusText transfer.status ++ ", no pendiente de firmas"))
  else .ok ()

/-- The guard of an asset that moves. -/
def assertMovable (transfer : AssetTransfer) (current : Asset) : Except Failure Unit :=
  if current.operationalStatus = .writtenOff ∨ current.operationalStatus = .onLoan then
    refuseWith .assetCannotBeModified ("El activo " ++ current.internalCode ++ " está " ++
      current.operationalStatus.phrase ++ ".")
  else if current.costCenterId ≠ transfer.sourceCostCenterId then
    refuseWith .transferMixedSourceCostCenter ("El activo " ++ current.internalCode ++
      " ya no está en el centro de origen.")
  else .ok ()

/-- The change of an asset that moves. -/
def transferChange (transfer : AssetTransfer) (item : HeldItem) : AssetChange where
  assetId := item.assetId
  patch := { costCenterId := some transfer.targetCostCenterId }
  guard := assertMovable transfer

/-- The transfer completes: its assets move and are held no longer. -/
def complete (system : System) (transfer : AssetTransfer) (movement : RowId → RowId) :
    Except Failure System := do
  let pending := pendingItems transfer.items
  assertDistinct (pending.map HeldItem.assetId)
  let _ ← assertFree system (pending.map HeldItem.assetId) (some transfer.sourceCostCenterId)
    (some transfer.id)
  let assets ← applyAll system.assets (pending.map (transferChange transfer))
  return save { system with assets := assets } { transfer with
    status := .completed, items := completedItems movement transfer.items }

/-- The act is signed by all: `linked` is whether its assets were still to be
linked to their movements. -/
def onSigned (system : System) (event : DocumentLifecycleEvent) (movement : RowId → RowId)
    (linked : Except Failure Unit) : Except Failure System := do
  let transfer ← lockFor system event
  assertOwnAct transfer event
  if transfer.status = .completed then return system
  else do
    assertPending transfer
    linked
    complete system transfer movement

/-- The act is refused. -/
def onRejected (system : System) (event : DocumentLifecycleEvent) : Except Failure System := do
  let transfer ← lockFor system event
  assertOwnAct transfer event
  if transfer.status = .rejected then return system
  else do
    assertPending transfer
    return save system { transfer with
      status := .rejected, items := transfer.items.map closedItem }

end InternalControl.Transfers
