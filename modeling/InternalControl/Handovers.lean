import InternalControl.Documents

/-!
# The service of handovers

A handover gives assets to a person of their cost centre. It holds them until
its act is signed, which makes the person their custodian.
-/

namespace InternalControl.Handovers

open Assets AssetProcesses Documents

/-- NOT_DELIVERABLE_STATUSES. -/
def notDeliverableStatuses : List Assets.OperationalStatus := [.writtenOff, .onLoan]

/-- CANCELLABLE_HANDOVER_STATUSES. -/
def cancellableHandoverStatuses : List HandoverStatus := [.awaitingDocument, .pendingSignature]

/-- The text of a status in an error. -/
def statusText : HandoverStatus → String
  | .awaitingDocument => "AWAITING_DOCUMENT"
  | .pendingSignature => "PENDING_SIGNATURE"
  | .signed => "SIGNED"
  | .rejected => "REJECTED"
  | .cancelled => "CANCELLED"

/-- The type of the documents of handovers. -/
def entityType : String := "HANDOVER"

def formatKey : String := "OCI-01-55"

/-- Write a handover back. -/
def save (system : System) (handover : AssetHandover) : System :=
  { system with
    handovers := system.handovers.map fun other =>
      if other.id = handover.id then handover else other }

/-! ### Which assets may be handed over -/

/-- No asset is named twice. -/
def assertDistinct (assetIds : List RowId) : Except Failure Unit :=
  if ¬assetIds.Nodup then
    refuseWith .validationFailed "Un activo aparece más de una vez en la entrega."
      ((assetIds.filter fun id => 1 < assetIds.count id).dedup.map fun _ =>
        ("assets", "Este activo está repetido."))
  else .ok ()

/-- The assets of a handover, in the order of their ids. -/
def foundAssets (system : System) (assetIds : List RowId) : List Asset :=
  system.assets.filter fun asset => asset.id ∈ assetIds

/-- What is read of the assets as they are locked: `centerCode` is the code of a centre. -/
def assertAssets (system : System) (assetIds : List RowId) (costCenterId : RowId)
    (centerCode : RowId → String) : Except Failure Unit :=
  let found := foundAssets system assetIds
  let missing := assetIds.filter fun id => (statusOf system.assets id).isNone
  let blocked := found.filter fun asset => asset.operationalStatus ∈ notDeliverableStatuses
  let elsewhere := found.filter fun asset => asset.costCenterId ≠ costCenterId
  if missing ≠ [] then
    refuseWith .resourceNotFound "Algunos activos de la entrega no existen."
      (missing.map fun _ => ("assets", "Este activo no existe."))
  else if blocked ≠ [] then
    .error (.api .handoverAssetNotDeliverable none (blocked.map fun asset =>
      ("assets", "El activo " ++ asset.internalCode ++ " está " ++
        asset.operationalStatus.phrase ++ ".")))
  else if elsewhere ≠ [] then
    .error (.api .handoverCostCenterMismatch none (elsewhere.map fun asset =>
      ("assets", "El activo " ++ asset.internalCode ++ " está en el centro de costo " ++
        centerCode asset.costCenterId ++ ".")))
  else .ok ()

/-- The reasons that keep an asset from a handover. -/
def heldReasons (system : System) (asset : Asset) : List String :=
  holdReasons [holdOpenLoan system asset.id, holdRequestReservation system none asset.id,
    holdOpenTransfer system asset.id, holdOpenWriteOff system none asset.id]

/-- No other process holds an asset. -/
def assertNotHeld (system : System) (assetIds : List RowId) : Except Failure Unit :=
  let blocked := (foundAssets system assetIds).filter fun asset => heldReasons system asset ≠ []
  if blocked ≠ [] then
    .error (.api .handoverAssetReserved none (blocked.map fun asset =>
      ("assets", "El activo " ++ asset.internalCode ++ " " ++
        ", ".intercalate (heldReasons system asset) ++ ".")))
  else .ok ()

/-- No other handover holds an asset. -/
def assertNotInOpenHandover (system : System) (assetIds : List RowId) : Except Failure Unit :=
  let blocked := (foundAssets system assetIds).filter fun asset => inOpenHandover system asset.id
  if blocked ≠ [] then
    .error (.api .handoverAssetInOpenHandover none (blocked.map fun asset =>
      ("assets", "El activo " ++ asset.internalCode ++ " está en otra entrega abierta.")))
  else .ok ()

/-! ### The operations -/

/-- Insert a new handover with its items. -/
def insert (system : System) (id costCenterId : RowId) (assetIds : List RowId) :
    Except Failure System :=
  if system.handovers.any fun handover => handover.id = id then .error (.internal "duplicate key")
  else if assetIds.any fun assetId => inOpenHandover system assetId then
    refuse .handoverAssetInOpenHandover
  else .ok { system with
    handovers := system.handovers ++
      [{ id := id
         status := .awaitingDocument
         costCenterId := costCenterId
         assignedPersonId := none
         documentId := none
         items := openItems assetIds }] }

/-- Create a handover: `outside` is what the people, the signers and the centre
say, `enqueued` what the engine of documents says. -/
def create (system : System) (id costCenterId : RowId) (assetIds : List RowId)
    (centerCode : RowId → String) (outside enqueued : Except Failure Unit) :
    Except Failure System := do
  assertDistinct assetIds
  outside
  assertAssets system assetIds costCenterId centerCode
  assertNotHeld system assetIds
  assertNotInOpenHandover system assetIds
  enqueued
  insert system id costCenterId assetIds

/-- The handover with an id. -/
def find (system : System) (id : RowId) : Option AssetHandover :=
  system.handovers.find? fun handover => handover.id = id

/-- Cancel a handover: `voided` is what came of voiding its documents. -/
def cancel (system : System) (id : RowId) (voided : Except Failure Unit) :
    Except Failure System :=
  match find system id with
  | none => refuseWith .resourceNotFound "No encontramos la entrega."
  | some handover =>
    if handover.status = .signed then
      refuseWith .documentAlreadySigned "La entrega ya está firmada. No se puede cancelar."
    else
      match voided with
      | .error failure => .error failure
      | .ok _ =>
        if handover.status ∉ cancellableHandoverStatuses then
          refuseWith .invalidState "La entrega no se puede cancelar en su estado actual."
        else .ok (save system { handover with
          status := .cancelled, items := handover.items.map closedItem })

/-! ### The act -/

/-- The handover of an act. -/
def lockFor (system : System) (event : DocumentLifecycleEvent) : Except Failure AssetHandover :=
  if event.formatKey ≠ formatKey then
    .error (.internal ("El acta " ++ event.number ++ " es " ++ event.formatKey ++ ", no " ++
      formatKey))
  else
    match event.entityId.bind (find system) with
    | some handover => .ok handover
    | none => .error (.internal ("No existe la entrega " ++ orText event.entityId "(sin id)" ++
        " del acta " ++ event.number))

def onGenerated (system : System) (event : DocumentLifecycleEvent) : Except Failure System := do
  let handover ← lockFor system event
  if handover.status ≠ .awaitingDocument ∨ handover.documentId ≠ none then
    .error (.internal ("La entrega " ++ handover.id.text ++ " ya tiene acta (" ++
      orText handover.documentId (statusText handover.status) ++ ")"))
  return save system { handover with
    documentId := some event.documentId, status := .pendingSignature }

/-- The act is the one the handover waits for. -/
def assertExpectedDocument (handover : AssetHandover) (event : DocumentLifecycleEvent) :
    Except Failure Unit :=
  if handover.documentId ≠ some event.documentId then
    .error (.internal ("El acta " ++ event.number ++ " (" ++ event.documentId.text ++
      ") no es la de la entrega " ++ handover.id.text ++ " (" ++
      orText handover.documentId "sin acta" ++ ")"))
  else if handover.status ≠ .pendingSignature then
    .error (.internal ("La entrega " ++ handover.id.text ++ " está " ++
      statusText handover.status ++ ", no pendiente de firma"))
  else .ok ()

/-- The guard of an asset that changes its custodian. -/
def assertStillDeliverable (costCenterId : RowId) (current : Asset) : Except Failure Unit :=
  if current.operationalStatus ∈ notDeliverableStatuses then
    refuseWith .handoverAssetNotDeliverable ("El activo " ++ current.internalCode ++ " está " ++
      current.operationalStatus.phrase ++ ". La entrega no se aplica.")
  else if current.costCenterId ≠ costCenterId then
    refuseWith .handoverCostCenterMismatch ("El activo " ++ current.internalCode ++
      " cambió de centro de costo. La entrega no se aplica.")
  else .ok ()

/-- The change of an asset that changes its custodian. -/
def custodyChange (handover : AssetHandover) (receiver : RowId) (item : HeldItem) :
    AssetChange where
  assetId := item.assetId
  patch := { responsibleId := some (some receiver) }
  guard := assertStillDeliverable handover.costCenterId

/-- Who receives, by the act. -/
def receiverOf (event : DocumentLifecycleEvent) : Except Failure RowId :=
  match event.signersByRole "RECIBE" with
  | some receiver => .ok receiver
  | none => .error (.internal ("El acta " ++ event.number ++ " no tiene firmante RECIBE"))

/-- The act is signed by all: `linked` is whether its assets were still to be
linked to their movements. -/
def onSigned (system : System) (event : DocumentLifecycleEvent) (movement : RowId → RowId)
    (linked : Except Failure Unit) : Except Failure System := do
  let handover ← lockFor system event
  assertExpectedDocument handover event
  let receiver ← receiverOf event
  linked
  let assets ← applyAll system.assets (handover.items.map (custodyChange handover receiver))
  return save { system with assets := assets } { handover with
    status := .signed
    assignedPersonId := some receiver
    items := handover.items.map (movedItem movement) }

/-- The act is refused. -/
def onRejected (system : System) (event : DocumentLifecycleEvent) : Except Failure System := do
  let handover ← lockFor system event
  assertExpectedDocument handover event
  return save system { handover with
    status := .rejected, items := handover.items.map closedItem }

end InternalControl.Handovers
