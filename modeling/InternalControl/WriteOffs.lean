import InternalControl.Documents

/-!
# The service of write-offs

A write-off holds its assets from the moment it is a draft. Its act, once
signed, writes them off.
-/

namespace InternalControl.WriteOffs

open Assets AssetProcesses Documents

/-- The statuses each status of a write-off may change to. -/
def allowed : WriteOffStatus → List WriteOffStatus
  | .draft => [.pendingSignatures, .cancelled]
  | .pendingSignatures => [.completed, .rejected, .cancelled]
  | .completed => []
  | .rejected => []
  | .cancelled => []

def canWriteOffTransition (source target : WriteOffStatus) : Bool := target ∈ allowed source

/-- The text of a status in an error. -/
def statusText : WriteOffStatus → String
  | .draft => "DRAFT"
  | .pendingSignatures => "PENDING_SIGNATURES"
  | .completed => "COMPLETED"
  | .rejected => "REJECTED"
  | .cancelled => "CANCELLED"

def isWriteOffEditable (status : WriteOffStatus) : Bool := status = .draft

/-- The type of the documents of write-offs. -/
def entityType : String := "WRITE_OFF"

def formatKey : String := "OCI-17-90-BAJA"

/-- The write-off with an id, locked. -/
def lock (system : System) (id : RowId) : Except Failure AssetWriteOff :=
  match system.writeOffs.find? fun writeOff => writeOff.id = id with
  | some writeOff => .ok writeOff
  | none => refuseWith .resourceNotFound "No encontramos la baja."

/-- Write a write-off back. -/
def save (system : System) (writeOff : AssetWriteOff) : System :=
  { system with
    writeOffs := system.writeOffs.map fun other =>
      if other.id = writeOff.id then writeOff else other }

/-! ### Which assets may be written off -/

/-- BLOCKERS: the reasons that keep an asset from a write-off. -/
def blockers (system : System) (ownWriteOff : Option RowId) (asset : Asset) : List String :=
  holdReasons [holdStatus [.writtenOff, .onLoan] asset, holdOpenLoan system asset.id,
    holdOpenTransfer system asset.id, holdOpenInventory system asset.id,
    holdOpenHandover system asset.id, holdRequestReservation system none asset.id,
    holdOpenWriteOff system (some ownWriteOff) asset.id]

/-- No asset is named twice. -/
def assertDistinct (assetIds : List RowId) : Except Failure Unit :=
  if ¬assetIds.Nodup then
    refuseWith .validationFailed "Un activo aparece más de una vez en la baja."
      [("items", "Hay activos repetidos.")]
  else .ok ()

/-- What is read of the assets once they are locked: none is missing and none is held. -/
def assertFree (system : System) (assetIds : List RowId) (ownWriteOff : Option RowId) :
    Except Failure Unit :=
  let found := assetIds.filterMap fun id => system.assets.find? fun asset => asset.id = id
  if found.length ≠ assetIds.length then
    refuseWith .resourceNotFound "Algunos activos de la baja no existen."
      ((assetIds.filter fun id => (statusOf system.assets id).isNone).map fun _ =>
        ("items", "Este activo no existe."))
  else
    let held := found.filter fun asset => blockers system ownWriteOff asset ≠ []
    if held ≠ [] then
      .error (.api .writeOffAssetHeld none (held.map fun asset =>
        ("items", "El activo " ++ asset.internalCode ++ " " ++
          ", ".intercalate (blockers system ownWriteOff asset) ++ ".")))
    else .ok ()

/-- Insert a new write-off with its items. -/
def insert (system : System) (id : RowId) (assetIds : List RowId) : Except Failure System :=
  if system.writeOffs.any fun writeOff => writeOff.id = id then .error (.internal "duplicate key")
  else if assetIds.any fun assetId => inOpenWriteOff system none assetId then
    refuse .assetInOpenWriteOff
  else .ok { system with
    writeOffs := system.writeOffs ++
      [{ id := id, status := .draft, documentId := none, items := openItems assetIds }] }

/-- Put other items in a draft. -/
def replaceItems (system : System) (id : RowId) (assetIds : List RowId) :
    Except Failure System := do
  let writeOff ← lock system id
  if assetIds.any fun assetId => inOpenWriteOff system (some id) assetId then
    refuse .assetInOpenWriteOff
  return save system { writeOff with items := openItems assetIds }

/-- A write-off is a draft, so it may be edited. -/
def assertEditable (writeOff : AssetWriteOff) : Except Failure Unit :=
  if !isWriteOffEditable writeOff.status then
    refuseWith .writeOffInvalidStateTransition "La baja solo se edita mientras es borrador."
  else .ok ()

/-- Create a write-off. -/
def create (system : System) (id : RowId) (assetIds : List RowId) : Except Failure System := do
  assertDistinct assetIds
  assertFree system assetIds none
  insert system id assetIds

/-- Edit a draft: its items change when they are given. -/
def update (system : System) (id : RowId) (items : Option (List RowId)) :
    Except Failure System := do
  let writeOff ← lock system id
  assertEditable writeOff
  match items with
  | none => return system
  | some assetIds => do
    assertDistinct assetIds
    assertFree system assetIds (some id)
    replaceItems system id assetIds

/-- Ask for the act of a draft: `outside` is what the signers and the engine of
documents say. -/
def generate (system : System) (id : RowId) (hasTotal : Bool) (outside : Except Failure Unit) :
    Except Failure System := do
  let writeOff ← lock system id
  if !canWriteOffTransition writeOff.status .pendingSignatures then
    refuseWith .writeOffInvalidStateTransition
      "El acta de la baja ya se generó o la baja está cerrada."
  if !hasTotal then
    refuseWith .validationFailed "Escriba el total autorizado de la baja."
      [("authorizedTotal", "Escriba el total autorizado.")]
  if writeOff.items = [] then refuseWith .validationFailed "La baja no tiene activos."
  assertDistinct (writeOff.items.map HeldItem.assetId)
  assertFree system (writeOff.items.map HeldItem.assetId) (some id)
  outside
  return save system { writeOff with status := .pendingSignatures }

/-- Cancel a write-off: `signed` is whether a slot of its pending act is signed,
`voided` is what came of voiding its documents. -/
def cancel (system : System) (id : RowId) (signed : Bool) (voided : Except Failure Unit) :
    Except Failure System := do
  let writeOff ← lock system id
  if !canWriteOffTransition writeOff.status .cancelled then
    refuseWith .writeOffInvalidStateTransition "La baja no se puede cancelar en su estado actual."
  if signed then
    refuseWith .writeOffInvalidStateTransition
      "El acta de la baja ya tiene firmas y no se puede cancelar. Un firmante puede rechazarla."
  voided
  return save system { writeOff with
    status := .cancelled, items := writeOff.items.map closedItem }

/-! ### The act -/

/-- The write-off of an act. -/
def lockFor (system : System) (event : DocumentLifecycleEvent) : Except Failure AssetWriteOff :=
  if event.formatKey ≠ formatKey then
    .error (.internal ("El acta " ++ event.number ++ " es " ++ event.formatKey ++ ", no " ++
      formatKey))
  else
    match event.entityId with
    | none => .error (.internal ("El acta " ++ event.number ++ " no nombra su baja"))
    | some id => lock system id

def onGenerated (system : System) (event : DocumentLifecycleEvent) : Except Failure System := do
  let writeOff ← lockFor system event
  if writeOff.status ≠ .pendingSignatures ∨ writeOff.documentId ≠ none then
    .error (.internal ("La baja " ++ writeOff.id.text ++ " no espera acta (" ++
      orText writeOff.documentId (statusText writeOff.status) ++ ")"))
  return save system { writeOff with documentId := some event.documentId }

/-- The act is the one the write-off has. -/
def assertOwnAct (writeOff : AssetWriteOff) (event : DocumentLifecycleEvent) :
    Except Failure Unit :=
  if writeOff.documentId ≠ some event.documentId then
    .error (.internal ("El acta " ++ event.number ++ " no es la de la baja " ++ writeOff.id.text))
  else .ok ()

/-- The write-off waits for signatures. -/
def assertPending (writeOff : AssetWriteOff) : Except Failure Unit :=
  if writeOff.status ≠ .pendingSignatures then
    .error (.internal ("La baja " ++ writeOff.id.text ++ " está " ++ statusText writeOff.status ++
      ", no pendiente de firmas"))
  else .ok ()

/-- The guard of an asset that is written off. -/
def assertNotLent (current : Asset) : Except Failure Unit :=
  if current.operationalStatus = .writtenOff ∨ current.operationalStatus = .onLoan then
    refuseWith .assetCannotBeModified ("El activo " ++ current.internalCode ++ " está " ++
      current.operationalStatus.phrase ++ ".")
  else .ok ()

/-- The change of an asset that is written off. -/
def writeOffChange (item : HeldItem) : AssetChange where
  assetId := item.assetId
  patch := { operationalStatus := some .writtenOff }
  guard := assertNotLent

/-- The write-off completes: its assets are written off and held no longer. -/
def complete (system : System) (writeOff : AssetWriteOff) (movement : RowId → RowId) :
    Except Failure System := do
  let assets ← applyAll system.assets ((pendingItems writeOff.items).map writeOffChange)
  return save { system with assets := assets } { writeOff with
    status := .completed, items := completedItems movement writeOff.items }

/-- The act is signed by all. -/
def onSigned (system : System) (event : DocumentLifecycleEvent) (movement : RowId → RowId) :
    Except Failure System := do
  let writeOff ← lockFor system event
  assertOwnAct writeOff event
  if writeOff.status = .completed then return system
  else do
    assertPending writeOff
    complete system writeOff movement

/-- The act is refused. -/
def onRejected (system : System) (event : DocumentLifecycleEvent) : Except Failure System := do
  let writeOff ← lockFor system event
  assertOwnAct writeOff event
  if writeOff.status = .rejected then return system
  else do
    assertPending writeOff
    return save system { writeOff with
      status := .rejected, items := writeOff.items.map closedItem }

end InternalControl.WriteOffs
