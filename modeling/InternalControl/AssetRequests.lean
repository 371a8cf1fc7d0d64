import InternalControl.Loans
import InternalControl.Transfers

/-!
# The service of asset requests

The head of a cost centre asks another for assets. The owner accepts with a
list of assets, which the request holds until it becomes a loan or a transfer,
or is given up.
-/

namespace InternalControl.AssetRequests

open Assets AssetProcesses Documents Loans

/-- TRANSITIONS: the statuses each status of a request may change to. -/
def transitions : AssetRequestStatus → List AssetRequestStatus
  | .requested => [.accepted, .closedByOwner, .cancelled]
  | .accepted => [.loanScheduled, .documentGenerated, .returned, .expired]
  | .returned => [.requested, .accepted, .cancelled, .expired]
  | .loanScheduled => [.documentGenerated, .closedLoanRejected, .closedLoanCancelled]
  | .closedByOwner => []
  | .documentGenerated => []
  | .closedLoanRejected => []
  | .closedLoanCancelled => []
  | .cancelled => []
  | .expired => []

def canAssetRequestTransition (source target : AssetRequestStatus) : Bool :=
  target ∈ transitions source

def assertAssetRequestTransition (source target : AssetRequestStatus) : Except Failure Unit :=
  if !canAssetRequestTransition source target then
    refuseWith .assetRequestInvalidStateTransition
      "La solicitud no admite esa acción en su estado actual."
  else .ok ()

/-- HOLDING_STATUSES: the statuses in which a request keeps its reservations. -/
def holdingStatuses : List AssetRequestStatus := [.accepted, .returned]

/-- EXPIRING_STATUSES. -/
def expiringStatuses : List AssetRequestStatus := [.accepted, .returned]

/-- The status a corrected request goes to. -/
def statusAfterCorrection (kind requestingCostCenter ownerCostCenter : Bool) :
    AssetRequestStatus :=
  if ownerCostCenter || kind || requestingCostCenter then .requested else .accepted

/-! ### Who may do what -/

/-- Who looks at a request. -/
structure Viewer where
  userId : RowId
  isHead : RowId → Bool
  isReviewer : Bool
  isReader : Bool

inductive AssetRequestViewerRole where
  | requester
  | ownerHead
  | reviewer
  | reader
  deriving DecidableEq

/-- What a viewer is to a request. -/
def roles (request : AssetRequest) (viewer : Viewer) : List AssetRequestViewerRole :=
  (if request.requesterUserId = viewer.userId then [.requester] else []) ++
    (if viewer.isHead request.ownerCostCenterId then [.ownerHead] else []) ++
    (if viewer.isReviewer then [.reviewer] else []) ++
    (if viewer.isReader then [.reader] else [])

/-- The request with an id, locked, if the viewer has a part in it. -/
def partyRequest (system : System) (id : RowId) (viewer : Viewer) : Except Failure AssetRequest :=
  match system.requests.find? fun request => request.id = id with
  | none => refuseWith .resourceNotFound "No encontramos la solicitud."
  | some request =>
    if roles request viewer = [] then refuseWith .resourceNotFound "No encontramos la solicitud."
    else .ok request

def assertOwnerHead (request : AssetRequest) (viewer : Viewer) : Except Failure Unit :=
  if .ownerHead ∉ roles request viewer then
    refuseWith .assetRequestNotHead
      "Solo el jefe del centro de costo dueño de los activos decide la solicitud."
  else if request.requesterUserId = viewer.userId then refuse .assetRequestSodViolation
  else .ok ()

def assertRequester (request : AssetRequest) (viewer : Viewer) : Except Failure Unit :=
  if .requester ∉ roles request viewer then
    refuseWith .insufficientPermissions
      "Solo quien hizo la solicitud puede corregirla o cancelarla."
  else .ok ()

def assertReviewer (request : AssetRequest) (viewer : Viewer) : Except Failure Unit :=
  if .reviewer ∉ roles request viewer then
    refuseWith .insufficientPermissions "No tiene permiso para hacer esto."
  else .ok ()

/-! ### Making a request -/

def assertDates (kind : AssetRequestKind) (startDate expectedReturnDate : Option ℤ) :
    Except Failure Unit :=
  if kind ≠ .temporary then .ok ()
  else
    match startDate, expectedReturnDate with
    | some startDate, some expectedReturnDate =>
      if expectedReturnDate < startDate then
        refuseWith .validationFailed "La devolución no puede ser antes del inicio."
          [("expectedReturnDate", "Es antes de la fecha de inicio.")]
      else .ok ()
    | _, _ =>
      refuseWith .validationFailed "Indique la fecha de inicio y la de devolución."
        ((if startDate.isSome then [] else [("startDate", "Indique la fecha de inicio.")]) ++
          (if expectedReturnDate.isSome then []
            else [("expectedReturnDate", "Indique la fecha de devolución.")]))

/-- The two centres may deal with each other: `isActive` are the centres in use,
`hasOtherHead` those with a head besides who asks. -/
def assertCenters (viewer : Viewer) (requestingCostCenterId ownerCostCenterId : RowId)
    (isActive hasOtherHead : RowId → Bool) : Except Failure Unit :=
  if requestingCostCenterId = ownerCostCenterId then
    refuseWith .validationFailed "Elija un centro de costo distinto al suyo."
      [("ownerCostCenterId", "Es el mismo centro que solicita.")]
  else if !isActive requestingCostCenterId || !isActive ownerCostCenterId then
    refuseWith .resourceNotFound "El centro de costo no existe o está archivado."
  else if !viewer.isHead requestingCostCenterId then
    refuseWith .assetRequestNotHead
      "Solo el jefe del centro de costo puede pedir activos a su nombre."
  else if !hasOtherHead ownerCostCenterId then refuse .assetRequestOwnerWithoutHead
  else .ok ()

/-- What a request asks for. -/
structure CreateAssetRequestDto where
  kind : AssetRequestKind
  requestingCostCenterId : RowId
  ownerCostCenterId : RowId
  startDate : Option ℤ
  expectedReturnDate : Option ℤ

/-- The dates of a request: only one for a time has them. -/
def dateOf (kind : AssetRequestKind) (date : Option ℤ) : Option ℤ :=
  if kind = .temporary then date else none

/-- Make a request: `personId` is the person of who asks. -/
def create (system : System) (id : RowId) (dto : CreateAssetRequestDto) (viewer : Viewer)
    (personId : Option RowId) (isActive hasOtherHead : RowId → Bool) : Except Failure System := do
  let startDate := dateOf dto.kind dto.startDate
  let expectedReturnDate := dateOf dto.kind dto.expectedReturnDate
  assertDates dto.kind startDate expectedReturnDate
  match personId with
  | none =>
    refuseWith .assetRequestNotHead "Su usuario no es jefe de ningún centro de costo."
  | some personId => do
    assertCenters viewer dto.requestingCostCenterId dto.ownerCostCenterId isActive hasOtherHead
    if system.requests.any fun request => request.id = id then
      .error (.internal "duplicate key")
    return { system with
      requests := system.requests ++
        [{ id := id
           kind := dto.kind
           status := .requested
           requestingCostCenterId := dto.requestingCostCenterId
           ownerCostCenterId := dto.ownerCostCenterId
           requesterUserId := viewer.userId
           requesterPersonId := personId
           acceptedBy := none
           startDate := startDate
           expectedReturnDate := expectedReturnDate
           loanId := none
           transferId := none
           items := [] }] }

/-! ### Acceptance -/

/-- Write a request back. -/
def save (system : System) (request : AssetRequest) : System :=
  { system with
    requests := system.requests.map fun other =>
      if other.id = request.id then request else other }

/-- BLOCKERS: the reasons that keep an asset from a request. -/
def blockers (system : System) (requestId : RowId) (asset : Asset) : List String :=
  holdReasons [
    if asset.operationalStatus = .inUse ∨ asset.operationalStatus = .inStorage then none
    else some ("está " ++ asset.operationalStatus.phrase),
    holdOpenLoan system asset.id, holdOpenTransfer system asset.id,
    holdOpenInventory system asset.id, holdRequestReservation system (some (some requestId)) asset.id,
    holdOpenWriteOff system none asset.id]

/-- What is read of the assets once they are locked. -/
def assertEligible (system : System) (request : AssetRequest) (assetIds : List RowId) :
    Except Failure Unit :=
  let found := assetIds.filterMap fun id => system.assets.find? fun asset =>
    asset.id = id && asset.costCenterId = request.ownerCostCenterId
  if found.length ≠ assetIds.length then
    refuseWith .resourceNotFound "Algunos activos no existen."
  else
    let blocked := found.filter fun asset => blockers system request.id asset ≠ []
    if blocked ≠ [] then
      .error (.api .assetRequestAssetUnavailable none (blocked.map fun asset =>
        ("assetIds", "El activo " ++ asset.internalCode ++ " " ++
          ", ".intercalate (blockers system request.id asset) ++ ".")))
    else .ok ()

/-- Reserve assets for a request: its own items come before those of the others. -/
def reserve (system : System) (requestId userId : RowId) (assetIds : List RowId) :
    Except Failure System :=
  match system.requests.find? fun request => request.id = requestId with
  | none => .error (.internal "violates foreign key constraint")
  | some request =>
    if assetIds.any fun assetId => request.items.any fun item => item.assetId = assetId then
      .error (.internal "duplicate key")
    else if assetIds.any fun assetId => isReserved system none assetId then
      refuseWith .assetRequestAssetUnavailable
        "Otro jefe acaba de reservar uno de los activos. Revise la lista."
    else .ok (save system { request with
      status := .accepted, acceptedBy := some userId, items := request.items ++ openItems assetIds })

/-- The request as its acceptance sees it. -/
def acceptable (system : System) (id : RowId) (viewer : Viewer) : Except Failure AssetRequest := do
  let request ← partyRequest system id viewer
  assertOwnerHead request viewer
  assertAssetRequestTransition request.status .accepted
  return request

def accept (system : System) (id : RowId) (assetIds : List RowId) (viewer : Viewer) :
    Except Failure System := do
  let request ← acceptable system id viewer
  assertEligible system request assetIds.dedup
  reserve system request.id viewer.userId assetIds.dedup

/-! ### Giving a request up -/

/-- Change the status of a request that holds its assets no longer. -/
def release (system : System) (request : AssetRequest) (status : AssetRequestStatus) : System :=
  save system { request with status := status, items := request.items.map closedItem }

def close (system : System) (id : RowId) (viewer : Viewer) : Except Failure System := do
  let request ← partyRequest system id viewer
  assertOwnerHead request viewer
  assertAssetRequestTransition request.status .closedByOwner
  return release system request .closedByOwner

def cancel (system : System) (id : RowId) (viewer : Viewer) : Except Failure System := do
  let request ← partyRequest system id viewer
  assertRequester request viewer
  assertAssetRequestTransition request.status .cancelled
  return release system request .cancelled

/-- Return a request to who made it: it holds its assets still. -/
def returnToRequester (system : System) (id : RowId) (viewer : Viewer) : Except Failure System := do
  let request ← partyRequest system id viewer
  assertReviewer request viewer
  assertAssetRequestTransition request.status .returned
  return save system { request with status := .returned }

/-- What a correction gives: what it does not give stays. -/
structure CorrectAssetRequestDto where
  kind : Option AssetRequestKind
  requestingCostCenterId : Option RowId
  ownerCostCenterId : Option RowId
  startDate : Option ℤ
  expectedReturnDate : Option ℤ

/-- Correct a request that was returned: one that changes its kind or a centre
loses its assets and starts again. -/
def correct (system : System) (id : RowId) (dto : CorrectAssetRequestDto) (viewer : Viewer)
    (isActive hasOtherHead : RowId → Bool) : Except Failure System := do
  let request ← partyRequest system id viewer
  assertRequester request viewer
  if request.status ≠ .returned then
    refuseWith .assetRequestInvalidStateTransition
      "Solo se puede corregir una solicitud devuelta."
  let kind := dto.kind.getD request.kind
  let requesting := dto.requestingCostCenterId.getD request.requestingCostCenterId
  let owner := dto.ownerCostCenterId.getD request.ownerCostCenterId
  let startDate := dateOf kind (dto.startDate.or request.startDate)
  let expectedReturnDate := dateOf kind (dto.expectedReturnDate.or request.expectedReturnDate)
  assertDates kind startDate expectedReturnDate
  assertCenters viewer requesting owner isActive hasOtherHead
  let next := statusAfterCorrection (kind ≠ request.kind)
    (requesting ≠ request.requestingCostCenterId) (owner ≠ request.ownerCostCenterId)
  assertAssetRequestTransition request.status next
  return save system { request with
    kind := kind
    requestingCostCenterId := requesting
    ownerCostCenterId := owner
    startDate := startDate
    expectedReturnDate := expectedReturnDate
    status := next
    acceptedBy := if next = .requested then none else request.acceptedBy
    items := if next = .requested then [] else request.items }

/-- The job that ends a request nobody has acted on: `due` are those whose time is over. -/
def expireDue (system : System) (due : AssetRequest → Bool) : Except Failure System :=
  match system.requests.find? fun request =>
      (request.status ∈ expiringStatuses) && due request with
  | none => .ok system
  | some request => do
    assertAssetRequestTransition request.status .expired
    return release system request .expired

/-! ### What a request hears of its loan -/

/-- The request of a loan, if it waits for the loan. -/
def scheduledRequest (system : System) (assetRequestId : Option RowId) (loanId : RowId) :
    Option AssetRequest :=
  system.requests.find? fun request =>
    some request.id = assetRequestId && request.loanId = some loanId &&
      request.status = .loanScheduled

def onLoanDelivered (system : System) (assetRequestId : Option RowId) (loanId : RowId) :
    Except Failure System :=
  match scheduledRequest system assetRequestId loanId with
  | none => .ok system
  | some request => do
    assertAssetRequestTransition request.status .documentGenerated
    return save system { request with status := .documentGenerated }

/-- The loan of a request is given up. -/
def closeByLoan (system : System) (assetRequestId : Option RowId) (loanId : RowId)
    (next : AssetRequestStatus) : Except Failure System :=
  match scheduledRequest system assetRequestId loanId with
  | none => .ok system
  | some request => do
    assertAssetRequestTransition request.status next
    return release system request next

def onLoanRejected (system : System) (assetRequestId : Option RowId) (loanId : RowId) :
    Except Failure System :=
  closeByLoan system assetRequestId loanId .closedLoanRejected

def onLoanCancelled (system : System) (assetRequestId : Option RowId) (loanId : RowId) :
    Except Failure System :=
  closeByLoan system assetRequestId loanId .closedLoanCancelled

/-! ### The loan or the transfer of a request -/

/-- What Control Interno gives to make the loan or the transfer. -/
structure GenerateAssetRequestDto where
  /-- The fields that are only for a transfer, of those that were given. -/
  deliveryOnly : List String
  items : List Transfers.TransferItemInputDto

/-- The status of a request whose loan or transfer is made. -/
def generated : AssetRequestKind → AssetRequestStatus
  | .temporary => .loanScheduled
  | .permanent => .documentGenerated

/-- The assets a request holds. -/
def acceptedAssets (request : AssetRequest) : List RowId :=
  (request.items.filter HeldItem.isOpen).map HeldItem.assetId

/-- The fields of a transfer are not given for a loan. -/
def assertDeliveryOnly (kind : AssetRequestKind) (fields : List String) : Except Failure Unit :=
  if kind = .temporary ∧ fields ≠ [] then
    refuseWith .validationFailed
      "Los firmantes y las observaciones del acta se indican al entregar el préstamo."
      (fields.map fun field => (field, "Se indica al entregar el préstamo."))
  else .ok ()

/-- The assets are still where the request found them. -/
def assertStillOwned (system : System) (request : AssetRequest) : Except Failure Unit :=
  if system.assets.any fun asset =>
      asset.id ∈ acceptedAssets request && asset.costCenterId ≠ request.ownerCostCenterId then
    refuseWith .assetRequestAssetUnavailable
      "Un activo aceptado ya no está en el centro de costo dueño."
  else .ok ()

/-- The person of who accepted. -/
def requireOwnerPerson (person : Option RowId) : Except Failure RowId :=
  match person with
  | some person => .ok person
  | none =>
    refuseWith .invalidState
      "Quien aceptó la solicitud no tiene una persona asociada para firmar la entrega."

/-- The request as its loan or transfer sees it, with the person of who accepted:
`outside` is what the format and the permissions say. -/
def convertible (system : System) (id : RowId) (dto : GenerateAssetRequestDto) (viewer : Viewer)
    (personOf : RowId → Option RowId) (outside : Except Failure Unit) :
    Except Failure (AssetRequest × RowId) := do
  let request ← partyRequest system id viewer
  assertReviewer request viewer
  assertAssetRequestTransition request.status (generated request.kind)
  assertDeliveryOnly request.kind dto.deliveryOnly
  outside
  if acceptedAssets request = [] then
    refuseWith .invalidState "La solicitud no tiene activos aceptados."
  assertStillOwned system request
  let ownerPerson ← requireOwnerPerson (request.acceptedBy.bind personOf)
  return (request, ownerPerson)

/-- The system once a request holds its assets no longer. -/
def releaseItems (id : RowId) (system : System) : System :=
  { system with
    requests := system.requests.map fun request =>
      if request.id = id then { request with items := request.items.map closedItem } else request }

/-- The system once a request has its loan or its transfer. -/
def markGenerated (id : RowId) (status : AssetRequestStatus) (loanId transferId : Option RowId)
    (system : System) : System :=
  { system with
    requests := system.requests.map fun request =>
      if request.id = id then
        { request with status := status, loanId := loanId, transferId := transferId }
      else request }

/-- What the loan of a request asks for. A request for a time has its dates. -/
def loanInput (request : AssetRequest) : Except Failure CreateLoanInput :=
  match request.expectedReturnDate with
  | none => .error (.internal "invalid input syntax for type date")
  | some expectedReturnDate =>
    .ok { assetIds := acceptedAssets request
          targetCostCenterId := request.requestingCostCenterId
          contactPersonId := request.requesterPersonId
          expectedReturnDate := expectedReturnDate
          startDate := request.startDate }

/-- The approval the loan of a request comes with. -/
def approvalOf (request : AssetRequest) (actorId : RowId) : ApprovedLoan where
  approvedBy := request.acceptedBy.getD actorId
  requestedBy := request.requesterUserId
  assetRequestId := request.id

/-- Each accepted asset is given once. -/
def assertGiven (accepted : List RowId) (items : List Transfers.TransferItemInputDto) :
    Except Failure Unit :=
  let given := items.map Transfers.TransferItemInputDto.assetId
  if given.length ≠ accepted.length ∨ accepted.any fun assetId => assetId ∉ given then
    refuseWith .validationFailed "Incluya cada activo aceptado una sola vez."
      [("items", if accepted.length = 1 then "Debe haber 1 activo aceptado."
        else "Deben ser " ++ toString accepted.length ++ " activos aceptados.")]
  else .ok ()

/-- What the loan or the transfer of a request is made with: the new ids, and
what others say. -/
structure Conversion where
  loanId : RowId
  itemId : RowId → RowId
  outsideLoan : Except Failure Unit
  transferId : RowId
  unavailable : RowId → Bool
  persons : Except Failure Unit
  targetOf : RowId → Except Failure Unit
  outsideAct : Except Failure Unit

/-- Make the loan of a request. -/
def generateLoan (system : System) (request : AssetRequest) (viewer : Viewer)
    (conversion : Conversion) : Except Failure System := do
  let input ← loanInput request
  let after ← Loans.createWithin (releaseItems request.id system) input viewer.userId
    conversion.loanId conversion.itemId (fun _ => true) (some (approvalOf request viewer.userId))
    conversion.outsideLoan
  return markGenerated request.id .loanScheduled (some conversion.loanId) none after

/-- Make the transfer of a request, and ask for its act. -/
def generateTransfer (system : System) (request : AssetRequest) (dto : GenerateAssetRequestDto)
    (conversion : Conversion) : Except Failure System := do
  assertGiven (acceptedAssets request) dto.items
  let created ← Transfers.createWithin (releaseItems request.id system) conversion.transferId
    request.requestingCostCenterId dto.items (some request.id) conversion.unavailable
    conversion.persons conversion.targetOf
  let after ← Transfers.generateWithin created conversion.transferId conversion.outsideAct
  return markGenerated request.id .documentGenerated none (some conversion.transferId) after

/-- Make the loan or the transfer of a request. -/
def generate (system : System) (id : RowId) (dto : GenerateAssetRequestDto) (viewer : Viewer)
    (personOf : RowId → Option RowId) (outside : Except Failure Unit) (conversion : Conversion) :
    Except Failure System := do
  let (request, _) ← convertible system id dto viewer personOf outside
  match request.kind with
  | .temporary => generateLoan system request viewer conversion
  | .permanent => generateTransfer system request dto conversion

end InternalControl.AssetRequests
