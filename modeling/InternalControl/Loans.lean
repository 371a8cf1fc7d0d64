import InternalControl.AssetProcesses
import InternalControl.KeyedMap

/-!
# The service of loans

A loan goes from its request to its reception. Each operation locks the loan,
checks its status, and changes the loan and its assets together or not at
all. What other services decide (people, signers, permissions, documents) is
an outcome given to the operation.
-/

namespace InternalControl.Loans

open Assets AssetProcesses

/-- The statuses each status of a loan may change to. -/
def allowed : LoanStatus → List LoanStatus
  | .requested => [.approved, .rejected, .cancelled]
  | .approved => [.pendingSignatures, .inTransit, .rejected, .cancelled]
  | .rejected => []
  | .inTransit => [.active]
  | .pendingSignatures => [.active, .cancelled]
  | .active => [.pendingReception, .overdue]
  | .overdue => [.pendingReception, .active]
  | .pendingReception => [.returned, .partiallyReturned, .closedWithLosses]
  | .returned => []
  | .partiallyReturned => [.pendingReception]
  | .closedWithLosses => []
  | .cancelled => []

def canTransition (source target : LoanStatus) : Bool := target ∈ allowed source

def assertLoanTransition (source target : LoanStatus) : Except Failure Unit :=
  if !canTransition source target then refuse .invalidLoanStateTransition else .ok ()

/-- The status a reception leaves a loan with. -/
def statusAfterReception (items : List AssetLoanItem) : LoanStatus :=
  if items.any fun item => item.receivedAt.isNone then .partiallyReturned
  else if items.any fun item => item.returnCondition = some .lost then .closedWithLosses
  else .returned

/-- The statuses of an asset that can be lent. -/
def loanable : List Assets.OperationalStatus := [.inUse, .inStorage]

/-- The loan with an id, locked. -/
def lockLoan (system : System) (id : RowId) : Except Failure AssetLoan :=
  match system.loans.find? fun loan => loan.id = id with
  | some loan => .ok loan
  | none => refuse .resourceNotFound

/-- Write a loan back. -/
def saveLoan (system : System) (loan : AssetLoan) : System :=
  { system with
    loans := system.loans.map fun other => if other.id = loan.id then loan else other }

/-- Add an entry to the history of loans. -/
def addEvent (system : System) (loanId : RowId) (eventType : LoanEventType)
    (assets : List RowId := []) : System :=
  { system with loanEvents := system.loanEvents ++ [⟨loanId, eventType, assets⟩] }

/-! ### Creation -/

/-- What a new loan asks for. -/
structure CreateLoanInput where
  assetIds : List RowId
  targetCostCenterId : RowId
  contactPersonId : RowId
  expectedReturnDate : ℤ
  startDate : Option ℤ

/-- The approval a loan comes with when an asset request originated it. -/
structure ApprovedLoan where
  approvedBy : RowId
  requestedBy : RowId
  assetRequestId : RowId

/-- The assets of a new loan, which are locked. -/
def lockedAssets (system : System) (assetIds : List RowId) : Except Failure (List Asset) :=
  let found := system.assets.filter fun asset => asset.id ∈ assetIds.dedup
  if found.length ≠ assetIds.dedup.length then refuse .resourceNotFound else .ok found

/-- The assets are in one cost centre, within the scope of who asks, and can be lent. -/
def assertLoanAssets (input : CreateLoanInput) (sourceScope : RowId → Bool)
    (outside : Except Failure Unit) (assets : List Asset) : Except Failure RowId :=
  if assets.any fun asset => !sourceScope asset.costCenterId then refuse .resourceNotFound
  else
    match assets.head? with
    | none => refuse .resourceNotFound
    | some first =>
      let sourceId := first.costCenterId
      if assets.any fun item => item.costCenterId ≠ sourceId then refuse .validationFailed
      else if sourceId = input.targetCostCenterId then refuse .loanSameCostCenter
      else
        match outside with
        | .error failure => .error failure
        | .ok _ =>
          if assets.any fun asset => asset.operationalStatus ∉ loanable then
            refuse .assetCannotBeModified
          else .ok sourceId

/-- The message of a field for each asset that is held. -/
def assetMessages (assets : List Asset) (held : RowId → Bool) (text : String) :
    List (String × String) :=
  (assets.filter fun asset => held asset.id).map fun asset =>
    ("assets", "El activo " ++ asset.internalCode ++ text)

/-- None of the assets is in an open loan. -/
def assertNotLoaned (system : System) (assets : List Asset) : Except Failure Unit :=
  if assets.any fun asset => inOpenLoan system asset.id then
    .error (.api .assetAlreadyLoaned none
      (assetMessages assets (inOpenLoan system) " ya está prestado."))
  else .ok ()

/-- None of the assets is in an open write-off. -/
def assertNotWritingOff (system : System) (assets : List Asset) : Except Failure Unit :=
  if assets.any fun asset => inOpenWriteOff system none asset.id then
    .error (.api .assetInOpenWriteOff none
      (assetMessages assets (inOpenWriteOff system none) " está en una baja abierta."))
  else .ok ()

/-- The item of a new loan for an asset. -/
def newItem (sourceId : RowId) (itemId : RowId → RowId) (asset : Asset) : AssetLoanItem where
  id := itemId asset.id
  assetId := asset.id
  sourceCostCenterId := sourceId
  statusOnLoan := some asset.operationalStatus
  conditionOnDelivery := asset.physicalCondition
  returnCondition := none
  returnedAt := none
  receivedAt := none

/-- Insert a new loan with its items and its first events. -/
def insertLoan (system : System) (input : CreateLoanInput) (actorId loanId : RowId)
    (itemId : RowId → RowId) (approved : Option ApprovedLoan) (sourceId : RowId)
    (assets : List Asset) : Except Failure System :=
  if system.loans.any fun loan => loan.id = loanId then .error (.internal "duplicate key")
  else
    let loan : AssetLoan :=
      { id := loanId
        sourceCostCenterId := sourceId
        targetCostCenterId := input.targetCostCenterId
        contactPersonId := some input.contactPersonId
        startDate := input.startDate
        expectedReturnDate := input.expectedReturnDate
        deliveredAt := none
        actualReturnDate := none
        requestedBy := (approved.map ApprovedLoan.requestedBy).getD actorId
        approvedBy := approved.map ApprovedLoan.approvedBy
        status := if approved.isSome then .approved else .requested
        deliveryDocumentId := none
        assetRequestId := approved.map ApprovedLoan.assetRequestId
        extensionRequestedDate := none
        items := assets.map (newItem sourceId itemId) }
    let system := addEvent { system with loans := system.loans ++ [loan] } loanId .requested
      (input.assetIds.dedup)
    .ok (if approved.isSome then addEvent system loanId .approved else system)

/-- Create a loan. -/
def createWithin (system : System) (input : CreateLoanInput) (actorId loanId : RowId)
    (itemId : RowId → RowId) (sourceScope : RowId → Bool) (approved : Option ApprovedLoan)
    (outside : Except Failure Unit) : Except Failure System := do
  let assets ← lockedAssets system input.assetIds
  let sourceId ← assertLoanAssets input sourceScope outside assets
  assertNotLoaned system assets
  assertNotWritingOff system assets
  insertLoan system input actorId loanId itemId approved sourceId assets

/-! ### Approval -/

/-- Who asked for a loan does not decide on it. -/
def assertNotRequester (loan : AssetLoan) (actorId : RowId) : Except Failure Unit :=
  if loan.requestedBy = actorId then refuse .loanSodViolation else .ok ()

def approve (system : System) (id actorId : RowId) (outside : Except Failure Unit) :
    Except Failure System := do
  let loan ← lockLoan system id
  outside
  assertNotRequester loan actorId
  assertLoanTransition loan.status .approved
  return addEvent (saveLoan system { loan with status := .approved, approvedBy := some actorId })
    id .approved

def reject (system : System) (id actorId : RowId) (outside : Except Failure Unit) :
    Except Failure System := do
  let loan ← lockLoan system id
  outside
  assertNotRequester loan actorId
  assertLoanTransition loan.status .rejected
  return addEvent (saveLoan system { loan with status := .rejected }) id .rejected

def cancel (system : System) (id : RowId) (outside : Except Failure Unit) :
    Except Failure System := do
  outside
  let loan ← lockLoan system id
  assertLoanTransition loan.status .cancelled
  if loan.status ≠ .approved then refuse .invalidLoanStateTransition
  return addEvent (saveLoan system { loan with status := .cancelled }) id .cancelled

/-! ### Delivery -/

/-- The guard of the delivery of an asset. -/
def assertDeliverable (loan : AssetLoan) (current : Asset) : Except Failure Unit :=
  if current.costCenterId ≠ loan.sourceCostCenterId then
    refuseWith .assetCannotBeModified
      ("El activo " ++ current.internalCode ++ " ya no está en el centro de costo del préstamo.")
  else if current.operationalStatus ∉ loanable then
    refuseWith .assetCannotBeModified
      ("El activo " ++ current.internalCode ++ " está " ++ current.operationalStatus.phrase ++
        ". No se puede prestar.")
  else .ok ()

/-- Deliver the assets of a loan: the items keep how each asset was. -/
def deliverItems (loan : AssetLoan) : List Asset → List AssetLoanItem →
    Except Failure (List Asset × List AssetLoanItem)
  | assets, [] => .ok (assets, [])
  | assets, item :: rest => do
    let (current, assets) ← applyWithin assets
      { assetId := item.assetId
        patch := { operationalStatus := some .onLoan }
        guard := assertDeliverable loan }
    let (assets, rest) ← deliverItems loan assets rest
    return (assets, { item with
      statusOnLoan := some current.operationalStatus
      conditionOnDelivery := current.physicalCondition } :: rest)

def deliverWithin (calendar : Calendar) (system : System) (id : RowId) (now : ℤ)
    (outside : Except Failure Unit) : Except Failure System := do
  let loan ← lockLoan system id
  assertLoanTransition loan.status .pendingSignatures
  let today := calendar.localeIsoDate now
  if loan.startDate.any fun startDate => today < startDate then
    refuseWith .loanNotStarted ("El préstamo empieza el " ++
      calendar.longSpanishDate (loan.startDate.getD today) ++ ". Entréguelo desde esa fecha.")
  if loan.contactPersonId.isNone then
    refuseWith .validationFailed
      "Indique la persona de contacto del préstamo. Ella firma el recibo."
  outside
  if loan.expectedReturnDate < today then
    refuseWith .validationFailed "La fecha de devolución es anterior a la entrega."
  if loan.items.isEmpty then refuseWith .invalidState "El préstamo no tiene activos."
  let (assets, items) ← deliverItems loan system.assets loan.items
  return addEvent (saveLoan { system with assets := assets }
    { loan with status := .pendingSignatures, deliveredAt := some now, items := items })
    id .delivered

/-! ### The delivery act -/

/-- The act of a delivery is made: it takes the place of one that was refused. -/
def actGenerated (system : System) (id documentId : RowId) (previousReplaceable : Bool) :
    Except Failure System := do
  let loan ← lockLoan system id
  if (loan.deliveryDocumentId.any fun previous => previous ≠ documentId) && !previousReplaceable then
    .error (.internal ("El préstamo " ++ id.text ++ " ya tiene acta de entrega vigente"))
  if loan.deliveredAt.isNone then
    .error (.internal ("El préstamo " ++ id.text ++
      " no se ha entregado: su acta de entrega no corresponde"))
  return addEvent (saveLoan system { loan with deliveryDocumentId := some documentId })
    id .deliveryActGenerated

/-- The act of a delivery is signed by all. -/
def actSigned (system : System) (id documentId : RowId) : Except Failure System := do
  let loan ← lockLoan system id
  if loan.deliveryDocumentId ≠ some documentId then
    .error (.internal ("El acta " ++ documentId.text ++
      " no es el acta de entrega del préstamo " ++ id.text))
  let loan := if loan.status = .pendingSignatures then { loan with status := .active } else loan
  return addEvent (saveLoan system loan) id .deliveryActSigned

/-- The act of a delivery is refused. -/
def actRejected (system : System) (id documentId : RowId) : Except Failure System := do
  let loan ← lockLoan system id
  if loan.deliveryDocumentId ≠ some documentId then
    .error (.internal ("El acta " ++ documentId.text ++
      " no es el acta de entrega del préstamo " ++ id.text))
  return addEvent system id .deliveryActRejected

def regenerateDeliveryAct (system : System) (id : RowId) (contactPersonId : Option RowId)
    (actRejected : Bool) (outside : Except Failure Unit) : Except Failure System := do
  let loan ← lockLoan system id
  if loan.status ≠ .pendingSignatures then refuse .invalidLoanStateTransition
  if !actRejected then refuse .loanDeliveryActNotRejected
  let contact := contactPersonId.or loan.contactPersonId
  if contact.isNone then
    refuseWith .validationFailed
      "Indique la persona de contacto del préstamo. Ella firma el recibo."
  outside
  return addEvent (saveLoan system { loan with contactPersonId := contact })
    id .deliveryActRegenerated

/-- The guard of an asset that comes back. -/
def assertOnLoan (current : Asset) : Except Failure Unit :=
  if current.operationalStatus ≠ .onLoan then
    refuseWith .invalidState ("El activo " ++ current.internalCode ++ " no está prestado.")
  else .ok ()

/-- The status an item goes back to. -/
def statusBefore (item : AssetLoanItem) : Assets.OperationalStatus := item.statusOnLoan.getD .inUse

/-- Give the assets of a delivery back. -/
def undoItems : List Asset → List AssetLoanItem → Except Failure (List Asset)
  | assets, [] => .ok assets
  | assets, item :: rest => do
    let (_, assets) ← applyWithin assets
      { assetId := item.assetId
        patch := { operationalStatus := some (statusBefore item) }
        guard := assertOnLoan }
    undoItems assets rest

/-- Undo a delivery: `voided` is what came of voiding its documents. -/
def undoDelivery (system : System) (id : RowId) (voided : Except Failure Unit) :
    Except Failure System := do
  voided
  let loan ← lockLoan system id
  if loan.status ≠ .pendingSignatures then refuse .invalidLoanStateTransition
  assertLoanTransition loan.status .cancelled
  let assets ← undoItems system.assets loan.items
  return addEvent (saveLoan { system with assets := assets } { loan with status := .cancelled })
    id .deliveryUndone

/-! ### Return and reception -/

/-- An asset that came back, and how. -/
structure ReturnedAsset where
  assetId : RowId
  condition : LoanReturnCondition
  returnedAt : Option ℤ

/-- What a return records: the type has no empty list, as the request has none. -/
structure ReturnLoanDto where
  assetsReturned : List ReturnedAsset
  nonempty : assetsReturned ≠ []

def assertDeliveryActSigned (loan : AssetLoan) : Except Failure Unit :=
  if loan.status = .pendingSignatures then refuse .loanDeliveryActNotSigned else .ok ()

/-- Record how assets came back, each one once. -/
def recordReturns (loan : AssetLoan) (now : ℤ) : List RowId → List AssetLoanItem →
    List ReturnedAsset → Except Failure (List AssetLoanItem)
  | _, items, [] => .ok items
  | seen, items, returned :: rest =>
    if returned.assetId ∈ seen then refuseWith .validationFailed "Un activo está repetido."
    else
      match (KeyedMap.ofList (loan.items.map fun item => (item.assetId, item))).get?
          returned.assetId with
      | none => refuseWith .resourceNotFound "Un activo no está en el préstamo."
      | some item =>
        let returnedAt := returned.returnedAt.getD now
        if item.receivedAt.isSome then refuseWith .validationFailed "Un activo ya se devolvió."
        else if now < returnedAt then
          refuseWith .validationFailed "La fecha de devolución no puede ser futura."
        else if loan.deliveredAt.any fun deliveredAt => returnedAt < deliveredAt then
          refuseWith .validationFailed "La fecha de devolución no puede ser antes de la entrega."
        else
          recordReturns loan now (returned.assetId :: seen)
            (items.map fun other =>
              if other.id = item.id then
                { other with
                  returnCondition := some returned.condition
                  returnedAt := some returnedAt }
              else other) rest

def startReturn (system : System) (id : RowId) (dto : ReturnLoanDto) (now : ℤ) :
    Except Failure System := do
  let loan ← lockLoan system id
  assertDeliveryActSigned loan
  assertLoanTransition loan.status .pendingReception
  let items ← recordReturns loan now [] loan.items dto.assetsReturned
  return addEvent (saveLoan system { loan with status := .pendingReception, items := items })
    id .returnStarted (dto.assetsReturned.map ReturnedAsset.assetId)

/-- The patch of the reception of an item. -/
def receptionPatch (item : AssetLoanItem) : UpdateAssetRecord :=
  if item.returnCondition = some .lost then { operationalStatus := some .lost }
  else
    { operationalStatus := some (statusBefore item)
      physicalCondition :=
        if item.returnCondition = some .damaged then some (some .fair) else none }

/-- Receive the items that came back: the assets and the items after, and the
items received. -/
def receiveItems (now : ℤ) : List Asset → List AssetLoanItem →
    Except Failure (List Asset × List AssetLoanItem × List AssetLoanItem)
  | assets, [] => .ok (assets, [], [])
  | assets, item :: rest =>
    if item.returnCondition.isNone || item.receivedAt.isSome then do
      let (assets, rest, received) ← receiveItems now assets rest
      return (assets, item :: rest, received)
    else do
      let (_, assets) ← applyWithin assets
        { assetId := item.assetId, patch := receptionPatch item, guard := assertOnLoan }
      let (assets, rest, received) ← receiveItems now assets rest
      let item := { item with receivedAt := some now }
      return (assets, item :: rest, item :: received)

/-- The latest return among a date and some items. -/
def lastReturn (now : ℤ) (start : Option ℤ) (received : List AssetLoanItem) : Option ℤ :=
  received.foldl (fun last item =>
    let returnedAt := item.returnedAt.getD now
    if last.all fun other => other < returnedAt then some returnedAt else last) start

def receiveReturn (system : System) (id : RowId) (now : ℤ) (outside : Except Failure Unit) :
    Except Failure System := do
  let loan ← lockLoan system id
  assertDeliveryActSigned loan
  if loan.status ≠ .pendingReception then refuse .invalidLoanStateTransition
  outside
  let (assets, items, received) ← receiveItems now system.assets loan.items
  if received.isEmpty then
    refuseWith .invalidState "No hay activos devueltos pendientes de recibir."
  let status := statusAfterReception items
  assertLoanTransition loan.status status
  return addEvent (saveLoan { system with assets := assets }
    { loan with
      status := status
      actualReturnDate := (lastReturn now loan.actualReturnDate received).or (some now)
      items := items })
    id .received (received.map AssetLoanItem.assetId)

/-! ### Extension and overdue loans -/

def requestExtension (calendar : Calendar) (system : System) (id actorId : RowId)
    (requested now : ℤ) : Except Failure System := do
  let loan ← lockLoan system id
  if loan.requestedBy ≠ actorId then refuse .loanExtensionNotRequester
  if loan.status ≠ .active ∧ loan.status ≠ .overdue then refuse .invalidLoanStateTransition
  if requested ≤ loan.expectedReturnDate ∨ requested < calendar.localeIsoDate now then
    refuseWith .validationFailed
      "La nueva fecha debe ser posterior a la actual y no puede haber pasado."
  return addEvent (saveLoan system { loan with extensionRequestedDate := some requested })
    id .extensionRequested

def approveExtension (calendar : Calendar) (system : System) (id actorId : RowId) (now : ℤ)
    (outside : Except Failure Unit) : Except Failure System := do
  let loan ← lockLoan system id
  outside
  assertNotRequester loan actorId
  if loan.status ≠ .active ∧ loan.status ≠ .overdue then refuse .invalidLoanStateTransition
  match loan.extensionRequestedDate with
  | none => refuse .loanNoPendingExtension
  | some requested =>
    let reopened := loan.status = .overdue ∧ calendar.localeIsoDate now ≤ requested
    if reopened then assertLoanTransition loan.status .active
    return addEvent (saveLoan system
      { loan with
        expectedReturnDate := requested
        extensionRequestedDate := none
        status := if reopened then .active else loan.status })
      id .extended

def rejectExtension (system : System) (id actorId : RowId) (outside : Except Failure Unit) :
    Except Failure System := do
  let loan ← lockLoan system id
  outside
  assertNotRequester loan actorId
  if loan.extensionRequestedDate.isNone then refuse .loanNoPendingExtension
  return addEvent (saveLoan system { loan with extensionRequestedDate := none })
    id .extensionRejected

/-- Mark the active loans whose date has passed. -/
def markOverdue (system : System) (today : ℤ) : System :=
  { system with
    loans := system.loans.map fun loan =>
      if loan.status = .active ∧ loan.expectedReturnDate < today then
        { loan with status := .overdue }
      else loan }

end InternalControl.Loans
