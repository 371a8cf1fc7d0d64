import InternalControl.Assets

/-!
# The processes that hold assets

Loans, transfers, handovers, asset requests, write-offs and physical
inventories, each with its items. The texts say why an asset is held; a
service puts together those it looks at.
-/

namespace InternalControl.AssetProcesses

open Assets

/-- The calendar of the institution: the day of an instant, and days in words. -/
structure Calendar where
  localeIsoDate : ℤ → ℤ
  longSpanishDate : ℤ → String

/-! ### Loans -/

inductive LoanStatus where
  | requested
  | approved
  | rejected
  | inTransit
  | pendingSignatures
  | active
  | overdue
  | pendingReception
  | returned
  | partiallyReturned
  | closedWithLosses
  | cancelled
  deriving DecidableEq

/-- OPEN_LOAN_STATUSES. -/
def openLoanStatuses : List LoanStatus :=
  [.requested, .approved, .inTransit, .pendingSignatures, .active, .overdue, .pendingReception,
    .partiallyReturned]

/-- LOAN_OUT_STATUSES. -/
def loanOutStatuses : List LoanStatus :=
  [.pendingSignatures, .active, .overdue, .pendingReception, .partiallyReturned]

inductive LoanReturnCondition where
  | good
  | damaged
  | lost
  deriving DecidableEq

/-- An asset of a loan. -/
structure AssetLoanItem where
  id : RowId
  assetId : RowId
  sourceCostCenterId : RowId
  statusOnLoan : Option Assets.OperationalStatus
  conditionOnDelivery : Option Assets.PhysicalCondition
  returnCondition : Option LoanReturnCondition
  returnedAt : Option ℤ
  receivedAt : Option ℤ
  deriving DecidableEq

structure AssetLoan where
  id : RowId
  sourceCostCenterId : RowId
  targetCostCenterId : RowId
  contactPersonId : Option RowId
  startDate : Option ℤ
  expectedReturnDate : ℤ
  deliveredAt : Option ℤ
  actualReturnDate : Option ℤ
  requestedBy : RowId
  approvedBy : Option RowId
  status : LoanStatus
  deliveryDocumentId : Option RowId
  assetRequestId : Option RowId
  extensionRequestedDate : Option ℤ
  items : List AssetLoanItem
  deriving DecidableEq

inductive LoanEventType where
  | requested
  | approved
  | rejected
  | cancelled
  | delivered
  | deliveryActGenerated
  | deliveryActRegenerated
  | deliveryActSigned
  | deliveryActRejected
  | deliveryUndone
  | returnStarted
  | received
  | extensionRequested
  | extended
  | extensionRejected
  | returnActGenerated
  | returnActSigned
  | returnActRejected
  deriving DecidableEq

/-- An entry of the history of a loan, with the assets it names. -/
structure AssetLoanEvent where
  loanId : RowId
  eventType : LoanEventType
  assets : List RowId
  deriving DecidableEq

/-! ### Transfers, handovers, requests and write-offs -/

/-- An asset held by a transfer, a handover, a request or a write-off while it is open. -/
structure HeldItem where
  assetId : RowId
  isOpen : Bool
  movementId : Option RowId
  deriving DecidableEq

inductive TransferStatus where
  | draft
  | pendingSignatures
  | completed
  | rejected
  | cancelled
  deriving DecidableEq

structure AssetTransfer where
  id : RowId
  status : TransferStatus
  sourceCostCenterId : RowId
  targetCostCenterId : RowId
  documentId : Option RowId
  assetRequestId : Option RowId
  items : List HeldItem
  deriving DecidableEq

inductive HandoverStatus where
  | awaitingDocument
  | pendingSignature
  | signed
  | rejected
  | cancelled
  deriving DecidableEq

structure AssetHandover where
  id : RowId
  status : HandoverStatus
  costCenterId : RowId
  assignedPersonId : Option RowId
  documentId : Option RowId
  items : List HeldItem
  deriving DecidableEq

inductive AssetRequestKind where
  | temporary
  | permanent
  deriving DecidableEq

inductive AssetRequestStatus where
  | requested
  | accepted
  | closedByOwner
  | returned
  | loanScheduled
  | documentGenerated
  | closedLoanRejected
  | closedLoanCancelled
  | cancelled
  | expired
  deriving DecidableEq

structure AssetRequest where
  id : RowId
  kind : AssetRequestKind
  status : AssetRequestStatus
  requestingCostCenterId : RowId
  ownerCostCenterId : RowId
  requesterUserId : RowId
  requesterPersonId : RowId
  acceptedBy : Option RowId
  startDate : Option ℤ
  expectedReturnDate : Option ℤ
  loanId : Option RowId
  transferId : Option RowId
  items : List HeldItem
  deriving DecidableEq

inductive WriteOffStatus where
  | draft
  | pendingSignatures
  | completed
  | rejected
  | cancelled
  deriving DecidableEq

structure AssetWriteOff where
  id : RowId
  status : WriteOffStatus
  documentId : Option RowId
  items : List HeldItem
  deriving DecidableEq

/-! ### Physical inventories -/

inductive InventoryStatus where
  | planned
  | inProgress
  | closed
  | reconciled
  | cancelled
  deriving DecidableEq

inductive VerificationResult where
  | pending
  | found
  | missing
  | surplus
  | misplaced
  | notVerified
  deriving DecidableEq

/-- An asset an inventory expects or has come across. -/
structure PhysicalInventoryItem where
  id : RowId
  assetId : Option RowId
  verificationResult : VerificationResult
  expectedLocationId : Option RowId
  actualLocationId : Option RowId
  expectedCondition : Option Assets.PhysicalCondition
  actualCondition : Option Assets.PhysicalCondition
  isOnLoan : Bool
  wasLost : Bool
  voided : Bool
  deriving DecidableEq

structure PhysicalInventory where
  id : RowId
  status : InventoryStatus
  responsibleUserId : RowId
  reconcileRequestedBy : Option RowId
  items : List PhysicalInventoryItem
  deriving DecidableEq

/-! ### The tables -/

/-- The tables the services share. -/
structure System where
  assets : List Asset
  loans : List AssetLoan
  loanEvents : List AssetLoanEvent
  transfers : List AssetTransfer
  handovers : List AssetHandover
  requests : List AssetRequest
  writeOffs : List AssetWriteOff
  inventories : List PhysicalInventory
  deriving DecidableEq

/-! ### Holds -/

/-- The loan is open for the asset: it has not come back. -/
def AssetLoan.holds (loan : AssetLoan) (assetId : RowId) : Bool :=
  loan.status ∈ openLoanStatuses &&
    loan.items.any fun item => item.assetId = assetId && item.receivedAt.isNone

/-- An item of the asset is open. -/
def heldIn (items : List HeldItem) (assetId : RowId) : Bool :=
  items.any fun item => item.assetId = assetId && item.isOpen

/-- Whether the asset is in an open loan. -/
def inOpenLoan (system : System) (assetId : RowId) : Bool :=
  system.loans.any fun loan => loan.holds assetId

/-- Whether the asset is in an open transfer besides one. -/
def inOpenTransfer (system : System) (ownTransfer : Option RowId) (assetId : RowId) : Bool :=
  system.transfers.any fun transfer =>
    some transfer.id ≠ ownTransfer && heldIn transfer.items assetId

/-- Whether the asset is in an open handover. -/
def inOpenHandover (system : System) (assetId : RowId) : Bool :=
  system.handovers.any fun handover => heldIn handover.items assetId

/-- Whether the asset is reserved by a request besides one. -/
def isReserved (system : System) (exceptRequest : Option RowId) (assetId : RowId) : Bool :=
  system.requests.any fun request =>
    some request.id ≠ exceptRequest && heldIn request.items assetId

/-- Whether the asset is in an open write-off besides one. -/
def inOpenWriteOff (system : System) (ownWriteOff : Option RowId) (assetId : RowId) : Bool :=
  system.writeOffs.any fun writeOff =>
    some writeOff.id ≠ ownWriteOff && heldIn writeOff.items assetId

/-- Whether the asset is in an inventory that is planned or going on. -/
def inOpenInventory (system : System) (assetId : RowId) : Bool :=
  system.inventories.any fun inventory =>
    (inventory.status = .planned || inventory.status = .inProgress) &&
      inventory.items.any fun item => item.assetId = some assetId

/-- HOLD_OPEN_LOAN. -/
def holdOpenLoan (system : System) (assetId : RowId) : Option String :=
  if inOpenLoan system assetId then some "está en un préstamo abierto" else none

/-- HOLD_OPEN_TRANSFER. -/
def holdOpenTransfer (system : System) (assetId : RowId) : Option String :=
  if inOpenTransfer system none assetId then some "está en un traslado abierto" else none

/-- HOLD_OPEN_INVENTORY. -/
def holdOpenInventory (system : System) (assetId : RowId) : Option String :=
  if inOpenInventory system assetId then some "está en una toma física abierta" else none

/-- HOLD_REQUEST_RESERVATION: the text depends on whether a request may be left out. -/
def holdRequestReservation (system : System) (exceptRequest : Option (Option RowId))
    (assetId : RowId) : Option String :=
  if isReserved system exceptRequest.join assetId then
    some (if exceptRequest.isSome then "está reservado por otra solicitud"
      else "está reservado por una solicitud de activos")
  else none

/-- HOLD_OPEN_WRITE_OFF: the text depends on whether a write-off may be left out. -/
def holdOpenWriteOff (system : System) (exceptWriteOff : Option (Option RowId))
    (assetId : RowId) : Option String :=
  if inOpenWriteOff system exceptWriteOff.join assetId then
    some (if exceptWriteOff.isSome then "está en otra baja abierta" else "está en una baja abierta")
  else none

/-- HOLD_OPEN_HANDOVER. -/
def holdOpenHandover (system : System) (assetId : RowId) : Option String :=
  if inOpenHandover system assetId then some "está en una entrega abierta" else none

/-- The reasons that hold an asset. -/
def holdReasons (holds : List (Option String)) : List String := holds.filterMap id

/-- The status of an asset as a reason, when it is one of those given. -/
def holdStatus (blocked : List Assets.OperationalStatus) (asset : Asset) : Option String :=
  if asset.operationalStatus ∈ blocked then some ("está " ++ asset.operationalStatus.phrase)
  else none

/-- No reason is given exactly when no hold is there. -/
theorem holdReasons_eq_nil_iff (holds : List (Option String)) :
    holdReasons holds = [] ↔ ∀ hold ∈ holds, hold = none := by
  simp [holdReasons, List.filterMap_eq_nil_iff]

end InternalControl.AssetProcesses
