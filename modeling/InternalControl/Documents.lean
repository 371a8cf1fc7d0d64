import InternalControl.AssetChanges
import InternalControl.SignatureEnvelope

/-!
# Documents and what their processes hear of them

A document keeps a slot for each signer. The process it belongs to hears of it
three times: when it is generated, and when it is signed or refused.
-/

namespace InternalControl.Documents

open Assets AssetProcesses SignatureEnvelope

/-- The status of a document. -/
inductive DocumentStatus where
  | pendingSignature
  | signed
  | rejected
  | voided
  deriving DecidableEq

/-- The slot of a signer on a document. -/
structure DocumentSignature where
  signOrder : ℕ
  role : String
  signerPersonId : Option RowId
  status : SignatureStatus
  signedAt : Option Instant
  deriving DecidableEq

/-- A document. The message of the lifecycle error is that of the failure. -/
structure Document where
  id : RowId
  number : String
  formatKey : String
  entityType : Option String
  entityId : Option RowId
  status : DocumentStatus
  signatureReference : Option String
  lifecycleError : Option Failure
  lifecycleAttempts : ℕ
  signatures : List DocumentSignature
  deriving DecidableEq

/-- What a process hears of its document. -/
structure DocumentLifecycleEvent where
  documentId : RowId
  formatKey : String
  number : String
  entityId : Option RowId
  signers : List DocumentSignature

/-- The person of a role: of the last signer that has it. -/
def DocumentLifecycleEvent.signersByRole (event : DocumentLifecycleEvent) (role : String) :
    Option RowId :=
  ((event.signers.reverse.find? fun signer => signer.role = role).map
    DocumentSignature.signerPersonId).join

/-- The event of a document. -/
def Document.event (document : Document) : DocumentLifecycleEvent where
  documentId := document.id
  formatKey := document.formatKey
  number := document.number
  entityId := document.entityId
  signers := document.signatures

/-- An item that is closed, linked to its movement. -/
def movedItem (movement : RowId → RowId) (item : HeldItem) : HeldItem :=
  { item with movementId := some (movement item.assetId), isOpen := false }

/-- An item that holds its asset no longer. -/
def closedItem (item : HeldItem) : HeldItem := { item with isOpen := false }

/-- The items once the process has completed: those without a movement get it. -/
def completedItems (movement : RowId → RowId) (items : List HeldItem) : List HeldItem :=
  items.map fun item =>
    if item.movementId.isNone then movedItem movement item else closedItem item

/-- The items that wait for their movement. -/
def pendingItems (items : List HeldItem) : List HeldItem :=
  items.filter fun item => item.movementId.isNone

/-- The items a list of assets opens. -/
def openItems (assetIds : List RowId) : List HeldItem :=
  assetIds.map fun assetId => ⟨assetId, true, none⟩

/-- The name of a document id that may be missing. -/
def orText (documentId : Option RowId) (text : String) : String :=
  (documentId.map RowId.text).getD text

end InternalControl.Documents
