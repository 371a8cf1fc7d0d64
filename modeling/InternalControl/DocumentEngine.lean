import InternalControl.Handovers
import InternalControl.Loans
import InternalControl.Transfers
import InternalControl.WriteOffs

/-!
# The engine of documents

The engine writes what the provider says of the signers on the document, and
moves the document when they have all signed or one has refused. The process of
the document is told in the same transaction, under a savepoint: when it fails
only the slots and the error are kept.
-/

namespace InternalControl.DocumentEngine

open Assets AssetProcesses Documents Fallible
open SignatureEnvelope (Envelope SignatureStatus)

/-- What the provider says of a signer. -/
structure SignerStatus where
  order : ℕ
  status : SignatureStatus
  signedAt : Option Instant
  deriving DecidableEq

/-- What the provider says of the signers of an envelope. -/
def statusesOf (envelope : Envelope) : List SignerStatus :=
  envelope.signers.map fun signer => ⟨signer.signOrder, signer.status, signer.signedAt⟩

/-! ### The processes -/

inductive DocumentLifecyclePhase where
  | onGenerated
  | onSigned
  | onRejected
  deriving DecidableEq

/-- LOAN_DOCUMENT_ENTITY. -/
def loanDocumentEntity : String := "LOAN"

/-- LOAN_DELIVERY_FORMAT. -/
def loanDeliveryFormat : String := "OCI-01-65"

/-- LOAN_RETURN_FORMAT. -/
def loanReturnFormat : String := "LOAN_RETURN"

/-- INVENTORY_ACT_ENTITY_TYPE. -/
def inventoryActEntityType : String := "PHYSICAL_INVENTORY_ACT"

/-- What a callback has from outside: the movements of the assets, whether they
were still to be linked, whether the act of the loan takes the place of one that
was refused, what the act of an inventory says, and the observers. -/
structure CallbackInput where
  movement : RowId → RowId
  linked : Except Failure Unit
  previousReplaceable : Bool
  inventoryAct : Except Failure Unit
  observed : Except Failure Unit

/-- The loan of an act. -/
def lockActLoan (system : System) (event : DocumentLifecycleEvent) : Except Failure AssetLoan :=
  if event.formatKey ≠ loanDeliveryFormat ∧ event.formatKey ≠ loanReturnFormat then
    .error (.internal ("El préstamo solo tiene actas " ++ loanDeliveryFormat ++ " y " ++
      loanReturnFormat ++ ", no " ++ event.formatKey))
  else
    match event.entityId.bind fun id => system.loans.find? fun loan => loan.id = id with
    | some loan => .ok loan
    | none => .error (.internal ("No existe el préstamo " ++ orText event.entityId "(sin id)" ++
        " del acta " ++ event.documentId.text))

/-- What the act of a return leaves in the history of its loan. -/
def returnActEvent : DocumentLifecyclePhase → LoanEventType
  | .onGenerated => .returnActGenerated
  | .onSigned => .returnActSigned
  | .onRejected => .returnActRejected

/-- The callback of loans: the act of a return is only noted. -/
def loanCallback (input : CallbackInput) (phase : DocumentLifecyclePhase) (system : System)
    (event : DocumentLifecycleEvent) : Except Failure System := do
  let loan ← lockActLoan system event
  if event.formatKey = loanReturnFormat then
    return Loans.addEvent system loan.id (returnActEvent phase)
  else
    match phase with
    | .onGenerated =>
      Loans.actGenerated system loan.id event.documentId input.previousReplaceable
    | .onSigned => Loans.actSigned system loan.id event.documentId
    | .onRejected => Loans.actRejected system loan.id event.documentId

def handoverCallback (input : CallbackInput) (phase : DocumentLifecyclePhase) (system : System)
    (event : DocumentLifecycleEvent) : Except Failure System :=
  match phase with
  | .onGenerated => Handovers.onGenerated system event
  | .onSigned => Handovers.onSigned system event input.movement input.linked
  | .onRejected => Handovers.onRejected system event

def transferCallback (input : CallbackInput) (phase : DocumentLifecyclePhase) (system : System)
    (event : DocumentLifecycleEvent) : Except Failure System :=
  match phase with
  | .onGenerated => Transfers.onGenerated system event
  | .onSigned => Transfers.onSigned system event input.movement input.linked
  | .onRejected => Transfers.onRejected system event

def writeOffCallback (input : CallbackInput) (phase : DocumentLifecyclePhase) (system : System)
    (event : DocumentLifecycleEvent) : Except Failure System :=
  match phase with
  | .onGenerated => WriteOffs.onGenerated system event
  | .onSigned => WriteOffs.onSigned system event input.movement
  | .onRejected => WriteOffs.onRejected system event

/-- A process that is told of its documents. -/
inductive Handler where
  | handover
  | transfer
  | writeOff
  | loan
  | inventoryAct
  deriving DecidableEq

/-- The handlers that are registered, by the type of what they handle. -/
def handlerOf (entityType : String) : Option Handler :=
  if entityType = Handovers.entityType then some .handover
  else if entityType = Transfers.entityType then some .transfer
  else if entityType = WriteOffs.entityType then some .writeOff
  else if entityType = loanDocumentEntity then some .loan
  else if entityType = inventoryActEntityType then some .inventoryAct
  else none

/-- What a process does when it is told of a document. An inventory only checks
that the act is its own. -/
def Handler.callback (handler : Handler) (input : CallbackInput)
    (phase : DocumentLifecyclePhase) (system : System) (event : DocumentLifecycleEvent) :
    Except Failure System :=
  match handler with
  | .handover => handoverCallback input phase system event
  | .transfer => transferCallback input phase system event
  | .writeOff => writeOffCallback input phase system event
  | .loan => loanCallback input phase system event
  | .inventoryAct => do
    input.inventoryAct
    return system

/-- Tell the process of a document, and those who observe it. -/
def dispatch (input : CallbackInput) (phase : DocumentLifecyclePhase) (system : System)
    (document : Document) : Except Failure System :=
  match document.entityType.bind handlerOf with
  | none => .ok system
  | some handler => do
    let after ← handler.callback input phase system document.event
    input.observed
    return after

/-! ### The slots -/

/-- The rows of the tables, with the envelopes of the provider. -/
structure Engine where
  system : System
  documents : List Document
  envelopes : List Envelope

/-- The document with an id. -/
def findDocument (engine : Engine) (id : RowId) : Option Document :=
  engine.documents.find? fun document => document.id = id

/-- Write a document back. -/
def saveDocument (document : Document) (documents : List Document) : List Document :=
  documents.map fun other => if other.id = document.id then document else other

/-- Write the status of a signer in its slot. -/
def writeSlot (slots : List DocumentSignature) (status : SignerStatus) :
    List DocumentSignature :=
  slots.map fun slot =>
    if slot.signOrder = status.order then
      { slot with status := status.status, signedAt := status.signedAt }
    else slot

/-- Write what the provider says of the signers. -/
def writeSlots (statuses : List SignerStatus) (slots : List DocumentSignature) :
    List DocumentSignature := statuses.foldl writeSlot slots

/-- The status that the slots ask for. -/
def targetOf (slots : List DocumentSignature) : DocumentStatus :=
  if slots.any fun slot => slot.status = .rejected then .rejected
  else if slots.all fun slot => slot.status = .signed then .signed
  else .pendingSignature

/-- What the process hears when a document moves. -/
def phaseOf (target : DocumentStatus) : DocumentLifecyclePhase :=
  if target = .signed then .onSigned else .onRejected

/-- What came of the transaction of a sync. -/
inductive SyncOutcome where
  /-- The document stays as it was, besides its slots. -/
  | stayed
  /-- The document has moved, and its process has been told. -/
  | moved (target : DocumentStatus)
  /-- The process has failed. -/
  | failed (target : DocumentStatus) (failure : Failure)

/-- The callback as it goes: what it has written when it ends, and whether it
failed. It may be cut anywhere, with what it had written by then. -/
def runCallback (cut : Option (System × Failure)) (system : System)
    (outcome : Except Failure System) : System × Option Failure :=
  match cut, outcome with
  | some (written, failure), _ => (written, some failure)
  | none, .ok after => (after, none)
  | none, .error failure => (system, some failure)

/-- A document with what the provider says in its slots. -/
def slottedDocument (statuses : List SignerStatus) (document : Document) : Document :=
  { document with signatures := writeSlots statuses document.signatures }

/-- A document that has moved. -/
def movedDocument (target : DocumentStatus) (document : Document) : Document :=
  { document with status := target, lifecycleError := none }

/-- A document whose process has failed. -/
def failedDocument (failure : Failure) (document : Document) : Document :=
  { document with
    lifecycleError := some failure, lifecycleAttempts := document.lifecycleAttempts + 1 }

/-- The transaction of a sync. -/
def syncTransaction (input : CallbackInput) (cut : Option (System × Failure)) (engine : Engine)
    (id : RowId) (statuses : List SignerStatus) : Engine × SyncOutcome :=
  match findDocument engine id with
  | none => (engine, .stayed)
  | some locked =>
    let slotted := slottedDocument statuses locked
    let written := { engine with documents := saveDocument slotted engine.documents }
    let target := targetOf slotted.signatures
    if locked.status ≠ .pendingSignature ∨ target = .pendingSignature then (written, .stayed)
    else
      -- SAVEPOINT document_lifecycle
      let moved := movedDocument target slotted
      let told := runCallback cut written.system
        (dispatch input (phaseOf target) written.system moved)
      let attempted := { written with
        system := told.1, documents := saveDocument moved written.documents }
      match told.2 with
      | none => (attempted, .moved target)
      | some failure =>
        -- ROLLBACK TO SAVEPOINT document_lifecycle
        ({ written with
            documents := saveDocument (failedDocument failure slotted) written.documents },
          .failed target failure)

/-! ### Generation -/

/-- The slot of a signer that has not acted. -/
def newSlot (signer : ℕ × String × Option RowId) : DocumentSignature where
  signOrder := signer.1
  role := signer.2.1
  signerPersonId := signer.2.2
  status := .pending
  signedAt := none

/-- What a new document is about: the order, the role and the person of each signer. -/
structure DocumentInput where
  id : RowId
  number : String
  formatKey : String
  entityType : Option String
  entityId : Option RowId
  signers : List (ℕ × String × Option RowId)

/-- A document that has just been made. -/
def newDocument (input : DocumentInput) : Document where
  id := input.id
  number := input.number
  formatKey := input.formatKey
  entityType := input.entityType
  entityId := input.entityId
  status := .pendingSignature
  signatureReference := none
  lifecycleError := none
  lifecycleAttempts := 0
  signatures := input.signers.map newSlot

/-- Insert a new document, and tell its process. -/
def generateWithin (input : CallbackInput) (engine : Engine) (document : DocumentInput) :
    Except Failure Engine :=
  if engine.documents.any fun other => other.id = document.id then
    .error (.internal "duplicate key")
  else do
    let after ← dispatch input .onGenerated engine.system (newDocument document)
    return { engine with system := after, documents := engine.documents ++ [newDocument document] }

/-- The documents with the one of an id changed. -/
def updateDocument (documents : List Document) (id : RowId) (change : Document → Document) :
    List Document :=
  documents.map fun document => if document.id = id then change document else document

/-- A document whose signatures have been asked for. -/
def requestedDocument (reference : String) (document : Document) : Document :=
  { document with signatureReference := some reference }

/-- A document with another person in a slot. -/
def reassignedDocument (order : ℕ) (person : RowId) (document : Document) : Document :=
  { document with
    signatures := document.signatures.map fun slot =>
      if slot.signOrder = order then { slot with signerPersonId := some person } else slot }

/-! ### Voiding -/

/-- The document is of an entity. -/
def Document.isOf (document : Document) (entityType : String) (entityId : RowId) : Bool :=
  document.entityType = some entityType && document.entityId = some entityId

/-- A document that was pending, voided. -/
def voidedDocument (document : Document) : Document :=
  if document.status = .pendingSignature then
    { document with status := .voided, lifecycleError := none }
  else document

/-- The envelopes with those of some documents closed. -/
def voidEnvelopes (references : List String) (envelopes : List Envelope) : List Envelope :=
  envelopes.map fun envelope =>
    if envelope.id ∈ references then SignatureEnvelope.voidedEnvelope envelope else envelope

/-- Void the documents of an entity, unless one of them is signed. -/
def voidForEntity (engine : Engine) (entityType : String) (entityId : RowId) :
    Except Failure Engine :=
  let found := engine.documents.filter fun document => Document.isOf document entityType entityId
  let signed := found.filter fun document => document.status = .signed
  if signed ≠ [] then
    refuseWith .documentAlreadySigned ("El acta " ++ ", ".intercalate (signed.map Document.number) ++
      " ya está firmada y no se puede anular.")
  else
    let pending := found.filter fun document => document.status = .pendingSignature
    .ok { engine with
      documents := engine.documents.map fun document =>
        if Document.isOf document entityType entityId then voidedDocument document else document
      envelopes := voidEnvelopes (pending.filterMap Document.signatureReference) engine.envelopes }

/-- A slot of a pending document of an entity is signed. -/
def hasSignatures (engine : Engine) (entityType : String) (entityId : RowId) : Bool :=
  engine.documents.any fun document =>
    Document.isOf document entityType entityId && document.status = .pendingSignature &&
      document.signatures.any fun slot => slot.status = .signed

/-- A process that voids its documents when it is cancelled. -/
inductive Process where
  | handover
  | transfer
  | writeOff
  | loan
  deriving DecidableEq

/-- The type of the documents of a process. -/
def Process.entityType : Process → String
  | .handover => Handovers.entityType
  | .transfer => Transfers.entityType
  | .writeOff => WriteOffs.entityType
  | .loan => loanDocumentEntity

/-- Cancel a process with its documents. -/
def cancelProcess (engine : Engine) (process : Process) (id : RowId) : Except Failure Engine := do
  let voided := voidForEntity engine process.entityType id
  let outcome := voided.map fun _ => ()
  let signed := hasSignatures engine process.entityType id
  let system ← match process with
    | .handover => Handovers.cancel engine.system id outcome
    | .transfer => Transfers.cancel engine.system id signed outcome
    | .writeOff => WriteOffs.cancel engine.system id signed outcome
    | .loan => Loans.undoDelivery engine.system id outcome
  let after ← voided
  return { after with system := system }

end InternalControl.DocumentEngine
