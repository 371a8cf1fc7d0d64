import InternalControl.DocumentEngine
import InternalControl.Interleaving
import InternalControl.OrgChartTypes
import InternalControl.Table

/-!
# Signing links

Whoever signs a document without a user gets a link by mail. The link is used
once, after its person has answered with the last digits of an identity
document, and only in its turn. Requests through links, the changes of the
document and the provider of signatures lock rows of their own and run one
statement at a time between those of the others. Instants are milliseconds.
-/

namespace InternalControl.SigningLinks

open Documents DocumentEngine
open SignatureEnvelope (Call Content Envelope Event SignatureCapture SignatureRejection
  SignatureRequest SignerEvidence System)

/-! ### Channels -/

def mfaRequiredRoles : List String := ["AUDITA", "CONTROL_INTERNO"]

def requiresMfa (role : String) : Bool := role ∈ mfaRequiredRoles

def signingLinkTtlHours : ℕ := 72

def maxIdentityAttempts : ℕ := 5

def identityAuthorizationMinutes : ℕ := 10

def maxLinkSendAttempts : ℕ := 3

def linkSendRetryMinutes : ℕ := 5

def lastFourDigits (documentNumber : Option String) : Option String :=
  let digits := (documentNumber.getD "").toList.filter Char.isDigit
  if 4 ≤ digits.length then some (String.ofList (digits.drop (digits.length - 4))) else none

/-- What is read of a person to find its channel. -/
structure SignerCandidate where
  personActive : Bool
  email : Option String
  documentNumber : Option String
  userStatus : Option String
  mfaEnabled : Bool
  deriving DecidableEq

inductive TurnBlocker
  | signatureSignerUnassigned
  | signatureSignerInactive
  | signatureNoChannel
  | signatureNoIdentityCheck
  | signatureMfaRequired
  deriving DecidableEq

/-- The channel of a signer, or what stands against it. -/
def channelFor (role : String) :
    Option SignerCandidate → Except TurnBlocker SignatureEnvelope.SignatureMethod
  | none => .error .signatureSignerUnassigned
  | some candidate =>
    if ¬candidate.personActive then .error .signatureSignerInactive
    else
      let hasUser := candidate.userStatus = some "ACTIVE"
      if requiresMfa role then
        if ¬hasUser then .error .signatureNoChannel
        else if candidate.mfaEnabled then .ok .sessionMfa else .error .signatureMfaRequired
      else if hasUser then .ok (if candidate.mfaEnabled then .sessionMfa else .session)
      else if OrgChart.trim (candidate.email.getD "") = "" then .error .signatureNoChannel
      else if lastFourDigits candidate.documentNumber = none then .error .signatureNoIdentityCheck
      else .ok .emailLink

/-! ### Links -/

inductive DeliveryStatus
  | pendingSend
  | sent
  | failed
  deriving DecidableEq

inductive LinkInvalidation
  | resent
  | attemptsExceeded
  | reassigned
  | voided
  | turnChanged
  deriving DecidableEq

inductive LinkAction
  | signed
  | rejected
  deriving DecidableEq

/-- A row of `signature_signing_link`. There is one document. -/
structure SigningLink where
  id : RowId
  signOrder : ℕ
  personId : RowId
  email : String
  tokenHash : Option String
  deliveryStatus : DeliveryStatus
  sendAttempts : ℕ
  sendStartedAt : Option ℤ
  lastSendError : Option String
  sentAt : Option ℤ
  expiresAt : Option ℤ
  identityAttempts : ℕ
  identityConfirmedAt : Option ℤ
  authorizationHash : Option String
  authorizationExpiresAt : Option ℤ
  consumedAt : Option ℤ
  consumedAction : Option LinkAction
  invalidatedAt : Option ℤ
  invalidatedReason : Option LinkInvalidation
  createdBy : Option RowId
  deriving DecidableEq

namespace SigningLink

/-- A link as it is inserted. -/
def issued (id : RowId) (signOrder : ℕ) (personId : RowId) (email : String)
    (createdBy : Option RowId) : SigningLink :=
  ⟨id, signOrder, personId, email, none, .pendingSend, 0, none, none, none, none, 0, none, none, none,
    none, none, none, none, createdBy⟩

def IsOpen (link : SigningLink) : Prop := link.consumedAt = none ∧ link.invalidatedAt = none

instance (link : SigningLink) : Decidable link.IsOpen := by
  unfold IsOpen
  infer_instance

/-- The link may be sent, or sent again. -/
def IsDue (link : SigningLink) (now : ℤ) : Prop :=
  link.IsOpen ∧
    (link.deliveryStatus = .pendingSend ∨
      link.deliveryStatus = .failed ∧ link.sendAttempts < maxLinkSendAttempts) ∧
    ∀ startedAt ∈ link.sendStartedAt, startedAt < now - linkSendRetryMinutes * 60000

instance (link : SigningLink) (now : ℤ) : Decidable (link.IsDue now) := by
  unfold IsDue
  infer_instance

/-- A new token goes out, and the link lasts from now on. -/
def dispatched (tokenHash : String) (now : ℤ) (link : SigningLink) : SigningLink :=
  { link with
    tokenHash := some tokenHash
    sendStartedAt := some now
    sendAttempts := link.sendAttempts + 1
    expiresAt := some (now + signingLinkTtlHours * 3600000) }

def delivered (error : Option String) (now : ℤ) (link : SigningLink) : SigningLink :=
  { link with
    deliveryStatus := if error.isSome then .failed else .sent
    sentAt := if error.isSome then link.sentAt else some now
    lastSendError := error }

/-- A wrong answer. The last one that is allowed closes the link. -/
def mistaken (now : ℤ) (link : SigningLink) : SigningLink :=
  let attempts := link.identityAttempts + 1
  { link with
    identityAttempts := attempts
    invalidatedAt := if maxIdentityAttempts ≤ attempts then some now else none
    invalidatedReason := if maxIdentityAttempts ≤ attempts then some .attemptsExceeded else none
    authorizationHash := none
    authorizationExpiresAt := none }

def confirmed (hash : String) (now : ℤ) (link : SigningLink) : SigningLink :=
  { link with
    identityConfirmedAt := some now
    authorizationHash := some hash
    authorizationExpiresAt := some (now + identityAuthorizationMinutes * 60000) }

def consumed (action : LinkAction) (now : ℤ) (link : SigningLink) : SigningLink :=
  { link with
    consumedAt := some now
    consumedAction := some action
    authorizationHash := none
    authorizationExpiresAt := none }

/-- The turn of the document has changed. Its authorization stays in the row. -/
def outdated (now : ℤ) (link : SigningLink) : SigningLink :=
  { link with invalidatedAt := some now, invalidatedReason := some .turnChanged }

def invalidated (reason : LinkInvalidation) (now : ℤ) (link : SigningLink) : SigningLink :=
  { link with
    invalidatedAt := some now
    invalidatedReason := some reason
    authorizationHash := none
    authorizationExpiresAt := none }

end SigningLink

inductive SigningLinkState
  | pendingSend
  | sent
  | sendFailed
  | expired
  | consumed
  | invalidated
  deriving DecidableEq

def linkState (link : SigningLink) (now : ℤ) : SigningLinkState :=
  if link.consumedAt.isSome then .consumed
  else if link.invalidatedAt.isSome then .invalidated
  else if link.expiresAt.any fun expiresAt => expiresAt ≤ now then .expired
  else match link.deliveryStatus with
    | .failed => .sendFailed
    | .pendingSend => .pendingSend
    | .sent => .sent

/-- The slot whose turn it is. -/
def currentTurn (status : DocumentStatus) (slots : List DocumentSignature) :
    Option DocumentSignature :=
  if status ≠ .pendingSignature ∨ slots.any (fun slot => slot.status = .rejected) then none
  else (slots.insertionSort fun a b => a.signOrder ≤ b.signOrder).find? fun slot =>
    slot.status = .pending

inductive PublicLinkStatus
  | active
  | consumed
  | invalidated
  | expired
  deriving DecidableEq

/-- The status of a link, by the current turn. -/
def linkStatus (link : SigningLink) (current : Option DocumentSignature) (now : ℤ) :
    PublicLinkStatus :=
  match linkState link now with
  | .consumed => .consumed
  | .invalidated => .invalidated
  | .expired => .expired
  | _ =>
    if current.any fun turn =>
      turn.signOrder = link.signOrder ∧ turn.signerPersonId = some link.personId ∧
        ¬requiresMfa turn.role ∧ link.expiresAt.isSome
    then .active else .invalidated

/-! ### Requests and changes -/

/-- What a request through a link wants done. -/
inductive LinkDeed
  | sign (rubricPng : Content)
  | reject (reason : String)
  deriving DecidableEq

def LinkDeed.action : LinkDeed → LinkAction
  | .sign _ => .signed
  | .reject _ => .rejected

structure LinkRequest where
  identityToken : String
  deed : LinkDeed
  ipAddress : Option String
  userAgent : Option String
  deriving DecidableEq

/-- A request through a link. -/
inductive Request
  | confirm (last4 : String)
  | act (request : LinkRequest)
  deriving DecidableEq

/-- A link that was active: the turn that was read with it, and when. -/
structure Checked where
  link : SigningLink
  turn : DocumentSignature
  checkedAt : ℤ
  deriving DecidableEq

/-- A change of the document that concerns its links, with the candidate it reads. -/
inductive Change
  | refresh (candidate : Option SignerCandidate)
  | resend (order : ℕ) (candidate : Option SignerCandidate) (actorId : RowId)
  | reassign (order : ℕ) (personId : RowId)
  | void
  deriving DecidableEq

/-- How far a transaction has come. -/
inductive Phase
  | idle
  /-- The row of the link is locked. -/
  | locked (request : Request) (link : SigningLink)
  | statusRead (request : Request) (link : SigningLink) (status : DocumentStatus)
  | active (request : Request) (checked : Checked)
  | authorized (request : LinkRequest) (checked : Checked) (reference : String) (authorizedAt : ℤ)
  /-- The provider has written the envelopes, and they are still to be committed. -/
  | performed (request : LinkRequest) (checked : Checked) (authorizedAt : ℤ)
      (envelopes : List Envelope)
  /-- The document is locked, and so are the links that were picked. -/
  | changing (change : Change) (picked : Option (List RowId)) (envelopes : Option (List Envelope))
  | syncing (statuses : List SignerStatus)
  | dispatching (id : RowId) (tokenHash : String)

/-- An authorization that a correct answer gave. -/
structure Grant where
  link : RowId
  hash : String
  expiresAt : ℤ
  deriving DecidableEq

/-- A signature or a rejection through a link. -/
structure LinkAct where
  link : RowId
  action : LinkAction
  identityToken : String
  turn : DocumentSignature
  checkedAt : ℤ
  authorizedAt : ℤ
  deriving DecidableEq

/-- The document, its envelope and its links, with who has each of them locked. The wrong answers,
the authorizations and what was committed through links are kept beside them. -/
structure Store (ι : Type) where
  document : Document
  provider : System
  links : Table SigningLink.id
  documentLock : Option ι
  envelopeLock : Option ι
  linkLocks : RowId → Option ι
  mistakes : List RowId
  grants : List Grant
  acts : List LinkAct

/-- A statement of a service. -/
inductive Statement
  | findByToken (request : Request) (token : String)
  | readStatus
  | readTurn (now : ℤ)
  | answer (documentNumber : Option String) (identityToken : String) (now : ℤ)
  | authorize (now : ℤ)
  /-- The provider puts its files and writes the envelope, or stops after some of the files. -/
  | perform (now : Instant) (cut : Option ℕ)
  | consume (now : ℤ)
  | lockDocument (change : Change)
  | pickLinks
  | changeEnvelope (input : SignatureRequest) (now : Instant)
  | commitChange (newId : RowId) (now : ℤ)
  /-- Somebody with a session signs or rejects. -/
  | session (event : Event)
  | readStatuses
  | writeStatuses (failure : Option Assets.Failure)
  | dispatch (id : RowId) (token : String) (now : ℤ)
  | deliver (error : Option String) (now : ℤ)
  /-- A transaction is rolled back, or a process ends. -/
  | crash

/-- The hash of secrets, the calendar, and what the provider has of the platform. -/
structure Platform where
  sha256Hex : String → String
  instantOf : ℤ → Instant
  provider : SignatureEnvelope.Runtime

section Program

variable {ι : Type} [DecidableEq ι]

namespace Store

/-- Give back every lock that a transaction has. -/
def release (store : Store ι) (i : ι) : Store ι :=
  { store with
    documentLock := store.documentLock.filter fun k => k ≠ i
    envelopeLock := store.envelopeLock.filter fun k => k ≠ i
    linkLocks := fun id => (store.linkLocks id).filter fun k => k ≠ i }

/-- Files are put at once, whatever becomes of the transaction. -/
def put (store : Store ι) (files : List SignatureEnvelope.PutObject) : Store ι :=
  { store with provider := { store.provider with storage := store.provider.storage.putAll files } }

def updateLink (store : Store ι) (id : RowId) (change : SigningLink → SigningLink)
    (hid : ∀ link, (change link).id = link.id) : Store ι :=
  { store with links := store.links.update (fun link => link.id = id) change hid }

end Store

def evidenceOf (platform : Platform) (link : SigningLink) (now : ℤ) : SignerEvidence :=
  .emailLink link.id.text link.email (link.sentAt.map platform.instantOf)
    (platform.instantOf (link.identityConfirmedAt.getD now))

/-- What the provider is asked for through a link. -/
def callOf (platform : Platform) (request : LinkRequest) (link : SigningLink) (reference : String)
    (authorizedAt : ℤ) (now : Instant) : Call :=
  match request.deed with
  | .sign rubricPng =>
    .capture reference ⟨link.signOrder, link.personId.text, request.ipAddress, request.userAgent,
      evidenceOf platform link authorizedAt, rubricPng⟩ now
  | .reject reason =>
    .reject reference ⟨link.signOrder, link.personId.text, request.ipAddress, request.userAgent,
      evidenceOf platform link authorizedAt, reason⟩ now

/-- The answer as it is compared: four characters, with blanks at the end. -/
def padded (last4 : String) : String :=
  String.ofList ((last4.toList ++ List.replicate (4 - last4.toList.length) ' ').take 4)

/-- The token of a request opens the authorization of the link. -/
def IsAuthorized (platform : Platform) (link : SigningLink) (identityToken : String) (now : ℤ) :
    Prop :=
  link.identityConfirmedAt.isSome ∧
    link.authorizationHash = some (platform.sha256Hex identityToken) ∧
    ∃ expiresAt ∈ link.authorizationExpiresAt, now < expiresAt

instance (platform : Platform) (link : SigningLink) (identityToken : String) (now : ℤ) :
    Decidable (IsAuthorized platform link identityToken now) := by
  unfold IsAuthorized
  have := decidable_of_iff (link.authorizationExpiresAt.any (fun expiresAt => now < expiresAt) = true)
    (by simp [Option.any_eq_true] : _ ↔ ∃ expiresAt ∈ link.authorizationExpiresAt, now < expiresAt)
  infer_instance

/-- A call of a session, and not of a link. -/
def IsSession : Event → Prop
  | .committed (.capture _ input _) => input.evidence.method ≠ .emailLink
  | .committed (.reject _ rejection _) => rejection.evidence.method ≠ .emailLink
  | .rolledBack (.capture _ input _) _ => input.evidence.method ≠ .emailLink
  | .rolledBack (.reject _ rejection _) _ => rejection.evidence.method ≠ .emailLink
  | _ => False

instance (event : Event) : Decidable (IsSession event) := by
  unfold IsSession
  split <;> infer_instance

/-- The open links that a change invalidates, unless it is refused. -/
def picks (document : Document) (links : List SigningLink) : Change → Option (List RowId)
  | .refresh _ =>
    let current := currentTurn document.status document.signatures
    some ((links.filter fun link => link.IsOpen ∧ ∀ turn ∈ current,
      turn.signOrder ≠ link.signOrder ∨ turn.signerPersonId ≠ some link.personId).map SigningLink.id)
  | .resend order candidate _ =>
    match currentTurn document.status document.signatures with
    | none => none
    | some turn =>
      if turn.signOrder = order ∧
          channelFor turn.role (turn.signerPersonId.bind fun _ => candidate) = .ok .emailLink then
        some ((links.filter fun link => link.IsOpen ∧ link.signOrder = order).map SigningLink.id)
      else none
  | .reassign order personId =>
    if document.status = .pendingSignature ∧
        (document.signatures.find? fun slot => slot.signOrder = order).any
          (fun slot => slot.signerPersonId ≠ some personId) ∧
        (∀ slot ∈ document.signatures, slot.status = .pending) ∧
        (∀ slot ∈ document.signatures, slot.signOrder ≠ order → slot.signerPersonId ≠ some personId) then
      some ((links.filter fun link => link.IsOpen ∧ link.signOrder = order).map SigningLink.id)
    else none
  | .void => some ((links.filter fun link => link.IsOpen).map SigningLink.id)

/-- The envelopes as a change leaves them, with the files that are put. -/
def envelopesOf (platform : Platform) (provider : System) (document : Document) (change : Change)
    (input : SignatureRequest) (now : Instant) : SignatureEnvelope.Attempt :=
  match document.signatureReference with
  | none => ⟨[], .ok provider.envelopes⟩
  | some reference =>
    match change with
    | .void => SignatureEnvelope.void provider reference
    | _ => SignatureEnvelope.reissue platform.provider provider reference input now

/-- The document as a change leaves it. -/
def documentOf (document : Document) : Change → Document
  | .reassign order personId => reassignedDocument order personId document
  | .void => voidedDocument document
  | _ => document

/-- How a change marks the links that it has picked. -/
def Change.mark (now : ℤ) : Change → SigningLink → SigningLink
  | .refresh _ => SigningLink.outdated now
  | .resend .. => SigningLink.invalidated .resent now
  | .reassign .. => SigningLink.invalidated .reassigned now
  | .void => SigningLink.invalidated .voided now

theorem Change.id_mark (change : Change) (now : ℤ) (link : SigningLink) :
    (change.mark now link).id = link.id := by
  cases change <;> rfl

/-- The link that a change adds, when the signer of the turn signs by mail. A refresh adds none
where the signer had one. -/
def added (document : Document) (links : List SigningLink) (newId : RowId) : Change → Option SigningLink
  | .refresh candidate => do
    let turn ← currentTurn document.status document.signatures
    let personId ← turn.signerPersonId
    let read ← candidate
    let email ← read.email
    if channelFor turn.role candidate = .ok .emailLink ∧ email ≠ "" ∧
        ¬∃ link ∈ links, link.signOrder = turn.signOrder ∧ link.personId = personId ∧
          link.invalidatedReason ≠ some .reassigned then
      some (.issued newId turn.signOrder personId email none)
    else none
  | .resend order candidate actorId => do
    let turn ← currentTurn document.status document.signatures
    let personId ← turn.signerPersonId
    let read ← candidate
    let email ← read.email
    some (.issued newId order personId email (some actorId))
  | _ => none

/-- What a sync writes into the document. -/
def syncedDocument (statuses : List SignerStatus) (failure : Option Assets.Failure)
    (document : Document) : Document :=
  let slotted := slottedDocument statuses document
  let target := targetOf slotted.signatures
  if document.status ≠ .pendingSignature ∨ target = .pendingSignature then slotted
  else match failure with
    | none => movedDocument target slotted
    | some failure => failedDocument failure slotted

/-- Nobody else has a lock. -/
abbrev Free (lock : Option ι) (i : ι) : Prop := ∀ k ∈ lock, k = i

instance (lock : Option ι) (i : ι) : Decidable (Free lock i) :=
  match lock with
  | none => .isTrue (by simp [Free])
  | some k => decidable_of_iff (k = i) (by simp [Free])

/-- Store a wrong answer. -/
def Store.mistake (store : Store ι) (id : RowId) (now : ℤ) : Store ι :=
  { store.updateLink id (SigningLink.mistaken now) fun _ => rfl with
    mistakes := store.mistakes ++ [id] }

/-- Store a right answer, with the authorization it gives. -/
def Store.confirm (store : Store ι) (id : RowId) (hash : String) (now : ℤ) : Store ι :=
  { store.updateLink id (SigningLink.confirmed hash now) fun _ => rfl with
    grants := store.grants ++ [⟨id, hash, now + identityAuthorizationMinutes * 60000⟩] }

/-- Commit the envelope and the link of a request together. -/
def Store.consume (store : Store ι) (request : LinkRequest) (checked : Checked) (authorizedAt : ℤ)
    (envelopes : List Envelope) (now : ℤ) : Store ι :=
  { store.updateLink checked.link.id (SigningLink.consumed request.deed.action now) fun _ => rfl with
    provider := { store.provider with envelopes := envelopes }
    acts := store.acts ++ [⟨checked.link.id, request.deed.action, request.identityToken, checked.turn,
      checked.checkedAt, authorizedAt⟩] }

/-- The links with those of a change marked. -/
def Store.marked (store : Store ι) (change : Change) (picked : List RowId) (now : ℤ) :
    Table SigningLink.id :=
  store.links.update (fun link => link.id ∈ picked) (change.mark now) (change.id_mark now)

/-- Commit a change with its links. -/
def Store.commitChange (store : Store ι) (change : Change) (links : Table SigningLink.id)
    (envelopes : Option (List Envelope)) : Store ι :=
  { store with
    document := documentOf store.document change
    provider := { store.provider with envelopes := envelopes.getD store.provider.envelopes }
    links := links }

/-- The order of no open link: two of one order would break a unique index. -/
def HasOpen (links : Table SigningLink.id) (order : ℕ) : Prop :=
  ∃ link ∈ links.rows, link.IsOpen ∧ link.signOrder = order

instance (links : Table SigningLink.id) (order : ℕ) : Decidable (HasOpen links order) := by
  unfold HasOpen
  infer_instance

/-- The statements of the services. One that meets the lock of another transaction waits. -/
def program (platform : Platform) : Interleaving.Program ι (Store ι) Phase Statement
  | i, .findByToken request token, store, .idle =>
    match store.links.rows.find? fun link => link.tokenHash = some (platform.sha256Hex token) with
    | none => some (store, .idle)
    | some link =>
      if Free (store.linkLocks link.id) i then
        some ({ store with linkLocks := Function.update store.linkLocks link.id (some i) },
          .locked request link)
      else none
  | _, .readStatus, store, .locked request link =>
    some (store, .statusRead request link store.document.status)
  | i, .readTurn now, store, .statusRead request link status =>
    match currentTurn status store.document.signatures with
    | none => some (store.release i, .idle)
    | some turn =>
      if linkStatus link (some turn) now = .active then
        some (store, .active request ⟨link, turn, now⟩)
      else some (store.release i, .idle)
  | i, .answer documentNumber identityToken now, store, .active (.confirm last4) checked =>
    match lastFourDigits documentNumber with
    | none => some (store.release i, .idle)
    | some expected =>
      if padded last4 ≠ expected then
        some ((store.mistake checked.link.id now).release i, .idle)
      else
        some ((store.confirm checked.link.id (platform.sha256Hex identityToken) now).release i, .idle)
  | i, .authorize now, store, .active (.act request) checked =>
    match store.document.signatureReference with
    | none => some (store.release i, .idle)
    | some reference =>
      if IsAuthorized platform checked.link request.identityToken now then
        some (store, .authorized request checked reference now)
      else some (store.release i, .idle)
  | i, .perform now cut, store, .authorized request checked reference authorizedAt =>
    if Free store.envelopeLock i then
      let attempt := SignatureEnvelope.attempt platform.provider store.provider
        (callOf platform request checked.link reference authorizedAt now)
      match cut, attempt.outcome with
      | none, .ok envelopes =>
        some ({ store.put attempt.puts with envelopeLock := some i },
          .performed request checked authorizedAt envelopes)
      | none, .error _ => some ((store.put attempt.puts).release i, .idle)
      | some puts, _ => some ((store.put (attempt.puts.take puts)).release i, .idle)
    else none
  | i, .consume now, store, .performed request checked authorizedAt envelopes =>
    some ((store.consume request checked authorizedAt envelopes now).release i, .idle)
  | i, .lockDocument change, store, .idle =>
    if Free store.documentLock i then
      some ({ store with documentLock := some i }, .changing change none none)
    else none
  -- the document is locked, so what is read of it stays as it is
  | i, .pickLinks, store, .changing change none envelopes =>
    if change = .void ∧ envelopes.isNone then none
    else match picks store.document store.links.rows change with
      | none => some (store.release i, .idle)
      | some picked =>
        if ∀ id ∈ picked, Free (store.linkLocks id) i then
          some ({ store with linkLocks := fun id =>
              if id ∈ picked then some i else store.linkLocks id },
            .changing change (some picked) envelopes)
        else none
  | i, .changeEnvelope input now, store, .changing .void none none =>
    if store.document.status ≠ .pendingSignature then some (store.release i, .idle)
    else if Free store.envelopeLock i then
      match (envelopesOf platform store.provider store.document .void input now).outcome with
      | .ok envelopes =>
        some ({ store with envelopeLock := some i }, .changing .void none (some envelopes))
      | .error _ => some (store.release i, .idle)
    else none
  | i, .changeEnvelope input now, store, .changing (.reassign order personId) (some picked) none =>
    let change := Change.reassign order personId
    let slots := (documentOf store.document change).signatures
    if (input.signers.map fun signer => (signer.order, signer.personId)) ≠
        slots.map fun slot => (slot.signOrder, slot.signerPersonId.map RowId.text) then none
    else if Free store.envelopeLock i then
      let attempt := envelopesOf platform store.provider store.document change input now
      match attempt.outcome with
      | .ok envelopes =>
        some ({ store.put attempt.puts with envelopeLock := some i },
          .changing change (some picked) (some envelopes))
      | .error _ => some ((store.put attempt.puts).release i, .idle)
    else none
  | i, .commitChange newId now, store, .changing change (some picked) envelopes =>
    let links := store.marked change picked now
    match change, envelopes, added store.document links.rows newId change with
    | .reassign .., none, _ => none
    | _, _, none => some ((store.commitChange change links envelopes).release i, .idle)
    | _, _, some link =>
      if HasOpen links link.signOrder then
        match change with
        | .refresh _ => some ((store.commitChange change links envelopes).release i, .idle)
        | _ => some (store.release i, .idle)
      else (links.insert link).map fun inserted =>
        ((store.commitChange change inserted envelopes).release i, .idle)
  | i, .session event, store, .idle =>
    if IsSession event ∧ Free store.envelopeLock i then
      (SignatureEnvelope.next platform.provider store.provider event).map fun provider =>
        ({ store with provider := provider }, .idle)
    else none
  | _, .readStatuses, store, .idle =>
    match store.document.signatureReference.bind fun reference =>
      store.provider.envelopes.find? fun envelope => envelope.id = reference with
    | none => some (store, .idle)
    | some envelope => some (store, .syncing (statusesOf envelope))
  | i, .writeStatuses failure, store, .syncing statuses =>
    if Free store.documentLock i then
      some ({ store with document := syncedDocument statuses failure store.document }, .idle)
    else none
  | i, .dispatch id token now, store, .idle =>
    let hash := platform.sha256Hex token
    match store.links.find? id with
    | none => some (store, .idle)
    | some link =>
      if link.IsDue now ∧ Free (store.linkLocks id) i then
        if ∃ other ∈ store.links.rows, other.tokenHash = some hash then some (store, .idle)
        else some (store.updateLink id (SigningLink.dispatched hash now) fun _ => rfl,
          .dispatching id hash)
      else some (store, .idle)
  | i, .deliver error now, store, .dispatching id hash =>
    match store.links.find? id with
    | none => some (store, .idle)
    | some link =>
      if ¬Free (store.linkLocks id) i then none
      else if link.tokenHash = some hash then
        some (store.updateLink id (SigningLink.delivered error now) fun _ => rfl, .idle)
      else some (store, .idle)
  | i, .crash, store, _ => some (store.release i, .idle)
  | _, _, _, _ => none

/-- A document with its envelope, before it has links. -/
def start (ι : Type) (document : Document) (provider : System) : Interleaving ι (Store ι) Phase :=
  ⟨⟨document, provider, Table.empty, none, none, fun _ => none, [], [], []⟩, fun _ => .idle⟩

end Program

end InternalControl.SigningLinks
