import Mathlib.Data.List.Sort
import InternalControl.KeyedMap
import InternalControl.StorageKeys

/-!
# Signature envelopes

An envelope keeps who has to sign a document, in which order, and the hash of
the document after each signature. Its files are put in a storage that a
rollback does not undo.
-/

namespace InternalControl.SignatureEnvelope

/-- The bytes of a file. -/
abbrev Content := List UInt8

/-- Where files are kept. -/
inductive StorageDriver where
  | project
  | s3
  | googleDrive
  | onedrive
  deriving DecidableEq

/-- The files of every driver, by key. -/
abbrev Storage := KeyedMap (StorageDriver × String) Content

/-- A file to be put in the storage. -/
structure PutObject where
  driver : StorageDriver
  key : String
  body : Content

/-- Put a file, in the place of what its key had. -/
def Storage.put (storage : Storage) (file : PutObject) : Storage :=
  KeyedMap.set storage (file.driver, file.key) file.body

/-- Put files one after another. -/
def Storage.putAll (storage : Storage) (files : List PutObject) : Storage :=
  files.foldl Storage.put storage

/-- Whether an envelope is still being signed. -/
inductive EnvelopeStatus where
  | pending
  | completed
  | rejected
  | voided
  deriving DecidableEq

/-- What a signer has done. -/
inductive SignatureStatus where
  | pending
  | signed
  | rejected
  deriving DecidableEq

/-- How a signer acts. -/
inductive SignatureMethod where
  | sessionMfa
  | session
  | emailLink
  deriving DecidableEq

/-- The name of a method on the document. -/
def methodLabel : SignatureMethod → String
  | .sessionMfa => "Sesión con verificación en dos pasos"
  | .session => "Sesión"
  | .emailLink => "Enlace de un solo uso enviado al correo institucional"

/-- Who acted, as the caller knows it. -/
inductive SignerEvidence where
  | session (mfa : Bool) (signerUserId sessionId : String)
  | emailLink (signingLinkId linkEmail : String) (linkSentAt : Option Instant)
      (identityConfirmedAt : Instant)

/-- The evidence columns of a signer. -/
structure EvidenceColumns where
  method : Option SignatureMethod
  signerUserId : Option String
  sessionId : Option String
  mfaEnabled : Option Bool
  signingLinkId : Option String
  linkEmail : Option String
  linkSentAt : Option Instant
  identityConfirmedAt : Option Instant
  deriving DecidableEq

/-- The evidence columns of a signer that has not acted. -/
def noEvidence : EvidenceColumns := ⟨none, none, none, none, none, none, none, none⟩

/-- The method of some evidence. -/
def SignerEvidence.method : SignerEvidence → SignatureMethod
  | session true _ _ => .sessionMfa
  | session false _ _ => .session
  | emailLink .. => .emailLink

/-- Evidence as columns. -/
def evidenceColumns (evidence : SignerEvidence) : EvidenceColumns :=
  match evidence with
  | .emailLink signingLinkId linkEmail linkSentAt identityConfirmedAt =>
    ⟨some evidence.method, none, none, none, some signingLinkId, some linkEmail, linkSentAt,
      some identityConfirmedAt⟩
  | .session mfa signerUserId sessionId =>
    ⟨some evidence.method, some signerUserId, some sessionId, some mfa, none, none, none, none⟩

/-- A stored rubric. -/
structure StoredRubric where
  driver : StorageDriver
  key : String
  sha256 : String
  deriving DecidableEq

/-- A signer of an envelope. -/
structure SignerRow where
  signOrder : ℕ
  role : String
  roleLabel : Option String
  personId : Option String
  name : Option String
  documentNumber : Option String
  status : SignatureStatus
  signedAt : Option Instant
  pdfSha256Before : Option String
  pdfSha256After : Option String
  ipAddress : Option String
  userAgent : Option String
  evidence : EvidenceColumns
  rubric : Option StoredRubric
  rejectReason : Option String
  deriving DecidableEq

/-- An envelope with its signers, in signing order. -/
structure Envelope where
  id : String
  documentId : String
  verificationCode : String
  originalPdfSha256 : String
  preparedPdfSha256 : String
  currentPdfDriver : StorageDriver
  currentPdfKey : String
  currentPdfSha256 : String
  status : EnvelopeStatus
  signers : List SignerRow

/-- Who has to sign, as a caller asks for it. -/
structure SignerRequest where
  order : ℕ
  role : String
  roleLabel : Option String
  personId : Option String
  name : Option String
  documentNumber : Option String

/-- What a caller wants signed. -/
structure SignatureRequest where
  documentId : String
  documentCreatedAt : Instant
  documentNumber : String
  formatKey : String
  title : Option String
  pdf : Content
  pdfSha256 : String
  signers : List SignerRequest

/-- A signature given by a signer. -/
structure SignatureCapture where
  order : ℕ
  signerPersonId : String
  ipAddress : Option String
  userAgent : Option String
  evidence : SignerEvidence
  rubricPng : Content

/-- A signer's refusal. -/
structure SignatureRejection where
  order : ℕ
  signerPersonId : String
  ipAddress : Option String
  userAgent : Option String
  evidence : SignerEvidence
  reason : String

/-- What the signature sheet of a document says. -/
structure PrepareInput where
  title : String
  verifyUrl : String
  verificationCode : String
  originalSha256 : String
  slots : List (ℕ × String)

/-- What is stamped in the place of a signer. -/
structure SignatureMark where
  slotIndex : Option ℕ
  rubricPng : Content
  label : String
  name : String
  documentNumber : Option String
  signedAt : Instant
  ipAddress : Option String
  methodLabel : String

/-- The hash, the calendar, the PDF library and the configuration. The library
dates what it saves. -/
structure Runtime where
  sha256 : Content → String
  calendarYear : Instant → String
  prepareForSignature : Content → PrepareInput → Instant → Content
  stampSignature : Content → SignatureMark → Instant → Content
  signatureVerifyUrl : String

/-- Why a call is refused. -/
inductive ErrorCode where
  | resourceNotFound
  | validationFailed
  | invalidState
  | documentTampered
  | storageKeyInvalid
  | signatureSignerUnassigned
  | signatureNotDesignatedSigner
  | signatureOutOfOrder
  | signatureReassignAfterSigning
  /-- The database refuses the rows. -/
  | databaseError
  deriving DecidableEq

/-- The error of a refused call. -/
structure ApiException where
  code : ErrorCode
  message : Option String
  deriving DecidableEq

/-- The committed state: the files, the envelopes, when each document was created and
the driver files are put in. -/
structure System where
  storage : Storage
  envelopes : List Envelope
  documents : KeyedMap String Instant
  driver : StorageDriver

/-- What a call puts in the storage and what it then commits, if it gets there. -/
structure Attempt where
  puts : List PutObject
  outcome : Except ApiException (List Envelope)

/-- A call that puts nothing and fails. -/
def refused (error : ApiException) : Attempt := ⟨[], .error error⟩

/-! ### Reading an envelope -/

/-- The envelope of a reference. -/
def envelope (envelopes : List Envelope) (reference : String) : Except ApiException Envelope :=
  match envelopes.find? fun envelope => envelope.id = reference with
  | some envelope => .ok envelope
  | none => .error ⟨.resourceNotFound, some "No encontramos la solicitud de firma."⟩

/-- When the document of an envelope was created. -/
def documentCreatedAt (documents : KeyedMap String Instant) (documentId : String) :
    Except ApiException Instant :=
  match documents.get? documentId with
  | some createdAt => .ok createdAt
  | none => .error ⟨.resourceNotFound, some "No encontramos el acta de esta firma."⟩

/-- The current document of an envelope, when its bytes have the current hash. -/
def currentPdf (runtime : Runtime) (storage : Storage) (envelope : Envelope) :
    Except ApiException Content :=
  match storage.get? (envelope.currentPdfDriver, envelope.currentPdfKey) with
  | none => .error ⟨.resourceNotFound, none⟩
  | some content =>
    if runtime.sha256 content ≠ envelope.currentPdfSha256 then .error ⟨.documentTampered, none⟩
    else .ok content

/-- The signer of an order, when it is the next one and the person is its signer. -/
def nextSigner (envelope : Envelope) (order : ℕ) (personId : String) :
    Except ApiException SignerRow :=
  if envelope.status ≠ .pending then
    .error ⟨.invalidState, some "La solicitud de firma ya está cerrada."⟩
  else
    match envelope.signers.find? fun item => item.signOrder = order with
    | none => .error ⟨.invalidState, some "Este firmante ya no está pendiente."⟩
    | some signer =>
      if signer.status ≠ .pending then
        .error ⟨.invalidState, some "Este firmante ya no está pendiente."⟩
      else
        match Text.present signer.personId with
        | none => .error ⟨.signatureSignerUnassigned, none⟩
        | some designated =>
          if designated ≠ personId then .error ⟨.signatureNotDesignatedSigner, none⟩
          else
            match envelope.signers.find? fun item => item.status = .pending with
            | none => .error ⟨.signatureOutOfOrder, some "Primero debe firmar el turno undefined."⟩
            | some next =>
              if next.signOrder ≠ order then
                .error ⟨.signatureOutOfOrder,
                  some ("Primero debe firmar el turno " ++ Nat.repr next.signOrder ++ ".")⟩
              else .ok signer

/-! ### Writing an envelope -/

/-- The envelopes with the one of an id changed. -/
def updateEnvelope (envelopes : List Envelope) (id : String) (change : Envelope → Envelope) :
    List Envelope :=
  envelopes.map fun envelope => if envelope.id = id then change envelope else envelope

/-- The signers with the one of an order changed. -/
def updateSigner (signers : List SignerRow) (order : ℕ) (change : SignerRow → SignerRow) :
    List SignerRow :=
  signers.map fun signer => if signer.signOrder = order then change signer else signer

/-- The bytes every PNG starts with. -/
def pngStart : Content := [0x89, 0x50, 0x4e, 0x47, 0x0d, 0x0a, 0x1a, 0x0a]

/-- The bytes start like a PNG. -/
def isPng (content : Content) : Bool := 8 < content.length && content.take 8 = pngStart

/-- The largest rubric in bytes. -/
def maxRubricBytes : ℕ := 64 * 1024

/-- The signers of a request in signing order. -/
def signersInOrder (request : SignatureRequest) : List SignerRequest :=
  request.signers.insertionSort fun a b => a.order ≤ b.order

/-- The public address of an envelope. -/
def verificationUrl (runtime : Runtime) (code : String) : String :=
  runtime.signatureVerifyUrl ++ "/" ++ code

/-- The document of a request with its signature sheet. -/
def preparedDocument (runtime : Runtime) (request : SignatureRequest) (verificationCode : String)
    (now : Instant) : Content :=
  runtime.prepareForSignature request.pdf
    { title := request.title.getD (request.formatKey ++ " " ++ request.documentNumber)
      verifyUrl := verificationUrl runtime verificationCode
      verificationCode := verificationCode
      originalSha256 := runtime.sha256 request.pdf
      slots := (signersInOrder request).map fun signer =>
        (signer.order, signer.roleLabel.getD signer.role) } now

/-- A signer that has not acted. -/
def newSigner (signer : SignerRequest) : SignerRow where
  signOrder := signer.order
  role := signer.role
  roleLabel := signer.roleLabel
  personId := signer.personId
  name := signer.name
  documentNumber := signer.documentNumber
  status := .pending
  signedAt := none
  pdfSha256Before := none
  pdfSha256After := none
  ipAddress := none
  userAgent := none
  evidence := noEvidence
  rubric := none
  rejectReason := none

/-- The key of a file, when it is a valid one. -/
def validKey (key : Option String) : Except ApiException String :=
  match key with
  | some key => .ok key
  | none => .error ⟨.storageKeyInvalid, none⟩

/-- An envelope nobody has signed. -/
def newEnvelope (runtime : Runtime) (input : SignatureRequest) (code id : String)
    (stored : PutObject) : Envelope where
  id := id
  documentId := input.documentId
  verificationCode := code
  originalPdfSha256 := runtime.sha256 input.pdf
  preparedPdfSha256 := runtime.sha256 stored.body
  currentPdfDriver := stored.driver
  currentPdfKey := stored.key
  currentPdfSha256 := runtime.sha256 stored.body
  status := .pending
  signers := (signersInOrder input).map newSigner

/-- Create an envelope for a document. -/
def request (runtime : Runtime) (system : System) (input : SignatureRequest)
    (code id : String) (now : Instant) : Attempt :=
  if runtime.sha256 input.pdf ≠ input.pdfSha256 then
    refused ⟨.documentTampered, some "El PDF no coincide con el del acta."⟩
  else
    match validKey (StorageKeys.signaturePreparedPdfKey runtime.calendarYear
      ⟨input.documentCreatedAt, input.documentId, code⟩ none) with
    | .error error => refused error
    | .ok key =>
      let stored : PutObject := ⟨system.driver, key, preparedDocument runtime input code now⟩
      let created := newEnvelope runtime input code id stored
      -- the order of a signer is part of the key of its row
      ⟨[stored],
        if (created.signers.map SignerRow.signOrder).Nodup then .ok (system.envelopes ++ [created])
        else .error ⟨.databaseError, none⟩⟩

/-- A signer once it has signed. -/
def signedRow (capture : SignatureCapture) (signedAt : Instant) (rubric : StoredRubric)
    (before after : String) (signer : SignerRow) : SignerRow :=
  { signer with
    status := .signed
    signedAt := some signedAt
    ipAddress := capture.ipAddress
    userAgent := capture.userAgent
    evidence := evidenceColumns capture.evidence
    rubric := some rubric
    pdfSha256Before := some before
    pdfSha256After := some after }

/-- What is stamped for a signer. -/
def signatureMark (envelope : Envelope) (signer : SignerRow) (capture : SignatureCapture)
    (signedAt : Instant) : SignatureMark where
  slotIndex := envelope.signers.findIdx? fun item => item.signOrder = capture.order
  rubricPng := capture.rubricPng
  label := signer.roleLabel.getD signer.role
  name := signer.name.getD ""
  documentNumber := signer.documentNumber
  signedAt := signedAt
  ipAddress := capture.ipAddress
  methodLabel := methodLabel capture.evidence.method

/-- An envelope once one more signer has signed. -/
def signedEnvelope (capture : SignatureCapture) (signedAt : Instant) (rubric : StoredRubric)
    (stored : PutObject) (before after : String) (pending : ℕ) (row : Envelope) : Envelope :=
  { row with
    signers := updateSigner row.signers capture.order
      (signedRow capture signedAt rubric before after)
    currentPdfDriver := stored.driver
    currentPdfKey := stored.key
    currentPdfSha256 := after
    status := if pending = 0 then .completed else row.status }

/-- What a signature needs before anything is put: the envelope, the signer, the current
document, what its keys are made of and the key of the rubric. -/
def readForCapture (runtime : Runtime) (system : System) (externalReference : String)
    (input : SignatureCapture) : Except ApiException
      (Envelope × SignerRow × Content × StorageKeys.SignatureKeyInput × String) := do
  let envelope ← envelope system.envelopes externalReference
  let signer ← nextSigner envelope input.order input.signerPersonId
  let current ← currentPdf runtime system.storage envelope
  let createdAt ← documentCreatedAt system.documents envelope.documentId
  let keyInput : StorageKeys.SignatureKeyInput :=
    ⟨createdAt, envelope.documentId, envelope.verificationCode⟩
  let rubricKey ← validKey
    (StorageKeys.signatureRubricKey runtime.calendarYear keyInput input.order)
  return (envelope, signer, current, keyInput, rubricKey)

/-- Sign in the place of the next signer. -/
def capture (runtime : Runtime) (system : System) (externalReference : String)
    (input : SignatureCapture) (now : Instant) : Attempt :=
  if !isPng input.rubricPng || maxRubricBytes < input.rubricPng.length then
    refused ⟨.validationFailed, some "La firma debe ser una imagen PNG de máximo 64 KB."⟩
  else
    match readForCapture runtime system externalReference input with
    | .error error => refused error
    | .ok (envelope, signer, current, keyInput, rubricKey) =>
      let rubric : PutObject := ⟨system.driver, rubricKey, input.rubricPng⟩
      let stamped := runtime.stampSignature current (signatureMark envelope signer input now) now
      match validKey (StorageKeys.signatureStampedPdfKey runtime.calendarYear keyInput
        input.order) with
      | .error error => ⟨[rubric], .error error⟩
      | .ok stampedKey =>
        let stored : PutObject := ⟨system.driver, stampedKey, stamped⟩
        let pending := envelope.signers.filter fun item =>
          item.status ≠ .signed && item.signOrder ≠ input.order
        ⟨[rubric, stored],
          .ok (updateEnvelope system.envelopes envelope.id
            (signedEnvelope input now
              ⟨system.driver, rubricKey, runtime.sha256 input.rubricPng⟩ stored
              envelope.currentPdfSha256 (runtime.sha256 stored.body) pending.length))⟩

/-- A signer once it has refused. -/
def rejectedRow (rejection : SignatureRejection) (rejectedAt : Instant) (before : String)
    (signer : SignerRow) : SignerRow :=
  { signer with
    status := .rejected
    signedAt := some rejectedAt
    ipAddress := rejection.ipAddress
    userAgent := rejection.userAgent
    evidence := evidenceColumns rejection.evidence
    rejectReason := some rejection.reason
    pdfSha256Before := some before }

/-- An envelope once a signer has refused. -/
def rejectedEnvelope (rejection : SignatureRejection) (rejectedAt : Instant) (before : String)
    (row : Envelope) : Envelope :=
  { row with
    signers := updateSigner row.signers rejection.order (rejectedRow rejection rejectedAt before)
    status := .rejected }

/-- Refuse in the place of the next signer. -/
def reject (system : System) (externalReference : String) (rejection : SignatureRejection)
    (now : Instant) : Attempt :=
  match envelope system.envelopes externalReference with
  | .error error => refused error
  | .ok envelope =>
    match nextSigner envelope rejection.order rejection.signerPersonId with
    | .error error => refused error
    | .ok _ =>
      ⟨[], .ok (updateEnvelope system.envelopes envelope.id
        (rejectedEnvelope rejection now envelope.currentPdfSha256))⟩

/-- An envelope that was pending, closed with its document. -/
def voidedEnvelope (row : Envelope) : Envelope :=
  if row.status = .pending then { row with status := .voided } else row

/-- Close a pending envelope with its document. -/
def void (system : System) (externalReference : String) : Attempt :=
  ⟨[], .ok (updateEnvelope system.envelopes externalReference voidedEnvelope)⟩

/-- A signer with the person of a new request. -/
def reassignedRow (request : SignerRequest) (signer : SignerRow) : SignerRow :=
  { signer with
    personId := request.personId
    name := request.name
    documentNumber := request.documentNumber
    roleLabel := request.roleLabel }

/-- The signers with the persons of new requests, one request after another. -/
def reassigned (requests : List SignerRequest) (signers : List SignerRow) : List SignerRow :=
  requests.foldl (fun signers request => updateSigner signers request.order (reassignedRow request))
    signers

/-- An envelope with another document and its signers. -/
def reissuedEnvelope (runtime : Runtime) (input : SignatureRequest) (stored : PutObject)
    (row : Envelope) : Envelope :=
  { row with
    originalPdfSha256 := runtime.sha256 input.pdf
    preparedPdfSha256 := runtime.sha256 stored.body
    currentPdfDriver := stored.driver
    currentPdfKey := stored.key
    currentPdfSha256 := runtime.sha256 stored.body
    signers := reassigned (signersInOrder input) row.signers }

/-- The key of the document of a reissued envelope. -/
def reissuedKey (runtime : Runtime) (input : SignatureRequest) (verificationCode : String) :
    Option String :=
  StorageKeys.signaturePreparedPdfKey runtime.calendarYear
    ⟨input.documentCreatedAt, input.documentId, verificationCode⟩
    (some (Text.sliceTo (runtime.sha256 input.pdf) 12))

/-- Put a new document in an envelope nobody has signed. -/
def reissue (runtime : Runtime) (system : System) (externalReference : String)
    (input : SignatureRequest) (now : Instant) : Attempt :=
  match envelope system.envelopes externalReference with
  | .error error => refused error
  | .ok envelope =>
    if envelope.status ≠ .pending ∨ envelope.signers.any fun signer => signer.status ≠ .pending then
      refused ⟨.signatureReassignAfterSigning, none⟩
    else if runtime.sha256 input.pdf ≠ input.pdfSha256 then
      refused ⟨.documentTampered, some "El PDF no coincide con el del acta."⟩
    else
      match validKey (reissuedKey runtime input envelope.verificationCode) with
      | .error error => refused error
      | .ok key =>
        let stored : PutObject := ⟨system.driver, key,
          preparedDocument runtime input envelope.verificationCode now⟩
        ⟨[stored], .ok (updateEnvelope system.envelopes envelope.id
          (reissuedEnvelope runtime input stored))⟩

/-! ### Calls -/

/-- A call of the provider, with what chance and the clock give it. -/
inductive Call where
  | request (input : SignatureRequest) (code id : String) (now : Instant)
  | capture (externalReference : String) (input : SignatureCapture) (now : Instant)
  | reject (externalReference : String) (rejection : SignatureRejection) (now : Instant)
  | void (externalReference : String)
  | reissue (externalReference : String) (input : SignatureRequest) (now : Instant)

/-- What a call does in a state. -/
def attempt (runtime : Runtime) (system : System) : Call → Attempt
  | .request input code id now => request runtime system input code id now
  | .capture externalReference input now => capture runtime system externalReference input now
  | .reject externalReference rejection now => reject system externalReference rejection now
  | .void externalReference => void system externalReference
  | .reissue externalReference input now => reissue runtime system externalReference input now

/-- How a call ends, or a change of where files are put. -/
inductive Event where
  /-- A call puts its files and commits its rows. -/
  | committed (call : Call)
  /-- A call fails after some of its files are put, and its rows are rolled back. -/
  | rolledBack (call : Call) (puts : ℕ)
  /-- The storage is configured anew. -/
  | configured (driver : StorageDriver)

/-- The state after an event, unless the call could not commit. -/
def next (runtime : Runtime) (system : System) : Event → Option System
  | .committed call =>
    match (attempt runtime system call).outcome with
    | .error _ => none
    | .ok envelopes => some { system with
        storage := system.storage.putAll (attempt runtime system call).puts
        envelopes := envelopes }
  | .rolledBack call puts => some { system with
      storage := system.storage.putAll ((attempt runtime system call).puts.take puts) }
  | .configured driver => some { system with driver := driver }

/-- What a new envelope gets from outside: an id and a code no other has, and
at least one signer, with orders from one on. -/
def PromisedCall (system : System) : Call → Prop
  | .request input code id _ =>
    (∀ envelope ∈ system.envelopes, envelope.id ≠ id ∧ envelope.verificationCode ≠ code) ∧
      input.signers ≠ [] ∧ ∀ signer ∈ input.signers, 1 ≤ signer.order
  | _ => True

/-- The call of an event gets what its caller promises. -/
def Promised (system : System) : Event → Prop
  | .committed call => PromisedCall system call
  | .rolledBack call _ => PromisedCall system call
  | .configured _ => True

/-- A reissue that gets to its put, with other bytes for the key that has the
current document. -/
def OverwritesCurrent (runtime : Runtime) (system : System) (externalReference : String)
    (input : SignatureRequest) (now : Instant) : Prop :=
  ∃ envelope ∈ system.envelopes, envelope.id = externalReference ∧ envelope.status = .pending ∧
    (∀ signer ∈ envelope.signers, signer.status = .pending) ∧
    runtime.sha256 input.pdf = input.pdfSha256 ∧
    system.driver = envelope.currentPdfDriver ∧
    reissuedKey runtime input envelope.verificationCode = some envelope.currentPdfKey ∧
    runtime.sha256 (preparedDocument runtime input envelope.verificationCode now) ≠
      envelope.currentPdfSha256

/-- No reissue is rolled back once it has overwritten the current document. -/
def KeepsCurrent (runtime : Runtime) (system : System) : Event → Prop
  | .rolledBack (.reissue externalReference input now) puts =>
    puts = 0 ∨ ¬OverwritesCurrent runtime system externalReference input now
  | _ => True

/-- A step of the system. -/
def Step (runtime : Runtime) (system after : System) : Prop :=
  ∃ event, next runtime system event = some after ∧ Promised system event

/-- A step whose event keeps the current documents. -/
def KeepingStep (runtime : Runtime) (system after : System) : Prop :=
  ∃ event, next runtime system event = some after ∧ Promised system event ∧
    KeepsCurrent runtime system event

end InternalControl.SignatureEnvelope
