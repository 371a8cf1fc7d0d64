import InternalControl.AssetHolds

/-!
# The transactions that take assets

Each service that takes assets for a process, as the steps its transaction
takes: the rows it locks, what it reads once it has them, and its write. Alone
each does what the service does.
-/

namespace InternalControl.AssetPrograms

open Assets AssetProcesses Fallible RowLocks AssetHolds

/-- The rows of some assets. -/
def assetRows (assetIds : List RowId) : List Row := assetIds.map Row.asset

/-- Make a loan: `view` is what the transaction has written before, `finish`
what it writes after. -/
def createLoan (view finish : System → System) (input : Loans.CreateLoanInput)
    (actorId loanId : RowId) (itemId : RowId → RowId) (sourceScope : RowId → Bool)
    (approved : Option Loans.ApprovedLoan) (outside : Except Failure Unit) :
    Program System Row Failure :=
  .lockAll .update (assetRows input.assetIds.dedup) <|
  .ask (fun system => Loans.lockedAssets (view system) input.assetIds) fun assets =>
  .check (Loans.assertLoanAssets input sourceScope outside assets) fun sourceId =>
  .ask (fun system => Loans.assertNotLoaned (view system) assets) fun _ =>
  .ask (fun system => Loans.assertNotWritingOff (view system) assets) fun _ =>
  .commit fun system => do
    let after ← Loans.insertLoan (view system) input actorId loanId itemId approved sourceId assets
    return finish after

/-- The ids of the assets some items name. -/
def itemAssets (items : List Transfers.TransferItemInputDto) : List RowId :=
  items.map Transfers.TransferItemInputDto.assetId

/-- Check the items of a new transfer, and go on with the centre they are in. -/
def checkTransfer (view : System → System) (items : List Transfers.TransferItemInputDto)
    (unavailable : RowId → Bool) (persons : Except Failure Unit)
    (targetOf : RowId → Except Failure Unit) (rest : RowId → Program System Row Failure) :
    Program System Row Failure :=
  .check persons fun _ =>
  .check (Transfers.assertDistinct (itemAssets items)) fun _ =>
  .lockAll .update (assetRows (itemAssets items)) <|
  .ask (fun system => Transfers.assertFree (view system) (itemAssets items) none none) fun source =>
  .check (Transfers.assertReasons items unavailable) fun _ =>
  .check (Transfers.requireSource source) fun source =>
  .check (targetOf source) fun _ => rest source

/-- Make a transfer. -/
def createTransfer (transferId target : RowId) (items : List Transfers.TransferItemInputDto)
    (unavailable : RowId → Bool) (persons : Except Failure Unit)
    (targetOf : RowId → Except Failure Unit) : Program System Row Failure :=
  checkTransfer id items unavailable persons targetOf fun source =>
  .commit fun system => Transfers.insert system transferId source target (itemAssets items) none

/-- A transfer that waits for signatures. -/
def markPending (id : RowId) (system : System) : Except Failure System := do
  let transfer ← Transfers.lock system id
  return Transfers.save system { transfer with status := .pendingSignatures }

/-- Make the transfer of a request, and ask for its act. -/
def convertToTransfer (request : AssetRequest) (dto : AssetRequests.GenerateAssetRequestDto)
    (conversion : AssetRequests.Conversion) : Program System Row Failure :=
  .check (AssetRequests.assertGiven (AssetRequests.acceptedAssets request) dto.items) fun _ =>
  checkTransfer (AssetRequests.releaseItems request.id) dto.items conversion.unavailable
    conversion.persons conversion.targetOf fun source =>
  let created := fun system =>
    Transfers.insert (AssetRequests.releaseItems request.id system) conversion.transferId source
      request.requestingCostCenterId (itemAssets dto.items) (some request.id)
  .lock .update (.transfer conversion.transferId) <|
  .lockAll .update (assetRows (itemAssets dto.items)) <|
  .ask (fun system => do
    Transfers.generateWithin (← created system) conversion.transferId conversion.outsideAct) fun _ =>
  .commit fun system => do
    let after ← markPending conversion.transferId (← created system)
    return AssetRequests.markGenerated request.id .documentGenerated none
      (some conversion.transferId) after

/-- The draft whose items are edited. -/
def draft (id : RowId) (system : System) : Except Failure AssetTransfer := do
  let transfer ← Transfers.lock system id
  Transfers.assertDraft transfer
  return transfer

/-- Edit the items of a draft: its own are deleted before the others are looked at. -/
def updateTransferItems (id : RowId) (items : List Transfers.TransferItemInputDto)
    (unavailable : RowId → Bool) : Program System Row Failure :=
  .lock .update (.transfer id) <|
  .ask (draft id) fun transfer =>
  .check (Transfers.assertDistinct (itemAssets items)) fun _ =>
  .lockAll .update (assetRows (itemAssets items)) <|
  .ask (fun system => Transfers.assertFree (Transfers.save system { transfer with items := [] })
    (itemAssets items) (some transfer.sourceCostCenterId) none) fun _ =>
  .check (Transfers.assertReasons items unavailable) fun _ =>
  .commit fun system => Transfers.replaceItems system id (itemAssets items)

/-- Make a handover: its assets are locked to share. -/
def createHandover (id costCenterId : RowId) (assetIds : List RowId) (centerCode : RowId → String)
    (outside enqueued : Except Failure Unit) : Program System Row Failure :=
  .check (Handovers.assertDistinct assetIds) fun _ =>
  .check outside fun _ =>
  .lockAll .share (assetRows assetIds) <|
  .ask (fun system => Handovers.assertAssets system assetIds costCenterId centerCode) fun _ =>
  .ask (fun system => Handovers.assertNotHeld system assetIds) fun _ =>
  .ask (fun system => Handovers.assertNotInOpenHandover system assetIds) fun _ =>
  .check enqueued fun _ =>
  .commit fun system => Handovers.insert system id costCenterId assetIds

/-- Accept a request. -/
def acceptRequest (id : RowId) (assetIds : List RowId) (viewer : AssetRequests.Viewer) :
    Program System Row Failure :=
  .lock .update (.request id) <|
  .ask (fun system => AssetRequests.acceptable system id viewer) fun request =>
  .lockAll .update (assetRows assetIds.dedup) <|
  .ask (fun system => AssetRequests.assertEligible system request assetIds.dedup) fun _ =>
  .commit fun system => AssetRequests.reserve system request.id viewer.userId assetIds.dedup

/-- Make the loan of a request. -/
def convertToLoan (request : AssetRequest) (viewer : AssetRequests.Viewer)
    (conversion : AssetRequests.Conversion) : Program System Row Failure :=
  .check (AssetRequests.loanInput request) fun input =>
  createLoan (AssetRequests.releaseItems request.id)
    (AssetRequests.markGenerated request.id .loanScheduled (some conversion.loanId) none) input
    viewer.userId conversion.loanId conversion.itemId (fun _ => true)
    (some (AssetRequests.approvalOf request viewer.userId)) conversion.outsideLoan

/-- Make the loan or the transfer of a request. -/
def convertRequest (id : RowId) (dto : AssetRequests.GenerateAssetRequestDto)
    (viewer : AssetRequests.Viewer) (personOf : RowId → Option RowId)
    (outside : Except Failure Unit) (conversion : AssetRequests.Conversion) :
    Program System Row Failure :=
  .lock .update (.request id) <|
  .ask (fun system => AssetRequests.convertible system id dto viewer personOf outside) fun found =>
  match found.1.kind with
  | .temporary => convertToLoan found.1 viewer conversion
  | .permanent => convertToTransfer found.1 dto conversion

/-- Make a write-off. -/
def createWriteOff (id : RowId) (assetIds : List RowId) : Program System Row Failure :=
  .check (WriteOffs.assertDistinct assetIds) fun _ =>
  .lockAll .update (assetRows assetIds) <|
  .ask (fun system => WriteOffs.assertFree system assetIds none) fun _ =>
  .commit fun system => WriteOffs.insert system id assetIds

/-- The draft that is edited. -/
def editable (id : RowId) (system : System) : Except Failure Unit := do
  let writeOff ← WriteOffs.lock system id
  WriteOffs.assertEditable writeOff

/-- Edit the draft of a write-off: its items change when they are given. -/
def updateWriteOff (id : RowId) (items : Option (List RowId)) : Program System Row Failure :=
  .lock .update (.writeOff id) <|
  .ask (editable id) fun _ =>
  match items with
  | none => .commit fun system => .ok system
  | some assetIds =>
    .check (WriteOffs.assertDistinct assetIds) fun _ =>
    .lockAll .update (assetRows assetIds) <|
    .ask (fun system => WriteOffs.assertFree system assetIds (some id)) fun _ =>
    .commit fun system => WriteOffs.replaceItems system id assetIds

/-- A request to a service that takes assets. -/
inductive Opening where
  | loan (input : Loans.CreateLoanInput) (actorId loanId : RowId) (itemId : RowId → RowId)
      (sourceScope : RowId → Bool) (outside : Except Failure Unit)
  | transfer (id target : RowId) (items : List Transfers.TransferItemInputDto)
      (unavailable : RowId → Bool) (persons : Except Failure Unit)
      (targetOf : RowId → Except Failure Unit)
  | transferItems (id : RowId) (items : List Transfers.TransferItemInputDto)
      (unavailable : RowId → Bool)
  | handover (id costCenterId : RowId) (assetIds : List RowId) (centerCode : RowId → String)
      (outside enqueued : Except Failure Unit)
  | acceptance (id : RowId) (assetIds : List RowId) (viewer : AssetRequests.Viewer)
  | conversion (id : RowId) (dto : AssetRequests.GenerateAssetRequestDto)
      (viewer : AssetRequests.Viewer) (personOf : RowId → Option RowId)
      (outside : Except Failure Unit) (conversion : AssetRequests.Conversion)
  | writeOff (id : RowId) (assetIds : List RowId)
  | writeOffItems (id : RowId) (items : Option (List RowId))

/-- The steps of a request. -/
def Opening.program : Opening → Program System Row Failure
  | .loan input actorId loanId itemId sourceScope outside =>
    createLoan id id input actorId loanId itemId sourceScope none outside
  | .transfer id target items unavailable persons targetOf =>
    createTransfer id target items unavailable persons targetOf
  | .transferItems id items unavailable => updateTransferItems id items unavailable
  | .handover id costCenterId assetIds centerCode outside enqueued =>
    createHandover id costCenterId assetIds centerCode outside enqueued
  | .acceptance id assetIds viewer => acceptRequest id assetIds viewer
  | .conversion id dto viewer personOf outside given =>
    convertRequest id dto viewer personOf outside given
  | .writeOff id assetIds => createWriteOff id assetIds
  | .writeOffItems id items => updateWriteOff id items

/-- What a request does when nothing else goes on. -/
def Opening.alone (system : System) : Opening → Except Failure System
  | .loan input actorId loanId itemId sourceScope outside =>
    Loans.createWithin system input actorId loanId itemId sourceScope none outside
  | .transfer id target items unavailable persons targetOf =>
    Transfers.createWithin system id target items none unavailable persons targetOf
  | .transferItems id items unavailable => Transfers.updateItems system id items unavailable
  | .handover id costCenterId assetIds centerCode outside enqueued =>
    Handovers.create system id costCenterId assetIds centerCode outside enqueued
  | .acceptance id assetIds viewer => AssetRequests.accept system id assetIds viewer
  | .conversion id dto viewer personOf outside given =>
    AssetRequests.generate system id dto viewer personOf outside given
  | .writeOff id assetIds => WriteOffs.create system id assetIds
  | .writeOffItems id items => WriteOffs.update system id items

/-! ### Alone, each does what its service does -/

theorem createLoan_run (view finish : System → System) (input : Loans.CreateLoanInput)
    (actorId loanId : RowId) (itemId : RowId → RowId) (sourceScope : RowId → Bool)
    (approved : Option Loans.ApprovedLoan) (outside : Except Failure Unit) (system : System) :
    (createLoan view finish input actorId loanId itemId sourceScope approved outside).run system =
      Loans.createWithin (view system) input actorId loanId itemId sourceScope approved outside >>=
        fun after => pure (finish after) := by
  simp only [createLoan, Loans.createWithin, Program.run_lockAll, Program.run_ask,
    Program.run_check, Program.run_commit, bind_assoc]

theorem checkTransfer_run (view : System → System) (items : List Transfers.TransferItemInputDto)
    (unavailable : RowId → Bool) (persons : Except Failure Unit)
    (targetOf : RowId → Except Failure Unit) (rest : RowId → Program System Row Failure)
    (id target : RowId) (origin : Option RowId) (system : System)
    (finish : System → Except Failure System)
    (hrest : ∀ source, (rest source).run system =
      Transfers.insert (view system) id source target (itemAssets items) origin >>= finish) :
    (checkTransfer view items unavailable persons targetOf rest).run system =
      Transfers.createWithin (view system) id target items origin unavailable persons targetOf >>=
        finish := by
  simp only [checkTransfer, Transfers.createWithin, Program.run_lockAll, Program.run_ask,
    Program.run_check, hrest, bind_assoc, itemAssets]

/-- An act that is asked for leaves the transfer waiting for signatures. -/
theorem generateWithin_markPending {created after : System} {id : RowId}
    {outside : Except Failure Unit}
    (h : Transfers.generateWithin created id outside = .ok after) :
    markPending id created = .ok after := by
  obtain ⟨transfer, hlock, rfl⟩ := generateWithin_eq_ok h
  rw [markPending, hlock]
  rfl

theorem convertToTransfer_run (request : AssetRequest)
    (dto : AssetRequests.GenerateAssetRequestDto) (conversion : AssetRequests.Conversion)
    (system : System) :
    (convertToTransfer request dto conversion).run system =
      AssetRequests.generateTransfer system request dto conversion := by
  rw [convertToTransfer, Program.run_check, AssetRequests.generateTransfer]
  cases AssetRequests.assertGiven (AssetRequests.acceptedAssets request) dto.items with
  | error failure => rfl
  | ok _ =>
    refine checkTransfer_run _ _ _ _ _ _ conversion.transferId request.requestingCostCenterId
      (some request.id) system _ fun source => ?_
    simp only [Program.run_lock, Program.run_lockAll, Program.run_ask, Program.run_commit]
    cases Transfers.insert (AssetRequests.releaseItems request.id system) conversion.transferId
        source request.requestingCostCenterId (itemAssets dto.items) (some request.id) with
    | error failure => rfl
    | ok created =>
      cases hgenerated : Transfers.generateWithin created conversion.transferId
          conversion.outsideAct with
      | error failure => simp only [bind, Except.bind, hgenerated]
      | ok after =>
        simp only [bind, Except.bind, hgenerated, generateWithin_markPending hgenerated]

theorem convertToLoan_run (request : AssetRequest) (viewer : AssetRequests.Viewer)
    (conversion : AssetRequests.Conversion) (system : System) :
    (convertToLoan request viewer conversion).run system =
      AssetRequests.generateLoan system request viewer conversion := by
  rw [convertToLoan, Program.run_check, AssetRequests.generateLoan]
  cases AssetRequests.loanInput request with
  | error failure => rfl
  | ok input => exact createLoan_run _ _ _ _ _ _ _ _ _ system

/-- Every request does alone what its service does. -/
theorem program_run (opening : Opening) (system : System) :
    opening.program.run system = opening.alone system := by
  cases opening with
  | loan input actorId loanId itemId sourceScope outside =>
    refine (createLoan_run id id input actorId loanId itemId sourceScope none outside system).trans ?_
    exact bind_pure (Loans.createWithin system input actorId loanId itemId sourceScope none outside)
  | transfer transferId target items unavailable persons targetOf =>
    refine (checkTransfer_run id items unavailable persons targetOf _ transferId target none system
      pure fun source => (bind_pure _).symm).trans ?_
    exact bind_pure _
  | transferItems transferId items unavailable =>
    simp only [Opening.program, Opening.alone, updateTransferItems, Transfers.updateItems, draft,
      Program.run_lock, Program.run_lockAll, Program.run_ask, Program.run_check,
      Program.run_commit, bind_assoc, pure_bind, itemAssets]
  | handover handoverId costCenterId assetIds centerCode outside enqueued =>
    simp only [Opening.program, Opening.alone, createHandover, Handovers.create,
      Program.run_lockAll, Program.run_ask, Program.run_check, Program.run_commit]
  | acceptance requestId assetIds viewer =>
    simp only [Opening.program, Opening.alone, acceptRequest, AssetRequests.accept,
      Program.run_lock, Program.run_lockAll, Program.run_ask, Program.run_commit]
  | conversion requestId dto viewer personOf outside conversion =>
    simp only [Opening.program, Opening.alone, convertRequest, AssetRequests.generate,
      Program.run_lock, Program.run_ask]
    refine congrArg _ (funext fun found => ?_)
    cases found.1.kind with
    | temporary => exact convertToLoan_run found.1 viewer conversion system
    | permanent => exact convertToTransfer_run found.1 dto conversion system
  | writeOff writeOffId assetIds =>
    simp only [Opening.program, Opening.alone, createWriteOff, WriteOffs.create,
      Program.run_lockAll, Program.run_ask, Program.run_check, Program.run_commit]
  | writeOffItems writeOffId items =>
    simp only [Opening.program, Opening.alone, updateWriteOff, WriteOffs.update, editable,
      Program.run_lock, Program.run_ask, bind_assoc]
    cases items with
    | none =>
      simp only [Program.run_commit]
      rfl
    | some items =>
      simp only [Program.run_lockAll, Program.run_ask, Program.run_check, Program.run_commit]

end InternalControl.AssetPrograms
