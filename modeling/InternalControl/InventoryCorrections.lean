import InternalControl.InventoryItems
import InternalControl.OrgChartTypes

/-!
# Corrections of an inventory item

While an inventory is going on, a result can be corrected, a surplus voided and
a finding classified. Each of them reads the inventory and the item, changes the
object it has read, and saves it in a later transaction together with a
correction that shows the item before and after. Verifying an asset and
reporting it missing save the same item, and closing the inventory ends what is
still pending.
-/

namespace InternalControl.InventoryCorrections

open AssetProcesses (VerificationResult InventoryStatus)
open InventoryItems (MissingCause VerifyInventoryAssetDto savedColumn)
open Interleaving

abbrev Uuid := InventoryItems.Uuid

/-- The columns of `physical_inventory_item` that these calls read or write. -/
structure PhysicalInventoryItem extends InventoryItems.Item where
  findingCategoryCode : Option String
  voidedAt : Option ℤ
  deriving DecidableEq

/-- What a correction keeps of an item. -/
structure Snapshot where
  result : VerificationResult
  actualCondition : Option Assets.PhysicalCondition
  actualLocationId : Option Uuid
  missingCauseId : Option Uuid
  missingCauseOther : Option String
  findingCategory : Option String
  verifiedAt : Option ℤ
  verifiedBy : Option Uuid
  voided : Bool
  deriving DecidableEq

def snapshot (item : PhysicalInventoryItem) : Snapshot where
  result := item.verificationResult
  actualCondition := item.actualCondition
  actualLocationId := item.actualLocationId
  missingCauseId := item.missingCauseId
  missingCauseOther := item.missingCauseOther
  findingCategory := item.findingCategoryCode
  verifiedAt := item.verifiedAt
  verifiedBy := item.verifiedBy
  voided := item.voidedAt.isSome

/-! ### Requests -/

/-- The results a correction may ask for. -/
inductive CorrectableResult
  | found
  | missing
  | misplaced
  | pending
  deriving DecidableEq

structure CorrectInventoryItemDto where
  result : CorrectableResult
  actualCondition : Option Assets.PhysicalCondition
  actualLocationId : Option Uuid
  causeId : Option Uuid
  otherCause : Option String
  /-- A code sets the category, a null takes it away, and without the field it stays. -/
  findingCategory : Option (Option String)
  reason : String
  deriving DecidableEq

/-- A call of a user. -/
inductive Call
  | correct (dto : CorrectInventoryItemDto)
  | voidSurplus (reason : String)
  | setFindingCategory (code : Option String)
  | verifyAsset (dto : VerifyInventoryAssetDto)
  | reportNotFound (causeId : Option Uuid) (otherCause notes : Option String)
  deriving DecidableEq

/-- What the catalogues and the other tables answer to a call. -/
structure Answers where
  causeActive : Bool
  /-- The code of the category, when there is one in use. -/
  category : Option String
  locationActive : Bool
  assetExists : Bool
  deriving DecidableEq

/-- Why a call is refused. -/
inductive Refusal
  | invalidState (message : Option String)
  | resourceNotFound
  | validationFailed (field message : String)
  | catalogEntryUnavailable
  | missingCauseRequired
  deriving DecidableEq

def resolveMissingCause (causeId : Option Uuid) (otherCause : Option String) (causeActive : Bool) :
    Except Refusal MissingCause :=
  let other := OrgChart.trim (otherCause.getD "")
  let hasCause := causeId.any fun id => id ≠ ""
  if hasCause = decide (other ≠ "") then .error .missingCauseRequired
  else if hasCause then
    if causeActive then .ok ⟨causeId, none⟩ else .error .catalogEntryUnavailable
  else if Text.utf16Length other < 3 ∨ 500 < Text.utf16Length other then .error .missingCauseRequired
  else .ok ⟨none, some other⟩

def requireAssignableCategory (answers : Answers) : Except Refusal String :=
  match answers.category with
  | none => .error .catalogEntryUnavailable
  | some code => .ok code

/-- The item with a result in the place of the one it had. -/
def PhysicalInventoryItem.withResult (item : PhysicalInventoryItem) (result : VerificationResult)
    (actualCondition : Option Assets.PhysicalCondition) (actualLocationId : Option Uuid)
    (cause : MissingCause) (verifiedAt : Option ℤ) (verifiedBy : Option Uuid) :
    PhysicalInventoryItem :=
  { item with
    verificationResult := result
    actualCondition := actualCondition
    actualLocationId := actualLocationId
    missingCauseId := cause.missingCauseId
    missingCauseOther := cause.missingCauseOther
    verifiedAt := verifiedAt
    verifiedBy := verifiedBy }

/-- Where a corrected item is: where it was expected when it is found, and elsewhere when it is
misplaced. -/
def correctedLocation (expected actual : Option Uuid) (misplaced : Bool) :
    Except Refusal (Option Uuid) :=
  if misplaced then
    if actual = none ∨ expected = none ∨ actual = expected then
      .error (.validationFailed "actualLocationId" "Indique una ubicación distinta de la esperada.")
    else .ok actual
  else if expected ≠ none ∧ (actual <|> expected) ≠ expected then
    .error (.validationFailed "actualLocationId"
      "Si está en otra ubicación, márquelo como en otra ubicación.")
  else .ok (actual <|> expected)

/-- A result for an asset that was seen. -/
def applySeen (item : PhysicalInventoryItem) (dto : CorrectInventoryItemDto) (answers : Answers)
    (actorId : Uuid) (now : ℤ) (misplaced : Bool) : Except Refusal PhysicalInventoryItem :=
  if dto.actualCondition = none then
    .error (.validationFailed "actualCondition" "Indique la condición del activo.")
  else if dto.actualLocationId ≠ none ∧ ¬answers.locationActive then .error .resourceNotFound
  else (correctedLocation item.expectedLocationId dto.actualLocationId misplaced).map
    fun actualLocationId =>
      item.withResult (if misplaced then .misplaced else .found) dto.actualCondition
        actualLocationId ⟨none, none⟩ (some now) (some actorId)

def applyResult (item : PhysicalInventoryItem) (dto : CorrectInventoryItemDto) (answers : Answers)
    (actorId : Uuid) (now : ℤ) : Except Refusal PhysicalInventoryItem :=
  if dto.result ≠ .missing ∧ (dto.causeId ≠ none ∨ dto.otherCause ≠ none) then
    .error (.validationFailed "causeId" "La causa solo se indica en un faltante.")
  else
    let placed := dto.actualCondition ≠ none ∨ dto.actualLocationId ≠ none
    match dto.result with
    | .pending =>
      if placed then
        .error (.validationFailed "result" "Un activo pendiente no lleva condición ni ubicación.")
      else .ok (item.withResult .pending none none ⟨none, none⟩ none none)
    | .missing =>
      if placed then
        .error (.validationFailed "result" "Un faltante no lleva condición ni ubicación.")
      else (resolveMissingCause dto.causeId dto.otherCause answers.causeActive).map fun cause =>
        item.withResult .missing none none cause (some now) (some actorId)
    | .found => applySeen item dto answers actorId now false
    | .misplaced => applySeen item dto answers actorId now true

/-- The category after a correction. A pending item has none. -/
def correctedCategory (dto : CorrectInventoryItemDto) (answers : Answers) (current : Option String) :
    Except Refusal (Option String) :=
  if dto.result = .pending ∨ dto.findingCategory = some none then .ok none
  else if dto.findingCategory = none then .ok current
  else (requireAssignableCategory answers).map some

/-- A snapshot without who verified and when. -/
def comparable (value : Snapshot) : Snapshot := { value with verifiedAt := none, verifiedBy := none }

def correct (item : PhysicalInventoryItem) (dto : CorrectInventoryItemDto) (answers : Answers)
    (actorId : Uuid) (now : ℤ) : Except Refusal PhysicalInventoryItem :=
  if item.verificationResult = .surplus then
    .error (.invalidState
      (some "Un sobrante no se corrige. Anúlelo y regístrelo de nuevo si hace falta."))
  else do
    let placed ← applyResult item dto answers actorId now
    let category ← correctedCategory dto answers placed.findingCategoryCode
    let corrected := { placed with findingCategoryCode := category }
    if comparable (snapshot item) = comparable (snapshot corrected) then
      .error (.validationFailed "result" "La corrección no cambia nada.")
    else .ok corrected

def voidSurplus (item : PhysicalInventoryItem) (now : ℤ) : Except Refusal PhysicalInventoryItem :=
  if item.verificationResult ≠ .surplus ∨ item.voidedAt ≠ none then
    .error (.invalidState (some "Este sobrante ya está anulado."))
  else .ok { item with voidedAt := some now, findingCategoryCode := none }

def setFindingCategory (item : PhysicalInventoryItem) (code : Option String) (answers : Answers) :
    Except Refusal PhysicalInventoryItem :=
  if item.voidedAt ≠ none ∨ item.verificationResult = .pending then
    .error (.invalidState (some "Solo se puede clasificar un activo ya verificado."))
  else if code.getD "" = "" then .ok { item with findingCategoryCode := none }
  else (requireAssignableCategory answers).map fun category =>
    { item with findingCategoryCode := some category }

/-- The item of an asset, while nobody has decided it. -/
def requirePending (item : PhysicalInventoryItem) : Except Refusal Unit :=
  if item.verificationResult = .surplus then .error .resourceNotFound
  else if item.verificationResult ≠ .pending then .error (.invalidState none)
  else .ok ()

def verifyAsset (item : PhysicalInventoryItem) (dto : VerifyInventoryAssetDto) (answers : Answers)
    (actorId : Uuid) (now : ℤ) : Except Refusal PhysicalInventoryItem := do
  requirePending item
  if ¬answers.assetExists ∨ dto.locationId ≠ none ∧ ¬answers.locationActive then
    .error .resourceNotFound
  else .ok { item with toItem := InventoryItems.verifiedItem item.toItem dto actorId now }

def reportNotFound (item : PhysicalInventoryItem) (causeId : Option Uuid)
    (otherCause notes : Option String) (answers : Answers) (actorId : Uuid) (now : ℤ) :
    Except Refusal PhysicalInventoryItem := do
  requirePending item
  let cause ← resolveMissingCause causeId otherCause answers.causeActive
  .ok { item with toItem := InventoryItems.missingItem item.toItem cause notes actorId now }

/-- A call with its user, what it was answered and when. -/
structure Edit where
  call : Call
  actorId : Uuid
  answers : Answers
  now : ℤ
  deriving DecidableEq

/-- The item a call makes of the one it has read. -/
def Edit.apply (edit : Edit) (item : PhysicalInventoryItem) : Except Refusal PhysicalInventoryItem :=
  match edit.call with
  | .correct dto => correct item dto edit.answers edit.actorId edit.now
  | .voidSurplus _ => voidSurplus item edit.now
  | .setFindingCategory code => setFindingCategory item code edit.answers
  | .verifyAsset dto => verifyAsset item dto edit.answers edit.actorId edit.now
  | .reportNotFound causeId otherCause notes =>
    reportNotFound item causeId otherCause notes edit.answers edit.actorId edit.now

/-! ### Rows -/

inductive InventoryCorrectionKind
  | correct
  | void
  deriving DecidableEq

/-- A row of `inventory_item_correction`. -/
structure InventoryItemCorrection where
  kind : InventoryCorrectionKind
  before : Snapshot
  after : Snapshot
  reason : String
  correctedBy : Uuid
  correctedAt : ℤ
  deriving DecidableEq

/-- The kind and the reason of the correction that a call leaves. Only two calls leave one. -/
def Call.correction : Call → Option (InventoryCorrectionKind × String)
  | .correct dto => some (.correct, dto.reason)
  | .voidSurplus reason => some (.void, reason)
  | _ => none

/-- A call that is ready to be saved: the item it has read, and what it makes of it. -/
structure Prepared where
  edit : Edit
  loaded : PhysicalInventoryItem
  wanted : PhysicalInventoryItem
  computed : edit.apply loaded = .ok wanted

/-- What has changed the item. -/
inductive Cause
  | call (edit : Edit)
  | close
  deriving DecidableEq

/-- A change of the item that was committed, with the row before and after it. -/
structure Change where
  cause : Cause
  before : PhysicalInventoryItem
  after : PhysicalInventoryItem
  deriving DecidableEq

/-- The rows of an inventory and of an item of it. The changes of the item are kept beside them in
the order they were committed, and the transactions that hold a row. -/
structure Store (ι : Type) where
  inventoryStatus : InventoryStatus
  item : PhysicalInventoryItem
  corrections : List InventoryItemCorrection
  changes : List Change
  assetLockedBy : Option ι
  itemLockedBy : Option ι

/-- How far a request has come. -/
inductive Phase
  | idle
  | allowed (call : Call) (actorId : Uuid)
  | loaded (call : Call) (actorId : Uuid) (item : PhysicalInventoryItem)
  | prepared (prepared : Prepared)
  | locked (prepared : Prepared)
  /-- The save has read the row once more. -/
  | selected (prepared : Prepared) (seen : PhysicalInventoryItem)
  | closing
  /-- The closing has ended what was pending, and holds the item when it was. -/
  | swept (pending : Bool)

/-- A statement of a request. -/
inductive Statement
  | start (call : Call) (actorId : Uuid) (canOperate : Bool)
  | findItem
  | prepare (answers : Answers) (now : ℤ)
  | lockAsset
  | selectItem
  /-- The changed columns and the correction are written, and the transaction ends. -/
  | saveItem (correctedAt : ℤ)
  | startClose (allowed : Bool)
  | sweepPending
  | saveInventory
  | crash
  deriving DecidableEq

/-- The row after saving an item: a column is written when it differs from what the save has
read. -/
def PhysicalInventoryItem.save (wanted seen current : PhysicalInventoryItem) :
    PhysicalInventoryItem where
  toItem := wanted.toItem.save seen.toItem current.toItem
  findingCategoryCode :=
    savedColumn wanted.findingCategoryCode seen.findingCategoryCode current.findingCategoryCode
  voidedAt := savedColumn wanted.voidedAt seen.voidedAt current.voidedAt

/-- What is still pending is not verified when the inventory is closed. -/
def closeItem (item : PhysicalInventoryItem) : PhysicalInventoryItem :=
  if item.verificationResult = .pending then { item with verificationResult := .notVerified } else item

/-- The correction of a call that leaves one. -/
def Prepared.correction (prepared : Prepared) (correctedAt : ℤ) : List InventoryItemCorrection :=
  match prepared.edit.call.correction with
  | none => []
  | some (kind, reason) =>
    [⟨kind, snapshot prepared.loaded, snapshot prepared.wanted, OrgChart.trim reason,
      prepared.edit.actorId, correctedAt⟩]

section Program

variable {ι : Type}

/-- The item changes, with its corrections. -/
def Store.change (store : Store ι) (cause : Cause) (after : PhysicalInventoryItem)
    (corrections : List InventoryItemCorrection) : Store ι :=
  { store with
    item := after
    corrections := store.corrections ++ corrections
    changes := store.changes ++ [⟨cause, store.item, after⟩] }

/-- The transaction of a request ends, and the rows it holds are free. -/
def Store.unlock [DecidableEq ι] (store : Store ι) (i : ι) : Store ι :=
  { store with
    assetLockedBy := if store.assetLockedBy = some i then none else store.assetLockedBy
    itemLockedBy := if store.itemLockedBy = some i then none else store.itemLockedBy }

/-- Whether a call saves inside a transaction that locks the asset. -/
def Call.locksAsset : Call → Bool
  | .verifyAsset _ => true
  | _ => false

/-- A request with what it makes of the item it has read, unless it is refused. -/
def preparePhase (edit : Edit) (item : PhysicalInventoryItem) : Phase :=
  match h : edit.apply item with
  | .error _ => .idle
  | .ok wanted => .prepared ⟨edit, item, wanted, h⟩

/-- The statements of the services. A request that is refused is over. -/
def program [DecidableEq ι] : Program ι (Store ι) Phase Statement
  | _, .start call actorId canOperate, store, .idle =>
    some (store, if store.inventoryStatus = .inProgress ∧ canOperate then .allowed call actorId
      else .idle)
  | _, .findItem, store, .allowed call actorId => some (store, .loaded call actorId store.item)
  | _, .prepare answers now, store, .loaded call actorId item =>
    some (store, preparePhase ⟨call, actorId, answers, now⟩ item)
  | i, .lockAsset, store, .prepared prepared =>
    if prepared.edit.call.locksAsset ∧ store.assetLockedBy = none then
      some ({ store with assetLockedBy := some i }, .locked prepared)
    else none
  | _, .selectItem, store, .prepared prepared =>
    if prepared.edit.call.locksAsset then none else some (store, .selected prepared store.item)
  | _, .selectItem, store, .locked prepared => some (store, .selected prepared store.item)
  | i, .saveItem correctedAt, store, .selected prepared seen =>
    if store.itemLockedBy ≠ none ∧ prepared.wanted ≠ seen then none
    else
      let after := prepared.wanted.save seen store.item
      some ((store.change (.call prepared.edit) after (prepared.correction correctedAt)).unlock i,
        .idle)
  | _, .startClose allowed, store, .idle =>
    some (store, if store.inventoryStatus = .inProgress ∧ allowed then .closing else .idle)
  | i, .sweepPending, store, .closing =>
    if store.item.verificationResult = .pending then
      if store.itemLockedBy = none then
        some ({ store with itemLockedBy := some i }, .swept true)
      else none
    else some (store, .swept false)
  | i, .saveInventory, store, .swept pending =>
    let closed := { store with inventoryStatus := .closed }
    some (if pending then (closed.change .close (closeItem store.item) []).unlock i else closed,
      .idle)
  | i, .crash, store, _ => some (store.unlock i, .idle)
  | _, _, _, _ => none

/-- An inventory that is going on, with an item. -/
def start (ι : Type) (item : PhysicalInventoryItem) : Interleaving ι (Store ι) Phase :=
  ⟨⟨.inProgress, item, [], [], none, none⟩, fun _ => .idle⟩

end Program

end InternalControl.InventoryCorrections
