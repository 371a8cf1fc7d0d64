import InternalControl.Fallible
import InternalControl.Text

/-!
# Assets and their changes

Every change of an asset locks its row, runs the guard of the caller on what
the row holds, and writes a patch. The transition table is for changes of the
status by hand; loans, inventories and acts bring guards of their own.
-/

namespace InternalControl.Assets

open Fallible

/-- What an asset is doing. -/
inductive OperationalStatus where
  | inUse
  | inStorage
  | onLoan
  | inMaintenance
  | lost
  | writtenOff
  deriving DecidableEq

namespace OperationalStatus

/-- OPERATIONAL_STATUS_PHRASE. -/
def phrase : OperationalStatus → String
  | inUse => "en uso"
  | inStorage => "en bodega"
  | onLoan => "prestado"
  | inMaintenance => "en mantenimiento"
  | lost => "perdido"
  | writtenOff => "dado de baja"

/-- The statuses each status may be changed to by hand. -/
def allowed : OperationalStatus → List OperationalStatus
  | inUse => [inStorage, inMaintenance, lost]
  | inStorage => [inUse, inMaintenance, lost]
  | inMaintenance => [inUse, inStorage]
  | lost => [inUse, inStorage, inMaintenance]
  | onLoan => []
  | writtenOff => []

end OperationalStatus

/-- Whether a status may be changed by hand to another. -/
def canTransitionStatus (source target : OperationalStatus) : Bool := target ∈ source.allowed

/-- The physical state of an asset. -/
inductive PhysicalCondition where
  | new
  | good
  | fair
  | poor
  | obsolete
  deriving DecidableEq

/-- The errors of the modelled services. -/
inductive ErrorCode where
  | resourceNotFound
  | validationFailed
  | invalidState
  | insufficientPermissions
  | assetAlreadyWrittenOff
  | assetCannotBeModified
  | assetInvalidStatusTransition
  | assetUnderInventory
  | assetHasActiveLoan
  | assetAlreadyLoaned
  | assetInOpenWriteOff
  | loanSameCostCenter
  | loanSodViolation
  | loanNotStarted
  | loanDeliveryActNotSigned
  | loanDeliveryActNotRejected
  | loanExtensionNotRequester
  | loanNoPendingExtension
  | invalidLoanStateTransition
  | inventoryReconcileSod
  | inventoryAssetWrittenOff
  | transferMixedSourceCostCenter
  | transferAssetInOpenTransfer
  | transferInvalidStateTransition
  | transferReasonUnavailable
  | handoverAssetNotDeliverable
  | handoverCostCenterMismatch
  | handoverAssetReserved
  | handoverAssetInOpenHandover
  | assetRequestNotHead
  | assetRequestSodViolation
  | assetRequestOwnerWithoutHead
  | assetRequestAssetUnavailable
  | assetRequestInvalidStateTransition
  | writeOffAssetHeld
  | writeOffInvalidStateTransition
  | documentAlreadySigned
  deriving DecidableEq

/-- Why an operation is refused. -/
inductive Failure where
  /-- An error with a code, a message of its own and the fields it is about. -/
  | api (code : ErrorCode) (message : Option String) (fields : List (String × String))
  /-- A plain error. -/
  | internal (message : String)
  deriving DecidableEq

/-- Refuse with a code and nothing else. -/
def refuse {α : Type} (code : ErrorCode) : Except Failure α := .error (.api code none [])

/-- Refuse with a code and a message. -/
def refuseWith {α : Type} (code : ErrorCode) (message : String)
    (fields : List (String × String) := []) : Except Failure α :=
  .error (.api code (some message) fields)

/-- An asset with the columns its changes touch. -/
structure Asset where
  id : RowId
  internalCode : String
  costCenterId : RowId
  locationId : Option RowId
  responsibleId : Option RowId
  operationalStatus : OperationalStatus
  physicalCondition : Option PhysicalCondition
  dataQualityFlags : List String
  deriving DecidableEq

/-- The columns a change writes: what is not given stays. -/
structure UpdateAssetRecord where
  operationalStatus : Option OperationalStatus := none
  physicalCondition : Option (Option PhysicalCondition) := none
  costCenterId : Option RowId := none
  locationId : Option (Option RowId) := none
  responsibleId : Option (Option RowId) := none

/-- The flag of an asset whose physical state nobody has seen. -/
def physicalConditionUnknown : String := "PHYSICAL_CONDITION_UNKNOWN"

/-- The asset with a patch written: a physical state that is seen takes the flag away. -/
def patched (patch : UpdateAssetRecord) (current : Asset) : Asset :=
  { current with
    operationalStatus := patch.operationalStatus.getD current.operationalStatus
    physicalCondition := patch.physicalCondition.getD current.physicalCondition
    costCenterId := patch.costCenterId.getD current.costCenterId
    locationId := patch.locationId.getD current.locationId
    responsibleId := patch.responsibleId.getD current.responsibleId
    dataQualityFlags :=
      if patch.physicalCondition.join.isSome && current.dataQualityFlags.contains
          physicalConditionUnknown then
        current.dataQualityFlags.filter fun flag => flag ≠ physicalConditionUnknown
      else current.dataQualityFlags }

/-- A change of an asset. -/
structure AssetChange where
  assetId : RowId
  patch : UpdateAssetRecord
  guard : Asset → Except Failure Unit := fun _ => .ok ()

/-- The asset with an id. -/
def findAsset (assets : List Asset) (id : RowId) : Except Failure Asset :=
  match assets.find? fun asset => asset.id = id with
  | some asset => .ok asset
  | none => refuse .resourceNotFound

/-- The table with a patch written to one asset. -/
def updateAsset (assets : List Asset) (id : RowId) (patch : UpdateAssetRecord) : List Asset :=
  assets.map fun asset => if asset.id = id then patched patch asset else asset

/-- Change an asset: what its row held, and the table after. -/
def applyWithin (assets : List Asset) (change : AssetChange) :
    Except Failure (Asset × List Asset) := do
  let current ← findAsset assets change.assetId
  change.guard current
  return (current, updateAsset assets current.id change.patch)

/-- The asset is not written off. -/
def assertNotWrittenOff (asset : Asset) : Except Failure Unit :=
  if asset.operationalStatus = .writtenOff then refuse .assetAlreadyWrittenOff else .ok ()

/-- The asset is neither written off nor on loan. -/
def assertMutable (asset : Asset) : Except Failure Unit := do
  assertNotWrittenOff asset
  if asset.operationalStatus = .onLoan then refuse .assetCannotBeModified

/-! ### What a change leaves -/

@[simp] theorem patched_id (patch : UpdateAssetRecord) (asset : Asset) :
    (patched patch asset).id = asset.id := rfl

@[simp] theorem patched_operationalStatus (patch : UpdateAssetRecord) (asset : Asset) :
    (patched patch asset).operationalStatus =
      patch.operationalStatus.getD asset.operationalStatus := rfl

/-- The operational status of an asset in a table. -/
def statusOf (assets : List Asset) (id : RowId) : Option OperationalStatus :=
  (assets.find? fun asset => asset.id = id).map Asset.operationalStatus

theorem findAsset_eq_ok {assets : List Asset} {id : RowId} {asset : Asset}
    (h : findAsset assets id = .ok asset) :
    asset.id = id ∧ statusOf assets id = some asset.operationalStatus := by
  unfold findAsset at h
  split at h
  · next found hfound =>
    obtain rfl := Except.ok.inj h
    have hid := List.find?_some hfound
    refine ⟨by simpa using hid, ?_⟩
    rw [statusOf, hfound]
    rfl
  · cases h

/-- A patch changes the status of its own asset and no other. -/
theorem statusOf_updateAsset (assets : List Asset) (id other : RowId) (patch : UpdateAssetRecord) :
    statusOf (updateAsset assets id patch) other =
      if other = id then (statusOf assets other).map fun status =>
        patch.operationalStatus.getD status
      else statusOf assets other := by
  induction assets with
  | nil => simp [updateAsset, statusOf]
  | cons asset rest ih =>
    simp only [statusOf, updateAsset, List.map_cons, List.find?_cons] at ih ⊢
    by_cases hasset : asset.id = id
    · by_cases hother : other = id
      · subst hother
        simp [hasset]
      · have hne : asset.id ≠ other := fun he => hother (he.symm.trans hasset)
        simpa [hasset, hne, Ne.symm hother, hother] using ih
    · by_cases hother : asset.id = other
      · have hne : other ≠ id := fun he => hasset (hother.trans he)
        simp [hother, hne]
      · simpa [hasset, hother] using ih

/-- What a change that goes through has seen and done. -/
theorem applyWithin_eq_ok {assets after : List Asset} {change : AssetChange} {current : Asset}
    (h : applyWithin assets change = .ok (current, after)) :
    current.id = change.assetId ∧
      statusOf assets change.assetId = some current.operationalStatus ∧
      change.guard current = .ok () ∧ after = updateAsset assets change.assetId change.patch := by
  unfold applyWithin at h
  obtain ⟨found, hfind, h⟩ := bind_eq_ok h
  obtain ⟨⟨⟩, hguard, h⟩ := bind_eq_ok h
  obtain ⟨rfl, rfl⟩ := Prod.mk.inj (Except.ok.inj h)
  obtain ⟨hid, hstatus⟩ := findAsset_eq_ok hfind
  exact ⟨hid, hstatus, hguard, by rw [hid]⟩

end InternalControl.Assets
