import InternalControl.AssetRequests
import InternalControl.Handovers
import InternalControl.LoanedAssets
import InternalControl.RowLocks
import InternalControl.WriteOffs

/-!
# Who holds an asset

The holds of an asset over the five tables of processes, and the operations
that take none: those that advance a process or close it.
-/

namespace InternalControl.AssetHolds

open Assets AssetProcesses Documents Fallible Loans RowLocks

/-- The rows that transactions lock. -/
inductive Row where
  | asset (id : RowId)
  | transfer (id : RowId)
  | request (id : RowId)
  | writeOff (id : RowId)
  deriving DecidableEq

/-- How an asset is held: by an open loan or transfer, of a request or of none,
by an open handover, by a request, or by an open write-off. An asset that is
not there is missing. -/
inductive Hold where
  | loan (origin : Option RowId)
  | transfer (origin : Option RowId)
  | handover
  | reservation (requestId : RowId)
  | writeOff
  | missing
  deriving DecidableEq

/-- An asset is held in a way. -/
def Holds (system : System) (assetId : RowId) : Hold → Prop
  | .loan origin =>
    ∃ loan ∈ system.loans, loan.assetRequestId = origin ∧ loan.holds assetId = true
  | .transfer origin =>
    ∃ transfer ∈ system.transfers,
      transfer.assetRequestId = origin ∧ heldIn transfer.items assetId = true
  | .handover => ∃ handover ∈ system.handovers, heldIn handover.items assetId = true
  | .reservation requestId =>
    ∃ request ∈ system.requests, request.id = requestId ∧ heldIn request.items assetId = true
  | .writeOff => ∃ writeOff ∈ system.writeOffs, heldIn writeOff.items assetId = true
  | .missing => statusOf system.assets assetId = none

/-- No asset is held in a way it was not held before. -/
def HoldsKept (system after : System) : Prop :=
  ∀ hold assetId, Holds after assetId hold → Holds system assetId hold

theorem HoldsKept.refl (system : System) : HoldsKept system system := fun _ _ h => h

theorem HoldsKept.trans {system middle after : System} (h : HoldsKept system middle)
    (h' : HoldsKept middle after) : HoldsKept system after :=
  fun hold assetId hheld => h hold assetId (h' hold assetId hheld)

/-! ### Items that are closed -/

@[simp] theorem heldIn_closed (items : List HeldItem) (assetId : RowId) :
    heldIn (items.map closedItem) assetId = false := by
  simp [heldIn, closedItem]

@[simp] theorem heldIn_moved (movement : RowId → RowId) (items : List HeldItem)
    (assetId : RowId) : heldIn (items.map (movedItem movement)) assetId = false := by
  simp [heldIn, movedItem]

@[simp] theorem heldIn_completed (movement : RowId → RowId) (items : List HeldItem)
    (assetId : RowId) : heldIn (completedItems movement items) assetId = false := by
  rw [completedItems, heldIn, List.any_map, List.any_eq_false]
  intro item _
  rw [Function.comp_apply]
  split <;> simp [movedItem, closedItem]

@[simp] theorem heldIn_nil (assetId : RowId) : heldIn [] assetId = false := rfl

/-- The items that a list of assets opens hold those assets. -/
@[simp] theorem heldIn_openItems (assetIds : List RowId) (assetId : RowId) :
    heldIn (openItems assetIds) assetId = decide (assetId ∈ assetIds) := by
  rw [Bool.eq_iff_iff, heldIn, openItems, List.any_map, List.any_eq_true, decide_eq_true_eq]
  simp

/-- An asset that an item of some holds, or of others. -/
@[simp] theorem heldIn_append (items others : List HeldItem) (assetId : RowId) :
    heldIn (items ++ others) assetId = (heldIn items assetId || heldIn others assetId) :=
  List.any_append

/-- A row that is written back is the new one or one of those before. -/
theorem mem_replaced {β : Type} {key : β → RowId} {rows : List β} {changed row : β}
    (h : row ∈ rows.map fun other => if key other = key changed then changed else other) :
    row = changed ∨ row ∈ rows := by
  obtain ⟨source, hsource, rfl⟩ := List.mem_map.mp h
  split
  · exact Or.inl rfl
  · exact Or.inr hsource

/-! ### Rows that are written back -/

section Save

variable {system : System}

theorem transferSave_kept {transfer changed : AssetTransfer} (hmem : transfer ∈ system.transfers)
    (horigin : changed.assetRequestId = transfer.assetRequestId)
    (hitems : ∀ assetId, heldIn changed.items assetId = true →
      heldIn transfer.items assetId = true) :
    HoldsKept system (Transfers.save system changed) := by
  intro hold assetId h
  cases hold with
  | transfer origin =>
    obtain ⟨other, hother, hsame, hheld⟩ := h
    rcases mem_replaced hother with rfl | hother
    · exact ⟨transfer, hmem, horigin ▸ hsame, hitems assetId hheld⟩
    · exact ⟨other, hother, hsame, hheld⟩
  | _ => exact h

theorem handoverSave_kept {handover changed : AssetHandover} (hmem : handover ∈ system.handovers)
    (hitems : ∀ assetId, heldIn changed.items assetId = true →
      heldIn handover.items assetId = true) :
    HoldsKept system (Handovers.save system changed) := by
  intro hold assetId h
  cases hold with
  | handover =>
    obtain ⟨other, hother, hheld⟩ := h
    rcases mem_replaced hother with rfl | hother
    · exact ⟨handover, hmem, hitems assetId hheld⟩
    · exact ⟨other, hother, hheld⟩
  | _ => exact h

theorem requestSave_kept {request changed : AssetRequest} (hmem : request ∈ system.requests)
    (hid : changed.id = request.id)
    (hitems : ∀ assetId, heldIn changed.items assetId = true →
      heldIn request.items assetId = true) :
    HoldsKept system (AssetRequests.save system changed) := by
  intro hold assetId h
  cases hold with
  | reservation requestId =>
    obtain ⟨other, hother, hsame, hheld⟩ := h
    rcases mem_replaced hother with rfl | hother
    · exact ⟨request, hmem, hid ▸ hsame, hitems assetId hheld⟩
    · exact ⟨other, hother, hsame, hheld⟩
  | _ => exact h

theorem writeOffSave_kept {writeOff changed : AssetWriteOff} (hmem : writeOff ∈ system.writeOffs)
    (hitems : ∀ assetId, heldIn changed.items assetId = true →
      heldIn writeOff.items assetId = true) :
    HoldsKept system (WriteOffs.save system changed) := by
  intro hold assetId h
  cases hold with
  | writeOff =>
    obtain ⟨other, hother, hheld⟩ := h
    rcases mem_replaced hother with rfl | hother
    · exact ⟨writeOff, hmem, hitems assetId hheld⟩
    · exact ⟨other, hother, hheld⟩
  | _ => exact h

/-- Assets that change stay where they are in the table. -/
theorem statusOf_eq_none {assets after : List Asset} (h : after.map Asset.id = assets.map Asset.id)
    {assetId : RowId} : statusOf after assetId = none ↔ statusOf assets assetId = none := by
  have hmissing : ∀ table : List Asset,
      statusOf table assetId = none ↔ assetId ∉ table.map Asset.id := by
    intro table
    simp [statusOf, List.find?_eq_none]
  rw [hmissing, hmissing, h]

theorem assets_kept {after : List Asset} (h : after.map Asset.id = system.assets.map Asset.id) :
    HoldsKept system { system with assets := after } := by
  intro hold assetId hheld
  cases hold with
  | missing => exact (statusOf_eq_none h).mp hheld
  | _ => exact hheld

/-- Changes made one after another leave the assets in the table. -/
theorem applyAll_map_id {changes : List AssetChange} {assets after : List Asset}
    (h : applyAll assets changes = .ok after) : after.map Asset.id = assets.map Asset.id := by
  induction changes generalizing assets with
  | nil =>
    obtain rfl := Except.ok.inj h
    rfl
  | cons change rest ih =>
    unfold applyAll at h
    obtain ⟨⟨current, table⟩, happly, h⟩ := bind_eq_ok h
    rw [ih h, applyWithin_map_id happly]

end Save

/-! ### Transfers -/

section Operations

variable {system after : System} {id : RowId} {event : DocumentLifecycleEvent}

theorem transferLock_eq_ok {transfer : AssetTransfer}
    (h : Transfers.lock system id = .ok transfer) : transfer ∈ system.transfers ∧ transfer.id = id := by
  unfold Transfers.lock at h
  split at h
  · next found hfound =>
    obtain rfl := Except.ok.inj h
    exact ⟨List.mem_of_find?_eq_some hfound, by simpa using List.find?_some hfound⟩
  · cases h

theorem transferLockFor_eq_ok {transfer : AssetTransfer}
    (h : Transfers.lockFor system event = .ok transfer) : transfer ∈ system.transfers := by
  unfold Transfers.lockFor at h
  split at h
  · cases h
  split at h
  · cases h
  · exact (transferLock_eq_ok h).1

theorem generateWithin_eq_ok {outside : Except Failure Unit}
    (h : Transfers.generateWithin system id outside = .ok after) :
    ∃ transfer, Transfers.lock system id = .ok transfer ∧
      after = Transfers.save system { transfer with status := .pendingSignatures } := by
  unfold Transfers.generateWithin at h
  obtain ⟨transfer, hlock, h⟩ := bind_eq_ok h
  obtain ⟨_, h⟩ := check_eq_ok h
  obtain ⟨_, h⟩ := check_eq_ok h
  obtain ⟨_, _, h⟩ := bind_eq_ok h
  obtain ⟨_, _, h⟩ := bind_eq_ok h
  obtain ⟨_, _, h⟩ := bind_eq_ok h
  exact ⟨transfer, hlock, (Except.ok.inj h).symm⟩

theorem transferGenerated_kept {outside : Except Failure Unit}
    (h : Transfers.generateWithin system id outside = .ok after) : HoldsKept system after := by
  obtain ⟨transfer, hlock, rfl⟩ := generateWithin_eq_ok h
  have hmem := (transferLock_eq_ok hlock).1
  exact transferSave_kept hmem rfl fun _ hheld => hheld

theorem transferCancelled_kept {signed : Bool} {voided : Except Failure Unit}
    (h : Transfers.cancel system id signed voided = .ok after) : HoldsKept system after := by
  unfold Transfers.cancel at h
  obtain ⟨transfer, hlock, h⟩ := bind_eq_ok h
  obtain ⟨_, h⟩ := check_eq_ok h
  obtain ⟨_, h⟩ := check_eq_ok h
  obtain ⟨_, _, h⟩ := bind_eq_ok h
  obtain rfl := Except.ok.inj h
  exact transferSave_kept (transferLock_eq_ok hlock).1 rfl (by simp)

theorem transferActGenerated_kept (h : Transfers.onGenerated system event = .ok after) :
    HoldsKept system after := by
  unfold Transfers.onGenerated at h
  obtain ⟨transfer, hlock, h⟩ := bind_eq_ok h
  obtain ⟨_, h⟩ := check_eq_ok h
  obtain rfl := Except.ok.inj h
  exact transferSave_kept (transferLockFor_eq_ok hlock) rfl fun _ hheld => hheld

theorem transferSigned_kept {movement : RowId → RowId} {linked : Except Failure Unit}
    (h : Transfers.onSigned system event movement linked = .ok after) : HoldsKept system after := by
  unfold Transfers.onSigned at h
  obtain ⟨transfer, hlock, h⟩ := bind_eq_ok h
  obtain ⟨_, _, h⟩ := bind_eq_ok h
  split at h
  · obtain rfl := Except.ok.inj h
    exact HoldsKept.refl system
  · obtain ⟨_, _, h⟩ := bind_eq_ok h
    obtain ⟨_, _, h⟩ := bind_eq_ok h
    unfold Transfers.complete at h
    obtain ⟨_, _, h⟩ := bind_eq_ok h
    obtain ⟨_, _, h⟩ := bind_eq_ok h
    obtain ⟨table, happly, h⟩ := bind_eq_ok h
    obtain rfl := Except.ok.inj h
    refine (assets_kept (applyAll_map_id happly)).trans ?_
    exact transferSave_kept (transferLockFor_eq_ok hlock) rfl (by simp)

theorem transferRejected_kept (h : Transfers.onRejected system event = .ok after) :
    HoldsKept system after := by
  unfold Transfers.onRejected at h
  obtain ⟨transfer, hlock, h⟩ := bind_eq_ok h
  obtain ⟨_, _, h⟩ := bind_eq_ok h
  split at h
  · obtain rfl := Except.ok.inj h
    exact HoldsKept.refl system
  · obtain ⟨_, _, h⟩ := bind_eq_ok h
    obtain rfl := Except.ok.inj h
    exact transferSave_kept (transferLockFor_eq_ok hlock) rfl (by simp)

/-! ### Handovers -/

theorem handoverFind_eq_some {handover : AssetHandover}
    (h : Handovers.find system id = some handover) : handover ∈ system.handovers :=
  List.mem_of_find?_eq_some h

theorem handoverLockFor_eq_ok {handover : AssetHandover}
    (h : Handovers.lockFor system event = .ok handover) : handover ∈ system.handovers := by
  unfold Handovers.lockFor at h
  split at h
  · cases h
  split at h
  · next found hfound =>
    obtain rfl := Except.ok.inj h
    obtain ⟨id, _, hid⟩ := Option.bind_eq_some_iff.mp hfound
    exact handoverFind_eq_some hid
  · cases h

theorem handoverCancelled_kept {voided : Except Failure Unit}
    (h : Handovers.cancel system id voided = .ok after) : HoldsKept system after := by
  unfold Handovers.cancel at h
  split at h
  · cases h
  next handover hfound =>
  split at h
  · cases h
  split at h
  · cases h
  split at h
  · cases h
  · obtain rfl := Except.ok.inj h
    exact handoverSave_kept (handoverFind_eq_some hfound) (by simp)

theorem handoverActGenerated_kept (h : Handovers.onGenerated system event = .ok after) :
    HoldsKept system after := by
  unfold Handovers.onGenerated at h
  obtain ⟨handover, hlock, h⟩ := bind_eq_ok h
  obtain ⟨_, h⟩ := check_eq_ok h
  obtain rfl := Except.ok.inj h
  exact handoverSave_kept (handoverLockFor_eq_ok hlock) fun _ hheld => hheld

theorem handoverSigned_kept {movement : RowId → RowId} {linked : Except Failure Unit}
    (h : Handovers.onSigned system event movement linked = .ok after) : HoldsKept system after := by
  unfold Handovers.onSigned at h
  obtain ⟨handover, hlock, h⟩ := bind_eq_ok h
  obtain ⟨_, _, h⟩ := bind_eq_ok h
  obtain ⟨_, _, h⟩ := bind_eq_ok h
  obtain ⟨_, _, h⟩ := bind_eq_ok h
  obtain ⟨table, happly, h⟩ := bind_eq_ok h
  obtain rfl := Except.ok.inj h
  refine (assets_kept (applyAll_map_id happly)).trans ?_
  exact handoverSave_kept (handoverLockFor_eq_ok hlock) (by simp)

theorem handoverRejected_kept (h : Handovers.onRejected system event = .ok after) :
    HoldsKept system after := by
  unfold Handovers.onRejected at h
  obtain ⟨handover, hlock, h⟩ := bind_eq_ok h
  obtain ⟨_, _, h⟩ := bind_eq_ok h
  obtain rfl := Except.ok.inj h
  exact handoverSave_kept (handoverLockFor_eq_ok hlock) (by simp)

/-! ### Write-offs -/

theorem writeOffLock_eq_ok {writeOff : AssetWriteOff}
    (h : WriteOffs.lock system id = .ok writeOff) : writeOff ∈ system.writeOffs ∧ writeOff.id = id := by
  unfold WriteOffs.lock at h
  split at h
  · next found hfound =>
    obtain rfl := Except.ok.inj h
    exact ⟨List.mem_of_find?_eq_some hfound, by simpa using List.find?_some hfound⟩
  · cases h

theorem writeOffLockFor_eq_ok {writeOff : AssetWriteOff}
    (h : WriteOffs.lockFor system event = .ok writeOff) : writeOff ∈ system.writeOffs := by
  unfold WriteOffs.lockFor at h
  split at h
  · cases h
  split at h
  · cases h
  · exact (writeOffLock_eq_ok h).1

theorem writeOffGenerated_kept {hasTotal : Bool} {outside : Except Failure Unit}
    (h : WriteOffs.generate system id hasTotal outside = .ok after) : HoldsKept system after := by
  unfold WriteOffs.generate at h
  obtain ⟨writeOff, hlock, h⟩ := bind_eq_ok h
  obtain ⟨_, h⟩ := check_eq_ok h
  obtain ⟨_, h⟩ := check_eq_ok h
  obtain ⟨_, h⟩ := check_eq_ok h
  obtain ⟨_, _, h⟩ := bind_eq_ok h
  obtain ⟨_, _, h⟩ := bind_eq_ok h
  obtain ⟨_, _, h⟩ := bind_eq_ok h
  obtain rfl := Except.ok.inj h
  exact writeOffSave_kept (writeOffLock_eq_ok hlock).1 fun _ hheld => hheld

theorem writeOffCancelled_kept {signed : Bool} {voided : Except Failure Unit}
    (h : WriteOffs.cancel system id signed voided = .ok after) : HoldsKept system after := by
  unfold WriteOffs.cancel at h
  obtain ⟨writeOff, hlock, h⟩ := bind_eq_ok h
  obtain ⟨_, h⟩ := check_eq_ok h
  obtain ⟨_, h⟩ := check_eq_ok h
  obtain ⟨_, _, h⟩ := bind_eq_ok h
  obtain rfl := Except.ok.inj h
  exact writeOffSave_kept (writeOffLock_eq_ok hlock).1 (by simp)

theorem writeOffActGenerated_kept (h : WriteOffs.onGenerated system event = .ok after) :
    HoldsKept system after := by
  unfold WriteOffs.onGenerated at h
  obtain ⟨writeOff, hlock, h⟩ := bind_eq_ok h
  obtain ⟨_, h⟩ := check_eq_ok h
  obtain rfl := Except.ok.inj h
  exact writeOffSave_kept (writeOffLockFor_eq_ok hlock) fun _ hheld => hheld

theorem writeOffSigned_kept {movement : RowId → RowId}
    (h : WriteOffs.onSigned system event movement = .ok after) : HoldsKept system after := by
  unfold WriteOffs.onSigned at h
  obtain ⟨writeOff, hlock, h⟩ := bind_eq_ok h
  obtain ⟨_, _, h⟩ := bind_eq_ok h
  split at h
  · obtain rfl := Except.ok.inj h
    exact HoldsKept.refl system
  · obtain ⟨_, _, h⟩ := bind_eq_ok h
    unfold WriteOffs.complete at h
    obtain ⟨table, happly, h⟩ := bind_eq_ok h
    obtain rfl := Except.ok.inj h
    refine (assets_kept (applyAll_map_id happly)).trans ?_
    exact writeOffSave_kept (writeOffLockFor_eq_ok hlock) (by simp)

theorem writeOffRejected_kept (h : WriteOffs.onRejected system event = .ok after) :
    HoldsKept system after := by
  unfold WriteOffs.onRejected at h
  obtain ⟨writeOff, hlock, h⟩ := bind_eq_ok h
  obtain ⟨_, _, h⟩ := bind_eq_ok h
  split at h
  · obtain rfl := Except.ok.inj h
    exact HoldsKept.refl system
  · obtain ⟨_, _, h⟩ := bind_eq_ok h
    obtain rfl := Except.ok.inj h
    exact writeOffSave_kept (writeOffLockFor_eq_ok hlock) (by simp)

/-! ### Requests -/

section Requests

open AssetRequests

variable {viewer : Viewer}

theorem partyRequest_eq_ok {request : AssetRequest}
    (h : partyRequest system id viewer = .ok request) :
    request ∈ system.requests ∧ request.id = id := by
  unfold partyRequest at h
  split at h
  · cases h
  next found hfound =>
  split at h
  · cases h
  · obtain rfl := Except.ok.inj h
    exact ⟨List.mem_of_find?_eq_some hfound, by simpa using List.find?_some hfound⟩

/-- A request that is given up holds nothing any more. -/
theorem release_kept {request : AssetRequest} (hmem : request ∈ system.requests)
    (status : AssetRequestStatus) : HoldsKept system (release system request status) :=
  requestSave_kept hmem rfl (by simp)

/-- A new request holds nothing yet. -/
theorem requestCreated_kept {dto : CreateAssetRequestDto} {personId : Option RowId}
    {isActive hasOtherHead : RowId → Bool}
    (h : create system id dto viewer personId isActive hasOtherHead = .ok after) :
    HoldsKept system after := by
  unfold create at h
  obtain ⟨_, _, h⟩ := bind_eq_ok h
  split at h
  · cases h
  obtain ⟨_, _, h⟩ := bind_eq_ok h
  obtain ⟨_, h⟩ := check_eq_ok h
  obtain rfl := Except.ok.inj h
  intro hold assetId hheld
  cases hold with
  | reservation requestId =>
    obtain ⟨request, hmem, hid, hitems⟩ := hheld
    rcases List.mem_append.mp hmem with hmem | hnew
    · exact ⟨request, hmem, hid, hitems⟩
    · rw [List.mem_singleton.mp hnew] at hitems
      cases hitems
  | _ => exact hheld

theorem requestClosed_kept (h : close system id viewer = .ok after) : HoldsKept system after := by
  unfold close at h
  obtain ⟨request, hparty, h⟩ := bind_eq_ok h
  obtain ⟨_, _, h⟩ := bind_eq_ok h
  obtain ⟨_, _, h⟩ := bind_eq_ok h
  obtain rfl := Except.ok.inj h
  exact release_kept (partyRequest_eq_ok hparty).1 .closedByOwner

theorem requestCancelled_kept (h : AssetRequests.cancel system id viewer = .ok after) :
    HoldsKept system after := by
  unfold AssetRequests.cancel at h
  obtain ⟨request, hparty, h⟩ := bind_eq_ok h
  obtain ⟨_, _, h⟩ := bind_eq_ok h
  obtain ⟨_, _, h⟩ := bind_eq_ok h
  obtain rfl := Except.ok.inj h
  exact release_kept (partyRequest_eq_ok hparty).1 .cancelled

theorem requestReturned_kept (h : returnToRequester system id viewer = .ok after) :
    HoldsKept system after := by
  unfold returnToRequester at h
  obtain ⟨request, hparty, h⟩ := bind_eq_ok h
  obtain ⟨_, _, h⟩ := bind_eq_ok h
  obtain ⟨_, _, h⟩ := bind_eq_ok h
  obtain rfl := Except.ok.inj h
  exact requestSave_kept (partyRequest_eq_ok hparty).1 rfl fun _ hheld => hheld

/-- A corrected request holds what it held, or nothing. -/
theorem requestCorrected_kept {dto : CorrectAssetRequestDto} {isActive hasOtherHead : RowId → Bool}
    (h : correct system id dto viewer isActive hasOtherHead = .ok after) :
    HoldsKept system after := by
  unfold correct at h
  obtain ⟨request, hparty, h⟩ := bind_eq_ok h
  obtain ⟨_, _, h⟩ := bind_eq_ok h
  obtain ⟨_, h⟩ := check_eq_ok h
  obtain ⟨_, _, h⟩ := bind_eq_ok h
  obtain ⟨_, _, h⟩ := bind_eq_ok h
  obtain ⟨_, _, h⟩ := bind_eq_ok h
  obtain rfl := Except.ok.inj h
  refine requestSave_kept (partyRequest_eq_ok hparty).1 rfl fun assetId hheld => ?_
  dsimp only at hheld
  split at hheld
  · cases hheld
  · exact hheld

theorem requestExpired_kept {due : AssetRequest → Bool}
    (h : expireDue system due = .ok after) : HoldsKept system after := by
  unfold expireDue at h
  split at h
  · obtain rfl := Except.ok.inj h
    exact HoldsKept.refl system
  next request hfound =>
  obtain ⟨_, _, h⟩ := bind_eq_ok h
  obtain rfl := Except.ok.inj h
  exact release_kept (List.mem_of_find?_eq_some hfound) .expired

theorem loanDelivered_kept {assetRequestId : Option RowId} {loanId : RowId}
    (h : onLoanDelivered system assetRequestId loanId = .ok after) : HoldsKept system after := by
  unfold onLoanDelivered at h
  split at h
  · obtain rfl := Except.ok.inj h
    exact HoldsKept.refl system
  next request hfound =>
  obtain ⟨_, _, h⟩ := bind_eq_ok h
  obtain rfl := Except.ok.inj h
  exact requestSave_kept (List.mem_of_find?_eq_some hfound) rfl fun _ hheld => hheld

theorem closeByLoan_kept {assetRequestId : Option RowId} {loanId : RowId}
    {next : AssetRequestStatus} (h : closeByLoan system assetRequestId loanId next = .ok after) :
    HoldsKept system after := by
  unfold closeByLoan at h
  split at h
  · obtain rfl := Except.ok.inj h
    exact HoldsKept.refl system
  next request hfound =>
  obtain ⟨_, _, h⟩ := bind_eq_ok h
  obtain rfl := Except.ok.inj h
  exact release_kept (List.mem_of_find?_eq_some hfound) next

end Requests

/-! ### Loans -/

/-- A system whose other processes stay, and whose loans hold no more than before. -/
theorem kept_of_loans (hothers : OthersKept system after)
    (hassets : ∀ assetId, statusOf after.assets assetId = none →
      statusOf system.assets assetId = none)
    (hloans : ∀ loan ∈ after.loans, ∃ before ∈ system.loans,
      before.assetRequestId = loan.assetRequestId ∧
        ∀ assetId, loan.holds assetId = true → before.holds assetId = true) :
    HoldsKept system after := by
  intro hold assetId hheld
  cases hold with
  | loan origin =>
    obtain ⟨loan, hmem, horigin, hholds⟩ := hheld
    obtain ⟨before, hbefore, hsame, hkept⟩ := hloans loan hmem
    exact ⟨before, hbefore, hsame.trans horigin, hkept assetId hholds⟩
  | transfer origin =>
    rw [Holds, ← hothers.transfers]
    exact hheld
  | handover =>
    rw [Holds, ← hothers.handovers]
    exact hheld
  | reservation requestId =>
    rw [Holds, ← hothers.requests]
    exact hheld
  | writeOff =>
    rw [Holds, ← hothers.writeOffs]
    exact hheld
  | missing => exact hassets assetId hheld

theorem loanChange_holdsKept {loan changed : AssetLoan} {eventType : LoanEventType}
    {assets : List RowId} (hchange : LoanChange system after loan changed eventType assets) :
    HoldsKept system after := by
  refine kept_of_loans hchange.others (fun _ => (statusOf_eq_none hchange.assetIds).mp)
    fun other hother => ?_
  rcases hchange.mem_after hother with rfl | ⟨hmem, _⟩
  · exact ⟨loan, hchange.mem, hchange.origin.symm, fun _ hholds =>
      LoanedAssets.holds_before hchange hholds⟩
  · exact ⟨other, hmem, rfl, fun _ hholds => hholds⟩

theorem markOverdue_holdsKept (today : ℤ) : HoldsKept system (markOverdue system today) := by
  refine kept_of_loans ⟨rfl, rfl, rfl, rfl⟩ (fun _ hmissing => hmissing) fun other hother => ?_
  obtain ⟨loan, hloan, rfl⟩ := List.mem_map.mp hother
  refine ⟨loan, hloan, ?_⟩
  split
  · next hdue =>
    refine ⟨rfl, fun assetId hholds => ?_⟩
    rw [LoanedAssets.holds_iff] at hholds ⊢
    have hopen : LoanStatus.active ∈ openLoanStatuses := by decide
    exact ⟨hdue.1 ▸ hopen, hholds.2⟩
  · exact ⟨rfl, fun _ hholds => hholds⟩

/-- A new loan is one more. -/
theorem createWithin_length {input : CreateLoanInput} {actorId loanId : RowId}
    {itemId : RowId → RowId} {sourceScope : RowId → Bool} {approved : Option ApprovedLoan}
    {outside : Except Failure Unit}
    (h : createWithin system input actorId loanId itemId sourceScope approved outside =
      .ok after) : after.loans.length = system.loans.length + 1 := by
  unfold createWithin at h
  obtain ⟨assets, _, h⟩ := bind_eq_ok h
  obtain ⟨sourceId, _, h⟩ := bind_eq_ok h
  obtain ⟨_, _, h⟩ := bind_eq_ok h
  obtain ⟨_, _, h⟩ := bind_eq_ok h
  unfold insertLoan at h
  split at h
  · cases h
  · obtain rfl := Except.ok.inj h
    cases approved <;> exact List.length_append

/-- An operation on the loans there are takes no hold. -/
theorem loanOperation_kept {calendar : Calendar} (h : LoanOperation calendar system after)
    (hlength : after.loans.length = system.loans.length) : HoldsKept system after := by
  rcases h.created_or_effect with ⟨_, _, _, _, _, _, _, hcreated⟩ | heffect
  · have hmore := createWithin_length hcreated
    omega
  cases heffect with
  | change hchange => exact loanChange_holdsKept hchange
  | insertion hinsert =>
    rw [hinsert.loans, List.length_append, List.length_singleton] at hlength
    omega
  | overdue today hafter => exact hafter ▸ markOverdue_holdsKept today
  | noted hloans hassets _ _ hothers =>
    refine kept_of_loans hothers (fun _ hmissing => hassets ▸ hmissing) fun loan hloan => ?_
    exact ⟨loan, hloans ▸ hloan, rfl, fun _ hholds => hholds⟩

end Operations

/-! ### What advances or closes a process -/

/-- A committed operation that advances a process or closes it, or a step of
another service, which leaves the processes and takes away no asset. -/
inductive Advance (calendar : Calendar) (system after : System) : Prop
  | loan (h : LoanOperation calendar system after)
      (hlength : after.loans.length = system.loans.length)
  | transferGenerated (id : RowId) (outside : Except Failure Unit)
      (h : Transfers.generateWithin system id outside = .ok after)
  | transferCancelled (id : RowId) (signed : Bool) (voided : Except Failure Unit)
      (h : Transfers.cancel system id signed voided = .ok after)
  | transferActGenerated (event : DocumentLifecycleEvent)
      (h : Transfers.onGenerated system event = .ok after)
  | transferSigned (event : DocumentLifecycleEvent) (movement : RowId → RowId)
      (linked : Except Failure Unit)
      (h : Transfers.onSigned system event movement linked = .ok after)
  | transferRejected (event : DocumentLifecycleEvent)
      (h : Transfers.onRejected system event = .ok after)
  | handoverCancelled (id : RowId) (voided : Except Failure Unit)
      (h : Handovers.cancel system id voided = .ok after)
  | handoverActGenerated (event : DocumentLifecycleEvent)
      (h : Handovers.onGenerated system event = .ok after)
  | handoverSigned (event : DocumentLifecycleEvent) (movement : RowId → RowId)
      (linked : Except Failure Unit)
      (h : Handovers.onSigned system event movement linked = .ok after)
  | handoverRejected (event : DocumentLifecycleEvent)
      (h : Handovers.onRejected system event = .ok after)
  | writeOffGenerated (id : RowId) (hasTotal : Bool) (outside : Except Failure Unit)
      (h : WriteOffs.generate system id hasTotal outside = .ok after)
  | writeOffCancelled (id : RowId) (signed : Bool) (voided : Except Failure Unit)
      (h : WriteOffs.cancel system id signed voided = .ok after)
  | writeOffActGenerated (event : DocumentLifecycleEvent)
      (h : WriteOffs.onGenerated system event = .ok after)
  | writeOffSigned (event : DocumentLifecycleEvent) (movement : RowId → RowId)
      (h : WriteOffs.onSigned system event movement = .ok after)
  | writeOffRejected (event : DocumentLifecycleEvent)
      (h : WriteOffs.onRejected system event = .ok after)
  | requestCreated (id : RowId) (dto : AssetRequests.CreateAssetRequestDto)
      (viewer : AssetRequests.Viewer) (personId : Option RowId)
      (isActive hasOtherHead : RowId → Bool)
      (h : AssetRequests.create system id dto viewer personId isActive hasOtherHead = .ok after)
  | requestClosed (id : RowId) (viewer : AssetRequests.Viewer)
      (h : AssetRequests.close system id viewer = .ok after)
  | requestCancelled (id : RowId) (viewer : AssetRequests.Viewer)
      (h : AssetRequests.cancel system id viewer = .ok after)
  | requestReturned (id : RowId) (viewer : AssetRequests.Viewer)
      (h : AssetRequests.returnToRequester system id viewer = .ok after)
  | requestCorrected (id : RowId) (dto : AssetRequests.CorrectAssetRequestDto)
      (viewer : AssetRequests.Viewer) (isActive hasOtherHead : RowId → Bool)
      (h : AssetRequests.correct system id dto viewer isActive hasOtherHead = .ok after)
  | requestExpired (due : AssetRequest → Bool)
      (h : AssetRequests.expireDue system due = .ok after)
  | loanDelivered (assetRequestId : Option RowId) (loanId : RowId)
      (h : AssetRequests.onLoanDelivered system assetRequestId loanId = .ok after)
  | loanRejected (assetRequestId : Option RowId) (loanId : RowId)
      (h : AssetRequests.onLoanRejected system assetRequestId loanId = .ok after)
  | loanCancelled (assetRequestId : Option RowId) (loanId : RowId)
      (h : AssetRequests.onLoanCancelled system assetRequestId loanId = .ok after)
  | elsewhere (hloans : after.loans = system.loans) (hothers : OthersKept system after)
      (hassets : ∀ assetId, statusOf after.assets assetId = none →
        statusOf system.assets assetId = none)

/-- Nothing that advances a process or closes it takes a hold. -/
theorem Advance.kept {calendar : Calendar} {system after : System}
    (h : Advance calendar system after) : HoldsKept system after := by
  cases h with
  | loan h hlength => exact loanOperation_kept h hlength
  | transferGenerated id outside h => exact transferGenerated_kept h
  | transferCancelled id signed voided h => exact transferCancelled_kept h
  | transferActGenerated event h => exact transferActGenerated_kept h
  | transferSigned event movement linked h => exact transferSigned_kept h
  | transferRejected event h => exact transferRejected_kept h
  | handoverCancelled id voided h => exact handoverCancelled_kept h
  | handoverActGenerated event h => exact handoverActGenerated_kept h
  | handoverSigned event movement linked h => exact handoverSigned_kept h
  | handoverRejected event h => exact handoverRejected_kept h
  | writeOffGenerated id hasTotal outside h => exact writeOffGenerated_kept h
  | writeOffCancelled id signed voided h => exact writeOffCancelled_kept h
  | writeOffActGenerated event h => exact writeOffActGenerated_kept h
  | writeOffSigned event movement h => exact writeOffSigned_kept h
  | writeOffRejected event h => exact writeOffRejected_kept h
  | requestCreated id dto viewer personId isActive hasOtherHead h => exact requestCreated_kept h
  | requestClosed id viewer h => exact requestClosed_kept h
  | requestCancelled id viewer h => exact requestCancelled_kept h
  | requestReturned id viewer h => exact requestReturned_kept h
  | requestCorrected id dto viewer isActive hasOtherHead h => exact requestCorrected_kept h
  | requestExpired due h => exact requestExpired_kept h
  | loanDelivered assetRequestId loanId h => exact loanDelivered_kept h
  | loanRejected assetRequestId loanId h => exact closeByLoan_kept h
  | loanCancelled assetRequestId loanId h => exact closeByLoan_kept h
  | elsewhere hloans hothers hassets =>
    refine kept_of_loans hothers hassets fun loan hloan => ?_
    exact ⟨loan, hloans ▸ hloan, rfl, fun _ hholds => hholds⟩

end InternalControl.AssetHolds
