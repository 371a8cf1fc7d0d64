import InternalControl.AssetProcesses
import InternalControl.Interleaving

/-!
# The items of an inventory

Verifying an asset and reporting it missing both read the item of the asset,
check that it is pending, and save their result later. Verifying also writes a
movement, in a transaction that locks the asset and not the item. When an item
is saved only while it is pending it is decided once. The check alone does not
see to that.
-/

namespace InternalControl.InventoryItems

open AssetProcesses Interleaving

abbrev Uuid := String

/-- The columns of `physical_inventory_item` that a result is written to, and those it is
computed from. -/
structure Item where
  verificationResult : VerificationResult
  expectedLocationId : Option Uuid
  actualLocationId : Option Uuid
  actualCondition : Option Assets.PhysicalCondition
  missingCauseId : Option Uuid
  missingCauseOther : Option String
  notes : Option String
  verifiedAt : Option ℤ
  verifiedBy : Option Uuid
  deriving DecidableEq

structure VerifyInventoryAssetDto where
  locationId : Option Uuid
  condition : Assets.PhysicalCondition
  notes : Option String
  deriving DecidableEq

/-- The cause that the catalogue has made of a report. -/
structure MissingCause where
  missingCauseId : Option Uuid
  missingCauseOther : Option String
  deriving DecidableEq

/-- What a caller asks for, and who asks. -/
inductive Request
  | verifyAsset (dto : VerifyInventoryAssetDto) (actorId : Uuid)
  | reportNotFound (notes : Option String) (actorId : Uuid)
  deriving DecidableEq

/-- A movement of physical verification. -/
structure Movement where
  reason : String
  documentReference : String
  executedAt : ℤ
  result : VerificationResult
  observedLocationId : Option Uuid
  observedCondition : Assets.PhysicalCondition
  actorId : Uuid
  deriving DecidableEq

/-- The item a request will save, and the movement that goes with it. -/
structure Decision where
  item : Item
  movement : Option Movement
  deriving DecidableEq

/-- What the rows hold. The results saved so far are kept beside them. -/
structure Store (ι : Type) where
  inventoryCode : String
  inventoryStatus : InventoryStatus
  item : Item
  lastVerifiedAt : Option ℤ
  movements : List Movement
  lockedBy : Option ι
  saved : List Item

/-- How far a request has come. -/
inductive Phase
  | idle
  | allowed (request : Request)
  | checked (request : Request) (item : Item)
  | prepared (decision : Decision)
  | locked (decision : Decision)
  | selected (decision : Decision) (seen : Item)
  deriving DecidableEq

/-- A statement of a request. What the catalogues and the other tables answer is part of it. -/
inductive Statement
  | start (request : Request) (canOperate : Bool)
  | findItem
  | prepareVerification (assetExists locationActive : Bool) (now : ℤ)
  | prepareReport (cause : Option MissingCause) (now : ℤ)
  | lockAsset
  | selectItem
  | updateItem
  | setInventoryStatus (status : InventoryStatus)
  | crash
  deriving DecidableEq

/-- The item as a verification leaves it. -/
def verifiedItem (item : Item) (dto : VerifyInventoryAssetDto) (actorId : Uuid) (now : ℤ) : Item :=
  let actualLocationId := dto.locationId <|> item.expectedLocationId
  let misplaced := actualLocationId.isSome ∧ item.expectedLocationId.isSome ∧
    actualLocationId ≠ item.expectedLocationId
  { item with
    verificationResult := if misplaced then .misplaced else .found
    actualLocationId := actualLocationId
    actualCondition := some dto.condition
    notes := dto.notes <|> item.notes
    verifiedAt := some now
    verifiedBy := some actorId }

def verificationMovement (item : Item) (dto : VerifyInventoryAssetDto) (inventoryCode : String)
    (actorId : Uuid) (now : ℤ) : Movement where
  reason := dto.notes.getD s!"Verificación {inventoryCode}"
  documentReference := inventoryCode
  executedAt := now
  result := item.verificationResult
  observedLocationId := item.actualLocationId
  observedCondition := dto.condition
  actorId := actorId

/-- The item as a report that it was not found leaves it. -/
def missingItem (item : Item) (cause : MissingCause) (notes : Option String) (actorId : Uuid)
    (now : ℤ) : Item :=
  { item with
    verificationResult := .missing
    missingCauseId := cause.missingCauseId
    missingCauseOther := cause.missingCauseOther
    notes := notes <|> item.notes
    verifiedAt := some now
    verifiedBy := some actorId }

/-- A column after saving: it is written when it differs from what the save has read. -/
def savedColumn {α : Type} [DecidableEq α] (wanted seen current : α) : α :=
  if wanted = seen then current else wanted

/-- The row after saving an item. -/
def Item.save (wanted seen current : Item) : Item where
  verificationResult :=
    savedColumn wanted.verificationResult seen.verificationResult current.verificationResult
  expectedLocationId :=
    savedColumn wanted.expectedLocationId seen.expectedLocationId current.expectedLocationId
  actualLocationId :=
    savedColumn wanted.actualLocationId seen.actualLocationId current.actualLocationId
  actualCondition := savedColumn wanted.actualCondition seen.actualCondition current.actualCondition
  missingCauseId := savedColumn wanted.missingCauseId seen.missingCauseId current.missingCauseId
  missingCauseOther :=
    savedColumn wanted.missingCauseOther seen.missingCauseOther current.missingCauseOther
  notes := savedColumn wanted.notes seen.notes current.notes
  verifiedAt := savedColumn wanted.verifiedAt seen.verifiedAt current.verifiedAt
  verifiedBy := savedColumn wanted.verifiedBy seen.verifiedBy current.verifiedBy

section Program

variable {ι : Type}

/-- The end of the transaction that saves an item. A verification writes its movement and the
asset in it. -/
def saveDecision (store : Store ι) (decision : Decision) (seen : Item) : Store ι :=
  let row := decision.item.save seen store.item
  match decision.movement with
  | none => { store with item := row, saved := store.saved ++ [decision.item] }
  | some movement =>
    { store with
      item := row
      saved := store.saved ++ [decision.item]
      lastVerifiedAt := decision.item.verifiedAt
      movements := store.movements ++ [movement]
      lockedBy := none }

/-- A transaction that holds the asset lets it go. -/
def unlock [DecidableEq ι] (client : ι) (store : Store ι) : Store ι :=
  if store.lockedBy = some client then { store with lockedBy := none } else store

/-- The statements of the service. A request that is refused is over. -/
def program [DecidableEq ι] : Program ι (Store ι) Phase Statement
  | _, .start request canOperate, store, .idle =>
    some (store, if store.inventoryStatus = .inProgress ∧ canOperate then .allowed request else .idle)
  | _, .findItem, store, .allowed request =>
    some (store, if store.item.verificationResult = .pending then .checked request store.item
      else .idle)
  | _, .prepareVerification assetExists locationActive now, store,
      .checked (.verifyAsset dto actorId) item =>
    let wanted := verifiedItem item dto actorId now
    some (store, if assetExists ∧ (dto.locationId.isSome → locationActive) then
      .prepared ⟨wanted, some (verificationMovement wanted dto store.inventoryCode actorId now)⟩
      else .idle)
  | _, .prepareReport cause now, store, .checked (.reportNotFound notes actorId) item =>
    some (store, match cause with
      | none => .idle
      | some cause => .prepared ⟨missingItem item cause notes actorId now, none⟩)
  | client, .lockAsset, store, .prepared ⟨item, some movement⟩ =>
    if store.lockedBy.isSome then none
    else some ({ store with lockedBy := some client }, .locked ⟨item, some movement⟩)
  | _, .selectItem, store, .locked decision => some (store, .selected decision store.item)
  | _, .selectItem, store, .prepared ⟨item, none⟩ => some (store, .selected ⟨item, none⟩ store.item)
  | _, .updateItem, store, .selected decision seen => some (saveDecision store decision seen, .idle)
  | _, .setInventoryStatus status, store, phase => some ({ store with inventoryStatus := status }, phase)
  | client, .crash, store, _ => some (unlock client store, .idle)
  | _, _, _, _ => none

/-- An inventory that is going on, with an item nobody has decided. -/
def start (ι : Type) (inventoryCode : String) (item : Item) : Interleaving ι (Store ι) Phase :=
  ⟨⟨inventoryCode, .inProgress, { item with verificationResult := .pending }, none, [], none, []⟩,
    fun _ => .idle⟩

end Program

/-! ### Runs -/

section Runs

variable {ι : Type}

/-- An item is saved while it is still pending. -/
def StillPending : ι → Statement → Store ι → Phase → Prop
  | _, .updateItem, store, _ => store.item.verificationResult = .pending
  | _, _, _, _ => True

instance (i : ι) (statement : Statement) (store : Store ι) (phase : Phase) :
    Decidable (StillPending i statement store phase) := by
  unfold StillPending
  split <;> infer_instance

/-- The item is pending and nothing was saved, or one result was saved and is there. -/
def DecidedOnce (store : Store ι) : Prop :=
  (store.item.verificationResult = .pending ∧ store.saved = [] ∧ store.movements = []) ∨
    (store.item.verificationResult ≠ .pending ∧ store.saved = [store.item] ∧
      store.movements.length ≤ 1)

/-- A request that is about to save has a result, and has seen a pending item as it is. -/
def Ready (store : Store ι) : Phase → Prop
  | .prepared decision => decision.item.verificationResult ≠ .pending
  | .locked decision => decision.item.verificationResult ≠ .pending
  | .selected decision seen => decision.item.verificationResult ≠ .pending ∧
    (store.item.verificationResult = .pending → seen = store.item)
  | _ => True

/-- A decided item stays as it is, with what was saved and written for it. -/
def Settled (before after : Store ι) : Prop :=
  before.item.verificationResult ≠ .pending →
    after.item = before.item ∧ after.saved = before.saved ∧ after.movements = before.movements

theorem Settled.refl (store : Store ι) : Settled store store := fun _ => ⟨rfl, rfl, rfl⟩

theorem Settled.trans {first second third : Store ι} (h : Settled first second)
    (h' : Settled second third) : Settled first third := by
  intro hdecided
  obtain ⟨hitem, hsaved, hmovements⟩ := h hdecided
  obtain ⟨hitem', hsaved', hmovements'⟩ := h' (hitem ▸ hdecided)
  exact ⟨hitem'.trans hitem, hsaved'.trans hsaved, hmovements'.trans hmovements⟩

/-- A column that is saved over the value it has read becomes what was wanted. -/
theorem savedColumn_self {α : Type} [DecidableEq α] (wanted seen : α) :
    savedColumn wanted seen seen = wanted := by
  unfold savedColumn
  split
  · next hsame => exact hsame.symm
  · rfl

/-- Saving over the row it has read leaves the item that was wanted. -/
theorem Item.save_self (wanted current : Item) : wanted.save current current = wanted := by
  simp only [Item.save, savedColumn_self]

/-- A verification finds the asset where it was expected or elsewhere. -/
theorem verifiedItem_ne_pending (item : Item) (dto : VerifyInventoryAssetDto) (actorId : Uuid)
    (now : ℤ) : (verifiedItem item dto actorId now).verificationResult ≠ .pending := by
  simp only [verifiedItem]
  split <;> decide

/-- What a statement does: it saves a decision, or it leaves the item and all that was written
for it alone. -/
inductive Effect (store : Store ι) (phase : Phase) : Statement → Store ι → Phase → Prop
  | wait {statement : Statement} {store' : Store ι} {phase' : Phase}
      (hitem : store'.item = store.item) (hsaved : store'.saved = store.saved)
      (hmovements : store'.movements = store.movements)
      (hready : Ready store phase → Ready store' phase') : Effect store phase statement store' phase'
  | save (decision : Decision) (seen : Item) (hphase : phase = .selected decision seen) :
      Effect store phase .updateItem (saveDecision store decision seen) .idle

/-- What is saved while the item is pending is the first result of it. -/
theorem saveDecision_pending {store : Store ι} {decision : Decision} {seen : Item}
    (hdecided : DecidedOnce store) (hpending : store.item.verificationResult = .pending)
    (hready : Ready store (.selected decision seen)) :
    (saveDecision store decision seen).item = decision.item ∧
      DecidedOnce (saveDecision store decision seen) := by
  have hseen := hready.2 hpending
  have hrow : decision.item.save seen store.item = decision.item := by
    rw [hseen]
    exact Item.save_self _ _
  rcases hdecided with ⟨-, hsaved, hmovements⟩ | ⟨hdecided, -⟩
  · cases hmovement : decision.movement with
    | none =>
      simp only [saveDecision, hmovement, hrow, DecidedOnce, hsaved, hmovements, List.nil_append]
      exact ⟨trivial, .inr ⟨hready.1, trivial, by simp⟩⟩
    | some movement =>
      simp only [saveDecision, hmovement, hrow, DecidedOnce, hsaved, hmovements, List.nil_append]
      exact ⟨trivial, .inr ⟨hready.1, trivial, by simp⟩⟩
  · exact absurd hpending hdecided

theorem Ready.of_item_eq {store store' : Store ι} {phase : Phase} (h : Ready store phase)
    (hitem : store'.item = store.item) : Ready store' phase := by
  cases phase with
  | selected decision seen =>
    refine ⟨h.1, fun hpending => ?_⟩
    rw [hitem] at hpending ⊢
    exact h.2 hpending
  | _ => exact h

variable [DecidableEq ι]

theorem effect_of_program {i : ι} {statement : Statement} {store store' : Store ι}
    {phase phase' : Phase} (h : program i statement store phase = some (store', phase')) :
    Effect store phase statement store' phase' := by
  unfold program at h
  split at h
  · cases h
    refine .wait rfl rfl rfl fun _ => ?_
    split <;> trivial
  · cases h
    refine .wait rfl rfl rfl fun _ => ?_
    split <;> trivial
  · next dto actorId item =>
    cases h
    refine .wait rfl rfl rfl fun _ => ?_
    split
    · exact verifiedItem_ne_pending _ _ _ _
    · trivial
  · cases h
    refine .wait rfl rfl rfl fun _ => ?_
    split
    · trivial
    · simp [Ready, missingItem]
  · split at h
    · cases h
    · cases h
      exact .wait rfl rfl rfl fun hready => hready
  · cases h
    exact .wait rfl rfl rfl fun hready => ⟨hready, fun _ => rfl⟩
  · cases h
    exact .wait rfl rfl rfl fun hready => ⟨hready, fun _ => rfl⟩
  · next decision seen =>
    cases h
    exact .save decision seen rfl
  · cases h
    refine .wait rfl rfl rfl fun hready => ?_
    cases phase <;> exact hready
  · cases h
    refine .wait ?_ ?_ ?_ fun _ => trivial <;> (unfold unlock; split <;> rfl)
  · cases h

theorem program_keeps : Keeps (@program ι _) StillPending DecidedOnce (fun _ => Ready)
    (fun _ _ => True) where
  symm := fun _ _ _ => trivial
  own := by
    intro i statement store phase store' phase' hpending h hdecided hready
    cases effect_of_program h with
    | wait hitem hsaved hmovements hnext =>
      refine ⟨?_, hnext hready⟩
      unfold DecidedOnce
      rw [hitem, hsaved, hmovements]
      exact hdecided
    | save decision seen hphase =>
      subst hphase
      exact ⟨(saveDecision_pending hdecided hpending hready).2, trivial⟩
  other := by
    intro i k statement store phase store' phase' other _ hpending h hdecided hready hother _
    refine ⟨?_, trivial⟩
    cases effect_of_program h with
    | wait hitem hsaved hmovements hnext => exact hother.of_item_eq hitem
    | save decision seen hphase =>
      subst hphase
      have hrow := (saveDecision_pending hdecided hpending hready).1
      cases other with
      | selected _ _ =>
        refine ⟨hother.1, fun hstill => ?_⟩
        rw [hrow] at hstill
        exact absurd hstill hready.1
      | _ => exact hother

theorem settled_program {i : ι} {statement : Statement} {store store' : Store ι}
    {phase phase' : Phase} (hpending : StillPending i statement store phase)
    (h : program i statement store phase = some (store', phase')) : Settled store store' := by
  cases effect_of_program h with
  | wait hitem hsaved hmovements hnext => exact fun _ => ⟨hitem, hsaved, hmovements⟩
  | save decision seen hphase => exact fun hdecided => absurd hpending hdecided

/-- In a run in which items are saved only while they are pending, one result is saved at most,
with one movement at most, and an item that has left `PENDING` keeps the result that was saved. -/
theorem item_is_decided_once (inventoryCode : String) (item : Item)
    {c c' : Interleaving ι (Store ι) Phase}
    (hrun : Run program StillPending (InventoryItems.start ι inventoryCode item) c)
    (hlater : Run program StillPending c c') :
    c'.shared.saved.length ≤ 1 ∧ c'.shared.movements.length ≤ 1 ∧
      (c.shared.item.verificationResult ≠ .pending →
        c.shared.saved = [c.shared.item] ∧ c'.shared.item = c.shared.item ∧
          c'.shared.saved = c.shared.saved ∧ c'.shared.movements = c.shared.movements) := by
  have hstart : Holds DecidedOnce (fun _ => Ready) (fun _ _ => True)
      (InventoryItems.start ι inventoryCode item) :=
    ⟨.inl ⟨rfl, rfl, rfl⟩, fun _ => trivial, fun _ _ _ => trivial⟩
  have hbefore := program_keeps.run hrun hstart
  have hafter := program_keeps.run hlater hbefore
  have hsettled : Settled c.shared c'.shared :=
    program_keeps.run_related Settled.refl (fun _ _ _ => Settled.trans)
      (fun _ _ _ _ _ _ hpending h _ _ => settled_program hpending h) hlater hbefore
  refine ⟨?_, ?_, fun hdecided => ⟨?_, hsettled hdecided⟩⟩
  · rcases hafter.shared with ⟨-, hsaved, -⟩ | ⟨-, hsaved, -⟩ <;> simp [hsaved]
  · rcases hafter.shared with ⟨-, -, hmovements⟩ | ⟨-, -, hmovements⟩
    · simp [hmovements]
    · exact hmovements
  · rcases hbefore.shared with ⟨hpending, -⟩ | ⟨-, hsaved, -⟩
    · exact absurd hpending hdecided
    · exact hsaved

end Runs

section Samples

def expectedItem : Item := ⟨.pending, some "room-1", none, none, none, none, none, none, none⟩

def seenInRoom : Request := .verifyAsset ⟨some "room-1", .good, none⟩ "ana"

def notInRoom : Request := .reportNotFound none "luis"

/-- One person verifies the asset. -/
def verifyItem : List (Bool × Statement) :=
  [(false, .start seenInRoom true), (false, .findItem), (false, .prepareVerification true true 10),
    (false, .lockAsset), (false, .selectItem), (false, .updateItem)]

/-- The other reports it missing, and is refused. -/
def refusedReport : List (Bool × Statement) :=
  [(true, .start notInRoom true), (true, .findItem)]

def hasResult (result : VerificationResult) (c : Interleaving Bool (Store Bool) Phase) : Bool :=
  c.shared.item.verificationResult = result

theorem item_is_decided_once_verified : ∃ c c' : Interleaving Bool (Store Bool) Phase,
    hasResult .found c = true ∧ c'.shared.saved.length ≤ 1 ∧ c'.shared.movements.length ≤ 1 ∧
      (c.shared.item.verificationResult ≠ .pending →
        c.shared.saved = [c.shared.item] ∧ c'.shared.item = c.shared.item ∧
          c'.shared.saved = c.shared.saved ∧ c'.shared.movements = c.shared.movements) := by
  obtain ⟨c, c', hrun, hlater, hfound, -⟩ :
      ∃ c c' : Interleaving Bool (Store Bool) Phase,
        Run program StillPending (start Bool "INV-1" expectedItem) c ∧ Run program StillPending c c' ∧
          hasResult .found c = true ∧ hasResult .found c' = true :=
    exists_run_run verifyItem refusedReport (by decide +kernel)
  exact ⟨c, c', hfound, item_is_decided_once "INV-1" expectedItem hrun hlater⟩

/-- Both have read the item while it is pending, and the verification is saved first. -/
def bothRead : List (Bool × Statement) :=
  [(true, .start notInRoom true), (true, .findItem), (true, .prepareReport (some ⟨some "stolen", none⟩) 9)]
    ++ verifyItem

/-- The report is saved over the verification. -/
theorem item_is_decided_twice :
    ¬∀ c c' : Interleaving Bool (Store Bool) Phase,
      Run program Anyhow (start Bool "INV-1" expectedItem) c → Run program Anyhow c c' →
        c'.shared.saved.length ≤ 1 ∧ c'.shared.movements.length ≤ 1 ∧
          (c.shared.item.verificationResult ≠ .pending →
            c.shared.saved = [c.shared.item] ∧ c'.shared.item = c.shared.item ∧
              c'.shared.saved = c.shared.saved ∧ c'.shared.movements = c.shared.movements) := by
  intro h
  obtain ⟨c, c', hrun, hlater, hfound, hmissing⟩ :
      ∃ c c' : Interleaving Bool (Store Bool) Phase,
        Run program Anyhow (start Bool "INV-1" expectedItem) c ∧ Run program Anyhow c c' ∧
          hasResult .found c = true ∧ hasResult .missing c' = true :=
    exists_run_run bothRead [(true, .selectItem), (true, .updateItem)] (by decide +kernel)
  have hfound : c.shared.item.verificationResult = .found := of_decide_eq_true hfound
  have hmissing : c'.shared.item.verificationResult = .missing := of_decide_eq_true hmissing
  obtain ⟨-, hsame, -⟩ := (h c c' hrun hlater).2.2 (by rw [hfound]; decide)
  rw [hsame, hfound] at hmissing
  cases hmissing

end Samples

end InternalControl.InventoryItems
