import InternalControl.InventoryCorrections

/-!
# Corrections over runs of calls

A call saves the item that it has read and changed. While it saves it over the
row it has read, in an inventory that is still going on, each correction shows
the item just before and just after it, each change is made of the item as the
one before left it, and nothing changes after the inventory is closed.
-/

namespace InternalControl.InventoryCorrections

open AssetProcesses (VerificationResult InventoryStatus)
open Interleaving

variable {ι : Type}

/-- A call saves its item while the row, when the save reads it and when it writes it, is the one
the call has read, and the inventory is going on. A closing finds it going on as well. -/
def SavesWhatItRead : ι → Statement → Store ι → Phase → Prop
  | _, .saveItem _, store, .selected prepared seen =>
    store.inventoryStatus = .inProgress ∧ seen = prepared.loaded ∧ store.item = prepared.loaded
  | _, .saveInventory, store, .swept _ => store.inventoryStatus = .inProgress
  | _, _, _, _ => True

instance (i : ι) (statement : Statement) (store : Store ι) (phase : Phase) :
    Decidable (SavesWhatItRead i statement store phase) := by
  unfold SavesWhatItRead
  split <;> infer_instance

/-! ### Changes -/

/-- A change is what its cause makes of the row before it. -/
def Change.Follows (change : Change) : Prop :=
  match change.cause with
  | .call edit => edit.apply change.before = .ok change.after
  | .close => change.after = closeItem change.before

/-- What the correction of a change has to show. -/
def Change.trail (change : Change) : Option (InventoryCorrectionKind × Snapshot × Snapshot) :=
  match change.cause with
  | .call edit => edit.call.correction.map fun correction =>
    (correction.1, snapshot change.before, snapshot change.after)
  | .close => none

/-- What a correction shows. -/
def InventoryItemCorrection.trail (correction : InventoryItemCorrection) :
    InventoryCorrectionKind × Snapshot × Snapshot :=
  (correction.kind, correction.before, correction.after)

/-- Changes that lead from one row to another, each from where the one before has led. -/
def Chained : PhysicalInventoryItem → List Change → PhysicalInventoryItem → Prop
  | first, [], last => first = last
  | first, change :: changes, last => change.before = first ∧ Chained change.after changes last

theorem Chained.concat {first last after : PhysicalInventoryItem} {changes : List Change}
    (h : Chained first changes last) (cause : Cause) :
    Chained first (changes ++ [⟨cause, last, after⟩]) after := by
  induction changes generalizing first with
  | nil =>
    have hlast : first = last := h
    exact ⟨hlast.symm, rfl⟩
  | cons change changes ih =>
    obtain ⟨hbefore, hrest⟩ := h
    exact ⟨hbefore, ih hrest⟩

/-- The corrections show the changes, and the changes are what their causes make of the rows they
find. -/
structure Exact (item : PhysicalInventoryItem) (store : Store ι) : Prop where
  shown : store.corrections.map InventoryItemCorrection.trail = store.changes.filterMap Change.trail
  follows : ∀ change ∈ store.changes, change.Follows
  chained : Chained item store.changes store.item

/-- After the inventory the item stays. -/
def Settled (before after : Store ι) : Prop :=
  before.inventoryStatus ≠ .inProgress →
    after.inventoryStatus ≠ .inProgress ∧ after.item = before.item

theorem Settled.refl (store : Store ι) : Settled store store := fun hclosed => ⟨hclosed, rfl⟩

theorem Settled.trans {first second third : Store ι} (h : Settled first second)
    (h' : Settled second third) : Settled first third := by
  intro hclosed
  obtain ⟨hsecond, hitem⟩ := h hclosed
  obtain ⟨hthird, hitem'⟩ := h' hsecond
  exact ⟨hthird, hitem'.trans hitem⟩

/-- Saving over the row it has read leaves the item that was wanted. -/
theorem save_self (wanted current : PhysicalInventoryItem) :
    wanted.save current current = wanted := by
  simp only [PhysicalInventoryItem.save, InventoryItems.Item.save_self,
    InventoryItems.savedColumn_self]

/-- What a statement writes: locks, the item of a call, or the end of the inventory. -/
inductive Effect (store : Store ι) : Store ι → Prop
  | wait (assetLockedBy itemLockedBy : Option ι) :
      Effect store { store with assetLockedBy := assetLockedBy, itemLockedBy := itemLockedBy }
  | save (prepared : Prepared) (correctedAt : ℤ) (assetLockedBy itemLockedBy : Option ι)
      (hopen : store.inventoryStatus = .inProgress) (hread : store.item = prepared.loaded) :
      Effect store { store.change (.call prepared.edit) prepared.wanted
          (prepared.correction correctedAt) with
        assetLockedBy := assetLockedBy, itemLockedBy := itemLockedBy }
  | close (hopen : store.inventoryStatus = .inProgress) :
      Effect store { store with inventoryStatus := .closed }
  | sweep (assetLockedBy itemLockedBy : Option ι) (hopen : store.inventoryStatus = .inProgress) :
      Effect store { store.change .close (closeItem store.item) [] with
        inventoryStatus := .closed, assetLockedBy := assetLockedBy, itemLockedBy := itemLockedBy }

section Steps

variable {store store' : Store ι} {item : PhysicalInventoryItem}

theorem Exact.effect (h : Exact item store) (heffect : Effect store store') : Exact item store' := by
  cases heffect with
  | wait assetLockedBy itemLockedBy => exact ⟨h.shown, h.follows, h.chained⟩
  | close hopen => exact ⟨h.shown, h.follows, h.chained⟩
  | save prepared correctedAt assetLockedBy itemLockedBy hopen hread =>
    have htrail : (prepared.correction correctedAt).map InventoryItemCorrection.trail =
        [(⟨.call prepared.edit, store.item, prepared.wanted⟩ : Change)].filterMap Change.trail := by
      unfold Prepared.correction
      cases hcorrection : prepared.edit.call.correction <;>
        simp [Change.trail, hcorrection, hread, InventoryItemCorrection.trail]
    refine ⟨?_, fun change hchange => ?_, h.chained.concat _⟩
    · have hshown := h.shown
      simp only [Store.change, List.map_append, List.filterMap_append, htrail, hshown]
    · rcases List.mem_append.mp hchange with hchange | hlast
      · exact h.follows change hchange
      · cases List.mem_singleton.mp hlast
        have hcomputed := prepared.computed
        rw [← hread] at hcomputed
        exact hcomputed
  | sweep assetLockedBy itemLockedBy hopen =>
    refine ⟨?_, fun change hchange => ?_, h.chained.concat _⟩
    · have hshown := h.shown
      simp [Store.change, hshown, Change.trail]
    · rcases List.mem_append.mp hchange with hchange | hlast
      · exact h.follows change hchange
      · cases List.mem_singleton.mp hlast
        exact rfl

theorem Settled.effect (heffect : Effect store store') : Settled store store' := by
  intro hclosed
  cases heffect with
  | wait assetLockedBy itemLockedBy => exact ⟨hclosed, rfl⟩
  | save prepared correctedAt assetLockedBy itemLockedBy hopen hread => exact absurd hopen hclosed
  | close hopen => exact absurd hopen hclosed
  | sweep assetLockedBy itemLockedBy hopen => exact absurd hopen hclosed

variable [DecidableEq ι]

theorem effect_of_program {i : ι} {statement : Statement} {phase phase' : Phase}
    (hmeets : SavesWhatItRead i statement store phase)
    (h : program i statement store phase = some (store', phase')) : Effect store store' := by
  unfold program at h
  split at h
  · cases h
    exact .wait _ _
  · cases h
    exact .wait _ _
  · cases h
    exact .wait _ _
  · split at h
    · cases h
      exact .wait _ _
    · cases h
  · split at h
    · cases h
    · cases h
      exact .wait _ _
  · cases h
    exact .wait _ _
  · next correctedAt prepared seen =>
    obtain ⟨hopen, hseen, hread⟩ := hmeets
    split at h
    · cases h
    · cases h
      have hrow : prepared.wanted.save seen store.item = prepared.wanted := by
        rw [hseen, hread]
        exact save_self _ _
      rw [hrow]
      exact .save prepared correctedAt _ _ hopen hread
  · cases h
    exact .wait _ _
  · split at h
    · split at h
      · cases h
        exact .wait _ _
      · cases h
    · cases h
      exact .wait _ _
  · next pending =>
    cases h
    split
    · exact .sweep _ _ hmeets
    · exact .close hmeets
  · cases h
    exact .wait _ _
  · cases h

theorem program_keeps (item : PhysicalInventoryItem) : Keeps (@program ι _) SavesWhatItRead
    (Exact item) (fun _ _ _ => True) (fun _ _ => True) where
  symm := fun _ _ _ => trivial
  own := fun _ _ _ _ _ _ hmeets h hexact _ => ⟨hexact.effect (effect_of_program hmeets h), trivial⟩
  other := fun _ _ _ _ _ _ _ _ _ _ _ _ _ _ _ => ⟨trivial, trivial⟩

/-- In a run whose calls save the row they have read while the inventory is going on, the
corrections show the item before and after each of their changes in the order of the commits, every
change is what its call makes of the item as the change before has left it, and the item stays once
the inventory is closed. -/
theorem correction_trail_is_exact (item : PhysicalInventoryItem) {c c' : Interleaving ι (Store ι) Phase}
    (hrun : Run program SavesWhatItRead (InventoryCorrections.start ι item) c)
    (hlater : Run program SavesWhatItRead c c') :
    c.shared.corrections.map InventoryItemCorrection.trail =
        c.shared.changes.filterMap Change.trail ∧
      Chained item c.shared.changes c.shared.item ∧
      (∀ change ∈ c.shared.changes, change.Follows) ∧
      (c.shared.inventoryStatus ≠ .inProgress → c'.shared.item = c.shared.item) := by
  have hstart : Holds (Exact item) (fun _ _ _ => True) (fun _ _ => True)
      (InventoryCorrections.start ι item) :=
    ⟨⟨rfl, by simp [InventoryCorrections.start], rfl⟩, fun _ => trivial, fun _ _ _ => trivial⟩
  have hbefore := (program_keeps item).run hrun hstart
  have hsettled : Settled c.shared c'.shared :=
    (program_keeps item).run_related Settled.refl (fun _ _ _ => Settled.trans)
      (fun _ _ _ _ _ _ hmeets h _ _ => Settled.effect (effect_of_program hmeets h)) hlater hbefore
  have hexact := hbefore.shared
  exact ⟨hexact.shown, hexact.chained, hexact.follows, fun hclosed => (hsettled hclosed).2⟩

end Steps

section Samples

def allAnswers : Answers := ⟨true, some "B", true, true⟩

/-- An asset that was found where it was expected. -/
def foundItem : PhysicalInventoryItem where
  verificationResult := .found
  expectedLocationId := some "room-1"
  actualLocationId := some "room-1"
  actualCondition := some .good
  missingCauseId := none
  missingCauseOther := none
  notes := none
  verifiedAt := some 1
  verifiedBy := some "ana"
  findingCategoryCode := none
  voidedAt := none

def itIsMissing : Call :=
  .correct ⟨.missing, none, none, some "stolen", none, none, "wrong asset"⟩

def itIsPending : Call := .correct ⟨.pending, none, none, none, none, none, "not seen yet"⟩

/-- A call from its start to the end of its transaction. -/
def wholeCall (i : Bool) (call : Call) (now : ℤ) : List (Bool × Statement) :=
  [(i, .start call "luis" true), (i, .findItem), (i, .prepare allAnswers now), (i, .selectItem),
    (i, .saveItem now)]

def wholeClose (i : Bool) : List (Bool × Statement) :=
  [(i, .startClose true), (i, .sweepPending), (i, .saveInventory)]

theorem correction_trail_is_exact_closed : ∃ c c' : Interleaving Bool (Store Bool) Phase,
    c.shared.item.verificationResult = .pending ∧ c.shared.corrections.length = 2 ∧
      c'.shared.item.verificationResult = .notVerified ∧
      c.shared.corrections.map InventoryItemCorrection.trail =
          c.shared.changes.filterMap Change.trail ∧
        Chained foundItem c.shared.changes c.shared.item ∧
        (∀ change ∈ c.shared.changes, change.Follows) ∧
        (c.shared.inventoryStatus ≠ .inProgress → c'.shared.item = c.shared.item) := by
  obtain ⟨c, c', hrun, hlater, hseen, hclosed⟩ : ∃ c c' : Interleaving Bool (Store Bool) Phase,
      Run program SavesWhatItRead (start Bool foundItem) c ∧ Run program SavesWhatItRead c c' ∧
        decide (c.shared.item.verificationResult = .pending ∧ c.shared.corrections.length = 2) = true ∧
        decide (c'.shared.item.verificationResult = .notVerified) = true :=
    exists_run_run (wholeCall false itIsMissing 2 ++ wholeCall true (.setFindingCategory (some "b")) 3 ++
      wholeCall false itIsPending 4) (wholeClose true) (by decide +kernel)
  obtain ⟨hpending, htwo⟩ := of_decide_eq_true hseen
  exact ⟨c, c', hpending, htwo, of_decide_eq_true hclosed,
    correction_trail_is_exact foundItem hrun hlater⟩

/-- A correction and a classification have read the same item. The classification is saved first,
and the correction takes it away without having seen it. -/
theorem correction_trail_is_wrong :
    ¬∀ c c' : Interleaving Bool (Store Bool) Phase, Run program Anyhow (start Bool foundItem) c →
      Run program Anyhow c c' →
        c.shared.corrections.map InventoryItemCorrection.trail =
            c.shared.changes.filterMap Change.trail ∧
          Chained foundItem c.shared.changes c.shared.item ∧
          (∀ change ∈ c.shared.changes, change.Follows) ∧
          (c.shared.inventoryStatus ≠ .inProgress → c'.shared.item = c.shared.item) := by
  intro h
  obtain ⟨c, hrun, hwrong⟩ : ∃ c : Interleaving Bool (Store Bool) Phase,
      Run program Anyhow (start Bool foundItem) c ∧
        decide (c.shared.corrections.map InventoryItemCorrection.trail ≠
          c.shared.changes.filterMap Change.trail) = true :=
    exists_run ([(true, .start itIsMissing "luis" true), (true, .findItem),
      (true, .prepare allAnswers 2)] ++ wholeCall false (.setFindingCategory (some "b")) 3 ++
        [(true, .selectItem), (true, .saveItem 4)]) (by decide +kernel)
  exact of_decide_eq_true hwrong (h c c hrun .refl).1

end Samples

end InternalControl.InventoryCorrections
