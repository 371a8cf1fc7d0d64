import InternalControl.LoanedAssets

/-!
# Runs of loans, inventories, acts and changes by hand

Along a run every asset that is out stays on loan until it comes back, as long
as no reconciliation marks it as lost.
-/

namespace InternalControl.LoanedAssets

open Assets AssetProcesses Documents Fallible Inventories Loans

/-! ### What the services leave of the assets on loan -/

section Services

variable {before system after : System} {id : RowId}

/-- A step that writes other tables keeps loans and assets. -/
theorem loansKept_of_same (hloans : after.loans = system.loans)
    (hevents : after.loanEvents = system.loanEvents) (hassets : after.assets = system.assets) :
    LoansKept system after :=
  ⟨hloans, hevents, hassets ▸ OnLoanKept.refl after.assets⟩

theorem start_loansKept {inScope : Asset → Bool} {itemId : RowId → RowId}
    {outside : Except Failure Unit} (h : start system id inScope itemId outside = .ok after) :
    LoansKept system after := by
  unfold start at h
  obtain ⟨inventory, _, h⟩ := bind_eq_ok h
  obtain ⟨_, _, h⟩ := bind_eq_ok h
  obtain ⟨_, _, h⟩ := bind_eq_ok h
  obtain rfl := Except.ok.inj h
  exact loansKept_of_same rfl rfl rfl

theorem verifyAsset_loansKept {assetId : RowId} {locationId : Option RowId}
    {condition : Option Assets.PhysicalCondition} {outside : Except Failure Unit}
    (h : verifyAsset system id assetId locationId condition outside = .ok after) :
    LoansKept system after := by
  unfold verifyAsset at h
  obtain ⟨inventory, _, h⟩ := bind_eq_ok h
  obtain ⟨_, _, h⟩ := bind_eq_ok h
  obtain ⟨item, _, h⟩ := bind_eq_ok h
  obtain ⟨changed, hchange, h⟩ := bind_eq_ok h
  obtain rfl := Except.ok.inj h
  have hkept := changeAsset_loansKept (keepsOnLoan_of_patch rfl) hchange
  exact ⟨hkept.loans, hkept.loanEvents, hkept.assets⟩

theorem reportNotFound_loansKept {assetId : RowId} {outside : Except Failure Unit}
    (h : reportNotFound system id assetId outside = .ok after) : LoansKept system after := by
  unfold reportNotFound at h
  obtain ⟨inventory, _, h⟩ := bind_eq_ok h
  obtain ⟨item, _, h⟩ := bind_eq_ok h
  obtain ⟨_, _, h⟩ := bind_eq_ok h
  obtain rfl := Except.ok.inj h
  exact loansKept_of_same rfl rfl rfl

theorem reportUnexpected_loansKept {itemId : RowId} {assetId locationId : Option RowId}
    {condition : Option Assets.PhysicalCondition} {outside : Except Failure Unit}
    (h : reportUnexpected system id itemId assetId locationId condition outside = .ok after) :
    LoansKept system after := by
  unfold reportUnexpected at h
  obtain ⟨inventory, _, h⟩ := bind_eq_ok h
  obtain ⟨_, _, h⟩ := bind_eq_ok h
  obtain ⟨asset, _, h⟩ := bind_eq_ok h
  obtain rfl := Except.ok.inj h
  exact loansKept_of_same rfl rfl rfl

theorem correct_loansKept {itemId : RowId} {dto : CorrectInventoryItemDto} {changed : Bool}
    {outside : Except Failure Unit} (h : correct system id itemId dto changed outside = .ok after) :
    LoansKept system after := by
  unfold correct at h
  obtain ⟨inventory, _, h⟩ := bind_eq_ok h
  obtain ⟨item, _, h⟩ := bind_eq_ok h
  obtain ⟨_, h⟩ := check_eq_ok h
  obtain ⟨corrected, _, h⟩ := bind_eq_ok h
  obtain ⟨_, h⟩ := check_eq_ok h
  obtain rfl := Except.ok.inj h
  exact loansKept_of_same rfl rfl rfl

theorem voidSurplus_loansKept {itemId : RowId} {outside : Except Failure Unit}
    (h : voidSurplus system id itemId outside = .ok after) : LoansKept system after := by
  unfold voidSurplus at h
  obtain ⟨inventory, _, h⟩ := bind_eq_ok h
  obtain ⟨_, _, h⟩ := bind_eq_ok h
  obtain ⟨item, _, h⟩ := bind_eq_ok h
  obtain ⟨_, h⟩ := check_eq_ok h
  obtain rfl := Except.ok.inj h
  exact loansKept_of_same rfl rfl rfl

theorem close_loansKept {authorized outside : Except Failure Unit}
    (h : close system id authorized outside = .ok after) : LoansKept system after := by
  unfold close at h
  obtain ⟨inventory, _, h⟩ := bind_eq_ok h
  obtain ⟨_, _, h⟩ := bind_eq_ok h
  obtain ⟨_, _, h⟩ := bind_eq_ok h
  dsimp only at h
  split at h
  · obtain ⟨_, _, h⟩ := bind_eq_ok h
    obtain rfl := Except.ok.inj h
    exact loansKept_of_same rfl rfl rfl
  · obtain rfl := Except.ok.inj h
    exact loansKept_of_same rfl rfl rfl

theorem requestReconcile_loansKept {actorId : RowId} {outside : Except Failure Unit}
    (h : requestReconcile system id actorId outside = .ok after) : LoansKept system after := by
  unfold requestReconcile at h
  obtain ⟨inventory, _, h⟩ := bind_eq_ok h
  obtain ⟨_, h⟩ := check_eq_ok h
  obtain ⟨_, h⟩ := check_eq_ok h
  obtain ⟨_, h⟩ := check_eq_ok h
  obtain ⟨_, _, h⟩ := bind_eq_ok h
  obtain rfl := Except.ok.inj h
  exact loansKept_of_same rfl rfl rfl

variable {event : DocumentLifecycleEvent} {movement : RowId → RowId}

/-- A write-off writes no asset on loan off. -/
theorem writeOffSigned_loansKept (h : WriteOffs.onSigned system event movement = .ok after) :
    LoansKept system after := by
  unfold WriteOffs.onSigned at h
  obtain ⟨writeOff, _, h⟩ := bind_eq_ok h
  obtain ⟨_, _, h⟩ := bind_eq_ok h
  split at h
  · obtain rfl := Except.ok.inj h
    exact loansKept_of_same rfl rfl rfl
  · obtain ⟨_, _, h⟩ := bind_eq_ok h
    unfold WriteOffs.complete at h
    obtain ⟨table, happly, h⟩ := bind_eq_ok h
    obtain rfl := Except.ok.inj h
    refine ⟨rfl, rfl, applyAll_onLoanKept (fun change hchange => ?_) happly⟩
    obtain ⟨item, _, rfl⟩ := List.mem_map.mp hchange
    refine Or.inl (keepsOnLoan_of_guard fun current hguard honLoan => ?_)
    simp [WriteOffs.writeOffChange, WriteOffs.assertNotLent, honLoan, refuseWith] at hguard

theorem transferSigned_loansKept {linked : Except Failure Unit}
    (h : Transfers.onSigned system event movement linked = .ok after) :
    LoansKept system after := by
  unfold Transfers.onSigned at h
  obtain ⟨transfer, _, h⟩ := bind_eq_ok h
  obtain ⟨_, _, h⟩ := bind_eq_ok h
  split at h
  · obtain rfl := Except.ok.inj h
    exact loansKept_of_same rfl rfl rfl
  · obtain ⟨_, _, h⟩ := bind_eq_ok h
    obtain ⟨_, _, h⟩ := bind_eq_ok h
    unfold Transfers.complete at h
    obtain ⟨_, _, h⟩ := bind_eq_ok h
    obtain ⟨_, _, h⟩ := bind_eq_ok h
    obtain ⟨table, happly, h⟩ := bind_eq_ok h
    obtain rfl := Except.ok.inj h
    refine ⟨rfl, rfl, applyAll_onLoanKept (fun change hchange => ?_) happly⟩
    obtain ⟨item, _, rfl⟩ := List.mem_map.mp hchange
    exact Or.inl (keepsOnLoan_of_patch rfl)

theorem handoverSigned_loansKept {linked : Except Failure Unit}
    (h : Handovers.onSigned system event movement linked = .ok after) :
    LoansKept system after := by
  unfold Handovers.onSigned at h
  obtain ⟨handover, _, h⟩ := bind_eq_ok h
  obtain ⟨_, _, h⟩ := bind_eq_ok h
  obtain ⟨receiver, _, h⟩ := bind_eq_ok h
  obtain ⟨_, _, h⟩ := bind_eq_ok h
  obtain ⟨table, happly, h⟩ := bind_eq_ok h
  obtain rfl := Except.ok.inj h
  refine ⟨rfl, rfl, applyAll_onLoanKept (fun change hchange => ?_) happly⟩
  obtain ⟨item, _, rfl⟩ := List.mem_map.mp hchange
  exact Or.inl (keepsOnLoan_of_patch rfl)

end Services

/-! ### The reconciliation -/

section Reconciliation

variable {kept : RowId → Prop} {assets after : List Asset} {item : PhysicalInventoryItem}

theorem applyWhen_onLoanKept {needed : Bool} {change : List Asset → Except Failure (List Asset)}
    (hchange : needed = true → ∀ {assets after}, change assets = .ok after →
      OnLoanKept kept assets after)
    (h : applyWhen needed change assets = .ok after) : OnLoanKept kept assets after := by
  unfold applyWhen at h
  split at h
  · next hneeded => exact hchange hneeded h
  · obtain rfl := Except.ok.inj h
    exact OnLoanKept.refl assets

theorem applyLocation_onLoanKept (h : applyLocation item assets = .ok after) :
    OnLoanKept kept assets after := by
  unfold applyLocation at h
  split at h
  · obtain ⟨asset, _, h⟩ := bind_eq_ok h
    split at h
    · obtain rfl := Except.ok.inj h
      exact OnLoanKept.refl assets
    · refine applyAll_onLoanKept (fun change hchange => ?_) h
      obtain rfl := List.mem_singleton.mp hchange
      exact Or.inl (keepsOnLoan_of_patch rfl)
  · obtain rfl := Except.ok.inj h
    exact OnLoanKept.refl assets

theorem applyCondition_onLoanKept (h : applyCondition item assets = .ok after) :
    OnLoanKept kept assets after := by
  unfold applyCondition at h
  split at h
  · refine applyAll_onLoanKept (fun change hchange => ?_) h
    obtain rfl := List.mem_singleton.mp hchange
    exact Or.inl (keepsOnLoan_of_patch rfl)
  · obtain rfl := Except.ok.inj h
    exact OnLoanKept.refl assets

/-- Marking an asset as lost leaves the others on loan. -/
theorem applyLost_onLoanKept (hspared : ∀ assetId, item.assetId = some assetId → ¬kept assetId)
    (h : applyLost item assets = .ok after) : OnLoanKept kept assets after := by
  unfold applyLost at h
  split at h
  · obtain rfl := Except.ok.inj h
    exact OnLoanKept.refl assets
  next assetId hassetId =>
  obtain ⟨asset, _, h⟩ := bind_eq_ok h
  split at h
  · obtain rfl := Except.ok.inj h
    exact OnLoanKept.refl assets
  · refine applyAll_onLoanKept (fun change hchange => ?_) h
    obtain rfl := List.mem_singleton.mp hchange
    exact Or.inr (hspared assetId hassetId)

/-- A reconciliation marks the assets as lost that were not found. -/
theorem reconcileItem_onLoanKept
    (hspared : item.verificationResult = .missing → ∀ assetId, item.assetId = some assetId →
      ¬kept assetId)
    (h : reconcileItem assets item = .ok after) : OnLoanKept kept assets after := by
  unfold reconcileItem at h
  split at h
  · obtain rfl := Except.ok.inj h
    exact OnLoanKept.refl assets
  obtain ⟨located, hlocation, h⟩ := bind_eq_ok h
  obtain ⟨searched, hlost, h⟩ := bind_eq_ok h
  have hlocated : OnLoanKept kept assets located :=
    applyWhen_onLoanKept (fun _ => applyLocation_onLoanKept) hlocation
  have hsearched : OnLoanKept kept located searched :=
    applyWhen_onLoanKept
      (fun hmissing => applyLost_onLoanKept (hspared (of_decide_eq_true hmissing))) hlost
  have hwritten : OnLoanKept kept searched after :=
    applyWhen_onLoanKept (fun _ => applyCondition_onLoanKept) h
  exact (hlocated.trans hsearched).trans hwritten

theorem reconcileItems_onLoanKept {items : List PhysicalInventoryItem}
    (hspared : ∀ item ∈ items, item.verificationResult = .missing → ∀ assetId,
      item.assetId = some assetId → ¬kept assetId)
    (h : reconcileItems assets items = .ok after) : OnLoanKept kept assets after := by
  induction items generalizing assets with
  | nil =>
    obtain rfl := Except.ok.inj h
    exact OnLoanKept.refl assets
  | cons item rest ih =>
    unfold reconcileItems at h
    obtain ⟨table, hitem, h⟩ := bind_eq_ok h
    have hfirst := reconcileItem_onLoanKept (hspared item List.mem_cons_self) hitem
    exact hfirst.trans
      (ih (fun other hother => hspared other (List.mem_cons_of_mem _ hother)) h)

/-- The status of an asset stays, or becomes lost. -/
def Lostward (id : RowId) (assets after : List Asset) : Prop :=
  statusOf after id = statusOf assets id ∨ statusOf after id = some .lost

theorem Lostward.trans {id : RowId} {middle : List Asset} (h : Lostward id assets middle)
    (h' : Lostward id middle after) : Lostward id assets after := by
  rcases h' with hkept | hlost
  · exact h.imp (fun hsame => hkept.trans hsame) fun hlost => hkept.trans hlost
  · exact Or.inr hlost

/-- What one change leaves of the status of an asset. -/
theorem applyAll_statusOf {change : AssetChange} (id : RowId)
    (h : applyAll assets [change] = .ok after) :
    statusOf after id = if id = change.assetId then (statusOf assets id).map fun status =>
        change.patch.operationalStatus.getD status
      else statusOf assets id := by
  unfold applyAll at h
  obtain ⟨⟨current, table⟩, happly, h⟩ := bind_eq_ok h
  obtain rfl := Except.ok.inj h
  obtain ⟨_, _, _, rfl⟩ := applyWithin_eq_ok happly
  exact statusOf_updateAsset assets change.assetId id change.patch

/-- A change of other columns leaves every asset its status. -/
theorem applyAll_lostward {change : AssetChange} (id : RowId)
    (hpatch : change.patch.operationalStatus = none)
    (h : applyAll assets [change] = .ok after) : Lostward id assets after := by
  rw [Lostward, applyAll_statusOf id h, hpatch]
  by_cases hsame : id = change.assetId
  · rw [if_pos hsame]
    exact Or.inl Option.map_id'
  · rw [if_neg hsame]
    exact Or.inl rfl

theorem applyLocation_lostward (id : RowId) (h : applyLocation item assets = .ok after) :
    Lostward id assets after := by
  unfold applyLocation at h
  split at h
  · obtain ⟨asset, _, h⟩ := bind_eq_ok h
    split at h
    · obtain rfl := Except.ok.inj h
      exact Or.inl rfl
    · exact applyAll_lostward id rfl h
  · obtain rfl := Except.ok.inj h
    exact Or.inl rfl

theorem applyCondition_lostward (id : RowId) (h : applyCondition item assets = .ok after) :
    Lostward id assets after := by
  unfold applyCondition at h
  split at h
  · exact applyAll_lostward id rfl h
  · obtain rfl := Except.ok.inj h
    exact Or.inl rfl

/-- An asset that was not found is lost afterwards, unless it is written off. -/
theorem applyLost_lostward (id : RowId) (h : applyLost item assets = .ok after) :
    Lostward id assets after ∧ (item.assetId = some id → statusOf assets id ≠ some .writtenOff →
      statusOf after id = some .lost) := by
  unfold applyLost at h
  split at h
  · next hnone =>
    obtain rfl := Except.ok.inj h
    exact ⟨Or.inl rfl, fun hsome => by rw [hnone] at hsome; cases hsome⟩
  next assetId hassetId =>
  obtain ⟨asset, hfound, h⟩ := bind_eq_ok h
  obtain ⟨_, hstatus⟩ := findAsset_eq_ok hfound
  split at h
  · next hclosed =>
    obtain rfl := Except.ok.inj h
    refine ⟨Or.inl rfl, fun hsome hwritten => ?_⟩
    rw [hassetId] at hsome
    obtain rfl := Option.some.inj hsome
    rw [hstatus] at hwritten ⊢
    exact congrArg some (hclosed.resolve_right fun heq => hwritten (congrArg some heq))
  · have hafter := applyAll_statusOf id h
    by_cases hsame : id = assetId
    · subst hsame
      rw [if_pos rfl, hstatus] at hafter
      exact ⟨Or.inr hafter, fun _ _ => hafter⟩
    · rw [if_neg hsame] at hafter
      refine ⟨Or.inl hafter, fun hsome => ?_⟩
      rw [hassetId] at hsome
      exact absurd (Option.some.inj hsome).symm hsame

theorem applyWhen_lostward {needed : Bool} {change : List Asset → Except Failure (List Asset)}
    {id : RowId} (hchange : ∀ {assets after}, change assets = .ok after → Lostward id assets after)
    (h : applyWhen needed change assets = .ok after) : Lostward id assets after := by
  unfold applyWhen at h
  split at h
  · exact hchange h
  · obtain rfl := Except.ok.inj h
    exact Or.inl rfl

/-- What the reconciliation of an item does to an asset on loan. -/
theorem reconcileItem_lostward (id : RowId) (h : reconcileItem assets item = .ok after) :
    Lostward id assets after ∧ (item.verificationResult = .missing → item.assetId = some id →
      statusOf assets id = some .onLoan ∨ statusOf assets id = some .lost →
        statusOf after id = some .lost) := by
  unfold reconcileItem at h
  split at h
  · next hnone =>
    obtain rfl := Except.ok.inj h
    refine ⟨Or.inl rfl, fun _ hsome => ?_⟩
    rw [hsome] at hnone
    cases hnone
  obtain ⟨located, hlocation, h⟩ := bind_eq_ok h
  obtain ⟨searched, hlost, h⟩ := bind_eq_ok h
  have hlocated : Lostward id assets located :=
    applyWhen_lostward (applyLocation_lostward id) hlocation
  have hwritten : Lostward id searched after :=
    applyWhen_lostward (applyCondition_lostward id) h
  refine ⟨(hlocated.trans
    (applyWhen_lostward (fun hok => (applyLost_lostward id hok).1) hlost)).trans hwritten, ?_⟩
  intro hmissing hassetId hbefore
  have hmarked : statusOf searched id = some .lost := by
    rw [applyWhen, if_pos (decide_eq_true hmissing)] at hlost
    refine (applyLost_lostward id hlost).2 hassetId ?_
    rcases hlocated with hkept | hkept <;> rw [hkept]
    · rcases hbefore with hbefore | hbefore <;> rw [hbefore] <;> decide
    · decide
  rcases hwritten with hkept | hkept
  · exact hkept.trans hmarked
  · exact hkept

/-- An asset on loan that was not found is lost after the reconciliation. -/
theorem reconcileItems_lost {items : List PhysicalInventoryItem} {id : RowId}
    (hstatus : statusOf assets id = some .onLoan ∨ statusOf assets id = some .lost)
    (h : reconcileItems assets items = .ok after) :
    (statusOf after id = some .onLoan ∨ statusOf after id = some .lost) ∧
      (statusOf assets id = some .lost ∨
        (∃ item ∈ items, item.verificationResult = .missing ∧ item.assetId = some id) →
          statusOf after id = some .lost) := by
  induction items generalizing assets with
  | nil =>
    obtain rfl := Except.ok.inj h
    refine ⟨hstatus, fun hsome => hsome.resolve_right ?_⟩
    rintro ⟨item, hitem, _⟩
    exact List.not_mem_nil hitem
  | cons item rest ih =>
    unfold reconcileItems at h
    obtain ⟨table, hitem, h⟩ := bind_eq_ok h
    obtain ⟨hward, hmarked⟩ := reconcileItem_lostward id hitem
    have htable : statusOf table id = some .onLoan ∨ statusOf table id = some .lost := by
      rcases hward with hkept | hlost
      · rw [hkept]
        exact hstatus
      · exact Or.inr hlost
    obtain ⟨hafter, hlost⟩ := ih htable h
    refine ⟨hafter, fun hcause => hlost ?_⟩
    rcases hcause with hbefore | ⟨other, hother, hmissing, hassetId⟩
    · refine Or.inl ?_
      rcases hward with hkept | hward
      · exact hkept.trans hbefore
      · exact hward
    · rcases List.mem_cons.mp hother with rfl | hother
      · exact Or.inl (hmarked hmissing hassetId hstatus)
      · exact Or.inr ⟨other, hother, hmissing, hassetId⟩

end Reconciliation

/-- No asset the inventory did not find is out: `before` is what the request for
the reconciliation read. -/
def SparesLoaned (before system : System) (id : RowId) : Prop :=
  ∀ inventory, requireInventory before id = .ok inventory → ∀ item ∈ inventory.items,
    item.verificationResult = .missing → ∀ assetId, item.assetId = some assetId →
      lentOut system assetId = false

/-- What an approved reconciliation has done. -/
theorem approveReconcile_eq_ok {before system after : System} {id actorId : RowId}
    {outside : Except Failure Unit}
    (hok : approveReconcile before system id actorId outside = .ok after) :
    ∃ inventory, requireInventory before id = .ok inventory ∧
      reconcileItems system.assets inventory.items = .ok after.assets ∧
      after.loans = system.loans ∧ after.loanEvents = system.loanEvents := by
  unfold approveReconcile at hok
  obtain ⟨inventory, hinventory, hok⟩ := bind_eq_ok hok
  obtain ⟨_, hok⟩ := check_eq_ok hok
  obtain ⟨_, hok⟩ := check_eq_ok hok
  obtain ⟨_, hok⟩ := check_eq_ok hok
  obtain ⟨_, _, hok⟩ := bind_eq_ok hok
  obtain ⟨table, hreconcile, hok⟩ := bind_eq_ok hok
  obtain rfl := Except.ok.inj hok
  exact ⟨inventory, hinventory, hreconcile, rfl, rfl⟩

theorem lent_of_approveReconcile {before system after : System} {id actorId : RowId}
    {outside : Except Failure Unit}
    (hok : approveReconcile before system id actorId outside = .ok after)
    (hspared : SparesLoaned before system id) (h : Lent system) : Lent after := by
  obtain ⟨inventory, hinventory, hreconcile, hloans, hevents⟩ := approveReconcile_eq_ok hok
  have hkept : OnLoanKept (fun assetId => lentOut system assetId = true) system.assets
      after.assets := by
    refine reconcileItems_onLoanKept (fun item hitem hmissing assetId hassetId => ?_) hreconcile
    rw [hspared inventory hinventory item hitem hmissing assetId hassetId]
    exact Bool.false_ne_true
  exact h.of_kept hloans (h.base.elsewhere hloans hevents (hkept.assetIds h.base.assetIds))
    fun assetId hlent => hkept.onLoan assetId hlent (h.statusOf_lentOut hlent)

/-- A reconciliation keeps the assets that are out on loan only if it spares them. -/
theorem spares_of_loanedOnLoan {before system after : System} {id actorId : RowId}
    {outside : Except Failure Unit}
    (hok : approveReconcile before system id actorId outside = .ok after) (h : Lent system)
    (hafter : LoanedOnLoan after) : SparesLoaned before system id := by
  intro inventory hinventory item hitem hmissing assetId hassetId
  obtain ⟨found, hfound, hreconcile, hloans, _⟩ := approveReconcile_eq_ok hok
  obtain rfl := Except.ok.inj (hinventory.symm.trans hfound)
  rw [Bool.eq_false_iff]
  intro hlent
  have hlost := (reconcileItems_lost (Or.inl (h.statusOf_lentOut hlent)) hreconcile).2
    (Or.inr ⟨item, hitem, hmissing, hassetId⟩)
  have hstill : lentOut after assetId = true := by
    rw [lentOut, hloans]
    exact hlent
  obtain ⟨asset, hasset, honLoan, _⟩ := hafter assetId hstill
  have hstatus := (findAsset_eq_ok hasset).2
  rw [honLoan, hlost] at hstatus
  cases hstatus

/-! ### Runs -/

/-- A committed step of the services. A reconciliation names the inventory and
what its request read. -/
inductive SystemStep (calendar : Calendar) : Option (System × RowId) → System → System → Prop
  | loan {system after} (h : LoanOperation calendar system after) :
      SystemStep calendar none system after
  | statusChanged {system after} (before : System) (id : RowId) (status : Assets.OperationalStatus)
      (h : changeStatus before system id status = .ok after) :
      SystemStep calendar none system after
  | writtenOff {system after} (before : System) (id : RowId)
      (h : Assets.writeOff before system id = .ok after) : SystemStep calendar none system after
  | updated {system after} (before : System) (id : RowId) (locationId : Option (Option RowId))
      (physicalCondition : Option (Option Assets.PhysicalCondition)) (outside : Except Failure Unit)
      (h : Assets.update before system id locationId physicalCondition outside = .ok after) :
      SystemStep calendar none system after
  | relocated {system after} (before : System) (id locationId : RowId)
      (outside : Except Failure Unit)
      (h : reassignLocation before system id locationId outside = .ok after) :
      SystemStep calendar none system after
  | registered {system after} (id costCenterId : RowId) (internalCode : String)
      (locationId responsibleId : Option RowId) (physicalCondition : Option Assets.PhysicalCondition)
      (h : insertNew system id costCenterId internalCode locationId responsibleId
        physicalCondition = .ok after) : SystemStep calendar none system after
  | inventoryStarted {system after} (id : RowId) (inScope : Asset → Bool)
      (itemId : RowId → RowId) (outside : Except Failure Unit)
      (h : start system id inScope itemId outside = .ok after) :
      SystemStep calendar none system after
  | verified {system after} (id assetId : RowId) (locationId : Option RowId)
      (condition : Option Assets.PhysicalCondition) (outside : Except Failure Unit)
      (h : verifyAsset system id assetId locationId condition outside = .ok after) :
      SystemStep calendar none system after
  | notFound {system after} (id assetId : RowId) (outside : Except Failure Unit)
      (h : reportNotFound system id assetId outside = .ok after) :
      SystemStep calendar none system after
  | unexpected {system after} (id itemId : RowId) (assetId locationId : Option RowId)
      (condition : Option Assets.PhysicalCondition) (outside : Except Failure Unit)
      (h : reportUnexpected system id itemId assetId locationId condition outside = .ok after) :
      SystemStep calendar none system after
  | corrected {system after} (id itemId : RowId) (dto : CorrectInventoryItemDto)
      (changed : Bool) (outside : Except Failure Unit)
      (h : correct system id itemId dto changed outside = .ok after) :
      SystemStep calendar none system after
  | surplusVoided {system after} (id itemId : RowId) (outside : Except Failure Unit)
      (h : voidSurplus system id itemId outside = .ok after) :
      SystemStep calendar none system after
  | inventoryClosed {system after} (id : RowId) (authorized outside : Except Failure Unit)
      (h : close system id authorized outside = .ok after) :
      SystemStep calendar none system after
  | reconcileRequested {system after} (id actorId : RowId) (outside : Except Failure Unit)
      (h : requestReconcile system id actorId outside = .ok after) :
      SystemStep calendar none system after
  | reconciled {system after} (before : System) (id actorId : RowId)
      (outside : Except Failure Unit)
      (h : approveReconcile before system id actorId outside = .ok after) :
      SystemStep calendar (some (before, id)) system after
  | writeOffSigned {system after} (event : DocumentLifecycleEvent) (movement : RowId → RowId)
      (h : WriteOffs.onSigned system event movement = .ok after) :
      SystemStep calendar none system after
  | transferSigned {system after} (event : DocumentLifecycleEvent) (movement : RowId → RowId)
      (linked : Except Failure Unit)
      (h : Transfers.onSigned system event movement linked = .ok after) :
      SystemStep calendar none system after
  | handoverSigned {system after} (event : DocumentLifecycleEvent) (movement : RowId → RowId)
      (linked : Except Failure Unit)
      (h : Handovers.onSigned system event movement linked = .ok after) :
      SystemStep calendar none system after
  /-- A write to the other tables: transfers, handovers, requests, write-offs and plans. -/
  | elsewhere {system after} (hloans : after.loans = system.loans)
      (hevents : after.loanEvents = system.loanEvents) (hassets : after.assets = system.assets) :
      SystemStep calendar none system after

/-- A step of which a reconciliation spares the assets that are out. -/
def SparingStep (calendar : Calendar) (system after : System) : Prop :=
  ∃ label, SystemStep calendar label system after ∧
    ∀ before id, label = some (before, id) → SparesLoaned before system id

/-- A sparing step keeps the invariant. -/
theorem lent_of_step {calendar : Calendar} {label : Option (System × RowId)}
    {system after : System} (hstep : SystemStep calendar label system after)
    (hspared : ∀ before id, label = some (before, id) → SparesLoaned before system id)
    (h : Lent system) : Lent after := by
  cases hstep with
  | loan hoperation => exact lent_of_effect (hoperation.effect h.base.assetIds) h
  | statusChanged _ _ _ hok => exact lent_of_loansKept (changeStatus_loansKept hok) h
  | writtenOff _ _ hok => exact lent_of_loansKept (writeOff_loansKept hok) h
  | updated _ _ _ _ _ hok => exact lent_of_loansKept (update_loansKept hok) h
  | relocated _ _ _ _ hok => exact lent_of_loansKept (reassignLocation_loansKept hok) h
  | registered _ _ _ _ _ _ hok => exact lent_of_loansKept (insertNew_loansKept hok) h
  | inventoryStarted _ _ _ _ hok => exact lent_of_loansKept (start_loansKept hok) h
  | verified _ _ _ _ _ hok => exact lent_of_loansKept (verifyAsset_loansKept hok) h
  | notFound _ _ _ hok => exact lent_of_loansKept (reportNotFound_loansKept hok) h
  | unexpected _ _ _ _ _ _ hok => exact lent_of_loansKept (reportUnexpected_loansKept hok) h
  | corrected _ _ _ _ _ hok => exact lent_of_loansKept (correct_loansKept hok) h
  | surplusVoided _ _ _ hok => exact lent_of_loansKept (voidSurplus_loansKept hok) h
  | inventoryClosed _ _ _ hok => exact lent_of_loansKept (close_loansKept hok) h
  | reconcileRequested _ _ _ hok => exact lent_of_loansKept (requestReconcile_loansKept hok) h
  | reconciled before id _ _ hok => exact lent_of_approveReconcile hok (hspared before id rfl) h
  | writeOffSigned _ _ hok => exact lent_of_loansKept (writeOffSigned_loansKept hok) h
  | transferSigned _ _ _ hok => exact lent_of_loansKept (transferSigned_loansKept hok) h
  | handoverSigned _ _ _ hok => exact lent_of_loansKept (handoverSigned_loansKept hok) h
  | elsewhere hloans hevents hassets =>
    exact lent_of_loansKept (loansKept_of_same hloans hevents hassets) h

/-- A system no loan has been made in has nothing lent. -/
theorem lent_of_withoutLoans {system : System} (h : WithoutLoans system) : Lent system := by
  refine ⟨h.invariant, ?_, ?_, ?_⟩ <;> simp [h.loans]

theorem lent_of_run {calendar : Calendar} {start system : System} (hstart : Lent start)
    (hrun : Relation.ReflTransGen (SparingStep calendar) start system) : Lent system := by
  induction hrun with
  | refl => exact hstart
  | tail _ hstep ih =>
    obtain ⟨_, hstep, hspared⟩ := hstep
    exact lent_of_step hstep hspared ih

/-- In every run whose reconciliations spare the assets that are out, every
asset that is out is on loan in every state, and stays so over the next
reconciliation exactly when that one spares them too. -/
theorem loanedOnLoan_of_run {calendar : Calendar} {start system : System}
    (hstart : WithoutLoans start)
    (hrun : Relation.ReflTransGen (SparingStep calendar) start system) :
    LoanedOnLoan system ∧ ∀ before after id actorId outside,
      approveReconcile before system id actorId outside = .ok after →
        (LoanedOnLoan after ↔ SparesLoaned before system id) := by
  have hlent := lent_of_run (lent_of_withoutLoans hstart) hrun
  refine ⟨hlent.loanedOnLoan, fun before after id actorId outside hok => ⟨?_, ?_⟩⟩
  · exact spares_of_loanedOnLoan hok hlent
  · exact fun hspared => (lent_of_approveReconcile hok hspared hlent).loanedOnLoan

/-! ### A loaned asset that an inventory does not find -/

/-- The inventory of the centre that lends. -/
def yearEnd : RowId := ⟨"i1", by decide⟩

/-- The plan of the inventory. -/
def planned (system : System) : System :=
  { system with inventories := [⟨yearEnd, .planned, asker, none, []⟩] }

def begin (system : System) : Except Failure System :=
  start system yearEnd (fun _ => true) id (.ok ())

/-- The projector is not in its place. -/
def missProjector (system : System) : Except Failure System :=
  reportNotFound system yearEnd projector (.ok ())

def finish (system : System) : Except Failure System := close system yearEnd (.ok ()) (.ok ())

def askReconcile (system : System) : Except Failure System :=
  requestReconcile system yearEnd asker (.ok ())

def reconcile (system : System) : Except Failure System :=
  approveReconcile system system yearEnd decider (.ok ())

/-- The system once the reconciliation is asked for. -/
def countedSystem : System :=
  attempt askReconcile (attempt finish (attempt missProjector (attempt begin
    (planned lentSystem))))

/-- A run of the service of loans is a run of the services. -/
theorem run_of_loans {calendar : Calendar} {start system : System}
    (hrun : Relation.ReflTransGen (LoanOperation calendar) start system) :
    Relation.ReflTransGen (SparingStep calendar) start system :=
  hrun.lift id fun _ _ hoperation => ⟨none, .loan hoperation, nofun⟩

theorem countedSystem_run :
    Relation.ReflTransGen (SparingStep plainCalendar) twoAssets countedSystem := by
  have hplanned : Relation.ReflTransGen (SparingStep plainCalendar) twoAssets
      (planned lentSystem) :=
    (run_of_loans lentSystem_operations).tail ⟨none, .elsewhere rfl rfl rfl, nofun⟩
  refine run_attempt askReconcile (run_attempt finish (run_attempt missProjector
    (run_attempt begin hplanned ?_ ?_) ?_ ?_) ?_ ?_) ?_ ?_
  · exact fun after h => ⟨none, .inventoryStarted _ _ _ _ h, nofun⟩
  · decide +kernel
  · exact fun after h => ⟨none, .notFound _ _ _ h, nofun⟩
  · decide +kernel
  · exact fun after h => ⟨none, .inventoryClosed _ _ _ h, nofun⟩
  · decide +kernel
  · exact fun after h => ⟨none, .reconcileRequested _ _ _ h, nofun⟩
  · decide +kernel

/-- The reconciliation of an inventory that did not find the projector takes it
off its loan. -/
theorem reconcile_loses_projector :
    ¬∀ (calendar : Calendar) (start system : System), WithoutLoans start →
      Relation.ReflTransGen (fun state next => ∃ label, SystemStep calendar label state next)
        start system → LoanedOnLoan system := by
  intro h
  have hcounted : Relation.ReflTransGen
      (fun state next => ∃ label, SystemStep plainCalendar label state next)
      twoAssets countedSystem :=
    countedSystem_run.lift id fun _ _ ⟨label, hstep, _⟩ => ⟨label, hstep⟩
  have hrun := run_attempt reconcile hcounted
    (fun after hok => ⟨_, .reconciled _ _ _ _ hok⟩) (by decide +kernel)
  have hlent : lentOut (attempt reconcile countedSystem) projector = true := by decide +kernel
  have hlost : statusOf (attempt reconcile countedSystem).assets projector = some .lost := by
    decide +kernel
  obtain ⟨asset, hasset, honLoan, _⟩ := h _ _ _ ⟨rfl, rfl, by decide⟩ hrun projector hlent
  have hstatus := (findAsset_eq_ok hasset).2
  rw [honLoan, hlost] at hstatus
  cases hstatus

/-- Before the reconciliation the projector is on loan, and it stays so exactly
when the reconciliation spares it. -/
theorem loanedOnLoan_of_run_projector :
    LoanedOnLoan countedSystem ∧ ∀ after, reconcile countedSystem = .ok after →
      (LoanedOnLoan after ↔ SparesLoaned countedSystem countedSystem yearEnd) := by
  have hrun := loanedOnLoan_of_run ⟨rfl, rfl, by decide⟩ countedSystem_run
  exact ⟨hrun.1, fun after hok => hrun.2 _ _ _ _ _ hok⟩

end InternalControl.LoanedAssets
