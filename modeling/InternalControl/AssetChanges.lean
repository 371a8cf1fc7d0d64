import InternalControl.AssetProcesses

/-!
# The service of assets

The changes of an asset by hand, and what a list of changes leaves. A request
reads the asset before its transaction, which locks the row and looks again.
-/

namespace InternalControl.Assets

open AssetProcesses Fallible

/-- The asset with an id, which may be changed. -/
def requireMutable (system : System) (id : RowId) : Except Failure Asset := do
  let asset ← findAsset system.assets id
  assertMutable asset
  return asset

/-- The asset is in no inventory that is planned or going on. -/
def assertNotUnderInventory (system : System) (id : RowId) : Except Failure Unit :=
  if inOpenInventory system id then refuse .assetUnderInventory else .ok ()

/-- The asset is in no open loan. -/
def assertNoActiveLoan (system : System) (id : RowId) : Except Failure Unit :=
  if inOpenLoan system id then refuse .assetHasActiveLoan else .ok ()

/-- The asset is in no open write-off. -/
def assertNotInOpenWriteOff (system : System) (id : RowId) : Except Failure Unit :=
  if inOpenWriteOff system none id then refuse .assetInOpenWriteOff else .ok ()

/-- A system with an asset changed. -/
def changeAsset (system : System) (change : AssetChange) : Except Failure System := do
  let (_, assets) ← applyWithin system.assets change
  return { system with assets := assets }

/-- The guard of a change of the status: the row is as the request saw it. -/
def statusGuard (seen target : OperationalStatus) (current : Asset) : Except Failure Unit := do
  assertMutable current
  if current.operationalStatus ≠ seen ∨ ¬canTransitionStatus current.operationalStatus target then
    refuse .assetInvalidStatusTransition

/-- Change the status of an asset: `before` is what the request read. -/
def changeStatus (before system : System) (id : RowId) (status : OperationalStatus) :
    Except Failure System := do
  let asset ← requireMutable before id
  assertNotUnderInventory before id
  assertNotInOpenWriteOff before id
  if status = .writtenOff then refuse .assetInvalidStatusTransition
  if !canTransitionStatus asset.operationalStatus status then refuse .assetInvalidStatusTransition
  changeAsset system
    { assetId := id
      patch := { operationalStatus := some status }
      guard := statusGuard asset.operationalStatus status }

/-- Write an asset off by hand. -/
def writeOff (before system : System) (id : RowId) : Except Failure System := do
  let asset ← requireMutable before id
  assertNotUnderInventory before asset.id
  assertNoActiveLoan before asset.id
  assertNotInOpenWriteOff before asset.id
  changeAsset system
    { assetId := id, patch := { operationalStatus := some .writtenOff }, guard := assertMutable }

/-- Edit the columns of an asset that are edited by hand: `outside` is what the
catalogues say. -/
def update (before system : System) (id : RowId) (locationId : Option (Option RowId))
    (physicalCondition : Option (Option PhysicalCondition)) (outside : Except Failure Unit) :
    Except Failure System := do
  let asset ← requireMutable before id
  assertNotUnderInventory before asset.id
  assertNoActiveLoan before asset.id
  assertNotInOpenWriteOff before asset.id
  outside
  changeAsset system
    { assetId := id
      patch := { locationId := locationId, physicalCondition := physicalCondition }
      guard := assertMutable }

/-- Put an asset in another place. -/
def reassignLocation (before system : System) (id locationId : RowId)
    (outside : Except Failure Unit) : Except Failure System := do
  let asset ← findAsset before.assets id
  assertNotWrittenOff asset
  assertNotUnderInventory before asset.id
  outside
  changeAsset system
    { assetId := id, patch := { locationId := some (some locationId) }
      guard := assertNotWrittenOff }

/-- Register a new asset: its columns were checked before. -/
def insertNew (system : System) (id costCenterId : RowId) (internalCode : String)
    (locationId responsibleId : Option RowId) (physicalCondition : Option PhysicalCondition) :
    Except Failure System :=
  if system.assets.any fun asset => asset.id = id then .error (.internal "duplicate key")
  else .ok { system with
    assets := system.assets ++
      [{ id := id
         internalCode := internalCode
         costCenterId := costCenterId
         locationId := locationId
         responsibleId := responsibleId
         operationalStatus := .inUse
         physicalCondition := physicalCondition.or (some .new)
         dataQualityFlags := [] }] }

/-- Make changes one after another. -/
def applyAll : List Asset → List AssetChange → Except Failure (List Asset)
  | assets, [] => .ok assets
  | assets, change :: rest => do
    let (_, assets) ← applyWithin assets change
    applyAll assets rest

/-! ### Changes and the assets on loan -/

/-- A change that leaves an asset on loan as it is, or does not go through on one. -/
def KeepsOnLoan (change : AssetChange) : Prop :=
  ∀ current, change.guard current = .ok () → current.operationalStatus = .onLoan →
    change.patch.operationalStatus.getD .onLoan = .onLoan

/-- A change of other columns leaves every asset its status. -/
theorem keepsOnLoan_of_patch {change : AssetChange} (h : change.patch.operationalStatus = none) :
    KeepsOnLoan change := by
  intro current _ _
  rw [h]
  rfl

/-- A change whose guard refuses the assets on loan leaves them as they are. -/
theorem keepsOnLoan_of_guard {change : AssetChange}
    (h : ∀ current, change.guard current = .ok () → current.operationalStatus ≠ .onLoan) :
    KeepsOnLoan change :=
  fun current hguard hstatus => absurd hstatus (h current hguard)

theorem assertMutable_eq_ok {asset : Asset} {result : Unit}
    (h : assertMutable asset = .ok result) :
    asset.operationalStatus ≠ .onLoan ∧ asset.operationalStatus ≠ .writtenOff := by
  unfold assertMutable at h
  obtain ⟨_, hwritten, h⟩ := bind_eq_ok h
  unfold assertNotWrittenOff at hwritten
  split at hwritten
  · cases hwritten
  next hnotWritten =>
  split at h
  · cases h
  next honLoan => exact ⟨honLoan, hnotWritten⟩

theorem statusGuard_eq_ok {seen target : OperationalStatus} {current : Asset} {result : Unit}
    (h : statusGuard seen target current = .ok result) : current.operationalStatus ≠ .onLoan := by
  unfold statusGuard at h
  obtain ⟨_, hmutable, _⟩ := bind_eq_ok h
  exact (assertMutable_eq_ok hmutable).1

/-- A write to one asset leaves the table its ids. -/
theorem updateAsset_map_id (assets : List Asset) (id : RowId) (patch : UpdateAssetRecord) :
    (updateAsset assets id patch).map Asset.id = assets.map Asset.id := by
  rw [updateAsset, List.map_map]
  refine List.map_congr_left fun asset _ => ?_
  rw [Function.comp_apply]
  split <;> rfl

theorem applyWithin_map_id {assets after : List Asset} {change : AssetChange} {current : Asset}
    (h : applyWithin assets change = .ok (current, after)) :
    after.map Asset.id = assets.map Asset.id := by
  obtain ⟨_, _, _, rfl⟩ := applyWithin_eq_ok h
  exact updateAsset_map_id assets change.assetId change.patch

/-- A step that leaves the assets of a set that are on loan where they are. -/
structure OnLoanKept (kept : RowId → Prop) (assets after : List Asset) : Prop where
  assetIds : (assets.map Asset.id).Nodup → (after.map Asset.id).Nodup
  onLoan : ∀ id, kept id → statusOf assets id = some .onLoan → statusOf after id = some .onLoan

section OnLoanKept

variable {kept : RowId → Prop} {assets after : List Asset}

theorem OnLoanKept.refl (assets : List Asset) : OnLoanKept kept assets assets :=
  ⟨id, fun _ _ h => h⟩

theorem OnLoanKept.trans {middle : List Asset} (h : OnLoanKept kept assets middle)
    (h' : OnLoanKept kept middle after) : OnLoanKept kept assets after :=
  ⟨fun hids => h'.assetIds (h.assetIds hids),
    fun id hkept hid => h'.onLoan id hkept (h.onLoan id hkept hid)⟩

/-- A change leaves an asset on loan when it is of another asset or keeps the assets on loan. -/
theorem applyWithin_onLoanKept {change : AssetChange} {current : Asset}
    (hchange : KeepsOnLoan change ∨ ¬kept change.assetId)
    (h : applyWithin assets change = .ok (current, after)) : OnLoanKept kept assets after := by
  refine ⟨fun hids => (applyWithin_map_id h).symm ▸ hids, fun id hkeep hid => ?_⟩
  obtain ⟨_, hstatus, hguard, rfl⟩ := applyWithin_eq_ok h
  rw [statusOf_updateAsset]
  by_cases hsame : id = change.assetId
  · subst hsame
    rw [hstatus] at hid
    have honLoan := (hchange.resolve_right (not_not_intro hkeep)) current hguard
      (Option.some.inj hid)
    rw [if_pos rfl, hstatus, Option.some.inj hid, Option.map_some, honLoan]
  · rw [if_neg hsame]
    exact hid

theorem applyAll_onLoanKept {changes : List AssetChange}
    (hchanges : ∀ change ∈ changes, KeepsOnLoan change ∨ ¬kept change.assetId)
    (h : applyAll assets changes = .ok after) : OnLoanKept kept assets after := by
  induction changes generalizing assets with
  | nil =>
    obtain rfl := Except.ok.inj h
    exact OnLoanKept.refl assets
  | cons change rest ih =>
    unfold applyAll at h
    obtain ⟨⟨current, table⟩, happly, h⟩ := bind_eq_ok h
    have hfirst := applyWithin_onLoanKept (hchanges change List.mem_cons_self) happly
    exact hfirst.trans (ih (fun other hother => hchanges other (List.mem_cons_of_mem _ hother)) h)

end OnLoanKept

/-- The loans are as they were, and so are the assets on loan. -/
structure LoansKept (system after : System) : Prop where
  loans : after.loans = system.loans
  loanEvents : after.loanEvents = system.loanEvents
  assets : OnLoanKept (fun _ => True) system.assets after.assets

theorem changeAsset_loansKept {system after : System} {change : AssetChange}
    (hchange : KeepsOnLoan change) (h : changeAsset system change = .ok after) :
    LoansKept system after := by
  unfold changeAsset at h
  obtain ⟨⟨current, table⟩, happly, h⟩ := bind_eq_ok h
  obtain rfl := Except.ok.inj h
  exact ⟨rfl, rfl, applyWithin_onLoanKept (Or.inl hchange) happly⟩

section ByHand

variable {before system after : System} {id : RowId}

theorem changeStatus_loansKept {status : OperationalStatus}
    (h : changeStatus before system id status = .ok after) : LoansKept system after := by
  unfold changeStatus at h
  obtain ⟨asset, _, h⟩ := bind_eq_ok h
  obtain ⟨_, _, h⟩ := bind_eq_ok h
  obtain ⟨_, _, h⟩ := bind_eq_ok h
  obtain ⟨_, h⟩ := check_eq_ok h
  obtain ⟨_, h⟩ := check_eq_ok h
  exact changeAsset_loansKept (keepsOnLoan_of_guard fun _ hguard => statusGuard_eq_ok hguard) h

theorem writeOff_loansKept (h : writeOff before system id = .ok after) :
    LoansKept system after := by
  unfold writeOff at h
  obtain ⟨asset, _, h⟩ := bind_eq_ok h
  obtain ⟨_, _, h⟩ := bind_eq_ok h
  obtain ⟨_, _, h⟩ := bind_eq_ok h
  obtain ⟨_, _, h⟩ := bind_eq_ok h
  exact changeAsset_loansKept
    (keepsOnLoan_of_guard fun _ hguard => (assertMutable_eq_ok hguard).1) h

theorem update_loansKept {locationId : Option (Option RowId)}
    {physicalCondition : Option (Option PhysicalCondition)} {outside : Except Failure Unit}
    (h : update before system id locationId physicalCondition outside = .ok after) :
    LoansKept system after := by
  unfold update at h
  obtain ⟨asset, _, h⟩ := bind_eq_ok h
  obtain ⟨_, _, h⟩ := bind_eq_ok h
  obtain ⟨_, _, h⟩ := bind_eq_ok h
  obtain ⟨_, _, h⟩ := bind_eq_ok h
  obtain ⟨_, _, h⟩ := bind_eq_ok h
  exact changeAsset_loansKept (keepsOnLoan_of_patch rfl) h

theorem reassignLocation_loansKept {locationId : RowId} {outside : Except Failure Unit}
    (h : reassignLocation before system id locationId outside = .ok after) :
    LoansKept system after := by
  unfold reassignLocation at h
  obtain ⟨asset, _, h⟩ := bind_eq_ok h
  obtain ⟨_, _, h⟩ := bind_eq_ok h
  obtain ⟨_, _, h⟩ := bind_eq_ok h
  obtain ⟨_, _, h⟩ := bind_eq_ok h
  exact changeAsset_loansKept (keepsOnLoan_of_patch rfl) h

theorem insertNew_loansKept {costCenterId : RowId} {internalCode : String}
    {locationId responsibleId : Option RowId} {physicalCondition : Option PhysicalCondition}
    (h : insertNew system id costCenterId internalCode locationId responsibleId
      physicalCondition = .ok after) : LoansKept system after := by
  unfold insertNew at h
  split at h
  · cases h
  next hfresh =>
  obtain rfl := Except.ok.inj h
  refine ⟨rfl, rfl, fun hids => ?_, fun other _ hother => ?_⟩
  · rw [List.map_append, List.nodup_append]
    refine ⟨hids, by simp, fun taken htaken new hnew hsame => ?_⟩
    obtain ⟨asset, hasset, rfl⟩ := List.mem_map.mp htaken
    obtain rfl := List.mem_singleton.mp hnew
    exact hfresh (List.any_eq_true.mpr ⟨asset, hasset, by simpa using hsame⟩)
  · rw [statusOf, List.find?_append]
    rw [statusOf] at hother
    cases hfound : system.assets.find? fun asset => asset.id = other with
    | none =>
      rw [hfound] at hother
      cases hother
    | some asset =>
      rw [hfound] at hother
      exact hother

end ByHand

end InternalControl.Assets
