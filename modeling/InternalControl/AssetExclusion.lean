import InternalControl.AssetPrograms

/-!
# What the services see before they take assets

Which holds each service looks for under its locks, and what its write takes.
Each transaction is careful about every exclusion that its service covers.
-/

namespace InternalControl.AssetExclusion

open Assets AssetProcesses Documents Fallible RowLocks AssetHolds AssetPrograms

/-- The mode in which a hold has its asset locked: a handover shares it. -/
def holdMode : Hold → Mode
  | .handover => .share
  | _ => .update

/-- The holds of the rows: those of the assets. -/
def rowHeld (hold : Hold) : Row → System → Prop
  | .asset id, system => Holds system id hold
  | _, _ => False

/-- The holds of the assets, with those that exclude each other. -/
def assetExclusion (excludes : Hold → Hold → Prop)
    (symm : ∀ {hold other}, excludes hold other → excludes other hold) :
    Exclusion System Row Hold where
  held := rowHeld
  mode := holdMode
  Excludes := excludes
  symm := symm

/-- Holds are apart when they are on every asset. -/
theorem apart_iff {excludes : Hold → Hold → Prop}
    {symm : ∀ {hold other}, excludes hold other → excludes other hold} {system : System} :
    (assetExclusion excludes symm).Apart system ↔
      ∀ hold other assetId, excludes hold other → Holds system assetId hold →
        ¬Holds system assetId other := by
  constructor
  · exact fun h hold other assetId => h hold other (.asset assetId)
  · intro h hold other row hexcludes hhold
    cases row with
    | asset assetId => exact h hold other assetId hexcludes hhold
    | _ => exact hhold.elim

/-! ### What the checks see -/

section Checks

variable {system : System} {assetId : RowId}

theorem not_loan_of (h : inOpenLoan system assetId = false) (origin : Option RowId) :
    ¬Holds system assetId (.loan origin) := by
  rintro ⟨loan, hloan, _, hholds⟩
  exact Bool.false_ne_true (h.symm.trans (List.any_eq_true.mpr ⟨loan, hloan, hholds⟩))

theorem not_transfer_of (h : inOpenTransfer system none assetId = false) (origin : Option RowId) :
    ¬Holds system assetId (.transfer origin) := by
  rintro ⟨transfer, htransfer, _, hheld⟩
  refine Bool.false_ne_true (h.symm.trans (List.any_eq_true.mpr ⟨transfer, htransfer, ?_⟩))
  simpa using hheld

theorem not_handover_of (h : inOpenHandover system assetId = false) :
    ¬Holds system assetId .handover := by
  rintro ⟨handover, hhandover, hheld⟩
  exact Bool.false_ne_true (h.symm.trans (List.any_eq_true.mpr ⟨handover, hhandover, hheld⟩))

theorem not_reserved_of {exceptRequest : Option RowId} {requestId : RowId}
    (h : isReserved system exceptRequest assetId = false) (hne : some requestId ≠ exceptRequest) :
    ¬Holds system assetId (.reservation requestId) := by
  rintro ⟨request, hrequest, rfl, hheld⟩
  refine Bool.false_ne_true (h.symm.trans (List.any_eq_true.mpr ⟨request, hrequest, ?_⟩))
  simp [hne, hheld]

theorem not_writeOff_of (h : inOpenWriteOff system none assetId = false) :
    ¬Holds system assetId .writeOff := by
  rintro ⟨writeOff, hwriteOff, hheld⟩
  refine Bool.false_ne_true (h.symm.trans (List.any_eq_true.mpr ⟨writeOff, hwriteOff, ?_⟩))
  simpa using hheld

/-- A reason that is not given is a hold that is not there. -/
theorem not_held_of_none {held : Bool} {text : String}
    (h : (if held then some text else none) = none) : held = false := by
  cases held with
  | false => rfl
  | true => cases h

theorem mem_of_lockedAssets {assetIds : List RowId} {assets : List Asset}
    (h : Loans.lockedAssets system assetIds = .ok assets) :
    ∀ asset ∈ assets, asset.id ∈ assetIds.dedup := by
  unfold Loans.lockedAssets at h
  dsimp only at h
  split at h
  · cases h
  · obtain rfl := Except.ok.inj h
    intro asset hasset
    simpa using (List.mem_filter.mp hasset).2

theorem assertNotWritingOff_eq_ok {assets : List Asset} {result : Unit}
    (h : Loans.assertNotWritingOff system assets = .ok result) :
    ∀ asset ∈ assets, inOpenWriteOff system none asset.id = false := by
  unfold Loans.assertNotWritingOff at h
  split at h
  · cases h
  · next hnone => simpa using hnone

/-- Of a list that is searched and loses nothing, each one is found. -/
theorem exists_of_length_filterMap {α β : Type} {find : α → Option β} {list : List α}
    (h : (list.filterMap find).length = list.length) :
    ∀ x ∈ list, ∃ y ∈ list.filterMap find, find x = some y := by
  intro x hx
  obtain ⟨y, hy⟩ := Option.isSome_iff_exists.mp (List.filterMap_length_eq_length.mp h x hx)
  exact ⟨y, List.mem_filterMap.mpr ⟨x, hx, hy⟩, hy⟩

theorem failOn_eq_ok {code : ErrorCode} {assets : List Asset} {message : Asset → String}
    {result : Unit} (h : Transfers.failOn code assets message = .ok result) : assets = [] := by
  unfold Transfers.failOn at h
  split at h
  · cases h
  · next hnil => exact not_not.mp hnil

/-- The assets that a transfer finds free are in no open loan and no open write-off. -/
theorem transferFree_eq_ok {assetIds : List RowId} {expectedSource ownTransfer : Option RowId}
    {source : Option RowId}
    (h : Transfers.assertFree system assetIds expectedSource ownTransfer = .ok source) :
    ∀ id ∈ assetIds, inOpenLoan system id = false ∧ inOpenWriteOff system none id = false := by
  unfold Transfers.assertFree at h
  obtain ⟨hlength, h⟩ := check_eq_ok h
  obtain ⟨_, _, h⟩ := bind_eq_ok h
  obtain ⟨_, _, h⟩ := bind_eq_ok h
  obtain ⟨_, _, h⟩ := bind_eq_ok h
  obtain ⟨_, _, h⟩ := bind_eq_ok h
  obtain ⟨_, hloan, h⟩ := bind_eq_ok h
  obtain ⟨_, _, h⟩ := bind_eq_ok h
  obtain ⟨_, hwriteOff, h⟩ := bind_eq_ok h
  intro id hid
  obtain ⟨asset, hasset, hfound⟩ := exists_of_length_filterMap (not_not.mp hlength) id hid
  have hsame : asset.id = id := by simpa using List.find?_some hfound
  have hnoLoan := List.filter_eq_nil_iff.mp (failOn_eq_ok hloan) asset hasset
  have hnoWriteOff := List.filter_eq_nil_iff.mp (failOn_eq_ok hwriteOff) asset hasset
  rw [hsame, Bool.not_eq_true] at hnoLoan hnoWriteOff
  exact ⟨hnoLoan, hnoWriteOff⟩

/-- The assets that a handover asks for are in the table. -/
theorem assertAssets_eq_ok {assetIds : List RowId} {costCenterId : RowId}
    {centerCode : RowId → String} {result : Unit}
    (h : Handovers.assertAssets system assetIds costCenterId centerCode = .ok result) :
    ∀ id ∈ assetIds, ¬Holds system id .missing := by
  unfold Handovers.assertAssets at h
  dsimp only at h
  split at h
  · cases h
  next hmissing =>
  intro id hid hnone
  have hnot := List.filter_eq_nil_iff.mp (not_not.mp hmissing) id hid
  rw [Holds] at hnone
  exact hnot (Option.isNone_iff_eq_none.mpr hnone)

/-- The holds besides its own that a handover looks for. -/
def handoverSees : Hold → Prop
  | .loan _ => True
  | .transfer _ => True
  | .reservation _ => True
  | .writeOff => True
  | _ => False

theorem assertNotHeld_eq_ok {assetIds : List RowId} {result : Unit}
    (h : Handovers.assertNotHeld system assetIds = .ok result) {id : RowId} (hid : id ∈ assetIds)
    (hthere : ¬Holds system id .missing) {other : Hold} (hsees : handoverSees other) :
    ¬Holds system id other := by
  unfold Handovers.assertNotHeld at h
  dsimp only at h
  split at h
  · cases h
  next hblocked =>
  obtain ⟨asset, hfound⟩ : ∃ asset, system.assets.find? (fun asset => asset.id = id) = some asset := by
    rw [Holds, statusOf, Option.map_eq_none_iff, ← ne_eq, Option.ne_none_iff_exists'] at hthere
    exact hthere
  have hsame : asset.id = id := by simpa using List.find?_some hfound
  have hasset : asset ∈ Handovers.foundAssets system assetIds :=
    List.mem_filter.mpr ⟨List.mem_of_find?_eq_some hfound, by simpa [hsame] using hid⟩
  have hreasons := List.filter_eq_nil_iff.mp (not_not.mp hblocked) asset hasset
  rw [decide_eq_true_eq, ne_eq, not_not, Handovers.heldReasons, holdReasons_eq_nil_iff, hsame]
    at hreasons
  simp only [List.forall_mem_cons] at hreasons
  obtain ⟨hloan, hreserved, htransfer, hwriteOff, _⟩ := hreasons
  cases other with
  | loan origin => exact not_loan_of (not_held_of_none hloan) origin
  | transfer origin => exact not_transfer_of (not_held_of_none htransfer) origin
  | reservation requestId => exact not_reserved_of (not_held_of_none hreserved) (by intro h; cases h)
  | writeOff => exact not_writeOff_of (not_held_of_none hwriteOff)
  | _ => exact hsees.elim

/-- The holds besides its own that a request looks for. -/
def requestSees : Hold → Prop
  | .loan _ => True
  | .transfer _ => True
  | .writeOff => True
  | _ => False

theorem assertEligible_eq_ok {request : AssetRequest} {assetIds : List RowId} {result : Unit}
    (h : AssetRequests.assertEligible system request assetIds = .ok result) {id : RowId}
    (hid : id ∈ assetIds) {other : Hold} (hsees : requestSees other) :
    ¬Holds system id other := by
  unfold AssetRequests.assertEligible at h
  dsimp only at h
  split at h
  · cases h
  next hlength =>
  split at h
  · cases h
  next hblocked =>
  obtain ⟨asset, hasset, hfound⟩ := exists_of_length_filterMap (not_not.mp hlength) id hid
  have hsame : asset.id = id := by
    have hboth := List.find?_some hfound
    rw [Bool.and_eq_true, decide_eq_true_eq] at hboth
    exact hboth.1
  have hreasons := List.filter_eq_nil_iff.mp (not_not.mp hblocked) asset hasset
  rw [decide_eq_true_eq, ne_eq, not_not, AssetRequests.blockers, holdReasons_eq_nil_iff, hsame]
    at hreasons
  simp only [List.forall_mem_cons] at hreasons
  obtain ⟨_, hloan, htransfer, _, _, hwriteOff, _⟩ := hreasons
  cases other with
  | loan origin => exact not_loan_of (not_held_of_none hloan) origin
  | transfer origin => exact not_transfer_of (not_held_of_none htransfer) origin
  | writeOff => exact not_writeOff_of (not_held_of_none hwriteOff)
  | _ => exact hsees.elim

/-- The holds besides its own that a write-off looks for. -/
def writeOffSees : Hold → Prop
  | .loan _ => True
  | .transfer _ => True
  | .handover => True
  | .reservation _ => True
  | _ => False

theorem writeOffFree_eq_ok {assetIds : List RowId} {ownWriteOff : Option RowId} {result : Unit}
    (h : WriteOffs.assertFree system assetIds ownWriteOff = .ok result) {id : RowId}
    (hid : id ∈ assetIds) {other : Hold} (hsees : writeOffSees other) :
    ¬Holds system id other := by
  unfold WriteOffs.assertFree at h
  dsimp only at h
  split at h
  · cases h
  next hlength =>
  split at h
  · cases h
  next hblocked =>
  obtain ⟨asset, hasset, hfound⟩ := exists_of_length_filterMap (not_not.mp hlength) id hid
  have hsame : asset.id = id := by simpa using List.find?_some hfound
  have hreasons := List.filter_eq_nil_iff.mp (not_not.mp hblocked) asset hasset
  rw [decide_eq_true_eq, ne_eq, not_not, WriteOffs.blockers, holdReasons_eq_nil_iff, hsame]
    at hreasons
  simp only [List.forall_mem_cons] at hreasons
  obtain ⟨_, hloan, htransfer, _, hhandover, hreserved, _⟩ := hreasons
  cases other with
  | loan origin => exact not_loan_of (not_held_of_none hloan) origin
  | transfer origin => exact not_transfer_of (not_held_of_none htransfer) origin
  | handover => exact not_handover_of (not_held_of_none hhandover)
  | reservation requestId => exact not_reserved_of (not_held_of_none hreserved) (by intro h; cases h)
  | _ => exact hsees.elim

end Checks

/-! ### What the writes take -/

/-- A step takes holds of some ways, on some assets, and no others. -/
def Opens (system after : System) (opened : Hold → Prop) (assetIds : List RowId) : Prop :=
  ∀ hold assetId, Holds after assetId hold →
    Holds system assetId hold ∨ opened hold ∧ assetId ∈ assetIds

section Opens

variable {system after : System} {opened : Hold → Prop} {assetIds : List RowId}

theorem Opens.after_kept {middle : System} (h : Opens system middle opened assetIds)
    (hkept : HoldsKept middle after) : Opens system after opened assetIds :=
  fun hold assetId hheld => h hold assetId (hkept hold assetId hheld)

theorem Opens.of_kept {middle : System} (hkept : HoldsKept system middle)
    (h : Opens middle after opened assetIds) : Opens system after opened assetIds :=
  fun hold assetId hheld => (h hold assetId hheld).imp_left (hkept hold assetId)

/-- The write of a new loan takes the holds of its assets. -/
theorem insertLoan_opens {input : Loans.CreateLoanInput} {actorId loanId sourceId : RowId}
    {itemId : RowId → RowId} {approved : Option Loans.ApprovedLoan} {assets : List Asset}
    (h : Loans.insertLoan system input actorId loanId itemId approved sourceId assets = .ok after) :
    Opens system after (fun hold => hold = .loan (approved.map Loans.ApprovedLoan.assetRequestId))
      (assets.map Asset.id) := by
  unfold Loans.insertLoan at h
  split at h
  · cases h
  have hopens : ∀ (loan : AssetLoan) (events : List AssetLoanEvent),
      loan.assetRequestId = approved.map Loans.ApprovedLoan.assetRequestId →
      loan.items = assets.map (Loans.newItem sourceId itemId) →
      Opens system { system with loans := system.loans ++ [loan], loanEvents := events }
        (fun hold => hold = .loan (approved.map Loans.ApprovedLoan.assetRequestId))
        (assets.map Asset.id) := by
    intro loan events horigin hitems hold assetId hheld
    cases hold with
    | loan origin =>
      obtain ⟨other, hother, hsame, hholds⟩ := hheld
      rcases List.mem_append.mp hother with hother | hnew
      · exact Or.inl ⟨other, hother, hsame, hholds⟩
      · obtain rfl := List.mem_singleton.mp hnew
        obtain ⟨_, item, hitem, hid, _⟩ := LoanedAssets.holds_iff.mp hholds
        rw [hitems] at hitem
        obtain ⟨asset, hasset, rfl⟩ := List.mem_map.mp hitem
        exact Or.inr ⟨by rw [← hsame, horigin], List.mem_map.mpr ⟨asset, hasset, hid⟩⟩
    | _ => exact Or.inl hheld
  obtain rfl := Except.ok.inj h
  cases approved <;> exact hopens _ _ rfl rfl

theorem transferInsert_opens {id source target : RowId} {assetRequestId : Option RowId}
    (h : Transfers.insert system id source target assetIds assetRequestId = .ok after) :
    Opens system after (fun hold => hold = .transfer assetRequestId) assetIds := by
  unfold Transfers.insert at h
  split at h
  · cases h
  split at h
  · cases h
  obtain rfl := Except.ok.inj h
  intro hold assetId hheld
  cases hold with
  | transfer origin =>
    obtain ⟨transfer, hmem, horigin, hitems⟩ := hheld
    rcases List.mem_append.mp hmem with hmem | hnew
    · exact Or.inl ⟨transfer, hmem, horigin, hitems⟩
    · obtain rfl := List.mem_singleton.mp hnew
      exact Or.inr ⟨congrArg Hold.transfer horigin.symm, by simpa using hitems⟩
  | _ => exact Or.inl hheld

theorem handoverInsert_opens {id costCenterId : RowId}
    (h : Handovers.insert system id costCenterId assetIds = .ok after) :
    Opens system after (fun hold => hold = .handover) assetIds := by
  unfold Handovers.insert at h
  split at h
  · cases h
  split at h
  · cases h
  obtain rfl := Except.ok.inj h
  intro hold assetId hheld
  cases hold with
  | handover =>
    obtain ⟨handover, hmem, hitems⟩ := hheld
    rcases List.mem_append.mp hmem with hmem | hnew
    · exact Or.inl ⟨handover, hmem, hitems⟩
    · obtain rfl := List.mem_singleton.mp hnew
      exact Or.inr ⟨rfl, by simpa using hitems⟩
  | _ => exact Or.inl hheld

theorem writeOffInsert_opens {id : RowId} (h : WriteOffs.insert system id assetIds = .ok after) :
    Opens system after (fun hold => hold = .writeOff) assetIds := by
  unfold WriteOffs.insert at h
  split at h
  · cases h
  split at h
  · cases h
  obtain rfl := Except.ok.inj h
  intro hold assetId hheld
  cases hold with
  | writeOff =>
    obtain ⟨writeOff, hmem, hitems⟩ := hheld
    rcases List.mem_append.mp hmem with hmem | hnew
    · exact Or.inl ⟨writeOff, hmem, hitems⟩
    · obtain rfl := List.mem_singleton.mp hnew
      exact Or.inr ⟨rfl, by simpa using hitems⟩
  | _ => exact Or.inl hheld

/-- The items put in a draft are of the request the transfer is of. -/
theorem transferReplace_opens {id : RowId}
    (h : Transfers.replaceItems system id assetIds = .ok after) :
    Opens system after (fun hold => ∃ transfer ∈ system.transfers,
      transfer.id = id ∧ hold = .transfer transfer.assetRequestId) assetIds := by
  unfold Transfers.replaceItems at h
  obtain ⟨transfer, hlock, h⟩ := bind_eq_ok h
  obtain ⟨_, h⟩ := check_eq_ok h
  obtain rfl := Except.ok.inj h
  obtain ⟨hmem, hid⟩ := transferLock_eq_ok hlock
  intro hold assetId hheld
  cases hold with
  | transfer origin =>
    obtain ⟨other, hother, horigin, hitems⟩ := hheld
    rcases mem_replaced hother with rfl | hother
    · exact Or.inr ⟨⟨transfer, hmem, hid, congrArg Hold.transfer horigin.symm⟩,
        by simpa using hitems⟩
    · exact Or.inl ⟨other, hother, horigin, hitems⟩
  | _ => exact Or.inl hheld

theorem writeOffReplace_opens {id : RowId}
    (h : WriteOffs.replaceItems system id assetIds = .ok after) :
    Opens system after (fun hold => hold = .writeOff) assetIds := by
  unfold WriteOffs.replaceItems at h
  obtain ⟨writeOff, _, h⟩ := bind_eq_ok h
  obtain ⟨_, h⟩ := check_eq_ok h
  obtain rfl := Except.ok.inj h
  intro hold assetId hheld
  cases hold with
  | writeOff =>
    obtain ⟨other, hother, hitems⟩ := hheld
    rcases mem_replaced hother with rfl | hother
    · exact Or.inr ⟨rfl, by simpa using hitems⟩
    · exact Or.inl ⟨other, hother, hitems⟩
  | _ => exact Or.inl hheld

/-- An accepted request takes the holds of its own. -/
theorem reserve_opens {requestId userId : RowId}
    (h : AssetRequests.reserve system requestId userId assetIds = .ok after) :
    Opens system after (fun hold => hold = .reservation requestId) assetIds := by
  unfold AssetRequests.reserve at h
  split at h
  · cases h
  next request hfound =>
  split at h
  · cases h
  split at h
  · cases h
  obtain rfl := Except.ok.inj h
  have hid : request.id = requestId := by simpa using List.find?_some hfound
  have hrequest := List.mem_of_find?_eq_some hfound
  intro hold assetId hheld
  cases hold with
  | reservation other =>
    obtain ⟨row, hrow, hsame, hitems⟩ := hheld
    rcases mem_replaced hrow with rfl | hrow
    · rw [heldIn_append, Bool.or_eq_true] at hitems
      rcases hitems with hbefore | hnew
      · exact Or.inl ⟨request, hrequest, hsame, hbefore⟩
      · exact Or.inr ⟨congrArg Hold.reservation (hsame.symm.trans hid), by simpa using hnew⟩
    · exact Or.inl ⟨row, hrow, hsame, hitems⟩
  | _ => exact Or.inl hheld

/-- A request that gives its items up for its loan or its transfer holds no more. -/
theorem releaseItems_kept (id : RowId) (system : System) :
    HoldsKept system (AssetRequests.releaseItems id system) := by
  intro hold assetId hheld
  cases hold with
  | reservation requestId =>
    obtain ⟨row, hrow, hsame, hitems⟩ := hheld
    obtain ⟨request, hrequest, rfl⟩ := List.mem_map.mp hrow
    split at hsame
    · next hown =>
      rw [if_pos hown, heldIn_closed] at hitems
      cases hitems
    · next hother =>
      rw [if_neg hother] at hitems
      exact ⟨request, hrequest, hsame, hitems⟩
  | _ => exact hheld

theorem markGenerated_kept (id : RowId) (status : AssetRequestStatus)
    (loanId transferId : Option RowId) (system : System) :
    HoldsKept system (AssetRequests.markGenerated id status loanId transferId system) := by
  intro hold assetId hheld
  cases hold with
  | reservation requestId =>
    obtain ⟨row, hrow, hsame, hitems⟩ := hheld
    obtain ⟨request, hrequest, rfl⟩ := List.mem_map.mp hrow
    refine ⟨request, hrequest, ?_, ?_⟩
    · split at hsame <;> exact hsame
    · split at hitems <;> exact hitems
  | _ => exact hheld

end Opens

/-! ### Careful transactions -/

section Safe

variable {excludes : Hold → Hold → Prop}
  {symm : ∀ {hold other}, excludes hold other → excludes other hold}
  {permitted : List (Row × Mode) → System → Prop} {locks : List (Row × Mode)}
  {known : Hold → Row → Prop}

/-- What a service covers of an exclusion: each hold that excludes one it takes
is one it looks for, or one that its permission rules out on what it has locked. -/
def Covers (excludes : Hold → Hold → Prop) (permitted : List (Row × Mode) → System → Prop)
    (sees : Hold → Prop) (opened : System → Hold → Prop) : Prop :=
  ∀ locks system hold other, permitted locks system → opened system hold → excludes hold other →
    ¬opened system other ∧ (sees other ∨
      ∀ assetId, (Row.asset assetId, .update) ∈ locks → ¬Holds system assetId other)

/-- A write is careful when its assets are locked, and free of what excludes it. -/
theorem careful_of_opens {system after : System} {opened : Hold → Prop} {assetIds : List RowId}
    (mode : Mode) (hopens : Opens system after opened assetIds)
    (hlocked : ∀ assetId ∈ assetIds, (Row.asset assetId, mode) ∈ locks)
    (hmode : ∀ hold, opened hold → mode = .update ∨ mode = holdMode hold)
    (hfree : ∀ assetId ∈ assetIds, ∀ hold other, opened hold → excludes hold other →
      ¬opened other ∧ ¬Holds system assetId other) :
    (assetExclusion excludes symm).Careful locks system after := by
  intro hold row hheld
  cases row with
  | asset assetId =>
    rcases hopens hold assetId hheld with hbefore | ⟨hopened, hmem⟩
    · exact Or.inl hbefore
    refine Or.inr ⟨⟨mode, hlocked assetId hmem, hmode hold hopened⟩, fun other hexcludes hother => ?_⟩
    obtain ⟨hnot, hnone⟩ := hfree assetId hmem hold other hopened hexcludes
    rcases hopens other assetId hother with hbefore | ⟨hopened', _⟩
    · exact hnone hbefore
    · exact hnot hopened'
  | _ => exact hheld.elim

/-- A write that takes its holds under locks to update, on assets known to be
free of what its service looks for. -/
theorem careful_of_covers {system after : System} {sees : Hold → Prop}
    {opened : System → Hold → Prop} {assetIds : List RowId}
    (hcovers : Covers excludes permitted sees opened) (hpermitted : permitted locks system)
    (hopens : Opens system after (opened system) assetIds)
    (hlocked : ∀ assetId ∈ assetIds, (Row.asset assetId, .update) ∈ locks)
    (hseen : ∀ assetId ∈ assetIds, ∀ other, sees other → ¬Holds system assetId other) :
    (assetExclusion excludes symm).Careful locks system after := by
  refine careful_of_opens .update hopens hlocked (fun _ _ => Or.inl rfl) ?_
  intro assetId hmem hold other hopened hexcludes
  obtain ⟨hnot, hcovered⟩ := hcovers locks system hold other hpermitted hopened hexcludes
  refine ⟨hnot, ?_⟩
  rcases hcovered with hsees | hbarred
  · exact hseen assetId hmem other hsees
  · exact hbarred assetId (hlocked assetId hmem)

/-- What a read shows of a locked asset is known from then on. -/
theorem learned_asset {system : System} {assetId : RowId} {hold : Hold} {mode : Mode}
    (hlocked : (Row.asset assetId, mode) ∈ locks) (hconflicts : mode.Conflicts (holdMode hold))
    (hfree : ¬Holds system assetId hold) :
    (assetExclusion excludes symm).Learned locks known system hold (.asset assetId) :=
  Or.inr ⟨⟨mode, hlocked, hconflicts⟩, hfree⟩

/-- The assets that are locked. -/
theorem locked_asset {mode : Mode} {assetIds : List RowId} {assetId : RowId}
    (h : assetId ∈ assetIds) :
    (Row.asset assetId, mode) ∈ Exclusion.lockedAll mode (assetRows assetIds) locks :=
  Exclusion.mem_lockedAll.mpr (Or.inl ⟨List.mem_map_of_mem h, rfl⟩)

/-- What a transaction has written before leaves the holds that its service looks for. -/
structure View (view : System → System) : Prop where
  kept : ∀ system, HoldsKept system (view system)
  loans : ∀ system, (view system).loans = system.loans
  writeOffs : ∀ system, (view system).writeOffs = system.writeOffs

theorem view_id : View id := ⟨HoldsKept.refl, fun _ => rfl, fun _ => rfl⟩

theorem view_releaseItems (id : RowId) : View (AssetRequests.releaseItems id) :=
  ⟨releaseItems_kept id, fun _ => rfl, fun _ => rfl⟩

/-- The holds besides its own that a loan looks for. -/
def loanSees : Hold → Prop
  | .writeOff => True
  | _ => False

theorem createLoan_safe {view finish : System → System} (hview : View view)
    (hfinish : ∀ system, HoldsKept system (finish system)) {input : Loans.CreateLoanInput}
    {actorId loanId : RowId} {itemId : RowId → RowId} {sourceScope : RowId → Bool}
    {approved : Option Loans.ApprovedLoan} {outside : Except Failure Unit}
    (hcovers : Covers excludes permitted loanSees fun _ hold =>
      hold = .loan (approved.map Loans.ApprovedLoan.assetRequestId)) :
    (assetExclusion excludes symm).Safe permitted locks known
      (createLoan view finish input actorId loanId itemId sourceScope approved outside) := by
  refine Exclusion.safe_lockAll (Exclusion.safe_ask fun first assets _ hassets => ?_)
  refine Exclusion.safe_check fun sourceId _ => Exclusion.safe_ask fun second _ _ _ => ?_
  refine Exclusion.safe_ask fun third _ _ hwriteOff => ?_
  intro system after hwrite hfree hpermitted
  obtain ⟨inserted, hinsert, hafter⟩ := bind_eq_ok hwrite
  obtain rfl := Except.ok.inj hafter
  have hopens := (Opens.of_kept (hview.kept system) (insertLoan_opens hinsert)).after_kept
    (hfinish inserted)
  have hmem : ∀ assetId ∈ assets.map Asset.id, assetId ∈ input.assetIds.dedup := by
    intro assetId hassetId
    obtain ⟨asset, hasset, rfl⟩ := List.mem_map.mp hassetId
    exact mem_of_lockedAssets hassets asset hasset
  refine careful_of_covers hcovers hpermitted hopens
    (fun assetId hassetId => locked_asset (hmem assetId hassetId)) ?_
  intro assetId hassetId other hsees
  cases other with
  | writeOff =>
    refine hfree .writeOff (.asset assetId) (learned_asset (locked_asset (hmem assetId hassetId))
      (Or.inl rfl) ?_)
    obtain ⟨asset, hasset, rfl⟩ := List.mem_map.mp hassetId
    have hnone := not_writeOff_of (assertNotWritingOff_eq_ok hwriteOff asset hasset)
    rw [Holds, hview.writeOffs] at hnone
    exact hnone
  | _ => exact hsees.elim

/-- The holds besides its own that a transfer looks for. -/
def transferSees : Hold → Prop
  | .loan _ => True
  | .writeOff => True
  | _ => False

/-- The assets that a transfer finds free are free of what it looks for. -/
theorem not_holds_of_transferFree {view : System → System} (hview : View view) {system : System}
    {assetIds : List RowId} {expectedSource ownTransfer source : Option RowId}
    (h : Transfers.assertFree (view system) assetIds expectedSource ownTransfer = .ok source)
    {assetId : RowId} (hmem : assetId ∈ assetIds) {other : Hold} (hsees : transferSees other) :
    ¬Holds system assetId other := by
  obtain ⟨hloan, hwriteOff⟩ := transferFree_eq_ok h assetId hmem
  cases other with
  | loan origin =>
    have hnone := not_loan_of hloan origin
    rw [Holds, hview.loans] at hnone
    exact hnone
  | writeOff =>
    have hnone := not_writeOff_of hwriteOff
    rw [Holds, hview.writeOffs] at hnone
    exact hnone
  | _ => exact hsees.elim

/-- A lock to update guards against every hold. -/
theorem conflicts_update (hold : Hold) : Mode.update.Conflicts (holdMode hold) := Or.inl rfl

theorem checkTransfer_safe {view : System → System} (hview : View view)
    {items : List Transfers.TransferItemInputDto} {unavailable : RowId → Bool}
    {persons : Except Failure Unit} {targetOf : RowId → Except Failure Unit}
    {rest : RowId → Program System Row Failure}
    (hrest : ∀ source known', (∀ assetId ∈ itemAssets items, ∀ other, transferSees other →
        known' other (Row.asset assetId)) →
      (assetExclusion excludes symm).Safe permitted
        (Exclusion.lockedAll .update (assetRows (itemAssets items)) locks) known' (rest source)) :
    (assetExclusion excludes symm).Safe permitted locks known
      (checkTransfer view items unavailable persons targetOf rest) := by
  refine Exclusion.safe_check fun _ _ => Exclusion.safe_check fun _ _ => ?_
  refine Exclusion.safe_lockAll (Exclusion.safe_ask fun system found _ hfound => ?_)
  refine Exclusion.safe_check fun _ _ => Exclusion.safe_check fun source _ => ?_
  refine Exclusion.safe_check fun _ _ => hrest source _ fun assetId hmem other hsees => ?_
  exact learned_asset (locked_asset hmem) (conflicts_update other)
    (not_holds_of_transferFree hview hfound hmem hsees)

theorem createTransfer_safe {transferId target : RowId}
    {items : List Transfers.TransferItemInputDto} {unavailable : RowId → Bool}
    {persons : Except Failure Unit} {targetOf : RowId → Except Failure Unit}
    (hcovers : Covers excludes permitted transferSees fun _ hold => hold = .transfer none) :
    (assetExclusion excludes symm).Safe permitted locks known
      (createTransfer transferId target items unavailable persons targetOf) := by
  refine checkTransfer_safe view_id fun source seen hseen => ?_
  intro system after hwrite hfree hpermitted
  refine careful_of_covers hcovers hpermitted (transferInsert_opens hwrite)
    (fun assetId hmem => locked_asset hmem) fun assetId hmem other hsees => ?_
  exact hfree other (.asset assetId) (hseen assetId hmem other hsees)

theorem markPending_kept {system after : System} {id : RowId}
    (h : markPending id system = .ok after) : HoldsKept system after := by
  obtain ⟨transfer, hlock, h⟩ := bind_eq_ok h
  obtain rfl := Except.ok.inj h
  exact transferSave_kept (transferLock_eq_ok hlock).1 rfl fun _ hheld => hheld

theorem convertToTransfer_safe {request : AssetRequest}
    {dto : AssetRequests.GenerateAssetRequestDto} {conversion : AssetRequests.Conversion}
    (hcovers : Covers excludes permitted transferSees fun _ hold =>
      hold = .transfer (some request.id)) :
    (assetExclusion excludes symm).Safe permitted locks known
      (convertToTransfer request dto conversion) := by
  refine Exclusion.safe_check fun _ _ => ?_
  refine checkTransfer_safe (view_releaseItems request.id) fun source seen hseen => ?_
  refine Exclusion.safe_lockAll (Exclusion.safe_ask fun _ _ _ _ => ?_)
  intro system after hwrite hfree hpermitted
  obtain ⟨created, hcreated, hwrite⟩ := bind_eq_ok hwrite
  obtain ⟨pending, hpending, hwrite⟩ := bind_eq_ok hwrite
  obtain rfl := Except.ok.inj hwrite
  have hopens := (Opens.of_kept (releaseItems_kept request.id system)
    (transferInsert_opens hcreated)).after_kept
      ((markPending_kept hpending).trans (markGenerated_kept request.id .documentGenerated none
        (some conversion.transferId) pending))
  refine careful_of_covers hcovers hpermitted hopens (fun assetId hmem => locked_asset hmem)
    fun assetId hmem other hsees => ?_
  exact hfree other (.asset assetId) (Or.inl (hseen assetId hmem other hsees))

theorem updateTransferItems_safe {id : RowId} {items : List Transfers.TransferItemInputDto}
    {unavailable : RowId → Bool}
    (hcovers : Covers excludes permitted transferSees fun system hold =>
      ∃ transfer ∈ system.transfers, transfer.id = id ∧ hold = .transfer transfer.assetRequestId) :
    (assetExclusion excludes symm).Safe permitted locks known
      (updateTransferItems id items unavailable) := by
  refine Exclusion.safe_ask fun first transfer _ hdraft => ?_
  obtain ⟨found, hlock, hdraft⟩ := bind_eq_ok hdraft
  obtain ⟨_, _, hdraft⟩ := bind_eq_ok hdraft
  obtain rfl := Except.ok.inj hdraft
  refine Exclusion.safe_check fun _ _ => Exclusion.safe_lockAll ?_
  refine Exclusion.safe_ask fun second _ _ hfound => Exclusion.safe_check fun _ _ => ?_
  intro system after hwrite hfree hpermitted
  refine careful_of_covers hcovers hpermitted (transferReplace_opens hwrite)
    (fun assetId hmem => locked_asset hmem) fun assetId hmem other hsees => ?_
  refine hfree other (.asset assetId) (learned_asset (locked_asset hmem) (conflicts_update other) ?_)
  obtain ⟨hloan, hwriteOff⟩ := transferFree_eq_ok hfound assetId hmem
  cases other with
  | loan origin => exact not_loan_of hloan origin
  | writeOff => exact not_writeOff_of hwriteOff
  | _ => exact hsees.elim

/-- A handover shares its assets, and sees them free of the holds that need them
locked to update. -/
theorem createHandover_safe {id costCenterId : RowId} {assetIds : List RowId}
    {centerCode : RowId → String} {outside enqueued : Except Failure Unit}
    (hcovers : ∀ other, excludes .handover other → handoverSees other) :
    (assetExclusion excludes symm).Safe permitted locks known
      (createHandover id costCenterId assetIds centerCode outside enqueued) := by
  refine Exclusion.safe_check fun _ _ => Exclusion.safe_check fun _ _ => ?_
  refine Exclusion.safe_lockAll (Exclusion.safe_ask fun first _ _ hassets => ?_)
  refine Exclusion.safe_ask fun second _ hsecond hnotHeld => ?_
  refine Exclusion.safe_ask fun _ _ _ _ => Exclusion.safe_check fun _ _ => ?_
  intro system after hwrite hfree hpermitted
  refine careful_of_opens .share (handoverInsert_opens hwrite)
    (fun assetId hmem => locked_asset hmem) (fun hold hopened => Or.inr (by rw [hopened]; rfl)) ?_
  rintro assetId hmem hold other rfl hexcludes
  have hsees := hcovers other hexcludes
  have hconflicts : Mode.share.Conflicts (holdMode other) := by
    cases other with
    | handover => exact hsees.elim
    | _ => exact Or.inr rfl
  have hthere : ¬Holds second assetId .missing :=
    hsecond .missing (.asset assetId) (learned_asset (locked_asset hmem) (Or.inr rfl)
      (assertAssets_eq_ok hassets assetId hmem))
  refine ⟨fun hsame => ?_, ?_⟩
  · subst hsame
    exact hsees.elim
  · exact hfree other (.asset assetId) (Or.inl (learned_asset (locked_asset hmem) hconflicts
      (assertNotHeld_eq_ok hnotHeld hmem hthere hsees)))

theorem acceptable_eq_ok {system : System} {id : RowId} {viewer : AssetRequests.Viewer}
    {request : AssetRequest} (h : AssetRequests.acceptable system id viewer = .ok request) :
    request.id = id := by
  unfold AssetRequests.acceptable at h
  obtain ⟨found, hparty, h⟩ := bind_eq_ok h
  obtain ⟨_, _, h⟩ := bind_eq_ok h
  obtain ⟨_, _, h⟩ := bind_eq_ok h
  obtain rfl := Except.ok.inj h
  exact (partyRequest_eq_ok hparty).2

theorem acceptRequest_safe {id : RowId} {assetIds : List RowId} {viewer : AssetRequests.Viewer}
    (hcovers : Covers excludes permitted requestSees fun _ hold => hold = .reservation id) :
    (assetExclusion excludes symm).Safe permitted locks known
      (acceptRequest id assetIds viewer) := by
  refine Exclusion.safe_ask fun first request _ hacceptable => Exclusion.safe_lockAll ?_
  refine Exclusion.safe_ask fun second _ _ heligible => ?_
  obtain rfl := acceptable_eq_ok hacceptable
  intro system after hwrite hfree hpermitted
  refine careful_of_covers hcovers hpermitted (reserve_opens hwrite)
    (fun assetId hmem => locked_asset hmem) fun assetId hmem other hsees => ?_
  exact hfree other (.asset assetId) (learned_asset (locked_asset hmem) (conflicts_update other)
    (assertEligible_eq_ok heligible hmem hsees))

theorem convertible_eq_ok {system : System} {id : RowId}
    {dto : AssetRequests.GenerateAssetRequestDto} {viewer : AssetRequests.Viewer}
    {personOf : RowId → Option RowId} {outside : Except Failure Unit}
    {found : AssetRequest × RowId}
    (h : AssetRequests.convertible system id dto viewer personOf outside = .ok found) :
    found.1.id = id := by
  unfold AssetRequests.convertible at h
  obtain ⟨request, hparty, h⟩ := bind_eq_ok h
  obtain ⟨_, _, h⟩ := bind_eq_ok h
  obtain ⟨_, _, h⟩ := bind_eq_ok h
  obtain ⟨_, _, h⟩ := bind_eq_ok h
  obtain ⟨_, _, h⟩ := bind_eq_ok h
  obtain ⟨_, h⟩ := check_eq_ok h
  obtain ⟨_, _, h⟩ := bind_eq_ok h
  obtain ⟨_, _, h⟩ := bind_eq_ok h
  obtain rfl := Except.ok.inj h
  exact (partyRequest_eq_ok hparty).2

theorem convertRequest_safe {id : RowId} {dto : AssetRequests.GenerateAssetRequestDto}
    {viewer : AssetRequests.Viewer} {personOf : RowId → Option RowId}
    {outside : Except Failure Unit} {conversion : AssetRequests.Conversion}
    (hloan : Covers excludes permitted loanSees fun _ hold => hold = .loan (some id))
    (htransfer : Covers excludes permitted transferSees fun _ hold => hold = .transfer (some id)) :
    (assetExclusion excludes symm).Safe permitted locks known
      (convertRequest id dto viewer personOf outside conversion) := by
  refine Exclusion.safe_ask fun system found _ hfound => ?_
  obtain rfl := convertible_eq_ok hfound
  split
  · exact Exclusion.safe_check fun input _ => createLoan_safe (view_releaseItems found.1.id)
      (markGenerated_kept found.1.id _ _ _) hloan
  · exact convertToTransfer_safe htransfer

theorem createWriteOff_safe {id : RowId} {assetIds : List RowId}
    (hcovers : Covers excludes permitted writeOffSees fun _ hold => hold = .writeOff) :
    (assetExclusion excludes symm).Safe permitted locks known (createWriteOff id assetIds) := by
  refine Exclusion.safe_check fun _ _ => Exclusion.safe_lockAll ?_
  refine Exclusion.safe_ask fun first _ _ hfound => ?_
  intro system after hwrite hfree hpermitted
  refine careful_of_covers hcovers hpermitted (writeOffInsert_opens hwrite)
    (fun assetId hmem => locked_asset hmem) fun assetId hmem other hsees => ?_
  exact hfree other (.asset assetId) (learned_asset (locked_asset hmem) (conflicts_update other)
    (writeOffFree_eq_ok hfound hmem hsees))

theorem updateWriteOff_safe {id : RowId} {items : Option (List RowId)}
    (hcovers : Covers excludes permitted writeOffSees fun _ hold => hold = .writeOff) :
    (assetExclusion excludes symm).Safe permitted locks known (updateWriteOff id items) := by
  refine Exclusion.safe_ask fun _ _ _ _ => ?_
  cases items with
  | none =>
    intro system after hwrite _ _ hold row hheld
    obtain rfl := Except.ok.inj hwrite
    exact Or.inl hheld
  | some assetIds =>
    refine Exclusion.safe_check fun _ _ => Exclusion.safe_lockAll ?_
    refine Exclusion.safe_ask fun first _ _ hfound => ?_
    intro system after hwrite hfree hpermitted
    refine careful_of_covers hcovers hpermitted (writeOffReplace_opens hwrite)
      (fun assetId hmem => locked_asset hmem) fun assetId hmem other hsees => ?_
    exact hfree other (.asset assetId) (learned_asset (locked_asset hmem) (conflicts_update other)
      (writeOffFree_eq_ok hfound hmem hsees))

end Safe

end InternalControl.AssetExclusion
