import InternalControl.Loans
import Mathlib.Logic.Relation

/-!
# The status of a loan and its items

Whatever an operation does to a loan is one of four moves: the loan goes from
one status without receptions to another, it keeps its status and its items,
a return is recorded, or what was returned is received. Each move keeps the
status in agreement with the items, so it agrees after every run.
-/

namespace InternalControl.Loans

open Assets AssetProcesses Fallible

/-- The status agrees with the items. -/
structure StatusAgrees (loan : AssetLoan) : Prop where
  finished : loan.status = .returned ∨ loan.status = .closedWithLosses ↔
    ∀ item ∈ loan.items, item.receivedAt.isSome
  losses : loan.status = .closedWithLosses ↔ (∀ item ∈ loan.items, item.receivedAt.isSome) ∧
    ∃ item ∈ loan.items, item.receivedAt.isSome ∧ item.returnCondition = some .lost
  partly : loan.status = .partiallyReturned →
    (∃ item ∈ loan.items, item.receivedAt.isSome) ∧ ∃ item ∈ loan.items, item.receivedAt = none
  awaiting : loan.status = .pendingReception →
    ∃ item ∈ loan.items, item.receivedAt = none ∧ item.returnCondition.isSome
  out : loan.status = .pendingSignatures ∨ loan.status = .active ∨ loan.status = .overdue →
    ∀ item ∈ loan.items, item.receivedAt = none

/-- The assets received back of a loan, in the order of its history. -/
def receivedAssets (events : List AssetLoanEvent) (id : RowId) : List RowId :=
  (events.filter fun event => event.loanId = id ∧ event.eventType = .received).flatMap
    AssetLoanEvent.assets

/-- A status in which nothing has been received. -/
def beforeReception (status : LoanStatus) : Bool :=
  status ∉ [.pendingReception, .returned, .partiallyReturned, .closedWithLosses]

/-- What the items of a loan are like in each status. -/
def Consistent (status : LoanStatus) (items : List AssetLoanItem) : Prop :=
  match status with
  | .pendingReception => ∃ item ∈ items, item.receivedAt = none ∧ item.returnCondition.isSome
  | .partiallyReturned =>
    (∃ item ∈ items, item.receivedAt.isSome) ∧ ∃ item ∈ items, item.receivedAt = none
  | .returned => (∀ item ∈ items, item.receivedAt.isSome) ∧
    ∀ item ∈ items, item.returnCondition ≠ some .lost
  | .closedWithLosses => (∀ item ∈ items, item.receivedAt.isSome) ∧
    ∃ item ∈ items, item.returnCondition = some .lost
  | _ => ∀ item ∈ items, item.receivedAt = none

/-- Loans and their history agree. -/
structure Invariant (system : System) : Prop where
  consistent : ∀ loan ∈ system.loans, Consistent loan.status loan.items
  /-- A loan has each asset once. -/
  assets : ∀ loan ∈ system.loans, (loan.items.map AssetLoanItem.assetId).Nodup
  /-- The history is of loans that are there. -/
  known : ∀ event ∈ system.loanEvents, ∃ loan ∈ system.loans, loan.id = event.loanId
  once : ∀ loan ∈ system.loans, (receivedAssets system.loanEvents loan.id).Nodup
  /-- What the history says was received has its date. -/
  dated : ∀ loan ∈ system.loans, ∀ assetId ∈ receivedAssets system.loanEvents loan.id,
    ∃ item ∈ loan.items, item.assetId = assetId ∧ item.receivedAt.isSome
  /-- No two assets have one id. -/
  assetIds : (system.assets.map Asset.id).Nodup

/-- What tells the items of a loan apart, and whether they are received. -/
def progress (item : AssetLoanItem) : RowId × RowId × Option ℤ :=
  (item.id, item.assetId, item.receivedAt)

/-- An item that waits for its reception. -/
def awaits (item : AssetLoanItem) : Bool := item.returnCondition.isSome && item.receivedAt.isNone

/-- The item after a reception. -/
def receivedItem (now : ℤ) (item : AssetLoanItem) : AssetLoanItem :=
  if awaits item then { item with receivedAt := some now } else item

/-- What an operation does to a loan, with the event it adds. -/
inductive LoanMove (loan after : AssetLoan) : LoanEventType → List RowId → Prop
  /-- From one status without receptions to another. -/
  | before (eventType : LoanEventType) (assets : List RowId)
      (hevent : eventType ≠ .received) (hstatus : beforeReception loan.status = true)
      (hafter : beforeReception after.status = true)
      (hitems : after.items.map progress = loan.items.map progress) :
      LoanMove loan after eventType assets
  /-- The status and the items stay. -/
  | same (eventType : LoanEventType) (assets : List RowId) (hevent : eventType ≠ .received)
      (hstatus : after.status = loan.status) (hitems : after.items = loan.items) :
      LoanMove loan after eventType assets
  /-- A return is recorded. -/
  | returned (assets : List RowId) (hafter : after.status = .pendingReception)
      (hitems : after.items.map progress = loan.items.map progress)
      (hawaits : ∃ item ∈ after.items, awaits item = true) :
      LoanMove loan after .returnStarted assets
  /-- What was returned is received. -/
  | received (now : ℤ) (hafter : after.status = statusAfterReception after.items)
      (hitems : after.items = loan.items.map (receivedItem now))
      (hawaits : ∃ item ∈ loan.items, awaits item = true) :
      LoanMove loan after .received ((loan.items.filter awaits).map AssetLoanItem.assetId)

/-! ### Moves keep the agreement -/

theorem consistent_of_before {status : LoanStatus} {items : List AssetLoanItem}
    (hstatus : beforeReception status = true) :
    Consistent status items ↔ ∀ item ∈ items, item.receivedAt = none := by
  cases status <;> first | exact Iff.rfl | exact absurd hstatus (by decide)

/-- Items with the same progress are received at the same times. -/
theorem exists_of_progress {items others : List AssetLoanItem}
    (h : items.map progress = others.map progress) {item : AssetLoanItem} (hitem : item ∈ items) :
    ∃ other ∈ others, progress other = progress item := by
  have hmem : progress item ∈ items.map progress := List.mem_map_of_mem hitem
  rw [h] at hmem
  exact List.mem_map.mp hmem

theorem receivedAt_eq_of_progress {item other : AssetLoanItem} (h : progress other = progress item) :
    other.receivedAt = item.receivedAt := congrArg (fun data => data.2.2) h

theorem assetId_eq_of_progress {item other : AssetLoanItem} (h : progress other = progress item) :
    other.assetId = item.assetId := congrArg (fun data => data.2.1) h

theorem map_assetId_of_progress {items others : List AssetLoanItem}
    (h : items.map progress = others.map progress) :
    items.map AssetLoanItem.assetId = others.map AssetLoanItem.assetId := by
  have hassets := congrArg (List.map fun data => data.2.1) h
  simpa [List.map_map, Function.comp_def, progress] using hassets

@[simp] theorem receivedItem_assetId (now : ℤ) (item : AssetLoanItem) :
    (receivedItem now item).assetId = item.assetId := by
  unfold receivedItem
  split <;> rfl

@[simp] theorem receivedItem_returnCondition (now : ℤ) (item : AssetLoanItem) :
    (receivedItem now item).returnCondition = item.returnCondition := by
  unfold receivedItem
  split <;> rfl

theorem receivedItem_of_awaits {now : ℤ} {item : AssetLoanItem} (h : awaits item = true) :
    (receivedItem now item).receivedAt = some now := by
  rw [receivedItem, if_pos h]

/-- A reception takes no date away. -/
theorem receivedItem_isSome {now : ℤ} {item : AssetLoanItem} (h : item.receivedAt.isSome) :
    (receivedItem now item).receivedAt.isSome := by
  unfold receivedItem
  split
  · rfl
  · exact h

/-- The status of a reception is the one its items call for. -/
theorem consistent_statusAfterReception {items : List AssetLoanItem}
    (hsome : ∃ item ∈ items, item.receivedAt.isSome) :
    Consistent (statusAfterReception items) items := by
  unfold statusAfterReception
  by_cases hleft : (items.any fun item => item.receivedAt.isNone) = true
  · rw [if_pos hleft]
    obtain ⟨item, hitem, hnone⟩ := List.any_eq_true.mp hleft
    exact ⟨hsome, item, hitem, Option.isNone_iff_eq_none.mp hnone⟩
  · rw [if_neg hleft]
    have hall : ∀ item ∈ items, item.receivedAt.isSome := by
      intro item hitem
      rw [Option.isSome_iff_ne_none]
      intro hnone
      exact hleft (List.any_eq_true.mpr ⟨item, hitem, by simp [hnone]⟩)
    by_cases hlost : (items.any fun item => item.returnCondition = some .lost) = true
    · rw [if_pos hlost]
      obtain ⟨item, hitem, hcondition⟩ := List.any_eq_true.mp hlost
      exact ⟨hall, item, hitem, by simpa using hcondition⟩
    · rw [if_neg hlost]
      refine ⟨hall, fun item hitem hcondition => ?_⟩
      exact hlost (List.any_eq_true.mpr ⟨item, hitem, by simp [hcondition]⟩)

/-- A move leaves the status in agreement with the items. -/
theorem LoanMove.consistent {loan after : AssetLoan} {eventType : LoanEventType}
    {assets : List RowId} (hmove : LoanMove loan after eventType assets)
    (h : Consistent loan.status loan.items) : Consistent after.status after.items := by
  cases hmove with
  | before _ _ _ hstatus hafter hitems =>
    rw [consistent_of_before hstatus] at h
    rw [consistent_of_before hafter]
    intro item hitem
    obtain ⟨other, hother, hsame⟩ := exists_of_progress hitems hitem
    rw [← receivedAt_eq_of_progress hsame]
    exact h other hother
  | same _ _ _ hstatus hitems => rwa [hstatus, hitems]
  | returned _ hafter _ hawaits =>
    obtain ⟨item, hitem, hawaits⟩ := hawaits
    rw [awaits, Bool.and_eq_true, Option.isNone_iff_eq_none] at hawaits
    rw [hafter]
    exact ⟨item, hitem, hawaits.2, hawaits.1⟩
  | received now hafter hitems hawaits =>
    obtain ⟨item, hitem, hawaits⟩ := hawaits
    rw [hafter]
    refine consistent_statusAfterReception ⟨receivedItem now item, ?_, ?_⟩
    · rw [hitems]
      exact List.mem_map_of_mem hitem
    · rw [receivedItem_of_awaits hawaits]
      rfl

/-- A move leaves a loan its assets. -/
theorem LoanMove.map_assetId {loan after : AssetLoan} {eventType : LoanEventType}
    {assets : List RowId} (hmove : LoanMove loan after eventType assets) :
    after.items.map AssetLoanItem.assetId = loan.items.map AssetLoanItem.assetId := by
  cases hmove with
  | before _ _ _ _ _ hitems => exact map_assetId_of_progress hitems
  | same _ _ _ _ hitems => rw [hitems]
  | returned _ _ hitems _ => exact map_assetId_of_progress hitems
  | received now _ hitems _ => rw [hitems, List.map_map]; simp [Function.comp_def]

/-- What was received stays so. -/
theorem LoanMove.received_kept {loan after : AssetLoan} {eventType : LoanEventType}
    {assets : List RowId} (hmove : LoanMove loan after eventType assets) {item : AssetLoanItem}
    (hitem : item ∈ loan.items) (hreceived : item.receivedAt.isSome) :
    ∃ kept ∈ after.items, kept.assetId = item.assetId ∧ kept.receivedAt.isSome := by
  have hprogress : ∀ hitems : after.items.map progress = loan.items.map progress,
      ∃ kept ∈ after.items, kept.assetId = item.assetId ∧ kept.receivedAt.isSome := by
    intro hitems
    obtain ⟨kept, hkept, hsame⟩ := exists_of_progress hitems.symm hitem
    exact ⟨kept, hkept, assetId_eq_of_progress hsame,
      (receivedAt_eq_of_progress hsame).symm ▸ hreceived⟩
  cases hmove with
  | before _ _ _ _ _ hitems => exact hprogress hitems
  | same _ _ _ _ hitems => exact ⟨item, hitems ▸ hitem, rfl, hreceived⟩
  | returned _ _ hitems _ => exact hprogress hitems
  | received now _ hitems _ =>
    refine ⟨receivedItem now item, ?_, receivedItem_assetId now item,
      receivedItem_isSome hreceived⟩
    rw [hitems]
    exact List.mem_map_of_mem hitem

/-- The assets a move receives are new to the history and have their date. -/
theorem LoanMove.received_new {loan after : AssetLoan} {eventType : LoanEventType}
    {assets : List RowId} (hmove : LoanMove loan after eventType assets)
    (hevent : eventType = .received) (hnodup : (loan.items.map AssetLoanItem.assetId).Nodup) :
    assets.Nodup ∧ ∀ assetId ∈ assets,
      (∀ item ∈ loan.items, item.assetId = assetId → ¬item.receivedAt.isSome) ∧
      ∃ item ∈ after.items, item.assetId = assetId ∧ item.receivedAt.isSome := by
  cases hmove with
  | before _ _ hne _ _ _ => exact absurd hevent hne
  | same _ _ hne _ _ => exact absurd hevent hne
  | returned _ _ _ _ => cases hevent
  | received now _ hitems _ =>
    refine ⟨hnodup.sublist (List.filter_sublist.map _), fun assetId hasset => ?_⟩
    obtain ⟨item, hitem, rfl⟩ := List.mem_map.mp hasset
    obtain ⟨hitem, hawaits⟩ := List.mem_filter.mp hitem
    constructor
    · intro other hother hsame
      rw [List.inj_on_of_nodup_map hnodup hother hitem hsame]
      simp only [awaits, Bool.and_eq_true, Option.isNone_iff_eq_none] at hawaits
      simp [hawaits.2]
    · refine ⟨receivedItem now item, ?_, receivedItem_assetId now item, ?_⟩
      · rw [hitems]
        exact List.mem_map_of_mem hitem
      · rw [receivedItem_of_awaits hawaits]
        rfl

/-! ### Steps keep the invariant -/

theorem receivedAssets_append (events added : List AssetLoanEvent) (id : RowId) :
    receivedAssets (events ++ added) id = receivedAssets events id ++ receivedAssets added id := by
  simp only [receivedAssets, List.filter_append, List.flatMap_append]

/-- Entries that are no receptions of a loan receive nothing of it. -/
theorem receivedAssets_eq_nil {events : List AssetLoanEvent} {id : RowId}
    (h : ∀ event ∈ events, event.loanId = id → event.eventType ≠ .received) :
    receivedAssets events id = [] := by
  rw [receivedAssets, List.flatMap_eq_nil_iff]
  intro event hevent
  have hfilter := List.mem_filter.mp hevent
  have hboth : event.loanId = id ∧ event.eventType = .received := by simpa using hfilter.2
  exact absurd hboth.2 (h event hfilter.1 hboth.1)

theorem receivedAssets_singleton (id : RowId) (eventType : LoanEventType) (assets : List RowId) :
    receivedAssets [⟨id, eventType, assets⟩] id =
      if eventType = .received then assets else [] := by
  by_cases h : eventType = .received <;> simp [receivedAssets, h]

/-- Every item that has not been received is of an asset on loan. -/
def AllOut (assets : List Asset) (items : List AssetLoanItem) : Prop :=
  ∀ item ∈ items, item.receivedAt = none → statusOf assets item.assetId = some .onLoan

/-- The tables of the other processes are as they were. -/
structure OthersKept (system after : System) : Prop where
  transfers : after.transfers = system.transfers
  handovers : after.handovers = system.handovers
  requests : after.requests = system.requests
  writeOffs : after.writeOffs = system.writeOffs

theorem OthersKept.refl (system : System) : OthersKept system system := ⟨rfl, rfl, rfl, rfl⟩

/-- An operation on a loan: the loan it locks, what it leaves in its place, the
event it adds, and what it does to the assets. -/
structure LoanChange (system after : System) (loan changed : AssetLoan)
    (eventType : LoanEventType) (assets : List RowId) : Prop where
  mem : loan ∈ system.loans
  id : changed.id = loan.id
  loans : after.loans = system.loans.map fun other => if other.id = loan.id then changed else other
  events : after.loanEvents = system.loanEvents ++ [⟨loan.id, eventType, assets⟩]
  assetIds : after.assets.map Asset.id = system.assets.map Asset.id
  move : LoanMove loan changed eventType assets
  /-- The status stays or changes as the table allows. -/
  legal : changed.status = loan.status ∨ changed.status ∈ allowed loan.status
  /-- Only a delivery dates the delivery and takes the loan out. -/
  delivered : changed.deliveredAt = loan.deliveredAt ∧
      (changed.status ∈ loanOutStatuses → loan.status ∈ loanOutStatuses) ∨
    changed.status = .pendingSignatures ∧ changed.deliveredAt.isSome
  /-- An asset goes out on loan, or was held by this loan, or keeps its status. -/
  touched : Consistent loan.status loan.items → ∀ assetId,
    statusOf after.assets assetId = statusOf system.assets assetId ∨
      statusOf after.assets assetId = some .onLoan ∨ loan.holds assetId = true
  /-- While the loan is out, the assets that have not come back are on loan. -/
  out : changed.status ∈ loanOutStatuses → (loan.items.map AssetLoanItem.assetId).Nodup →
    (loan.status ∈ loanOutStatuses → AllOut system.assets loan.items) →
      AllOut after.assets changed.items
  origin : changed.assetRequestId = loan.assetRequestId
  others : OthersKept system after

section Changes

variable {system after : System} {loan changed : AssetLoan} {eventType : LoanEventType}
  {assets : List RowId}

/-- After a change a loan is the changed one or one of the others. -/
theorem LoanChange.mem_after (hchange : LoanChange system after loan changed eventType assets)
    {other : AssetLoan} (h : other ∈ after.loans) :
    other = changed ∨ other ∈ system.loans ∧ other.id ≠ loan.id := by
  rw [hchange.loans] at h
  obtain ⟨source, hsource, rfl⟩ := List.mem_map.mp h
  by_cases hid : source.id = loan.id
  · rw [if_pos hid]
    exact Or.inl rfl
  · rw [if_neg hid]
    exact Or.inr ⟨hsource, hid⟩

/-- The loans that are not changed are still there. -/
theorem LoanChange.exists_after (hchange : LoanChange system after loan changed eventType assets)
    {other : AssetLoan} (h : other ∈ system.loans) : ∃ kept ∈ after.loans, kept.id = other.id := by
  refine ⟨if other.id = loan.id then changed else other, ?_, ?_⟩
  · rw [hchange.loans]
    exact List.mem_map_of_mem h
  · by_cases hid : other.id = loan.id
    · rw [if_pos hid, hchange.id, hid]
    · rw [if_neg hid]

/-- What the history of the changed loan says was received. -/
theorem LoanChange.receivedAssets_self
    (hchange : LoanChange system after loan changed eventType assets) :
    receivedAssets after.loanEvents loan.id = receivedAssets system.loanEvents loan.id ++
      if eventType = .received then assets else [] := by
  rw [hchange.events, receivedAssets_append, receivedAssets_singleton]

theorem LoanChange.receivedAssets_other
    (hchange : LoanChange system after loan changed eventType assets) {id : RowId}
    (h : id ≠ loan.id) :
    receivedAssets after.loanEvents id = receivedAssets system.loanEvents id := by
  have hnone : receivedAssets [⟨loan.id, eventType, assets⟩] id = [] :=
    receivedAssets_eq_nil (by
      intro event hevent hid
      rw [List.mem_singleton] at hevent
      subst hevent
      exact absurd hid.symm h)
  rw [hchange.events, receivedAssets_append, hnone, List.append_nil]

/-- An operation on a loan receives no asset for the second time. -/
theorem LoanChange.once (hchange : LoanChange system after loan changed eventType assets)
    (h : Invariant system) : (receivedAssets after.loanEvents loan.id).Nodup := by
  rw [hchange.receivedAssets_self]
  by_cases hevent : eventType = .received
  · have hnew := hchange.move.received_new hevent (h.assets loan hchange.mem)
    rw [if_pos hevent]
    refine List.nodup_append.mpr ⟨h.once loan hchange.mem, hnew.1, ?_⟩
    intro old hold new hin hsame
    obtain ⟨item, hitem, hid, hdate⟩ := h.dated loan hchange.mem old hold
    exact (hnew.2 new hin).1 item hitem (hid.trans hsame) hdate
  · rw [if_neg hevent, List.append_nil]
    exact h.once loan hchange.mem

/-- What the history of the changed loan says was received has its date. -/
theorem LoanChange.dated (hchange : LoanChange system after loan changed eventType assets)
    (h : Invariant system) {assetId : RowId}
    (hasset : assetId ∈ receivedAssets after.loanEvents loan.id) :
    ∃ item ∈ changed.items, item.assetId = assetId ∧ item.receivedAt.isSome := by
  rw [hchange.receivedAssets_self] at hasset
  rcases List.mem_append.mp hasset with hold | hnew
  · obtain ⟨item, hitem, hid, hdate⟩ := h.dated loan hchange.mem assetId hold
    obtain ⟨kept, hkept, hkeptId, hkeptDate⟩ := hchange.move.received_kept hitem hdate
    exact ⟨kept, hkept, hkeptId.trans hid, hkeptDate⟩
  · by_cases hevent : eventType = .received
    · rw [if_pos hevent] at hnew
      exact ((hchange.move.received_new hevent (h.assets loan hchange.mem)).2 assetId hnew).2
    · rw [if_neg hevent] at hnew
      exact absurd hnew List.not_mem_nil

/-- An operation on a loan keeps the invariant. -/
theorem LoanChange.invariant (hchange : LoanChange system after loan changed eventType assets)
    (h : Invariant system) : Invariant after where
  consistent other hother := by
    rcases hchange.mem_after hother with rfl | ⟨hmem, _⟩
    · exact hchange.move.consistent (h.consistent loan hchange.mem)
    · exact h.consistent other hmem
  assets other hother := by
    rcases hchange.mem_after hother with rfl | ⟨hmem, _⟩
    · rw [hchange.move.map_assetId]
      exact h.assets loan hchange.mem
    · exact h.assets other hmem
  known event hevent := by
    rw [hchange.events] at hevent
    rcases List.mem_append.mp hevent with hold | hnew
    · obtain ⟨other, hother, hid⟩ := h.known event hold
      obtain ⟨kept, hkept, hkeptId⟩ := hchange.exists_after hother
      exact ⟨kept, hkept, hkeptId.trans hid⟩
    · rw [List.mem_singleton] at hnew
      subst hnew
      exact hchange.exists_after hchange.mem
  once other hother := by
    rcases hchange.mem_after hother with rfl | ⟨hmem, hid⟩
    · rw [hchange.id]
      exact hchange.once h
    · rw [hchange.receivedAssets_other hid]
      exact h.once other hmem
  dated other hother assetId hasset := by
    rcases hchange.mem_after hother with rfl | ⟨hmem, hid⟩
    · rw [hchange.id] at hasset
      exact hchange.dated h hasset
    · rw [hchange.receivedAssets_other hid] at hasset
      exact h.dated other hmem assetId hasset
  assetIds := hchange.assetIds ▸ h.assetIds

/-- A new loan: its id is not taken, nothing of it is delivered or received, and
its assets differ and are in no open loan. -/
structure LoanInsertion (system after : System) (loan : AssetLoan) : Prop where
  fresh : ∀ other ∈ system.loans, other.id ≠ loan.id
  loans : after.loans = system.loans ++ [loan]
  events : ∃ added : List AssetLoanEvent, after.loanEvents = system.loanEvents ++ added ∧
    ∀ event ∈ added, event.loanId = loan.id ∧ event.eventType ≠ .received
  assets : after.assets = system.assets
  status : beforeReception loan.status = true
  unreceived : ∀ item ∈ loan.items, item.receivedAt = none
  nodup : (loan.items.map AssetLoanItem.assetId).Nodup
  notOut : loan.status ∉ loanOutStatuses
  undelivered : loan.deliveredAt = none
  free : ∀ item ∈ loan.items, inOpenLoan system item.assetId = false

/-- A new loan changes nothing of what was received. -/
theorem LoanInsertion.receivedAssets (hinsert : LoanInsertion system after loan) (id : RowId) :
    receivedAssets after.loanEvents id = receivedAssets system.loanEvents id := by
  obtain ⟨added, hadded, hevents⟩ := hinsert.events
  rw [hadded, receivedAssets_append,
    receivedAssets_eq_nil fun event hevent _ => (hevents event hevent).2, List.append_nil]

/-- The history says nothing of a loan before it is there. -/
theorem LoanInsertion.receivedAssets_new (hinsert : LoanInsertion system after loan)
    (h : Invariant system) : Loans.receivedAssets system.loanEvents loan.id = [] := by
  refine receivedAssets_eq_nil fun event hevent hid => ?_
  obtain ⟨other, hother, hsame⟩ := h.known event hevent
  exact absurd (hsame.trans hid) (hinsert.fresh other hother)

/-- A new loan keeps the invariant. -/
theorem LoanInsertion.invariant (hinsert : LoanInsertion system after loan)
    (h : Invariant system) : Invariant after where
  consistent other hother := by
    rw [hinsert.loans] at hother
    rcases List.mem_append.mp hother with hold | hnew
    · exact h.consistent other hold
    · rw [List.mem_singleton.mp hnew]
      exact (consistent_of_before hinsert.status).mpr hinsert.unreceived
  assets other hother := by
    rw [hinsert.loans] at hother
    rcases List.mem_append.mp hother with hold | hnew
    · exact h.assets other hold
    · rw [List.mem_singleton.mp hnew]
      exact hinsert.nodup
  known event hevent := by
    obtain ⟨added, hadded, hevents⟩ := hinsert.events
    rw [hadded] at hevent
    rw [hinsert.loans]
    rcases List.mem_append.mp hevent with hold | hnew
    · obtain ⟨other, hother, hid⟩ := h.known event hold
      exact ⟨other, List.mem_append_left _ hother, hid⟩
    · exact ⟨loan, by simp, (hevents event hnew).1.symm⟩
  once other hother := by
    rw [hinsert.receivedAssets]
    rw [hinsert.loans] at hother
    rcases List.mem_append.mp hother with hold | hnew
    · exact h.once other hold
    · rw [List.mem_singleton.mp hnew, hinsert.receivedAssets_new h]
      exact List.nodup_nil
  dated other hother assetId hasset := by
    rw [hinsert.receivedAssets] at hasset
    rw [hinsert.loans] at hother
    rcases List.mem_append.mp hother with hold | hnew
    · exact h.dated other hold assetId hasset
    · rw [List.mem_singleton.mp hnew, hinsert.receivedAssets_new h] at hasset
      exact absurd hasset List.not_mem_nil
  assetIds := hinsert.assets ▸ h.assetIds

/-- Marking the overdue loans keeps the invariant. -/
theorem markOverdue_invariant (today : ℤ) (h : Invariant system) :
    Invariant (markOverdue system today) := by
  have hmem : ∀ other ∈ (markOverdue system today).loans, ∃ loan ∈ system.loans,
      other.id = loan.id ∧ other.items = loan.items ∧
        (Consistent loan.status loan.items → Consistent other.status loan.items) := by
    intro other hother
    obtain ⟨loan, hloan, rfl⟩ := List.mem_map.mp hother
    refine ⟨loan, hloan, ?_⟩
    by_cases hdue : loan.status = .active ∧ loan.expectedReturnDate < today
    · rw [if_pos hdue, hdue.1]
      exact ⟨rfl, rfl, id⟩
    · rw [if_neg hdue]
      exact ⟨rfl, rfl, id⟩
  refine ⟨?_, ?_, ?_, ?_, ?_, h.assetIds⟩
  · intro other hother
    obtain ⟨loan, hloan, _, hitems, hstatus⟩ := hmem other hother
    rw [hitems]
    exact hstatus (h.consistent loan hloan)
  · intro other hother
    obtain ⟨loan, hloan, _, hitems, _⟩ := hmem other hother
    rw [hitems]
    exact h.assets loan hloan
  · intro event hevent
    obtain ⟨loan, hloan, hid⟩ := h.known event hevent
    refine ⟨_, List.mem_map_of_mem hloan, ?_⟩
    by_cases hdue : loan.status = .active ∧ loan.expectedReturnDate < today
    · rw [if_pos hdue]
      exact hid
    · rw [if_neg hdue]
      exact hid
  · intro other hother
    obtain ⟨loan, hloan, hid, _, _⟩ := hmem other hother
    rw [hid]
    exact h.once loan hloan
  · intro other hother assetId hasset
    obtain ⟨loan, hloan, hid, hitems, _⟩ := hmem other hother
    rw [hid] at hasset
    rw [hitems]
    exact h.dated loan hloan assetId hasset

/-- A step that leaves the loans and at most adds notes on them keeps the invariant. -/
theorem Invariant.of_noted {added : List AssetLoanEvent} (h : Invariant system)
    (hloans : after.loans = system.loans) (hevents : after.loanEvents = system.loanEvents ++ added)
    (hadded : ∀ event ∈ added, event.eventType ≠ .received ∧
      ∃ loan ∈ system.loans, loan.id = event.loanId)
    (hassets : (after.assets.map Asset.id).Nodup) : Invariant after := by
  have hreceived : ∀ id, receivedAssets after.loanEvents id =
      receivedAssets system.loanEvents id := by
    intro id
    rw [hevents, receivedAssets_append,
      receivedAssets_eq_nil fun event hevent _ => (hadded event hevent).1, List.append_nil]
  refine ⟨?_, ?_, ?_, ?_, ?_, hassets⟩
  · rw [hloans]
    exact h.consistent
  · rw [hloans]
    exact h.assets
  · intro event hevent
    rw [hevents] at hevent
    rw [hloans]
    rcases List.mem_append.mp hevent with hold | hnew
    · exact h.known event hold
    · exact (hadded event hnew).2
  · intro other hother
    rw [hloans] at hother
    rw [hreceived]
    exact h.once other hother
  · intro other hother assetId hasset
    rw [hloans] at hother
    rw [hreceived] at hasset
    exact h.dated other hother assetId hasset

end Changes

/-! ### What the invariant says of the status -/

/-- Items that agree with a status other than these are not all received. -/
theorem Consistent.not_all_received {status : LoanStatus} {items : List AssetLoanItem}
    (h : Consistent status items) (hitems : items ≠ []) (hreturned : status ≠ .returned)
    (hclosed : status ≠ .closedWithLosses) :
    ¬∀ item ∈ items, item.receivedAt.isSome := by
  intro hall
  have hnone : ∀ item ∈ items, item.receivedAt = none → False := by
    intro item hitem hnone
    have hsome := hall item hitem
    rw [hnone] at hsome
    cases hsome
  have hfirst : (∀ item ∈ items, item.receivedAt = none) → False := by
    intro hunreceived
    obtain ⟨item, hitem⟩ := List.exists_mem_of_ne_nil items hitems
    exact hnone item hitem (hunreceived item hitem)
  cases status with
  | returned => exact hreturned rfl
  | closedWithLosses => exact hclosed rfl
  | pendingReception =>
    obtain ⟨item, hitem, hreceived, _⟩ := h
    exact hnone item hitem hreceived
  | partiallyReturned =>
    obtain ⟨_, item, hitem, hreceived⟩ := h
    exact hnone item hitem hreceived
  | _ => exact hfirst h

/-- The invariant gives the agreement of a loan with items. -/
theorem Consistent.statusAgrees {loan : AssetLoan} (h : Consistent loan.status loan.items)
    (hitems : loan.items ≠ []) : StatusAgrees loan where
  finished := by
    constructor
    · rintro (hstatus | hstatus) <;> rw [hstatus] at h <;> exact h.1
    · intro hall
      by_contra hne
      rw [not_or] at hne
      exact h.not_all_received hitems hne.1 hne.2 hall
  losses := by
    constructor
    · intro hstatus
      rw [hstatus] at h
      obtain ⟨hall, item, hitem, hlost⟩ := h
      exact ⟨hall, item, hitem, hall item hitem, hlost⟩
    · rintro ⟨hall, item, hitem, _, hlost⟩
      by_contra hne
      by_cases hreturned : loan.status = .returned
      · rw [hreturned] at h
        exact h.2 item hitem hlost
      · exact h.not_all_received hitems hreturned hne hall
  partly hstatus := by rw [hstatus] at h; exact h
  awaiting hstatus := by rw [hstatus] at h; exact h
  out hstatus := by
    rcases hstatus with hstatus | hstatus | hstatus <;> rw [hstatus] at h <;> exact h

end InternalControl.Loans
