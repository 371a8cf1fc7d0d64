import InternalControl.Handovers
import InternalControl.Inventories
import InternalControl.LoanRuns
import InternalControl.Transfers
import InternalControl.WriteOffs

/-!
# Loaned assets over runs of all services

An open loan holds its assets alone, and while it is out they are on loan.
Loans, acts and changes by hand keep it so; the reconciliation of an inventory
does unless it marks a loaned asset as lost.
-/

namespace InternalControl.LoanedAssets

open Assets AssetProcesses Documents Fallible Inventories Loans

/-- An asset is out: it has an item that has not come back in an open loan that
was delivered. -/
def lentOut (system : System) (assetId : RowId) : Bool :=
  system.loans.any fun loan => loan.status ∈ openLoanStatuses && loan.deliveredAt.isSome &&
    loan.items.any fun item => item.assetId = assetId && item.receivedAt.isNone

/-- Every asset that is out is on loan, so the guard of its reception accepts it. -/
def LoanedOnLoan (system : System) : Prop :=
  ∀ assetId, lentOut system assetId = true → ∃ asset,
    findAsset system.assets assetId = .ok asset ∧ asset.operationalStatus = .onLoan ∧
      assertOnLoan asset = .ok ()

/-- What every step keeps of loans and assets. -/
structure Lent (system : System) : Prop where
  base : Loans.Invariant system
  /-- An open loan holds its assets alone. -/
  exclusive : ∀ loan ∈ system.loans, ∀ other ∈ system.loans, ∀ assetId,
    loan.holds assetId = true → other.holds assetId = true → loan.id = other.id
  delivered : ∀ loan ∈ system.loans, loan.status ∈ openLoanStatuses →
    (loan.deliveredAt.isSome ↔ loan.status ∈ loanOutStatuses)
  /-- While a loan is out, the assets that have not come back are on loan. -/
  out : ∀ loan ∈ system.loans, loan.status ∈ loanOutStatuses → AllOut system.assets loan.items

theorem holds_iff {loan : AssetLoan} {assetId : RowId} :
    loan.holds assetId = true ↔ loan.status ∈ openLoanStatuses ∧
      ∃ item ∈ loan.items, item.assetId = assetId ∧ item.receivedAt = none := by
  simp [AssetLoan.holds, List.any_eq_true]

theorem lentOut_iff {system : System} {assetId : RowId} :
    lentOut system assetId = true ↔ ∃ loan ∈ system.loans, loan.status ∈ openLoanStatuses ∧
      loan.deliveredAt.isSome ∧ ∃ item ∈ loan.items, item.assetId = assetId ∧
        item.receivedAt = none := by
  simp [lentOut, List.any_eq_true, and_assoc]

/-- A loan that is out is open. -/
theorem open_of_out {status : LoanStatus} (h : status ∈ loanOutStatuses) :
    status ∈ openLoanStatuses := by
  revert h
  cases status <;> decide

/-- A status that changes is open before. -/
theorem open_of_allowed {source target : LoanStatus} (h : target ∈ allowed source) :
    source ∈ openLoanStatuses := by
  revert h
  cases source <;> cases target <;> decide

/-- The assets that are out are on loan. -/
theorem Lent.statusOf_lentOut {system : System} (h : Lent system) {assetId : RowId}
    (hlent : lentOut system assetId = true) : statusOf system.assets assetId = some .onLoan := by
  obtain ⟨loan, hloan, hopen, hdelivered, item, hitem, rfl, hreceived⟩ := lentOut_iff.mp hlent
  exact h.out loan hloan ((h.delivered loan hloan hopen).mp hdelivered) item hitem hreceived

theorem Lent.loanedOnLoan {system : System} (h : Lent system) : LoanedOnLoan system := by
  intro assetId hlent
  have hstatus := h.statusOf_lentOut hlent
  rw [statusOf, Option.map_eq_some_iff] at hstatus
  obtain ⟨asset, hfound, honLoan⟩ := hstatus
  refine ⟨asset, ?_, honLoan, ?_⟩
  · rw [findAsset, hfound]
  · rw [assertOnLoan, if_neg (by simp [honLoan])]

/-! ### The operations on loans -/

section Loan

variable {system after : System} {loan changed : AssetLoan} {eventType : LoanEventType}
  {assets : List RowId}

/-- What has not come back after a move had not come back before it. -/
theorem unreceived_before (hmove : LoanMove loan changed eventType assets) {item : AssetLoanItem}
    (hitem : item ∈ changed.items) (hreceived : item.receivedAt = none) :
    ∃ other ∈ loan.items, other.assetId = item.assetId ∧ other.receivedAt = none := by
  have hprogress : ∀ hitems : changed.items.map progress = loan.items.map progress,
      ∃ other ∈ loan.items, other.assetId = item.assetId ∧ other.receivedAt = none := by
    intro hitems
    obtain ⟨other, hother, hsame⟩ := exists_of_progress hitems hitem
    exact ⟨other, hother, assetId_eq_of_progress hsame,
      (receivedAt_eq_of_progress hsame).trans hreceived⟩
  cases hmove with
  | before _ _ _ _ _ hitems => exact hprogress hitems
  | same _ _ _ _ hitems => exact ⟨item, hitems ▸ hitem, rfl, hreceived⟩
  | returned _ _ hitems _ => exact hprogress hitems
  | received now _ hitems _ =>
    rw [hitems] at hitem
    obtain ⟨other, hother, rfl⟩ := List.mem_map.mp hitem
    refine ⟨other, hother, (receivedItem_assetId now other).symm, ?_⟩
    by_contra hsome
    have hkept := @receivedItem_isSome now _ (Option.isSome_iff_ne_none.mpr hsome)
    rw [hreceived] at hkept
    cases hkept

/-- A change gives a loan no asset it did not hold. -/
theorem holds_before (hchange : LoanChange system after loan changed eventType assets)
    {assetId : RowId} (h : changed.holds assetId = true) : loan.holds assetId = true := by
  rw [holds_iff] at h ⊢
  obtain ⟨hopen, item, hitem, rfl, hreceived⟩ := h
  obtain ⟨other, hother, hid, hnone⟩ := unreceived_before hchange.move hitem hreceived
  refine ⟨?_, other, hother, hid, hnone⟩
  rcases hchange.legal with hsame | hallowed
  · exact hsame ▸ hopen
  · exact open_of_allowed hallowed

/-- A change of an open loan dates the delivery exactly when it is out. -/
theorem delivered_of_change (hchange : LoanChange system after loan changed eventType assets)
    (h : loan.status ∈ openLoanStatuses →
      (loan.deliveredAt.isSome ↔ loan.status ∈ loanOutStatuses))
    (hopen : changed.status ∈ openLoanStatuses) :
    changed.deliveredAt.isSome ↔ changed.status ∈ loanOutStatuses := by
  rcases hchange.delivered with ⟨hsame, hout⟩ | ⟨hstatus, hsome⟩
  · have hbefore : loan.status ∈ openLoanStatuses ∧
        (loan.status ∈ loanOutStatuses → changed.status ∈ loanOutStatuses) := by
      have hstays : ∀ {source target : LoanStatus}, target ∈ allowed source →
          target ∈ openLoanStatuses → source ∈ loanOutStatuses → target ∈ loanOutStatuses := by
        intro source target
        cases source <;> cases target <;> decide
      rcases hchange.legal with heq | hallowed
      · exact ⟨heq ▸ hopen, fun hloan => heq ▸ hloan⟩
      · exact ⟨open_of_allowed hallowed, hstays hallowed hopen⟩
    rw [hsame]
    exact (h hbefore.1).trans ⟨hbefore.2, hout⟩
  · rw [hstatus]
    exact ⟨fun _ => by decide, fun _ => hsome⟩

/-- An asset another loan holds is not touched. -/
theorem out_of_other (hchange : LoanChange system after loan changed eventType assets)
    (h : Lent system) {other : AssetLoan} (hother : other ∈ system.loans)
    (hid : other.id ≠ loan.id) (hout : other.status ∈ loanOutStatuses) :
    AllOut after.assets other.items := by
  intro item hitem hreceived
  have hholds := holds_of_unreceived (open_of_out hout) hitem hreceived
  have hbefore := h.out other hother hout item hitem hreceived
  rcases hchange.touched (h.base.consistent loan hchange.mem) item.assetId with
    hkept | honLoan | hloan
  · rw [hkept]
    exact hbefore
  · exact honLoan
  · exact absurd (h.exclusive other hother loan hchange.mem item.assetId hholds hloan) hid

theorem lent_of_change (hchange : LoanChange system after loan changed eventType assets)
    (h : Lent system) : Lent after where
  base := hchange.invariant h.base
  exclusive first hfirst second hsecond assetId hone htwo := by
    rcases hchange.mem_after hfirst with rfl | ⟨hfirst, hne⟩ <;>
      rcases hchange.mem_after hsecond with rfl | ⟨hsecond, hne'⟩
    · rfl
    · rw [hchange.id]
      exact h.exclusive loan hchange.mem second hsecond assetId (holds_before hchange hone) htwo
    · rw [hchange.id]
      exact h.exclusive first hfirst loan hchange.mem assetId hone (holds_before hchange htwo)
    · exact h.exclusive first hfirst second hsecond assetId hone htwo
  delivered other hother hopen := by
    rcases hchange.mem_after hother with rfl | ⟨hmem, _⟩
    · exact delivered_of_change hchange (h.delivered loan hchange.mem) hopen
    · exact h.delivered other hmem hopen
  out other hother hout := by
    rcases hchange.mem_after hother with rfl | ⟨hmem, hid⟩
    · exact hchange.out hout (h.base.assets loan hchange.mem) (h.out loan hchange.mem)
    · exact out_of_other hchange h hmem hid hout

/-- A new loan holds assets no loan held. -/
theorem holds_of_insertion (hinsert : LoanInsertion system after loan) {other : AssetLoan}
    (hother : other ∈ system.loans) {assetId : RowId} (hnew : loan.holds assetId = true) :
    ¬other.holds assetId = true := by
  intro hholds
  obtain ⟨_, item, hitem, rfl, _⟩ := holds_iff.mp hnew
  have hfree := hinsert.free item hitem
  rw [inOpenLoan, List.any_eq_false] at hfree
  exact hfree other hother hholds

theorem lent_of_insertion (hinsert : LoanInsertion system after loan) (h : Lent system) :
    Lent after := by
  have hmem : ∀ other ∈ after.loans, other ∈ system.loans ∨ other = loan := by
    intro other hother
    rw [hinsert.loans] at hother
    exact (List.mem_append.mp hother).imp_right List.mem_singleton.mp
  refine ⟨hinsert.invariant h.base, ?_, ?_, ?_⟩
  · intro first hfirst second hsecond assetId hone htwo
    rcases hmem first hfirst with hfirst | rfl <;> rcases hmem second hsecond with hsecond | rfl
    · exact h.exclusive first hfirst second hsecond assetId hone htwo
    · exact absurd hone (holds_of_insertion hinsert hfirst htwo)
    · exact absurd htwo (holds_of_insertion hinsert hsecond hone)
    · rfl
  · intro other hother hopen
    rcases hmem other hother with hother | rfl
    · exact h.delivered other hother hopen
    · rw [hinsert.undelivered]
      exact iff_of_false (fun hsome => Bool.noConfusion hsome) hinsert.notOut
  · intro other hother hout
    rcases hmem other hother with hother | rfl
    · rw [hinsert.assets]
      exact h.out other hother hout
    · exact absurd hout hinsert.notOut

theorem lent_markOverdue (today : ℤ) (h : Lent system) : Lent (markOverdue system today) := by
  have hmem : ∀ other ∈ (markOverdue system today).loans, ∃ loan ∈ system.loans,
      other.id = loan.id ∧ other.items = loan.items ∧ other.deliveredAt = loan.deliveredAt ∧
        (other.status ∈ openLoanStatuses ↔ loan.status ∈ openLoanStatuses) ∧
        (other.status ∈ loanOutStatuses ↔ loan.status ∈ loanOutStatuses) := by
    intro other hother
    obtain ⟨loan, hloan, rfl⟩ := List.mem_map.mp hother
    refine ⟨loan, hloan, ?_⟩
    by_cases hdue : loan.status = .active ∧ loan.expectedReturnDate < today
    · have hopen : LoanStatus.overdue ∈ openLoanStatuses ↔ LoanStatus.active ∈ openLoanStatuses := by
        decide
      have hout : LoanStatus.overdue ∈ loanOutStatuses ↔ LoanStatus.active ∈ loanOutStatuses := by
        decide
      rw [if_pos hdue, hdue.1]
      exact ⟨rfl, rfl, rfl, hopen, hout⟩
    · rw [if_neg hdue]
      exact ⟨rfl, rfl, rfl, Iff.rfl, Iff.rfl⟩
  have hholds : ∀ {other loan : AssetLoan} {assetId : RowId}, other.items = loan.items →
      (other.status ∈ openLoanStatuses ↔ loan.status ∈ openLoanStatuses) →
        other.holds assetId = true → loan.holds assetId = true := by
    intro other loan assetId hitems hopen hother
    rw [holds_iff] at hother ⊢
    rw [← hopen, ← hitems]
    exact hother
  refine ⟨markOverdue_invariant today h.base, ?_, ?_, ?_⟩
  · intro first hfirst second hsecond assetId hone htwo
    obtain ⟨loan, hloan, hid, hitems, _, hopen, _⟩ := hmem first hfirst
    obtain ⟨loan', hloan', hid', hitems', _, hopen', _⟩ := hmem second hsecond
    rw [hid, hid']
    exact h.exclusive loan hloan loan' hloan' assetId (hholds hitems hopen hone)
      (hholds hitems' hopen' htwo)
  · intro other hother hopen
    obtain ⟨loan, hloan, _, _, hdelivered, hopen', hout⟩ := hmem other hother
    rw [hdelivered, hout]
    exact h.delivered loan hloan (hopen'.mp hopen)
  · intro other hother hout
    obtain ⟨loan, hloan, _, hitems, _, _, hout'⟩ := hmem other hother
    rw [hitems]
    exact h.out loan hloan (hout'.mp hout)

end Loan

/-- A step that leaves the loans, and the assets that are out on loan, keeps the invariant. -/
theorem Lent.of_kept {system after : System} (h : Lent system)
    (hloans : after.loans = system.loans) (hbase : Loans.Invariant after)
    (hkept : ∀ assetId, lentOut system assetId = true →
      statusOf after.assets assetId = some .onLoan) : Lent after where
  base := hbase
  exclusive := hloans ▸ h.exclusive
  delivered := hloans ▸ h.delivered
  out loan hloan hout := by
    rw [hloans] at hloan
    intro item hitem hreceived
    refine hkept item.assetId (lentOut_iff.mpr ⟨loan, hloan, open_of_out hout, ?_, item, hitem,
      rfl, hreceived⟩)
    exact (h.delivered loan hloan (open_of_out hout)).mpr hout

theorem lent_of_loansKept {system after : System} (hkept : LoansKept system after)
    (h : Lent system) : Lent after :=
  h.of_kept hkept.loans
    (h.base.elsewhere hkept.loans hkept.loanEvents (hkept.assets.assetIds h.base.assetIds))
    fun assetId hlent => hkept.assets.onLoan assetId trivial (h.statusOf_lentOut hlent)

theorem lent_of_effect {system after : System} (heffect : LoanEffect system after)
    (h : Lent system) : Lent after := by
  cases heffect with
  | change hchange => exact lent_of_change hchange h
  | insertion hinsert => exact lent_of_insertion hinsert h
  | overdue today hafter => exact hafter ▸ lent_markOverdue today h
  | noted hloans hassets hevents hadded hothers =>
    refine h.of_kept hloans 
      ((LoanEffect.noted hloans hassets hevents hadded hothers).invariant h.base)
      fun assetId hlent => ?_
    rw [hassets]
    exact h.statusOf_lentOut hlent

end InternalControl.LoanedAssets
