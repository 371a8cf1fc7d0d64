import InternalControl.AssetChanges
import InternalControl.LoanStatuses

/-!
# Runs of the service of loans

Each operation is a change of one loan, so every run of operations, by this
service and by the others, leaves each status in agreement with its items.
-/

namespace InternalControl.Loans

open Assets AssetProcesses Fallible

/-! ### What an operation has checked -/

theorem lockLoan_eq_ok {system : System} {id : RowId} {loan : AssetLoan}
    (h : lockLoan system id = .ok loan) : loan ∈ system.loans ∧ loan.id = id := by
  unfold lockLoan at h
  split at h
  · next found hfound =>
    obtain rfl := Except.ok.inj h
    exact ⟨List.mem_of_find?_eq_some hfound, by simpa using List.find?_some hfound⟩
  · cases h

theorem assertLoanTransition_eq_ok {source target : LoanStatus} {result : Unit}
    (h : assertLoanTransition source target = .ok result) : target ∈ allowed source := by
  unfold assertLoanTransition at h
  split at h
  · cases h
  · next hallowed => simpa [canTransition] using hallowed

/-- A status that leads to one before the reception is before it too. -/
theorem beforeReception_of_allowed {source target : LoanStatus} (h : target ∈ allowed source)
    (htarget : beforeReception target = true) : beforeReception source = true := by
  revert h htarget
  cases source <;> cases target <;> decide

/-- What has the same progress is out when the other is. -/
theorem allOut_of_progress {assets : List Asset} {items others : List AssetLoanItem}
    (hprogress : items.map progress = others.map progress) (h : AllOut assets others) :
    AllOut assets items := by
  intro item hitem hreceived
  obtain ⟨other, hother, hsame⟩ := exists_of_progress hprogress hitem
  rw [← assetId_eq_of_progress hsame]
  exact h other hother ((receivedAt_eq_of_progress hsame).trans hreceived)

/-- A loan that is written back while the assets stay as they are. -/
theorem loanChange_kept {system : System} {id : RowId} {loan changed : AssetLoan}
    {eventType : LoanEventType} {assets : List RowId}
    (hlock : lockLoan system id = .ok loan) (hid : changed.id = loan.id)
    (hmove : LoanMove loan changed eventType assets)
    (hlegal : changed.status = loan.status ∨ changed.status ∈ allowed loan.status)
    (hdelivered : changed.deliveredAt = loan.deliveredAt)
    (hprogress : changed.items.map progress = loan.items.map progress)
    (hout : changed.status ∈ loanOutStatuses → loan.status ∈ loanOutStatuses)
    (horigin : changed.assetRequestId = loan.assetRequestId) :
    LoanChange system (addEvent (saveLoan system changed) id eventType assets) loan changed
      eventType assets where
  mem := (lockLoan_eq_ok hlock).1
  id := hid
  loans := by
    rw [← hid]
    rfl
  events := by
    rw [(lockLoan_eq_ok hlock).2]
    rfl
  assetIds := rfl
  move := hmove
  legal := hlegal
  delivered := Or.inl ⟨hdelivered, hout⟩
  touched _ _ := Or.inl rfl
  out hafter _ hbefore := allOut_of_progress hprogress (hbefore (hout hafter))
  origin := horigin
  others := ⟨rfl, rfl, rfl, rfl⟩

/-- A loan that changes to a status in which it is not out and nothing is received. -/
theorem loanChange_status {system : System} {id : RowId} {loan changed : AssetLoan}
    {target : LoanStatus} {eventType : LoanEventType} (hlock : lockLoan system id = .ok loan)
    (hallowed : target ∈ allowed loan.status) (htarget : beforeReception target = true)
    (hnotOut : target ∉ loanOutStatuses) (hevent : eventType ≠ .received)
    (hid : changed.id = loan.id) (hstatus : changed.status = target)
    (hdelivered : changed.deliveredAt = loan.deliveredAt) (hitems : changed.items = loan.items)
    (horigin : changed.assetRequestId = loan.assetRequestId) :
    LoanChange system (addEvent (saveLoan system changed) id eventType) loan changed
      eventType [] := by
  have hbefore := beforeReception_of_allowed hallowed htarget
  subst hstatus
  exact loanChange_kept hlock hid (.before eventType [] hevent hbefore htarget (by rw [hitems]))
    (Or.inr hallowed) hdelivered (by rw [hitems]) (fun hout => absurd hout hnotOut) horigin

/-- A loan that keeps its status, its delivery and its items. -/
theorem loanChange_same {system : System} {id : RowId} {loan changed : AssetLoan}
    {eventType : LoanEventType} (hlock : lockLoan system id = .ok loan)
    (hevent : eventType ≠ .received) (hid : changed.id = loan.id)
    (hstatus : changed.status = loan.status) (hdelivered : changed.deliveredAt = loan.deliveredAt)
    (hitems : changed.items = loan.items) (horigin : changed.assetRequestId = loan.assetRequestId) :
    LoanChange system (addEvent (saveLoan system changed) id eventType) loan changed
      eventType [] :=
  loanChange_kept hlock hid (.same eventType [] hevent hstatus hitems) (Or.inl hstatus) hdelivered
    (by rw [hitems]) (fun hout => hstatus ▸ hout) horigin

/-! ### The operations -/

section Operations

variable {system after : System} {id : RowId}

theorem approve_change {actorId : RowId} {outside : Except Failure Unit}
    (h : approve system id actorId outside = .ok after) :
    ∃ loan changed, LoanChange system after loan changed .approved [] := by
  unfold approve at h
  obtain ⟨loan, hlock, h⟩ := bind_eq_ok h
  obtain ⟨_, _, h⟩ := bind_eq_ok h
  obtain ⟨_, _, h⟩ := bind_eq_ok h
  obtain ⟨_, htransition, h⟩ := bind_eq_ok h
  obtain rfl := Except.ok.inj h
  have hallowed := assertLoanTransition_eq_ok htransition
  exact ⟨loan, _, loanChange_status hlock hallowed (by decide) (by decide) (by decide)
    rfl rfl rfl rfl rfl⟩

theorem reject_change {actorId : RowId} {outside : Except Failure Unit}
    (h : reject system id actorId outside = .ok after) :
    ∃ loan changed, LoanChange system after loan changed .rejected [] := by
  unfold reject at h
  obtain ⟨loan, hlock, h⟩ := bind_eq_ok h
  obtain ⟨_, _, h⟩ := bind_eq_ok h
  obtain ⟨_, _, h⟩ := bind_eq_ok h
  obtain ⟨_, htransition, h⟩ := bind_eq_ok h
  obtain rfl := Except.ok.inj h
  have hallowed := assertLoanTransition_eq_ok htransition
  exact ⟨loan, _, loanChange_status hlock hallowed (by decide) (by decide) (by decide)
    rfl rfl rfl rfl rfl⟩

theorem cancel_change {outside : Except Failure Unit}
    (h : cancel system id outside = .ok after) :
    ∃ loan changed, LoanChange system after loan changed .cancelled [] := by
  unfold cancel at h
  obtain ⟨_, _, h⟩ := bind_eq_ok h
  obtain ⟨loan, hlock, h⟩ := bind_eq_ok h
  obtain ⟨_, htransition, h⟩ := bind_eq_ok h
  obtain ⟨_, h⟩ := check_eq_ok h
  obtain rfl := Except.ok.inj h
  have hallowed := assertLoanTransition_eq_ok htransition
  exact ⟨loan, _, loanChange_status hlock hallowed (by decide) (by decide) (by decide)
    rfl rfl rfl rfl rfl⟩

/-- A delivery leaves the items their progress and the assets on loan. -/
theorem deliverItems_spec {loan : AssetLoan} {items : List AssetLoanItem} {assets : List Asset}
    {result : List Asset × List AssetLoanItem} (h : deliverItems loan assets items = .ok result) :
    result.1.map Asset.id = assets.map Asset.id ∧
      result.2.map progress = items.map progress ∧
      (∀ assetId, statusOf result.1 assetId = statusOf assets assetId ∨
        statusOf result.1 assetId = some .onLoan) ∧
      ∀ item ∈ items, statusOf result.1 item.assetId = some .onLoan := by
  induction items generalizing assets result with
  | nil =>
    obtain rfl := Except.ok.inj h
    exact ⟨rfl, rfl, fun _ => Or.inl rfl, fun _ hitem => absurd hitem List.not_mem_nil⟩
  | cons item rest ih =>
    unfold deliverItems at h
    obtain ⟨⟨current, table⟩, happly, h⟩ := bind_eq_ok h
    obtain ⟨⟨table', rest'⟩, hrest, h⟩ := bind_eq_ok h
    obtain rfl := Except.ok.inj h
    obtain ⟨hids, hprogress, htouched, hout⟩ := ih hrest
    have hfirst := applyWithin_map_id happly
    obtain ⟨_, hstatus, _, rfl⟩ := applyWithin_eq_ok happly
    have hupdated : ∀ assetId, statusOf (updateAsset assets item.assetId
        { operationalStatus := some .onLoan }) assetId =
          if assetId = item.assetId then some .onLoan else statusOf assets assetId := by
      intro assetId
      rw [statusOf_updateAsset]
      by_cases hsame : assetId = item.assetId
      · rw [if_pos hsame, if_pos hsame, hsame, hstatus]
        rfl
      · rw [if_neg hsame, if_neg hsame]
    refine ⟨hids.trans hfirst, ?_, fun assetId => ?_, fun other hother => ?_⟩
    · rw [List.map_cons, List.map_cons, hprogress]
      rfl
    · rcases htouched assetId with hkept | honLoan
      · rw [hupdated] at hkept
        by_cases hsame : assetId = item.assetId
        · rw [if_pos hsame] at hkept
          exact Or.inr hkept
        · rw [if_neg hsame] at hkept
          exact Or.inl hkept
      · exact Or.inr honLoan
    · rcases List.mem_cons.mp hother with rfl | hother
      · rcases htouched other.assetId with hkept | honLoan
        · rw [hupdated, if_pos rfl] at hkept
          exact hkept
        · exact honLoan
      · exact hout other hother

theorem deliverWithin_change {calendar : Calendar} {now : ℤ} {outside : Except Failure Unit}
    (h : deliverWithin calendar system id now outside = .ok after) :
    ∃ loan changed, LoanChange system after loan changed .delivered [] := by
  unfold deliverWithin at h
  obtain ⟨loan, hlock, h⟩ := bind_eq_ok h
  obtain ⟨_, htransition, h⟩ := bind_eq_ok h
  obtain ⟨_, h⟩ := check_eq_ok h
  obtain ⟨_, h⟩ := check_eq_ok h
  obtain ⟨_, _, h⟩ := bind_eq_ok h
  obtain ⟨_, h⟩ := check_eq_ok h
  obtain ⟨_, h⟩ := check_eq_ok h
  obtain ⟨⟨table, items⟩, hdeliver, h⟩ := bind_eq_ok h
  obtain rfl := Except.ok.inj h
  obtain ⟨hmem, hid⟩ := lockLoan_eq_ok hlock
  obtain ⟨hids, hprogress, htouched, hout⟩ := deliverItems_spec hdeliver
  have hallowed := assertLoanTransition_eq_ok htransition
  have hbefore := beforeReception_of_allowed hallowed (by decide)
  refine ⟨loan, { loan with status := .pendingSignatures, deliveredAt := some now, items := items },
    hmem, rfl, rfl, hid ▸ rfl, hids, .before .delivered [] (by decide) hbefore rfl hprogress, Or.inr hallowed,
    Or.inr ⟨rfl, rfl⟩,
    fun _ assetId => (htouched assetId).imp_right Or.inl, fun _ _ _ => ?_, rfl,
    ⟨rfl, rfl, rfl, rfl⟩⟩
  exact allOut_of_progress hprogress fun item hitem _ => hout item hitem

theorem actGenerated_change {documentId : RowId} {previousReplaceable : Bool}
    (h : actGenerated system id documentId previousReplaceable = .ok after) :
    ∃ loan changed, LoanChange system after loan changed .deliveryActGenerated [] := by
  unfold actGenerated at h
  obtain ⟨loan, hlock, h⟩ := bind_eq_ok h
  obtain ⟨_, h⟩ := check_eq_ok h
  obtain ⟨_, h⟩ := check_eq_ok h
  obtain rfl := Except.ok.inj h
  exact ⟨loan, _, loanChange_same hlock (by decide) rfl rfl rfl rfl rfl⟩

/-- What the signatures of the act leave of a loan. -/
theorem actSigned_change {documentId : RowId}
    (h : actSigned system id documentId = .ok after) :
    ∃ loan changed, LoanChange system after loan changed .deliveryActSigned [] := by
  unfold actSigned at h
  obtain ⟨loan, hlock, h⟩ := bind_eq_ok h
  obtain ⟨_, h⟩ := check_eq_ok h
  obtain rfl := Except.ok.inj h
  by_cases hpending : loan.status = .pendingSignatures
  · rw [if_pos hpending]
    have hmove : LoanMove loan { loan with status := .active } .deliveryActSigned [] :=
      .before _ [] (by decide) (by rw [hpending]; decide) rfl rfl
    have hallowed : LoanStatus.active ∈ allowed loan.status := by
      rw [hpending]
      decide
    have hout : loan.status ∈ loanOutStatuses := by
      rw [hpending]
      decide
    exact ⟨loan, _, loanChange_kept hlock rfl hmove (Or.inr hallowed) rfl rfl (fun _ => hout)
      rfl⟩
  · rw [if_neg hpending]
    exact ⟨loan, loan, loanChange_same hlock (by decide) rfl rfl rfl rfl rfl⟩

theorem regenerateDeliveryAct_change {contactPersonId : Option RowId} {actRejected : Bool}
    {outside : Except Failure Unit}
    (h : regenerateDeliveryAct system id contactPersonId actRejected outside = .ok after) :
    ∃ loan changed, LoanChange system after loan changed .deliveryActRegenerated [] := by
  unfold regenerateDeliveryAct at h
  obtain ⟨loan, hlock, h⟩ := bind_eq_ok h
  obtain ⟨_, h⟩ := check_eq_ok h
  obtain ⟨_, h⟩ := check_eq_ok h
  obtain ⟨_, h⟩ := check_eq_ok h
  obtain ⟨_, _, h⟩ := bind_eq_ok h
  obtain rfl := Except.ok.inj h
  exact ⟨loan, _, loanChange_same hlock (by decide) rfl rfl rfl rfl rfl⟩

/-- Undoing a delivery touches the assets of its items and no others. -/
theorem undoItems_spec {items : List AssetLoanItem} {assets result : List Asset}
    (h : undoItems assets items = .ok result) :
    result.map Asset.id = assets.map Asset.id ∧
      ∀ assetId, statusOf result assetId = statusOf assets assetId ∨
        ∃ item ∈ items, item.assetId = assetId := by
  induction items generalizing assets with
  | nil =>
    obtain rfl := Except.ok.inj h
    exact ⟨rfl, fun _ => Or.inl rfl⟩
  | cons item rest ih =>
    unfold undoItems at h
    obtain ⟨⟨current, table⟩, happly, h⟩ := bind_eq_ok h
    obtain ⟨hids, htouched⟩ := ih h
    have hfirst := applyWithin_map_id happly
    obtain ⟨_, _, _, rfl⟩ := applyWithin_eq_ok happly
    refine ⟨hids.trans hfirst, fun assetId => ?_⟩
    by_cases hsame : assetId = item.assetId
    · exact Or.inr ⟨item, List.mem_cons_self, hsame.symm⟩
    · rcases htouched assetId with hkept | ⟨other, hother, hid⟩
      · rw [statusOf_updateAsset, if_neg hsame] at hkept
        exact Or.inl hkept
      · exact Or.inr ⟨other, List.mem_cons_of_mem _ hother, hid⟩

/-- An open loan holds the assets of its items that have not been received. -/
theorem holds_of_unreceived {loan : AssetLoan} {item : AssetLoanItem}
    (hstatus : loan.status ∈ openLoanStatuses) (hitem : item ∈ loan.items)
    (hreceived : item.receivedAt = none) : loan.holds item.assetId = true := by
  rw [AssetLoan.holds, Bool.and_eq_true, decide_eq_true_eq, List.any_eq_true]
  exact ⟨hstatus, item, hitem, by simp [hreceived]⟩

theorem undoDelivery_change {voided : Except Failure Unit}
    (h : undoDelivery system id voided = .ok after) :
    ∃ loan changed, LoanChange system after loan changed .deliveryUndone [] := by
  unfold undoDelivery at h
  obtain ⟨_, _, h⟩ := bind_eq_ok h
  obtain ⟨loan, hlock, h⟩ := bind_eq_ok h
  obtain ⟨hpending, h⟩ := check_eq_ok h
  obtain ⟨_, htransition, h⟩ := bind_eq_ok h
  obtain ⟨table, hundo, h⟩ := bind_eq_ok h
  obtain rfl := Except.ok.inj h
  obtain ⟨hmem, hid⟩ := lockLoan_eq_ok hlock
  obtain ⟨hids, htouched⟩ := undoItems_spec hundo
  have hallowed := assertLoanTransition_eq_ok htransition
  have hstatus := not_not.mp hpending
  have hbefore := beforeReception_of_allowed hallowed (by decide)
  have hclosed : LoanStatus.cancelled ∉ loanOutStatuses := by decide
  refine ⟨loan, { loan with status := .cancelled }, hmem, rfl, rfl, hid ▸ rfl, hids,
    .before .deliveryUndone [] (by decide) hbefore rfl rfl, Or.inr hallowed,
    Or.inl ⟨rfl, fun hout => absurd hout hclosed⟩,
    fun hconsistent assetId => ?_, fun hout => absurd hout hclosed, rfl, ⟨rfl, rfl, rfl, rfl⟩⟩
  rcases htouched assetId with hkept | ⟨item, hitem, rfl⟩
  · exact Or.inl hkept
  · have hreceived := (consistent_of_before hbefore).mp hconsistent item hitem
    have hopen : loan.status ∈ openLoanStatuses := by
      rw [hstatus]
      decide
    exact Or.inr (Or.inr (holds_of_unreceived hopen hitem hreceived))

/-! ### Return and reception -/

/-- What recording returns has done: the progress stays, and what waited still
does, as does the last item recorded. -/
theorem recordReturns_spec {loan : AssetLoan} {now : ℤ} {returns : List ReturnedAsset}
    {seen : List RowId} {items result : List AssetLoanItem}
    (hitems : items.map progress = loan.items.map progress)
    (h : recordReturns loan now seen items returns = .ok result) :
    result.map progress = loan.items.map progress ∧
      ((∃ item ∈ items, awaits item = true) ∨ returns ≠ [] →
        ∃ item ∈ result, awaits item = true) := by
  induction returns generalizing seen items with
  | nil =>
    obtain rfl := Except.ok.inj h
    exact ⟨hitems, fun hsome => hsome.resolve_right fun hne => hne rfl⟩
  | cons returned rest ih =>
    unfold recordReturns at h
    split at h
    · cases h
    split at h
    · cases h
    next item hitem =>
    have hindex : (KeyedMap.index AssetLoanItem.assetId loan.items).get? returned.assetId =
        some item := hitem
    have hmem := (KeyedMap.mem_of_get?_index hindex).1
    dsimp only at h
    split at h
    · cases h
    next hreceived =>
    split at h
    · cases h
    split at h
    · cases h
    have hnone : item.receivedAt = none := by simpa using hreceived
    obtain ⟨hprogress, hawaits⟩ := ih (by
      rw [← hitems, List.map_map]
      refine List.map_congr_left fun other _ => ?_
      rw [Function.comp_apply]
      split <;> rfl) h
    refine ⟨hprogress, fun _ => hawaits (Or.inl ?_)⟩
    obtain ⟨other, hother, hsame⟩ := exists_of_progress hitems.symm hmem
    have hid : other.id = item.id := congrArg Prod.fst hsame
    refine ⟨_, List.mem_map_of_mem hother, ?_⟩
    rw [if_pos hid]
    simp [awaits, receivedAt_eq_of_progress hsame, hnone]

theorem startReturn_change {dto : ReturnLoanDto} {now : ℤ}
    (h : startReturn system id dto now = .ok after) :
    ∃ loan changed assets, LoanChange system after loan changed .returnStarted assets := by
  unfold startReturn at h
  obtain ⟨loan, hlock, h⟩ := bind_eq_ok h
  obtain ⟨_, _, h⟩ := bind_eq_ok h
  obtain ⟨_, htransition, h⟩ := bind_eq_ok h
  obtain ⟨items, hrecord, h⟩ := bind_eq_ok h
  obtain rfl := Except.ok.inj h
  obtain ⟨hprogress, hawaits⟩ := recordReturns_spec rfl hrecord
  have hallowed := assertLoanTransition_eq_ok htransition
  have hmove : LoanMove loan { loan with status := .pendingReception, items := items }
      .returnStarted (dto.assetsReturned.map ReturnedAsset.assetId) :=
    .returned _ rfl hprogress (hawaits (Or.inr dto.nonempty))
  have hout : loan.status ∈ loanOutStatuses := by
    revert hallowed
    cases loan.status <;> decide
  exact ⟨loan, _, _, loanChange_kept hlock rfl hmove (Or.inr hallowed) rfl hprogress (fun _ => hout)
    rfl⟩

/-- A reception dates the items that wait, touches their assets, and no others. -/
theorem receiveItems_spec {now : ℤ} {items : List AssetLoanItem} {assets : List Asset}
    {result : List Asset × List AssetLoanItem × List AssetLoanItem}
    (h : receiveItems now assets items = .ok result) :
    result.1.map Asset.id = assets.map Asset.id ∧ result.2.1 = items.map (receivedItem now) ∧
      result.2.2 = (items.filter awaits).map (receivedItem now) ∧
      ∀ assetId, statusOf result.1 assetId = statusOf assets assetId ∨
        ∃ item ∈ items, awaits item = true ∧ item.assetId = assetId := by
  induction items generalizing assets result with
  | nil =>
    obtain rfl := Except.ok.inj h
    exact ⟨rfl, rfl, rfl, fun _ => Or.inl rfl⟩
  | cons item rest ih =>
    unfold receiveItems at h
    split at h
    · next hskip =>
      have hwait : awaits item = false := by
        rw [← Bool.not_eq_true, awaits, Bool.and_eq_true]
        rintro ⟨hcondition, hreceived⟩
        simp_all
      obtain ⟨⟨table, after, received⟩, hrest, h⟩ := bind_eq_ok h
      obtain rfl := Except.ok.inj h
      obtain ⟨hids, hafter, hreceived, htouched⟩ := ih hrest
      refine ⟨hids, ?_, ?_, fun assetId => ?_⟩
      · simp only [List.map_cons, receivedItem, hwait]
        simpa using hafter
      · rw [List.filter_cons_of_neg (by simp [hwait])]
        exact hreceived
      · refine (htouched assetId).imp_right ?_
        rintro ⟨other, hother, hrest⟩
        exact ⟨other, List.mem_cons_of_mem _ hother, hrest⟩
    · next htake =>
      have hwait : awaits item = true := by
        rw [awaits, Bool.and_eq_true]
        simpa [Option.isSome_iff_ne_none, Option.isNone_iff_eq_none] using htake
      obtain ⟨⟨current, table⟩, happly, h⟩ := bind_eq_ok h
      obtain ⟨⟨table', after, received⟩, hrest, h⟩ := bind_eq_ok h
      obtain rfl := Except.ok.inj h
      obtain ⟨hids, hafter, hreceived, htouched⟩ := ih hrest
      have hfirst := applyWithin_map_id happly
      obtain ⟨_, _, _, rfl⟩ := applyWithin_eq_ok happly
      have hitem : receivedItem now item = { item with receivedAt := some now } := if_pos hwait
      refine ⟨hids.trans hfirst, ?_, ?_, fun assetId => ?_⟩
      · rw [List.map_cons, hitem]
        exact congrArg (_ :: ·) hafter
      · rw [List.filter_cons_of_pos hwait, List.map_cons, hitem]
        exact congrArg (_ :: ·) hreceived
      · by_cases hsame : assetId = item.assetId
        · exact Or.inr ⟨item, List.mem_cons_self, hwait, hsame.symm⟩
        · rcases htouched assetId with hkept | ⟨other, hother, hrest⟩
          · rw [statusOf_updateAsset, if_neg hsame] at hkept
            exact Or.inl hkept
          · exact Or.inr ⟨other, List.mem_cons_of_mem _ hother, hrest⟩

/-- A reception leaves the assets that have not come back on loan. -/
theorem allOut_receivedItem {now : ℤ} {items : List AssetLoanItem} {assets after : List Asset}
    (htouched : ∀ assetId, statusOf after assetId = statusOf assets assetId ∨
      ∃ item ∈ items, awaits item = true ∧ item.assetId = assetId)
    (hnodup : (items.map AssetLoanItem.assetId).Nodup) (h : AllOut assets items) :
    AllOut after (items.map (receivedItem now)) := by
  intro item hitem hreceived
  obtain ⟨before, hbefore, rfl⟩ := List.mem_map.mp hitem
  have hwait : ¬awaits before = true := by
    intro hwait
    rw [receivedItem_of_awaits hwait] at hreceived
    cases hreceived
  rw [receivedItem, if_neg hwait] at hreceived
  rw [receivedItem_assetId]
  rcases htouched before.assetId with hkept | ⟨other, hother, hawaits, hsame⟩
  · rw [hkept]
    exact h before hbefore hreceived
  · rw [List.inj_on_of_nodup_map hnodup hother hbefore hsame] at hawaits
    exact absurd hawaits hwait

theorem receiveReturn_change {now : ℤ} {outside : Except Failure Unit}
    (h : receiveReturn system id now outside = .ok after) :
    ∃ loan changed assets, LoanChange system after loan changed .received assets := by
  unfold receiveReturn at h
  obtain ⟨loan, hlock, h⟩ := bind_eq_ok h
  obtain ⟨_, _, h⟩ := bind_eq_ok h
  obtain ⟨hpending, h⟩ := check_eq_ok h
  obtain ⟨_, _, h⟩ := bind_eq_ok h
  obtain ⟨⟨table, items, received⟩, hreceive, h⟩ := bind_eq_ok h
  obtain ⟨hsome, h⟩ := check_eq_ok h
  obtain ⟨_, htransition, h⟩ := bind_eq_ok h
  obtain rfl := Except.ok.inj h
  obtain ⟨hmem, hid⟩ := lockLoan_eq_ok hlock
  obtain ⟨hids, hitems, hreceived, htouched⟩ := receiveItems_spec hreceive
  have hallowed := assertLoanTransition_eq_ok htransition
  have hstatus := not_not.mp hpending
  dsimp only at hitems hreceived hids htouched
  subst hitems hreceived
  have hawaits : ∃ item ∈ loan.items, awaits item = true := by
    obtain ⟨item, hitem⟩ := List.exists_mem_of_ne_nil (loan.items.filter awaits) (by
      intro hnil
      rw [hnil] at hsome
      exact hsome rfl)
    exact ⟨item, (List.mem_filter.mp hitem).1, (List.mem_filter.mp hitem).2⟩
  have hassets : ((loan.items.filter awaits).map (receivedItem now)).map AssetLoanItem.assetId =
      (loan.items.filter awaits).map AssetLoanItem.assetId := by
    rw [List.map_map]
    exact List.map_congr_left fun item _ => receivedItem_assetId now item
  have hopen : loan.status ∈ openLoanStatuses ∧ loan.status ∈ loanOutStatuses := by
    rw [hstatus]
    decide
  rw [hassets]
  let changed : AssetLoan :=
    { loan with
      status := statusAfterReception (loan.items.map (receivedItem now))
      actualReturnDate := (lastReturn now loan.actualReturnDate
        ((loan.items.filter awaits).map (receivedItem now))).or (some now)
      items := loan.items.map (receivedItem now) }
  refine ⟨loan, changed, _, hmem, rfl, rfl, hid ▸ rfl, hids, .received now rfl rfl hawaits,
    Or.inr hallowed, Or.inl ⟨rfl, fun _ => hopen.2⟩, fun _ assetId => ?_,
    fun _ hnodup hbefore => ?_, rfl, ⟨rfl, rfl, rfl, rfl⟩⟩
  · rcases htouched assetId with hkept | ⟨item, hitem, hwait, rfl⟩
    · exact Or.inl hkept
    · rw [awaits, Bool.and_eq_true, Option.isNone_iff_eq_none] at hwait
      exact Or.inr (Or.inr (holds_of_unreceived hopen.1 hitem hwait.2))
  · exact allOut_receivedItem htouched hnodup (hbefore hopen.2)

/-! ### Extensions -/

theorem requestExtension_change {calendar : Calendar} {actorId : RowId} {requested now : ℤ}
    (h : requestExtension calendar system id actorId requested now = .ok after) :
    ∃ loan changed, LoanChange system after loan changed .extensionRequested [] := by
  unfold requestExtension at h
  obtain ⟨loan, hlock, h⟩ := bind_eq_ok h
  obtain ⟨_, h⟩ := check_eq_ok h
  obtain ⟨_, h⟩ := check_eq_ok h
  obtain ⟨_, h⟩ := check_eq_ok h
  obtain rfl := Except.ok.inj h
  exact ⟨loan, _, loanChange_same hlock (by decide) rfl rfl rfl rfl rfl⟩

theorem approveExtension_change {calendar : Calendar} {actorId : RowId} {now : ℤ}
    {outside : Except Failure Unit}
    (h : approveExtension calendar system id actorId now outside = .ok after) :
    ∃ loan changed, LoanChange system after loan changed .extended [] := by
  unfold approveExtension at h
  obtain ⟨loan, hlock, h⟩ := bind_eq_ok h
  obtain ⟨_, _, h⟩ := bind_eq_ok h
  obtain ⟨_, _, h⟩ := bind_eq_ok h
  obtain ⟨hstatus, h⟩ := check_eq_ok h
  split at h
  · cases h
  next requested hrequested =>
  have hout : loan.status ∈ loanOutStatuses ∧ beforeReception loan.status = true := by
    rw [not_and_or, not_not, not_not] at hstatus
    rcases hstatus with hstatus | hstatus <;> rw [hstatus] <;> decide
  by_cases hreopened : loan.status = .overdue ∧ calendar.localeIsoDate now ≤ requested
  · simp only [if_pos hreopened] at h
    obtain ⟨_, htransition, h⟩ := bind_eq_ok h
    obtain rfl := Except.ok.inj h
    have hallowed := assertLoanTransition_eq_ok htransition
    exact ⟨loan, _, loanChange_kept hlock rfl (.before _ [] (by decide) hout.2 rfl rfl)
      (Or.inr hallowed) rfl rfl (fun _ => hout.1) rfl⟩
  · simp only [if_neg hreopened] at h
    obtain rfl := Except.ok.inj h
    exact ⟨loan, _, loanChange_same hlock (by decide) rfl rfl rfl rfl rfl⟩

theorem rejectExtension_change {actorId : RowId} {outside : Except Failure Unit}
    (h : rejectExtension system id actorId outside = .ok after) :
    ∃ loan changed, LoanChange system after loan changed .extensionRejected [] := by
  unfold rejectExtension at h
  obtain ⟨loan, hlock, h⟩ := bind_eq_ok h
  obtain ⟨_, _, h⟩ := bind_eq_ok h
  obtain ⟨_, _, h⟩ := bind_eq_ok h
  obtain ⟨_, h⟩ := check_eq_ok h
  obtain rfl := Except.ok.inj h
  exact ⟨loan, _, loanChange_same hlock (by decide) rfl rfl rfl rfl rfl⟩

/-! ### Creation -/

/-- The assets of a new loan are distinct. -/
theorem lockedAssets_nodup {assetIds : List RowId} {assets : List Asset}
    (h : lockedAssets system assetIds = .ok assets) (hids : (system.assets.map Asset.id).Nodup) :
    (assets.map Asset.id).Nodup := by
  unfold lockedAssets at h
  dsimp only at h
  split at h
  · cases h
  · obtain rfl := Except.ok.inj h
    exact hids.sublist (List.filter_sublist.map _)

/-- A check for open loans that passes has found none. -/
theorem assertNotLoaned_eq_ok {assets : List Asset} {result : Unit}
    (h : assertNotLoaned system assets = .ok result) :
    ∀ asset ∈ assets, inOpenLoan system asset.id = false := by
  unfold assertNotLoaned at h
  split at h
  · cases h
  · next hnone => simpa using hnone

theorem insertLoan_insertion {input : CreateLoanInput} {actorId loanId sourceId : RowId}
    {itemId : RowId → RowId} {approved : Option ApprovedLoan} {assets : List Asset}
    (hassets : (assets.map Asset.id).Nodup)
    (hfree : ∀ asset ∈ assets, inOpenLoan system asset.id = false)
    (h : insertLoan system input actorId loanId itemId approved sourceId assets = .ok after) :
    ∃ loan, LoanInsertion system after loan := by
  unfold insertLoan at h
  split at h
  · cases h
  next hfresh =>
  have hnotTaken : ∀ other ∈ system.loans, other.id ≠ loanId := by
    simpa [List.any_eq_true] using hfresh
  have hnodup : ((assets.map (newItem sourceId itemId)).map AssetLoanItem.assetId).Nodup := by
    rw [List.map_map]
    exact hassets
  have hunreceived : ∀ item ∈ assets.map (newItem sourceId itemId), item.receivedAt = none := by
    intro item hitem
    obtain ⟨asset, _, rfl⟩ := List.mem_map.mp hitem
    rfl
  have hitemsFree : ∀ item ∈ assets.map (newItem sourceId itemId),
      inOpenLoan system item.assetId = false := by
    intro item hitem
    obtain ⟨asset, hasset, rfl⟩ := List.mem_map.mp hitem
    exact hfree asset hasset
  have hrequested : LoanStatus.requested ∉ loanOutStatuses := by decide
  have happroved : LoanStatus.approved ∉ loanOutStatuses := by decide
  cases approved with
  | none =>
    obtain rfl := Except.ok.inj h
    refine ⟨_, hnotTaken, rfl, ⟨_, rfl, ?_⟩, rfl, rfl, hunreceived, hnodup, hrequested, rfl,
      hitemsFree⟩
    intro event hevent
    rw [List.mem_singleton] at hevent
    subst hevent
    exact ⟨rfl, nofun⟩
  | some given =>
    obtain rfl := Except.ok.inj h
    refine ⟨_, hnotTaken, rfl, ⟨_, List.append_assoc _ _ _, ?_⟩, rfl, rfl, hunreceived, hnodup,
      happroved, rfl, hitemsFree⟩
    intro event hevent
    rcases List.mem_append.mp hevent with hevent | hevent <;> rw [List.mem_singleton] at hevent <;>
      subst hevent <;> exact ⟨rfl, nofun⟩

theorem createWithin_insertion {input : CreateLoanInput} {actorId loanId : RowId}
    {itemId : RowId → RowId} {sourceScope : RowId → Bool} {approved : Option ApprovedLoan}
    {outside : Except Failure Unit} (hids : (system.assets.map Asset.id).Nodup)
    (h : createWithin system input actorId loanId itemId sourceScope approved outside =
      .ok after) : ∃ loan, LoanInsertion system after loan := by
  unfold createWithin at h
  obtain ⟨assets, hlocked, h⟩ := bind_eq_ok h
  obtain ⟨sourceId, _, h⟩ := bind_eq_ok h
  obtain ⟨_, hfree, h⟩ := bind_eq_ok h
  obtain ⟨_, _, h⟩ := bind_eq_ok h
  exact insertLoan_insertion (lockedAssets_nodup hlocked hids) (assertNotLoaned_eq_ok hfree) h

end Operations

/-! ### Runs -/

/-- A committed operation of the service, or the job that marks loans overdue. -/
inductive LoanOperation (calendar : Calendar) : System → System → Prop
  | created {system after} (input : CreateLoanInput) (actorId loanId : RowId)
      (itemId : RowId → RowId) (sourceScope : RowId → Bool) (approved : Option ApprovedLoan)
      (outside : Except Failure Unit)
      (h : createWithin system input actorId loanId itemId sourceScope approved outside =
        .ok after) : LoanOperation calendar system after
  | approved {system after} (id actorId : RowId) (outside : Except Failure Unit)
      (h : approve system id actorId outside = .ok after) : LoanOperation calendar system after
  | rejected {system after} (id actorId : RowId) (outside : Except Failure Unit)
      (h : reject system id actorId outside = .ok after) : LoanOperation calendar system after
  | cancelled {system after} (id : RowId) (outside : Except Failure Unit)
      (h : cancel system id outside = .ok after) : LoanOperation calendar system after
  | delivered {system after} (id : RowId) (now : ℤ) (outside : Except Failure Unit)
      (h : deliverWithin calendar system id now outside = .ok after) :
      LoanOperation calendar system after
  | actGenerated {system after} (id documentId : RowId) (previousReplaceable : Bool)
      (h : actGenerated system id documentId previousReplaceable = .ok after) :
      LoanOperation calendar system after
  | actSigned {system after} (id documentId : RowId)
      (h : actSigned system id documentId = .ok after) : LoanOperation calendar system after
  | actRejected {system after} (id documentId : RowId)
      (h : actRejected system id documentId = .ok after) : LoanOperation calendar system after
  | actRegenerated {system after} (id : RowId) (contactPersonId : Option RowId)
      (actRejected : Bool) (outside : Except Failure Unit)
      (h : regenerateDeliveryAct system id contactPersonId actRejected outside = .ok after) :
      LoanOperation calendar system after
  | deliveryUndone {system after} (id : RowId) (voided : Except Failure Unit)
      (h : undoDelivery system id voided = .ok after) : LoanOperation calendar system after
  | returnStarted {system after} (id : RowId) (dto : ReturnLoanDto) (now : ℤ)
      (h : startReturn system id dto now = .ok after) : LoanOperation calendar system after
  | received {system after} (id : RowId) (now : ℤ) (outside : Except Failure Unit)
      (h : receiveReturn system id now outside = .ok after) : LoanOperation calendar system after
  | extensionRequested {system after} (id actorId : RowId) (requested now : ℤ)
      (h : requestExtension calendar system id actorId requested now = .ok after) :
      LoanOperation calendar system after
  | extended {system after} (id actorId : RowId) (now : ℤ) (outside : Except Failure Unit)
      (h : approveExtension calendar system id actorId now outside = .ok after) :
      LoanOperation calendar system after
  | extensionRejected {system after} (id actorId : RowId) (outside : Except Failure Unit)
      (h : rejectExtension system id actorId outside = .ok after) :
      LoanOperation calendar system after
  | overdue {system} (today : ℤ) : LoanOperation calendar system (markOverdue system today)

/-- What an operation does: it changes a loan, makes one, marks the overdue ones
or leaves a note. -/
inductive LoanEffect (system after : System) : Prop
  | change {loan changed eventType assets}
      (h : LoanChange system after loan changed eventType assets) : LoanEffect system after
  | insertion {loan} (h : LoanInsertion system after loan) : LoanEffect system after
  | overdue (today : ℤ) (h : after = markOverdue system today) : LoanEffect system after
  | noted {added : List AssetLoanEvent} (hloans : after.loans = system.loans)
      (hassets : after.assets = system.assets)
      (hevents : after.loanEvents = system.loanEvents ++ added)
      (hadded : ∀ event ∈ added, event.eventType ≠ .received ∧
        ∃ loan ∈ system.loans, loan.id = event.loanId)
      (hothers : OthersKept system after) : LoanEffect system after

/-- A refused act leaves a note and nothing else. -/
theorem actRejected_effect {system after : System} {id documentId : RowId}
    (h : actRejected system id documentId = .ok after) : LoanEffect system after := by
  unfold actRejected at h
  obtain ⟨loan, hlock, h⟩ := bind_eq_ok h
  obtain ⟨_, h⟩ := check_eq_ok h
  obtain rfl := Except.ok.inj h
  obtain ⟨hmem, hid⟩ := lockLoan_eq_ok hlock
  refine .noted rfl rfl rfl (fun event hevent => ?_) ⟨rfl, rfl, rfl, rfl⟩
  rw [List.mem_singleton] at hevent
  subst hevent
  exact ⟨nofun, loan, hmem, hid⟩

/-- An operation makes a loan, or has one of the other effects. -/
theorem LoanOperation.created_or_effect {calendar : Calendar} {system after : System}
    (hoperation : LoanOperation calendar system after) :
    (∃ input actorId loanId itemId sourceScope approved outside,
      createWithin system input actorId loanId itemId sourceScope approved outside = .ok after) ∨
      LoanEffect system after := by
  cases hoperation with
  | created input actorId loanId itemId sourceScope approved outside hok =>
    exact Or.inl ⟨input, actorId, loanId, itemId, sourceScope, approved, outside, hok⟩
  | approved _ _ _ hok =>
    obtain ⟨_, _, hchange⟩ := approve_change hok
    exact Or.inr (.change hchange)
  | rejected _ _ _ hok =>
    obtain ⟨_, _, hchange⟩ := reject_change hok
    exact Or.inr (.change hchange)
  | cancelled _ _ hok =>
    obtain ⟨_, _, hchange⟩ := cancel_change hok
    exact Or.inr (.change hchange)
  | delivered _ _ _ hok =>
    obtain ⟨_, _, hchange⟩ := deliverWithin_change hok
    exact Or.inr (.change hchange)
  | actGenerated _ _ _ hok =>
    obtain ⟨_, _, hchange⟩ := actGenerated_change hok
    exact Or.inr (.change hchange)
  | actSigned _ _ hok =>
    obtain ⟨_, _, hchange⟩ := actSigned_change hok
    exact Or.inr (.change hchange)
  | actRejected _ _ hok => exact Or.inr (actRejected_effect hok)
  | actRegenerated _ _ _ _ hok =>
    obtain ⟨_, _, hchange⟩ := regenerateDeliveryAct_change hok
    exact Or.inr (.change hchange)
  | deliveryUndone _ _ hok =>
    obtain ⟨_, _, hchange⟩ := undoDelivery_change hok
    exact Or.inr (.change hchange)
  | returnStarted _ _ _ hok =>
    obtain ⟨_, _, _, hchange⟩ := startReturn_change hok
    exact Or.inr (.change hchange)
  | received _ _ _ hok =>
    obtain ⟨_, _, _, hchange⟩ := receiveReturn_change hok
    exact Or.inr (.change hchange)
  | extensionRequested _ _ _ _ hok =>
    obtain ⟨_, _, hchange⟩ := requestExtension_change hok
    exact Or.inr (.change hchange)
  | extended _ _ _ _ hok =>
    obtain ⟨_, _, hchange⟩ := approveExtension_change hok
    exact Or.inr (.change hchange)
  | extensionRejected _ _ _ hok =>
    obtain ⟨_, _, hchange⟩ := rejectExtension_change hok
    exact Or.inr (.change hchange)
  | overdue today => exact Or.inr (.overdue today rfl)

/-- Every operation has one of the effects. -/
theorem LoanOperation.effect {calendar : Calendar} {system after : System}
    (hoperation : LoanOperation calendar system after)
    (hids : (system.assets.map Asset.id).Nodup) : LoanEffect system after := by
  rcases hoperation.created_or_effect with ⟨_, _, _, _, _, _, _, hok⟩ | heffect
  · obtain ⟨_, hinsert⟩ := createWithin_insertion hids hok
    exact .insertion hinsert
  · exact heffect

/-- Every effect keeps the invariant. -/
theorem LoanEffect.invariant {system after : System} (heffect : LoanEffect system after)
    (h : Invariant system) : Invariant after := by
  cases heffect with
  | change hchange => exact hchange.invariant h
  | insertion hinsert => exact hinsert.invariant h
  | overdue today hafter => exact hafter ▸ markOverdue_invariant today h
  | noted hloans hassets hevents hadded _ =>
    exact h.of_noted hloans hevents hadded (hassets ▸ h.assetIds)

/-- A committed step: an operation, or a step of another service, which touches
no loan. -/
inductive LoanStep (calendar : Calendar) : System → System → Prop
  | operation {system after} (h : LoanOperation calendar system after) :
      LoanStep calendar system after
  | elsewhere {system after : System} (hloans : after.loans = system.loans)
      (hevents : after.loanEvents = system.loanEvents)
      (hassets : (after.assets.map Asset.id).Nodup) : LoanStep calendar system after

/-- A step of another service keeps the invariant. -/
theorem Invariant.elsewhere {system after : System} (h : Invariant system)
    (hloans : after.loans = system.loans) (hevents : after.loanEvents = system.loanEvents)
    (hassets : (after.assets.map Asset.id).Nodup) : Invariant after :=
  h.of_noted hloans (hevents.trans (List.append_nil _).symm)
    (fun _ hevent => absurd hevent List.not_mem_nil) hassets

/-- A step keeps the invariant. -/
theorem LoanStep.invariant {calendar : Calendar} {system after : System}
    (hstep : LoanStep calendar system after) (h : Invariant system) : Invariant after := by
  cases hstep with
  | operation hoperation => exact (hoperation.effect h.assetIds).invariant h
  | elsewhere hloans hevents hassets => exact h.elsewhere hloans hevents hassets

/-- A system no loan has been made in. -/
structure WithoutLoans (system : System) : Prop where
  loans : system.loans = []
  events : system.loanEvents = []
  assetIds : (system.assets.map Asset.id).Nodup

theorem WithoutLoans.invariant {system : System} (h : WithoutLoans system) : Invariant system := by
  obtain ⟨hloans, hevents, hassets⟩ := h
  refine ⟨?_, ?_, ?_, ?_, ?_, hassets⟩ <;> simp [hloans, hevents]

/-- Every run of steps keeps the invariant. -/
theorem invariant_of_run {calendar : Calendar} {system after : System}
    (h : Invariant system) (hrun : Relation.ReflTransGen (LoanStep calendar) system after) :
    Invariant after := by
  induction hrun with
  | refl => exact h
  | tail _ hstep ih => exact hstep.invariant ih

/-- After every run the status of each loan with items agrees with them, and no
asset of it has been received twice. -/
theorem loan_statusAgrees {calendar : Calendar} {start system : System}
    (hstart : WithoutLoans start)
    (hrun : Relation.ReflTransGen (LoanStep calendar) start system) {loan : AssetLoan}
    (hloan : loan ∈ system.loans) (hitems : loan.items ≠ []) :
    StatusAgrees loan ∧ (receivedAssets system.loanEvents loan.id).Nodup := by
  have hinv := invariant_of_run hstart.invariant hrun
  exact ⟨(hinv.consistent loan hloan).statusAgrees hitems, hinv.once loan hloan⟩

/-- Days that are their own dates. -/
def plainCalendar : Calendar where
  localeIsoDate now := now
  longSpanishDate _ := "el día"

/-- The centre that lends. -/
def lender : RowId := ⟨"c1", by decide⟩

/-- The centre that borrows. -/
def borrower : RowId := ⟨"c2", by decide⟩

/-- The person who asks for the loan and signs for it. -/
def asker : RowId := ⟨"p1", by decide⟩

/-- Who decides on the loan. -/
def decider : RowId := ⟨"p2", by decide⟩

def scanner : RowId := ⟨"a1", by decide⟩

def projector : RowId := ⟨"a2", by decide⟩

def twoThings : RowId := ⟨"l1", by decide⟩

def deliveryAct : RowId := ⟨"d1", by decide⟩

/-- An asset in use at the centre that lends. -/
def thing (id : RowId) (code : String) : Asset where
  id := id
  internalCode := code
  costCenterId := lender
  locationId := none
  responsibleId := none
  operationalStatus := .inUse
  physicalCondition := some .good
  dataQualityFlags := []

/-- Two assets and no process. -/
def twoAssets : System where
  assets := [thing scanner "A-1", thing projector "A-2"]
  loans := []
  loanEvents := []
  transfers := []
  handovers := []
  requests := []
  writeOffs := []
  inventories := []

/-- The request of a loan of both. -/
def ask (system : System) : Except Failure System :=
  createWithin system ⟨[scanner, projector], borrower, asker, 30, none⟩ asker twoThings id
    (fun _ => true) none (.ok ())

def agree (system : System) : Except Failure System := approve system twoThings decider (.ok ())

def handOver (system : System) : Except Failure System :=
  deliverWithin plainCalendar system twoThings 10 (.ok ())

def writeAct (system : System) : Except Failure System :=
  actGenerated system twoThings deliveryAct true

def signAct (system : System) : Except Failure System := actSigned system twoThings deliveryAct

/-- Both come back, one of them lost. -/
def bringBack (system : System) : Except Failure System :=
  startReturn system twoThings
    ⟨[⟨scanner, .good, none⟩, ⟨projector, .lost, none⟩], List.cons_ne_nil _ _⟩ 20

def takeBack (system : System) : Except Failure System :=
  receiveReturn system twoThings 21 (.ok ())

/-- The system while the loan waits for the signatures of its act. -/
def lentSystem : System := attempt handOver (attempt agree (attempt ask twoAssets))

/-- The system after the reception. -/
def closedSystem : System :=
  attempt takeBack (attempt bringBack (attempt signAct (attempt writeAct lentSystem)))

theorem lentSystem_operations :
    Relation.ReflTransGen (LoanOperation plainCalendar) twoAssets lentSystem := by
  refine run_attempt handOver (run_attempt agree (run_attempt ask .refl ?_ ?_) ?_ ?_) ?_ ?_
  · exact fun after h => .created _ _ _ _ _ _ _ h
  · decide +kernel
  · exact fun after h => .approved _ _ _ h
  · decide +kernel
  · exact fun after h => .delivered _ _ _ h
  · decide +kernel

theorem closedSystem_operations :
    Relation.ReflTransGen (LoanOperation plainCalendar) twoAssets closedSystem := by
  refine run_attempt takeBack (run_attempt bringBack (run_attempt signAct
    (run_attempt writeAct lentSystem_operations ?_ ?_) ?_ ?_) ?_ ?_) ?_ ?_
  · exact fun after h => .actGenerated _ _ _ h
  · decide +kernel
  · exact fun after h => .actSigned _ _ h
  · decide +kernel
  · exact fun after h => .returnStarted _ _ _ h
  · decide +kernel
  · exact fun after h => .received _ _ _ h
  · decide +kernel

/-- The loan of both assets closes with losses. -/
theorem loan_statusAgrees_twoThings :
    ∃ loan ∈ closedSystem.loans, loan.status = .closedWithLosses ∧ StatusAgrees loan ∧
      (receivedAssets closedSystem.loanEvents loan.id).Nodup := by
  have hstart : WithoutLoans twoAssets := ⟨rfl, rfl, by decide⟩
  have hrun : Relation.ReflTransGen (LoanStep plainCalendar) twoAssets closedSystem :=
    closedSystem_operations.lift id fun _ _ h => .operation h
  have hclosed : ∃ loan ∈ closedSystem.loans,
      loan.status = .closedWithLosses ∧ loan.items ≠ [] := by
    decide +kernel
  obtain ⟨loan, hloan, hstatus, hitems⟩ := hclosed
  exact ⟨loan, hloan, hstatus, loan_statusAgrees hstart hrun hloan hitems⟩

end InternalControl.Loans
