import InternalControl.AssetHolds

/-!
# Runs of the service of asset requests

Each operation locks the row of one request until its transaction ends, and
writes that request back with its items. What an operation leaves in the place
of the request it has locked is stated once; that a request holds its assets in
two of its statuses only, and that no asset is reserved twice, follows for every
run of operations, of jobs and of what the requests hear of their loans.
-/

namespace InternalControl.AssetRequests

open Assets AssetProcesses AssetHolds Documents Fallible Loans

/-- What a request reserves goes with its status: all its items are open while it is accepted
or returned, and there are some, and none is open otherwise. A request that is made anew has
none. -/
structure Reserved (request : AssetRequest) : Prop where
  open_iff : ∀ item ∈ request.items, item.isOpen = true ↔ request.status ∈ holdingStatuses
  some_held : request.status ∈ holdingStatuses → request.items ≠ []
  empty : request.status = .requested → request.items = []

/-- A request whose items are closed, in a status that holds none. -/
theorem reserved_closed {request : AssetRequest} {items : List HeldItem}
    (hitems : request.items = items.map closedItem) (hstatus : request.status ∉ holdingStatuses)
    (hnew : request.status ≠ .requested) : Reserved request where
  open_iff item hitem := by
    rw [hitems] at hitem
    obtain ⟨source, _, rfl⟩ := List.mem_map.mp hitem
    exact ⟨fun hopen => Bool.noConfusion hopen, fun hheld => absurd hheld hstatus⟩
  some_held hheld := absurd hheld hstatus
  empty hrequested := absurd hrequested hnew

/-- A request whose items stay, in another status that holds them. -/
theorem Reserved.kept {request changed : AssetRequest} (h : Reserved request)
    (status : AssetRequestStatus) (hchanged : changed.status = status)
    (hitems : changed.items = request.items)
    (hstatus : request.status ∈ holdingStatuses ↔ status ∈ holdingStatuses)
    (hnew : status ≠ .requested) : Reserved changed where
  open_iff item hitem := by
    rw [hchanged]
    exact (h.open_iff item (hitems ▸ hitem)).trans hstatus
  some_held hheld := hitems ▸ h.some_held (hstatus.mpr (hchanged ▸ hheld))
  empty hrequested := absurd (hchanged.symm.trans hrequested) hnew

/-- A request that has lost its items and starts again. -/
theorem reserved_requested {changed : AssetRequest} (hchanged : changed.status = .requested)
    (hitems : changed.items = []) : Reserved changed where
  open_iff item hitem := absurd (hitems ▸ hitem) List.not_mem_nil
  some_held hheld := by
    rw [hchanged] at hheld
    exact absurd hheld (by decide)
  empty _ := hitems

/-- What an operation leaves in the place of the request it has locked, and that the others
stay. -/
structure RequestChange (system after : System) (request changed : AssetRequest) : Prop where
  mem : request ∈ system.requests
  id : changed.id = request.id
  ids : after.requests.map AssetRequest.id = system.requests.map AssetRequest.id
  others : ∀ other ∈ after.requests,
    other = changed ∨ other ∈ system.requests ∧ other.id ≠ request.id
  legal : canAssetRequestTransition request.status changed.status = true
  reserved : Reserved request → Reserved changed
  held : ∀ assetId, heldIn changed.items assetId = true →
    heldIn request.items assetId = true ∨ isReserved system none assetId = false

section Operations

variable {system after : System} {id : RowId} {viewer : Viewer}

theorem assertAssetRequestTransition_eq_ok {source target : AssetRequestStatus} {result : Unit}
    (h : assertAssetRequestTransition source target = .ok result) :
    canAssetRequestTransition source target = true := by
  unfold assertAssetRequestTransition at h
  split at h
  · cases h
  · next hallowed => simpa using hallowed

/-- A request that is written back leaves the others as they are. -/
theorem requestChange_save {request changed : AssetRequest} (hmem : request ∈ system.requests)
    (hid : changed.id = request.id)
    (hlegal : canAssetRequestTransition request.status changed.status = true)
    (hreserved : Reserved request → Reserved changed)
    (hheld : ∀ assetId, heldIn changed.items assetId = true →
      heldIn request.items assetId = true ∨ isReserved system none assetId = false) :
    RequestChange system (save system changed) request changed where
  mem := hmem
  id := hid
  ids := by
    rw [save, List.map_map]
    refine List.map_congr_left fun other _ => ?_
    rw [Function.comp_apply]
    split
    · next hsame => exact hsame.symm
    · rfl
  others other hother := by
    obtain ⟨source, hsource, rfl⟩ := List.mem_map.mp hother
    split
    · exact Or.inl rfl
    · next hne => exact Or.inr ⟨hsource, fun hsame => hne (hsame.trans hid.symm)⟩
  legal := hlegal
  reserved := hreserved
  held := hheld

/-- A request that is given up. -/
theorem requestChange_release {request : AssetRequest} {status : AssetRequestStatus}
    (hmem : request ∈ system.requests)
    (hlegal : canAssetRequestTransition request.status status = true)
    (hstatus : status ∉ holdingStatuses) (hnew : status ≠ .requested) :
    RequestChange system (release system request status) request
      { request with status := status, items := request.items.map closedItem } :=
  requestChange_save hmem rfl hlegal (fun _ => reserved_closed rfl hstatus hnew) (by simp)

theorem close_change (h : close system id viewer = .ok after) :
    ∃ request changed, RequestChange system after request changed := by
  unfold close at h
  obtain ⟨request, hparty, h⟩ := bind_eq_ok h
  obtain ⟨_, _, h⟩ := bind_eq_ok h
  obtain ⟨_, htransition, h⟩ := bind_eq_ok h
  obtain rfl := Except.ok.inj h
  have hlegal := assertAssetRequestTransition_eq_ok htransition
  exact ⟨request, _, requestChange_release (partyRequest_eq_ok hparty).1 hlegal (by decide)
    (by decide)⟩

theorem cancel_change (h : cancel system id viewer = .ok after) :
    ∃ request changed, RequestChange system after request changed := by
  unfold cancel at h
  obtain ⟨request, hparty, h⟩ := bind_eq_ok h
  obtain ⟨_, _, h⟩ := bind_eq_ok h
  obtain ⟨_, htransition, h⟩ := bind_eq_ok h
  obtain rfl := Except.ok.inj h
  have hlegal := assertAssetRequestTransition_eq_ok htransition
  exact ⟨request, _, requestChange_release (partyRequest_eq_ok hparty).1 hlegal (by decide)
    (by decide)⟩

/-- A request that is returned was accepted, and holds what it held. -/
theorem returnToRequester_change (h : returnToRequester system id viewer = .ok after) :
    ∃ request changed, RequestChange system after request changed := by
  unfold returnToRequester at h
  obtain ⟨request, hparty, h⟩ := bind_eq_ok h
  obtain ⟨_, _, h⟩ := bind_eq_ok h
  obtain ⟨_, htransition, h⟩ := bind_eq_ok h
  obtain rfl := Except.ok.inj h
  have hlegal := assertAssetRequestTransition_eq_ok htransition
  have hheld : request.status ∈ holdingStatuses := by
    revert hlegal
    cases request.status <;> decide
  refine ⟨request, _, requestChange_save (partyRequest_eq_ok hparty).1 rfl hlegal
    (fun hreserved => hreserved.kept .returned rfl rfl ?_ (by decide)) fun _ hitem => Or.inl hitem⟩
  exact ⟨fun _ => by decide, fun _ => hheld⟩

/-- A request that is corrected was returned: it holds what it held and is accepted again, or
loses its items and starts again. -/
theorem correct_change {dto : CorrectAssetRequestDto} {isActive hasOtherHead : RowId → Bool}
    (h : correct system id dto viewer isActive hasOtherHead = .ok after) :
    ∃ request changed, RequestChange system after request changed := by
  unfold correct at h
  obtain ⟨request, hparty, h⟩ := bind_eq_ok h
  obtain ⟨_, _, h⟩ := bind_eq_ok h
  obtain ⟨hreturned, h⟩ := check_eq_ok h
  obtain ⟨_, _, h⟩ := bind_eq_ok h
  obtain ⟨_, _, h⟩ := bind_eq_ok h
  obtain ⟨_, htransition, h⟩ := bind_eq_ok h
  obtain rfl := Except.ok.inj h
  have hlegal := assertAssetRequestTransition_eq_ok htransition
  have hheld : request.status ∈ holdingStatuses := by
    rw [not_not.mp hreturned]
    decide
  generalize hnext : statusAfterCorrection _ _ _ = next at hlegal ⊢
  have hcases : next = .requested ∨ next = .accepted := by
    rw [← hnext]
    unfold statusAfterCorrection
    split
    · exact Or.inl rfl
    · exact Or.inr rfl
  refine ⟨request, _, requestChange_save (partyRequest_eq_ok hparty).1 rfl hlegal
    (fun hreserved => ?_) fun assetId hitem => Or.inl ?_⟩
  · rcases hcases with rfl | rfl
    · exact reserved_requested rfl rfl
    · exact hreserved.kept .accepted rfl rfl ⟨fun _ => by decide, fun _ => hheld⟩ (by decide)
  · rcases hcases with rfl | rfl
    · exact Bool.noConfusion hitem
    · exact hitem

theorem expireDue_change {due : AssetRequest → Bool} (h : expireDue system due = .ok after) :
    after = system ∨ ∃ request changed, RequestChange system after request changed := by
  unfold expireDue at h
  split at h
  · exact Or.inl (Except.ok.inj h).symm
  next request hfound =>
  obtain ⟨_, htransition, h⟩ := bind_eq_ok h
  obtain rfl := Except.ok.inj h
  have hlegal := assertAssetRequestTransition_eq_ok htransition
  exact Or.inr ⟨request, _, requestChange_release (List.mem_of_find?_eq_some hfound) hlegal
    (by decide) (by decide)⟩

/-- What waits for its loan holds nothing. -/
theorem scheduledRequest_eq_some {assetRequestId : Option RowId} {loanId : RowId}
    {request : AssetRequest} (h : scheduledRequest system assetRequestId loanId = some request) :
    request ∈ system.requests ∧ request.status = .loanScheduled := by
  unfold scheduledRequest at h
  have hfound := List.find?_some h
  simp only [Bool.and_eq_true, decide_eq_true_eq] at hfound
  exact ⟨List.mem_of_find?_eq_some h, hfound.2⟩

theorem onLoanDelivered_change {assetRequestId : Option RowId} {loanId : RowId}
    (h : onLoanDelivered system assetRequestId loanId = .ok after) :
    after = system ∨ ∃ request changed, RequestChange system after request changed := by
  unfold onLoanDelivered at h
  split at h
  · exact Or.inl (Except.ok.inj h).symm
  next request hfound =>
  obtain ⟨_, htransition, h⟩ := bind_eq_ok h
  obtain rfl := Except.ok.inj h
  have hlegal := assertAssetRequestTransition_eq_ok htransition
  obtain ⟨hmem, hstatus⟩ := scheduledRequest_eq_some hfound
  refine Or.inr ⟨request, _, requestChange_save hmem rfl hlegal
    (fun hreserved => hreserved.kept .documentGenerated rfl rfl ?_ (by decide))
    fun _ hitem => Or.inl hitem⟩
  rw [hstatus]
  decide

theorem closeByLoan_change {assetRequestId : Option RowId} {loanId : RowId}
    {next : AssetRequestStatus} (hnext : next ∉ holdingStatuses) (hnew : next ≠ .requested)
    (h : closeByLoan system assetRequestId loanId next = .ok after) :
    after = system ∨ ∃ request changed, RequestChange system after request changed := by
  unfold closeByLoan at h
  split at h
  · exact Or.inl (Except.ok.inj h).symm
  next request hfound =>
  obtain ⟨_, htransition, h⟩ := bind_eq_ok h
  obtain rfl := Except.ok.inj h
  have hlegal := assertAssetRequestTransition_eq_ok htransition
  exact Or.inr ⟨request, _, requestChange_release (scheduledRequest_eq_some hfound).1 hlegal hnext
    hnew⟩

/-- What a reservation has found: the request, and assets that nobody has reserved. -/
theorem reserve_eq_ok {requestId userId : RowId} {assetIds : List RowId}
    (h : reserve system requestId userId assetIds = .ok after) :
    ∃ request, system.requests.find? (fun request => request.id = requestId) = some request ∧
      (∀ assetId ∈ assetIds, isReserved system none assetId = false) ∧
      after = save system { request with
        status := .accepted
        acceptedBy := some userId
        items := request.items ++ openItems assetIds } := by
  unfold reserve at h
  split at h
  · cases h
  next request hfound =>
  split at h
  · cases h
  split at h
  · cases h
  next hfree =>
  refine ⟨request, hfound, fun assetId hassetId => ?_, (Except.ok.inj h).symm⟩
  rw [Bool.not_eq_true, List.any_eq_false] at hfree
  exact Bool.eq_false_iff.mpr (hfree assetId hassetId)

/-- A request is accepted with assets that nobody has reserved. One that was returned keeps its
items as well. -/
theorem accept_change {assetIds : List RowId} (hassets : assetIds ≠ [])
    (h : accept system id assetIds viewer = .ok after) :
    ∃ request changed, RequestChange system after request changed := by
  unfold accept at h
  obtain ⟨request, hacceptable, h⟩ := bind_eq_ok h
  obtain ⟨_, _, h⟩ := bind_eq_ok h
  unfold acceptable at hacceptable
  obtain ⟨party, hparty, hacceptable⟩ := bind_eq_ok hacceptable
  obtain ⟨_, _, hacceptable⟩ := bind_eq_ok hacceptable
  obtain ⟨_, htransition, hacceptable⟩ := bind_eq_ok hacceptable
  obtain rfl := Except.ok.inj hacceptable
  obtain ⟨found, hfound, hfree, rfl⟩ := reserve_eq_ok h
  -- the row is the one that was locked
  have hsame : found = party := by
    unfold partyRequest at hparty
    split at hparty
    · cases hparty
    next other hother =>
    split at hparty
    · cases hparty
    obtain rfl := Except.ok.inj hparty
    have hid : other.id = id := by simpa using List.find?_some hother
    rw [hid, hother] at hfound
    exact (Option.some.inj hfound).symm
  subst hsame
  have hlegal := assertAssetRequestTransition_eq_ok htransition
  refine ⟨found, _, requestChange_save (partyRequest_eq_ok hparty).1 rfl hlegal
    (fun hreserved => ?_) fun assetId hitem => ?_⟩
  · have hopen : ∀ item ∈ found.items, item.isOpen = true := by
      intro item hitem
      by_cases hheld : found.status ∈ holdingStatuses
      · exact (hreserved.open_iff item hitem).mpr hheld
      · have hrequested : found.status = .requested := by
          revert hlegal hheld
          cases found.status <;> decide
        rw [hreserved.empty hrequested] at hitem
        exact absurd hitem List.not_mem_nil
    constructor
    · intro item hitem
      refine ⟨fun _ => List.mem_cons_self .., fun _ => ?_⟩
      rcases List.mem_append.mp hitem with hold | hnew
      · exact hopen item hold
      · obtain ⟨assetId, _, rfl⟩ := List.mem_map.mp hnew
        rfl
    · intro _
      have hnew : openItems assetIds.dedup ≠ [] := by
        unfold openItems
        simpa using hassets
      exact List.append_ne_nil_of_right_ne_nil _ hnew
    · exact nofun
  · rw [heldIn_append, Bool.or_eq_true] at hitem
    rcases hitem with hold | hnew
    · exact Or.inl hold
    · exact Or.inr (hfree assetId (by simpa using hnew))

/-- A request that is made holds nothing yet. -/
theorem create_eq_ok {dto : CreateAssetRequestDto} {personId : Option RowId}
    {isActive hasOtherHead : RowId → Bool}
    (h : create system id dto viewer personId isActive hasOtherHead = .ok after) :
    ∃ request, after.requests = system.requests ++ [request] ∧
      request.id ∉ system.requests.map AssetRequest.id ∧ request.status = .requested ∧
      request.items = [] := by
  unfold create at h
  obtain ⟨_, _, h⟩ := bind_eq_ok h
  split at h
  · cases h
  obtain ⟨_, _, h⟩ := bind_eq_ok h
  obtain ⟨hnew, h⟩ := check_eq_ok h
  obtain rfl := Except.ok.inj h
  refine ⟨_, rfl, fun htaken => hnew ?_, rfl, rfl⟩
  obtain ⟨other, hother, hid⟩ := List.mem_map.mp htaken
  exact List.any_eq_true.mpr ⟨other, hother, decide_eq_true hid⟩

/-- A loan is made without a look at the requests. -/
theorem loanCreated_requests {input : CreateLoanInput} {actorId loanId : RowId}
    {itemId : RowId → RowId} {sourceScope : RowId → Bool} {approved : Option ApprovedLoan}
    {outside : Except Failure Unit}
    (h : Loans.createWithin system input actorId loanId itemId sourceScope approved outside =
      .ok after) : after.requests = system.requests := by
  unfold Loans.createWithin at h
  obtain ⟨_, _, h⟩ := bind_eq_ok h
  obtain ⟨_, _, h⟩ := bind_eq_ok h
  obtain ⟨_, _, h⟩ := bind_eq_ok h
  obtain ⟨_, _, h⟩ := bind_eq_ok h
  unfold insertLoan at h
  split at h
  · cases h
  · obtain rfl := Except.ok.inj h
    cases approved <;> rfl

/-- A transfer is made without a look at the requests. -/
theorem transferCreated_requests {target : RowId} {items : List Transfers.TransferItemInputDto}
    {assetRequestId : Option RowId} {unavailable : RowId → Bool} {persons : Except Failure Unit}
    {targetOf : RowId → Except Failure Unit}
    (h : Transfers.createWithin system id target items assetRequestId unavailable persons
      targetOf = .ok after) : after.requests = system.requests := by
  unfold Transfers.createWithin at h
  obtain ⟨_, _, h⟩ := bind_eq_ok h
  obtain ⟨_, _, h⟩ := bind_eq_ok h
  obtain ⟨_, _, h⟩ := bind_eq_ok h
  obtain ⟨_, _, h⟩ := bind_eq_ok h
  obtain ⟨_, _, h⟩ := bind_eq_ok h
  obtain ⟨_, _, h⟩ := bind_eq_ok h
  unfold Transfers.insert at h
  split at h
  · cases h
  split at h
  · cases h
  · obtain rfl := Except.ok.inj h
    rfl

/-- A request whose items are closed and that gets its loan or its transfer, in a system whose
requests have one identifier each. -/
theorem requestChange_generated {middle : System} {request : AssetRequest}
    (loanId transferId : Option RowId) (hnodup : (system.requests.map AssetRequest.id).Nodup)
    (hmem : request ∈ system.requests)
    (hlegal : canAssetRequestTransition request.status (generated request.kind) = true)
    (hmiddle : middle.requests = (releaseItems request.id system).requests) :
    RequestChange system (markGenerated request.id (generated request.kind) loanId transferId middle)
      request { request with
        status := generated request.kind
        loanId := loanId
        transferId := transferId
        items := request.items.map closedItem } := by
  have hrows : (markGenerated request.id (generated request.kind) loanId transferId
      middle).requests = system.requests.map fun other =>
        if other.id = request.id then { other with
          status := generated request.kind
          loanId := loanId
          transferId := transferId
          items := other.items.map closedItem } else other := by
    unfold markGenerated
    rw [hmiddle]
    unfold releaseItems
    rw [List.map_map]
    refine List.map_congr_left fun other _ => ?_
    rw [Function.comp_apply]
    by_cases hsame : other.id = request.id <;> simp [hsame]
  have hstatus : generated request.kind ∉ holdingStatuses := by
    cases request.kind <;> decide
  have hnew : generated request.kind ≠ .requested := by
    cases request.kind <;> decide
  refine ⟨hmem, rfl, ?_, fun other hother => ?_, hlegal,
    fun _ => reserved_closed rfl hstatus hnew, by simp⟩
  · rw [hrows, List.map_map]
    refine List.map_congr_left fun other _ => ?_
    rw [Function.comp_apply]
    split <;> rfl
  · rw [hrows] at hother
    obtain ⟨source, hsource, rfl⟩ := List.mem_map.mp hother
    by_cases hsame : source.id = request.id
    · have heq : source = request := List.inj_on_of_nodup_map hnodup hsource hmem hsame
      rw [if_pos hsame, heq]
      exact Or.inl rfl
    · rw [if_neg hsame]
      exact Or.inr ⟨hsource, hsame⟩

theorem generateLoan_change {request : AssetRequest} {conversion : Conversion}
    (hnodup : (system.requests.map AssetRequest.id).Nodup) (hmem : request ∈ system.requests)
    (hkind : request.kind = .temporary)
    (hlegal : canAssetRequestTransition request.status (generated request.kind) = true)
    (h : generateLoan system request viewer conversion = .ok after) :
    ∃ changed, RequestChange system after request changed := by
  unfold generateLoan at h
  obtain ⟨_, _, h⟩ := bind_eq_ok h
  obtain ⟨middle, hcreated, h⟩ := bind_eq_ok h
  obtain rfl := Except.ok.inj h
  have hchange := requestChange_generated (some conversion.loanId) none hnodup hmem hlegal
    (loanCreated_requests hcreated)
  rw [hkind] at hchange
  exact ⟨_, hchange⟩

theorem generateTransfer_change {request : AssetRequest} {dto : GenerateAssetRequestDto}
    {conversion : Conversion} (hnodup : (system.requests.map AssetRequest.id).Nodup)
    (hmem : request ∈ system.requests) (hkind : request.kind = .permanent)
    (hlegal : canAssetRequestTransition request.status (generated request.kind) = true)
    (h : generateTransfer system request dto conversion = .ok after) :
    ∃ changed, RequestChange system after request changed := by
  unfold generateTransfer at h
  obtain ⟨_, _, h⟩ := bind_eq_ok h
  obtain ⟨created, hcreated, h⟩ := bind_eq_ok h
  obtain ⟨middle, hgenerated, h⟩ := bind_eq_ok h
  obtain rfl := Except.ok.inj h
  obtain ⟨transfer, _, rfl⟩ := generateWithin_eq_ok hgenerated
  have hkept : created.requests = (releaseItems request.id system).requests :=
    transferCreated_requests hcreated
  have hmiddle : (Transfers.save created { transfer with status := .pendingSignatures }).requests =
      (releaseItems request.id system).requests := hkept
  have hchange := requestChange_generated none (some conversion.transferId) hnodup hmem hlegal
    hmiddle
  rw [hkind] at hchange
  exact ⟨_, hchange⟩

/-- A request that gets its loan or its transfer gives its items up. -/
theorem generate_change {dto : GenerateAssetRequestDto} {personOf : RowId → Option RowId}
    {outside : Except Failure Unit} {conversion : Conversion}
    (hnodup : (system.requests.map AssetRequest.id).Nodup)
    (h : generate system id dto viewer personOf outside conversion = .ok after) :
    ∃ request changed, RequestChange system after request changed := by
  unfold generate at h
  obtain ⟨⟨request, person⟩, hconvertible, h⟩ := bind_eq_ok h
  unfold convertible at hconvertible
  obtain ⟨party, hparty, hconvertible⟩ := bind_eq_ok hconvertible
  obtain ⟨_, _, hconvertible⟩ := bind_eq_ok hconvertible
  obtain ⟨_, htransition, hconvertible⟩ := bind_eq_ok hconvertible
  obtain ⟨_, _, hconvertible⟩ := bind_eq_ok hconvertible
  obtain ⟨_, _, hconvertible⟩ := bind_eq_ok hconvertible
  obtain ⟨_, hconvertible⟩ := check_eq_ok hconvertible
  obtain ⟨_, _, hconvertible⟩ := bind_eq_ok hconvertible
  obtain ⟨_, _, hconvertible⟩ := bind_eq_ok hconvertible
  obtain ⟨rfl, rfl⟩ := Prod.mk.inj (Except.ok.inj hconvertible)
  have hmem := (partyRequest_eq_ok hparty).1
  have hlegal := assertAssetRequestTransition_eq_ok htransition
  dsimp only at h
  cases hkind : party.kind with
  | temporary =>
    rw [hkind] at h
    exact ⟨party, generateLoan_change hnodup hmem hkind hlegal h⟩
  | permanent =>
    rw [hkind] at h
    exact ⟨party, generateTransfer_change hnodup hmem hkind hlegal h⟩

end Operations

/-- A committed operation on a request, of a person, of a job or of its loan, or anything else,
which leaves the requests alone. An acceptance is given at least one asset. -/
inductive RequestStep (system after : System) : Prop
  | created (id : RowId) (dto : CreateAssetRequestDto) (viewer : Viewer)
      (personId : Option RowId) (isActive hasOtherHead : RowId → Bool)
      (h : create system id dto viewer personId isActive hasOtherHead = .ok after)
  | accepted (id : RowId) (assetIds : List RowId) (viewer : Viewer) (hassets : assetIds ≠ [])
      (h : accept system id assetIds viewer = .ok after)
  | closed (id : RowId) (viewer : Viewer) (h : close system id viewer = .ok after)
  | cancelled (id : RowId) (viewer : Viewer) (h : cancel system id viewer = .ok after)
  | returned (id : RowId) (viewer : Viewer) (h : returnToRequester system id viewer = .ok after)
  | corrected (id : RowId) (dto : CorrectAssetRequestDto) (viewer : Viewer)
      (isActive hasOtherHead : RowId → Bool)
      (h : correct system id dto viewer isActive hasOtherHead = .ok after)
  | expired (due : AssetRequest → Bool) (h : expireDue system due = .ok after)
  | generated (id : RowId) (dto : GenerateAssetRequestDto) (viewer : Viewer)
      (personOf : RowId → Option RowId) (outside : Except Failure Unit) (conversion : Conversion)
      (h : generate system id dto viewer personOf outside conversion = .ok after)
  | loanDelivered (assetRequestId : Option RowId) (loanId : RowId)
      (h : onLoanDelivered system assetRequestId loanId = .ok after)
  | loanRejected (assetRequestId : Option RowId) (loanId : RowId)
      (h : onLoanRejected system assetRequestId loanId = .ok after)
  | loanCancelled (assetRequestId : Option RowId) (loanId : RowId)
      (h : onLoanCancelled system assetRequestId loanId = .ok after)
  | elsewhere (h : after.requests = system.requests)

/-- What a step does to the requests: it makes one, changes one, or leaves them. -/
inductive RequestEffect (system after : System) : Prop
  | made (request : AssetRequest) (hrequests : after.requests = system.requests ++ [request])
      (hnew : request.id ∉ system.requests.map AssetRequest.id)
      (hstatus : request.status = .requested) (hitems : request.items = [])
  | changed (request changed : AssetRequest) (h : RequestChange system after request changed)
  | none (h : after.requests = system.requests)

theorem RequestStep.effect {system after : System} (h : RequestStep system after)
    (hnodup : (system.requests.map AssetRequest.id).Nodup) : RequestEffect system after := by
  have hsome : (∃ request changed, RequestChange system after request changed) →
      RequestEffect system after := fun ⟨request, changed, h⟩ => .changed request changed h
  have hmaybe : (after = system ∨ ∃ request changed, RequestChange system after request changed) →
      RequestEffect system after := fun h => h.elim (fun heq => .none (heq ▸ rfl)) hsome
  cases h with
  | created id dto viewer personId isActive hasOtherHead h =>
    obtain ⟨request, hrequests, hnew, hstatus, hitems⟩ := create_eq_ok h
    exact .made request hrequests hnew hstatus hitems
  | accepted id assetIds viewer hassets h => exact hsome (accept_change hassets h)
  | closed id viewer h => exact hsome (close_change h)
  | cancelled id viewer h => exact hsome (cancel_change h)
  | returned id viewer h => exact hsome (returnToRequester_change h)
  | corrected id dto viewer isActive hasOtherHead h => exact hsome (correct_change h)
  | expired due h => exact hmaybe (expireDue_change h)
  | generated id dto viewer personOf outside conversion h => exact hsome (generate_change hnodup h)
  | loanDelivered assetRequestId loanId h => exact hmaybe (onLoanDelivered_change h)
  | loanRejected assetRequestId loanId h =>
    exact hmaybe (closeByLoan_change (by decide) (by decide) h)
  | loanCancelled assetRequestId loanId h =>
    exact hmaybe (closeByLoan_change (by decide) (by decide) h)
  | elsewhere h => exact .none h

/-- Each request has its identifier, holds its assets as its status says, and shares none. -/
structure Kept (system : System) : Prop where
  nodup : (system.requests.map AssetRequest.id).Nodup
  reserved : ∀ request ∈ system.requests, Reserved request
  apart : ∀ request ∈ system.requests, ∀ other ∈ system.requests, ∀ assetId,
    heldIn request.items assetId = true → heldIn other.items assetId = true →
      request.id = other.id

theorem Kept.made {system after : System} (h : Kept system) {request : AssetRequest}
    (hrequests : after.requests = system.requests ++ [request])
    (hnew : request.id ∉ system.requests.map AssetRequest.id)
    (hstatus : request.status = .requested) (hitems : request.items = []) : Kept after := by
  have hcases : ∀ other ∈ after.requests, other ∈ system.requests ∨ other = request := by
    intro other hother
    rw [hrequests] at hother
    exact (List.mem_append.mp hother).imp_right List.mem_singleton.mp
  have hfree : ∀ assetId, heldIn request.items assetId ≠ true := by
    intro assetId
    rw [hitems]
    exact Bool.false_ne_true
  constructor
  · rw [hrequests, List.map_append, List.nodup_append]
    refine ⟨h.nodup, List.nodup_singleton _, fun id hid other hother => ?_⟩
    rw [List.mem_singleton.mp hother]
    exact fun hsame => hnew (hsame ▸ hid)
  · intro other hother
    rcases hcases other hother with hold | rfl
    · exact h.reserved other hold
    · exact reserved_requested hstatus hitems
  · intro one hone other hother assetId hheld hheld'
    rcases hcases one hone with hone | rfl
    · rcases hcases other hother with hother | rfl
      · exact h.apart one hone other hother assetId hheld hheld'
      · exact absurd hheld' (hfree assetId)
    · exact absurd hheld (hfree assetId)

theorem Kept.changed {system after : System} (h : Kept system) {request changed : AssetRequest}
    (hchange : RequestChange system after request changed) : Kept after := by
  have hfree : ∀ other ∈ system.requests, other.id ≠ request.id → ∀ assetId,
      heldIn changed.items assetId = true → heldIn other.items assetId = true → False := by
    intro other hother hne assetId hchanged hheld
    rcases hchange.held assetId hchanged with hbefore | hunreserved
    · exact hne (h.apart other hother request hchange.mem assetId hheld hbefore)
    · refine Bool.false_ne_true (hunreserved.symm.trans (List.any_eq_true.mpr ⟨other, hother, ?_⟩))
      simp [hheld]
  constructor
  · rw [hchange.ids]
    exact h.nodup
  · intro other hother
    rcases hchange.others other hother with rfl | ⟨hold, _⟩
    · exact hchange.reserved (h.reserved request hchange.mem)
    · exact h.reserved other hold
  · intro one hone other hother assetId hheld hheld'
    rcases hchange.others one hone with rfl | ⟨hone, hne⟩
    · rcases hchange.others other hother with rfl | ⟨hother, hne'⟩
      · rfl
      · exact (hfree other hother hne' assetId hheld hheld').elim
    · rcases hchange.others other hother with rfl | ⟨hother, _⟩
      · exact (hfree one hone hne assetId hheld' hheld).elim
      · exact h.apart one hone other hother assetId hheld hheld'

/-- A step keeps what the requests reserve. -/
theorem Kept.step {system after : System} (h : Kept system) (hstep : RequestStep system after) :
    Kept after := by
  cases hstep.effect h.nodup with
  | made request hrequests hnew hstatus hitems => exact h.made hrequests hnew hstatus hitems
  | changed request changed hchange => exact h.changed hchange
  | none hsame =>
    constructor
    · rw [hsame]
      exact h.nodup
    · rw [hsame]
      exact h.reserved
    · rw [hsame]
      exact h.apart

/-- Every request stays, with its status or with one that the table allows, and one that is new
is requested. -/
structure StatusesFollow (system after : System) : Prop where
  stays : ∀ request ∈ system.requests, ∃ other ∈ after.requests, other.id = request.id ∧
    (other.status = request.status ∨
      canAssetRequestTransition request.status other.status = true)
  comes : ∀ other ∈ after.requests,
    (∃ request ∈ system.requests, request.id = other.id) ∨ other.status = .requested

/-- A step changes statuses along the table. -/
theorem Kept.statusesFollow {system after : System} (h : Kept system)
    (hstep : RequestStep system after) : StatusesFollow system after := by
  cases hstep.effect h.nodup with
  | made request hrequests hnew hstatus hitems =>
    constructor
    · intro other hother
      exact ⟨other, hrequests ▸ List.mem_append_left _ hother, rfl, Or.inl rfl⟩
    · intro other hother
      rw [hrequests, List.mem_append, List.mem_singleton] at hother
      rcases hother with hold | rfl
      · exact Or.inl ⟨other, hold, rfl⟩
      · exact Or.inr hstatus
  | changed request changed hchange =>
    constructor
    · intro before hbefore
      have hid : before.id ∈ after.requests.map AssetRequest.id := by
        rw [hchange.ids]
        exact List.mem_map_of_mem hbefore
      obtain ⟨other, hother, hsame⟩ := List.mem_map.mp hid
      refine ⟨other, hother, hsame, ?_⟩
      rcases hchange.others other hother with rfl | ⟨hold, _⟩
      · have heq : before = request := List.inj_on_of_nodup_map h.nodup hbefore hchange.mem
          (hsame.symm.trans hchange.id)
        rw [heq]
        exact Or.inr hchange.legal
      · have heq : other = before := List.inj_on_of_nodup_map h.nodup hold hbefore hsame
        exact Or.inl (heq ▸ rfl)
    · intro other hother
      have hid : other.id ∈ system.requests.map AssetRequest.id := by
        rw [← hchange.ids]
        exact List.mem_map_of_mem hother
      obtain ⟨before, hbefore, hsame⟩ := List.mem_map.mp hid
      exact Or.inl ⟨before, hbefore, hsame⟩
  | none hsame =>
    exact ⟨fun request hrequest => ⟨request, hsame ▸ hrequest, rfl, Or.inl rfl⟩,
      fun other hother => Or.inl ⟨other, hsame ▸ hother, rfl⟩⟩

/-- A run keeps what the requests reserve. -/
theorem kept_of_run {start system : System} (hstart : start.requests = [])
    (hrun : Relation.ReflTransGen RequestStep start system) : Kept system := by
  induction hrun with
  | refl =>
    constructor
    · rw [hstart]
      exact List.nodup_nil
    · intro request hrequest
      rw [hstart] at hrequest
      exact absurd hrequest List.not_mem_nil
    · intro request hrequest
      rw [hstart] at hrequest
      exact absurd hrequest List.not_mem_nil
  | tail _ hstep ih => exact ih.step hstep

/-- In every run that starts without requests: the items of a request are open, and there are
some, exactly while it is accepted or returned; no asset has open items in two requests; and
what comes next changes each status along the table. -/
theorem reservations_match_status {start system : System} (hstart : start.requests = [])
    (hrun : Relation.ReflTransGen RequestStep start system) :
    (∀ request ∈ system.requests,
      (∀ item ∈ request.items, item.isOpen = true ↔ request.status ∈ holdingStatuses) ∧
        ((∃ item ∈ request.items, item.isOpen = true) ↔ request.status ∈ holdingStatuses)) ∧
      (∀ request ∈ system.requests, ∀ other ∈ system.requests, ∀ assetId,
        heldIn request.items assetId = true → heldIn other.items assetId = true →
          request.id = other.id) ∧
      ∀ after, RequestStep system after → StatusesFollow system after := by
  have hkept := kept_of_run hstart hrun
  refine ⟨fun request hrequest => ?_, hkept.apart, fun after => hkept.statusesFollow⟩
  have hreserved := hkept.reserved request hrequest
  refine ⟨hreserved.open_iff, fun ⟨item, hitem, hopen⟩ => (hreserved.open_iff item hitem).mp hopen,
    fun hheld => ?_⟩
  obtain ⟨item, hitem⟩ := List.exists_mem_of_ne_nil _ (hreserved.some_held hheld)
  exact ⟨item, hitem, (hreserved.open_iff item hitem).mpr hheld⟩

/-! ### A request that starts again -/

def solicitud : RowId := ⟨"s1", by decide⟩

/-- Who looks at the request: a head of one centre, who reviews or not. -/
def viewerOf (userId center : RowId) (isReviewer : Bool) : Viewer where
  userId := userId
  isHead other := other = center
  isReviewer := isReviewer
  isReader := false

def askFor (system : System) : Except Failure System :=
  create system solicitud ⟨.temporary, borrower, lender, some 10, some 30⟩
    (viewerOf asker borrower false) (some asker) (fun _ => true) fun _ => true

def acceptScanner (system : System) : Except Failure System :=
  accept system solicitud [scanner] (viewerOf decider lender false)

def sendBack (system : System) : Except Failure System :=
  returnToRequester system solicitud (viewerOf deliveryAct twoThings true)

/-- It is asked for for good: the request starts again. -/
def askForGood (system : System) : Except Failure System :=
  correct system solicitud ⟨some .permanent, none, none, none, none⟩
    (viewerOf asker borrower false) (fun _ => true) fun _ => true

def acceptProjector (system : System) : Except Failure System :=
  accept system solicitud [projector] (viewerOf decider lender false)

/-- The system once the request was accepted, returned, corrected and accepted again. -/
def acceptedAgain : System :=
  attempt acceptProjector (attempt askForGood (attempt sendBack (attempt acceptScanner
    (attempt askFor twoAssets))))

theorem acceptedAgain_run : Relation.ReflTransGen RequestStep twoAssets acceptedAgain := by
  refine run_attempt acceptProjector (run_attempt askForGood (run_attempt sendBack
    (run_attempt acceptScanner (run_attempt askFor .refl ?_ ?_) ?_ ?_) ?_ ?_) ?_ ?_) ?_ ?_
  · exact fun after h => .created _ _ _ _ _ _ h
  · decide +kernel
  · exact fun after h => .accepted _ _ _ (List.cons_ne_nil _ _) h
  · decide +kernel
  · exact fun after h => .returned _ _ h
  · decide +kernel
  · exact fun after h => .corrected _ _ _ _ _ h
  · decide +kernel
  · exact fun after h => .accepted _ _ _ (List.cons_ne_nil _ _) h
  · decide +kernel

theorem reservations_match_status_again :
    isReserved acceptedAgain none scanner = false ∧
      isReserved acceptedAgain none projector = true ∧
      (∀ request ∈ acceptedAgain.requests,
        (∀ item ∈ request.items, item.isOpen = true ↔ request.status ∈ holdingStatuses) ∧
          ((∃ item ∈ request.items, item.isOpen = true) ↔ request.status ∈ holdingStatuses)) ∧
      (∀ request ∈ acceptedAgain.requests, ∀ other ∈ acceptedAgain.requests, ∀ assetId,
        heldIn request.items assetId = true → heldIn other.items assetId = true →
          request.id = other.id) ∧
      ∀ after, RequestStep acceptedAgain after → StatusesFollow acceptedAgain after :=
  ⟨by decide +kernel, by decide +kernel, reservations_match_status rfl acceptedAgain_run⟩

end InternalControl.AssetRequests
