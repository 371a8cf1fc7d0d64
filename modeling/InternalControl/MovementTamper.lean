import InternalControl.MovementRuns

/-!
# Evidence of a tampered movement

With signatures that cannot be forged, a changed row is reported, and so is a
deleted row that another one follows. The last row can be deleted unnoticed.
-/

namespace InternalControl.MovementSignature

/-- A signature kept in the table is valid for texts of rows of the table only. -/
def Unforgeable (hmac : HmacSha256) (secrets : List String) (table : List AssetMovement) : Prop :=
  ∀ row ∈ table, ∀ secret ∈ secrets, ∀ text,
    row.eventSignature = some (hmac.hex secret text) → ∃ other ∈ table, payload other = text

/-- The rows agree on every signed column. -/
structure SameSignedColumns (a b : AssetMovement) : Prop where
  assetId : a.assetId = b.assetId
  movementType : a.movementType = b.movementType
  fromState : a.fromState = b.fromState
  toState : a.toState = b.toState
  requestedBy : a.requestedBy = b.requestedBy
  authorizedBy : a.authorizedBy = b.authorizedBy
  executedAt : a.executedAt = b.executedAt
  reason : a.reason = b.reason
  documentReference : a.documentReference = b.documentReference
  loanId : a.loanId = b.loanId
  previousMovementId : a.previousMovementId = b.previousMovementId
  metadata : a.metadata = b.metadata

/-- The row differs in some signed column, with the id and the signature it had. -/
structure Tampered (row changed : AssetMovement) : Prop where
  id : changed.id = row.id
  eventSignature : changed.eventSignature = row.eventSignature
  differs : ¬SameSignedColumns row changed

/-- The table without the row of an id. -/
def deleted (table : List AssetMovement) (id : Uuid) : List AssetMovement :=
  table.filter fun row => row.id ≠ id

/-- The table with another row in the place of the one with its id. -/
def replaced (table : List AssetMovement) (changed : AssetMovement) : List AssetMovement :=
  table.map fun row => if row.id = changed.id then changed else row

/-! ### Rows that accepted lists cannot have -/

section Accepted

variable {hmac : HmacSha256} {secrets : List String} {assetId : Uuid} {items : List AssetMovement}

/-- No row of a chain points to itself. -/
theorem LinkedFrom.previous_ne {chain : List AssetMovement} (h : LinkedFrom none chain)
    (hnodup : (chain.map AssetMovement.id).Nodup) {item : AssetMovement} (hitem : item ∈ chain) :
    item.previousMovementId ≠ some item.id := by
  intro hself
  obtain ⟨before, after, rfl⟩ := List.append_of_mem hitem
  have hnext := h.filter_next hnodup fun _ _ he => by cases he
  have hmem : item ∈ after.head?.toList := by
    rw [← hnext]
    exact List.mem_filter.mpr ⟨hitem, by simpa using hself⟩
  rw [Option.mem_toList] at hmem
  have hafter : item ∈ after := List.mem_of_mem_head? hmem
  rw [List.map_append, List.map_cons, List.nodup_append, List.nodup_cons] at hnodup
  exact hnodup.2.1.1 (List.mem_map_of_mem hafter)

theorem previous_ne_of_verifyAssetChain (hids : (items.map AssetMovement.id).Nodup)
    (h : verifyAssetChain hmac secrets assetId items = []) {item : AssetMovement}
    (hitem : item ∈ items) : item.previousMovementId ≠ some item.id := by
  obtain ⟨_, chain, hperm, hlinked⟩ := chain_of_verifyAssetChain h (List.ne_nil_of_mem hitem)
  exact hlinked.previous_ne ((hperm.map _).nodup_iff.mpr hids) (hperm.mem_iff.mpr hitem)

/-- In an accepted list, every row that is pointed to is there. -/
theorem exists_of_verifyAssetChain (h : verifyAssetChain hmac secrets assetId items = [])
    {item : AssetMovement} (hitem : item ∈ items) {previous : Uuid}
    (hprevious : item.previousMovementId = some previous) : ∃ other ∈ items, other.id = previous :=
  ((verifyAssetChain_eq_nil.mp h).1 item hitem).2 previous hprevious

theorem eq_of_length_le_one {rows : List AssetMovement} (h : rows.length ≤ 1)
    {a b : AssetMovement} (ha : a ∈ rows) (hb : b ∈ rows) : a = b := by
  rcases rows with _ | ⟨first, _ | ⟨second, rest⟩⟩
  · cases ha
  · rw [List.mem_singleton.mp ha, List.mem_singleton.mp hb]
  · simp at h

/-- In an accepted list, two rows do not point to the same one. -/
theorem eq_of_verifyAssetChain (h : verifyAssetChain hmac secrets assetId items = [])
    {item other : AssetMovement} (hitem : item ∈ items) (hother : other ∈ items)
    (hprevious : other.previousMovementId = item.previousMovementId) : other = item := by
  obtain ⟨_, hforks, hheads⟩ := verifyAssetChain_eq_nil.mp h
  have hone : (items.filter fun row =>
      row.previousMovementId = item.previousMovementId).length ≤ 1 := by
    cases item.previousMovementId with
    | none => exact (hheads (List.ne_nil_of_mem hitem)).1.le
    | some key => exact hforks key
  have hmem : ∀ row ∈ items, row.previousMovementId = item.previousMovementId →
      row ∈ items.filter fun row => row.previousMovementId = item.previousMovementId :=
    fun row hrow hback => List.mem_filter.mpr ⟨hrow, by simpa using hback⟩
  exact eq_of_length_le_one hone (hmem other hother hprevious) (hmem item hitem rfl)

/-- A row of an accepted list carries the version of the signature. -/
theorem signedUnder_of_verifyAssetChain (h : verifyAssetChain hmac secrets assetId items = [])
    {item : AssetMovement} (hitem : item ∈ items) : SignedUnder hmac secrets item :=
  (chain_of_verifyAssetChain h (List.ne_nil_of_mem hitem)).1 item hitem

end Accepted

/-- Rows with the same signed fields agree on every signed column, but for
metadata that is missing from one and empty in the other. -/
theorem sameSignedColumns_of_signedFields {a b : AssetMovement} {metadata : JsValue}
    {version : JsValue} (hmetadata : a.metadata = some metadata)
    (hversion : metadata.field? "signatureVersion" = some version)
    (h : signedFields a = signedFields b) : SameSignedColumns a b := by
  have hcolumn : a.metadata = b.metadata := by
    have hsame := congrArg MovementSignedFields.metadata h
    simp only [signedFields, hmetadata, Option.getD_some] at hsame
    cases hb : b.metadata with
    | none =>
      rw [hsame, hb] at hversion
      cases hversion
    | some value => rw [hmetadata, hsame, hb, Option.getD_some]
  simp only [signedFields, MovementSignedFields.mk.injEq] at h
  obtain ⟨hasset, htype, hat, hrequested, hauthorized, hfrom, hto, hreason, hreference, hloan,
    hprevious, -⟩ := h
  exact ⟨hasset, htype, hfrom, hto, hrequested, hauthorized, hat, hreason, hreference, hloan,
    hprevious, hcolumn⟩

/-! ### The two ways to tamper with a row -/

section Tamper

variable {hmac : HmacSha256} {secrets : List String} {assetId : Uuid}
  {table items : List AssetMovement} {row : AssetMovement}

/-- Deleting a row that another one follows is reported. -/
theorem verifyAssetChain_deleted (hids : (table.map AssetMovement.id).Nodup)
    (haccepted : verifyAssetChain hmac secrets assetId (rowsOf table assetId) = [])
    (hnext : ∃ next ∈ rowsOf table assetId, next.previousMovementId = some row.id)
    (hitems : items.Perm (rowsOf (deleted table row.id) assetId)) :
    verifyAssetChain hmac secrets assetId items ≠ [] := by
  intro hnone
  obtain ⟨next, hnext, hprevious⟩ := hnext
  have hnodup : ((rowsOf table assetId).map AssetMovement.id).Nodup :=
    hids.sublist (List.filter_sublist.map _)
  have hother : next.id ≠ row.id := by
    intro hsame
    exact previous_ne_of_verifyAssetChain hnodup haccepted hnext (hsame ▸ hprevious)
  obtain ⟨hmem, hasset⟩ := mem_rowsOf.mp hnext
  have hkept : next ∈ items := by
    rw [hitems.mem_iff, mem_rowsOf]
    exact ⟨List.mem_filter.mpr ⟨hmem, by simpa using hother⟩, hasset⟩
  obtain ⟨found, hfound, hid⟩ := exists_of_verifyAssetChain hnone hkept hprevious
  rw [hitems.mem_iff, mem_rowsOf] at hfound
  simpa [hid] using (List.mem_filter.mp hfound.1).2

/-- Changing a row is reported by the chain of the asset the changed row names. -/
theorem verifyAssetChain_replaced (hids : (table.map AssetMovement.id).Nodup)
    (hstored : ∀ other ∈ table, IsStored other) (hunforgeable : Unforgeable hmac secrets table)
    (haccepted : verifyAssetChain hmac secrets assetId (rowsOf table assetId) = [])
    (hrow : row ∈ rowsOf table assetId) {changed : AssetMovement} (hchanged : IsStored changed)
    (htampered : Tampered row changed)
    (hitems : items.Perm (rowsOf (replaced table changed) changed.assetId)) :
    verifyAssetChain hmac secrets changed.assetId items ≠ [] := by
  intro hnone
  have hmem : row ∈ table := (mem_rowsOf.mp hrow).1
  have hlower : changed.assetId.lower = changed.assetId :=
    congrArg AssetMovement.assetId hchanged.fixed
  have hin : changed ∈ items := by
    rw [hitems.mem_iff, mem_rowsOf]
    exact ⟨List.mem_map.mpr ⟨row, hmem, if_pos htampered.id.symm⟩, hlower.symm⟩
  -- its signature is valid, so some row of the table has its signed text
  obtain ⟨_, secret, hsecret, hsignature⟩ := signedUnder_of_verifyAssetChain hnone hin
  rw [htampered.eventSignature, signatureOf, signMovement] at hsignature
  obtain ⟨other, hother, hpayload⟩ := hunforgeable row hmem secret hsecret _ hsignature
  have hfields := signedFields_eq_of_payload (hstored other hother) hchanged hpayload
  by_cases hsame : other.id = row.id
  · have heq : other = row := List.inj_on_of_nodup_map hids hother hmem hsame
    obtain ⟨⟨metadata, hmetadata, hversion⟩, _⟩ := signedUnder_of_verifyAssetChain haccepted hrow
    exact htampered.differs
      (sameSignedColumns_of_signedFields hmetadata hversion (heq ▸ hfields))
  · have hkept : other ∈ items := by
      rw [hitems.mem_iff, mem_rowsOf]
      refine ⟨List.mem_map.mpr ⟨other, hother, if_neg fun he => hsame (he.trans htampered.id)⟩, ?_⟩
      rw [hlower]
      exact congrArg MovementSignedFields.assetId hfields
    have heq := eq_of_verifyAssetChain hnone hin hkept
      (congrArg MovementSignedFields.previousMovementId hfields)
    exact hsame (heq ▸ htampered.id)

/-- In an accepted history, deleting a row that is not the last one, or changing
signed columns of any row, is reported. -/
theorem verifyAssetChain_tampered (hids : (table.map AssetMovement.id).Nodup)
    (hstored : ∀ other ∈ table, IsStored other) (hunforgeable : Unforgeable hmac secrets table)
    (haccepted : verifyAssetChain hmac secrets assetId (rowsOf table assetId) = [])
    (hrow : row ∈ rowsOf table assetId) :
    ((∃ next ∈ rowsOf table assetId, next.previousMovementId = some row.id) →
      ∀ items : List AssetMovement, items.Perm (rowsOf (deleted table row.id) assetId) →
        verifyAssetChain hmac secrets assetId items ≠ []) ∧
    ∀ changed, IsStored changed → Tampered row changed →
      ∀ items : List AssetMovement, items.Perm (rowsOf (replaced table changed) changed.assetId) →
        verifyAssetChain hmac secrets changed.assetId items ≠ [] :=
  ⟨fun hnext _ hitems => verifyAssetChain_deleted hids haccepted hnext hitems,
    fun _ hchanged htampered _ hitems =>
      verifyAssetChain_replaced hids hstored hunforgeable haccepted hrow hchanged htampered hitems⟩

end Tamper

/-! ### The last row -/

/-- The two signatures of the sample are valid for its two texts only. -/
theorem sample_unforgeable :
    Unforgeable sampleHmac ["secret"] [sampleRegistration, sampleTransfer] := by
  intro row hrow secret hsecret text hsignature
  rw [List.mem_singleton.mp hsecret] at hsignature
  by_contra hother
  have hregistration : text ≠ payload sampleRegistration := fun h =>
    hother ⟨sampleRegistration, List.mem_cons_self, h.symm⟩
  have htransfer : text ≠ payload sampleTransfer := fun h =>
    hother ⟨sampleTransfer, List.mem_cons_of_mem _ List.mem_cons_self, h.symm⟩
  rw [sampleHmac, HmacSha256.ofTable_cons_of_ne _ hregistration.symm,
    HmacSha256.ofTable_cons_of_ne _ htransfer.symm, HmacSha256.ofTable_nil] at hsignature
  have hrows : row = sampleRegistration ∨ row = sampleTransfer := by simpa using hrow
  rcases hrows with rfl | rfl
  · exact absurd hsignature (by decide)
  · exact absurd hsignature (by decide)

theorem rowsOf_sample :
    rowsOf [sampleRegistration, sampleTransfer] sampleAsset =
      [sampleRegistration, sampleTransfer] := by
  rw [rowsOf, sampleAsset_lower]
  rfl

theorem sample_stored :
    ∀ row ∈ [sampleRegistration, sampleTransfer], IsStored row := by
  simp [sampleRegistration_stored, sampleTransfer_stored]

theorem sample_accepted :
    verifyAssetChain sampleHmac ["secret"] sampleAsset [sampleRegistration, sampleTransfer] =
      [] :=
  verifyAssetChain_of_chain (List.Perm.refl _) (by decide) ⟨rfl, rfl, trivial⟩
    (by simp [sampleRegistration_signed, sampleTransfer_signed])

/-- The registration with another reason. -/
def sampleChanged : AssetMovement := { sampleRegistration with reason := some "Baja" }

theorem sampleChanged_tampered : Tampered sampleRegistration sampleChanged where
  id := rfl
  eventSignature := rfl
  differs h := absurd h.reason (by decide)

theorem sampleChanged_stored : IsStored sampleChanged where
  fixed := congrArg (fun row : AssetMovement => { row with reason := some "Baja" })
    sampleRegistration_stored.fixed
  distinct := sampleRegistration_stored.distinct

/-- Both the deletion of the registration and a change of its reason are reported. -/
theorem verifyAssetChain_tampered_sample :
    verifyAssetChain sampleHmac ["secret"] sampleAsset
        (rowsOf (deleted [sampleRegistration, sampleTransfer] sampleRegistration.id)
          sampleAsset) ≠ [] ∧
      verifyAssetChain sampleHmac ["secret"] sampleChanged.assetId
        (rowsOf (replaced [sampleRegistration, sampleTransfer] sampleChanged)
          sampleChanged.assetId) ≠ [] := by
  have haccepted : verifyAssetChain sampleHmac ["secret"] sampleAsset
      (rowsOf [sampleRegistration, sampleTransfer] sampleAsset) = [] := by
    rw [rowsOf_sample]
    exact sample_accepted
  have hrow : sampleRegistration ∈ rowsOf [sampleRegistration, sampleTransfer] sampleAsset := by
    rw [rowsOf_sample]
    exact List.mem_cons_self
  have hnext : ∃ next ∈ rowsOf [sampleRegistration, sampleTransfer] sampleAsset,
      next.previousMovementId = some sampleRegistration.id := by
    rw [rowsOf_sample]
    exact ⟨sampleTransfer, List.mem_cons_of_mem _ List.mem_cons_self, rfl⟩
  obtain ⟨hdeleted, hreplaced⟩ := verifyAssetChain_tampered (by decide) sample_stored
    sample_unforgeable haccepted hrow
  exact ⟨hdeleted hnext _ (List.Perm.refl _),
    hreplaced _ sampleChanged_stored sampleChanged_tampered _ (List.Perm.refl _)⟩

/-- The sample is accepted and cannot be forged, and without its last row it is
accepted too. -/
theorem verifyAssetChain_deleted_last :
    verifyAssetChain sampleHmac ["secret"] sampleAsset
        (rowsOf [sampleRegistration, sampleTransfer] sampleAsset) = [] ∧
      (rowsOf [sampleRegistration, sampleTransfer] sampleAsset).length = 2 ∧
      (∀ row ∈ [sampleRegistration, sampleTransfer], IsStored row) ∧
      Unforgeable sampleHmac ["secret"] [sampleRegistration, sampleTransfer] ∧
      sampleTransfer ∈ rowsOf [sampleRegistration, sampleTransfer] sampleAsset ∧
      verifyAssetChain sampleHmac ["secret"] sampleAsset
        (rowsOf (deleted [sampleRegistration, sampleTransfer] sampleTransfer.id)
          sampleAsset) = [] := by
  have hdeleted : rowsOf (deleted [sampleRegistration, sampleTransfer] sampleTransfer.id)
      sampleAsset = [sampleRegistration] := by
    rw [rowsOf, sampleAsset_lower]
    rfl
  rw [rowsOf_sample, hdeleted]
  refine ⟨sample_accepted, rfl, sample_stored, sample_unforgeable,
    List.mem_cons_of_mem _ List.mem_cons_self, ?_⟩
  exact verifyAssetChain_of_chain (List.Perm.refl _) (by decide) ⟨rfl, trivial⟩
    (by simp [sampleRegistration_signed])

end InternalControl.MovementSignature
