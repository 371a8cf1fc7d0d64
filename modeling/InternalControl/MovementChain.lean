import InternalControl.MovementSignature

/-!
# Verification of a movement chain

The verifier collects failures from the signatures, the links, the forks and
one walk from the only head. It reports nothing exactly when the rows are one
signed chain.
-/

namespace InternalControl.MovementSignature

/-- Why a row or a chain is not accepted. -/
inductive ChainFailureReason where
  | unsigned
  | legacyScheme
  | signatureMismatch
  | brokenLink
  | fork
  | notASingleChain
  deriving DecidableEq

/-- A failure of an asset's chain, at one row or of the whole. -/
structure ChainFailure where
  assetId : Uuid
  movementId : Option Uuid
  reason : ChainFailureReason
  deriving DecidableEq

/-- What is wrong with the signature of a row. -/
def signatureFailure (hmac : HmacSha256) (secrets : List String) (movement : AssetMovement) :
    Option ChainFailureReason :=
  match Text.present movement.eventSignature with
  | none => some .unsigned
  | some stored =>
    match movement.metadata.bind fun value => value.field? "signatureVersion" with
    | some (.number version) =>
      if version = signatureVersion then
        if secrets.any fun secret => signatureOf hmac movement secret = stored then none
        else some .signatureMismatch
      else some .legacyScheme
    | _ => some .legacyScheme

/-- The rows after each row, by the id they point to. -/
def successors (items : List AssetMovement) : KeyedMap (Option Uuid) (List AssetMovement) :=
  items.foldl (fun found item =>
    found.set item.previousMovementId
      ((found.get? item.previousMovementId).getD [] ++ [item])) KeyedMap.empty

/-- The failures of one row. -/
def itemFailures (hmac : HmacSha256) (secrets : List String) (assetId : Uuid)
    (byId : KeyedMap Uuid AssetMovement) (item : AssetMovement) : List ChainFailure :=
  ((signatureFailure hmac secrets item).toList.map fun reason => ⟨assetId, some item.id, reason⟩) ++
    if item.previousMovementId.any fun previous => !byId.has previous then
      [⟨assetId, some item.id, .brokenLink⟩]
    else []

/-- The failures of the rows that share a predecessor. -/
def forkFailures (assetId : Uuid) (entry : Option Uuid × List AssetMovement) : List ChainFailure :=
  if entry.1.isSome && decide (1 < entry.2.length) then
    entry.2.map fun item => ⟨assetId, some item.id, .fork⟩
  else []

/-- The only row of a list. -/
def single : List AssetMovement → Option AssetMovement
  | [item] => some item
  | _ => none

/-- The rows visited from a cursor, following only successors, until one was seen. -/
def walked (next : KeyedMap (Option Uuid) (List AssetMovement)) :
    ℕ → Option AssetMovement → List Uuid → List AssetMovement
  | 0, _, _ => []
  | _ + 1, none, _ => []
  | fuel + 1, some cursor, seen =>
    if cursor.id ∈ seen then []
    else cursor :: walked next fuel (single ((next.get? (some cursor.id)).getD []))
      (cursor.id :: seen)

/-- The failures of the chain of an asset, given its rows. -/
def verifyAssetChain (hmac : HmacSha256) (secrets : List String) (assetId : Uuid)
    (items : List AssetMovement) : List ChainFailure :=
  let byId := KeyedMap.index AssetMovement.id items
  let next := successors items
  let heads := (next.get? none).getD []
  -- a walk visits each row at most once, so one step more than rows ends it
  let walk := walked next (items.length + 1) (single heads) []
  items.flatMap (itemFailures hmac secrets assetId byId) ++
    next.entries.flatMap (forkFailures assetId) ++
    if items ≠ [] ∧ (heads.length ≠ 1 ∨ walk.length ≠ items.length) then
      [⟨assetId, none, .notASingleChain⟩]
    else []

/-- Rows that follow each other from a predecessor. -/
def LinkedFrom : Option Uuid → List AssetMovement → Prop
  | _, [] => True
  | previous, item :: rest => item.previousMovementId = previous ∧ LinkedFrom (some item.id) rest

/-! ### Successors -/

theorem successors_foldl (items : List AssetMovement)
    (found : KeyedMap (Option Uuid) (List AssetMovement)) (key : Option Uuid) :
    ((items.foldl (fun found item => found.set item.previousMovementId
      ((found.get? item.previousMovementId).getD [] ++ [item])) found).get? key).getD [] =
        (found.get? key).getD [] ++ items.filter fun item => item.previousMovementId = key := by
  induction items generalizing found with
  | nil => simp
  | cons item rest ih =>
    rw [List.foldl_cons, ih, KeyedMap.get?_set]
    by_cases h : key = item.previousMovementId
    · subst h
      simp
    · simp [h, Ne.symm h]

/-- The rows after a key are the rows that point to it. -/
theorem get?_successors (items : List AssetMovement) (key : Option Uuid) :
    ((successors items).get? key).getD [] =
      items.filter fun item => item.previousMovementId = key := by
  rw [successors, successors_foldl]
  simp

theorem mem_successors_entries {items : List AssetMovement}
    {entry : Option Uuid × List AssetMovement} (h : entry ∈ (successors items).entries) :
    entry.2 = items.filter fun item => item.previousMovementId = entry.1 := by
  have hget := (KeyedMap.mem_entries_iff (successors items) entry.1 entry.2).mp h
  rw [← get?_successors, hget, Option.getD_some]

theorem single_eq_some {items : List AssetMovement} {item : AssetMovement} :
    single items = some item ↔ items = [item] := by
  cases items with
  | nil => simp [single]
  | cons first rest => cases rest <;> simp [single]

/-! ### Signatures -/

/-- A version 2 signature that matches the signed fields under one of the secrets. -/
def SignedUnder (hmac : HmacSha256) (secrets : List String) (movement : AssetMovement) : Prop :=
  (∃ metadata, movement.metadata = some metadata ∧
    metadata.field? "signatureVersion" = some (.number signatureVersion)) ∧
  ∃ secret ∈ secrets, movement.eventSignature = some (signatureOf hmac movement secret)

theorem hex_ne_empty (hmac : HmacSha256) (key text : String) : hmac.hex key text ≠ "" := by
  intro h
  have hlength := hmac.length_hex key text
  rw [h] at hlength
  cases hlength

theorem signatureFailure_eq_none_iff {hmac : HmacSha256} {secrets : List String}
    {movement : AssetMovement} :
    signatureFailure hmac secrets movement = none ↔ SignedUnder hmac secrets movement := by
  constructor
  · intro h
    unfold signatureFailure at h
    split at h
    · cases h
    · next stored hstored =>
      split at h
      · next version hversion =>
        split_ifs at h with hv hs
        obtain ⟨metadata, hmetadata, hfield⟩ := Option.bind_eq_some_iff.mp hversion
        obtain ⟨secret, hsecret, hsame⟩ := List.any_eq_true.mp hs
        refine ⟨⟨metadata, hmetadata, hv ▸ hfield⟩, secret, hsecret, ?_⟩
        rw [(Text.present_eq_some.mp hstored).1, of_decide_eq_true hsame]
      · cases h
  · rintro ⟨⟨metadata, hmetadata, hfield⟩, secret, hsecret, hsignature⟩
    have hstored : Text.present movement.eventSignature =
        some (signatureOf hmac movement secret) :=
      Text.present_eq_some.mpr ⟨hsignature, hex_ne_empty hmac _ _⟩
    have hany : (secrets.any fun other =>
        signatureOf hmac movement other = signatureOf hmac movement secret) = true :=
      List.any_eq_true.mpr ⟨secret, hsecret, by simp⟩
    simp only [signatureFailure, hstored, hmetadata, Option.bind_some, hfield, hany, if_true]

/-! ### The walk -/

section Walk

variable {items : List AssetMovement}

/-- The row a walk goes on to is a row that points to the current one. -/
theorem single_successors {key : Option Uuid} {item : AssetMovement}
    (h : single (((successors items).get? key).getD []) = some item) :
    item ∈ items ∧ item.previousMovementId = key := by
  rw [get?_successors, single_eq_some] at h
  have hmem : item ∈ items.filter fun item => item.previousMovementId = key := by
    rw [h]
    exact List.mem_cons_self
  simpa using List.mem_filter.mp hmem

/-- The rows still to be seen bound the steps of a walk: more fuel adds none. -/
theorem walked_enough {fuel : ℕ} {cursor : Option AssetMovement} {seen : List Uuid}
    (hcursor : ∀ item ∈ cursor, item ∈ items)
    (hfuel : (items.filter fun item => item.id ∉ seen).length ≤ fuel) :
    walked (successors items) (fuel + 1) cursor seen = walked (successors items) fuel cursor seen := by
  induction fuel generalizing cursor seen with
  | zero =>
    cases cursor with
    | none => rfl
    | some item =>
      rw [Nat.le_zero, List.length_eq_zero_iff, List.filter_eq_nil_iff] at hfuel
      have hseen : item.id ∈ seen := by simpa using hfuel item (hcursor item rfl)
      rw [walked, walked, if_pos hseen]
  | succ fuel ih =>
    cases cursor with
    | none => rfl
    | some item =>
      rw [walked, walked]
      split
      · rfl
      · next hnew =>
        rw [ih fun next hnext => (single_successors hnext).1]
        have hfewer : (items.filter fun other => other.id ∉ item.id :: seen).length <
            (items.filter fun other => other.id ∉ seen).length := by
          have hsub : (items.filter fun other => other.id ∉ item.id :: seen) =
              (items.filter fun other => other.id ∉ seen).filter fun other =>
                other.id ≠ item.id := by
            rw [List.filter_filter]
            refine List.filter_congr fun other _ => ?_
            simp [not_or]
          rw [hsub]
          refine List.length_filter_lt_length_iff_exists.mpr ⟨item, ?_, by simp⟩
          exact List.mem_filter.mpr ⟨hcursor item rfl, by simpa using hnew⟩
        omega

/-- A walk visits rows of the list. -/
theorem mem_of_mem_walked {fuel : ℕ} {cursor : Option AssetMovement} {seen : List Uuid}
    (hcursor : ∀ item ∈ cursor, item ∈ items) {item : AssetMovement}
    (h : item ∈ walked (successors items) fuel cursor seen) : item ∈ items := by
  induction fuel generalizing cursor seen with
  | zero => cases h
  | succ fuel ih =>
    cases cursor with
    | none => cases h
    | some first =>
      rw [walked] at h
      split at h
      · cases h
      · rcases List.mem_cons.mp h with rfl | h
        · exact hcursor item rfl
        · exact ih (fun next hnext => (single_successors hnext).1) h

/-- A walk visits no row twice and none that was seen. -/
theorem nodup_walked (next : KeyedMap (Option Uuid) (List AssetMovement)) (fuel : ℕ)
    (cursor : Option AssetMovement) (seen : List Uuid) :
    ((walked next fuel cursor seen).map AssetMovement.id).Nodup ∧
      ∀ item ∈ walked next fuel cursor seen, item.id ∉ seen := by
  induction fuel generalizing cursor seen with
  | zero => simp [walked]
  | succ fuel ih =>
    cases cursor with
    | none => simp [walked]
    | some first =>
      rw [walked]
      split
      · simp
      · next hnew =>
        obtain ⟨hnodup, hunseen⟩ := ih (single ((next.get? (some first.id)).getD []))
          (first.id :: seen)
        rw [List.map_cons, List.nodup_cons]
        refine ⟨⟨fun hmem => ?_, hnodup⟩, fun item hitem => ?_⟩
        · obtain ⟨item, hitem, hid⟩ := List.mem_map.mp hmem
          exact hunseen item hitem (hid ▸ List.mem_cons_self)
        · rcases List.mem_cons.mp hitem with rfl | hitem
          · exact hnew
          · exact fun hseen => hunseen item hitem (List.mem_cons_of_mem _ hseen)

/-- The visited rows follow each other. -/
theorem linkedFrom_walked {fuel : ℕ} {cursor : Option AssetMovement} {seen : List Uuid}
    {previous : Option Uuid} (hcursor : ∀ item ∈ cursor, item.previousMovementId = previous) :
    LinkedFrom previous (walked (successors items) fuel cursor seen) := by
  induction fuel generalizing cursor seen previous with
  | zero => trivial
  | succ fuel ih =>
    cases cursor with
    | none => trivial
    | some first =>
      rw [walked]
      split
      · trivial
      · exact ⟨hcursor first rfl, ih fun next hnext => (single_successors hnext).2⟩

end Walk

/-! ### Chains -/

section Chain

variable {previous : Option Uuid} {chain : List AssetMovement}

/-- Each row of a chain points to its start or to a row of the chain. -/
theorem LinkedFrom.previous_mem (h : LinkedFrom previous chain) {item : AssetMovement}
    (hitem : item ∈ chain) : item.previousMovementId = previous ∨
      ∃ other ∈ chain, item.previousMovementId = some other.id := by
  induction chain generalizing previous with
  | nil => cases hitem
  | cons first rest ih =>
    rcases List.mem_cons.mp hitem with rfl | hitem
    · exact Or.inl h.1
    · rcases ih h.2 hitem with hstart | ⟨other, hother, hid⟩
      · exact Or.inr ⟨first, List.mem_cons_self, hstart⟩
      · exact Or.inr ⟨other, List.mem_cons_of_mem _ hother, hid⟩

/-- Only the first row of a chain points to what it starts from. -/
theorem LinkedFrom.filter_start (h : LinkedFrom previous chain)
    (hnodup : (chain.map AssetMovement.id).Nodup)
    (hfresh : ∀ item ∈ chain, previous ≠ some item.id) :
    (chain.filter fun item => item.previousMovementId = previous) = chain.head?.toList := by
  cases chain with
  | nil => rfl
  | cons first rest =>
    rw [List.map_cons, List.nodup_cons] at hnodup
    have hrest : (rest.filter fun item => item.previousMovementId = previous) = [] := by
      rw [List.filter_eq_nil_iff]
      intro item hitem hback
      have hprevious : item.previousMovementId = previous := by simpa using hback
      rcases h.2.previous_mem hitem with hstart | ⟨other, hother, hid⟩
      · exact hfresh first List.mem_cons_self (hprevious.symm.trans hstart)
      · exact hfresh other (List.mem_cons_of_mem _ hother) (hprevious.symm.trans hid)
    rw [List.filter_cons, if_pos (by simpa using h.1), hrest]
    rfl

/-- At most one row of a chain points to each id. -/
theorem LinkedFrom.length_filter_le (h : LinkedFrom previous chain)
    (hnodup : (chain.map AssetMovement.id).Nodup)
    (hfresh : ∀ item ∈ chain, previous ≠ some item.id) (key : Option Uuid) :
    (chain.filter fun item => item.previousMovementId = key).length ≤ 1 := by
  induction chain generalizing previous with
  | nil => simp
  | cons first rest ih =>
    by_cases hkey : key = previous
    · subst hkey
      rw [h.filter_start hnodup hfresh]
      simp
    · rw [List.map_cons, List.nodup_cons] at hnodup
      have hne : ¬first.previousMovementId = key := fun he => hkey (he.symm.trans h.1)
      rw [List.filter_cons, if_neg (by simpa using hne)]
      exact ih h.2 hnodup.2 fun item hitem he =>
        hnodup.1 (List.mem_map.mpr ⟨item, hitem, (Option.some.inj he).symm⟩)

/-- Only the next row of a chain points to a row of it. -/
theorem LinkedFrom.filter_next {before after : List AssetMovement} {item : AssetMovement}
    (h : LinkedFrom previous (before ++ item :: after))
    (hnodup : ((before ++ item :: after).map AssetMovement.id).Nodup)
    (hfresh : ∀ other ∈ before ++ item :: after, previous ≠ some other.id) :
    ((before ++ item :: after).filter fun other => other.previousMovementId = some item.id) =
      after.head?.toList := by
  induction before generalizing previous with
  | nil =>
    rw [List.nil_append, List.map_cons, List.nodup_cons] at hnodup
    have hself : ¬item.previousMovementId = some item.id := by
      rw [h.1]
      exact hfresh item List.mem_cons_self
    rw [List.nil_append, List.filter_cons, if_neg (by simpa using hself)]
    exact h.2.filter_start hnodup.2 fun other hother he =>
      hnodup.1 (List.mem_map.mpr ⟨other, hother, (Option.some.inj he).symm⟩)
  | cons first before ih =>
    rw [List.cons_append, List.map_cons, List.nodup_cons] at hnodup
    have hmem : item ∈ before ++ item :: after := by simp
    have hne : ¬first.previousMovementId = some item.id := by
      rw [h.1]
      exact hfresh item (List.mem_cons_of_mem _ hmem)
    rw [List.cons_append, List.filter_cons, if_neg (by simpa using hne)]
    exact ih h.2 hnodup.2 fun other hother he =>
      hnodup.1 (List.mem_map.mpr ⟨other, hother, (Option.some.inj he).symm⟩)

theorem single_of_perm_toList {items : List AssetMovement} {item : Option AssetMovement}
    (h : items.Perm item.toList) : single items = item := by
  cases item with
  | none => rw [List.perm_nil.mp h]; rfl
  | some item => rw [List.perm_singleton.mp h]; rfl

/-- From its first row, a walk visits a whole chain in order. -/
theorem walked_eq_of_linkedFrom {items : List AssetMovement} (before : List AssetMovement)
    {after : List AssetMovement} (hperm : (before ++ after).Perm items)
    (h : LinkedFrom none (before ++ after))
    (hnodup : ((before ++ after).map AssetMovement.id).Nodup) {fuel : ℕ}
    (hfuel : after.length ≤ fuel) {seen : List Uuid}
    (hseen : ∀ id, id ∈ seen ↔ ∃ item ∈ before, item.id = id) :
    walked (successors items) (fuel + 1) after.head? seen = after := by
  induction after generalizing before fuel seen with
  | nil => rfl
  | cons item after ih =>
    have hnew : item.id ∉ seen := by
      rw [hseen]
      rintro ⟨other, hother, hid⟩
      rw [List.map_append, List.map_cons] at hnodup
      exact (List.nodup_append.mp hnodup).2.2 other.id (List.mem_map_of_mem hother) item.id
        List.mem_cons_self hid
    have hnext : single (((successors items).get? (some item.id)).getD []) = after.head? := by
      rw [get?_successors]
      refine single_of_perm_toList ?_
      rw [← h.filter_next hnodup fun _ _ he => by cases he]
      exact hperm.symm.filter _
    obtain ⟨fuel, rfl⟩ : ∃ rest, fuel = rest + 1 := ⟨fuel - 1, by simp at hfuel; omega⟩
    rw [List.head?_cons, walked, if_neg hnew, hnext]
    congr 1
    refine ih (before ++ [item]) ?_ ?_ ?_ ?_ ?_
    · simpa using hperm
    · simpa using h
    · simpa using hnodup
    · simpa using hfuel
    · intro id
      rw [List.mem_cons, hseen]
      simp [or_comm, eq_comm]

end Chain

/-! ### The verdict -/

variable {hmac : HmacSha256} {secrets : List String} {assetId : Uuid}
  {items : List AssetMovement}

theorem itemFailures_eq_nil {item : AssetMovement} :
    itemFailures hmac secrets assetId (KeyedMap.index AssetMovement.id items) item = [] ↔
      signatureFailure hmac secrets item = none ∧
        ∀ previous ∈ item.previousMovementId, ∃ other ∈ items, other.id = previous := by
  have hlink : (item.previousMovementId.any fun previous =>
        !(KeyedMap.index AssetMovement.id items).has previous) = false ↔
      ∀ previous ∈ item.previousMovementId, ∃ other ∈ items, other.id = previous := by
    cases item.previousMovementId with
    | none => simp
    | some previous =>
      rw [Option.any_some, Bool.not_eq_false', KeyedMap.index_has_iff]
      simp
  rw [itemFailures, List.append_eq_nil_iff, ← hlink]
  refine and_congr ?_ ?_
  · cases signatureFailure hmac secrets item <;> simp
  · split <;> simp_all

/-- No fork is reported exactly when no id is pointed to twice. -/
theorem forkFailures_eq_nil : (successors items).entries.flatMap (forkFailures assetId) = [] ↔
    ∀ key : Uuid, (items.filter fun item => item.previousMovementId = some key).length ≤ 1 := by
  rw [List.flatMap_eq_nil_iff]
  constructor
  · intro h key
    by_contra hmany
    cases hget : (successors items).get? (some key) with
    | none =>
      rw [← get?_successors, hget] at hmany
      simp at hmany
    | some next =>
      have hnext := get?_successors items (some key)
      rw [hget, Option.getD_some] at hnext
      have hfork := h _ ((KeyedMap.mem_entries_iff _ _ _).mpr hget)
      rw [forkFailures, if_pos (by simpa [hnext] using hmany)] at hfork
      rw [List.map_eq_nil_iff] at hfork
      simp only at hfork
      rw [← hnext, hfork] at hmany
      simp at hmany
  · intro h entry hentry
    have hnext := mem_successors_entries hentry
    rw [forkFailures, if_neg]
    cases hkey : entry.1 with
    | none => simp
    | some key =>
      rw [hkey] at hnext
      have hone := h key
      rw [← hnext] at hone
      simpa using hone

theorem verifyAssetChain_eq_nil : verifyAssetChain hmac secrets assetId items = [] ↔
    (∀ item ∈ items, signatureFailure hmac secrets item = none ∧
      ∀ previous ∈ item.previousMovementId, ∃ other ∈ items, other.id = previous) ∧
    (∀ key : Uuid,
      (items.filter fun item => item.previousMovementId = some key).length ≤ 1) ∧
    (items ≠ [] → (items.filter fun item => item.previousMovementId = none).length = 1 ∧
      (walked (successors items) (items.length + 1)
        (single (items.filter fun item => item.previousMovementId = none)) []).length =
          items.length) := by
  simp only [verifyAssetChain, List.append_eq_nil_iff, forkFailures_eq_nil, get?_successors]
  simp only [List.flatMap_eq_nil_iff, itemFailures_eq_nil, ite_eq_right_iff, List.cons_ne_nil,
    imp_false, not_and_or, not_or, not_not, and_assoc]
  rw [imp_iff_not_or, not_not]

/-- An accepted list with rows is a signed chain. -/
theorem chain_of_verifyAssetChain (h : verifyAssetChain hmac secrets assetId items = [])
    (hne : items ≠ []) : (∀ item ∈ items, SignedUnder hmac secrets item) ∧
      ∃ chain, chain.Perm items ∧ LinkedFrom none chain := by
  obtain ⟨hitems, _, hwalk⟩ := verifyAssetChain_eq_nil.mp h
  obtain ⟨_, hlength⟩ := hwalk hne
  refine ⟨fun item hitem => signatureFailure_eq_none_iff.mp (hitems item hitem).1, ?_⟩
  have hhead : ∀ item ∈ single (items.filter fun item => item.previousMovementId = none),
      item ∈ items ∧ item.previousMovementId = none := by
    intro item hitem
    rw [← get?_successors] at hitem
    exact single_successors hitem
  refine ⟨walked (successors items) (items.length + 1)
    (single (items.filter fun item => item.previousMovementId = none)) [], ?_,
    linkedFrom_walked fun item hitem => (hhead item hitem).2⟩
  -- as many different rows of the list as the list has are all of them
  refine List.Subperm.perm_of_length_le (List.subperm_of_subset ?_ fun item hitem =>
    mem_of_mem_walked (fun item hitem => (hhead item hitem).1) hitem) hlength.ge
  exact (nodup_walked _ _ _ _).1.of_map

/-- A signed chain is accepted in whatever order its rows come. -/
theorem verifyAssetChain_of_chain {chain : List AssetMovement} (hperm : chain.Perm items)
    (hids : (items.map AssetMovement.id).Nodup) (hlinked : LinkedFrom none chain)
    (hsigned : ∀ item ∈ items, SignedUnder hmac secrets item) :
    verifyAssetChain hmac secrets assetId items = [] := by
  have hnodup : (chain.map AssetMovement.id).Nodup := (hperm.map _).nodup_iff.mpr hids
  have hhead : (items.filter fun item => item.previousMovementId = none).Perm
      chain.head?.toList := by
    rw [← hlinked.filter_start hnodup fun _ _ he => by cases he]
    exact hperm.symm.filter _
  refine verifyAssetChain_eq_nil.mpr ⟨fun item hitem =>
    ⟨signatureFailure_eq_none_iff.mpr (hsigned item hitem), ?_⟩, ?_, ?_⟩
  · intro previous hprevious
    rcases hlinked.previous_mem (hperm.mem_iff.mpr hitem) with hnone | ⟨other, hother, hid⟩
    · rw [hnone] at hprevious
      cases hprevious
    · rw [hid] at hprevious
      exact ⟨other, hperm.mem_iff.mp hother, by simpa using hprevious⟩
  · intro key
    rw [(hperm.symm.filter _).length_eq]
    exact hlinked.length_filter_le hnodup (fun _ _ he => by cases he) (some key)
  · intro hne
    have hchain : chain ≠ [] := fun he => hne (List.perm_nil.mp (he ▸ hperm).symm)
    obtain ⟨first, rest, rfl⟩ := List.exists_cons_of_ne_nil hchain
    refine ⟨by rw [hhead.length_eq]; rfl, ?_⟩
    rw [single_of_perm_toList hhead]
    have hwalk : walked (successors items) (items.length + 1) (first :: rest).head? [] =
        first :: rest :=
      walked_eq_of_linkedFrom [] hperm hlinked hnodup hperm.length_eq.le (by simp)
    rw [hwalk, hperm.length_eq]

/-- The verifier reports nothing exactly when there are no rows, or every row is
signed and the rows can be listed as one chain from its head. -/
theorem verifyAssetChain_eq_nil_iff (hids : (items.map AssetMovement.id).Nodup) :
    verifyAssetChain hmac secrets assetId items = [] ↔
      items = [] ∨ (∀ item ∈ items, SignedUnder hmac secrets item) ∧
        ∃ chain, chain.Perm items ∧ LinkedFrom none chain := by
  constructor
  · intro h
    by_cases hne : items = []
    · exact Or.inl hne
    · exact Or.inr (chain_of_verifyAssetChain h hne)
  · rintro (rfl | ⟨hsigned, chain, hperm, hlinked⟩)
    · exact verifyAssetChain_of_chain (List.Perm.refl []) List.nodup_nil trivial (by simp)
    · exact verifyAssetChain_of_chain hperm hids hlinked hsigned

/-! ### Two signed movements -/

/-- The asset of the two movements. -/
def sampleAsset : Uuid := ⟨"a1b2c3d4-0000-4000-8000-000000000001", by decide⟩

/-- The first midnight of 2026. -/
def sampleInstant : Instant := ⟨2026, 1, 1, 0, 0, 0, 0, by decide⟩

/-- Nothing known about an asset but its operational status. -/
def sampleState (status : Option OperationalStatus) : MovementStateSnapshot :=
  ⟨none, none, none, status, none⟩

/-- The metadata of both movements. -/
def sampleMetadata : JsValue :=
  .object [("signedAt", .string "2026-01-01T00:00:00.000Z"),
    ("signatureVersion", .number signatureVersion)]

/-- The registration of the asset. -/
def sampleRegistration : AssetMovement where
  id := ⟨"11111111-0000-4000-8000-000000000001", by decide⟩
  assetId := sampleAsset
  movementType := .registration
  fromState := sampleState none
  toState := sampleState (some .inUse)
  requestedBy := none
  authorizedBy := none
  executedAt := sampleInstant
  reason := some "Alta"
  documentReference := none
  loanId := none
  previousMovementId := none
  eventSignature := some "675db7a9404a2c06bf127e7024cff0c0f3678e7cf2020d96611167d242e2dc04"
  metadata := some sampleMetadata
  createdAt := sampleInstant

/-- A transfer that follows the registration. -/
def sampleTransfer : AssetMovement where
  id := ⟨"22222222-0000-4000-8000-000000000002", by decide⟩
  assetId := sampleAsset
  movementType := .transfer
  fromState := sampleState (some .inUse)
  toState := sampleState (some .inStorage)
  requestedBy := none
  authorizedBy := none
  executedAt := sampleInstant
  reason := some "Traslado"
  documentReference := none
  loanId := none
  previousMovementId := some sampleRegistration.id
  eventSignature := some "744d23496bba11fd2197892d0d892748bbdf76079336a1f7ae87f62a8643961e"
  metadata := some sampleMetadata
  createdAt := sampleInstant

/-- The signatures of the two movements under the secret "secret". -/
def sampleHmac : HmacSha256 :=
  .ofTable
    [("secret", payload sampleRegistration,
      "675db7a9404a2c06bf127e7024cff0c0f3678e7cf2020d96611167d242e2dc04"),
    ("secret", payload sampleTransfer,
      "744d23496bba11fd2197892d0d892748bbdf76079336a1f7ae87f62a8643961e")]
    (by simp)

theorem sampleAsset_lower : sampleAsset.lower = sampleAsset := by decide +kernel

theorem sampleRegistration_id_lower : sampleRegistration.id.lower = sampleRegistration.id := by
  decide +kernel

theorem sampleTransfer_id_lower : sampleTransfer.id.lower = sampleTransfer.id := by decide +kernel

theorem sampleMetadata_distinct : JsonText.Distinct sampleMetadata := by
  simp [sampleMetadata, JsonText.Distinct, JsonText.DistinctFields]

theorem sampleMetadata_toJsonb : JsonText.toJsonb sampleMetadata = sampleMetadata := rfl

theorem storedSnapshot_sampleState (status : Option OperationalStatus) :
    storedSnapshot (sampleState status) = sampleState status := rfl

theorem sampleRegistration_stored : IsStored sampleRegistration where
  fixed := by
    have hid := sampleRegistration_id_lower
    have hasset := sampleAsset_lower
    simp only [sampleRegistration] at hid
    simp only [storedRow, sampleRegistration, hid, hasset, storedSnapshot_sampleState,
      Option.map_none, Option.map_some, sampleMetadata_toJsonb]
  distinct := by
    rintro value ⟨⟩
    exact sampleMetadata_distinct

theorem sampleTransfer_stored : IsStored sampleTransfer where
  fixed := by
    have hid := sampleTransfer_id_lower
    have hasset := sampleAsset_lower
    simp only [sampleTransfer] at hid
    simp only [storedRow, sampleTransfer, hid, hasset, storedSnapshot_sampleState,
      sampleRegistration_id_lower, Option.map_none, Option.map_some, sampleMetadata_toJsonb]
  distinct := by
    rintro value ⟨⟩
    exact sampleMetadata_distinct

theorem samplePayloads_ne : payload sampleRegistration ≠ payload sampleTransfer := fun h =>
  absurd (congrArg MovementSignedFields.movementType
    (signedFields_eq_of_payload sampleRegistration_stored sampleTransfer_stored h)) (by decide)

theorem signatureOf_sampleRegistration : signatureOf sampleHmac sampleRegistration "secret" =
    "675db7a9404a2c06bf127e7024cff0c0f3678e7cf2020d96611167d242e2dc04" := by
  rw [signatureOf, signMovement, sampleHmac, HmacSha256.ofTable_cons_self]

theorem signatureOf_sampleTransfer : signatureOf sampleHmac sampleTransfer "secret" =
    "744d23496bba11fd2197892d0d892748bbdf76079336a1f7ae87f62a8643961e" := by
  rw [signatureOf, signMovement, sampleHmac, HmacSha256.ofTable_cons_of_ne _ samplePayloads_ne,
    HmacSha256.ofTable_cons_self]

theorem sampleRegistration_signed : SignedUnder sampleHmac ["secret"] sampleRegistration :=
  ⟨⟨sampleMetadata, rfl, rfl⟩, "secret", List.mem_cons_self, by
    rw [signatureOf_sampleRegistration]
    rfl⟩

theorem sampleTransfer_signed : SignedUnder sampleHmac ["secret"] sampleTransfer :=
  ⟨⟨sampleMetadata, rfl, rfl⟩, "secret", List.mem_cons_self, by
    rw [signatureOf_sampleTransfer]
    rfl⟩

/-- The two movements, whichever comes first, are accepted. -/
theorem verifyAssetChain_eq_nil_iff_sample :
    verifyAssetChain sampleHmac ["secret"] sampleAsset [sampleTransfer, sampleRegistration] = [] :=
  (verifyAssetChain_eq_nil_iff (by decide)).mpr (Or.inr
    ⟨by simp [sampleRegistration_signed, sampleTransfer_signed],
      [sampleRegistration, sampleTransfer], List.Perm.swap _ _ _, rfl, rfl, trivial⟩)

end InternalControl.MovementSignature
