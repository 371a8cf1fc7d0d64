import InternalControl.MovementChain
import Mathlib.Logic.Relation

/-!
# Runs of the movement service

Recording a movement signs it after the movement nobody points to yet. In
every run, with whatever dates and secrets, the rows of each asset stay one
signed chain, so the verifier never reports a failure.
-/

namespace InternalControl.MovementSignature

/-- A metadata object given by a caller. -/
structure MetadataObject where
  fields : KeyedMap String JsValue
  /-- No object inside has a key twice. -/
  distinct : ∀ entry ∈ fields.entries, JsonText.Distinct entry.2

/-- What a caller asks to be recorded. -/
structure RecordMovementInput where
  assetId : Uuid
  movementType : MovementType
  fromState : MovementStateSnapshot
  toState : MovementStateSnapshot
  requestedBy : Option Uuid
  authorizedBy : Option Uuid
  reason : Option String
  documentReference : Option String
  loanId : Option Uuid
  metadata : Option MetadataObject
  executedAt : Option Instant

/-- The metadata with the time and the version of the signature. -/
def signedMetadata (metadata : Option MetadataObject) (now : Instant) : KeyedMap String JsValue :=
  (((metadata.map MetadataObject.fields).getD KeyedMap.empty).set "signedAt"
    (.string now.toISOString)).set "signatureVersion" (.number signatureVersion)

/-- The row of a movement before it is signed. -/
def unsigned (input : RecordMovementInput) (previousMovementId : Option Uuid) (now : Instant)
    (id : Uuid) : AssetMovement where
  id := id
  assetId := input.assetId
  movementType := input.movementType
  fromState := input.fromState
  toState := input.toState
  requestedBy := input.requestedBy
  authorizedBy := input.authorizedBy
  executedAt := input.executedAt.getD now
  reason := input.reason
  documentReference := input.documentReference
  loanId := input.loanId
  previousMovementId := previousMovementId
  eventSignature := none
  metadata := some (.object (signedMetadata input.metadata now).entries)
  createdAt := now

/-- The signed row of a movement, with the id the database gives it. -/
def signed (hmac : HmacSha256) (secret : String) (input : RecordMovementInput)
    (previousMovementId : Option Uuid) (now : Instant) (id : Uuid) : AssetMovement :=
  let entity := unsigned input previousMovementId now id
  { entity with eventSignature := some (signatureOf hmac entity secret) }

/-- The movement table and the configured secrets. -/
structure MovementStore where
  table : List AssetMovement
  secret : String
  previousSecrets : List String

/-- The secrets a signature may have been made with. -/
def MovementStore.verificationSecrets (store : MovementStore) : List String :=
  store.secret :: store.previousSecrets

/-- The rows of an asset. -/
def rowsOf (table : List AssetMovement) (assetId : Uuid) : List AssetMovement :=
  table.filter fun row => row.assetId = assetId.lower

/-- No row of the table points to the row. -/
def unreferenced (table : List AssetMovement) (row : AssetMovement) : Bool :=
  table.all fun other => other.previousMovementId ≠ some row.id

/-- The movement of an asset nobody points to, the latest created of them. -/
def previousMovement (table : List AssetMovement) (assetId : Uuid) : Option AssetMovement :=
  (((rowsOf table assetId).filter (unreferenced table)).insertionSort fun left right =>
    Instant.le right.createdAt left.createdAt = true).head?

/-- Record a movement after the asset's last one. -/
def record (hmac : HmacSha256) (store : MovementStore) (input : RecordMovementInput)
    (now : Instant) (id : Uuid) : MovementStore :=
  let previous := previousMovement store.table input.assetId
  { store with
    table := store.table ++
      [storedRow (signed hmac store.secret input (previous.map AssetMovement.id) now id)] }

/-- Record the first movement of several assets, unless one of them has some. -/
def recordInitial (hmac : HmacSha256) (store : MovementStore) (inputs : List RecordMovementInput)
    (now : Instant) (ids : List Uuid) : Option MovementStore :=
  if inputs = [] then some store
  else if store.table.any fun row => inputs.any fun input => row.assetId = input.assetId.lower then
    none
  else some { store with
    table := store.table ++ (inputs.zip ids).map fun entry =>
      storedRow (signed hmac store.secret entry.1 none now entry.2) }

/-- One committed call of the service, or a change of the configured secrets. -/
inductive Step (hmac : HmacSha256) : MovementStore → MovementStore → Prop
  /-- The database gives a new row an id of its own. -/
  | record (store : MovementStore) (input : RecordMovementInput) (now : Instant) (id : Uuid)
      (hid : ∀ row ∈ store.table, row.id ≠ id.lower) :
      Step hmac store (record hmac store input now id)
  /-- The import asks for each asset once; a refused call changes nothing. -/
  | recordInitial (store : MovementStore) (inputs : List RecordMovementInput) (now : Instant)
      (ids : List Uuid) (hlength : ids.length = inputs.length)
      (hids : (ids.map Uuid.lower).Nodup)
      (hfresh : ∀ id ∈ ids, ∀ row ∈ store.table, row.id ≠ id.lower)
      (hassets : (inputs.map fun input => input.assetId.lower).Nodup) :
      Step hmac store ((recordInitial hmac store inputs now ids).getD store)
  /-- The secrets in use stay among those that verify. -/
  | rotate (store : MovementStore) (secret : String) (previousSecrets : List String)
      (hkept : ∀ old ∈ store.verificationSecrets, old ∈ secret :: previousSecrets) :
      Step hmac store ⟨store.table, secret, previousSecrets⟩

/-- The rows of a table are signed and form one chain for each asset. -/
structure Chained (hmac : HmacSha256) (store : MovementStore) : Prop where
  ids : (store.table.map AssetMovement.id).Nodup
  idLower : ∀ row ∈ store.table, row.id.lower = row.id
  assetLower : ∀ row ∈ store.table, row.assetId.lower = row.assetId
  signatures : ∀ row ∈ store.table, SignedUnder hmac store.verificationSecrets row
  linked : ∀ assetId, LinkedFrom none (rowsOf store.table assetId)

/-! ### A new row -/

section Recorded

variable {hmac : HmacSha256} {secret : String} {input : RecordMovementInput}
  {previousMovementId : Option Uuid} {now : Instant} {id : Uuid}

@[simp] theorem storedRow_signed_id :
    (storedRow (signed hmac secret input previousMovementId now id)).id = id.lower := rfl

@[simp] theorem storedRow_signed_assetId :
    (storedRow (signed hmac secret input previousMovementId now id)).assetId =
      input.assetId.lower := rfl

@[simp] theorem storedRow_signed_previousMovementId :
    (storedRow (signed hmac secret input previousMovementId now id)).previousMovementId =
      previousMovementId.map Uuid.lower := rfl

end Recorded

theorem distinct_signedMetadata (metadata : Option MetadataObject) (now : Instant) :
    JsonText.Distinct (.object (signedMetadata metadata now).entries) := by
  refine ⟨(signedMetadata metadata now).nodup, ?_⟩
  rw [JsonText.distinctFields_iff]
  intro entry hentry
  rcases KeyedMap.mem_entries_set _ hentry with rfl | hentry
  · trivial
  rcases KeyedMap.mem_entries_set _ hentry with rfl | hentry
  · trivial
  cases metadata with
  | none => cases hentry
  | some metadata => exact metadata.distinct entry hentry

/-- The stored metadata carries the version of the signature. -/
theorem field?_signedMetadata (metadata : Option MetadataObject) (now : Instant) :
    (JsonText.toJsonb (.object (signedMetadata metadata now).entries)).field? "signatureVersion" =
      some (.number signatureVersion) := by
  have hmem : ("signatureVersion", JsValue.number signatureVersion) ∈
      (signedMetadata metadata now).entries :=
    (KeyedMap.mem_entries_iff _ _ _).mpr (KeyedMap.get?_set_self _ _ _)
  exact JsonText.field?_toJsonb (signedMetadata metadata now).nodup hmem rfl

/-- The signature of a recorded row matches what the database keeps of it. -/
theorem signedUnder_recorded (hmac : HmacSha256) {secrets : List String} {secret : String}
    (hsecret : secret ∈ secrets) (input : RecordMovementInput) (previousMovementId : Option Uuid)
    (now : Instant) (id : Uuid) :
    SignedUnder hmac secrets
      (storedRow (signed hmac secret input previousMovementId now id)) := by
  refine ⟨⟨_, rfl, field?_signedMetadata input.metadata now⟩, secret, hsecret, ?_⟩
  have hpayload : payload (storedRow (signed hmac secret input previousMovementId now id)) =
      payload (signed hmac secret input previousMovementId now id) := by
    refine payload_storedRow ?_ ?_
    · rintro value ⟨⟩
      exact distinct_signedMetadata input.metadata now
    · rintro value ⟨⟩
      rfl
  rw [signatureOf, hpayload]
  rfl

theorem SignedUnder.mono {hmac : HmacSha256} {secrets others : List String}
    {movement : AssetMovement} (h : SignedUnder hmac secrets movement)
    (hsub : ∀ secret ∈ secrets, secret ∈ others) : SignedUnder hmac others movement := by
  obtain ⟨hversion, secret, hsecret, hsignature⟩ := h
  exact ⟨hversion, secret, hsub secret hsecret, hsignature⟩

/-! ### The last row of a chain -/

section Last

variable {previous : Option Uuid} {chain : List AssetMovement}

/-- A chain goes on with a row that points to its last one. -/
theorem LinkedFrom.concat (h : LinkedFrom previous chain) {item : AssetMovement}
    (hitem : item.previousMovementId = (chain.getLast?.map AssetMovement.id).or previous) :
    LinkedFrom previous (chain ++ [item]) := by
  induction chain generalizing previous with
  | nil => exact ⟨hitem, trivial⟩
  | cons first rest ih =>
    refine ⟨h.1, ih h.2 ?_⟩
    rw [hitem]
    cases hlast : rest.getLast? <;> simp [List.getLast?_cons, hlast]

/-- Only the last row of a chain is not pointed to by the others. -/
theorem LinkedFrom.filter_unreferenced (h : LinkedFrom none chain)
    (hnodup : (chain.map AssetMovement.id).Nodup) :
    chain.filter (unreferenced chain) = chain.getLast?.toList := by
  have hsplit : ∀ before after item, chain = before ++ item :: after →
      (unreferenced chain item = true ↔ after = []) := by
    rintro before after item rfl
    have hnext := h.filter_next hnodup fun _ _ he => by cases he
    have hall : unreferenced (before ++ item :: after) item = true ↔
        ((before ++ item :: after).filter fun other =>
          other.previousMovementId = some item.id) = [] := by
      simp only [unreferenced, List.all_eq_true, List.filter_eq_nil_iff, decide_eq_true_eq, ne_eq]
    rw [hall, hnext]
    cases after <;> simp
  rcases List.eq_nil_or_concat' chain with rfl | ⟨before, last, rfl⟩
  · rfl
  · have hbefore : before.filter (unreferenced (before ++ [last])) = [] := by
      rw [List.filter_eq_nil_iff]
      intro item hitem hfree
      obtain ⟨start, rest, rfl⟩ := List.append_of_mem hitem
      have hend := (hsplit start (rest ++ [last]) item (by simp)).mp hfree
      simp at hend
    have hlast := (hsplit before [] last rfl).mpr rfl
    rw [List.filter_append, hbefore, List.filter_cons, if_pos hlast]
    simp

end Last

theorem mem_rowsOf {table : List AssetMovement} {assetId : Uuid} {row : AssetMovement} :
    row ∈ rowsOf table assetId ↔ row ∈ table ∧ row.assetId = assetId.lower := by
  simp [rowsOf]

theorem rowsOf_append (before after : List AssetMovement) (assetId : Uuid) :
    rowsOf (before ++ after) assetId = rowsOf before assetId ++ rowsOf after assetId :=
  List.filter_append _ _

theorem rowsOf_lower (table : List AssetMovement) (assetId : Uuid) :
    rowsOf table assetId.lower = rowsOf table assetId := by
  rw [rowsOf, Uuid.lower_lower]
  rfl

/-- Of rows of different assets, one at most is of a given asset. -/
theorem rowsOf_eq_find? {table : List AssetMovement}
    (hassets : (table.map AssetMovement.assetId).Nodup) (assetId : Uuid) :
    rowsOf table assetId = (table.find? fun row => row.assetId = assetId.lower).toList := by
  induction table with
  | nil => rfl
  | cons first rest ih =>
    rw [List.map_cons, List.nodup_cons] at hassets
    rw [rowsOf, List.filter_cons, List.find?_cons]
    by_cases hfirst : first.assetId = assetId.lower
    · have hrest : (rest.filter fun row => row.assetId = assetId.lower) = [] := by
        rw [List.filter_eq_nil_iff]
        intro row hrow hasset
        have hsame : row.assetId = first.assetId := by simpa [hfirst] using hasset
        exact hassets.1 (hsame ▸ List.mem_map_of_mem hrow)
      simp [hfirst, hrest]
    · simpa [hfirst, rowsOf] using ih hassets.2

section Runs

variable {hmac : HmacSha256} {store next : MovementStore}

theorem Chained.nodup_rowsOf (h : Chained hmac store) (assetId : Uuid) :
    ((rowsOf store.table assetId).map AssetMovement.id).Nodup :=
  h.ids.sublist (List.filter_sublist.map _)

/-- A row that another one points to belongs to the same asset. -/
theorem Chained.assetId_of_previous (h : Chained hmac store) {row other : AssetMovement}
    (hrow : row ∈ store.table) (hother : other ∈ store.table)
    (hprevious : other.previousMovementId = some row.id) : other.assetId = row.assetId := by
  have hmem : other ∈ rowsOf store.table other.assetId :=
    mem_rowsOf.mpr ⟨hother, (h.assetLower other hother).symm⟩
  rcases (h.linked other.assetId).previous_mem hmem with hnone | ⟨found, hfound, hid⟩
  · rw [hprevious] at hnone
    cases hnone
  · obtain ⟨hfound, hasset⟩ := mem_rowsOf.mp hfound
    have hsame : row = found := List.inj_on_of_nodup_map h.ids hrow hfound
      (Option.some.inj (hprevious.symm.trans hid))
    rw [hsame, hasset, h.assetLower other hother]

/-- The movement a new one is recorded after is the last of the asset's chain. -/
theorem Chained.previousMovement_eq (h : Chained hmac store) (assetId : Uuid) :
    previousMovement store.table assetId = (rowsOf store.table assetId).getLast? := by
  have hfree : (rowsOf store.table assetId).filter (unreferenced store.table) =
      (rowsOf store.table assetId).getLast?.toList := by
    rw [← (h.linked assetId).filter_unreferenced (h.nodup_rowsOf assetId)]
    refine List.filter_congr fun row hrow => ?_
    obtain ⟨hrow, hasset⟩ := mem_rowsOf.mp hrow
    rw [Bool.eq_iff_iff]
    simp only [unreferenced, List.all_eq_true, decide_eq_true_eq]
    refine ⟨fun hall other hother => hall other (mem_rowsOf.mp hother).1,
      fun hall other hother hback => ?_⟩
    refine hall other (mem_rowsOf.mpr ⟨hother, ?_⟩) hback
    rw [h.assetId_of_previous hrow hother hback, hasset]
  rw [previousMovement, hfree]
  cases (rowsOf store.table assetId).getLast? <;> rfl

/-- Rows with new ids, each signed and after the last one of its asset, keep the chains. -/
theorem Chained.append (h : Chained hmac store) {added : List AssetMovement}
    (hids : (added.map AssetMovement.id).Nodup)
    (hfresh : ∀ item ∈ added, ∀ row ∈ store.table, row.id ≠ item.id)
    (hidLower : ∀ item ∈ added, item.id.lower = item.id)
    (hassetLower : ∀ item ∈ added, item.assetId.lower = item.assetId)
    (hassets : (added.map AssetMovement.assetId).Nodup)
    (hsigned : ∀ item ∈ added, SignedUnder hmac store.verificationSecrets item)
    (hprevious : ∀ item ∈ added, item.previousMovementId =
      (rowsOf store.table item.assetId).getLast?.map AssetMovement.id) :
    Chained hmac { store with table := store.table ++ added } where
  ids := by
    rw [List.map_append, List.nodup_append]
    refine ⟨h.ids, hids, ?_⟩
    rintro _ hrow _ hitem rfl
    obtain ⟨row, hrow, hid⟩ := List.mem_map.mp hrow
    obtain ⟨item, hitem, hsame⟩ := List.mem_map.mp hitem
    exact hfresh item hitem row hrow (hid.trans hsame.symm)
  idLower row hrow := (List.mem_append.mp hrow).elim (h.idLower row) (hidLower row)
  assetLower row hrow := (List.mem_append.mp hrow).elim (h.assetLower row) (hassetLower row)
  signatures row hrow := (List.mem_append.mp hrow).elim (h.signatures row) (hsigned row)
  linked assetId := by
    rw [rowsOf_append]
    rw [rowsOf_eq_find? hassets]
    cases hfind : added.find? fun row => row.assetId = assetId.lower with
    | none =>
      rw [Option.toList_none, List.append_nil]
      exact h.linked assetId
    | some item =>
      have hitem := List.mem_of_find?_eq_some hfind
      have hasset : item.assetId = assetId.lower := by simpa using List.find?_some hfind
      refine (h.linked assetId).concat ?_
      rw [hprevious item hitem, hasset, rowsOf_lower, Option.or_none]

/-! ### The steps -/

theorem chained_nil (hstart : store.table = []) : Chained hmac store where
  ids := by simp [hstart]
  idLower := by simp [hstart]
  assetLower := by simp [hstart]
  signatures := by simp [hstart]
  linked assetId := by
    rw [hstart]
    trivial

/-- Recording a movement keeps the chains. -/
theorem Chained.record (h : Chained hmac store) (input : RecordMovementInput) (now : Instant)
    {id : Uuid} (hid : ∀ row ∈ store.table, row.id ≠ id.lower) :
    Chained hmac (record hmac store input now id) := by
  refine h.append (by simp) (by simpa using hid) (by simp) (by simp) (by simp) ?_ ?_
  · intro item hitem
    rw [List.mem_singleton.mp hitem]
    exact signedUnder_recorded hmac List.mem_cons_self _ _ _ _
  · intro item hitem
    rw [List.mem_singleton.mp hitem, h.previousMovement_eq, storedRow_signed_assetId,
      storedRow_signed_previousMovementId, rowsOf_lower, Option.map_map]
    refine Option.map_congr fun last hlast => ?_
    exact h.idLower last (mem_rowsOf.mp (List.mem_of_getLast? hlast)).1

/-- Recording the first movement of several assets keeps the chains. -/
theorem Chained.recordInitial (h : Chained hmac store) {inputs : List RecordMovementInput}
    (now : Instant) {ids : List Uuid} (hlength : ids.length = inputs.length)
    (hids : (ids.map Uuid.lower).Nodup)
    (hfresh : ∀ id ∈ ids, ∀ row ∈ store.table, row.id ≠ id.lower)
    (hassets : (inputs.map fun input => input.assetId.lower).Nodup)
    (hnext : recordInitial hmac store inputs now ids = some next) : Chained hmac next := by
  rw [MovementSignature.recordInitial] at hnext
  split_ifs at hnext with hnone hsome
  · cases hnext
    exact h
  · cases hnext
    have hadded : ∀ item ∈ (inputs.zip ids).map fun entry =>
        storedRow (signed hmac store.secret entry.1 none now entry.2),
        ∃ input ∈ inputs, ∃ id ∈ ids,
          item = storedRow (signed hmac store.secret input none now id) := by
      intro item hitem
      obtain ⟨⟨input, id⟩, hentry, rfl⟩ := List.mem_map.mp hitem
      exact ⟨input, (List.of_mem_zip hentry).1, id, (List.of_mem_zip hentry).2, rfl⟩
    have hidColumn : ((inputs.zip ids).map fun entry =>
        storedRow (signed hmac store.secret entry.1 none now entry.2)).map AssetMovement.id =
          ids.map Uuid.lower := by
      conv_rhs => rw [← List.map_snd_zip hlength.le, List.map_map]
      rw [List.map_map]
      rfl
    have hassetColumn : ((inputs.zip ids).map fun entry =>
        storedRow (signed hmac store.secret entry.1 none now entry.2)).map AssetMovement.assetId =
          inputs.map fun input => input.assetId.lower := by
      conv_rhs => rw [← List.map_fst_zip hlength.ge, List.map_map]
      rw [List.map_map]
      rfl
    refine h.append ?_ ?_ ?_ ?_ ?_ ?_ ?_
    · rw [hidColumn]
      exact hids
    · intro item hitem row hrow
      obtain ⟨input, _, id, hid, rfl⟩ := hadded item hitem
      exact hfresh id hid row hrow
    · intro item hitem
      obtain ⟨input, _, id, _, rfl⟩ := hadded item hitem
      exact Uuid.lower_lower id
    · intro item hitem
      obtain ⟨input, _, id, _, rfl⟩ := hadded item hitem
      exact Uuid.lower_lower input.assetId
    · rw [hassetColumn]
      exact hassets
    · intro item hitem
      obtain ⟨input, _, id, _, rfl⟩ := hadded item hitem
      exact signedUnder_recorded hmac List.mem_cons_self _ _ _ _
    · intro item hitem
      obtain ⟨input, hinput, id, _, rfl⟩ := hadded item hitem
      have hempty : rowsOf store.table input.assetId = [] := by
        rw [rowsOf, List.filter_eq_nil_iff]
        intro row hrow hasset
        exact hsome (List.any_eq_true.mpr ⟨row, hrow, List.any_eq_true.mpr
          ⟨input, hinput, hasset⟩⟩)
      simp [rowsOf_lower, hempty]

/-- Rotating the secret keeps the chains. -/
theorem Chained.rotate (h : Chained hmac store) {secret : String} {previousSecrets : List String}
    (hkept : ∀ old ∈ store.verificationSecrets, old ∈ secret :: previousSecrets) :
    Chained hmac ⟨store.table, secret, previousSecrets⟩ where
  ids := h.ids
  idLower := h.idLower
  assetLower := h.assetLower
  signatures row hrow := (h.signatures row hrow).mono hkept
  linked := h.linked

theorem Chained.step (h : Chained hmac store) (hstep : Step hmac store next) :
    Chained hmac next := by
  cases hstep with
  | record input now id hid => exact h.record input now hid
  | recordInitial inputs now ids hlength hids hfresh hassets =>
    cases hnext : MovementSignature.recordInitial hmac store inputs now ids with
    | none => exact h
    | some next => exact h.recordInitial now hlength hids hfresh hassets hnext
  | rotate secret previousSecrets hkept => exact h.rotate hkept

/-- The chains are kept by a whole run. -/
theorem Chained.run {start : MovementStore} (h : Chained hmac start)
    (hrun : Relation.ReflTransGen (Step hmac) start store) : Chained hmac store := by
  induction hrun with
  | refl => exact h
  | tail _ hstep ih => exact ih.step hstep

end Runs

/-! ### A run of two steps -/

/-- The registration of the asset, as its caller asks for it. -/
def sampleRegistrationInput : RecordMovementInput :=
  ⟨sampleAsset, .registration, sampleState none, sampleState (some .inUse), none, none,
    some "Alta", none, none, none, none⟩

/-- The transfer of the asset, as its caller asks for it. -/
def sampleTransferInput : RecordMovementInput :=
  ⟨sampleAsset, .transfer, sampleState (some .inUse), sampleState (some .inStorage), none, none,
    some "Traslado", none, none, none, none⟩

/-- The store once the asset is registered. -/
def sampleRegistered : MovementStore :=
  (recordInitial sampleHmac ⟨[], "secret", []⟩ [sampleRegistrationInput] sampleInstant
    [sampleRegistration.id]).getD ⟨[], "secret", []⟩

/-- The store once the asset is also transferred. -/
def sampleTransferred : MovementStore :=
  record sampleHmac sampleRegistered sampleTransferInput sampleInstant sampleTransfer.id

theorem sampleRegistered_table : sampleRegistered.table = [sampleRegistration] := by
  have hpayload : payload (unsigned sampleRegistrationInput none sampleInstant
      sampleRegistration.id) = payload sampleRegistration := rfl
  have hrow : storedRow (signed sampleHmac "secret" sampleRegistrationInput none sampleInstant
      sampleRegistration.id) = sampleRegistration := by
    rw [signed, signatureOf, hpayload, ← signatureOf, signatureOf_sampleRegistration]
    exact sampleRegistration_stored.fixed
  have htable : sampleRegistered.table = [storedRow (signed sampleHmac "secret"
      sampleRegistrationInput none sampleInstant sampleRegistration.id)] := rfl
  rw [htable, hrow]

theorem sampleTransferred_table :
    sampleTransferred.table = [sampleRegistration, sampleTransfer] := by
  have hpayload : payload (unsigned sampleTransferInput (some sampleRegistration.id) sampleInstant
      sampleTransfer.id) = payload sampleTransfer := rfl
  have hrow : storedRow (signed sampleHmac "secret" sampleTransferInput
      (some sampleRegistration.id) sampleInstant sampleTransfer.id) = sampleTransfer := by
    rw [signed, signatureOf, hpayload, ← signatureOf, signatureOf_sampleTransfer]
    exact sampleTransfer_stored.fixed
  have hprevious : previousMovement [sampleRegistration] sampleAsset =
      some sampleRegistration := by
    have hrows : rowsOf [sampleRegistration] sampleAsset = [sampleRegistration] := by
      simp [rowsOf, sampleAsset_lower, sampleRegistration]
    rw [previousMovement, hrows]
    rfl
  rw [sampleTransferred, record, sampleRegistered_table]
  rw [show sampleTransferInput.assetId = sampleAsset from rfl, hprevious, Option.map_some,
    show sampleRegistered.secret = "secret" from rfl, hrow]
  rfl

end InternalControl.MovementSignature
