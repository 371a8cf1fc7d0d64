import InternalControl.AssetImports

/-!
# What a refused import leaves

A row that is created stays, whatever comes of the rows after it. So an import
that ends at a refused row leaves the assets, identifiers and movements of the
rows before it, and leaves none exactly when it is refused at its first row.
-/

namespace InternalControl.AssetImports

open Fallible

variable {runtime : Runtime} {db after : Database} {dto : CreateAssetDto} {actorId : Uuid}
  {prepared : Prepared} {ids : NewIds} {asset : Asset}

section Rows

theorem insertAsset_eq_ok (h : insertAsset runtime db asset = .ok after) :
    after.assets.rows = db.assets.rows ++ [asset] ∧
      after.identifiers = db.identifiers ∧ after.movements = db.movements := by
  unfold insertAsset at h
  split at h
  · cases h
  split at h
  · cases h
  split at h
  · cases h
  split at h
  · cases h
  · next assets hinsert =>
    cases h
    exact ⟨(Table.insert_eq_some hinsert).2, rfl, rfl⟩

theorem insertIdentifiers_eq_ok {identifiers : List AssetIdentifier}
    (h : insertIdentifiers db identifiers = .ok after) :
    after.identifiers.rows = db.identifiers.rows ++ identifiers ∧
      after.assets = db.assets ∧ after.movements = db.movements := by
  unfold insertIdentifiers at h
  split at h
  · cases h
  split at h
  · cases h
  split at h
  · cases h
  split at h
  · cases h
  · next inserted hinsert =>
    cases h
    exact ⟨Table.insertAll_eq_some_iff.mp hinsert, rfl, rfl⟩

theorem recordMovement_eq_ok {movement : AssetMovement}
    (h : recordMovement db movement = .ok after) :
    after.movements.rows = db.movements.rows ++ [movement] ∧
      after.assets = db.assets ∧ after.identifiers = db.identifiers := by
  unfold recordMovement at h
  split at h
  · cases h
  · next movements hinsert =>
    cases h
    exact ⟨(Table.insert_eq_some hinsert).2, rfl, rfl⟩

/-- Taking a code changes the sequence only. -/
theorem codeFor_eq_ok {year : ℤ} {code : String} (h : codeFor db dto year = .ok (code, after)) :
    ∃ sequence, after = { db with sequence := sequence } := by
  unfold codeFor at h
  split at h
  · cases h
    exact ⟨db.sequence, rfl⟩
  · unfold nextInternalCode at h
    split at h
    · cases h
    · cases h
      exact ⟨_, rfl⟩

/-- The rows that a created row leaves: an asset, its identifiers and its movement. -/
theorem insertNew_eq_ok (h : insertNew runtime db dto actorId prepared ids = .ok (asset, after)) :
    after.assets.rows = db.assets.rows ++ [asset] ∧
      after.identifiers.rows = db.identifiers.rows ++ newIdentifiers dto asset ids ∧
      after.movements.rows = db.movements.rows ++ [registration dto asset actorId ids] := by
  unfold insertNew at h
  obtain ⟨⟨code, coded⟩, hcode, h⟩ := bind_eq_ok h
  obtain ⟨inserted, hinsert, h⟩ := bind_eq_ok h
  obtain ⟨identified, hidentify, h⟩ := bind_eq_ok h
  obtain ⟨moved, hmove, h⟩ := bind_eq_ok h
  cases h
  obtain ⟨sequence, rfl⟩ := codeFor_eq_ok hcode
  obtain ⟨hassets', hidentifiers', hmovements'⟩ := insertAsset_eq_ok hinsert
  obtain ⟨hidentifiers'', hassets'', hmovements''⟩ := insertIdentifiers_eq_ok hidentify
  obtain ⟨hmovements₃, hassets₃, hidentifiers₃⟩ := recordMovement_eq_ok hmove
  refine ⟨?_, ?_, ?_⟩
  · rw [hassets₃]
    change identified.assets.rows = _
    rw [hassets'', hassets']
  · rw [hidentifiers₃]
    change identified.identifiers.rows = _
    rw [hidentifiers'', hidentifiers']
  · rw [hmovements₃]
    change identified.movements.rows ++ _ = _
    rw [hmovements'', hmovements']

theorem persistNew_eq_ok (h : persistNew runtime db dto actorId ids = .ok (asset, after)) :
    after.assets.rows = db.assets.rows ++ [asset] ∧
      after.identifiers.rows = db.identifiers.rows ++ newIdentifiers dto asset ids ∧
      after.movements.rows = db.movements.rows ++ [registration dto asset actorId ids] := by
  unfold persistNew at h
  obtain ⟨prepared, _, h⟩ := bind_eq_ok h
  split at h
  · next created hinsert =>
    cases h
    exact insertNew_eq_ok hinsert
  · cases h

end Rows

section Creatable

/-- What the store asks of an asset: its texts fit, what it refers to is there, and nothing that
is unique is taken. -/
structure AssetFree (runtime : Runtime) (db : Database) (asset : Asset) : Prop where
  stored : (fits asset && refersTo db asset && runtime.storesDate asset.acquisitionDate) = true
  code : ¬∃ other ∈ db.assets.rows, other.internalCode = asset.internalCode
  barcode : ¬∃ other ∈ db.assets.rows, asset.barcode ≠ none ∧ other.barcode = asset.barcode
  id : asset.id ∉ db.assets.rows.map Asset.id

/-- What the store asks of the identifiers of an asset. -/
structure IdentifiersFree (db : Database) (identifiers : List AssetIdentifier) : Prop where
  fit : ¬∃ identifier ∈ identifiers, 100 < identifier.value.length
  visible : (visibleCodes (db.identifiers.rows ++ identifiers)).Nodup
  opaqueId : (opaqueIds (db.identifiers.rows ++ identifiers)).Nodup
  ids : ((db.identifiers.rows ++ identifiers).map AssetIdentifier.id).Nodup

/-- A row can be created: the catalogues accept it, there is a code for it, and the store takes
its asset, its identifiers and its movement. -/
def Creatable (runtime : Runtime) (db : Database) (dto : CreateAssetDto) (actorId : Uuid)
    (ids : NewIds) : Prop :=
  ∃ prepared code coded, prepareNew runtime db dto = .ok prepared ∧
    codeFor db dto prepared.year = .ok (code, coded) ∧
    AssetFree runtime db (newAsset dto code actorId ids) ∧
    IdentifiersFree db (newIdentifiers dto (newAsset dto code actorId ids) ids) ∧
    ids.movementId ∉ db.movements.rows.map AssetMovement.id

theorem insertAsset_iff : (∃ after, insertAsset runtime db asset = .ok after) ↔
    AssetFree runtime db asset := by
  unfold insertAsset
  constructor
  · rintro ⟨after, h⟩
    split at h
    · cases h
    next hstored =>
    split at h
    · cases h
    next hcode =>
    split at h
    · cases h
    next hbarcode =>
    split at h
    · cases h
    · next assets hinsert =>
      refine ⟨not_not.mp hstored, hcode, hbarcode, fun htaken => ?_⟩
      unfold Table.insert at hinsert
      rw [dif_pos htaken] at hinsert
      cases hinsert
  · intro h
    rw [if_neg (not_not.mpr h.stored), if_neg h.code, if_neg h.barcode]
    unfold Table.insert
    rw [dif_neg h.id]
    exact ⟨_, rfl⟩

theorem insertIdentifiers_iff {identifiers : List AssetIdentifier} :
    (∃ after, insertIdentifiers db identifiers = .ok after) ↔
      IdentifiersFree db identifiers := by
  unfold insertIdentifiers
  constructor
  · rintro ⟨after, h⟩
    split at h
    · cases h
    next hfit =>
    split at h
    · cases h
    next hvisible =>
    split at h
    · cases h
    next hopaque =>
    split at h
    · cases h
    · next inserted hinsert =>
      have hrows := Table.insertAll_eq_some_iff.mp hinsert
      exact ⟨hfit, not_not.mp hvisible, not_not.mp hopaque, hrows ▸ inserted.nodup⟩
  · intro h
    rw [if_neg h.fit, if_neg (not_not.mpr h.visible), if_neg (not_not.mpr h.opaqueId)]
    have hinsert : db.identifiers.insertAll identifiers =
        some ⟨db.identifiers.rows ++ identifiers, h.ids⟩ :=
      Table.insertAll_eq_some_iff.mpr rfl
    rw [hinsert]
    exact ⟨_, rfl⟩

theorem recordMovement_iff {movement : AssetMovement} :
    (∃ after, recordMovement db movement = .ok after) ↔
      movement.id ∉ db.movements.rows.map AssetMovement.id := by
  unfold recordMovement Table.insert
  by_cases htaken : movement.id ∈ db.movements.rows.map AssetMovement.id
  · rw [dif_pos htaken]
    exact ⟨fun ⟨_, h⟩ => (by cases h), fun h => absurd htaken h⟩
  · rw [dif_neg htaken]
    exact ⟨fun _ => htaken, fun _ => ⟨_, rfl⟩⟩

/-- A row goes through exactly when it can be created. -/
theorem persistNew_iff :
    (∃ created, persistNew runtime db dto actorId ids = .ok created) ↔
      Creatable runtime db dto actorId ids := by
  constructor
  · rintro ⟨⟨asset, after⟩, h⟩
    unfold persistNew at h
    obtain ⟨prepared, hprepare, h⟩ := bind_eq_ok h
    split at h
    · next created hinsert =>
      unfold insertNew at hinsert
      obtain ⟨⟨code, coded⟩, hcode, hinsert⟩ := bind_eq_ok hinsert
      obtain ⟨inserted, hasset, hinsert⟩ := bind_eq_ok hinsert
      obtain ⟨identified, hidentify, hinsert⟩ := bind_eq_ok hinsert
      obtain ⟨moved, hmove, _⟩ := bind_eq_ok hinsert
      obtain ⟨_, hidentifiers, hmovements⟩ := insertAsset_eq_ok hasset
      obtain ⟨_, _, hmovements'⟩ := insertIdentifiers_eq_ok hidentify
      refine ⟨prepared, code, coded, hprepare, hcode, ?_⟩
      obtain ⟨sequence, rfl⟩ := codeFor_eq_ok hcode
      have hfree := insertAsset_iff.mp ⟨inserted, hasset⟩
      have hfree' := insertIdentifiers_iff.mp ⟨identified, hidentify⟩
      have hfree'' := recordMovement_iff.mp ⟨moved, hmove⟩
      refine ⟨⟨hfree.stored, hfree.code, hfree.barcode, hfree.id⟩, ⟨hfree'.fit, ?_, ?_, ?_⟩, ?_⟩
      · rw [← hidentifiers]
        exact hfree'.visible
      · rw [← hidentifiers]
        exact hfree'.opaqueId
      · rw [← hidentifiers]
        exact hfree'.ids
      · change ids.movementId ∉ identified.movements.rows.map AssetMovement.id at hfree''
        rw [hmovements', hmovements] at hfree''
        exact hfree''
    · cases h
  · rintro ⟨prepared, code, coded, hprepare, hcode, hasset, hidentifiers, hmovement⟩
    obtain ⟨sequence, rfl⟩ := codeFor_eq_ok hcode
    have hasset' : AssetFree runtime { db with sequence := sequence }
        (newAsset dto code actorId ids) :=
      ⟨hasset.stored, hasset.code, hasset.barcode, hasset.id⟩
    obtain ⟨inserted, hinsert⟩ := insertAsset_iff.mpr hasset'
    obtain ⟨_, hkept, hkept'⟩ := insertAsset_eq_ok hinsert
    have hidentifiers' : IdentifiersFree inserted
        (newIdentifiers dto (newAsset dto code actorId ids) ids) := by
      refine ⟨hidentifiers.fit, ?_, ?_, ?_⟩ <;> rw [hkept]
      · exact hidentifiers.visible
      · exact hidentifiers.opaqueId
      · exact hidentifiers.ids
    obtain ⟨identified, hidentify⟩ := insertIdentifiers_iff.mpr hidentifiers'
    obtain ⟨_, _, hkept''⟩ := insertIdentifiers_eq_ok hidentify
    have hmovement' : ids.movementId ∉ identified.movements.rows.map AssetMovement.id := by
      rw [hkept'', hkept']
      exact hmovement
    obtain ⟨moved, hmove⟩ : ∃ moved, recordMovement
        (insertPhoto (replaceCustomValues identified ids.assetId prepared.writes) ids.assetId
          dto.photoUrl)
        (registration dto (newAsset dto code actorId ids) actorId ids) = .ok moved :=
      recordMovement_iff.mpr hmovement'
    have hnew : insertNew runtime db dto actorId prepared ids =
        .ok (newAsset dto code actorId ids, moved) := by
      unfold insertNew
      rw [hcode]
      change (insertAsset runtime { db with sequence := sequence } _ >>= _) = _
      rw [hinsert]
      change (insertIdentifiers inserted _ >>= _) = _
      rw [hidentify]
      change (recordMovement _ _ >>= _) = _
      rw [show (newAsset dto code actorId ids).id = ids.assetId from rfl, hmove]
      rfl
    refine ⟨(newAsset dto code actorId ids, moved), ?_⟩
    unfold persistNew
    rw [hprepare]
    dsimp only [bind, Except.bind]
    rw [hnew]

end Creatable

section Import

variable {items : List CreateAssetDto} {newIds : ℕ → NewIds} {mode : ImportMode}

/-- The assets, the identifiers and the movements are those of before, and no others. -/
structure Restored (db after : Database) : Prop where
  assets : after.assets.rows = db.assets.rows
  identifiers : after.identifiers.rows = db.identifiers.rows
  movements : after.movements.rows = db.movements.rows

theorem Restored.refl (db : Database) : Restored db db := ⟨rfl, rfl, rfl⟩

/-- The rows that an import has created so far stay. -/
theorem createRows_keeps {index : ℕ} {progress : Progress} {result : Except ApiException Unit}
    {reached : Progress}
    (h : createRows runtime mode actorId newIds index items progress = (result, reached)) :
    ∃ created, reached.created = progress.created ++ created ∧
      reached.db.assets.rows = progress.db.assets.rows ++ created ∧
      progress.db.identifiers.rows <+: reached.db.identifiers.rows ∧
      progress.db.movements.rows <+: reached.db.movements.rows := by
  induction items generalizing index progress with
  | nil =>
    unfold createRows at h
    obtain ⟨-, rfl⟩ := Prod.mk.inj h
    exact ⟨[], (List.append_nil _).symm, (List.append_nil _).symm, List.prefix_rfl,
      List.prefix_rfl⟩
  | cons item rest ih =>
    unfold createRows at h
    split at h
    · next asset db hcreated =>
      obtain ⟨hassets, hidentifiers, hmovements⟩ := persistNew_eq_ok hcreated
      obtain ⟨created, hlist, hrows, hidentifiers', hmovements'⟩ := ih h
      refine ⟨asset :: created, ?_, ?_, ?_, ?_⟩
      · rw [hlist, List.append_assoc, List.singleton_append]
      · rw [hrows, hassets, List.append_assoc, List.singleton_append]
      · exact (hidentifiers ▸ List.prefix_append _ _).trans hidentifiers'
      · exact (hmovements ▸ List.prefix_append _ _).trans hmovements'
    · split at h
      · obtain ⟨-, rfl⟩ := Prod.mk.inj h
        exact ⟨[], (List.append_nil _).symm, (List.append_nil _).symm, List.prefix_rfl,
          List.prefix_rfl⟩
      · have hrest := ih h
        exact hrest

/-- An import that ends at a refused row has left none exactly when the first row is refused. -/
theorem createRows_restored_iff {exception : ApiException} {reached : Progress}
    (h : createRows runtime .allOrNothing actorId newIds 0 items ⟨db, [], []⟩ =
      (.error exception, reached)) :
    Restored db reached.db ↔
      ∃ first ∈ items.head?, ¬Creatable runtime db first actorId (newIds 0) := by
  cases items with
  | nil =>
    unfold createRows at h
    cases h
  | cons first rest =>
    rw [List.head?_cons]
    simp only [Option.mem_some_iff, exists_eq_left']
    unfold createRows at h
    split at h
    · next asset middle hcreated =>
      -- the first row is created, and stays
      have hcreatable := persistNew_iff.mp ⟨_, hcreated⟩
      obtain ⟨hassets, _, _⟩ := persistNew_eq_ok hcreated
      obtain ⟨created, _, hrows, _⟩ := createRows_keeps h
      refine ⟨fun hrestored => ?_, fun hrefused => absurd hcreatable hrefused⟩
      have hlength : reached.db.assets.rows.length = db.assets.rows.length + 1 + created.length := by
        rw [hrows, List.length_append]
        change middle.assets.rows.length + created.length = _
        rw [hassets, List.length_append, List.length_singleton]
      rw [hrestored.assets] at hlength
      omega
    · next failure hrefused =>
      rw [if_pos rfl] at h
      obtain ⟨-, rfl⟩ := Prod.mk.inj h
      refine ⟨fun _ hcreatable => ?_, fun _ => Restored.refl db⟩
      obtain ⟨created, hcreated⟩ := persistNew_iff.mpr hcreatable
      rw [hrefused] at hcreated
      cases hcreated

/-- An import that is refused leaves nothing exactly when its list is too long, or its first
row cannot be created. -/
theorem bulkCreate_restored_iff {exception : ApiException}
    (h : bulkCreate runtime db items .allOrNothing actorId newIds = (.error exception, after)) :
    Restored db after ↔ maxImportRows < items.length ∨
      ∃ first ∈ items.head?, ¬Creatable runtime db first actorId (newIds 0) := by
  unfold bulkCreate at h
  split at h
  · next hlong =>
    obtain ⟨-, rfl⟩ := Prod.mk.inj h
    exact ⟨fun _ => Or.inl hlong, fun _ => Restored.refl db⟩
  · next hshort =>
    split at h
    · next refused progress hrows =>
      obtain ⟨-, rfl⟩ := Prod.mk.inj h
      rw [createRows_restored_iff hrows]
      exact ⟨Or.inr, fun hcases => hcases.resolve_left hshort⟩
    · cases h

end Import

section Samples

/-- A runtime that reads no numbers and no dates. -/
def plainRuntime : Runtime where
  toNumber _ := none
  matchesPattern _ _ := true
  parsesDate _ := false
  fullYear _ := 2026
  storesDate _ := true

/-- A category and a centre that accept assets, and none yet. -/
def emptyStore : Database where
  categories := ⟨[⟨"category", true, false, false, []⟩], List.nodup_singleton _⟩
  costCenters := ⟨[⟨"center", "4330", "Biblioteca", true, true, true⟩], List.nodup_singleton _⟩
  locations _ := none
  acquisitionTypes _ := true
  persons _ := false
  sequence := none
  assets := Table.empty
  identifiers := Table.empty
  movements := Table.empty
  photos := []
  customValues := []
  batches := Table.empty
  audits := []

/-- A row with a code. -/
def codedRow (code : String) : CreateAssetDto where
  internalCode := some code
  description := "Silla"
  categoryId := "category"
  costCenterId := "center"
  acquisitionTypeId := "purchase"
  acquisitionDate := "2026-03-15"

/-- The identifiers of the first row, and of the others. -/
def drawnIds : ℕ → NewIds
  | 0 => ⟨"a0", "v0", "o0", "opaque0", "l0", "m0"⟩
  | _ => ⟨"a1", "v1", "o1", "opaque1", "l1", "m1"⟩

/-- The database that a list of two rows with one code leaves. -/
def leftStore : Database :=
  (bulkCreate plainRuntime emptyStore [codedRow "A-1", codedRow "A-1"] .allOrNothing "ana"
    drawnIds).2

/-- The second row is refused, for its code is taken. -/
theorem repeatedCode_refused :
    bulkCreate plainRuntime emptyStore [codedRow "A-1", codedRow "A-1"] .allOrNothing "ana"
      drawnIds = (.error ⟨.validationFailed, "Ese código interno ya existe.",
        [("row.2", "Ese código interno ya existe.")]⟩, leftStore) :=
  Prod.ext (by decide +kernel) rfl

end Samples

end InternalControl.AssetImports
