import InternalControl.JsonReordering
import InternalControl.MovementSignature

/-!
# What the signed form tells apart

The canonical text of a value forgets the order of keys and nothing else, so a
signed payload forgets that and the letter case of identifiers.
-/

namespace InternalControl.MovementSignature

open JsonText

/-- Canonical texts are the same exactly when what is read back is, up to the order of keys. -/
theorem canonicalJson_eq_iff {v w : JsValue} (hv : Distinct v) :
    canonicalJson v = canonicalJson w ↔ Reordered (reread v) (reread w) := by
  rw [canonicalJson_eq, canonicalJson_eq, ← arrange_eq_iff keyOrder_unitsLe hv.reread]
  exact ⟨stringify_injective (Plain.arrange _ (plain_reread v)) (Plain.arrange _ (plain_reread w)),
    fun h => congrArg stringify h⟩

/-- Reading back what was written keeps the canonical text. -/
theorem canonicalJson_reread (value : JsValue) :
    canonicalJson (reread value) = canonicalJson value := by
  rw [canonicalJson_eq, canonicalJson_eq, (plain_reread value).reread_eq]

/-- Optional identifiers that differ at most in letter case. -/
def SameId (a b : Option Uuid) : Prop := a.map Uuid.lower = b.map Uuid.lower

/-- Sides of a movement that differ at most in the letter case of identifiers. -/
structure SameSnapshot (a b : MovementStateSnapshot) : Prop where
  costCenterId : SameId a.costCenterId b.costCenterId
  locationId : SameId a.locationId b.locationId
  responsibleId : SameId a.responsibleId b.responsibleId
  operationalStatus : a.operationalStatus = b.operationalStatus
  physicalCondition : a.physicalCondition = b.physicalCondition

/-- Signed fields that differ at most in the letter case of identifiers and in the
order of the keys of the metadata. -/
structure SameSigned (a b : MovementSignedFields) : Prop where
  assetId : a.assetId.lower = b.assetId.lower
  movementType : a.movementType = b.movementType
  executedAt : a.executedAt = b.executedAt
  requestedBy : SameId a.requestedBy b.requestedBy
  authorizedBy : SameId a.authorizedBy b.authorizedBy
  fromState : SameSnapshot a.fromState b.fromState
  toState : SameSnapshot a.toState b.toState
  reason : a.reason = b.reason
  documentReference : a.documentReference = b.documentReference
  loanId : SameId a.loanId b.loanId
  previousMovementId : SameId a.previousMovementId b.previousMovementId
  metadata : Reordered (reread a.metadata) (reread b.metadata)

/-! ### Identifiers and snapshots -/

theorem lower_text_inj {a b : Uuid} (h : a.lower.text = b.lower.text) : a.lower = b.lower :=
  uuid_eq_of_lower (Uuid.lower_lower a) (Uuid.lower_lower b) (by simpa using h)

/-- The entry of an identifier forgets its letter case. -/
theorem idValue_eq_iff {a b : Option Uuid} : idValue a = idValue b ↔ SameId a b := by
  refine ⟨fun h => ?_, fun h => ?_⟩
  · have hlower : ∀ id : Option Uuid, (id.map Uuid.lower).map Uuid.lower = id.map Uuid.lower := by
      intro id
      cases id <;> simp
    exact idValue_inj (hlower a) (hlower b) (by rw [idValue_lower, idValue_lower, h])
  · rw [← idValue_lower a, h, idValue_lower]

theorem storedSnapshot_storedSnapshot (state : MovementStateSnapshot) :
    storedSnapshot (storedSnapshot state) = storedSnapshot state := by
  obtain ⟨center, location, responsible, status, condition⟩ := state
  cases center <;> cases location <;> cases responsible <;> simp [storedSnapshot]

/-- Snapshots are sorted alike exactly when they differ in letter case at most. -/
theorem arrange_snapshot_iff {a b : MovementStateSnapshot} :
    arrange Text.unitsLe (reread (snapshot a)) = arrange Text.unitsLe (reread (snapshot b)) ↔
      SameSnapshot a b := by
  refine ⟨fun h => ?_, fun h => ?_⟩
  · rw [← snapshot_storedSnapshot a, ← snapshot_storedSnapshot b] at h
    have hstored := snapshot_inj (storedSnapshot_storedSnapshot a) (storedSnapshot_storedSnapshot b) h
    simp only [storedSnapshot, MovementStateSnapshot.mk.injEq] at hstored
    obtain ⟨hcenter, hlocation, hresponsible, hstatus, hcondition⟩ := hstored
    exact ⟨hcenter, hlocation, hresponsible, hstatus, hcondition⟩
  · have hentries : snapshotEntries a = snapshotEntries b := by
      simp only [snapshotEntries, idValue_eq_iff.mpr h.costCenterId,
        idValue_eq_iff.mpr h.locationId, idValue_eq_iff.mpr h.responsibleId, h.operationalStatus,
        h.physicalCondition]
    rw [snapshot, snapshot, hentries]

/-! ### Payloads -/

/-- The entries of a payload sorted, without the metadata. -/
theorem sortedEntries_eq_iff {a b : MovementSignedFields} (ha : Distinct a.metadata) :
    (payloadEntries a).map (fun entry => arrange Text.unitsLe (reread entry.2)) =
        (payloadEntries b).map (fun entry => arrange Text.unitsLe (reread entry.2)) ↔
      SameSigned a b := by
  simp only [payloadEntries, List.map_cons, List.map_nil, List.cons.injEq, and_true, true_and,
    idValue, plain_ofOption, reread, arrange, JsValue.string.injEq, arrange_snapshot_iff,
    arrange_eq_iff keyOrder_unitsLe ha.reread]
  constructor
  · rintro ⟨hasset, htype, hat, hrequested, hauthorized, hfrom, hto, hreason, hreference, hloan,
      hprevious, hmetadata⟩
    exact ⟨lower_text_inj hasset, MovementType.text_injective htype,
      Instant.toISOString_injective hat, idValue_eq_iff.mp hrequested,
      idValue_eq_iff.mp hauthorized, hfrom, hto, ofOption_injective hreason,
      ofOption_injective hreference, idValue_eq_iff.mp hloan, idValue_eq_iff.mp hprevious, hmetadata⟩
  · intro h
    exact ⟨congrArg Uuid.text h.assetId, congrArg MovementType.text h.movementType,
      congrArg Instant.toISOString h.executedAt, idValue_eq_iff.mpr h.requestedBy,
      idValue_eq_iff.mpr h.authorizedBy, h.fromState, h.toState,
      congrArg JsValue.ofOption h.reason, congrArg JsValue.ofOption h.documentReference,
      idValue_eq_iff.mpr h.loanId, idValue_eq_iff.mpr h.previousMovementId, h.metadata⟩

/-- Objects with defined fields whose sorted values agree are sorted alike. -/
theorem arrange_object_congr {xs ys : List (String × JsValue)}
    (hxs : ∀ entry ∈ xs, entry.2.isUndefined = false)
    (hys : ∀ entry ∈ ys, entry.2.isUndefined = false)
    (hkeys : xs.map Prod.fst = ys.map Prod.fst)
    (h : xs.map (fun entry => arrange Text.unitsLe (reread entry.2)) =
      ys.map fun entry => arrange Text.unitsLe (reread entry.2)) :
    arrange Text.unitsLe (reread (.object xs)) = arrange Text.unitsLe (reread (.object ys)) := by
  have hread : ∀ {zs : List (String × JsValue)}, (∀ entry ∈ zs, entry.2.isUndefined = false) →
      arrangeFields Text.unitsLe (rereadFields zs) =
        (zs.map Prod.fst).zip (zs.map fun entry => arrange Text.unitsLe (reread entry.2)) := by
    intro zs hzs
    rw [rereadFields_eq_map hzs, arrangeFields_eq_map, List.map_map, List.zip_map']
    rfl
  rw [reread, reread, arrange, arrange, hread hxs, hread hys, hkeys, h]

/-- Payloads are the same exactly when the signed fields are, but for letter case of
identifiers and the order of keys. -/
theorem canonicalMovementPayload_eq_iff {a b : MovementSignedFields} (ha : Distinct a.metadata)
    (hdefined : a.metadata.isUndefined = false) (hdefined' : b.metadata.isUndefined = false) :
    canonicalMovementPayload a = canonicalMovementPayload b ↔ SameSigned a b := by
  rw [← sortedEntries_eq_iff ha, canonicalMovementPayload, canonicalMovementPayload,
    canonicalJson_eq, canonicalJson_eq]
  have hkeys : (payloadEntries a).map Prod.fst = (payloadEntries b).map Prod.fst :=
    (payloadEntries_keys a).trans (payloadEntries_keys b).symm
  constructor
  · intro h
    have hobject := stringify_injective (Plain.arrange _ (plain_reread _))
      (Plain.arrange _ (plain_reread _)) h
    exact object_fields_inj (payloadEntries_defined hdefined) (payloadEntries_defined hdefined')
      hkeys (by rw [payloadEntries_keys]; decide) hobject
  · intro h
    exact congrArg stringify (arrange_object_congr (payloadEntries_defined hdefined)
      (payloadEntries_defined hdefined') hkeys h)

/-- The signed form is stable and tells apart what is signed: the canonical text of a
JSON value is the value up to the order of keys, reading back keeps it, and a payload
is its signed fields up to the letter case of identifiers. -/
theorem canonical_form :
    (∀ v w, Plain v → Distinct v → Plain w → Distinct w →
      (canonicalJson v = canonicalJson w ↔ Reordered v w)) ∧
      (∀ value, canonicalJson (reread value) = canonicalJson value) ∧
      ∀ a b : MovementSignedFields, Distinct a.metadata → Distinct b.metadata →
        a.metadata.isUndefined = false → b.metadata.isUndefined = false →
        (canonicalMovementPayload a = canonicalMovementPayload b ↔ SameSigned a b) := by
  refine ⟨fun v w hplain hdistinct hplain' _ => ?_, canonicalJson_reread,
    fun a b ha _ hdefined hdefined' => canonicalMovementPayload_eq_iff ha hdefined hdefined'⟩
  rw [canonicalJson_eq_iff hdistinct, hplain.reread_eq, hplain'.reread_eq]

/-- An identifier in capitals. -/
def inCapitals : Uuid := ⟨"AAAAAAAA-AAAA-4AAA-8AAA-AAAAAAAAAAAA", by decide⟩

/-- A correction of an asset, with nothing else to say. -/
def correctionOf (assetId : Uuid) : MovementSignedFields where
  assetId := assetId
  movementType := .correction
  executedAt := ⟨2026, 1, 2, 3, 4, 5, 6, by decide⟩
  requestedBy := none
  authorizedBy := none
  fromState := ⟨none, none, none, none, none⟩
  toState := ⟨none, none, none, none, none⟩
  reason := none
  documentReference := none
  loanId := none
  previousMovementId := none
  metadata := .object []

/-- An object with its keys in either order, and an identifier in either letter case. -/
theorem canonical_form_swapped :
    canonicalJson (.object [("b", .null), ("a", .string "x")]) =
        canonicalJson (.object [("a", .string "x"), ("b", .null)]) ∧
      canonicalMovementPayload (correctionOf inCapitals) =
        canonicalMovementPayload (correctionOf inCapitals.lower) := by
  have hplain : Plain (.object [("b", .null), ("a", .string "x")]) := ⟨trivial, trivial, trivial⟩
  have hdistinct : Distinct (.object [("b", .null), ("a", .string "x")]) :=
    ⟨by decide, trivial, trivial, trivial⟩
  have hplain' : Plain (.object [("a", .string "x"), ("b", .null)]) := ⟨trivial, trivial, trivial⟩
  have hdistinct' : Distinct (.object [("a", .string "x"), ("b", .null)]) :=
    ⟨by decide, trivial, trivial, trivial⟩
  have hempty : Distinct (.object []) := ⟨List.nodup_nil, trivial⟩
  refine ⟨(canonical_form.1 _ _ hplain hdistinct hplain' hdistinct').mpr
    (.permute (List.Perm.swap _ _ _)), ?_⟩
  refine (canonical_form.2.2 _ _ hempty hempty rfl rfl).mpr ?_
  exact ⟨(Uuid.lower_lower inCapitals).symm, rfl, rfl, rfl, rfl, ⟨rfl, rfl, rfl, rfl, rfl⟩,
    ⟨rfl, rfl, rfl, rfl, rfl⟩, rfl, rfl, rfl, rfl, .refl _⟩

end InternalControl.MovementSignature
