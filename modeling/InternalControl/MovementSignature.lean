import InternalControl.Instant
import InternalControl.JsonText
import InternalControl.KeyedMap

/-!
# Signed asset movements

The canonical JSON of the fields of a movement and its signature. The
canonical text ignores the order of object keys and survives the database,
and it determines the signed fields of a stored row.
-/

namespace InternalControl

/-- A keyed digest in hexadecimal text, the key first. -/
structure HmacSha256 where
  /-- The digest of a text under a key, as 64 hexadecimal characters. -/
  hex : String → String → String
  /-- Every digest has the full length. -/
  length_hex : ∀ key text, (hex key text).toList.length = 64

/-- A keyed digest known at the listed keys and texts, which is all a run on fixed
inputs asks for. -/
def HmacSha256.ofTable (table : List (String × String × String))
    (h : ∀ entry ∈ table, entry.2.2.toList.length = 64) : HmacSha256 where
  hex key text := ((table.find? fun entry => entry.1 = key && entry.2.1 = text).map
    fun entry => entry.2.2).getD (String.ofList (List.replicate 64 '0'))
  length_hex key text := by
    cases hs : table.find? fun entry => entry.1 = key && entry.2.1 = text with
    | none => simp
    | some entry => simpa using h entry (List.mem_of_find?_eq_some hs)

theorem HmacSha256.ofTable_cons_self {key text digest : String}
    {rest : List (String × String × String)} (h) :
    (ofTable ((key, text, digest) :: rest) h).hex key text = digest := by
  simp [ofTable]

theorem HmacSha256.ofTable_cons_of_ne {key text key' text' digest : String}
    {rest : List (String × String × String)} (h) (hne : text' ≠ text) :
    (ofTable ((key', text', digest) :: rest) h).hex key text =
      (ofTable rest fun entry hentry => h entry (List.mem_cons_of_mem _ hentry)).hex key text := by
  simp [ofTable, hne]

theorem HmacSha256.ofTable_nil {key text : String} (h) :
    (ofTable [] h).hex key text = String.ofList (List.replicate 64 '0') := rfl

/-- The characters of the text of a UUID. -/
def uuidChars : List Char := "0123456789abcdefABCDEF-".toList

/-- The text of a UUID, in any letter case. -/
structure Uuid where
  text : String
  /-- Thirty-six hexadecimal digits and dashes. -/
  shape : text.toList.length = 36 ∧ text.toList.all (fun c => uuidChars.contains c) = true
  deriving DecidableEq

namespace Uuid

theorem toLower_uuidChars : (uuidChars.all fun c =>
    uuidChars.contains c.toLower && c.toLower.toLower == c.toLower) = true := by decide

/-- Lower case keeps a character of a UUID, and lowers it once and for all. -/
theorem toLower_of_contains {c : Char} (h : uuidChars.contains c = true) :
    uuidChars.contains c.toLower = true ∧ c.toLower.toLower = c.toLower := by
  simpa using List.all_eq_true.mp toLower_uuidChars c (List.contains_iff_mem.mp h)

theorem contains_of_mem {id : Uuid} {c : Char} (h : c ∈ id.text.toList) :
    uuidChars.contains c = true :=
  List.all_eq_true.mp id.shape.2 c h

/-- The UUID as the database gives it back. -/
def lower (id : Uuid) : Uuid where
  text := Text.asciiLower id.text
  shape := by
    rw [Text.asciiLower, String.toList_ofList, List.length_map, List.all_map, List.all_eq_true]
    exact ⟨id.shape.1, fun c hc => (toLower_of_contains (contains_of_mem hc)).1⟩

@[simp] theorem lower_lower (id : Uuid) : id.lower.lower = id.lower := by
  have htext : Text.asciiLower (Text.asciiLower id.text) = Text.asciiLower id.text := by
    simp only [Text.asciiLower, String.toList_ofList, List.map_map]
    congr 1
    exact List.map_congr_left fun c hc => (toLower_of_contains (contains_of_mem hc)).2
  simp only [lower, htext]

end Uuid

/-- The kinds of movement. -/
inductive MovementType where
  | registration
  | assignment
  | loan
  | return
  | transfer
  | relocation
  | maintenanceIn
  | maintenanceOut
  | physicalVerification
  | conditionChange
  | writeOff
  | reactivation
  | qrRotation
  | correction
  deriving DecidableEq

/-- The stored text of a kind of movement. -/
def MovementType.text : MovementType → String
  | registration => "REGISTRATION"
  | assignment => "ASSIGNMENT"
  | loan => "LOAN"
  | .return => "RETURN"
  | transfer => "TRANSFER"
  | relocation => "RELOCATION"
  | maintenanceIn => "MAINTENANCE_IN"
  | maintenanceOut => "MAINTENANCE_OUT"
  | physicalVerification => "PHYSICAL_VERIFICATION"
  | conditionChange => "CONDITION_CHANGE"
  | writeOff => "WRITE_OFF"
  | reactivation => "REACTIVATION"
  | qrRotation => "QR_ROTATION"
  | correction => "CORRECTION"

/-- The operational status of an asset. -/
inductive OperationalStatus where
  | inUse
  | inStorage
  | onLoan
  | inMaintenance
  | lost
  | writtenOff
  deriving DecidableEq

/-- The stored text of an operational status. -/
def OperationalStatus.text : OperationalStatus → String
  | inUse => "IN_USE"
  | inStorage => "IN_STORAGE"
  | onLoan => "ON_LOAN"
  | inMaintenance => "IN_MAINTENANCE"
  | lost => "LOST"
  | writtenOff => "WRITTEN_OFF"

/-- The physical condition of an asset. -/
inductive PhysicalCondition where
  | new
  | good
  | fair
  | poor
  | obsolete
  deriving DecidableEq

/-- The stored text of a physical condition. -/
def PhysicalCondition.text : PhysicalCondition → String
  | new => "NEW"
  | good => "GOOD"
  | fair => "FAIR"
  | poor => "POOR"
  | obsolete => "OBSOLETE"

theorem MovementType.text_injective : Function.Injective MovementType.text := by
  intro a b h
  cases a <;> cases b <;> first | rfl | exact absurd h (by decide)

theorem OperationalStatus.text_injective : Function.Injective OperationalStatus.text := by
  intro a b h
  cases a <;> cases b <;> first | rfl | exact absurd h (by decide)

theorem PhysicalCondition.text_injective : Function.Injective PhysicalCondition.text := by
  intro a b h
  cases a <;> cases b <;> first | rfl | exact absurd h (by decide)

/-- Where an asset is and how, on one side of a movement. -/
structure MovementStateSnapshot where
  costCenterId : Option Uuid
  locationId : Option Uuid
  responsibleId : Option Uuid
  operationalStatus : Option OperationalStatus
  physicalCondition : Option PhysicalCondition
  deriving DecidableEq

namespace MovementSignature

/-- SIGNATURE_VERSION as the number it is written as. -/
def signatureVersion : JsNumber := ⟨"2", by decide⟩

/-- The fields a signature covers. -/
structure MovementSignedFields where
  assetId : Uuid
  movementType : MovementType
  executedAt : Instant
  requestedBy : Option Uuid
  authorizedBy : Option Uuid
  fromState : MovementStateSnapshot
  toState : MovementStateSnapshot
  reason : Option String
  documentReference : Option String
  loanId : Option Uuid
  previousMovementId : Option Uuid
  metadata : JsValue

/-! ### Canonical JSON -/

mutual

/-- The JSON of a value with sorted keys and without undefined fields. -/
def canonicalJson : JsValue → String
  | .undefined => "null"
  | .null => "null"
  | .bool value => if value then "true" else "false"
  | .number value => value.text
  | .notFinite => "null"
  | .string value => JsonText.quote value
  | .date iso => JsonText.quote iso
  | .array items => "[" ++ JsonText.joined (canonicalItems items) ++ "]"
  | .object fields =>
    "\x7b" ++ JsonText.joined (((canonicalEntries fields).insertionSort fun left right =>
      Text.unitsLe left.1 right.1 = true).map fun entry =>
        JsonText.quote entry.1 ++ ":" ++ entry.2) ++ "\x7d"

/-- The canonical texts of the items of an array. -/
def canonicalItems : List JsValue → List String
  | [] => []
  | value :: rest => canonicalJson value :: canonicalItems rest

/-- The defined entries of an object, each value as canonical text. -/
def canonicalEntries : List (String × JsValue) → List (String × String)
  | [] => []
  | (key, value) :: rest =>
    if value.isUndefined then canonicalEntries rest
    else (key, canonicalJson value) :: canonicalEntries rest

end

theorem stringifyFields_eq_map {fields : List (String × JsValue)}
    (h : JsonText.PlainFields fields) : JsonText.stringifyFields fields =
      fields.map fun entry => JsonText.quote entry.1 ++ ":" ++ JsonText.stringify entry.2 := by
  induction fields with
  | nil => rfl
  | cons entry rest ih =>
    rw [JsonText.stringifyFields_cons h.1, ih h.2, List.map_cons]

mutual

/-- Canonical JSON is plain JSON of the value read back with sorted keys. -/
theorem canonicalJson_eq : ∀ value : JsValue, canonicalJson value =
    JsonText.stringify (JsonText.arrange Text.unitsLe (JsonText.reread value))
  | .undefined => rfl
  | .null => rfl
  | .bool _ => rfl
  | .number _ => rfl
  | .notFinite => rfl
  | .string _ => rfl
  | .date _ => rfl
  | .array items => by
    rw [canonicalJson, JsonText.reread, JsonText.arrange, JsonText.stringify,
      canonicalItems_eq items]
  | .object fields => by
    have hplain := JsonText.PlainFields.arrange Text.unitsLe (JsonText.plainFields_reread fields)
    have hsorted : JsonText.PlainFields ((JsonText.arrangeFields Text.unitsLe
        (JsonText.rereadFields fields)).insertionSort fun a b => Text.unitsLe a.1 b.1 = true) := by
      rw [JsonText.plainFields_iff] at hplain ⊢
      exact fun entry hentry => hplain entry ((List.mem_insertionSort _).mp hentry)
    have hsort := List.map_insertionSort
      (fun a b : String × JsValue => Text.unitsLe a.1 b.1 = true)
      (fun a b : String × String => Text.unitsLe a.1 b.1 = true)
      (fun entry => (entry.1, JsonText.stringify entry.2))
      (JsonText.arrangeFields Text.unitsLe (JsonText.rereadFields fields))
      fun _ _ _ _ => Iff.rfl
    rw [canonicalJson, JsonText.reread, JsonText.arrange, JsonText.stringify,
      canonicalEntries_eq fields, ← hsort, List.map_map, stringifyFields_eq_map hsorted]
    rfl

theorem canonicalItems_eq : ∀ items : List JsValue, canonicalItems items =
    JsonText.stringifyItems (JsonText.arrangeItems Text.unitsLe (JsonText.rereadItems items))
  | [] => rfl
  | value :: rest => by
    rw [canonicalItems, JsonText.rereadItems, JsonText.arrangeItems, JsonText.stringifyItems,
      canonicalJson_eq value, canonicalItems_eq rest]

theorem canonicalEntries_eq : ∀ fields : List (String × JsValue), canonicalEntries fields =
    (JsonText.arrangeFields Text.unitsLe (JsonText.rereadFields fields)).map fun entry =>
      (entry.1, JsonText.stringify entry.2)
  | [] => rfl
  | (key, value) :: rest => by
    rw [canonicalEntries, JsonText.rereadFields]
    split
    · exact canonicalEntries_eq rest
    · rw [JsonText.arrangeFields, List.map_cons, canonicalJson_eq value, canonicalEntries_eq rest]

end

/-! ### The signed payload -/

/-- An optional id in the payload, in lower case. -/
def idValue (id : Option Uuid) : JsValue := JsValue.ofOption (id.map fun id => id.lower.text)

/-- The entries of one side of the movement in the payload. -/
def snapshotEntries (state : MovementStateSnapshot) : List (String × JsValue) :=
  [("costCenterId", idValue state.costCenterId),
    ("locationId", idValue state.locationId),
    ("responsibleId", idValue state.responsibleId),
    ("operationalStatus", JsValue.ofOption (state.operationalStatus.map OperationalStatus.text)),
    ("physicalCondition", JsValue.ofOption (state.physicalCondition.map PhysicalCondition.text))]

/-- One side of the movement in the payload. -/
def snapshot (state : MovementStateSnapshot) : JsValue := .object (snapshotEntries state)

/-- The entries of the object that is signed. -/
def payloadEntries (fields : MovementSignedFields) : List (String × JsValue) :=
    [("version", .number signatureVersion),
      ("assetId", .string fields.assetId.lower.text),
      ("movementType", .string fields.movementType.text),
      ("executedAt", .string fields.executedAt.toISOString),
      ("requestedBy", idValue fields.requestedBy),
      ("authorizedBy", idValue fields.authorizedBy),
      ("from", snapshot fields.fromState),
      ("to", snapshot fields.toState),
      ("reason", JsValue.ofOption fields.reason),
      ("documentReference", JsValue.ofOption fields.documentReference),
      ("loanId", idValue fields.loanId),
      ("previousMovementId", idValue fields.previousMovementId),
      ("metadata", fields.metadata)]

/-- The text that is signed. -/
def canonicalMovementPayload (fields : MovementSignedFields) : String :=
  canonicalJson (.object (payloadEntries fields))

/-- The signature of a text under a secret. -/
def signMovement (hmac : HmacSha256) (secret canonical : String) : String :=
  hmac.hex secret canonical

end MovementSignature

/-- A row of the movement table, with the columns that are signed or verified. -/
structure AssetMovement where
  id : Uuid
  assetId : Uuid
  movementType : MovementType
  /-- The columns of the state before the movement. -/
  fromState : MovementStateSnapshot
  /-- The columns of the state after the movement. -/
  toState : MovementStateSnapshot
  requestedBy : Option Uuid
  authorizedBy : Option Uuid
  executedAt : Instant
  reason : Option String
  documentReference : Option String
  loanId : Option Uuid
  previousMovementId : Option Uuid
  eventSignature : Option String
  metadata : Option JsValue
  createdAt : Instant

namespace MovementSignature

/-- The signed fields of a row. -/
def signedFields (movement : AssetMovement) : MovementSignedFields where
  assetId := movement.assetId
  movementType := movement.movementType
  executedAt := movement.executedAt
  requestedBy := movement.requestedBy
  authorizedBy := movement.authorizedBy
  fromState := movement.fromState
  toState := movement.toState
  reason := movement.reason
  documentReference := movement.documentReference
  loanId := movement.loanId
  previousMovementId := movement.previousMovementId
  metadata := movement.metadata.getD (.object [])

/-- The signed text of a row. -/
def payload (movement : AssetMovement) : String := canonicalMovementPayload (signedFields movement)

/-- The signature of a row under a secret. -/
def signatureOf (hmac : HmacSha256) (movement : AssetMovement) (secret : String) : String :=
  signMovement hmac secret (payload movement)

/-! ### Storing a row -/

/-- One side of a movement as the database keeps it. -/
def storedSnapshot (state : MovementStateSnapshot) : MovementStateSnapshot :=
  { state with
    costCenterId := state.costCenterId.map Uuid.lower
    locationId := state.locationId.map Uuid.lower
    responsibleId := state.responsibleId.map Uuid.lower }

/-- A row as the database keeps it: UUIDs in lower case, metadata as jsonb. -/
def storedRow (movement : AssetMovement) : AssetMovement :=
  { movement with
    id := movement.id.lower
    assetId := movement.assetId.lower
    fromState := storedSnapshot movement.fromState
    toState := storedSnapshot movement.toState
    requestedBy := movement.requestedBy.map Uuid.lower
    authorizedBy := movement.authorizedBy.map Uuid.lower
    loanId := movement.loanId.map Uuid.lower
    previousMovementId := movement.previousMovementId.map Uuid.lower
    metadata := movement.metadata.map JsonText.toJsonb }

/-- A row as it can be read from the table. -/
structure IsStored (movement : AssetMovement) : Prop where
  /-- Storing the row again leaves it as it is. -/
  fixed : storedRow movement = movement
  /-- No object of the metadata has a key twice. -/
  distinct : ∀ value ∈ movement.metadata, JsonText.Distinct value

theorem canonicalJson_toJsonb {value : JsValue} (h : JsonText.Distinct value) :
    canonicalJson (JsonText.toJsonb value) = canonicalJson value := by
  rw [canonicalJson_eq, canonicalJson_eq,
    JsonText.arrange_reread_toJsonb JsonText.keyOrder_unitsLe h]

@[simp] theorem idValue_lower (id : Option Uuid) : idValue (id.map Uuid.lower) = idValue id := by
  cases id <;> simp [idValue]

@[simp] theorem snapshot_storedSnapshot (state : MovementStateSnapshot) :
    snapshot (storedSnapshot state) = snapshot state := by
  simp [snapshot, snapshotEntries, storedSnapshot]

/-- Storing a row keeps the text that is signed. -/
theorem payload_storedRow {movement : AssetMovement}
    (hdistinct : ∀ value ∈ movement.metadata, JsonText.Distinct value)
    (hdefined : ∀ value ∈ movement.metadata, value.isUndefined = false) :
    payload (storedRow movement) = payload movement := by
  have hmetadata : ((movement.metadata.map JsonText.toJsonb).getD (.object [])).isUndefined =
        false ∧ (movement.metadata.getD (.object [])).isUndefined = false ∧
      canonicalJson ((movement.metadata.map JsonText.toJsonb).getD (.object [])) =
        canonicalJson (movement.metadata.getD (.object [])) := by
    cases hvalue : movement.metadata with
    | none => exact ⟨rfl, rfl, rfl⟩
    | some value =>
      exact ⟨(JsonText.plain_toJsonb value).isUndefined, hdefined value hvalue,
        canonicalJson_toJsonb (hdistinct value hvalue)⟩
  simp [payload, canonicalMovementPayload, payloadEntries, signedFields, storedRow, canonicalJson,
    canonicalEntries, hmetadata]

/-! ### The payload determines the signed fields -/

theorem ofOption_injective : Function.Injective JsValue.ofOption := by
  intro a b h
  cases a <;> cases b <;> simp [JsValue.ofOption] at h ⊢
  exact h

theorem plain_ofOption (text : Option String) :
    JsonText.arrange Text.unitsLe (JsonText.reread (JsValue.ofOption text)) =
      JsValue.ofOption text := by
  cases text <;> rfl

@[simp] theorem isUndefined_ofOption (text : Option String) :
    (JsValue.ofOption text).isUndefined = false := by cases text <;> rfl

@[simp] theorem isUndefined_idValue (id : Option Uuid) : (idValue id).isUndefined = false :=
  isUndefined_ofOption _

theorem uuid_eq_of_lower {a b : Uuid} (ha : a.lower = a) (hb : b.lower = b)
    (h : a.lower.text = b.lower.text) : a = b := by
  rw [ha, hb] at h
  cases a
  cases b
  cases h
  rfl

theorem idValue_inj {a b : Option Uuid} (ha : a.map Uuid.lower = a) (hb : b.map Uuid.lower = b)
    (h : idValue a = idValue b) : a = b := by
  have htext := ofOption_injective h
  cases a <;> cases b <;> simp at htext ha hb ⊢
  exact uuid_eq_of_lower ha hb htext

/-- Objects with the same defined keys in the same places and the same sorted
form have the same values. -/
theorem object_fields_inj {xs ys : List (String × JsValue)}
    (hxs : ∀ entry ∈ xs, entry.2.isUndefined = false)
    (hys : ∀ entry ∈ ys, entry.2.isUndefined = false)
    (hkeys : xs.map Prod.fst = ys.map Prod.fst) (hnodup : (xs.map Prod.fst).Nodup)
    (h : JsonText.arrange Text.unitsLe (JsonText.reread (.object xs)) =
      JsonText.arrange Text.unitsLe (JsonText.reread (.object ys))) :
    xs.map (fun entry => JsonText.arrange Text.unitsLe (JsonText.reread entry.2)) =
      ys.map fun entry => JsonText.arrange Text.unitsLe (JsonText.reread entry.2) := by
  have hread : ∀ {zs : List (String × JsValue)}, (∀ entry ∈ zs, entry.2.isUndefined = false) →
      JsonText.arrangeFields Text.unitsLe (JsonText.rereadFields zs) =
        zs.map fun entry => (entry.1, JsonText.arrange Text.unitsLe (JsonText.reread entry.2)) := by
    intro zs hzs
    rw [JsonText.rereadFields_eq_map hzs, JsonText.arrangeFields_eq_map, List.map_map]
    rfl
  rw [JsonText.reread, JsonText.reread, JsonText.arrange, JsonText.arrange, hread hxs, hread hys,
    JsValue.object.injEq] at h
  have hlists := JsonText.eq_of_insertionSort_eq (by simpa [Function.comp_def] using hkeys)
    (by simpa [Function.comp_def] using hnodup) h
  simpa [Function.comp_def] using congrArg (List.map Prod.snd) hlists

theorem snapshot_inj {a b : MovementStateSnapshot} (ha : storedSnapshot a = a)
    (hb : storedSnapshot b = b)
    (h : JsonText.arrange Text.unitsLe (JsonText.reread (snapshot a)) =
      JsonText.arrange Text.unitsLe (JsonText.reread (snapshot b))) : a = b := by
  have hdefined : ∀ state : MovementStateSnapshot, ∀ entry ∈ snapshotEntries state,
      entry.2.isUndefined = false := by simp [snapshotEntries]
  have hkeys : ∀ state : MovementStateSnapshot, (snapshotEntries state).map Prod.fst =
      ["costCenterId", "locationId", "responsibleId", "operationalStatus", "physicalCondition"] :=
    fun _ => rfl
  have hfields := object_fields_inj (hdefined a) (hdefined b) ((hkeys a).trans (hkeys b).symm)
    (by rw [hkeys]; decide) h
  simp only [snapshotEntries, List.map_cons, List.map_nil, idValue, plain_ofOption,
    List.cons.injEq, and_true] at hfields
  obtain ⟨h1, h2, h3, h4, h5⟩ := hfields
  obtain ⟨a1, a2, a3, a4, a5⟩ := a
  obtain ⟨b1, b2, b3, b4, b5⟩ := b
  simp only [storedSnapshot, MovementStateSnapshot.mk.injEq, and_true] at ha hb
  have h4' : a4 = b4 := Option.map_injective OperationalStatus.text_injective (ofOption_injective h4)
  have h5' : a5 = b5 := Option.map_injective PhysicalCondition.text_injective (ofOption_injective h5)
  rw [idValue_inj ha.1 hb.1 h1, idValue_inj ha.2.1 hb.2.1 h2, idValue_inj ha.2.2 hb.2.2 h3, h4',
    h5']

/-- The metadata of a stored row, null read as the empty object. -/
theorem IsStored.metadata {movement : AssetMovement} (h : IsStored movement) :
    JsonText.toJsonb (movement.metadata.getD (.object [])) = movement.metadata.getD (.object []) ∧
      JsonText.Distinct (movement.metadata.getD (.object [])) := by
  have hfixed := congrArg AssetMovement.metadata h.fixed
  cases hvalue : movement.metadata with
  | none => exact ⟨rfl, List.nodup_nil, trivial⟩
  | some value =>
    simp only [storedRow, hvalue, Option.map_some, Option.some.injEq] at hfixed
    exact ⟨hfixed, h.distinct value hvalue⟩

/-- The keys of the signed object. -/
def payloadKeys : List String :=
  ["version", "assetId", "movementType", "executedAt", "requestedBy", "authorizedBy", "from", "to",
    "reason", "documentReference", "loanId", "previousMovementId", "metadata"]

theorem payloadEntries_keys (fields : MovementSignedFields) :
    (payloadEntries fields).map Prod.fst = payloadKeys := rfl

/-- Only undefined metadata could leave an entry out of the payload. -/
theorem payloadEntries_defined {fields : MovementSignedFields}
    (h : fields.metadata.isUndefined = false) :
    ∀ entry ∈ payloadEntries fields, entry.2.isUndefined = false := by
  simp [payloadEntries, h, snapshot]

/-- Stored rows with the same signed text have the same signed fields. -/
theorem signedFields_eq_of_payload {a b : AssetMovement} (ha : IsStored a) (hb : IsStored b)
    (h : payload a = payload b) : signedFields a = signedFields b := by
  obtain ⟨hma, hda⟩ := ha.metadata
  obtain ⟨hmb, hdb⟩ := hb.metadata
  have hua := (hma ▸ JsonText.plain_toJsonb _ :
    JsonText.Plain (a.metadata.getD (.object []))).isUndefined
  have hub := (hmb ▸ JsonText.plain_toJsonb _ :
    JsonText.Plain (b.metadata.getD (.object []))).isUndefined
  rw [payload, payload, canonicalMovementPayload, canonicalMovementPayload, canonicalJson_eq,
    canonicalJson_eq] at h
  have hobject := JsonText.stringify_injective
    (JsonText.Plain.arrange _ (JsonText.plain_reread _))
    (JsonText.Plain.arrange _ (JsonText.plain_reread _)) h
  have hentries := object_fields_inj (payloadEntries_defined hua) (payloadEntries_defined hub)
    ((payloadEntries_keys _).trans (payloadEntries_keys _).symm)
    (by rw [payloadEntries_keys]; decide) hobject
  simp only [payloadEntries, signedFields, List.map_cons, List.map_nil, idValue, plain_ofOption,
    JsonText.reread, JsonText.arrange, JsValue.string.injEq, List.cons.injEq, and_true,
    true_and] at hentries
  obtain ⟨hasset, htype, hat, hrequested, hauthorized, hfrom, hto, hreason, hreference, hloan,
    hprevious, hmetadata⟩ := hentries
  have hfixa := ha.fixed
  have hfixb := hb.fixed
  obtain ⟨a0, a1, a2, a3, a4, a5, a6, a7, a8, a9, a10, a11, a12, a13, a14⟩ := a
  obtain ⟨b0, b1, b2, b3, b4, b5, b6, b7, b8, b9, b10, b11, b12, b13, b14⟩ := b
  simp only [storedRow, AssetMovement.mk.injEq, true_and, and_true] at hfixa hfixb
  obtain ⟨-, ha1, ha3, ha4, ha5, ha6, ha10, ha11, -⟩ := hfixa
  obtain ⟨-, hb1, hb3, hb4, hb5, hb6, hb10, hb11, -⟩ := hfixb
  simp only [signedFields, MovementSignedFields.mk.injEq]
  exact ⟨uuid_eq_of_lower ha1 hb1 hasset, MovementType.text_injective htype,
    Instant.toISOString_injective hat, idValue_inj ha5 hb5 hrequested,
    idValue_inj ha6 hb6 hauthorized, snapshot_inj ha3 hb3 hfrom, snapshot_inj ha4 hb4 hto,
    ofOption_injective hreason, ofOption_injective hreference, idValue_inj ha10 hb10 hloan,
    idValue_inj ha11 hb11 hprevious,
    JsonText.eq_of_arrange_eq hma hmb hda hdb hmetadata⟩

end MovementSignature

end InternalControl
