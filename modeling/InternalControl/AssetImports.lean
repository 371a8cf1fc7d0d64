import InternalControl.Assets
import InternalControl.Table
import Mathlib.Data.Rat.Defs

/-!
# Imports of assets

A list of new assets is created row by row, each row in a transaction of its own:
what the catalogues say of it is looked up first, then the asset, its identifiers
and the movement of its registration are inserted together. In the mode that is
all or nothing the first row that is refused ends the import; the rows before it
are committed.
-/

namespace InternalControl.AssetImports

open Assets (OperationalStatus PhysicalCondition)
open Fallible

abbrev Uuid := String

/-- What the runtime makes of texts. -/
structure Runtime where
  /-- The number that a text stands for. -/
  toNumber : String → Option ℚ
  /-- Whether a text matches a pattern. -/
  matchesPattern : String → String → Bool
  /-- Whether a text is a date. -/
  parsesDate : String → Bool
  fullYear : String → ℤ
  /-- Whether the store reads a text as a date. -/
  storesDate : String → Bool

inductive ErrorCode where
  | resourceNotFound
  | validationFailed
  | costCenterWithoutHead
  | assetSerialRequired
  | assetPhotoRequired
  | assetMissingCustomField
  | assetInvalidDynamicValue
  | assetInternalCodeAlreadyExists
  | assetBarcodeAlreadyExists
  | assetImportTooLarge
  | assetImportExpired
  | internalError
  deriving DecidableEq

/-- ERROR_CATALOG: what an error says when nothing else is said. -/
def ErrorCode.message : ErrorCode → String
  | resourceNotFound => "No encontramos lo que busca."
  | validationFailed => "Revise los datos del formulario."
  | costCenterWithoutHead =>
    "El centro de costo no tiene jefe vigente. Asígnele un jefe antes de agregarle activos."
  | assetSerialRequired => "Esta categoría exige número de serie."
  | assetPhotoRequired => "Esta categoría exige una foto del activo."
  | assetMissingCustomField => "Falta un campo obligatorio de la categoría."
  | assetInvalidDynamicValue => "Un campo de la categoría tiene un valor no válido."
  | assetInternalCodeAlreadyExists => "Ese código interno ya existe."
  | assetBarcodeAlreadyExists => "Ese código de barras ya está registrado."
  | assetImportTooLarge => "El archivo tiene más de 5000 filas. Divídalo en varios."
  | assetImportExpired => "La vista previa venció. Vuelva a subir el archivo."
  | internalError => "Ocurrió un error inesperado."

structure ApiException where
  code : ErrorCode
  message : String := code.message
  details : List (String × String) := []
  deriving DecidableEq

inductive UniqueConstraint where
  | primaryKey
  | assetInternalCode
  | assetBarcode
  | assetIdentifierVisibleCurrent
  | assetIdentifierOpaque
  deriving DecidableEq

/-- Why a row is not created. -/
inductive Failure where
  | api (exception : ApiException)
  | unique (constraint : UniqueConstraint)
  /-- Another error of the store. -/
  | other
  deriving DecidableEq

/-! ### The catalogues -/

inductive DynamicFieldType where
  | string
  | number
  | date
  | boolean
  | select
  deriving DecidableEq

structure FieldValidationRules where
  min : Option ℚ := none
  max : Option ℚ := none
  minLength : Option ℕ := none
  maxLength : Option ℕ := none
  pattern : Option String := none

structure DynamicField where
  id : Uuid
  code : String
  label : String
  type : DynamicFieldType
  isRequired : Bool
  selectOptions : Option (List String)
  validationRules : Option FieldValidationRules

/-- A value that was given for a field of the category. -/
inductive CustomValue where
  | null
  | text (value : String)
  | number (value : ℚ)
  | boolean (value : Bool)
  /-- An object or a list. -/
  | other
  deriving DecidableEq

structure AssetCategory where
  id : Uuid
  isActive : Bool
  requiresSerialNumber : Bool
  requiresPhoto : Bool
  fields : List DynamicField

structure CostCenter where
  id : Uuid
  code : String
  name : String
  isActive : Bool
  acceptsAssets : Bool
  hasHead : Bool

/-! ### The rows that are written -/

structure CreateAssetDto where
  internalCode : Option String := none
  barcode : Option String := none
  serialNumber : Option String := none
  description : String
  model : Option String := none
  categoryId : Uuid
  costCenterId : Uuid
  acquisitionTypeId : Uuid
  acquisitionDate : String
  acquisitionDocument : Option String := none
  physicalCondition : Option PhysicalCondition := none
  locationId : Option Uuid := none
  responsibleId : Option Uuid := none
  notes : Option String := none
  photoUrl : Option String := none
  stagedPhotoToken : Option String := none
  photoFileId : Option String := none
  customValues : String → Option CustomValue := fun _ => none

structure Asset where
  id : Uuid
  internalCode : String
  barcode : Option String
  serialNumber : Option String
  description : String
  model : Option String
  categoryId : Uuid
  acquisitionTypeId : Uuid
  acquisitionDate : String
  operationalStatus : OperationalStatus
  physicalCondition : PhysicalCondition
  costCenterId : Uuid
  locationId : Option Uuid
  responsibleId : Option Uuid
  notes : Option String
  createdBy : Uuid
  deriving DecidableEq

inductive AssetIdentifierType where
  | legacyCode
  | visibleCode
  | opaqueId
  deriving DecidableEq

inductive AssetIdentifierOrigin where
  | imported
  | generated
  | manual
  deriving DecidableEq

structure AssetIdentifier where
  id : Uuid
  assetId : Uuid
  type : AssetIdentifierType
  value : String
  origin : AssetIdentifierOrigin
  /-- It is the current one: it has no end. -/
  isCurrent : Bool
  deriving DecidableEq

/-- The movement of a registration. It has no state before. -/
structure AssetMovement where
  id : Uuid
  assetId : Uuid
  toCostCenterId : Uuid
  toLocationId : Option Uuid
  toResponsibleId : Option Uuid
  toOperationalStatus : OperationalStatus
  toPhysicalCondition : PhysicalCondition
  requestedBy : Uuid
  authorizedBy : Uuid
  reason : String
  documentReference : Option String
  deriving DecidableEq

structure AssetPhoto where
  assetId : Uuid
  fileUrl : String
  deriving DecidableEq

structure AssetCustomValue where
  assetId : Uuid
  fieldId : Uuid
  value : CustomValue
  deriving DecidableEq

/-- A list of rows that was read from a file, to be committed later. -/
structure AssetImportBatch where
  id : Uuid
  payload : List CreateAssetDto
  expiresAt : ℤ
  committedAt : Option ℤ

/-- The sequence that codes are taken from. -/
structure CodeSequence where
  currentValue : ℕ
  paddingLength : ℕ

structure Database where
  categories : Table AssetCategory.id
  costCenters : Table CostCenter.id
  /-- The locations there are, and whether they are active. -/
  locations : Uuid → Option Bool
  acquisitionTypes : Uuid → Bool
  persons : Uuid → Bool
  sequence : Option CodeSequence
  assets : Table Asset.id
  identifiers : Table AssetIdentifier.id
  movements : Table AssetMovement.id
  photos : List AssetPhoto
  customValues : List AssetCustomValue
  batches : Table AssetImportBatch.id
  /-- How many assets each audited import has created, and how many errors it had. -/
  audits : List (ℕ × ℕ)

/-- The identifiers that are drawn for a row. -/
structure NewIds where
  assetId : Uuid
  visibleId : Uuid
  opaqueId : Uuid
  opaqueValue : String
  legacyId : Uuid
  movementId : Uuid

/-! ### Before the transaction -/

variable (runtime : Runtime)

/-- A value as its field reads it: nothing, when it is empty. -/
def coerceDynamicInput (type : DynamicFieldType) : Option CustomValue → Option CustomValue
  | none | some .null | some (.text "") => none
  | some (.text value) =>
    match type with
    | .number =>
      match runtime.toNumber value with
      | some number => some (.number number)
      | none => some (.text value)
    | .boolean =>
      if Text.asciiLower value = "true" ∨ value = "1" then some (.boolean true)
      else if Text.asciiLower value = "false" ∨ value = "0" then some (.boolean false)
      else some (.text value)
    | _ => some (.text value)
  | some value => some value

def validateDynamicValue (field : DynamicField) : CustomValue → Bool
  | .text value =>
    match field.type with
    | .string =>
      let rules := field.validationRules.getD {}
      (rules.minLength.all fun minLength => minLength ≤ Text.utf16Length value) &&
        (rules.maxLength.all fun maxLength => Text.utf16Length value ≤ maxLength) &&
        ((Text.present rules.pattern).all fun pattern => runtime.matchesPattern pattern value)
    | .date => runtime.parsesDate value
    | .select => (field.selectOptions.getD []).contains value
    | _ => false
  | .number value =>
    let rules := field.validationRules.getD {}
    field.type = .number && (rules.min.all fun min => min ≤ value) &&
      rules.max.all fun max => value ≤ max
  | .boolean _ => field.type = .boolean
  | .null | .other => false

/-- What is written for one field of the category. -/
def buildCustomWrite (field : DynamicField) (values : String → Option CustomValue) :
    Except Failure (Option (Uuid × CustomValue)) :=
  match coerceDynamicInput runtime field.type (values field.code) with
  | none =>
    if field.isRequired then
      .error (.api ⟨.assetMissingCustomField, ErrorCode.assetMissingCustomField.message,
        [(field.code, field.label)]⟩)
    else .ok none
  | some value =>
    if validateDynamicValue runtime field value then .ok (some (field.id, value))
    else .error (.api ⟨.assetInvalidDynamicValue, ErrorCode.assetInvalidDynamicValue.message,
      [(field.code, field.label)]⟩)

def buildCustomWrites (fields : List DynamicField) (values : String → Option CustomValue) :
    Except Failure (List (Uuid × CustomValue)) := do
  let writes ← fields.mapM fun field => buildCustomWrite runtime field values
  return writes.filterMap id

/-- Refuse with the text of the catalogue. -/
def refuse {α : Type} (code : ErrorCode) : Except Failure α :=
  .error (.api ⟨code, code.message, []⟩)

def requireCategory (db : Database) (id : Uuid) : Except Failure AssetCategory :=
  match db.categories.find? id with
  | some category => if category.isActive then .ok category else refuse .resourceNotFound
  | none => refuse .resourceNotFound

def requireCostCenter (db : Database) (id : Uuid) : Except Failure CostCenter :=
  match db.costCenters.find? id with
  | some center =>
    if center.isActive && center.acceptsAssets then .ok center else refuse .resourceNotFound
  | none => refuse .resourceNotFound

def assertCostCenterHasHead (center : CostCenter) : Except Failure Unit :=
  if center.hasHead then .ok ()
  else
    let message := "El centro " ++ center.code ++ " · " ++ center.name ++
      " no tiene jefe vigente. Asígnele un jefe antes de agregarle activos."
    .error (.api ⟨.costCenterWithoutHead, message, [("costCenterId", message)]⟩)

def requireLocation (db : Database) (id : Option Uuid) : Except Failure Unit :=
  match Text.present id with
  | none => .ok ()
  | some id => if db.locations id = some true then .ok () else refuse .resourceNotFound

/-- The photos of an asset are not given with a list. -/
def assertPhotoChoice (dto : CreateAssetDto) : Except Failure Unit :=
  if (Text.present dto.stagedPhotoToken).isSome || (Text.present dto.photoFileId).isSome then
    .error (.api ⟨.validationFailed, "Agregue la foto a cada activo después de crearlo.",
      [(if (Text.present dto.stagedPhotoToken).isSome then "stagedPhotoToken" else "photoFileId",
        "Solo se acepta al registrar un activo")]⟩)
  else .ok ()

/-- What the catalogues say of a row. -/
structure Prepared where
  writes : List (Uuid × CustomValue)
  year : ℤ

def prepareNew (db : Database) (dto : CreateAssetDto) : Except Failure Prepared := do
  let category ← requireCategory db dto.categoryId
  let center ← requireCostCenter db dto.costCenterId
  assertCostCenterHasHead center
  requireLocation db dto.locationId
  if ¬db.acquisitionTypes dto.acquisitionTypeId then refuse .resourceNotFound
  if category.requiresSerialNumber ∧ Text.present dto.serialNumber = none then
    refuse .assetSerialRequired
  assertPhotoChoice dto
  if category.requiresPhoto ∧ Text.present dto.photoUrl = none then refuse .assetPhotoRequired
  let writes ← buildCustomWrites runtime category.fields dto.customValues
  return ⟨writes, runtime.fullYear dto.acquisitionDate⟩

/-! ### The transaction of a row -/

/-- Take the next code of the year. -/
def nextInternalCode (db : Database) (year : ℤ) : Except Failure (String × Database) :=
  match db.sequence with
  | none => .error .other
  | some sequence =>
    let value := sequence.currentValue + 1
    let digits := Nat.toDigits 10 value
    let padded := List.replicate (sequence.paddingLength - digits.length) '0' ++ digits
    .ok ("A" ++ toString year ++ "-" ++ String.ofList padded,
      { db with sequence := some { sequence with currentValue := value } })

/-- The texts of an asset fit in their columns. -/
def fits (asset : Asset) : Bool :=
  asset.internalCode.length ≤ 30 && (asset.barcode.all fun barcode => barcode.length ≤ 50) &&
    (asset.serialNumber.all fun serial => serial.length ≤ 100) &&
    asset.description.length ≤ 500 && asset.model.all fun model => model.length ≤ 150

/-- The rows that an asset refers to are there. -/
def refersTo (db : Database) (asset : Asset) : Bool :=
  (asset.locationId.all fun id => (db.locations id).isSome) && asset.responsibleId.all db.persons

/-- Insert an asset. Its code and its barcode are unique. -/
def insertAsset (db : Database) (asset : Asset) : Except Failure Database :=
  if ¬(fits asset && refersTo db asset && runtime.storesDate asset.acquisitionDate) then
    .error .other
  else if ∃ other ∈ db.assets.rows, other.internalCode = asset.internalCode then
    .error (.unique .assetInternalCode)
  else if ∃ other ∈ db.assets.rows, asset.barcode ≠ none ∧ other.barcode = asset.barcode then
    .error (.unique .assetBarcode)
  else match db.assets.insert asset with
    | none => .error (.unique .primaryKey)
    | some assets => .ok { db with assets := assets }

/-- The visible codes that are current. -/
def visibleCodes (identifiers : List AssetIdentifier) : List String :=
  (identifiers.filter fun identifier => identifier.type = .visibleCode ∧ identifier.isCurrent).map
    AssetIdentifier.value

def opaqueIds (identifiers : List AssetIdentifier) : List String :=
  (identifiers.filter fun identifier => identifier.type = .opaqueId).map AssetIdentifier.value

/-- Insert identifiers. The current visible codes are unique, and so are the opaque ones. -/
def insertIdentifiers (db : Database) (identifiers : List AssetIdentifier) :
    Except Failure Database :=
  if ∃ identifier ∈ identifiers, 100 < identifier.value.length then .error .other
  else if ¬(visibleCodes (db.identifiers.rows ++ identifiers)).Nodup then
    .error (.unique .assetIdentifierVisibleCurrent)
  else if ¬(opaqueIds (db.identifiers.rows ++ identifiers)).Nodup then
    .error (.unique .assetIdentifierOpaque)
  else match db.identifiers.insertAll identifiers with
    | none => .error (.unique .primaryKey)
    | some identifiers => .ok { db with identifiers := identifiers }

/-- The identifiers of a new asset. -/
def newIdentifiers (dto : CreateAssetDto) (asset : Asset) (ids : NewIds) : List AssetIdentifier :=
  [⟨ids.visibleId, asset.id, .visibleCode, asset.internalCode,
      if (Text.present dto.internalCode).isSome then .manual else .generated, true⟩,
    ⟨ids.opaqueId, asset.id, .opaqueId, ids.opaqueValue, .generated, true⟩] ++
  (Text.present dto.barcode).toList.map fun barcode =>
    ⟨ids.legacyId, asset.id, .legacyCode, barcode, .manual, true⟩

/-- The asset that a row asks for. -/
def newAsset (dto : CreateAssetDto) (internalCode actorId : String) (ids : NewIds) : Asset where
  id := ids.assetId
  internalCode := internalCode
  barcode := Text.present dto.barcode
  serialNumber := Text.present dto.serialNumber
  description := dto.description
  model := dto.model
  categoryId := dto.categoryId
  acquisitionTypeId := dto.acquisitionTypeId
  acquisitionDate := Text.sliceTo dto.acquisitionDate 10
  operationalStatus := .inUse
  physicalCondition := dto.physicalCondition.getD .new
  costCenterId := dto.costCenterId
  locationId := dto.locationId
  responsibleId := dto.responsibleId
  notes := dto.notes
  createdBy := actorId

/-- The movement that registers an asset. -/
def registration (dto : CreateAssetDto) (asset : Asset) (actorId : Uuid) (ids : NewIds) :
    AssetMovement where
  id := ids.movementId
  assetId := asset.id
  toCostCenterId := asset.costCenterId
  toLocationId := asset.locationId
  toResponsibleId := asset.responsibleId
  toOperationalStatus := asset.operationalStatus
  toPhysicalCondition := asset.physicalCondition
  requestedBy := actorId
  authorizedBy := actorId
  reason := "Alta de activo"
  documentReference := dto.acquisitionDocument

/-- The code of a new asset: the one it was given, or the next. -/
def codeFor (db : Database) (dto : CreateAssetDto) (year : ℤ) :
    Except Failure (String × Database) :=
  match dto.internalCode with
  | some code => .ok (code, db)
  | none => nextInternalCode db year

def replaceCustomValues (db : Database) (assetId : Uuid) (writes : List (Uuid × CustomValue)) :
    Database :=
  { db with customValues := (db.customValues.filter fun value => value.assetId ≠ assetId) ++
      writes.map fun write => ⟨assetId, write.1, write.2⟩ }

def insertPhoto (db : Database) (assetId : Uuid) (photoUrl : Option String) : Database :=
  { db with photos := db.photos ++
      (Text.present photoUrl).toList.map fun fileUrl => ⟨assetId, fileUrl⟩ }

def recordMovement (db : Database) (movement : AssetMovement) : Except Failure Database :=
  match db.movements.insert movement with
  | none => .error (.unique .primaryKey)
  | some movements => .ok { db with movements := movements }

def insertNew (db : Database) (dto : CreateAssetDto) (actorId : Uuid) (prepared : Prepared)
    (ids : NewIds) : Except Failure (Asset × Database) := do
  let (internalCode, db) ← codeFor db dto prepared.year
  let asset := newAsset dto internalCode actorId ids
  let db ← insertAsset runtime db asset
  let db ← insertIdentifiers db (newIdentifiers dto asset ids)
  let db := insertPhoto (replaceCustomValues db asset.id prepared.writes) asset.id dto.photoUrl
  let db ← recordMovement db (registration dto asset actorId ids)
  return (asset, db)

/-- What a violation of a unique constraint tells the caller. -/
def rethrowUnique : Failure → Failure
  | .unique .assetBarcode =>
    .api ⟨.assetBarcodeAlreadyExists, ErrorCode.assetBarcodeAlreadyExists.message, []⟩
  | .unique _ =>
    .api ⟨.assetInternalCodeAlreadyExists, ErrorCode.assetInternalCodeAlreadyExists.message, []⟩
  | failure => failure

/-- Create one asset, in a transaction of its own: what fails leaves the database as it was. -/
def persistNew (db : Database) (dto : CreateAssetDto) (actorId : Uuid) (ids : NewIds) :
    Except Failure (Asset × Database) := do
  let prepared ← prepareNew runtime db dto
  match insertNew runtime db dto actorId prepared ids with
  | .ok created => .ok created
  | .error failure => .error (rethrowUnique failure)

/-! ### The import -/

inductive ImportMode where
  | allOrNothing
  | partial_
  deriving DecidableEq

structure AssetImportError where
  row : ℕ
  message : String
  code : ErrorCode
  deriving DecidableEq

structure AssetBulkResult where
  createdCount : ℕ
  errors : List AssetImportError
  items : List Asset
  deriving DecidableEq

def toImportError (failure : Failure) (row : ℕ) : AssetImportError :=
  match failure with
  | .api exception => ⟨row, exception.message, exception.code⟩
  | _ => ⟨row, "No se pudo importar la fila.", .internalError⟩

def asRowError (failure : Failure) (row : ℕ) : ApiException :=
  let mapped := toImportError failure row
  ⟨.validationFailed, mapped.message, [("row." ++ toString row, mapped.message)]⟩

def maxImportRows : ℕ := 5000

/-- How far an import has come. -/
structure Progress where
  db : Database
  created : List Asset
  errors : List AssetImportError

/-- Create the rows from one on. -/
def createRows (mode : ImportMode) (actorId : Uuid) (ids : ℕ → NewIds) :
    ℕ → List CreateAssetDto → Progress → Except ApiException Unit × Progress
  | _, [], progress => (.ok (), progress)
  | index, item :: rest, progress =>
    match persistNew runtime progress.db item actorId (ids index) with
    | .ok (asset, db) =>
      createRows mode actorId ids (index + 1) rest
        { progress with db := db, created := progress.created ++ [asset] }
    | .error failure =>
      if mode = .allOrNothing then (.error (asRowError failure (index + 1)), progress)
      else createRows mode actorId ids (index + 1) rest
        { progress with errors := progress.errors ++ [toImportError failure (index + 1)] }

/-- Create a list of assets: what comes of it, and the database it leaves. -/
def bulkCreate (db : Database) (items : List CreateAssetDto) (mode : ImportMode)
    (actorId : Uuid) (ids : ℕ → NewIds) : Except ApiException AssetBulkResult × Database :=
  if maxImportRows < items.length then
    (.error ⟨.assetImportTooLarge, ErrorCode.assetImportTooLarge.message, []⟩, db)
  else
    match createRows runtime mode actorId ids 0 items ⟨db, [], []⟩ with
    | (.error exception, progress) => (.error exception, progress.db)
    | (.ok (), progress) =>
      let audited := if progress.created = [] then progress.db
        else { progress.db with
          audits := progress.db.audits ++ [(progress.created.length, progress.errors.length)] }
      (.ok ⟨progress.created.length, progress.errors, progress.created⟩, audited)

/-- The batch that may be committed. -/
def committable (db : Database) (previewId : Uuid) (now : ℤ) :
    Except ApiException AssetImportBatch :=
  match db.batches.find? previewId with
  | none => .error ⟨.resourceNotFound, ErrorCode.resourceNotFound.message, []⟩
  | some batch =>
    if batch.committedAt.isSome then
      .error ⟨.resourceNotFound, ErrorCode.resourceNotFound.message, []⟩
    else if batch.expiresAt < now then
      .error ⟨.assetImportExpired, ErrorCode.assetImportExpired.message, []⟩
    else .ok batch

def markImportCommitted (db : Database) (previewId : Uuid) (now : ℤ) : Database :=
  { db with
    batches := db.batches.update (fun batch => batch.id = previewId)
      (fun batch => { batch with committedAt := some now }) fun _ => rfl }

/-- Commit the rows that were read from a file. -/
def commitImport (db : Database) (previewId : Uuid) (mode : ImportMode) (actorId : Uuid)
    (now : ℤ) (ids : ℕ → NewIds) : Except ApiException AssetBulkResult × Database :=
  match committable db previewId now with
  | .error exception => (.error exception, db)
  | .ok batch =>
    match bulkCreate runtime db batch.payload mode actorId ids with
    | (.error exception, after) => (.error exception, after)
    | (.ok result, after) => (.ok result, markImportCommitted after previewId now)

end InternalControl.AssetImports
