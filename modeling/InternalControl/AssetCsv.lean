import InternalControl.CsvText
import InternalControl.KeyedMap

/-!
# Assets from a file of comma separated cells

The rows that the import of assets reads from a file, and the preview that counts
them. The lines are trimmed and the blank ones are left out before the rows are
numbered, and a row without one of the required fields is left out.
-/

namespace InternalControl.AssetCsv

open CsvText
open OrgChart (isSpace trimChars)

/-- A text as its characters. -/
abbrev Chars := List Char

/-- AssetCsvRow. -/
structure AssetCsvRow where
  rowNumber : ℕ
  internalCode : Option Chars
  description : Chars
  categoryCode : Chars
  costCenterCode : Chars
  locationCode : Option Chars
  acquisitionTypeCode : Chars
  acquisitionDate : Chars
  acquisitionPrice : Option Chars
  serialNumber : Option Chars
  barcode : Option Chars
  model : Option Chars
  photoUrl : Option Chars
  notes : Option Chars
  customValues : KeyedMap Chars Chars

/-- KNOWN. -/
def known : List Chars :=
  ["internal_code", "description", "category_code", "cost_center_code", "location_code",
    "acquisition_type_code", "acquisition_date", "acquisition_price", "serial_number", "barcode",
    "model", "photo_url", "notes"].map String.toList

/-- The columns without which there is no row. -/
def required : List Chars :=
  ["description", "category_code", "cost_center_code", "acquisition_type_code",
    "acquisition_date"].map String.toList

/-- Lower case. No known name has a letter that is the lower case of one outside ASCII. -/
def toLowerCase (text : Chars) : Chars := text.map Char.toLower

/-- Without the byte order mark in front. -/
def withoutMark (content : Chars) : Chars :=
  match content with
  | c :: rest => if c = Char.ofNat 0xFEFF then rest else c :: rest
  | [] => []

/-- Every carriage return in front of a line feed is left out. -/
def lineFeeds : Chars → Chars
  | [] => []
  | '\r' :: '\n' :: rest => '\n' :: lineFeeds rest
  | c :: rest => c :: lineFeeds rest

/-- The cell of a column, or nothing when it is empty or missing. -/
def cell (cells : List Chars) (index : Option ℕ) : Option Chars :=
  (index.bind fun i => cells[i]?).filter fun value => value ≠ []

/-- The key that an object keeps for itself. -/
def protoKey : Chars := "__proto__".toList

/-- An assignment to a key of an object. A text under __proto__ is ignored. -/
def assign (values : KeyedMap Chars Chars) (key value : Chars) : KeyedMap Chars Chars :=
  if key = protoKey then values else values.set key value

/-- One round of the loop over the columns. -/
def customColumn (cells : List Chars) (values : KeyedMap Chars Chars) (column : Chars × ℕ) :
    KeyedMap Chars Chars :=
  let (original, index) := column
  if toLowerCase original ∈ known then values
  else
    match cell cells (some index) with
    | some value => assign values original value
    | none => values

/-- The cells of the other columns, under their names as written. -/
def customValuesOf (rawHeaders cells : List Chars) : KeyedMap Chars Chars :=
  rawHeaders.zipIdx.foldl (customColumn cells) KeyedMap.empty

/-- The row of a line, if it has the required fields. -/
def parseRow (rawHeaders headers : List Chars) (offset : ℕ) (line : Chars) : Option AssetCsvRow :=
  let cells := splitCsvLine line
  let column := fun name : String => cell cells (headers.idxOf? name.toList)
  match column "description", column "category_code", column "cost_center_code",
    column "acquisition_type_code", column "acquisition_date" with
  | some description, some categoryCode, some costCenterCode, some acquisitionTypeCode,
    some acquisitionDate =>
    some
      { rowNumber := offset + 2
        internalCode := column "internal_code"
        description := description
        categoryCode := categoryCode
        costCenterCode := costCenterCode
        locationCode := column "location_code"
        acquisitionTypeCode := acquisitionTypeCode
        acquisitionDate := acquisitionDate
        acquisitionPrice := column "acquisition_price"
        serialNumber := column "serial_number"
        barcode := column "barcode"
        model := column "model"
        photoUrl := column "photo_url"
        notes := column "notes"
        customValues := customValuesOf rawHeaders cells }
  | _, _, _, _, _ => none

/-- The lines of a file that are not blank, trimmed. -/
def linesOf (content : Chars) : List Chars :=
  (((lineFeeds (withoutMark content)).splitOn '\n').map trimChars).filter fun line => line ≠ []

/-- The rows of a file. -/
def parseAssetCsv (content : Chars) : List AssetCsvRow :=
  match linesOf content with
  | first :: next :: rest =>
    let rawHeaders := splitCsvLine first
    let headers := rawHeaders.map toLowerCase
    if required.any fun name => name ∉ headers then []
    else
      (next :: rest).zipIdx.filterMap fun (line, offset) => parseRow rawHeaders headers offset line
  | _ => []

/-! ### The preview -/

/-- MAX_IMPORT_ROWS. -/
def maxImportRows : ℕ := 5000

inductive PreviewRefusal where
  | invalidCsv
  | assetImportTooLarge
  deriving DecidableEq

/-- What a preview keeps and shows: the rows that can be created, and the others with
their number and what is wrong with them. -/
structure ImportPreview (δ ε : Type) where
  payload : List δ
  total : ℕ
  validCount : ℕ
  errorCount : ℕ
  errors : List (ℕ × ε)

section Preview

variable {δ ε : Type}

/-- The preview of an import, where each row is looked up in the catalogues. -/
def previewImport (csvRowToDto : AssetCsvRow → Except ε δ) (csv : Chars) :
    Except PreviewRefusal (ImportPreview δ ε) :=
  let rows := parseAssetCsv csv
  if rows.length = 0 then .error .invalidCsv
  else if rows.length > maxImportRows then .error .assetImportTooLarge
  else
    let dtos := rows.filterMap fun row => (csvRowToDto row).toOption
    let errors := rows.filterMap fun row =>
      match csvRowToDto row with
      | .ok _ => none
      | .error error => some (row.rowNumber, error)
    .ok ⟨dtos, rows.length, dtos.length, errors.length, errors⟩

end Preview

/-! ### Files as they are written -/

/-- A line of a file behind its header. -/
inductive FileLine where
  | blank (spaces : Chars)
  | record (fields : List Chars)

/-- What a file is written from. -/
structure CsvFile where
  names : List Chars
  lines : List FileLine
  /-- The lines end in a carriage return and a line feed. -/
  carriageReturns : Bool

/-- The text of a line. -/
def FileLine.text : FileLine → Chars
  | .blank spaces => spaces
  | .record fields => lineOf fields

/-- What stands between two lines. -/
def CsvFile.newline (file : CsvFile) : Chars := if file.carriageReturns then ['\r', '\n'] else ['\n']

/-- The text of a file. -/
def CsvFile.text (file : CsvFile) : Chars :=
  file.newline.intercalate (lineOf file.names :: file.lines.map FileLine.text)

/-- The name of a column to the reader, who ignores letter case. -/
def readName (name : Chars) : Chars := toLowerCase (readBack name)

/-- Columns with distinct names, the required ones among them, and records with a
field for each. -/
structure CsvFile.WellFormed (file : CsvFile) : Prop where
  names_cells : ∀ name ∈ file.names, IsCell name
  distinct : (file.names.map readBack).Nodup
  /-- A known column is found in whatever letter case, so no two columns are the same known one. -/
  distinct_known : file.names.Pairwise fun a b => readName a = readName b → readName a ∉ known
  required_names : ∀ name ∈ required, name ∈ file.names
  blanks : ∀ spaces, FileLine.blank spaces ∈ file.lines →
    ∀ c ∈ spaces, isSpace c = true ∧ c ≠ '\n' ∧ c ≠ '\r'
  lengths : ∀ fields, FileLine.record fields ∈ file.lines → fields.length = file.names.length
  fields_cells : ∀ fields, FileLine.record fields ∈ file.lines → ∀ field ∈ fields, IsCell field

/-- A record with its line in the file and the number of records above it. -/
structure Entry where
  line : ℕ
  index : ℕ
  fields : List Chars

/-- The records of some lines. -/
def entriesFrom : ℕ → ℕ → List FileLine → List Entry
  | _, _, [] => []
  | line, index, .blank _ :: rest => entriesFrom (line + 1) index rest
  | line, index, .record fields :: rest =>
    ⟨line, index, fields⟩ :: entriesFrom (line + 1) (index + 1) rest

/-- The records of a file. The header is its first line. -/
def CsvFile.entries (file : CsvFile) : List Entry := entriesFrom 2 0 file.lines

/-- The required fields of a record are not empty. -/
def Filled (names : List Chars) (entry : Entry) : Prop :=
  ∀ name ∈ required, ∀ field, (name, field) ∈ names.zip entry.fields → field ≠ []

instance (names : List Chars) (entry : Entry) : Decidable (Filled names entry) :=
  decidable_of_iff (∀ name ∈ required, ∀ column ∈ names.zip entry.fields,
    column.1 = name → column.2 ≠ []) (by
      unfold Filled
      constructor
      · intro h name hname field hfield
        exact h name hname (name, field) hfield rfl
      · rintro h name hname ⟨_, field⟩ hcolumn rfl
        exact h _ hname field hcolumn)

/-- The known fields of a row by the names of their columns. -/
def AssetCsvRow.knownFields (row : AssetCsvRow) : List (Chars × Option Chars) :=
  known.zip
    [row.internalCode, row.description, row.categoryCode, row.costCenterCode, row.locationCode,
      row.acquisitionTypeCode, row.acquisitionDate, row.acquisitionPrice, row.serialNumber,
      row.barcode, row.model, row.photoUrl, row.notes]

/-- What a row has for a column. -/
def AssetCsvRow.field? (row : AssetCsvRow) (name : Chars) : Option Chars :=
  if toLowerCase name ∈ known then (row.knownFields.lookup (toLowerCase name)).join
  else row.customValues.get? name

/-- An empty text is null. -/
def orNull (text : Chars) : Option Chars := if text = [] then none else some text

/-- A row says what a record says, under the number of its line. -/
structure Matches (names : List Chars) (entry : Entry) (row : AssetCsvRow) : Prop where
  rowNumber : row.rowNumber = entry.line
  fields : ∀ name field, (name, field) ∈ names.zip entry.fields → row.field? name = orNull field

/-- Reading undoes writing: a row for each record with the required fields, in order. -/
def ReadBack (file : CsvFile) : Prop :=
  List.Forall₂ (Matches file.names) (file.entries.filter fun entry => Filled file.names entry)
    (parseAssetCsv file.text)

/-- A preview counts every record, and a file is refused as invalid only when it has none. -/
def CountsEveryRecord {δ ε : Type} (csvRowToDto : AssetCsvRow → Except ε δ) (file : CsvFile) : Prop :=
  match previewImport csvRowToDto file.text with
  | .ok preview => preview.total = file.entries.length
  | .error .invalidCsv => file.entries = []
  | .error .assetImportTooLarge => maxImportRows < file.entries.length

end InternalControl.AssetCsv
