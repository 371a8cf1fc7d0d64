import InternalControl.CodePrefix
import InternalControl.KeyedMap
import InternalControl.Text

/-!
# The organisation chart workbook: units, rows and cells

Units and cost centres as the database holds them, the rows a workbook
gives, the words of its cells, and the rules on names, colours and prefixes.
A blank cell is an absent text.
-/

namespace InternalControl.OrgChart

open Text

/-- The Unicode operations of the modelled language that depend on its tables. -/
structure Unicode where
  /-- Canonical decomposition. -/
  normalizeNFD : String → String
  /-- Lower case of the whole repertoire. -/
  toLowerCase : String → String
  /-- Upper case of the whole repertoire. -/
  toUpperCase : String → String
  /-- Capitals without accent, digits and underscores are their own upper case. -/
  toUpperCase_plain : ∀ s, s.toList.all (fun c => c.isUpper || c.isDigit || c == '_') = true →
    toUpperCase s = s

/-- A date text with the time it parses to, in milliseconds. -/
structure IsoDate where
  text : String
  time : ℤ
  deriving DecidableEq

/-- The parts of the language's runtime that depend on its tables. -/
structure Runtime where
  unicode : Unicode
  sha256 : Sha256
  /-- The default order of localeCompare. -/
  collation : Collation
  /-- The order of localeCompare for Spanish. -/
  spanish : Collation
  /-- A date as day, month and year in Bogota. -/
  formatDay : IsoDate → String
  /-- A date with its hour in Bogota. -/
  formatWhen : IsoDate → String

/-! ### Units and centres -/

/-- The kinds of unit. -/
inductive OrgUnitType where
  | dependency
  | rectorate
  | vicerectorate
  | direction
  | faculty
  | department
  | program
  | office
  | center
  | council
  | committee
  | commission
  deriving DecidableEq

namespace OrgUnitType

/-- ORG_UNIT_TYPES, in the order of the lists shown. -/
def all : List OrgUnitType :=
  [dependency, rectorate, vicerectorate, direction, faculty, department, program, office, center,
    council, committee, commission]

/-- The stored text of a kind. -/
def value : OrgUnitType → String
  | dependency => "DEPENDENCY"
  | rectorate => "RECTORATE"
  | vicerectorate => "VICERECTORATE"
  | direction => "DIRECTION"
  | faculty => "FACULTY"
  | department => "DEPARTMENT"
  | program => "PROGRAM"
  | office => "OFFICE"
  | center => "CENTER"
  | council => "COUNCIL"
  | committee => "COMMITTEE"
  | commission => "COMMISSION"

/-- ORG_UNIT_TYPE_LABELS. -/
def label : OrgUnitType → String
  | dependency => "Dependencia"
  | rectorate => "Rectoría"
  | vicerectorate => "Vicerrectoría"
  | direction => "Dirección"
  | faculty => "Facultad"
  | department => "Departamento"
  | program => "Coordinación de programa"
  | office => "Oficina"
  | center => "Centro"
  | council => "Consejo"
  | committee => "Comité"
  | commission => "Comisión"

end OrgUnitType

/-- The bodies that carry neither a prefix nor cost centres. -/
def isCollegiateBody : OrgUnitType → Bool
  | .council | .committee | .commission => true
  | _ => false

/-- The lines that join a unit to its boss. -/
inductive OrgRelationType where
  | authority
  | advisory
  | coordination
  deriving DecidableEq

namespace OrgRelationType

/-- ORG_RELATION_TYPES. -/
def all : List OrgRelationType := [authority, advisory, coordination]

/-- The stored text of a line. -/
def value : OrgRelationType → String
  | authority => "AUTHORITY"
  | advisory => "ADVISORY"
  | coordination => "COORDINATION"

/-- ORG_RELATION_TYPE_LABELS. -/
def label : OrgRelationType → String
  | authority => "Autoridad"
  | advisory => "Asesoría"
  | coordination => "Coordinación"

end OrgRelationType

/-- A unit as stored. -/
structure SnapshotUnit where
  id : RowId
  code : String
  name : String
  unitType : OrgUnitType
  parentId : Option RowId
  relationType : OrgRelationType
  headCostCenterId : Option RowId
  headCostCenterCode : Option String
  codePrefix : Option String
  isActive : Bool
  color : Option String
  deriving DecidableEq

/-- A cost centre as stored. -/
structure SnapshotCenter where
  id : RowId
  externalCode : String
  name : String
  hasMovement : Bool
  isActive : Bool
  unitId : Option RowId
  parentId : Option RowId
  activeAssets : ℕ
  deriving DecidableEq

/-- What a plan is made from: the stored units and centres, and the history
that keeps some of them from being deleted. -/
structure OrgChartSnapshot where
  units : List SnapshotUnit
  centers : List SnapshotCenter
  removal : KeyedMap RowId (Option String)
  /-- The id is the key of the unit table. -/
  unitIds : (units.map SnapshotUnit.id).Nodup
  /-- The id is the key of the centre table. -/
  centerIds : (centers.map SnapshotCenter.id).Nodup

/-- A row of the sheet of units. -/
structure UnitRowInput where
  rowNumber : ℕ
  codePrefix : Option String
  name : Option String
  type : Option String
  parent : Option String
  relation : Option String
  headCenter : Option String
  color : Option String
  status : Option String
  action : Option String
  code : Option String
  deriving DecidableEq

/-- A row of the sheet of centres. -/
structure CenterRowInput where
  rowNumber : ℕ
  code : Option String
  name : Option String
  movement : Option String
  status : Option String
  action : Option String
  previousCode : Option String
  deriving DecidableEq

/-! ### Sheet and column names -/

def unitSheet : String := "Organigrama"

def centerSheet : String := "Centros de costo"

/-- UNIT_HEADERS. -/
structure UnitHeaders where
  codePrefix : String := "Prefijo"
  name : String := "Nombre"
  type : String := "Tipo"
  parent : String := "Depende de"
  relation : String := "Línea"
  headCenter : String := "Centro propio"
  color : String := "Color"
  status : String := "Estado"
  action : String := "Acción"
  code : String := "Código interno"

/-- The headers of the sheet of units. -/
def unitHeaders : UnitHeaders := {}

/-- CENTER_HEADERS. -/
structure CenterHeaders where
  code : String := "Código"
  name : String := "Nombre"
  movement : String := "Movimiento"
  unit : String := "Unidad"
  parent : String := "Padre"
  status : String := "Estado"
  action : String := "Acción"
  previousCode : String := "Código anterior"

/-- The headers of the sheet of centres. -/
def centerHeaders : CenterHeaders := {}

def statusActive : String := "Activo"

def statusArchived : String := "Archivado"

/-- What a row may ask for besides its values. -/
inductive RowAction where
  | delete
  | archive
  deriving DecidableEq

/-! ### Text of cells -/

/-- White space and line ends, as \s and trim see them. -/
def isSpace (c : Char) : Bool :=
  c.toNat ∈ [9, 10, 11, 12, 13, 32, 160, 5760, 8232, 8233, 8239, 8287, 12288, 65279] ||
    (8192 ≤ c.toNat && c.toNat ≤ 8202)

/-- A combining mark of the first block. -/
def isCombiningMark (c : Char) : Bool := 0x300 ≤ c.toNat && c.toNat ≤ 0x36F

/-- Every run of spaces becomes one blank. -/
def collapseSpaces : List Char → List Char
  | [] => []
  | c :: rest =>
    if isSpace c then
      match collapseSpaces rest with
      | ' ' :: tail => ' ' :: tail
      | collapsed => ' ' :: collapsed
    else c :: collapseSpaces rest

/-- Without the spaces at both ends. -/
def trimChars (cs : List Char) : List Char :=
  ((cs.dropWhile isSpace).reverse.dropWhile isSpace).reverse

/-- Without the spaces at both ends. -/
def trim (s : String) : String := String.ofList (trimChars s.toList)

/-- The text by which names and words are compared: no accents, lower case,
single blanks. -/
def normalizeText (unicode : Unicode) (value : String) : String :=
  let plain := String.ofList ((unicode.normalizeNFD value).toList.filter fun c => !isCombiningMark c)
  String.ofList (trimChars (collapseSpaces (unicode.toLowerCase plain).toList))

/-- The text of a cell, absent when blank. -/
def cellText (value : Option String) : Option String :=
  present (value.map fun text => String.ofList (trimChars (collapseSpaces text.toList)))

variable (unicode : Unicode)

/-- The old names of some kinds of unit. -/
def legacyUnitTypeLabels : List (String × OrgUnitType) :=
  [("Consejo o comité", .council), ("Área", .dependency), ("AREA", .dependency),
    ("Otro", .dependency), ("OTHER", .dependency), ("Programa", .program)]

/-- UNIT_TYPE_BY_TEXT. -/
def unitTypeByText : KeyedMap String OrgUnitType :=
  KeyedMap.ofList
    ((OrgUnitType.all.flatMap fun type =>
        [(normalizeText unicode type.label, type), (normalizeText unicode type.value, type)]) ++
      legacyUnitTypeLabels.map fun entry => (normalizeText unicode entry.1, entry.2))

/-- UNIT_TYPE_OPTIONS. -/
def unitTypeOptions : String := String.intercalate ", " (OrgUnitType.all.map OrgUnitType.label)

/-- The kind of unit a cell names. -/
def parseUnitType (text : String) : Option OrgUnitType :=
  (unitTypeByText unicode).get? (normalizeText unicode text)

/-- RELATION_BY_TEXT. -/
def relationByText : KeyedMap String OrgRelationType :=
  KeyedMap.ofList (OrgRelationType.all.flatMap fun type =>
    [(normalizeText unicode type.label, type), (normalizeText unicode type.value, type)])

/-- The line a cell names. -/
def parseRelation (text : String) : Option OrgRelationType :=
  (relationByText unicode).get? (normalizeText unicode text)

/-- Whether a cell says active or archived. -/
def parseStatus (text : String) : Option Bool :=
  let normalized := normalizeText unicode text
  if normalized ∈ ["activo", "activa", "active"] then some true
  else if normalized ∈ ["archivado", "archivada", "inactivo", "inactiva", "archived"] then some false
  else none

/-- The action a cell names. -/
def parseAction (text : String) : Option RowAction :=
  let normalized := normalizeText unicode text
  if normalized = "eliminar" ∨ normalized = "borrar" then some .delete
  else if normalized = "archivar" then some .archive
  else none

/-- Whether a cell says that a centre receives movements. -/
def parseMovement (text : String) : Option Bool :=
  let normalized := normalizeText unicode text
  if normalized ∈ ["1", "si", "true", "verdadero"] then some true
  else if normalized ∈ ["0", "no", "false", "falso"] then some false
  else none

/-- A hexadecimal digit of either case. -/
def isHexDigit (c : Char) : Bool :=
  c.isDigit || ('a' ≤ c && c ≤ 'f') || ('A' ≤ c && c ≤ 'F')

/-- A colour of six hexadecimal digits, with or without its mark. -/
def parseUnitColor (text : String) : Option String :=
  let digits := match (trim text).toList with
    | '#' :: rest => rest
    | digits => digits
  if digits.length = 6 ∧ digits.all isHexDigit = true then
    some (String.ofList ('#' :: digits.map Char.toLower))
  else none

/-- The word for the first level. -/
def isRootText (text : String) : Bool := normalizeText unicode text = "raiz"

/-- The words that take a value away. -/
def isNoneText (text : String) : Bool := normalizeText unicode text ∈ ["ninguno", "ninguna"]

/-- Two names that read the same. -/
def sameUnitName (left right : String) : Bool :=
  normalizeText unicode left = normalizeText unicode right

/-! ### Names, codes and prefixes -/

/-- Where a unit is, by the name of its parent. -/
def unitPlace (parentName : Option String) : String :=
  match present parentName with
  | some name => "en " ++ name
  | none => "en el primer nivel"

/-- The message about a unit with the same name in the same place. -/
def existingSiblingText (siblingName : String) (parentName : Option String) (notes : List String) :
    String :=
  "Ya existe " ++ siblingName ++ " " ++ unitPlace parentName ++
    if notes.isEmpty then "" else " (" ++ String.intercalate ", " notes ++ ")"

/-- The same message as a whole sentence. -/
def duplicateSiblingError (siblingName : String) (parentName : Option String) : String :=
  existingSiblingText siblingName parentName [] ++ "."

/-- UNIT_CODE_MAX. -/
def unitCodeMax : ℕ := 20

/-- A character of a unit code after the first. -/
def isUnitCodeChar (c : Char) : Bool := c.isUpper || c.isDigit || c == '_'

theorem toNat_lt_of_isUnitCodeChar {c : Char} (hc : isUnitCodeChar c = true) : c.toNat < 128 := by
  simp only [isUnitCodeChar, Char.isUpper, Char.isDigit, Bool.or_eq_true, Bool.and_eq_true,
    decide_eq_true_eq, beq_iff_eq] at hc
  rcases hc with (⟨-, h⟩ | ⟨-, h⟩) | rfl
  · exact lt_of_le_of_lt (show c.toNat ≤ 90 from h) (by decide)
  · exact lt_of_le_of_lt (show c.toNat ≤ 57 from h) (by decide)
  · decide

theorem toUpper_table : ∀ n < 128, isUnitCodeChar (Char.ofNat n) = true →
    (Char.ofNat n).toUpper = Char.ofNat n := by
  decide

/-- The operations on text without accents. -/
def Unicode.ascii : Unicode where
  normalizeNFD s := s
  toLowerCase := asciiLower
  toUpperCase s := String.ofList (s.toList.map Char.toUpper)
  toUpperCase_plain s hs := by
    have hupper : ∀ c ∈ s.toList, c.toUpper = c := by
      intro c hc
      have hchar := List.all_eq_true.mp hs c hc
      have htable := toUpper_table c.toNat (toNat_lt_of_isUnitCodeChar hchar)
      rw [Char.ofNat_toNat] at htable
      exact htable hchar
    rw [List.map_congr_left hupper, List.map_id', String.ofList_toList]

/-- The runtime over text without accents, with a digest known at the listed texts. -/
def Runtime.ascii (sha256 : Sha256) : Runtime where
  unicode := .ascii
  sha256
  collation := codeUnitCollation
  spanish := codeUnitCollation
  formatDay := IsoDate.text
  formatWhen := IsoDate.text

/-- UNIT_CODE_PATTERN. -/
def unitCodePattern (code : String) : Bool :=
  match code.toList with
  | [] => false
  | first :: rest => first.isUpper && rest.all isUnitCodeChar

/-- HEAD_CENTER_CODE_PATTERN. -/
def headCenterCodePattern (code : String) : Bool := allDigits code && utf16Length code ≤ 20

/-- PREFIX_PATTERN. -/
def prefixPattern (text : String) : Bool := allDigits text && utf16Length text ≤ 4

/-- CENTER_CODE_PATTERN. -/
def centerCodePattern (text : String) : Bool := allDigits text && utf16Length text ≤ 10

/-- NAME_MAX. -/
def nameMax : ℕ := 200

/-- MAX_DEPTH of the walks towards the root. -/
def maxDepth : ℕ := 64

/-- Without the characters at the end that a test accepts. -/
def dropEnd (test : Char → Bool) (cs : List Char) : List Char :=
  (cs.reverse.dropWhile test).reverse

/-- The prefix an accounting code of four digits stands for. -/
def normalizeUnitPrefix (raw : String) : String :=
  if allDigits raw && utf16Length raw == 4 then
    let stripped := String.ofList (dropEnd (· == '0') raw.toList)
    (present (some stripped)).getD raw
  else raw

/-- Why a prefix does not fit under the one above it. -/
def childPrefixError (childPrefix : String) (ancestorPrefix : Option String) : Option String :=
  match ancestorPrefix with
  | none => none
  | some ancestor =>
    if startsWith childPrefix ancestor && utf16Length childPrefix > utf16Length ancestor then none
    else if startsWith childPrefix ancestor then
      some ("El prefijo " ++ childPrefix ++ " es el mismo de su jefe. Agregue al menos un dígito.")
    else
      some ("El prefijo " ++ childPrefix ++ " no empieza por " ++ ancestor ++ ", el de su jefe.")

/-- How serious the outcome of a prefix check is. -/
inductive PrefixLevel where
  | ok
  | warning
  | error
  deriving DecidableEq

/-- The outcome of a prefix check. -/
structure PrefixCheck where
  level : PrefixLevel
  message : Option String

/-- Check a prefix against the nearest one above it, the others in use, and
all those above it. -/
def checkUnitPrefix (childPrefix : String) (ancestorPrefix : Option String)
    (otherActivePrefixes : KeyedMap String String) (ancestorChain : List String)
    (childName ancestorName : Option String) : PrefixCheck :=
  let message :=
    if utf16Length childPrefix = 1 then none else childPrefixError childPrefix ancestorPrefix
  match present message, ancestorPrefix with
  | some text, some ancestor =>
    if startsWith childPrefix ancestor then ⟨.error, some text⟩
    else
      let owner := ((otherActivePrefixes.keys.filter fun other =>
          other ≠ ancestor && other ∉ ancestorChain && utf16Length other < utf16Length childPrefix &&
            startsWith childPrefix other).insertionSort
        fun left right => utf16Length right ≤ utf16Length left).head?
      let child := childName.getD "La dependencia"
      let boss := ancestorName.getD "su jefe"
      match present ((present owner).bind otherActivePrefixes.get?) with
      | some ownerName =>
        ⟨.warning, some (child ++ " quedó bajo " ++ boss ++ ", pero su prefijo " ++ childPrefix ++
          " es de la rama de " ++ ownerName ++ ".")⟩
      | none =>
        ⟨.warning, some (child ++ " quedó bajo " ++ boss ++ ", pero su prefijo " ++ childPrefix ++
          " no empieza por " ++ ancestor ++ ".")⟩
  | _, _ => ⟨.ok, none⟩

/-- What is said of a head centre that is not there yet. -/
def pendingHeadCenterMessage (code : String) (archived : Bool) : String :=
  if archived then
    "El centro " ++ code ++ " está archivado. Quedará como centro propio cuando lo reactiven."
  else "El centro " ++ code ++ " aún no existe. Quedará como centro propio cuando lo creen."

/-! ### Issues -/

/-- A message about a row of a sheet. -/
structure RowIssue where
  sheet : String
  rowNumber : ℕ
  column : Option String
  message : String
  deriving DecidableEq

/-- Whether an issue stops the file. -/
inductive IssueLevel where
  | error
  | warning
  deriving DecidableEq

/-- An issue with its level. -/
structure Notice where
  level : IssueLevel
  issue : RowIssue
  deriving DecidableEq

/-- An error on the sheet of units. -/
def unitError (row : ℕ) (column : Option String) (message : String) : Notice :=
  ⟨.error, unitSheet, row, column, message⟩

/-- A warning on the sheet of units. -/
def unitWarning (row : ℕ) (column : Option String) (message : String) : Notice :=
  ⟨.warning, unitSheet, row, column, message⟩

/-- An error on the sheet of centres. -/
def centerError (row : ℕ) (column : Option String) (message : String) : Notice :=
  ⟨.error, centerSheet, row, column, message⟩

/-- A warning on the sheet of centres. -/
def centerWarning (row : ℕ) (column : Option String) (message : String) : Notice :=
  ⟨.warning, centerSheet, row, column, message⟩

/-- The issues of one level, in the order they were found. -/
def issuesOf (level : IssueLevel) (notices : List Notice) : List RowIssue :=
  (notices.filter fun notice => notice.level = level).map Notice.issue

@[simp] theorem issuesOf_nil (level : IssueLevel) : issuesOf level [] = [] := rfl

@[simp] theorem issuesOf_append (level : IssueLevel) (first second : List Notice) :
    issuesOf level (first ++ second) = issuesOf level first ++ issuesOf level second := by
  simp [issuesOf]

/-- Notices without an error have no error among them. -/
theorem issuesOf_error_eq_nil_iff (notices : List Notice) :
    issuesOf .error notices = [] ↔ ∀ notice ∈ notices, notice.level ≠ .error := by
  simp [issuesOf, List.filter_eq_nil_iff]

end InternalControl.OrgChart
