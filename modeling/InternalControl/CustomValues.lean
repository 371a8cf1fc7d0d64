import InternalControl.AssetImports
import InternalControl.CodeUnits
import InternalControl.Instant

/-!
# Values of custom fields

A value that is given for a field of a category is coerced to the type of the
field, checked against it, and written to the column of its type. What the
column gives back is the value again, as long as the check has let nothing
through that the column cannot hold.
-/

namespace InternalControl.CustomValues

open AssetImports (DynamicFieldType)
open CodeUnits

/-! ### Values -/

/-- A number. Its two zeros are one. -/
inductive JsNumber
  | nan
  | infinite (negative : Bool)
  | finite (value : ℚ)
  deriving DecidableEq

/-- The comparison of numbers. Nothing is below or above what is not a number. -/
def JsNumber.lt : JsNumber → JsNumber → Bool
  | .finite x, .finite y => x < y
  | .infinite true, .finite _ => true
  | .finite _, .infinite false => true
  | .infinite true, .infinite false => true
  | _, _ => false

/-- A value of a request. -/
inductive JsValue
  | null
  | undefined
  | text (units : Units)
  | number (x : JsNumber)
  | boolean (value : Bool)
  /-- An object or a list, with its text. -/
  | object (units : Units)
  deriving DecidableEq

/-- What the platform makes of texts and numbers. -/
structure Platform where
  toLowerCase : Units → Units
  /-- The number that a text stands for. -/
  toNumber : Units → JsNumber
  /-- The text of a finite number. -/
  numeral : ℚ → Units
  /-- Whether Date.parse reads a text. -/
  parsesDate : Units → Bool
  /-- Whether a text matches a pattern. -/
  matchesPattern : Units → Units → Bool
  /-- The numeral that a numeric column gives back for a value. -/
  numericText : ℚ → Units

structure FieldValidationRules where
  min : Option JsNumber
  max : Option JsNumber
  minLength : Option JsNumber
  maxLength : Option JsNumber
  pattern : Option Units
  deriving DecidableEq

/-- The columns of a value, of which its type uses one. -/
structure CustomValueColumns where
  valueText : Option Units := none
  valueNumber : Option Units := none
  valueDate : Option Units := none
  valueBoolean : Option Bool := none
  deriving DecidableEq

section Functions

variable (platform : Platform)

/-- The text of a number. -/
def JsNumber.toText : JsNumber → Units
  | .nan => plain "NaN"
  | .infinite false => plain "Infinity"
  | .infinite true => plain "-Infinity"
  | .finite value => platform.numeral value

/-- The text of a value. -/
def JsValue.toText : JsValue → Units
  | .null => plain "null"
  | .undefined => plain "undefined"
  | .text units => units
  | .number x => x.toText platform
  | .boolean true => plain "true"
  | .boolean false => plain "false"
  | .object units => units

/-- Whether a value counts as true. -/
def JsValue.truthy : JsValue → Bool
  | .null => false
  | .undefined => false
  | .text units => units ≠ []
  | .number x => x ≠ .nan ∧ x ≠ .finite 0
  | .boolean value => value
  | .object _ => true

def toCustomValueColumns (type : DynamicFieldType) (value : JsValue) : CustomValueColumns :=
  match type with
  | .string => { valueText := some (value.toText platform) }
  | .select => { valueText := some (value.toText platform) }
  | .number => { valueNumber := some (value.toText platform) }
  | .date => { valueDate := some ((value.toText platform).take 10) }
  | .boolean => { valueBoolean := some value.truthy }

/-- A text column of a row, which is null where there is none. -/
def textOrNull : Option Units → JsValue
  | none => .null
  | some units => .text units

def fromCustomValueColumns (type : DynamicFieldType) (row : CustomValueColumns) : JsValue :=
  match type with
  | .string => textOrNull row.valueText
  | .select => textOrNull row.valueText
  | .number =>
    match row.valueNumber with
    | none => .null
    | some units => .number (platform.toNumber units)
  | .date => textOrNull row.valueDate
  | .boolean =>
    match row.valueBoolean with
    | none => .null
    | some value => .boolean value

def coerceDynamicInput (type : DynamicFieldType) (value : JsValue) : JsValue :=
  match value with
  | .null => .null
  | .undefined => .null
  | .text [] => .null
  | .text units =>
    match type with
    | .number =>
      let parsed := platform.toNumber units
      if parsed = .nan then value else .number parsed
    | .boolean =>
      if platform.toLowerCase units = plain "true" ∨ units = plain "1" then .boolean true
      else if platform.toLowerCase units = plain "false" ∨ units = plain "0" then .boolean false
      else value
    | _ => value
  | _ => value

/-- The length of a text, as a number. -/
def lengthOf (units : Units) : JsNumber := .finite units.length

def validateDynamicValue (type : DynamicFieldType) (value : JsValue)
    (selectOptions : Option (List Units)) (rules : Option FieldValidationRules) : Bool :=
  match type, value with
  | .string, .text units =>
    !(rules.any fun rules =>
      rules.minLength.any (fun minLength => (lengthOf units).lt minLength) ||
        rules.maxLength.any (fun maxLength => maxLength.lt (lengthOf units)) ||
        rules.pattern.any fun pattern => pattern ≠ [] && !platform.matchesPattern pattern units)
  | .number, .number number =>
    number ≠ .nan && !(rules.any fun rules =>
      rules.min.any (fun min => number.lt min) || rules.max.any fun max => max.lt number)
  | .boolean, .boolean _ => true
  | .date, .text units => platform.parsesDate units
  | .select, .text units => selectOptions.any fun options => units ∈ options
  | _, _ => false

/-! ### The store -/

/-- Whether a text is a date of the calendar, written with its year, month and day. -/
def isCalendarDate (text : Units) : Bool :=
  match text with
  | [y₁, y₂, y₃, y₄, 45, m₁, m₂, 45, d₁, d₂] =>
    let year := readDigits [y₁, y₂, y₃, y₄]
    let month := readDigits [m₁, m₂]
    let day := readDigits [d₁, d₂]
    [y₁, y₂, y₃, y₄, m₁, m₂, d₁, d₂].all isDigit && 1 ≤ year && 1 ≤ month && month ≤ 12 &&
      1 ≤ day && day ≤ daysInMonth year month
  | _ => false

/-- A text column holds characters, none of which is the null character. -/
def storeText (units : Units) : Option Units :=
  if 0 ∈ units then none else some (toWellFormed units)

/-- A numeric column holds the value of a decimal numeral. -/
def storeNumber (units : Units) : Option Units := (parseDecimal units).map platform.numericText

/-- A date column holds a date of the calendar. -/
def storeDate (units : Units) : Option Units := if isCalendarDate units then some units else none

/-- A column without a value is null. -/
def storeColumn {α : Type} (store : α → Option α) : Option α → Option (Option α)
  | none => some none
  | some value => (store value).map some

/-- The row that is read back, when the columns can be stored. -/
def storeColumns (columns : CustomValueColumns) : Option CustomValueColumns := do
  let valueText ← storeColumn storeText columns.valueText
  let valueNumber ← storeColumn (storeNumber platform) columns.valueNumber
  let valueDate ← storeColumn storeDate columns.valueDate
  some ⟨valueText, valueNumber, valueDate, columns.valueBoolean⟩

/-- A value can be stored, and the stored row gives it back. -/
def Survives (type : DynamicFieldType) (value : JsValue) : Prop :=
  ∃ row, storeColumns platform (toCustomValueColumns platform type value) = some row ∧
    fromCustomValueColumns platform type row = value

/-- A finite number is told by its text: the text is a decimal numeral, and the numeral that the
column gives back for its value is read as the number. -/
def TellsNumber (value : ℚ) : Prop :=
  ∃ decimal, parseDecimal (platform.numeral value) = some decimal ∧
    platform.toNumber (platform.numericText decimal) = .finite value

/-- What the column of a type can hold: whole characters without the null character, a finite
number, or a date of the calendar as it is written there. -/
def Holds : DynamicFieldType → JsValue → Prop
  | .string, .text units => 0 ∉ units ∧ isWellFormed units = true
  | .select, .text units => 0 ∉ units ∧ isWellFormed units = true
  | .number, .number number => ∃ value, number = .finite value
  | .date, .text units => isCalendarDate units = true
  | .boolean, .boolean _ => True
  | _, _ => False

end Functions

section Facts

variable {platform : Platform}

theorem storeText_eq_self_iff (units : Units) :
    storeText units = some units ↔ 0 ∉ units ∧ isWellFormed units = true := by
  unfold storeText
  split
  · next hnull => simp [hnull]
  · next hplain => simp [hplain, toWellFormed_eq_self_iff]

theorem length_of_isCalendarDate {units : Units} (h : isCalendarDate units = true) :
    units.length = 10 := by
  unfold isCalendarDate at h
  split at h
  · rfl
  · cases h

/-- The first ten code units are a date and the whole text when the text is a date. -/
theorem storeDate_take_iff (units : Units) :
    storeDate (units.take 10) = some units ↔ isCalendarDate units = true := by
  unfold storeDate
  constructor
  · intro h
    split at h
    · next hdate =>
      have hsame := Option.some.inj h
      rw [hsame] at hdate
      exact hdate
    · cases h
  · intro hdate
    have hwhole : units.take 10 = units :=
      List.take_of_length_le (Nat.le_of_eq (length_of_isCalendarDate hdate))
    rw [hwhole, if_pos hdate]

/-- What is not a finite number has no decimal numeral. -/
theorem parseDecimal_infinite (negative : Bool) :
    parseDecimal ((JsNumber.infinite negative).toText platform) = none := by
  cases negative with
  | false =>
    have hnone : parseDecimal (plain "Infinity") = none := by decide +kernel
    exact hnone
  | true =>
    have hnone : parseDecimal (plain "-Infinity") = none := by decide +kernel
    exact hnone

/-- Texts and choices share the column of texts. -/
theorem survives_text_iff {type : DynamicFieldType} (htype : type = .string ∨ type = .select)
    (units : Units) :
    Survives platform type (.text units) ↔ storeText units = some units := by
  rcases htype with rfl | rfl
  all_goals
    unfold Survives storeColumns toCustomValueColumns JsValue.toText
    cases hstored : storeText units <;>
      simp [storeColumn, hstored, fromCustomValueColumns, textOrNull]

theorem survives_date_iff (units : Units) :
    Survives platform .date (.text units) ↔ storeDate (units.take 10) = some units := by
  unfold Survives storeColumns toCustomValueColumns JsValue.toText
  cases hstored : storeDate (units.take 10) <;>
    simp [storeColumn, hstored, fromCustomValueColumns, textOrNull]

theorem survives_finite {value : ℚ} (h : TellsNumber platform value) :
    Survives platform .number (.number (.finite value)) := by
  obtain ⟨decimal, hdecimal, hread⟩ := h
  have hstored : storeNumber platform (platform.numeral value) =
      some (platform.numericText decimal) := by
    unfold storeNumber
    rw [hdecimal]
    rfl
  refine ⟨⟨none, some (platform.numericText decimal), none, none⟩, ?_, ?_⟩
  · simp [storeColumns, toCustomValueColumns, storeColumn, JsValue.toText, JsNumber.toText, hstored]
  · simp [fromCustomValueColumns, hread]

theorem not_survives_infinite (negative : Bool) :
    ¬Survives platform .number (.number (.infinite negative)) := by
  intro ⟨row, hstored, _⟩
  have hnone := @parseDecimal_infinite platform negative
  simp [storeColumns, toCustomValueColumns, storeColumn, JsValue.toText, storeNumber, hnone] at hstored

theorem survives_boolean (value : Bool) : Survives platform .boolean (.boolean value) :=
  ⟨⟨none, none, none, some value⟩, rfl, rfl⟩

/-- A value that is accepted for a field comes back from its column when, and only when, the column
can hold it as it is. -/
theorem custom_value_survives_iff (platform : Platform) (type : DynamicFieldType) (input : JsValue)
    (selectOptions : Option (List Units)) (rules : Option FieldValidationRules)
    (hnumber : ∀ value, coerceDynamicInput platform type input = .number (.finite value) →
      TellsNumber platform value)
    (haccepted : validateDynamicValue platform type (coerceDynamicInput platform type input)
      selectOptions rules = true) :
    Survives platform type (coerceDynamicInput platform type input) ↔
      Holds type (coerceDynamicInput platform type input) := by
  generalize coerceDynamicInput platform type input = value at hnumber haccepted ⊢
  unfold validateDynamicValue at haccepted
  split at haccepted
  · next units => exact (survives_text_iff (.inl rfl) units).trans (storeText_eq_self_iff units)
  · next number =>
    cases number with
    | nan => simp at haccepted
    | infinite negative =>
      constructor
      · exact fun h => absurd h (not_survives_infinite negative)
      · rintro ⟨value, hvalue⟩
        cases hvalue
    | finite value =>
      exact ⟨fun _ => ⟨value, rfl⟩, fun _ => survives_finite (hnumber value rfl)⟩
  · next value => exact ⟨fun _ => trivial, fun _ => survives_boolean value⟩
  · next units => exact (survives_date_iff units).trans (storeDate_take_iff units)
  · next units => exact (survives_text_iff (.inr rfl) units).trans (storeText_eq_self_iff units)
  · cases haccepted

end Facts

section Samples

/-- A platform that knows the numbers and dates of the samples. -/
def plainPlatform : Platform where
  toLowerCase units := units
  toNumber units :=
    match parseDecimal units with
    | none => .nan
    | some value => .finite value
  numeral value := if value = 25 / 2 then plain "12.5" else plain "0"
  parsesDate units := units = plain "2024-05-01T10:00:00Z"
  matchesPattern _ _ := true
  numericText value := if value = 25 / 2 then plain "12.5" else plain "0"

def upToTwenty : FieldValidationRules := ⟨none, some (.finite 20), none, none, none⟩

theorem custom_value_survives_iff_number :
    Survives plainPlatform .number (coerceDynamicInput plainPlatform .number (.text (plain "12.5"))) ↔
      Holds .number (coerceDynamicInput plainPlatform .number (.text (plain "12.5"))) := by
  have hvalue : coerceDynamicInput plainPlatform .number (.text (plain "12.5")) =
      .number (.finite (25 / 2)) := by decide +kernel
  refine custom_value_survives_iff plainPlatform .number (.text (plain "12.5")) none (some upToTwenty)
    (fun value hsame => ?_) (by decide +kernel)
  rw [hvalue] at hsame
  cases hsame
  exact ⟨25 / 2, by decide +kernel, by decide +kernel⟩

/-- A date with its time of day is accepted, and cannot come back. -/
theorem timestamp_does_not_survive :
    ¬∀ (platform : Platform) (type : DynamicFieldType) (input : JsValue)
      (selectOptions : Option (List Units)) (rules : Option FieldValidationRules),
      (∀ value, coerceDynamicInput platform type input = .number (.finite value) →
        TellsNumber platform value) →
      validateDynamicValue platform type (coerceDynamicInput platform type input)
        selectOptions rules = true →
      Survives platform type (coerceDynamicInput platform type input) := by
  intro h
  have hvalue : coerceDynamicInput plainPlatform .date (.text (plain "2024-05-01T10:00:00Z")) =
      .text (plain "2024-05-01T10:00:00Z") := by decide +kernel
  have hsurvives := h plainPlatform .date (.text (plain "2024-05-01T10:00:00Z")) none none
    (fun value hsame => by rw [hvalue] at hsame; cases hsame) (by decide +kernel)
  rw [hvalue, survives_date_iff] at hsurvives
  exact absurd hsurvives (by decide +kernel)

end Samples

end InternalControl.CustomValues
