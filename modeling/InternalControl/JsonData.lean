import InternalControl.CodeUnits

/-!
# Data read from JSON

What reading a JSON text gives. An object has its own fields only; a field is looked up by
its name.
-/

namespace InternalControl

open CodeUnits

/-- A value that a JSON text may stand for. -/
inductive JsonData where
  | null
  | bool (value : Bool)
  | number (value : ℚ)
  /-- A numeral too large for a number. -/
  | notFinite
  | string (value : Units)
  | array (items : List JsonData)
  | object (fields : List (Units × JsonData))

namespace JsonData

/-- The fields of an object. -/
abbrev Fields := List (Units × JsonData)

/-- The value of a field. -/
def get? (fields : Fields) (name : String) : Option JsonData :=
  (fields.find? fun field => field.1 = plain name).map Prod.snd

/-- The text of a field, when it is a text. -/
def text? (fields : Fields) (name : String) : Option Units :=
  match get? fields name with
  | some (string value) => some value
  | _ => none

/-- The kind an object says it is. -/
def typeOf (fields : Fields) : Option Units := text? fields "type"

/-- The object says that it is of the kind. -/
def isType (fields : Fields) (kind : String) : Bool := typeOf fields = some (plain kind)

/-- An object of a kind, with other fields. -/
def ofType (kind : String) (fields : Fields) : JsonData :=
  object ((plain "type", string (plain kind)) :: fields)

theorem typeOf_cons (kind : Units) (fields : Fields) :
    typeOf ((plain "type", string kind) :: fields) = some kind := by
  simp [typeOf, text?, get?]

theorem typeOf_of_isType {fields : Fields} {kind : String} (h : isType fields kind = true) :
    typeOf fields = some (plain kind) := of_decide_eq_true h

end JsonData

/-- What is wrong with a part of a value, and the path to it. -/
structure JsonIssue where
  field : Units
  message : String
  deriving DecidableEq

namespace JsonData

/-- The path to a field of an object. -/
def fieldPath (path name : Units) : Units := path ++ plain "." ++ name

/-- The path to an item of an array. -/
def itemPath (path : Units) (index : ℕ) : Units := path ++ plain "[" ++ plain (Nat.repr index) ++ plain "]"

end JsonData

end InternalControl
