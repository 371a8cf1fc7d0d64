import Mathlib.Data.List.Sort
import Mathlib.Data.String.Basic
import InternalControl.Text

/-!
# JSON values and their text

Plain script values, what survives writing them as JSON and reading them
back, the order of object keys, and the text itself. The text of a plain
value determines the value, and sorting the keys forgets any earlier order.
-/

namespace InternalControl

/-- Digits, signs, the point and the exponent mark. -/
def numericChar (c : Char) : Bool := c.isDigit || c == '-' || c == '+' || c == '.' || c == 'e'

/-- The decimal text of a finite number: a nonempty run of numeric characters. -/
structure JsNumber where
  /-- What the number reads as. -/
  text : String
  /-- The text is not empty and has numeric characters only. -/
  numeric : text ≠ "" ∧ text.toList.all numericChar = true
  deriving DecidableEq

/-- A plain value of the modelled language. -/
inductive JsValue where
  | undefined
  | null
  | bool (value : Bool)
  | number (value : JsNumber)
  | notFinite
  | string (value : String)
  | date (iso : String)
  | array (items : List JsValue)
  | object (fields : List (String × JsValue))

namespace JsValue

/-- Whether a field with this value is left out of an object's text. -/
def isUndefined : JsValue → Bool
  | undefined => true
  | _ => false

@[simp] theorem isUndefined_null : null.isUndefined = false := rfl

@[simp] theorem isUndefined_number (n : JsNumber) : (number n).isUndefined = false := rfl

@[simp] theorem isUndefined_string (s : String) : (string s).isUndefined = false := rfl

@[simp] theorem isUndefined_object (fields : List (String × JsValue)) :
    (object fields).isUndefined = false := rfl

/-- The value of an object's field, if it has one. -/
def field? : JsValue → String → Option JsValue
  | object fields, key => (fields.find? fun entry => entry.1 = key).map Prod.snd
  | _, _ => none

/-- The text of an optional string. -/
def ofOption : Option String → JsValue
  | none => null
  | some s => string s

end JsValue

namespace JsonText

/-! ### Strings -/

/-- One lower-case hexadecimal digit. -/
def hexDigit (n : ℕ) : Char := if n < 10 then Char.ofNat (48 + n) else Char.ofNat (87 + n)

/-- A character inside a JSON string. -/
def escapeChar (c : Char) : List Char :=
  if c = '"' then ['\\', '"']
  else if c = '\\' then ['\\', '\\']
  else if c = '\x08' then ['\\', 'b']
  else if c = '\x0c' then ['\\', 'f']
  else if c = '\n' then ['\\', 'n']
  else if c = '\r' then ['\\', 'r']
  else if c = '\t' then ['\\', 't']
  else if c.toNat < 32 then ['\\', 'u', '0', '0', hexDigit (c.toNat / 16), hexDigit (c.toNat % 16)]
  else [c]

/-- The JSON text of a string. -/
def quote (s : String) : String := String.ofList ('"' :: s.toList.flatMap escapeChar ++ ['"'])

/-- The value of a hexadecimal digit. -/
def hexValue (c : Char) : ℕ := if c.isDigit then c.toNat - 48 else c.toNat - 87

/-- Read one character of a JSON string back. -/
def readChar : List Char → Option (Char × List Char)
  | '"' :: _ => none
  | '\\' :: '"' :: rest => some ('"', rest)
  | '\\' :: '\\' :: rest => some ('\\', rest)
  | '\\' :: 'b' :: rest => some ('\x08', rest)
  | '\\' :: 'f' :: rest => some ('\x0c', rest)
  | '\\' :: 'n' :: rest => some ('\n', rest)
  | '\\' :: 'r' :: rest => some ('\r', rest)
  | '\\' :: 't' :: rest => some ('\t', rest)
  | '\\' :: 'u' :: '0' :: '0' :: high :: low :: rest =>
    some (Char.ofNat (16 * hexValue high + hexValue low), rest)
  | c :: rest => some (c, rest)
  | [] => none

theorem hexValue_hexDigit : ∀ n < 16, hexValue (hexDigit n) = n := by decide

/-- Reading undoes escaping, whatever follows. -/
theorem readChar_escapeChar (c : Char) (rest : List Char) :
    readChar (escapeChar c ++ rest) = some (c, rest) := by
  unfold escapeChar
  split_ifs with h1 h2 h3 h4 h5 h6 h7 h8
  · subst h1; rfl
  · subst h2; rfl
  · subst h3; rfl
  · subst h4; rfl
  · subst h5; rfl
  · subst h6; rfl
  · subst h7; rfl
  · have hhigh := hexValue_hexDigit (c.toNat / 16) (by omega)
    have hlow := hexValue_hexDigit (c.toNat % 16) (by omega)
    have hc : 16 * (c.toNat / 16) + c.toNat % 16 = c.toNat := by omega
    simp only [List.cons_append, List.nil_append, readChar, hhigh, hlow, hc, Char.ofNat_toNat]
  · rw [List.singleton_append]
    unfold readChar
    split <;> simp_all

theorem escapeChar_ne_quote (c : Char) (xs ys : List Char) : escapeChar c ++ xs ≠ '"' :: ys := by
  intro h
  have hread := readChar_escapeChar c xs
  rw [h] at hread
  simp [readChar] at hread

/-- The characters of a JSON string up to its closing quote determine it. -/
theorem escape_append_inj {cs ds xs ys : List Char}
    (h : cs.flatMap escapeChar ++ '"' :: xs = ds.flatMap escapeChar ++ '"' :: ys) :
    cs = ds ∧ xs = ys := by
  induction cs generalizing ds with
  | nil =>
    cases ds with
    | nil => simpa using h
    | cons d ds =>
      rw [List.flatMap_cons, List.append_assoc] at h
      exact absurd h.symm (escapeChar_ne_quote d _ _)
  | cons c cs ih =>
    cases ds with
    | nil =>
      rw [List.flatMap_cons, List.append_assoc] at h
      exact absurd h (escapeChar_ne_quote c _ _)
    | cons d ds =>
      rw [List.flatMap_cons, List.flatMap_cons, List.append_assoc, List.append_assoc] at h
      have hread := readChar_escapeChar c (cs.flatMap escapeChar ++ '"' :: xs)
      rw [h, readChar_escapeChar, Option.some.injEq, Prod.mk.injEq] at hread
      obtain ⟨hds, hrest⟩ := ih hread.2.symm
      exact ⟨by rw [hread.1, hds], hrest⟩

theorem quote_append_inj {s t : String} {xs ys : List Char}
    (h : (quote s).toList ++ xs = (quote t).toList ++ ys) : s = t ∧ xs = ys := by
  simp only [quote, String.toList_ofList, List.cons_append, List.append_assoc,
    List.nil_append, List.cons.injEq, true_and] at h
  obtain ⟨hchars, hrest⟩ := escape_append_inj h
  exact ⟨String.toList_injective hchars, hrest⟩

/-! ### Values -/

/-- Texts with commas between them. -/
def joined : List String → String
  | [] => ""
  | [text] => text
  | text :: next :: rest => text ++ "," ++ joined (next :: rest)

mutual

/-- The JSON text of a value; an undefined one reads as an array item does. -/
def stringify : JsValue → String
  | .undefined => "null"
  | .null => "null"
  | .bool value => if value then "true" else "false"
  | .number value => value.text
  | .notFinite => "null"
  | .string value => quote value
  | .date iso => quote iso
  | .array items => "[" ++ joined (stringifyItems items) ++ "]"
  | .object fields => "\x7b" ++ joined (stringifyFields fields) ++ "\x7d"

/-- The texts of the items of an array. -/
def stringifyItems : List JsValue → List String
  | [] => []
  | value :: rest => stringify value :: stringifyItems rest

/-- The texts of the fields of an object, the undefined ones left out. -/
def stringifyFields : List (String × JsValue) → List String
  | [] => []
  | (key, value) :: rest =>
    if value.isUndefined then stringifyFields rest
    else (quote key ++ ":" ++ stringify value) :: stringifyFields rest

end

mutual

/-- What reading the JSON text of a value gives back. -/
def reread : JsValue → JsValue
  | .undefined => .null
  | .null => .null
  | .bool value => .bool value
  | .number value => .number value
  | .notFinite => .null
  | .string value => .string value
  | .date iso => .string iso
  | .array items => .array (rereadItems items)
  | .object fields => .object (rereadFields fields)

/-- The items of an array, read back. -/
def rereadItems : List JsValue → List JsValue
  | [] => []
  | value :: rest => reread value :: rereadItems rest

/-- The fields of an object, read back without the undefined ones. -/
def rereadFields : List (String × JsValue) → List (String × JsValue)
  | [] => []
  | (key, value) :: rest =>
    if value.isUndefined then rereadFields rest else (key, reread value) :: rereadFields rest

end

mutual

/-- The same value with the keys of every object in the given order. -/
def arrange (le : String → String → Bool) : JsValue → JsValue
  | .array items => .array (arrangeItems le items)
  | .object fields =>
    .object ((arrangeFields le fields).insertionSort fun a b => le a.1 b.1 = true)
  | other => other

/-- The items of an array, each arranged. -/
def arrangeItems (le : String → String → Bool) : List JsValue → List JsValue
  | [] => []
  | value :: rest => arrange le value :: arrangeItems le rest

/-- The fields of an object in place, each value arranged. -/
def arrangeFields (le : String → String → Bool) : List (String × JsValue) → List (String × JsValue)
  | [] => []
  | (key, value) :: rest => (key, arrange le value) :: arrangeFields le rest

end

mutual

/-- What reading JSON can give: nothing undefined, no date, only finite numbers. -/
def Plain : JsValue → Prop
  | .undefined => False
  | .notFinite => False
  | .date _ => False
  | .array items => PlainItems items
  | .object fields => PlainFields fields
  | _ => True

/-- Every item is plain. -/
def PlainItems : List JsValue → Prop
  | [] => True
  | value :: rest => Plain value ∧ PlainItems rest

/-- Every field's value is plain. -/
def PlainFields : List (String × JsValue) → Prop
  | [] => True
  | (_, value) :: rest => Plain value ∧ PlainFields rest

end

mutual

/-- No object in the value has a key twice. -/
def Distinct : JsValue → Prop
  | .array items => DistinctItems items
  | .object fields => (fields.map Prod.fst).Nodup ∧ DistinctFields fields
  | _ => True

/-- Every item has distinct keys. -/
def DistinctItems : List JsValue → Prop
  | [] => True
  | value :: rest => Distinct value ∧ DistinctItems rest

/-- Every field's value has distinct keys. -/
def DistinctFields : List (String × JsValue) → Prop
  | [] => True
  | (_, value) :: rest => Distinct value ∧ DistinctFields rest

end

theorem plainFields_iff (fields : List (String × JsValue)) :
    PlainFields fields ↔ ∀ entry ∈ fields, Plain entry.2 := by
  induction fields with
  | nil => simp [PlainFields]
  | cons entry rest ih => simp [PlainFields, ih]

theorem distinctFields_iff (fields : List (String × JsValue)) :
    DistinctFields fields ↔ ∀ entry ∈ fields, Distinct entry.2 := by
  induction fields with
  | nil => simp [DistinctFields]
  | cons entry rest ih => simp [DistinctFields, ih]

theorem arrangeFields_eq_map (le : String → String → Bool) (fields : List (String × JsValue)) :
    arrangeFields le fields = fields.map fun entry => (entry.1, arrange le entry.2) := by
  induction fields with
  | nil => rfl
  | cons entry rest ih => rw [arrangeFields, ih, List.map_cons]

/-- Only an undefined value counts as one after reading back or arranging. -/
theorem Plain.isUndefined {value : JsValue} (h : Plain value) : value.isUndefined = false := by
  cases value <;> simp [Plain, JsValue.isUndefined] at h ⊢

/-! ### Reading back -/

mutual

theorem plain_reread : ∀ value : JsValue, Plain (reread value)
  | .undefined => by simp [reread, Plain]
  | .null => by simp [reread, Plain]
  | .bool _ => by simp [reread, Plain]
  | .number _ => by simp [reread, Plain]
  | .notFinite => by simp [reread, Plain]
  | .string _ => by simp [reread, Plain]
  | .date _ => by simp [reread, Plain]
  | .array items => by
    rw [reread, Plain]
    exact plainItems_reread items
  | .object fields => by
    rw [reread, Plain]
    exact plainFields_reread fields

theorem plainItems_reread : ∀ items : List JsValue, PlainItems (rereadItems items)
  | [] => trivial
  | value :: rest => ⟨plain_reread value, plainItems_reread rest⟩

theorem plainFields_reread : ∀ fields : List (String × JsValue), PlainFields (rereadFields fields)
  | [] => trivial
  | (key, value) :: rest => by
    rw [rereadFields]
    split
    · exact plainFields_reread rest
    · exact ⟨plain_reread value, plainFields_reread rest⟩

end

mutual

/-- Reading a plain value back gives the value. -/
theorem Plain.reread_eq : ∀ {value : JsValue}, Plain value → reread value = value
  | .undefined, h => by simp [Plain] at h
  | .null, _ => rfl
  | .bool _, _ => rfl
  | .number _, _ => rfl
  | .notFinite, h => by simp [Plain] at h
  | .string _, _ => rfl
  | .date _, h => by simp [Plain] at h
  | .array items, h => by rw [reread, PlainItems.reread_eq h]
  | .object fields, h => by rw [reread, PlainFields.reread_eq h]

theorem PlainItems.reread_eq : ∀ {items : List JsValue}, PlainItems items →
    rereadItems items = items
  | [], _ => rfl
  | value :: rest, h => by rw [rereadItems, Plain.reread_eq h.1, PlainItems.reread_eq h.2]

theorem PlainFields.reread_eq : ∀ {fields : List (String × JsValue)}, PlainFields fields →
    rereadFields fields = fields
  | [], _ => rfl
  | (key, value) :: rest, h => by
    rw [rereadFields, if_neg (by simp [h.1.isUndefined]), Plain.reread_eq h.1,
      PlainFields.reread_eq h.2]

end

mutual

/-- Reading back leaves the text as it is. -/
theorem stringify_reread : ∀ value : JsValue, stringify (reread value) = stringify value
  | .undefined => rfl
  | .null => rfl
  | .bool _ => rfl
  | .number _ => rfl
  | .notFinite => rfl
  | .string _ => rfl
  | .date _ => rfl
  | .array items => by rw [reread, stringify, stringify, stringifyItems_reread items]
  | .object fields => by rw [reread, stringify, stringify, stringifyFields_reread fields]

theorem stringifyItems_reread : ∀ items : List JsValue,
    stringifyItems (rereadItems items) = stringifyItems items
  | [] => rfl
  | value :: rest => by
    rw [rereadItems, stringifyItems, stringifyItems, stringify_reread value,
      stringifyItems_reread rest]

theorem stringifyFields_reread : ∀ fields : List (String × JsValue),
    stringifyFields (rereadFields fields) = stringifyFields fields
  | [] => rfl
  | (key, value) :: rest => by
    rw [rereadFields, stringifyFields]
    split
    · exact stringifyFields_reread rest
    · rw [stringifyFields, if_neg (by simp [(plain_reread value).isUndefined]),
        stringify_reread value, stringifyFields_reread rest]

end

/-- Fields that are all defined are read back one by one. -/
theorem rereadFields_eq_map {fields : List (String × JsValue)}
    (h : ∀ entry ∈ fields, entry.2.isUndefined = false) :
    rereadFields fields = fields.map fun entry => (entry.1, reread entry.2) := by
  induction fields with
  | nil => rfl
  | cons entry rest ih =>
    rw [rereadFields, if_neg (by simp [h entry List.mem_cons_self]), List.map_cons,
      ih fun other hother => h other (List.mem_cons_of_mem _ hother)]

theorem rereadFields_keys (fields : List (String × JsValue)) :
    List.Sublist ((rereadFields fields).map Prod.fst) (fields.map Prod.fst) := by
  induction fields with
  | nil => exact List.Sublist.refl _
  | cons entry rest ih =>
    obtain ⟨key, value⟩ := entry
    rw [rereadFields]
    split
    · exact ih.cons _
    · exact ih.cons_cons _

mutual

/-- Reading back repeats no key. -/
theorem Distinct.reread : ∀ {value : JsValue}, Distinct value → Distinct (reread value)
  | .undefined, _ => trivial
  | .null, _ => trivial
  | .bool _, _ => trivial
  | .number _, _ => trivial
  | .notFinite, _ => trivial
  | .string _, _ => trivial
  | .date _, _ => trivial
  | .array items, h => by
    rw [JsonText.reread, Distinct]
    exact DistinctItems.reread h
  | .object fields, h => by
    rw [JsonText.reread, Distinct]
    exact ⟨h.1.sublist (rereadFields_keys fields), DistinctFields.reread h.2⟩

theorem DistinctItems.reread : ∀ {items : List JsValue}, DistinctItems items →
    DistinctItems (rereadItems items)
  | [], _ => trivial
  | _ :: _, h => ⟨Distinct.reread h.1, DistinctItems.reread h.2⟩

theorem DistinctFields.reread : ∀ {fields : List (String × JsValue)}, DistinctFields fields →
    DistinctFields (rereadFields fields)
  | [], _ => trivial
  | (key, value) :: rest, h => by
    rw [rereadFields]
    split
    · exact DistinctFields.reread h.2
    · exact ⟨Distinct.reread h.1, DistinctFields.reread h.2⟩

end

/-! ### Key order -/

mutual

theorem Plain.arrange (le : String → String → Bool) : ∀ {value : JsValue}, Plain value →
    Plain (arrange le value)
  | .undefined, h => h
  | .null, _ => trivial
  | .bool _, _ => trivial
  | .number _, _ => trivial
  | .notFinite, h => h
  | .string _, _ => trivial
  | .date _, h => h
  | .array items, h => by
    rw [JsonText.arrange, Plain]
    exact PlainItems.arrange le h
  | .object fields, h => by
    rw [JsonText.arrange, Plain, plainFields_iff]
    intro entry hentry
    rw [List.mem_insertionSort] at hentry
    exact (plainFields_iff _).mp (PlainFields.arrange le h) entry hentry

theorem PlainItems.arrange (le : String → String → Bool) : ∀ {items : List JsValue},
    PlainItems items → PlainItems (arrangeItems le items)
  | [], _ => trivial
  | _ :: _, h => ⟨Plain.arrange le h.1, PlainItems.arrange le h.2⟩

theorem PlainFields.arrange (le : String → String → Bool) :
    ∀ {fields : List (String × JsValue)}, PlainFields fields →
      PlainFields (arrangeFields le fields)
  | [], _ => trivial
  | (_, _) :: _, h => ⟨Plain.arrange le h.1, PlainFields.arrange le h.2⟩

end

theorem arrangeFields_keys (le : String → String → Bool) (fields : List (String × JsValue)) :
    (arrangeFields le fields).map Prod.fst = fields.map Prod.fst := by
  rw [arrangeFields_eq_map, List.map_map]
  rfl

mutual

theorem Distinct.arrange (le : String → String → Bool) : ∀ {value : JsValue}, Distinct value →
    Distinct (arrange le value)
  | .undefined, _ => trivial
  | .null, _ => trivial
  | .bool _, _ => trivial
  | .number _, _ => trivial
  | .notFinite, _ => trivial
  | .string _, _ => trivial
  | .date _, _ => trivial
  | .array items, h => by
    rw [JsonText.arrange, Distinct]
    exact DistinctItems.arrange le h
  | .object fields, h => by
    have hsort := List.perm_insertionSort (fun a b : String × JsValue => le a.1 b.1 = true)
      (arrangeFields le fields)
    rw [JsonText.arrange, Distinct, distinctFields_iff]
    refine ⟨?_, fun entry hentry => ?_⟩
    · rw [(hsort.map Prod.fst).nodup_iff, arrangeFields_keys]
      exact h.1
    · rw [List.mem_insertionSort] at hentry
      exact (distinctFields_iff _).mp (DistinctFields.arrange le h.2) entry hentry

theorem DistinctItems.arrange (le : String → String → Bool) : ∀ {items : List JsValue},
    DistinctItems items → DistinctItems (arrangeItems le items)
  | [], _ => trivial
  | _ :: _, h => ⟨Distinct.arrange le h.1, DistinctItems.arrange le h.2⟩

theorem DistinctFields.arrange (le : String → String → Bool) :
    ∀ {fields : List (String × JsValue)}, DistinctFields fields →
      DistinctFields (arrangeFields le fields)
  | [], _ => trivial
  | (_, _) :: _, h => ⟨Distinct.arrange le h.1, DistinctFields.arrange le h.2⟩

end

section KeyOrder

/-- A key order in which any two keys compare, both ways only when equal. -/
structure KeyOrder (le : String → String → Bool) : Prop where
  /-- Any two keys compare. -/
  total : ∀ a b, le a b = true ∨ le b a = true
  /-- Comparisons chain. -/
  trans : ∀ {a b c}, le a b = true → le b c = true → le a c = true
  /-- Keys that compare both ways are equal. -/
  antisymm : ∀ {a b}, le a b = true → le b a = true → a = b

/-- The order of the relational operators on strings. -/
theorem keyOrder_unitsLe : KeyOrder Text.unitsLe where
  total := Text.unitsLe_total
  trans := Text.unitsLe_trans
  antisymm := Text.unitsLe_antisymm

variable {le : String → String → Bool}

/-- Entries with distinct keys have one sorted list, however they are listed. -/
theorem insertionSort_eq_of_perm (hle : KeyOrder le) {xs ys : List (String × JsValue)}
    (hperm : xs.Perm ys) (hkeys : (xs.map Prod.fst).Nodup) :
    xs.insertionSort (fun a b => le a.1 b.1 = true) =
      ys.insertionSort (fun a b => le a.1 b.1 = true) := by
  have : Std.Total fun a b : String × JsValue => le a.1 b.1 = true := ⟨fun a b => hle.total a.1 b.1⟩
  have : IsTrans (String × JsValue) fun a b => le a.1 b.1 = true := ⟨fun _ _ _ => hle.trans⟩
  have hx := List.perm_insertionSort (fun a b : String × JsValue => le a.1 b.1 = true) xs
  have hy := List.perm_insertionSort (fun a b : String × JsValue => le a.1 b.1 = true) ys
  refine List.Perm.eq_of_pairwise ?_ (List.pairwise_insertionSort _ xs)
    (List.pairwise_insertionSort _ ys) (hx.trans (hperm.trans hy.symm))
  intro a b ha hb hab hba
  rw [List.mem_insertionSort] at ha hb
  exact List.inj_on_of_nodup_map hkeys ha (hperm.mem_iff.mpr hb) (hle.antisymm hab hba)

theorem arrangeFields_insertionSort (le le' : String → String → Bool)
    (fields : List (String × JsValue)) :
    arrangeFields le (fields.insertionSort fun a b => le' a.1 b.1 = true) =
      (arrangeFields le fields).insertionSort fun a b => le' a.1 b.1 = true := by
  rw [arrangeFields_eq_map, arrangeFields_eq_map]
  exact List.map_insertionSort _ _ _ _ fun _ _ _ _ => Iff.rfl

mutual

/-- Putting the keys in order forgets the order they were in. -/
theorem arrange_arrange (hle : KeyOrder le) (le' : String → String → Bool) :
    ∀ {value : JsValue}, Distinct value → arrange le (arrange le' value) = arrange le value
  | .undefined, _ => rfl
  | .null, _ => rfl
  | .bool _, _ => rfl
  | .number _, _ => rfl
  | .notFinite, _ => rfl
  | .string _, _ => rfl
  | .date _, _ => rfl
  | .array items, h => by
    rw [arrange, arrange, arrange, arrangeItems_arrangeItems hle le' h]
  | .object fields, h => by
    rw [arrange, arrange, arrange, arrangeFields_insertionSort,
      arrangeFields_arrangeFields hle le' h.2]
    congr 1
    refine insertionSort_eq_of_perm hle (List.perm_insertionSort _ _) ?_
    have hperm := List.perm_insertionSort (fun a b : String × JsValue => le' a.1 b.1 = true)
      (arrangeFields le fields)
    rw [(hperm.map Prod.fst).nodup_iff, arrangeFields_keys]
    exact h.1

theorem arrangeItems_arrangeItems (hle : KeyOrder le) (le' : String → String → Bool) :
    ∀ {items : List JsValue}, DistinctItems items →
      arrangeItems le (arrangeItems le' items) = arrangeItems le items
  | [], _ => rfl
  | _ :: _, h => by
    rw [arrangeItems, arrangeItems, arrangeItems, arrange_arrange hle le' h.1,
      arrangeItems_arrangeItems hle le' h.2]

theorem arrangeFields_arrangeFields (hle : KeyOrder le) (le' : String → String → Bool) :
    ∀ {fields : List (String × JsValue)}, DistinctFields fields →
      arrangeFields le (arrangeFields le' fields) = arrangeFields le fields
  | [], _ => rfl
  | (_, _) :: _, h => by
    rw [arrangeFields, arrangeFields, arrangeFields, arrange_arrange hle le' h.1,
      arrangeFields_arrangeFields hle le' h.2]

end

/-- Lists of entries with the same keys in the same places, sorted alike, are the same. -/
theorem eq_of_insertionSort_eq {xs ys : List (String × JsValue)}
    (hkeys : xs.map Prod.fst = ys.map Prod.fst) (hnodup : (xs.map Prod.fst).Nodup)
    (h : xs.insertionSort (fun a b => le a.1 b.1 = true) =
      ys.insertionSort fun a b => le a.1 b.1 = true) : xs = ys := by
  have hperm : xs.Perm ys := (List.perm_insertionSort _ xs).symm.trans
    (h ▸ List.perm_insertionSort _ ys)
  have hlength : xs.length = ys.length := hperm.length_eq
  refine List.ext_getElem hlength fun i hx hy => ?_
  have hkey : xs[i].1 = ys[i].1 := by
    have hi := List.getElem_of_eq hkeys (by simpa using hx : i < (xs.map Prod.fst).length)
    simpa using hi
  exact List.inj_on_of_nodup_map hnodup (List.getElem_mem hx)
    (hperm.mem_iff.mpr (List.getElem_mem hy)) hkey

end KeyOrder

section Jsonb

/-- The order in which the database keeps the keys of an object: shorter first. -/
def jsonbKeyLe (a b : String) : Bool :=
  decide (a.utf8ByteSize < b.utf8ByteSize ∨ a.utf8ByteSize = b.utf8ByteSize ∧ a ≤ b)

theorem keyOrder_jsonbKeyLe : KeyOrder jsonbKeyLe where
  total a b := by
    simp only [jsonbKeyLe, decide_eq_true_eq]
    rcases Nat.lt_trichotomy a.utf8ByteSize b.utf8ByteSize with h | h | h
    · exact Or.inl (Or.inl h)
    · rcases le_total a b with hab | hba
      · exact Or.inl (Or.inr ⟨h, hab⟩)
      · exact Or.inr (Or.inr ⟨h.symm, hba⟩)
    · exact Or.inr (Or.inl h)
  trans := by
    intro a b c hab hbc
    simp only [jsonbKeyLe, decide_eq_true_eq] at *
    rcases hab with hab | ⟨hab, hab'⟩ <;> rcases hbc with hbc | ⟨hbc, hbc'⟩
    · exact Or.inl (hab.trans hbc)
    · exact Or.inl (hbc ▸ hab)
    · exact Or.inl (hab ▸ hbc)
    · exact Or.inr ⟨hab.trans hbc, hab'.trans hbc'⟩
  antisymm := by
    intro a b hab hba
    simp only [jsonbKeyLe, decide_eq_true_eq] at *
    rcases hab with hab | ⟨_, hab⟩ <;> rcases hba with hba | ⟨_, hba⟩
    · omega
    · omega
    · omega
    · exact le_antisymm hab hba

/-- A value as a jsonb column keeps it. -/
def toJsonb (value : JsValue) : JsValue := arrange jsonbKeyLe (reread value)

theorem plain_toJsonb (value : JsValue) : Plain (toJsonb value) :=
  Plain.arrange jsonbKeyLe (plain_reread value)

theorem Distinct.toJsonb {value : JsValue} (h : Distinct value) : Distinct (toJsonb value) :=
  Distinct.arrange jsonbKeyLe (Distinct.reread h)

/-- A defined field of an object is found in the stored object. -/
theorem field?_toJsonb {fields : List (String × JsValue)} (hnodup : (fields.map Prod.fst).Nodup)
    {key : String} {value : JsValue} (h : (key, value) ∈ fields)
    (hdefined : value.isUndefined = false) :
    (toJsonb (.object fields)).field? key = some (toJsonb value) := by
  have hread : (key, reread value) ∈ rereadFields fields := by
    clear hnodup
    induction fields with
    | nil => cases h
    | cons entry rest ih =>
      rw [rereadFields]
      rcases List.mem_cons.mp h with rfl | h
      · rw [if_neg (by simp [hdefined])]
        exact List.mem_cons_self
      · split
        · exact ih h
        · exact List.mem_cons_of_mem _ (ih h)
  have hmem : (key, toJsonb value) ∈ (arrangeFields jsonbKeyLe (rereadFields fields)).insertionSort
      fun a b => jsonbKeyLe a.1 b.1 = true := by
    rw [List.mem_insertionSort, arrangeFields_eq_map]
    exact List.mem_map.mpr ⟨_, hread, rfl⟩
  have hperm := List.perm_insertionSort (fun a b : String × JsValue => jsonbKeyLe a.1 b.1 = true)
    (arrangeFields jsonbKeyLe (rereadFields fields))
  have hkeys := (hperm.map Prod.fst).nodup_iff.mpr (by
    rw [arrangeFields_keys]
    exact hnodup.sublist (rereadFields_keys fields))
  rw [toJsonb, reread, arrange, JsValue.field?]
  generalize (arrangeFields jsonbKeyLe (rereadFields fields)).insertionSort
    (fun a b => jsonbKeyLe a.1 b.1 = true) = sorted at hmem hkeys
  obtain ⟨found, hfound⟩ : ∃ found, sorted.find? (fun entry => entry.1 = key) = some found :=
    Option.isSome_iff_exists.mp (List.find?_isSome.mpr ⟨_, hmem, by simp⟩)
  have hkey := List.find?_some hfound
  simp only [decide_eq_true_eq] at hkey
  have hsame := List.inj_on_of_nodup_map hkeys (List.mem_of_find?_eq_some hfound) hmem hkey
  rw [hfound, hsame]
  rfl

/-- What sorting by another order makes of a value is the same after storing it. -/
theorem arrange_reread_toJsonb {le : String → String → Bool} (hle : KeyOrder le) {value : JsValue}
    (h : Distinct value) :
    arrange le (reread (toJsonb value)) = arrange le (reread value) := by
  rw [(plain_toJsonb value).reread_eq, toJsonb, arrange_arrange hle _ (Distinct.reread h)]

/-- A stored value is determined by what sorting its keys gives. -/
theorem eq_of_arrange_eq {le : String → String → Bool} {v w : JsValue}
    (hv : toJsonb v = v) (hw : toJsonb w = w) (hdv : Distinct v) (hdw : Distinct w)
    (h : arrange le (reread v) = arrange le (reread w)) : v = w := by
  have hpv : reread v = v := (hv ▸ plain_toJsonb v : Plain v).reread_eq
  have hpw : reread w = w := (hw ▸ plain_toJsonb w : Plain w).reread_eq
  rw [hpv, hpw] at h
  rw [toJsonb, hpv] at hv
  rw [toJsonb, hpw] at hw
  rw [← hv, ← hw, ← arrange_arrange keyOrder_jsonbKeyLe le hdv,
    ← arrange_arrange keyOrder_jsonbKeyLe le hdw, h]

end Jsonb

/-! ### The text determines the value -/

/-- Which kind of value begins with a character. -/
def lead (c : Char) : ℕ :=
  if c = 'n' then 0
  else if c = 't' || c = 'f' then 1
  else if numericChar c then 2
  else if c = '"' then 3
  else if c = '[' then 4
  else if c = '{' then 5
  else 6

/-- The kind of a plain value, as its first character shows it. -/
def kind : JsValue → ℕ
  | .bool _ => 1
  | .number _ => 2
  | .string _ => 3
  | .array _ => 4
  | .object _ => 5
  | _ => 0

theorem lead_of_numericChar {c : Char} (h : numericChar c = true) : lead c = 2 := by
  have hn : c ≠ 'n' := by rintro rfl; exact absurd h (by decide)
  have ht : c ≠ 't' := by rintro rfl; exact absurd h (by decide)
  have hf : c ≠ 'f' := by rintro rfl; exact absurd h (by decide)
  simp [lead, hn, ht, hf, h]

/-- The text of a plain value begins with a character of its kind. -/
theorem Plain.head {value : JsValue} (h : Plain value) :
    ∃ c rest, (stringify value).toList = c :: rest ∧ lead c = kind value := by
  cases value with
  | undefined => simp [Plain] at h
  | notFinite => simp [Plain] at h
  | date iso => simp [Plain] at h
  | null => exact ⟨'n', ['u', 'l', 'l'], by decide, by decide⟩
  | bool b =>
    cases b
    · exact ⟨'f', ['a', 'l', 's', 'e'], by decide, by decide⟩
    · exact ⟨'t', ['r', 'u', 'e'], by decide, by decide⟩
  | number n =>
    cases hn : n.text.toList with
    | nil => exact absurd (String.toList_injective hn) n.numeric.1
    | cons c rest =>
      have hall := n.numeric.2
      rw [hn, List.all_cons, Bool.and_eq_true] at hall
      exact ⟨c, rest, hn, lead_of_numericChar hall.1⟩
  | string s => exact ⟨'"', _, by rw [stringify, quote, String.toList_ofList]; rfl, by simp only [kind]; decide⟩
  | array items =>
    exact ⟨'[', _, by simp only [stringify, String.toList_append]; rfl, by simp only [kind]; decide⟩
  | object fields =>
    exact ⟨'{', _, by simp only [stringify, String.toList_append]; rfl, by simp only [kind]; decide⟩

/-- Texts that continue differently tell the kinds of their values apart. -/
theorem Plain.kind_eq {v w : JsValue} (hv : Plain v) (hw : Plain w) {xs ys : List Char}
    (h : (stringify v).toList ++ xs = (stringify w).toList ++ ys) : kind v = kind w := by
  obtain ⟨c, cs, hc, hkv⟩ := hv.head
  obtain ⟨d, ds, hd, hkw⟩ := hw.head
  rw [hc, hd, List.cons_append, List.cons_append, List.cons.injEq] at h
  rw [← hkv, ← hkw, h.1]

/-- What may follow a value: nothing, or a character no number goes on with. -/
def Ends (xs : List Char) : Prop := ∀ c rest, xs = c :: rest → numericChar c = false

theorem ends_nil : Ends [] := by
  intro c rest h
  cases h

theorem ends_cons {c : Char} (h : numericChar c = false) (rest : List Char) : Ends (c :: rest) := by
  intro d rest' hd
  cases hd
  exact h

/-- Two runs of numeric characters that end where they must are the same run. -/
theorem numeric_append_inj {cs ds xs ys : List Char} (hcs : cs.all numericChar = true)
    (hds : ds.all numericChar = true) (hxs : Ends xs) (hys : Ends ys) (h : cs ++ xs = ds ++ ys) :
    cs = ds ∧ xs = ys := by
  induction cs generalizing ds with
  | nil =>
    cases ds with
    | nil => exact ⟨rfl, h⟩
    | cons d ds =>
      rw [List.all_cons, Bool.and_eq_true] at hds
      have hfree := hxs d (ds ++ ys) h
      rw [hds.1] at hfree
      cases hfree
  | cons c cs ih =>
    rw [List.all_cons, Bool.and_eq_true] at hcs
    cases ds with
    | nil =>
      have hfree := hys c (cs ++ xs) h.symm
      rw [hcs.1] at hfree
      cases hfree
    | cons d ds =>
      rw [List.all_cons, Bool.and_eq_true] at hds
      rw [List.cons_append, List.cons_append, List.cons.injEq] at h
      obtain ⟨hrun, hrest⟩ := ih hcs.2 hds.2 h.2
      exact ⟨by rw [h.1, hrun], hrest⟩

/-- What follows the first of several joined texts. -/
def joinedRest : List String → List Char
  | [] => []
  | text :: rest => ',' :: (joined (text :: rest)).toList

theorem joined_cons (text : String) (rest : List String) :
    (joined (text :: rest)).toList = text.toList ++ joinedRest rest := by
  cases rest with
  | nil => simp [joined, joinedRest]
  | cons next rest => simp [joined, joinedRest]

theorem ends_joinedRest {c : Char} (hc : numericChar c = false) (texts : List String)
    (xs : List Char) : Ends (joinedRest texts ++ c :: xs) := by
  cases texts with
  | nil => exact ends_cons hc xs
  | cons text rest => exact ends_cons (by decide) _

/-- No plain value begins as an array or an object ends. -/
theorem Plain.ne_close {value : JsValue} (h : Plain value) {c : Char} (hc : lead c = 6)
    {xs ys : List Char} : c :: xs ≠ (stringify value).toList ++ ys := by
  intro he
  obtain ⟨d, ds, hd, hk⟩ := h.head
  rw [hd, List.cons_append, List.cons.injEq] at he
  rw [← he.1, hc] at hk
  cases value <;> simp [kind] at hk

theorem stringifyFields_cons {key : String} {value : JsValue} (h : Plain value)
    (rest : List (String × JsValue)) : stringifyFields ((key, value) :: rest) =
      (quote key ++ ":" ++ stringify value) :: stringifyFields rest := by
  rw [stringifyFields, if_neg (by simp [h.isUndefined])]

mutual

/-- The text of a plain value, whatever follows it, determines the value. -/
theorem stringify_append_inj : ∀ (v w : JsValue), Plain v → Plain w →
    ∀ xs ys : List Char, Ends xs → Ends ys →
      (stringify v).toList ++ xs = (stringify w).toList ++ ys → v = w ∧ xs = ys
  | .undefined => by
    intro w hv
    simp [Plain] at hv
  | .notFinite => by
    intro w hv
    simp [Plain] at hv
  | .date _ => by
    intro w hv
    simp [Plain] at hv
  | .null => by
    intro w hv hw xs ys _ _ h
    have hkind := hv.kind_eq hw h
    cases w <;> simp [kind, Plain] at hkind hw
    exact ⟨rfl, List.append_cancel_left h⟩
  | .bool b => by
    intro w hv hw xs ys _ _ h
    have hkind := hv.kind_eq hw h
    cases w <;> simp [kind] at hkind
    next b' =>
      cases b <;> cases b' <;> simp [stringify] at h ⊢ <;> exact h
  | .number n => by
    intro w hv hw xs ys hxs hys h
    have hkind := hv.kind_eq hw h
    cases w <;> simp [kind] at hkind
    next n' =>
      obtain ⟨htext, hrest⟩ := numeric_append_inj n.numeric.2 n'.numeric.2 hxs hys h
      cases n
      cases n'
      cases String.toList_injective htext
      exact ⟨rfl, hrest⟩
  | .string s => by
    intro w hv hw xs ys _ _ h
    have hkind := hv.kind_eq hw h
    cases w <;> simp [kind] at hkind
    obtain ⟨rfl, hrest⟩ := quote_append_inj h
    exact ⟨rfl, hrest⟩
  | .array items => by
    intro w hv hw xs ys _ _ h
    have hkind := hv.kind_eq hw h
    cases w <;> simp [kind] at hkind
    simp only [stringify, String.toList_append, List.append_assoc] at h
    obtain ⟨rfl, hrest⟩ := stringifyItems_append_inj items _ hv hw _ _ (List.append_cancel_left h)
    exact ⟨rfl, hrest⟩
  | .object fields => by
    intro w hv hw xs ys _ _ h
    have hkind := hv.kind_eq hw h
    cases w <;> simp [kind] at hkind
    simp only [stringify, String.toList_append, List.append_assoc] at h
    obtain ⟨rfl, hrest⟩ := stringifyFields_append_inj fields _ hv hw _ _ (List.append_cancel_left h)
    exact ⟨rfl, hrest⟩

theorem stringifyItems_append_inj : ∀ vs ws : List JsValue, PlainItems vs →
    PlainItems ws → ∀ xs ys : List Char, (joined (stringifyItems vs)).toList ++ ']' :: xs =
      (joined (stringifyItems ws)).toList ++ ']' :: ys → vs = ws ∧ xs = ys
  | [] => by
    intro ws _ hw xs ys h
    cases ws with
    | nil => simpa [stringifyItems, joined] using h
    | cons w ws =>
      rw [stringifyItems, stringifyItems, joined_cons, List.append_assoc] at h
      exact absurd h (hw.1.ne_close (by decide))
  | v :: vs => by
    intro ws hv hw xs ys h
    cases ws with
    | nil =>
      rw [stringifyItems, stringifyItems, joined_cons, List.append_assoc] at h
      exact absurd h.symm (hv.1.ne_close (by decide))
    | cons w ws =>
      rw [stringifyItems, stringifyItems, joined_cons, joined_cons, List.append_assoc,
        List.append_assoc] at h
      obtain ⟨rfl, hrest⟩ := stringify_append_inj v _ hv.1 hw.1 _ _
        (ends_joinedRest (by decide) _ xs) (ends_joinedRest (by decide) _ ys) h
      obtain ⟨rfl, hxs⟩ := stringifyItemsRest_append_inj vs _ hv.2 hw.2 _ _ hrest
      exact ⟨rfl, hxs⟩

theorem stringifyItemsRest_append_inj : ∀ vs ws : List JsValue,
    PlainItems vs → PlainItems ws → ∀ xs ys : List Char,
      joinedRest (stringifyItems vs) ++ ']' :: xs = joinedRest (stringifyItems ws) ++ ']' :: ys →
        vs = ws ∧ xs = ys
  | [] => by
    intro ws _ _ xs ys h
    cases ws with
    | nil => simpa [stringifyItems, joinedRest] using h
    | cons w ws => simp [stringifyItems, joinedRest] at h
  | v :: vs => by
    intro ws hv hw xs ys h
    cases ws with
    | nil => simp [stringifyItems, joinedRest] at h
    | cons w ws =>
      rw [stringifyItems, stringifyItems, joinedRest, joinedRest, joined_cons, joined_cons,
        List.cons_append, List.cons_append, List.append_assoc, List.append_assoc] at h
      obtain ⟨rfl, hrest⟩ := stringify_append_inj v _ hv.1 hw.1 _ _
        (ends_joinedRest (by decide) _ xs) (ends_joinedRest (by decide) _ ys) (List.cons.inj h).2
      obtain ⟨rfl, hxs⟩ := stringifyItemsRest_append_inj vs _ hv.2 hw.2 _ _ hrest
      exact ⟨rfl, hxs⟩

theorem stringifyFields_append_inj : ∀ vs ws : List (String × JsValue),
    PlainFields vs → PlainFields ws → ∀ xs ys : List Char,
      (joined (stringifyFields vs)).toList ++ '}' :: xs =
        (joined (stringifyFields ws)).toList ++ '}' :: ys → vs = ws ∧ xs = ys
  | [] => by
    intro ws _ hw xs ys h
    cases ws with
    | nil => simpa [stringifyFields, joined] using h
    | cons w ws =>
      rw [stringifyFields_cons hw.1, joined_cons] at h
      simp [stringifyFields, joined, quote] at h
  | (key, v) :: vs => by
    intro ws hv hw xs ys h
    rw [stringifyFields_cons hv.1, joined_cons] at h
    cases ws with
    | nil => simp [stringifyFields, joined, quote] at h
    | cons w ws =>
      rw [stringifyFields_cons hw.1, joined_cons] at h
      simp only [String.toList_append, List.append_assoc] at h
      obtain ⟨rfl, hvalue⟩ := quote_append_inj h
      obtain ⟨rfl, hrest⟩ := stringify_append_inj v _ hv.1 hw.1 _ _
        (ends_joinedRest (by decide) _ xs) (ends_joinedRest (by decide) _ ys)
        (List.append_cancel_left hvalue)
      obtain ⟨rfl, hxs⟩ := stringifyFieldsRest_append_inj vs _ hv.2 hw.2 _ _ hrest
      exact ⟨rfl, hxs⟩

theorem stringifyFieldsRest_append_inj : ∀ vs ws : List (String × JsValue), PlainFields vs →
    PlainFields ws → ∀ xs ys : List Char,
      joinedRest (stringifyFields vs) ++ '}' :: xs = joinedRest (stringifyFields ws) ++ '}' :: ys →
        vs = ws ∧ xs = ys
  | [] => by
    intro ws _ hw xs ys h
    cases ws with
    | nil => simpa [stringifyFields, joinedRest] using h
    | cons w ws =>
      rw [stringifyFields_cons hw.1] at h
      simp [stringifyFields, joinedRest] at h
  | (key, v) :: vs => by
    intro ws hv hw xs ys h
    rw [stringifyFields_cons hv.1] at h
    cases ws with
    | nil => simp [stringifyFields, joinedRest] at h
    | cons w ws =>
      rw [stringifyFields_cons hw.1, joinedRest, joinedRest, joined_cons, joined_cons] at h
      simp only [String.toList_append, List.append_assoc, List.cons_append] at h
      obtain ⟨rfl, hvalue⟩ := quote_append_inj (List.cons.inj h).2
      obtain ⟨rfl, hrest⟩ := stringify_append_inj v _ hv.1 hw.1 _ _
        (ends_joinedRest (by decide) _ xs) (ends_joinedRest (by decide) _ ys)
        (List.append_cancel_left hvalue)
      obtain ⟨rfl, hxs⟩ := stringifyFieldsRest_append_inj vs _ hv.2 hw.2 _ _ hrest
      exact ⟨rfl, hxs⟩

end

/-- Plain values with the same text are the same. -/
theorem stringify_injective {v w : JsValue} (hv : Plain v) (hw : Plain w)
    (h : stringify v = stringify w) : v = w :=
  (stringify_append_inj v w hv hw _ _ ends_nil ends_nil (by rw [h])).1

end JsonText

end InternalControl
