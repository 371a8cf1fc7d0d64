import InternalControl.RichTextDoc

/-!
# Blocks of a mail as data

The validator checks each block against the fields declared for its type. It tells a declared
field with the operator that also finds the properties every object inherits, so keys with
their names pass as declared. What it accepts is what the grammar accepts without such keys.
-/

namespace InternalControl.EmailBlocks

open CodeUnits EmailUrl JsonData RichText

/-! ### Fields -/

/-- The check of the value of a field, which may be missing. -/
abbrev FieldCheck := Option JsonData → Units → List JsonIssue

/-- A text that is not blank, up to a length. -/
def text (maxLength : ℕ) : FieldCheck
  | some (string value), path =>
    if trimUnits value = [] then [⟨path, "Escriba un texto."⟩]
    else if maxLength < value.length then
      [⟨path, "Máximo " ++ Nat.repr maxLength ++ " caracteres"⟩]
    else []
  | _, path => [⟨path, "Escriba un texto."⟩]

/-- One of the texts of a list. -/
def oneOf (options : List String) : FieldCheck
  | some (string value), path =>
    if value ∈ options.map plain then [] else [⟨path, "Elija una opción de la lista."⟩]
  | _, path => [⟨path, "Elija una opción de la lista."⟩]

/-- The text of an address, when it is not blank. -/
def addressText : Option JsonData → Option Units
  | some (string value) => if trimUnits value = [] then none else some value
  | _ => none

/-- The fields of a row that are neither its label nor its value. -/
def rowKeys (fields : Fields) (path : Units) : List JsonIssue :=
  (fields.filter fun field => field.1 ≠ plain "label" && field.1 ≠ plain "value").map fun field =>
    ⟨fieldPath path field.1, "Campo no permitido"⟩

/-- A row of a list of data. -/
def itemRow (item : JsonData) (path : Units) : List JsonIssue :=
  match item with
  | object fields => rowKeys fields path ++
      (text 80 (get? fields "label") (fieldPath path (plain "label")) ++
        text 500 (get? fields "value") (fieldPath path (plain "value")))
  | _ => [⟨path, "Cada fila necesita etiqueta y valor."⟩]

/-- From one to twenty rows. -/
def items : FieldCheck
  | some (array rows), path =>
    (if rows.length < 1 ∨ 20 < rows.length then [⟨path, "Entre 1 y 20 filas"⟩] else []) ++
      rows.zipIdx.flatMap fun (row, index) => itemRow row (itemPath path index)
  | _, path => [⟨path, "Agregue al menos una fila."⟩]

/-- A hexadecimal digit in either case. -/
def hexUnit (u : UInt16) : Bool :=
  (48 ≤ u && u ≤ 57) || (97 ≤ u && u ≤ 102) || (65 ≤ u && u ≤ 70)

/-- The identifier of an image. -/
def uuid : FieldCheck
  | some (string value), path =>
    if value.length = 36 ∧ ∀ entry ∈ value.zipIdx,
        if entry.2 ∈ [8, 13, 18, 23] then entry.1 = 45 else hexUnit entry.1 = true then []
    else [⟨path, "Suba una imagen."⟩]
  | _, path => [⟨path, "Suba una imagen."⟩]

/-- A whole number between two others. -/
def integer (least most : ℕ) : FieldCheck
  | some (number value), path =>
    if value.den = 1 ∧ least ≤ value ∧ value ≤ most then []
    else [⟨path, "Escriba un número entero entre " ++ Nat.repr least ++ " y " ++ Nat.repr most ++ "."⟩]
  | _, path =>
    [⟨path, "Escriba un número entero entre " ++ Nat.repr least ++ " y " ++ Nat.repr most ++ "."⟩]

/-- A check of a field that may be left out. -/
def optional (check : FieldCheck) : FieldCheck
  | none, _ => []
  | some value, path => check (some value) path

section Blocks

-- `parsesAsHttps` tells whether the runtime reads an address as one over https
variable (parsesAsHttps : Units → Bool)

/-- An address that a mail may have. -/
def url : FieldCheck := fun value path =>
  text 500 value path ++
    match addressText value with
    | some address =>
      if isAllowedDesignUrl parsesAsHttps address then []
      else [⟨path, "Use una variable del correo o un enlace que empiece por https://."⟩]
    | none => []

/-- A document of rich text. -/
def richText : FieldCheck
  | some value, path => validateRichTextDoc parsesAsHttps value path
  | none, path => [⟨path, "El formato del texto no es válido."⟩]

/-- The fields declared for each type of block, with their checks. -/
def blockFields : List (String × List (String × FieldCheck)) :=
  [("heading", [("text", text 200)]),
    ("paragraph", [("content", richText parsesAsHttps)]),
    ("button", [("label", text 60), ("url", url parsesAsHttps)]),
    ("divider", []),
    ("keyValueList", [("items", items)]),
    ("callout", [("tone", oneOf ["info", "warning"]), ("text", text 1000)]),
    ("spacer", [("size", oneOf ["sm", "md", "lg"])]),
    ("image", [("assetId", uuid), ("alt", text 200), ("width", optional (integer 50 560)),
      ("align", oneOf ["left", "center"]), ("href", optional (url parsesAsHttps))])]

/-- The properties that every object inherits. -/
def inheritedNames : List String :=
  ["constructor", "__defineGetter__", "__defineSetter__", "hasOwnProperty", "__lookupGetter__",
    "__lookupSetter__", "isPrototypeOf", "propertyIsEnumerable", "toString", "valueOf", "__proto__",
    "toLocaleString"]

/-- The operator that looks a name up among the fields declared and those inherited. -/
def isIn (name : Units) (checks : List (String × FieldCheck)) : Bool :=
  name ∈ (checks.map Prod.fst ++ inheritedNames).map plain

/-- The checks of the type of a block, when it is one. -/
def checksOf (fields : Fields) : Option (List (String × FieldCheck)) :=
  ((blockFields parsesAsHttps).find? fun entry => isType fields entry.1).map Prod.snd

/-- The keys of a block that are not declared. -/
def undeclaredKeys (checks : List (String × FieldCheck)) (fields : Fields) (path : Units) :
    List JsonIssue :=
  (fields.filter fun field => field.1 ≠ plain "type" && !isIn field.1 checks).map fun field =>
    ⟨fieldPath path field.1, "Este bloque no admite ese campo."⟩

/-- The checks of the declared fields. -/
def checkFields (checks : List (String × FieldCheck)) (fields : Fields) (path : Units) :
    List JsonIssue :=
  checks.flatMap fun entry => entry.2 (get? fields entry.1) (fieldPath path (plain entry.1))

/-- A block of a mail. -/
def checkBlock (block : JsonData) (path : Units) : List JsonIssue :=
  match block with
  | object fields =>
    match checksOf parsesAsHttps fields with
    | some checks => undeclaredKeys checks fields path ++ checkFields checks fields path
    | none => [⟨fieldPath path (plain "type"), "Ese tipo de bloque no existe."⟩]
  | _ => [⟨fieldPath path (plain "type"), "Ese tipo de bloque no existe."⟩]

/-- The path to a block. -/
def blockPath (index : ℕ) : Units := itemPath (plain "blocks") index

/-- A block that says that it is an image. -/
def isImage : JsonData → Bool
  | object fields => isType fields "image"
  | _ => false

/-- What is wrong with a value as the blocks of a mail. -/
def validateEmailBlocks (blocks : JsonData) : List JsonIssue :=
  match blocks with
  | array blocks =>
    (if blocks.length < 1 ∨ 40 < blocks.length then
        [⟨plain "blocks", "Entre 1 y 40 bloques"⟩] else []) ++
      (blocks.zipIdx.flatMap (fun (block, index) => checkBlock parsesAsHttps block (blockPath index)) ++
        if 10 < (blocks.filter isImage).length then
          [⟨plain "blocks", "Use máximo 10 imágenes por correo."⟩] else [])
  | _ => [⟨plain "blocks", "El diseño del correo no es válido."⟩]

/-! ### The grammar -/

/-- A block of a known type, with declared fields only, each with a value its check accepts. -/
def BlockGrammar (block : JsonData) (path : Units) : Prop :=
  ∃ fields entry, block = object fields ∧ entry ∈ blockFields parsesAsHttps ∧
    isType fields entry.1 = true ∧
    (∀ field ∈ fields, field.1 = plain "type" ∨ field.1 ∈ (entry.2.map Prod.fst).map plain) ∧
    ∀ check ∈ entry.2, check.2 (get? fields check.1) (fieldPath path (plain check.1)) = []

/-- An array of blocks of the grammar. -/
def Grammar (blocks : JsonData) : Prop :=
  ∃ items, blocks = array items ∧
    ∀ entry ∈ items.zipIdx, BlockGrammar parsesAsHttps entry.1 (blockPath entry.2)

/-- From one to forty blocks, at most ten of them images. -/
def WithinLimits : JsonData → Prop
  | array items => 1 ≤ items.length ∧ items.length ≤ 40 ∧ (items.filter isImage).length ≤ 10
  | _ => False

/-- A key named as a property that every object inherits. -/
def isInherited (name : Units) : Bool := name ∈ inheritedNames.map plain

/-- Some block has such a key of its own. -/
def HasInheritedKey (blocks : JsonData) : Prop :=
  ∃ items fields, blocks = array items ∧ object fields ∈ items ∧
    ∃ field ∈ fields, isInherited field.1 = true

/-- A block without such keys. -/
def stripBlock : JsonData → JsonData
  | object fields => object (fields.filter fun field => !isInherited field.1)
  | block => block

/-- The blocks without such keys. -/
def withoutInherited : JsonData → JsonData
  | array items => array (items.map stripBlock)
  | blocks => blocks

/-! ### Keys that are left out -/

section Keys

variable {fields : Fields} {name : String}

/-- A field with another name is found without the keys left out. -/
theorem get?_filter (hname : isInherited (plain name) = false) :
    get? (fields.filter fun field => !isInherited field.1) name = get? fields name := by
  induction fields with
  | nil => rfl
  | cons field rest ih =>
    by_cases hkept : isInherited field.1 = true
    · have hne : ¬field.1 = plain name := by
        intro heq
        rw [heq, hname] at hkept
        cases hkept
      rw [List.filter_cons_of_neg (by simp [hkept]), ih]
      simp [get?, hne]
    · rw [List.filter_cons_of_pos (by simp [hkept])]
      by_cases heq : field.1 = plain name
      · simp [get?, heq]
      · simp only [get?, List.find?_cons, heq, decide_false] at ih ⊢
        exact ih

theorem isType_filter {kind : String} :
    isType (fields.filter fun field => !isInherited field.1) kind = isType fields kind := by
  have htype : isInherited (plain "type") = false := by decide
  rw [isType, isType, typeOf, typeOf, text?, text?, get?_filter htype]

end Keys

/-- No declared field has the name of an inherited property. -/
theorem declared_not_inherited {entry : String × List (String × FieldCheck)}
    (hentry : entry ∈ blockFields parsesAsHttps) {check : String × FieldCheck}
    (hcheck : check ∈ entry.2) : isInherited (plain check.1) = false := by
  have hnames : (blockFields parsesAsHttps).flatMap (fun entry => entry.2.map Prod.fst) =
      ["text", "content", "label", "url", "items", "tone", "text", "size", "assetId", "alt", "width",
        "align", "href"] := rfl
  have hmem : check.1 ∈ (blockFields parsesAsHttps).flatMap fun entry => entry.2.map Prod.fst :=
    List.mem_flatMap.mpr ⟨entry, hentry, List.mem_map_of_mem hcheck⟩
  rw [hnames] at hmem
  have hall : ∀ name ∈ ["text", "content", "label", "url", "items", "tone", "text", "size", "assetId",
      "alt", "width", "align", "href"], isInherited (plain name) = false := by decide
  exact hall check.1 hmem

/-- In a table of kinds without repetition, the kind of an object is found. -/
theorem find?_kind {β : Type} {table : List (String × β)} {fields : Fields} {kind : String} {value : β}
    (hnodup : (table.map fun entry => plain entry.1).Nodup) (hmem : (kind, value) ∈ table)
    (htype : isType fields kind = true) :
    table.find? (fun entry => isType fields entry.1) = some (kind, value) := by
  induction table with
  | nil => cases hmem
  | cons entry rest ih =>
    obtain ⟨hfresh, hrest⟩ := List.nodup_cons.mp hnodup
    rcases List.mem_cons.mp hmem with rfl | hmem
    · exact List.find?_cons_of_pos htype
    · have hother : ¬isType fields entry.1 = true := by
        intro hentry
        have hsame : plain entry.1 = plain kind :=
          Option.some.inj ((typeOf_of_isType hentry).symm.trans (typeOf_of_isType htype))
        exact hfresh (List.mem_map.mpr ⟨(kind, value), hmem, hsame.symm⟩)
      simp only [List.find?_cons, hother]
      exact ih hrest hmem

/-- The checks of a block are those of the type it says it has. -/
theorem checksOf_eq_some {fields : Fields} {checks : List (String × FieldCheck)} :
    checksOf parsesAsHttps fields = some checks ↔
      ∃ kind, (kind, checks) ∈ blockFields parsesAsHttps ∧ isType fields kind = true := by
  have hnodup : ((blockFields parsesAsHttps).map fun entry => plain entry.1).Nodup := by
    have hkinds : (blockFields parsesAsHttps).map (fun entry => plain entry.1) =
        ["heading", "paragraph", "button", "divider", "keyValueList", "callout", "spacer",
          "image"].map plain := rfl
    rw [hkinds]
    decide
  constructor
  · intro h
    obtain ⟨entry, hfound, rfl⟩ := Option.map_eq_some_iff.mp h
    have htype : isType fields entry.1 = true := by simpa using List.find?_some hfound
    exact ⟨entry.1, List.mem_of_find?_eq_some hfound, htype⟩
  · rintro ⟨kind, hmem, htype⟩
    rw [checksOf, find?_kind hnodup hmem htype]
    rfl

theorem undeclaredKeys_eq_nil {checks : List (String × FieldCheck)} {fields : Fields} {path : Units} :
    undeclaredKeys checks fields path = [] ↔ ∀ field ∈ fields, isInherited field.1 = false →
      field.1 = plain "type" ∨ field.1 ∈ (checks.map Prod.fst).map plain := by
  rw [undeclaredKeys, List.map_eq_nil_iff, List.filter_eq_nil_iff]
  refine forall₂_congr fun field _ => ?_
  have hsplit : isIn field.1 checks =
      (decide (field.1 ∈ (checks.map Prod.fst).map plain) || isInherited field.1) := by
    rw [isIn, isInherited, List.map_append, ← Bool.decide_or]
    exact decide_eq_decide.mpr List.mem_append
  rw [hsplit]
  cases isInherited field.1 with
  | true => simp
  | false =>
    simp only [Bool.or_false]
    simp
    tauto

/-- A block is accepted when it is in the grammar without the keys left out. -/
theorem checkBlock_eq_nil_iff {block : JsonData} {path : Units} :
    checkBlock parsesAsHttps block path = [] ↔ BlockGrammar parsesAsHttps (stripBlock block) path := by
  constructor
  · intro h
    unfold checkBlock at h
    split at h
    · next fields =>
      split at h
      · next checks hchecks =>
        obtain ⟨kind, hentry, htype⟩ := (checksOf_eq_some parsesAsHttps).mp hchecks
        obtain ⟨hkeys, hfields⟩ := List.append_eq_nil_iff.mp h
        refine ⟨_, (kind, checks), rfl, hentry, isType_filter.trans htype, ?_, ?_⟩
        · intro field hfield
          obtain ⟨hmem, hkept⟩ := List.mem_filter.mp hfield
          exact undeclaredKeys_eq_nil.mp hkeys field hmem (by simpa using hkept)
        · intro check hcheck
          rw [get?_filter (declared_not_inherited parsesAsHttps hentry hcheck)]
          exact List.flatMap_eq_nil_iff.mp hfields check hcheck
      · cases h
    · cases h
  · rintro ⟨stripped, ⟨kind, checks⟩, hblock, hentry, htype, hkeys, hchecks⟩
    cases block with
    | object fields =>
      cases hblock
      have hfound := (checksOf_eq_some parsesAsHttps).mpr ⟨kind, hentry, isType_filter.symm.trans htype⟩
      rw [checkBlock, hfound]
      refine List.append_eq_nil_iff.mpr ⟨undeclaredKeys_eq_nil.mpr ?_, List.flatMap_eq_nil_iff.mpr ?_⟩
      · intro field hfield hkept
        exact hkeys field (List.mem_filter.mpr ⟨hfield, by simp [hkept]⟩)
      · intro check hcheck
        have hnil := hchecks check hcheck
        rwa [get?_filter (declared_not_inherited parsesAsHttps hentry hcheck)] at hnil
    | _ => cases hblock

/-! ### All blocks -/

/-- The value is accepted when, without the keys left out, it is in the grammar and its
blocks are within the limits. -/
theorem validateEmailBlocks_eq_nil_iff {blocks : JsonData} :
    validateEmailBlocks parsesAsHttps blocks = [] ↔
      Grammar parsesAsHttps (withoutInherited blocks) ∧ WithinLimits blocks := by
  cases blocks with
  | array items =>
    rw [validateEmailBlocks, List.append_eq_nil_iff, List.append_eq_nil_iff, List.flatMap_eq_nil_iff]
    have hgrammar : Grammar parsesAsHttps (withoutInherited (array items)) ↔
        ∀ entry ∈ items.zipIdx, checkBlock parsesAsHttps entry.1 (blockPath entry.2) = [] := by
      constructor
      · rintro ⟨_, ⟨⟩, hblocks⟩ entry hentry
        refine (checkBlock_eq_nil_iff parsesAsHttps).mpr (hblocks (stripBlock entry.1, entry.2) ?_)
        rw [List.zipIdx_map]
        exact List.mem_map_of_mem hentry
      · intro hblocks
        refine ⟨items.map stripBlock, rfl, fun entry hentry => ?_⟩
        rw [List.zipIdx_map] at hentry
        obtain ⟨given, hgiven, rfl⟩ := List.mem_map.mp hentry
        exact (checkBlock_eq_nil_iff parsesAsHttps).mp (hblocks given hgiven)
    rw [hgrammar, WithinLimits]
    constructor
    · rintro ⟨hlength, hblocks, himages⟩
      split_ifs at hlength himages
      exact ⟨hblocks, by omega, by omega, by omega⟩
    · rintro ⟨hblocks, hleast, hmost, himages⟩
      exact ⟨if_neg (by omega), hblocks, if_neg (by omega)⟩
  | _ => exact ⟨nofun, fun h => h.2.elim⟩

/-- Blocks without such keys are left as they are. -/
theorem withoutInherited_eq_self {blocks : JsonData} (h : ¬HasInheritedKey blocks) :
    withoutInherited blocks = blocks := by
  cases blocks with
  | array items =>
    have hblocks : ∀ block ∈ items, stripBlock block = block := by
      intro block hblock
      cases block with
      | object fields =>
        have hkept : fields.filter (fun field => !isInherited field.1) = fields := by
          rw [List.filter_eq_self]
          intro field hfield
          rw [Bool.not_eq_true']
          by_contra hinherited
          exact h ⟨items, fields, rfl, hblock, field, hfield, by simpa using hinherited⟩
        rw [stripBlock, hkept]
      | _ => rfl
    rw [withoutInherited, List.map_congr_left hblocks, List.map_id']
  | _ => rfl

/-- The grammar has no such keys. -/
theorem not_hasInheritedKey {blocks : JsonData} (h : Grammar parsesAsHttps blocks) :
    ¬HasInheritedKey blocks := by
  rintro ⟨items, fields, rfl, hmem, field, hfield, hinherited⟩
  obtain ⟨_, ⟨⟩, hblocks⟩ := h
  obtain ⟨index, hindex⟩ := List.mem_iff_getElem?.mp hmem
  obtain ⟨_, entry, ⟨⟩, hentry, -, hkeys, -⟩ :=
    hblocks (object fields, index) (List.mk_mem_zipIdx_iff_getElem?.mpr hindex)
  have hnot : isInherited field.1 = false := by
    rcases hkeys field hfield with htype | hdeclared
    · rw [htype]
      decide
    · obtain ⟨name, hname, hfield⟩ := List.mem_map.mp hdeclared
      obtain ⟨check, hcheck, rfl⟩ := List.mem_map.mp hname
      rw [← hfield]
      exact declared_not_inherited parsesAsHttps hentry hcheck
  rw [hnot] at hinherited
  cases hinherited

end Blocks

/-- What is accepted is in the grammar exactly when no block has a key named as an inherited
property, or the value is refused without such keys too. -/
theorem accepted_in_grammar_iff (parsesAsHttps : Units → Bool) (blocks : JsonData) :
    (validateEmailBlocks parsesAsHttps blocks = [] → Grammar parsesAsHttps blocks) ↔
      (¬HasInheritedKey blocks ∨
        ¬(Grammar parsesAsHttps (withoutInherited blocks) ∧ WithinLimits blocks)) := by
  rw [validateEmailBlocks_eq_nil_iff]
  constructor
  · intro h
    by_cases haccepted : Grammar parsesAsHttps (withoutInherited blocks) ∧ WithinLimits blocks
    · exact .inl (not_hasInheritedKey parsesAsHttps (h haccepted))
    · exact .inr haccepted
  · rintro (hplain | hrefused) haccepted
    · rw [withoutInherited_eq_self hplain] at haccepted
      exact haccepted.1
    · exact absurd haccepted hrefused

/-- A divider with a field of its own named as an inherited property. -/
def sampleBlocks : JsonData := array [ofType "divider" [(plain "valueOf", number 1)]]

theorem undeclared_key_is_accepted :
    ¬ ∀ (parsesAsHttps : Units → Bool) (blocks : JsonData),
      validateEmailBlocks parsesAsHttps blocks = [] → Grammar parsesAsHttps blocks := by
  intro h
  have haccepted : validateEmailBlocks (plain "https://").isPrefixOf sampleBlocks = [] := by
    decide +kernel
  refine not_hasInheritedKey _ (h _ sampleBlocks haccepted) ?_
  exact ⟨_, _, rfl, List.mem_singleton.mpr rfl, (plain "valueOf", number 1), by simp, by decide⟩

end InternalControl.EmailBlocks
