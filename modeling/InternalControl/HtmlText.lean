import InternalControl.CodeUnits

/-!
# Hypertext and its reader

The reader of hypertext goes over a text one code unit at a time and tells characters,
references, tags and attributes apart. A writer that escapes its texts and its attribute
values is read as it meant: what it escapes comes back as characters, never as a tag.
-/

namespace InternalControl.HtmlText

open CodeUnits

/-! ### The reader -/

/-- A tag with the attributes read so far. -/
structure Tag where
  name : Units
  attrs : List (Units × Units)
  deriving DecidableEq

/-- What the reader tells apart. -/
inductive Token where
  | char (u : UInt16)
  | opening (tag : Tag)
  | closing (name : Units)
  | declaration (text : Units)
  deriving DecidableEq

/-- Where the reader is inside a tag. -/
inductive Place where
  | name
  | between
  | attrName (attr : Units)
  | beforeValue (attr : Units)
  | value (quote : UInt16) (attr value : Units)
  | valueReference (quote : UInt16) (attr value reference : Units)
  | bareValue (attr value : Units)

/-- Where the reader is. -/
inductive State where
  | data
  | reference (name : Units)
  | tagOpen
  | inTag (tag : Tag) (place : Place)
  | closing (name : Units)
  | declaration (text : Units)

/-- The characters that mean something to the reader. -/
def lessThan : UInt16 := 60

def greaterThan : UInt16 := 62

def ampersand : UInt16 := 38

def doubleQuote : UInt16 := 34

def singleQuote : UInt16 := 39

def semicolon : UInt16 := 59

def slash : UInt16 := 47

def equalsSign : UInt16 := 61

def space : UInt16 := 32

def isBlank (u : UInt16) : Bool := u = 9 || u = 10 || u = 12 || u = 13 || u = space

def isLetter (u : UInt16) : Bool := (97 ≤ u && u ≤ 122) || (65 ≤ u && u ≤ 90)

/-- A character of the name of a tag or of an attribute, as writers use them. -/
def isNameUnit (u : UInt16) : Bool := isLetter u || isDigit u || u = 45

/-- A character of the name of a reference. -/
def isReferenceUnit (u : UInt16) : Bool := isLetter u || isDigit u || u = 35

/-- The character a reference stands for, of those that writers use. -/
def referenced (name : Units) : Option UInt16 :=
  if name = [97, 109, 112] then some ampersand
  else if name = [108, 116] then some lessThan
  else if name = [103, 116] then some greaterThan
  else if name = [113, 117, 111, 116] then some doubleQuote
  else if name = [35, 51, 57] then some singleQuote
  else if name = [110, 98, 115, 112] then some 160
  else none

/-- What a reference adds to a text, when its name ends well. Unknown ones stay as written. -/
def resolved (name : Units) : Units :=
  match referenced name with
  | some u => [u]
  | none => ampersand :: name ++ [semicolon]

/-- A character outside tags. -/
def dataStep (u : UInt16) : State × List Token :=
  if u = lessThan then (.tagOpen, [])
  else if u = ampersand then (.reference [], [])
  else (.data, [.char u])

/-- A character in a quoted value. -/
def valueStep (tag : Tag) (quote : UInt16) (attr value : Units) (u : UInt16) : State :=
  if u = quote then .inTag ⟨tag.name, tag.attrs ++ [(attr, value)]⟩ .between
  else if u = ampersand then .inTag tag (.valueReference quote attr value [])
  else .inTag tag (.value quote attr (value ++ [u]))

/-- The end of a tag, with an attribute that is not among the others yet. -/
def tagEnd (tag : Tag) (last : List (Units × Units)) : State × List Token :=
  (.data, [.opening ⟨tag.name, tag.attrs ++ last⟩])

/-- A character inside a tag. -/
def tagStep (tag : Tag) (u : UInt16) : Place → State × List Token
  | .name =>
    if u = greaterThan then tagEnd tag []
    else if isBlank u || u = slash then (.inTag tag .between, [])
    else (.inTag ⟨tag.name ++ [u], tag.attrs⟩ .name, [])
  | .between =>
    if u = greaterThan then tagEnd tag []
    else if isBlank u || u = slash then (.inTag tag .between, [])
    else (.inTag tag (.attrName [u]), [])
  | .attrName attr =>
    if u = greaterThan then tagEnd tag [(attr, [])]
    else if isBlank u || u = slash then
      (.inTag ⟨tag.name, tag.attrs ++ [(attr, [])]⟩ .between, [])
    else if u = equalsSign then (.inTag tag (.beforeValue attr), [])
    else (.inTag tag (.attrName (attr ++ [u])), [])
  | .beforeValue attr =>
    if u = greaterThan then tagEnd tag [(attr, [])]
    else if isBlank u then (.inTag tag (.beforeValue attr), [])
    else if u = doubleQuote || u = singleQuote then (.inTag tag (.value u attr []), [])
    else (.inTag tag (.bareValue attr [u]), [])
  | .value quote attr value => (valueStep tag quote attr value u, [])
  | .valueReference quote attr value name =>
    if u = semicolon then (.inTag tag (.value quote attr (value ++ resolved name)), [])
    else if isReferenceUnit u then
      (.inTag tag (.valueReference quote attr value (name ++ [u])), [])
    else (valueStep tag quote attr (value ++ ampersand :: name) u, [])
  | .bareValue attr value =>
    if u = greaterThan then tagEnd tag [(attr, value)]
    else if isBlank u then (.inTag ⟨tag.name, tag.attrs ++ [(attr, value)]⟩ .between, [])
    else (.inTag tag (.bareValue attr (value ++ [u])), [])

/-- The reader at one character. -/
def step : State → UInt16 → State × List Token
  | .data, u => dataStep u
  | .reference name, u =>
    if u = semicolon then (.data, (resolved name).map .char)
    else if isReferenceUnit u then (.reference (name ++ [u]), [])
    else ((dataStep u).1, (ampersand :: name).map .char ++ (dataStep u).2)
  | .tagOpen, u =>
    if isLetter u then (.inTag ⟨[u], []⟩ .name, [])
    else if u = slash then (.closing [], [])
    else if u = 33 then (.declaration [], [])
    else ((dataStep u).1, .char lessThan :: (dataStep u).2)
  | .inTag tag place, u => tagStep tag u place
  | .closing name, u =>
    if u = greaterThan then (.data, [.closing name]) else (.closing (name ++ [u]), [])
  | .declaration text, u =>
    if u = greaterThan then (.data, [.declaration text]) else (.declaration (text ++ [u]), [])

/-- The reader over a text: where it ends, and what it told apart. -/
def run : State → Units → State × List Token
  | state, [] => (state, [])
  | state, u :: rest =>
    let (next, first) := step state u
    let (last, more) := run next rest
    (last, first ++ more)

/-- What a reader makes of a hypertext. -/
def read (html : Units) : List Token := (run .data html).2

theorem run_append (state : State) (first second : Units) :
    run state (first ++ second) =
      ((run (run state first).1 second).1,
        (run state first).2 ++ (run (run state first).1 second).2) := by
  induction first generalizing state with
  | nil => rfl
  | cons u rest ih => simp only [List.cons_append, run, ih, List.append_assoc]

/-! ### Texts that read as what they mean -/

/-- A text that stands outside tags and is read as the tokens. -/
def Reads (raw : Units) (tokens : List Token) : Prop := run .data raw = (.data, tokens)

theorem Reads.read_eq {raw : Units} {tokens : List Token} (h : Reads raw tokens) :
    read raw = tokens := by
  rw [read, h]

theorem Reads.nil : Reads [] [] := rfl

theorem Reads.append {first second : Units} {before after : List Token}
    (hfirst : Reads first before) (hsecond : Reads second after) :
    Reads (first ++ second) (before ++ after) := by
  unfold Reads at *
  simp only [run_append, hfirst, hsecond]

theorem Reads.flatMap {α : Type*} {items : List α} {write : α → Units} {mean : α → List Token}
    (h : ∀ item ∈ items, Reads (write item) (mean item)) :
    Reads (items.flatMap write) (items.flatMap mean) := by
  induction items with
  | nil => exact Reads.nil
  | cons item rest ih =>
    rw [List.flatMap_cons, List.flatMap_cons]
    exact (h item List.mem_cons_self).append
      (ih fun other hother => h other (List.mem_cons_of_mem _ hother))

/-- A character that begins neither a tag nor a reference stands for itself. -/
theorem reads_char {u : UInt16} (hless : u ≠ lessThan) (hamp : u ≠ ampersand) :
    Reads [u] [.char u] := by
  simp [Reads, run, step, dataStep, hless, hamp]

theorem valueStep_inTag (tag : Tag) (quote : UInt16) (attr value : Units) (u : UInt16) :
    ∃ tag' place, valueStep tag quote attr value u = .inTag tag' place := by
  unfold valueStep
  split_ifs <;> exact ⟨_, _, rfl⟩

/-- A character inside a tag either leaves the reader there, or ends the tag. -/
theorem tagStep_cases (tag : Tag) (u : UInt16) (place : Place) :
    (∃ tag' place', tagStep tag u place = (.inTag tag' place', [])) ∨
      ∃ last, tagStep tag u place = tagEnd tag last := by
  cases place with
  | value quote attr value =>
    obtain ⟨tag', place, hvalue⟩ := valueStep_inTag tag quote attr value u
    exact Or.inl ⟨tag', place, congrArg (·, []) hvalue⟩
  | valueReference quote attr value name =>
    obtain ⟨tag', place, hvalue⟩ := valueStep_inTag tag quote attr (value ++ ampersand :: name) u
    simp only [tagStep, hvalue]
    split_ifs <;> exact Or.inl ⟨_, _, rfl⟩
  | _ =>
    simp only [tagStep]
    split_ifs <;> first | exact Or.inl ⟨_, _, rfl⟩ | exact Or.inr ⟨_, rfl⟩

/-- A step back to where the reader starts tells something. -/
theorem step_ne_nil {state : State} {u : UInt16} (h : (step state u).1 = .data) :
    (step state u).2 ≠ [] := by
  cases state with
  | data =>
    rw [step, dataStep] at h ⊢
    split_ifs at h ⊢
    simp
  | reference name =>
    have hresolved : resolved name ≠ [] := by
      unfold resolved
      split <;> simp
    rw [step] at h ⊢
    split_ifs at h ⊢
    · simp [hresolved]
    · simp
  | inTag tag place =>
    rw [step] at h ⊢
    rcases tagStep_cases tag u place with ⟨tag', place', hstep⟩ | ⟨last, hstep⟩
    · rw [hstep] at h
      cases h
    · rw [hstep, tagEnd]
      simp
  | _ =>
    rw [step] at h ⊢
    split_ifs at h ⊢
    simp

theorem run_eq_nil {state : State} {raw : Units} (h : run state raw = (.data, [])) : raw = [] := by
  induction raw generalizing state with
  | nil => rfl
  | cons u rest ih =>
    rw [run, Prod.mk.injEq, List.append_eq_nil_iff] at h
    obtain ⟨hlast, hfirst, hmore⟩ := h
    have hrest : rest = [] := ih (Prod.ext hlast hmore)
    subst hrest
    exact absurd hfirst (step_ne_nil hlast)

/-- Only the empty text is read as nothing. -/
theorem Reads.eq_nil {raw : Units} (h : Reads raw []) : raw = [] := run_eq_nil h

/-! ### Escaped texts -/

/-- A character as a writer escapes it. -/
def escapeUnit (u : UInt16) : Units :=
  if u = ampersand then [38, 97, 109, 112, 59]
  else if u = lessThan then [38, 108, 116, 59]
  else if u = greaterThan then [38, 103, 116, 59]
  else if u = doubleQuote then [38, 113, 117, 111, 116, 59]
  else if u = singleQuote then [38, 35, 51, 57, 59]
  else [u]

/-- A text as a writer escapes it. -/
def escape (text : Units) : Units := text.flatMap escapeUnit

/-- The characters of a text. -/
def chars (text : Units) : List Token := text.map .char

theorem reads_escapeUnit (u : UInt16) : Reads (escapeUnit u) [.char u] := by
  unfold escapeUnit
  split_ifs with hamp hless hgreater hdouble hsingle
  · exact hamp ▸ rfl
  · exact hless ▸ rfl
  · exact hgreater ▸ rfl
  · exact hdouble ▸ rfl
  · exact hsingle ▸ rfl
  · exact reads_char hless hamp

/-- What a writer escapes is read as its characters. -/
theorem reads_escape (text : Units) : Reads (escape text) (chars text) := by
  rw [chars, List.map_eq_flatMap]
  exact Reads.flatMap fun u _ => reads_escapeUnit u

/-! ### Values of attributes -/

/-- A text that stands in a value between double quotes and is read as the value. -/
def ValueReads (raw value : Units) : Prop :=
  ∀ tag attr before, run (.inTag tag (.value doubleQuote attr before)) raw =
    (.inTag tag (.value doubleQuote attr (before ++ value)), [])

theorem ValueReads.nil : ValueReads [] [] := by
  intro tag attr before
  rw [List.append_nil]
  rfl

theorem ValueReads.append {first second value more : Units} (hfirst : ValueReads first value)
    (hsecond : ValueReads second more) : ValueReads (first ++ second) (value ++ more) := by
  intro tag attr before
  rw [run_append, hfirst]
  dsimp only
  rw [hsecond, List.append_assoc]
  rfl

theorem valueReads_flatMap {write : UInt16 → Units} {text : Units}
    (h : ∀ u ∈ text, ValueReads (write u) [u]) : ValueReads (text.flatMap write) text := by
  induction text with
  | nil => exact ValueReads.nil
  | cons u rest ih =>
    rw [List.flatMap_cons]
    exact (h u List.mem_cons_self).append
      (ih fun other hother => h other (List.mem_cons_of_mem _ hother))

/-- A character that neither ends a value nor begins a reference. -/
def isPlainUnit (u : UInt16) : Bool := u != doubleQuote && u != ampersand

theorem valueReads_unit {u : UInt16} (h : isPlainUnit u = true) : ValueReads [u] [u] := by
  intro tag attr before
  rw [isPlainUnit, Bool.and_eq_true, bne_iff_ne, bne_iff_ne] at h
  simp [run, step, tagStep, valueStep, h.1, h.2]

/-- A value without quotes and references stands for itself. -/
theorem valueReads_plain {text : Units} (h : text.all isPlainUnit = true) :
    ValueReads text text := by
  have hself : text.flatMap (fun u => [u]) = text := by rw [List.flatMap_singleton']
  have hunits : ValueReads (text.flatMap fun u => [u]) text :=
    valueReads_flatMap fun u hu => valueReads_unit (List.all_eq_true.mp h u hu)
  rwa [hself] at hunits

theorem valueReads_escapeUnit (u : UInt16) : ValueReads (escapeUnit u) [u] := by
  intro tag attr before
  unfold escapeUnit
  split_ifs with hamp hless hgreater hdouble hsingle
  · subst hamp
    rfl
  · subst hless
    rfl
  · subst hgreater
    rfl
  · subst hdouble
    rfl
  · subst hsingle
    rfl
  · have hplain : isPlainUnit u = true := by
      rw [isPlainUnit, Bool.and_eq_true, bne_iff_ne, bne_iff_ne]
      exact ⟨hdouble, hamp⟩
    exact valueReads_unit hplain tag attr before

/-- An escaped value is read as it was. -/
theorem valueReads_escape (text : Units) : ValueReads (escape text) text :=
  valueReads_flatMap fun u _ => valueReads_escapeUnit u

/-! ### What a writer writes -/

/-- The value of an attribute: one that the writer escapes, or one it writes as it stands. -/
inductive AttrValue where
  | escaped (value : Units)
  | fixed (value : Units)
  deriving DecidableEq

namespace AttrValue

def value : AttrValue → Units
  | escaped value => value
  | fixed value => value

def write : AttrValue → Units
  | escaped value => escape value
  | fixed value => value

/-- A value that stands as it is neither ends early nor has references. -/
def isWritable : AttrValue → Bool
  | escaped _ => true
  | fixed value => value.all isPlainUnit

theorem valueReads {value : AttrValue} (h : value.isWritable = true) :
    ValueReads value.write value.value := by
  cases value with
  | escaped text => exact valueReads_escape text
  | fixed text => exact valueReads_plain h

end AttrValue

/-- A part of a hypertext, as its writer means it. -/
inductive Markup where
  | char (u : UInt16)
  /-- A blank that is never left out. -/
  | blank
  | opening (name : Units) (attrs : List (Units × AttrValue))
  | closing (name : Units)
  | declaration (text : Units)

/-- An attribute as a writer spells it. -/
def writeAttr (attr : Units × AttrValue) : Units :=
  plain " " ++ attr.1 ++ plain "=\"" ++ attr.2.write ++ plain "\""

/-- A part as a writer spells it. -/
def Markup.write : Markup → Units
  | char u => escapeUnit u
  | blank => plain "&nbsp;"
  | opening name attrs => plain "<" ++ name ++ attrs.flatMap writeAttr ++ plain ">"
  | closing name => plain "</" ++ name ++ plain ">"
  | declaration text => plain "<!" ++ text ++ plain ">"

/-- A part as a reader takes it. -/
def Markup.token : Markup → Token
  | char u => .char u
  | blank => .char 160
  | opening name attrs => .opening ⟨name, attrs.map fun attr => (attr.1, attr.2.value)⟩
  | closing name => .closing name
  | declaration text => .declaration text

/-- A name that a writer may use for a tag or an attribute. -/
def isName : Units → Bool
  | [] => false
  | u :: rest => isLetter u && rest.all isNameUnit

/-- A part that is read as it is meant: its names are names, and its fixed values are plain. -/
def Markup.isWritable : Markup → Bool
  | char _ | blank => true
  | opening name attrs => isName name && attrs.all fun attr => isName attr.1 && attr.2.isWritable
  | closing name => isName name
  | declaration text => text.all fun u => u != greaterThan

theorem isNameUnit_spec {u : UInt16} (h : isNameUnit u = true) :
    u ≠ greaterThan ∧ isBlank u = false ∧ u ≠ slash ∧ u ≠ equalsSign := by
  have hbounds : u = 45 ∨ (48 ≤ u ∧ u ≤ 57) ∨ (65 ≤ u ∧ u ≤ 90) ∨ (97 ≤ u ∧ u ≤ 122) := by
    simp only [isNameUnit, isLetter, isDigit, Bool.or_eq_true, Bool.and_eq_true,
      decide_eq_true_eq] at h
    tauto
  simp only [greaterThan, isBlank, slash, equalsSign, space, Bool.or_eq_false_iff,
    decide_eq_false_iff_not, ne_eq, UInt16.le_iff_toNat_le, ← UInt16.toNat_inj,
    UInt16.reduceToNat] at hbounds ⊢
  omega

theorem isNameUnit_of_isLetter {u : UInt16} (h : isLetter u = true) : isNameUnit u = true := by
  rw [isNameUnit, h]
  rfl

theorem run_tagName {rest : Units} (h : rest.all isNameUnit = true) (tag : Tag) :
    run (.inTag tag .name) rest = (.inTag ⟨tag.name ++ rest, tag.attrs⟩ .name, []) := by
  induction rest generalizing tag with
  | nil => rw [List.append_nil]; rfl
  | cons u rest ih =>
    rw [List.all_cons, Bool.and_eq_true] at h
    obtain ⟨hgreater, hblank, hslash, -⟩ := isNameUnit_spec h.1
    have hnext : step (.inTag tag .name) u = (.inTag ⟨tag.name ++ [u], tag.attrs⟩ .name, []) := by
      simp [step, tagStep, hgreater, hblank, hslash]
    rw [run, hnext]
    dsimp only
    rw [ih h.2]
    simp

theorem run_attrName {rest : Units} (h : rest.all isNameUnit = true) (tag : Tag) (attr : Units) :
    run (.inTag tag (.attrName attr)) rest = (.inTag tag (.attrName (attr ++ rest)), []) := by
  induction rest generalizing attr with
  | nil => rw [List.append_nil]; rfl
  | cons u rest ih =>
    rw [List.all_cons, Bool.and_eq_true] at h
    obtain ⟨hgreater, hblank, hslash, hequals⟩ := isNameUnit_spec h.1
    have hnext : step (.inTag tag (.attrName attr)) u = (.inTag tag (.attrName (attr ++ [u])), []) := by
      simp [step, tagStep, hgreater, hblank, hslash, hequals]
    rw [run, hnext]
    dsimp only
    rw [ih h.2]
    simp

theorem plain_lessThan : plain "<" = [lessThan] := by decide

theorem plain_greaterThan : plain ">" = [greaterThan] := by decide

/-- A written attribute adds what it means to its tag. -/
theorem run_writeAttr {attr : Units × AttrValue} (hname : isName attr.1 = true)
    (hvalue : attr.2.isWritable = true) (tag : Tag) {place : Place}
    (hplace : place = .name ∨ place = .between) :
    run (.inTag tag place) (writeAttr attr) =
      (.inTag ⟨tag.name, tag.attrs ++ [(attr.1, attr.2.value)]⟩ .between, []) := by
  have hspace : run (.inTag tag place) (plain " ") = (.inTag tag .between, []) := by
    rcases hplace with rfl | rfl <;> rfl
  have hquote : ∀ name : Units, run (.inTag tag (.attrName name)) (plain "=\"") =
      (.inTag tag (.value doubleQuote name []), []) := fun name => rfl
  have hend : ∀ name value : Units,
      run (.inTag tag (.value doubleQuote name value)) (plain "\"") =
        (.inTag ⟨tag.name, tag.attrs ++ [(name, value)]⟩ .between, []) := fun name value => rfl
  obtain ⟨name, value⟩ := attr
  cases name with
  | nil => cases hname
  | cons u rest =>
    rw [isName, Bool.and_eq_true] at hname
    obtain ⟨hgreater, hblank, hslash, -⟩ := isNameUnit_spec (isNameUnit_of_isLetter hname.1)
    have hfirst : step (.inTag tag .between) u = (.inTag tag (.attrName [u]), []) := by
      simp [step, tagStep, hgreater, hblank, hslash]
    have hattr : run (.inTag tag .between) (u :: rest) =
        (.inTag tag (.attrName (u :: rest)), []) := by
      rw [run, hfirst]
      dsimp only
      rw [run_attrName hname.2]
      rfl
    have hmeant : run (.inTag tag (.value doubleQuote (u :: rest) [])) value.write =
        (.inTag tag (.value doubleQuote (u :: rest) value.value), []) :=
      AttrValue.valueReads hvalue tag (u :: rest) []
    rw [writeAttr]
    simp only [run_append, hspace, hattr, hquote, hmeant, hend, List.append_nil]

theorem run_writeAttrs {attrs : List (Units × AttrValue)}
    (h : attrs.all (fun attr => isName attr.1 && attr.2.isWritable) = true) (tag : Tag)
    {place : Place} (hplace : place = .name ∨ place = .between) :
    ∃ last, (last = .name ∨ last = .between) ∧
      run (.inTag tag place) (attrs.flatMap writeAttr) =
        (.inTag ⟨tag.name, tag.attrs ++ attrs.map fun attr => (attr.1, attr.2.value)⟩ last, []) := by
  induction attrs generalizing tag place with
  | nil =>
    refine ⟨place, hplace, ?_⟩
    rw [List.map_nil, List.append_nil]
    rfl
  | cons attr rest ih =>
    rw [List.all_cons, Bool.and_eq_true, Bool.and_eq_true] at h
    obtain ⟨last, hlast, hrun⟩ :=
      ih h.2 ⟨tag.name, tag.attrs ++ [(attr.1, attr.2.value)]⟩ (Or.inr rfl)
    refine ⟨last, hlast, ?_⟩
    rw [List.flatMap_cons, run_append, run_writeAttr h.1.1 h.1.2 tag hplace]
    dsimp only
    rw [hrun]
    simp

theorem reads_opening {name : Units} {attrs : List (Units × AttrValue)}
    (h : (Markup.opening name attrs).isWritable = true) :
    Reads (Markup.opening name attrs).write [(Markup.opening name attrs).token] := by
  rw [Markup.isWritable, Bool.and_eq_true] at h
  obtain ⟨hname, hattrs⟩ := h
  cases name with
  | nil => cases hname
  | cons u rest =>
    rw [isName, Bool.and_eq_true] at hname
    obtain ⟨last, hlast, hrun⟩ := run_writeAttrs hattrs ⟨u :: rest, []⟩ (Or.inl rfl)
    have hless : run .data (plain "<") = (.tagOpen, []) := rfl
    have hfirst : step .tagOpen u = (.inTag ⟨[u], []⟩ .name, []) := by simp [step, hname.1]
    have htag : run .tagOpen (u :: rest) = (.inTag ⟨u :: rest, []⟩ .name, []) := by
      rw [run, hfirst]
      dsimp only
      rw [run_tagName hname.2]
      rfl
    have hend : ∀ tag : Tag, run (.inTag tag last) (plain ">") = (.data, [.opening tag]) := by
      intro tag
      rw [plain_greaterThan]
      rcases hlast with rfl | rfl <;> simp [run, step, tagStep, tagEnd]
    rw [Reads, Markup.write, Markup.token]
    simp only [run_append, hless, htag, hrun, hend, List.nil_append]

theorem run_closing {name : Units} (h : name.all isNameUnit = true) (before : Units) :
    run (.closing before) name = (.closing (before ++ name), []) := by
  induction name generalizing before with
  | nil => rw [List.append_nil]; rfl
  | cons u rest ih =>
    rw [List.all_cons, Bool.and_eq_true] at h
    have hnext : step (.closing before) u = (.closing (before ++ [u]), []) := by
      simp [step, (isNameUnit_spec h.1).1]
    rw [run, hnext]
    dsimp only
    rw [ih h.2]
    simp

theorem reads_closing {name : Units} (hname : isName name = true) :
    Reads (Markup.closing name).write [.closing name] := by
  have hunits : name.all isNameUnit = true := by
    cases name with
    | nil => rfl
    | cons u rest =>
      rw [isName, Bool.and_eq_true] at hname
      rw [List.all_cons, isNameUnit_of_isLetter hname.1, hname.2]
      rfl
  have hstart : run .data (plain "</") = (.closing [], []) := rfl
  have hend : run (.closing name) (plain ">") = (.data, [.closing name]) := by
    rw [plain_greaterThan]
    simp [run, step]
  rw [Reads, Markup.write]
  simp only [run_append, hstart, run_closing hunits, hend, List.nil_append, List.append_nil]

theorem run_declaration {text : Units} (h : (text.all fun u => u != greaterThan) = true)
    (before : Units) : run (.declaration before) text = (.declaration (before ++ text), []) := by
  induction text generalizing before with
  | nil => rw [List.append_nil]; rfl
  | cons u rest ih =>
    rw [List.all_cons, Bool.and_eq_true, bne_iff_ne] at h
    have hnext : step (.declaration before) u = (.declaration (before ++ [u]), []) := by
      simp [step, h.1]
    rw [run, hnext]
    dsimp only
    rw [ih h.2]
    simp

theorem reads_declaration {text : Units} (h : (text.all fun u => u != greaterThan) = true) :
    Reads (Markup.declaration text).write [.declaration text] := by
  have hstart : run .data (plain "<!") = (.declaration [], []) := rfl
  have hend : run (.declaration text) (plain ">") = (.data, [.declaration text]) := by
    rw [plain_greaterThan]
    simp [run, step]
  rw [Reads, Markup.write]
  simp only [run_append, hstart, run_declaration h, hend, List.nil_append, List.append_nil]

/-- A written part is read as it is meant. -/
theorem Markup.reads {part : Markup} (h : part.isWritable = true) :
    Reads part.write [part.token] := by
  cases part with
  | char u => exact reads_escapeUnit u
  | blank => rfl
  | opening name attrs => exact reads_opening h
  | closing name => exact reads_closing h
  | declaration text => exact reads_declaration h

/-- A hypertext as its writer means it. -/
abbrev Document := List Markup

/-- A document as a text. -/
def Document.write (document : Document) : Units := document.flatMap Markup.write

/-- What a writer writes is read as it was meant. -/
theorem Document.read_write {document : Document} (h : document.all Markup.isWritable = true) :
    read document.write = document.map Markup.token := by
  have hreads : Reads (document.flatMap Markup.write) (document.flatMap fun part => [part.token]) :=
    Reads.flatMap fun part hpart => Markup.reads (List.all_eq_true.mp h part hpart)
  rw [Document.write, List.map_eq_flatMap]
  exact hreads.read_eq

/-! ### What matters of a hypertext -/

/-- The characters of a text. -/
def Spells (units : Units) (characters : List Char) : Prop :=
  units = characters.map fun c => c.toNat.toUInt16

theorem Spells.plain {text : String} {characters : List Char} (h : text = String.ofList characters) :
    Spells (plain text) characters := by
  rw [Spells, h, CodeUnits.plain, String.toList_ofList]

theorem Spells.append {first second : Units} {characters more : List Char}
    (hfirst : Spells first characters) (hsecond : Spells second more) :
    Spells (first ++ second) (characters ++ more) := by
  rw [Spells, hfirst, hsecond, List.map_append]

section Shown

-- `keeps` tells the attributes whose values matter
variable (keeps : Units → Bool)

/-- A token with the names of its attributes, and the values of those that matter. -/
def Token.forget : Token → Token
  | .opening tag => .opening
      ⟨tag.name, tag.attrs.map fun attr => (attr.1, if keeps attr.1 then attr.2 else [])⟩
  | token => token

/-- A text that stands outside tags and shows the tokens, up to values that do not matter. -/
def Shows (raw : Units) (tokens : List Token) : Prop :=
  ∃ full, Reads raw full ∧ full.map (Token.forget keeps) = tokens

variable {keeps}

theorem Shows.read_eq {raw : Units} {tokens : List Token} (h : Shows keeps raw tokens) :
    (read raw).map (Token.forget keeps) = tokens := by
  obtain ⟨full, hreads, htokens⟩ := h
  rw [hreads.read_eq, htokens]

theorem Reads.shows {raw : Units} {full : List Token} (h : Reads raw full) :
    Shows keeps raw (full.map (Token.forget keeps)) := ⟨full, h, rfl⟩

theorem Shows.nil : Shows keeps [] [] := ⟨[], Reads.nil, rfl⟩

theorem Shows.append {first second : Units} {before after : List Token}
    (hfirst : Shows keeps first before) (hsecond : Shows keeps second after) :
    Shows keeps (first ++ second) (before ++ after) := by
  obtain ⟨full, hreads, rfl⟩ := hfirst
  obtain ⟨more, hmore, rfl⟩ := hsecond
  exact ⟨full ++ more, hreads.append hmore, List.map_append⟩

/-- Only the empty text shows nothing. -/
theorem Shows.eq_nil_iff {raw : Units} {tokens : List Token} (h : Shows keeps raw tokens) :
    raw = [] ↔ tokens = [] := by
  obtain ⟨full, hreads, rfl⟩ := h
  rw [List.map_eq_nil_iff]
  constructor
  · intro hraw
    subst hraw
    exact (congrArg Prod.snd hreads).symm
  · intro hfull
    subst hfull
    exact hreads.eq_nil

theorem Shows.intercalate {α : Type*} {separator : Units} {between : List Token} {items : List α}
    {write : α → Units} {mean : α → List Token} (hseparator : Shows keeps separator between)
    (h : ∀ item ∈ items, Shows keeps (write item) (mean item)) :
    Shows keeps (separator.intercalate (items.map write)) (between.intercalate (items.map mean)) := by
  induction items with
  | nil => exact Shows.nil
  | cons item rest ih =>
    have hitem := h item List.mem_cons_self
    have hrest := ih fun other hother => h other (List.mem_cons_of_mem _ hother)
    cases rest with
    | nil => simpa using hitem
    | cons next more =>
      simp only [List.map_cons, List.intercalate_cons_cons] at hrest ⊢
      exact (hitem.append hseparator).append hrest

theorem Shows.flatMap {α : Type*} {items : List α} {write : α → Units} {mean : α → List Token}
    (h : ∀ item ∈ items, Shows keeps (write item) (mean item)) :
    Shows keeps (items.flatMap write) (items.flatMap mean) := by
  induction items with
  | nil => exact Shows.nil
  | cons item rest ih =>
    rw [List.flatMap_cons, List.flatMap_cons]
    exact (h item List.mem_cons_self).append
      (ih fun other hother => h other (List.mem_cons_of_mem _ hother))

theorem Shows.zipIdx {α : Type*} {items : List α} {write : α × ℕ → Units} {mean : α → List Token}
    (h : ∀ item, Shows keeps (write item) (mean item.1)) :
    Shows keeps (items.zipIdx.flatMap write) (items.flatMap mean) := by
  have hitems : items.flatMap mean = items.zipIdx.flatMap fun item => mean item.1 := by
    conv_lhs => rw [← List.zipIdx_map_fst 0 items, List.flatMap_map]
  rw [hitems]
  exact Shows.flatMap fun item _ => h item

theorem shows_chars {raw text : Units} (h : Reads raw (chars text)) :
    Shows keeps raw (chars text) := by
  refine ⟨chars text, h, ?_⟩
  rw [chars, List.map_map]
  rfl

variable (keeps)

/-- What a text shows, when it ends outside tags. -/
def shown (raw : Units) : Option (List Token) :=
  match run .data raw with
  | (.data, full) => some (full.map (Token.forget keeps))
  | _ => none

variable {keeps}

/-- A text of known characters shows what they show. -/
theorem Spells.shows {raw : Units} {characters : List Char} {tokens : List Token}
    (hspells : Spells raw characters)
    (h : shown keeps (characters.map fun c => c.toNat.toUInt16) = some tokens) :
    Shows keeps raw tokens := by
  rw [hspells]
  unfold shown at h
  split at h
  · next full hrun => exact ⟨full, hrun, Option.some.inj h⟩
  · cases h

/-- A written part shows what it means. -/
theorem Markup.shows {part : Markup} (h : part.isWritable = true) :
    Shows keeps part.write [part.token.forget keeps] := (Markup.reads h).shows

end Shown

end InternalControl.HtmlText
