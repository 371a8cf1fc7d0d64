import InternalControl.RichTextDoc

/-!
# Normalized documents

A value that the validator accepts is normalized to one that it accepts too, with the same
counts, that normalizing leaves as it is, and that is the same document with the spaces
around its links left out. The argument follows the nodes from the marks up.
-/

namespace InternalControl.RichText

open CodeUnits EmailUrl JsonData

/-! ### Fields -/

section Fields

variable {fields : Fields} {value : JsonData} {name other : String} {path : Units}

theorem get?_cons_self : get? ((plain name, value) :: fields) name = some value := by
  simp [get?]

theorem get?_cons_of_ne (hne : plain other ≠ plain name) :
    get? ((plain other, value) :: fields) name = get? fields name := by
  simp [get?, hne]

theorem text?_cons_self {units : Units} :
    text? ((plain name, string units) :: fields) name = some units := by
  rw [text?, get?_cons_self]

theorem isType_cons_iff {kind : Units} :
    isType ((plain "type", string kind) :: fields) name = true ↔ kind = plain name := by
  rw [isType, decide_eq_true_eq, typeOf_cons, Option.some.injEq]

theorem typeOf_eq_of_text? {kind : Units} (h : typeOf fields = some kind) :
    isType fields name = decide (kind = plain name) := by
  rw [isType, h]
  simp

theorem onlyKeys_nil {allowed : List String} : onlyKeys [] allowed path = [] := rfl

/-- A field that is allowed is not reported. -/
theorem onlyKeys_cons {allowed : List String} (h : name ∈ "type" :: allowed) :
    onlyKeys ((plain name, value) :: fields) allowed path = onlyKeys fields allowed path := by
  have hmem : plain name ∈ ("type" :: allowed).map plain := List.mem_map_of_mem h
  rw [onlyKeys, List.filter_cons_of_neg (by rw [decide_eq_true_eq]; exact not_not.mpr hmem)]
  rfl

end Fields

section Kept

variable {parsesAsHttps : Units → Bool}

/-! ### Marks -/

/-- An accepted address is accepted without the spaces around it. -/
theorem checkHref_trimmed {href : Option JsonData} {path : Units}
    (h : checkHref parsesAsHttps href path = []) : ∃ units, href = some (string units) ∧
      ∀ path', checkHref parsesAsHttps (some (string (trimUnits units))) path' = [] := by
  unfold checkHref at h
  split at h
  · next units =>
    split_ifs at h with hblank hlong hallowed
    refine ⟨units, rfl, fun path' => ?_⟩
    have hshort := length_trimUnits_le units
    rw [checkHref, trimUnits_trimUnits, if_neg hblank, if_neg (by omega),
      if_pos (isAllowedDesignUrl_trimUnits parsesAsHttps hallowed)]
  · cases h

/-- The address of an accepted link, and what is checked of the link written anew. -/
theorem checkAttrs_trimmed {attrs : Option JsonData} {path : Units}
    (h : checkAttrs parsesAsHttps attrs path = []) :
    ∃ fields units, attrs = some (object fields) ∧ text? fields "href" = some units ∧
      ∀ path', checkAttrs parsesAsHttps
        (some (object [(plain "href", string (trimUnits units))])) path' = [] := by
  unfold checkAttrs at h
  split at h
  · next fields =>
    obtain ⟨units, hunits, htrimmed⟩ := checkHref_trimmed (List.append_eq_nil_iff.mp h).2
    refine ⟨fields, units, rfl, by rw [text?, hunits], fun path' => ?_⟩
    rw [checkAttrs, get?_cons_self, htrimmed, List.append_nil,
      List.filter_cons_of_neg (by simp)]
    rfl
  · cases h

theorem markType?_eq_some {mark : JsonData} {kind : Units} (h : markType? mark = some kind) :
    ∃ fields, mark = object fields ∧ typeOf fields = some kind ∧ kind ∈ markTypes.map plain := by
  unfold markType? at h
  split at h
  · next fields =>
    rw [Option.filter_eq_some_iff, decide_eq_true_eq] at h
    exact ⟨fields, rfl, h⟩
  · cases h

/-- What writing an accepted mark anew keeps. -/
structure MarkKept (mark mark' : JsonData) (value : Mark) : Prop where
  result : normalizeMark mark = some mark'
  again : normalizeMark mark' = some mark'
  reads : readMark mark = some value
  readsAgain : readMark mark' = some value.trimmed
  kind : markType? mark' = markType? mark

/-- A link is written anew with its address and read as one. -/
theorem link_spec {fields attrs : Fields} {units : Units}
    (htype : typeOf fields = some (plain "link")) (hattrs : get? fields "attrs" = some (object attrs))
    (hhref : text? attrs "href" = some units) :
    normalizeMark (object fields) = some (ofType "link"
      [(plain "attrs", object [(plain "href", string (trimUnits units))])]) ∧
    readMark (object fields) = some (.link units) := by
  have hbold : ¬plain "link" = plain "bold" := by decide
  have hitalic : ¬plain "link" = plain "italic" := by decide
  have hunderline : ¬plain "link" = plain "underline" := by decide
  constructor
  · simp [normalizeMark, htype, hattrs, hhref]
  · simp [readMark, htype, hattrs, hhref, hbold, hitalic, hunderline]

/-- A mark of another kind is written anew with its kind and read as one. -/
theorem plainMark_spec {kind : Units} (hmem : kind ∈ markTypes.map plain)
    (hlink : kind ≠ plain "link") : ∃ value : Mark, value.trimmed = value ∧
      ∀ fields, typeOf fields = some kind →
        normalizeMark (object fields) = some (object [(plain "type", string kind)]) ∧
          readMark (object fields) = some value := by
  have hkinds : kind = plain "bold" ∨ kind = plain "italic" ∨ kind = plain "underline" := by
    simp only [markTypes, List.map_cons, List.map_nil, List.mem_cons, List.not_mem_nil, or_false]
      at hmem
    tauto
  have hwritten : ∀ fields, typeOf fields = some kind →
      normalizeMark (object fields) = some (object [(plain "type", string kind)]) := by
    intro fields htype
    simp [normalizeMark, htype, hlink]
  rcases hkinds with rfl | rfl | rfl
  · exact ⟨.bold, rfl, fun fields htype => ⟨hwritten fields htype, by simp [readMark, htype]⟩⟩
  · have hbold : ¬plain "italic" = plain "bold" := by decide
    exact ⟨.italic, rfl, fun fields htype =>
      ⟨hwritten fields htype, by simp [readMark, htype, hbold]⟩⟩
  · have hbold : ¬plain "underline" = plain "bold" := by decide
    have hitalic : ¬plain "underline" = plain "italic" := by decide
    exact ⟨.underline, rfl, fun fields htype =>
      ⟨hwritten fields htype, by simp [readMark, htype, hbold, hitalic]⟩⟩

/-- What is checked of an object of a known kind. -/
theorem checkMark_object {seen : List Units} {fields : Fields} {path : Units} {kind : Units}
    (htype : typeOf fields = some kind) (hmem : kind ∈ markTypes.map plain) :
    checkMark parsesAsHttps seen (object fields) path =
      (if kind ∈ seen then [⟨fieldPath path (plain "type"), "El texto repite un formato."⟩] else []) ++
        if kind ≠ plain "link" then onlyKeys fields [] path
        else onlyKeys fields ["attrs"] path ++
          checkAttrs parsesAsHttps (get? fields "attrs") (fieldPath path (plain "attrs")) := by
  have hkind : markType? (object fields) = some kind := by
    rw [markType?, htype, Option.filter_some, if_pos (by simpa using hmem)]
  simp only [checkMark, hkind]

/-- An accepted mark is written anew, and accepted after the same marks. -/
theorem mark_kept {seen : List Units} {mark : JsonData} {path : Units}
    (h : checkMark parsesAsHttps seen mark path = []) : ∃ mark' value,
      MarkKept mark mark' value ∧ ∀ path', checkMark parsesAsHttps seen mark' path' = [] := by
  cases hkind : markType? mark with
  | none =>
    unfold checkMark at h
    split at h
    · next fields kind heq =>
      rw [hkind] at heq
      cases heq
    · cases h
  | some kind =>
    obtain ⟨fields, rfl, htype, hmem⟩ := markType?_eq_some hkind
    rw [checkMark_object htype hmem] at h
    obtain ⟨hseen, hfields⟩ := List.append_eq_nil_iff.mp h
    have hnew : kind ∉ seen := by
      intro hmem
      rw [if_pos hmem] at hseen
      cases hseen
    by_cases hlink : kind = plain "link"
    · subst hlink
      rw [if_neg (not_not.mpr rfl)] at hfields
      obtain ⟨attrs, units, hattrs, hhref, htrimmed⟩ :=
        checkAttrs_trimmed (List.append_eq_nil_iff.mp hfields).2
      obtain ⟨hresult, hreads⟩ := link_spec htype hattrs hhref
      have htype' := typeOf_cons (plain "link")
        [(plain "attrs", object [(plain "href", string (trimUnits units))])]
      obtain ⟨hagain, hreads'⟩ := link_spec htype'
        ((get?_cons_of_ne (by decide)).trans get?_cons_self) text?_cons_self
      rw [trimUnits_trimUnits] at hagain
      refine ⟨_, _, ⟨hresult, hagain, hreads, hreads', ?_⟩, fun path' => ?_⟩
      · rw [hkind, ofType, markType?, htype', Option.filter_some, if_pos (by simpa using hmem)]
      · rw [ofType, checkMark_object htype' hmem, if_neg hnew, if_neg (not_not.mpr rfl),
          onlyKeys_cons (by decide), onlyKeys_cons (by decide), onlyKeys_nil,
          get?_cons_of_ne (by decide), get?_cons_self, htrimmed]
        rfl
    · obtain ⟨value, hvalue, hspec⟩ := plainMark_spec hmem hlink
      have htype' := typeOf_cons kind []
      obtain ⟨hresult, hreads⟩ := hspec fields htype
      obtain ⟨hagain, hreads'⟩ := hspec _ htype'
      refine ⟨_, value, ⟨hresult, hagain, hreads, hreads'.trans (congrArg some hvalue.symm), ?_⟩,
        fun path' => ?_⟩
      · rw [hkind, markType?, htype', Option.filter_some, if_pos (by simpa using hmem)]
      · rw [checkMark_object htype' hmem, if_neg hnew, if_pos hlink, onlyKeys_cons (by decide),
          onlyKeys_nil]
        rfl

/-- What writing the accepted marks of a text anew keeps. -/
structure MarksKept (marks marks' : List JsonData) (values : List Mark) : Prop where
  result : marks.mapM normalizeMark = some marks'
  again : marks'.mapM normalizeMark = some marks'
  reads : marks.mapM readMark = some values
  readsAgain : marks'.mapM readMark = some (values.map Mark.trimmed)

/-- Accepted marks are written anew one by one, and accepted again. -/
theorem markItems_kept {marks : List JsonData} {path : Units} {seen : List Units} {index : ℕ}
    (h : checkMarkItems parsesAsHttps path seen index marks = []) : ∃ marks' values,
      MarksKept marks marks' values ∧
        ∀ path' index', checkMarkItems parsesAsHttps path' seen index' marks' = [] := by
  induction marks generalizing seen index with
  | nil => exact ⟨[], [], ⟨rfl, rfl, rfl, rfl⟩, fun path' index' => rfl⟩
  | cons mark rest ih =>
    obtain ⟨hmark, hrest⟩ := List.append_eq_nil_iff.mp h
    obtain ⟨mark', value, hkept, hchecked⟩ := mark_kept hmark
    obtain ⟨rest', values, hrests, hcheckedRest⟩ := ih hrest
    refine ⟨mark' :: rest', value :: values, ⟨?_, ?_, ?_, ?_⟩, fun path' index' => ?_⟩
    · simp [List.mapM_cons, hkept.result, hrests.result]
    · simp [List.mapM_cons, hkept.again, hrests.again]
    · simp [List.mapM_cons, hkept.reads, hrests.reads]
    · simp [List.mapM_cons, hkept.readsAgain, hrests.readsAgain]
    · rw [checkMarkItems, hkept.kind, hchecked, hcheckedRest]
      rfl

/-- The marks of a text, which may be left out, as a list. -/
theorem marks_kept {marks : Option JsonData} {path : Units}
    (h : checkMarks parsesAsHttps marks path = []) : ∃ marks' values,
      normalizeMarks marks = some marks' ∧ readMarks marks = some values ∧
      normalizeMarks (some (array marks')) = some marks' ∧
      readMarks (some (array marks')) = some (values.map Mark.trimmed) ∧
      ∀ path', checkMarks parsesAsHttps (some (array marks')) path' = [] := by
  unfold checkMarks at h
  split at h
  · exact ⟨[], [], rfl, rfl, rfl, rfl, fun path' => rfl⟩
  · obtain ⟨marks', values, hkept, hchecked⟩ := markItems_kept h
    exact ⟨marks', values, hkept.result, hkept.reads, hkept.again, hkept.readsAgain,
      fun path' => hchecked path' 0⟩
  · cases h

/-! ### Nodes -/

/-- Nothing is wrong in a walk, and it counts what another one counts. -/
structure Agrees (walk' walk : Walk) : Prop where
  issues : walk'.issues = []
  nodes : walk'.nodes = walk.nodes
  textLength : walk'.textLength = walk.textLength
  hasVisibleText : walk'.hasVisibleText = walk.hasVisibleText

theorem Agrees.andThen {first' first second' second : Walk} (hfirst : Agrees first' first)
    (hsecond : Agrees second' second) : Agrees (first'.andThen second') (first.andThen second) where
  issues := by rw [Walk.andThen, hfirst.issues, hsecond.issues]; rfl
  nodes := by rw [Walk.andThen, hfirst.nodes, hsecond.nodes]; rfl
  textLength := by rw [Walk.andThen, hfirst.textLength, hsecond.textLength]; rfl
  hasVisibleText := by rw [Walk.andThen, hfirst.hasVisibleText, hsecond.hasVisibleText]; rfl

theorem agrees_wrong {issues : List JsonIssue} : Agrees (.wrong []) (.wrong issues) :=
  ⟨rfl, rfl, rfl, rfl⟩

theorem agrees_self {walk : Walk} (h : walk.issues = []) : Agrees walk walk := ⟨h, rfl, rfl, rfl⟩

theorem issues_andThen {first second : Walk} (h : (first.andThen second).issues = []) :
    first.issues = [] ∧ second.issues = [] := List.append_eq_nil_iff.mp h

/-- What writing an accepted node anew keeps. -/
structure Kept {α : Type} (check : JsonData → Units → Walk) (normalize : JsonData → Option JsonData)
    (read : JsonData → Option α) (trimmed : α → α) (node node' : JsonData) (value : α) : Prop where
  result : normalize node = some node'
  again : normalize node' = some node'
  reads : read node = some value
  readsAgain : read node' = some (trimmed value)
  agrees : ∀ path path', Agrees (check node' path') (check node path)

/-- Every accepted node of a kind is kept. -/
def AllKept {α : Type} (check : JsonData → Units → Walk) (normalize : JsonData → Option JsonData)
    (read : JsonData → Option α) (trimmed : α → α) : Prop :=
  ∀ node path, (check node path).issues = [] →
    ∃ node' value, Kept check normalize read trimmed node node' value

/-- What writing the accepted items of an array anew keeps. -/
structure ItemsKept {α : Type} (check : JsonData → Units → Walk)
    (normalize : JsonData → Option JsonData) (read : JsonData → Option α) (trimmed : α → α)
    (items items' : List JsonData) (values : List α) : Prop where
  result : items.mapM normalize = some items'
  again : items'.mapM normalize = some items'
  reads : items.mapM read = some values
  readsAgain : items'.mapM read = some (values.map trimmed)
  length : items'.length = items.length
  agrees : ∀ path path' index index',
    Agrees (.overItems check path' index' items') (.overItems check path index items)

/-- Items are kept one by one. -/
theorem AllKept.items {α : Type} {check : JsonData → Units → Walk}
    {normalize : JsonData → Option JsonData} {read : JsonData → Option α} {trimmed : α → α}
    (hall : AllKept check normalize read trimmed) {items : List JsonData} {path : Units} {index : ℕ}
    (h : (Walk.overItems check path index items).issues = []) :
    ∃ items' values, ItemsKept check normalize read trimmed items items' values := by
  induction items generalizing index with
  | nil =>
    exact ⟨[], [], rfl, rfl, rfl, rfl, rfl, fun path path' index index' => agrees_self rfl⟩
  | cons item rest ih =>
    obtain ⟨hitem, hrest⟩ := issues_andThen h
    obtain ⟨item', value, hkept⟩ := hall item _ hitem
    obtain ⟨rest', values, hrests⟩ := ih hrest
    refine ⟨item' :: rest', value :: values, ?_, ?_, ?_, ?_, ?_, fun path path' index index' => ?_⟩
    · simp [List.mapM_cons, hkept.result, hrests.result]
    · simp [List.mapM_cons, hkept.again, hrests.again]
    · simp [List.mapM_cons, hkept.reads, hrests.reads]
    · simp [List.mapM_cons, hkept.readsAgain, hrests.readsAgain]
    · rw [List.length_cons, List.length_cons, hrests.length]
    · exact (hkept.agrees _ _).andThen (hrests.agrees _ _ _ _)

/-- A node of a kind is not of another. -/
theorem isType_ofType {kind name : String} {fields : Fields} :
    isType ((plain "type", string (plain kind)) :: fields) name = decide (plain kind = plain name) :=
  typeOf_eq_of_text? (typeOf_cons _ _)

/-- A text that is accepted somewhere is accepted everywhere. -/
theorem checkText_spec {text : Option JsonData} {path : Units}
    (h : (checkText text path).issues = []) : ∃ units, text = some (string units) ∧
      ∀ path path', Agrees (checkText (some (string units)) path')
        (checkText (some (string units)) path) := by
  unfold checkText at h
  split at h
  · next units =>
    split_ifs at h with hempty hbroken
    · cases h
    · refine ⟨units, rfl, fun path path' => ?_⟩
      rw [checkText, if_neg hempty, checkText, if_neg hempty, if_neg hbroken, if_neg hbroken]
      exact ⟨rfl, rfl, rfl, rfl⟩
  · cases h

/-- A list that a node has only when it is not empty. -/
def optionalField (name : String) (items : List JsonData) : Fields :=
  if items ≠ [] then [(plain name, array items)] else []

theorem get?_optionalField (name : String) (items : List JsonData) :
    get? (optionalField name items) name = if items ≠ [] then some (array items) else none := by
  unfold optionalField
  split
  · exact get?_cons_self
  · rfl

/-- What treats a list left out as an empty one does not see whether it is left out. -/
theorem apply_optional {β : Type} (f : Option JsonData → β) (h : f none = f (some (array [])))
    (items : List JsonData) :
    f (if items ≠ [] then some (array items) else none) = f (some (array items)) := by
  by_cases hempty : items = []
  · rw [hempty, if_neg (not_not.mpr rfl), h]
  · rw [if_pos hempty]

theorem onlyKeys_optionalField {name : String} {items : List JsonData} {allowed : List String}
    {path : Units} (h : name ∈ "type" :: allowed) :
    onlyKeys (optionalField name items) allowed path = [] := by
  unfold optionalField
  split
  · rw [onlyKeys_cons h, onlyKeys_nil]
  · exact onlyKeys_nil

theorem checkInline_hardBreak {fields : Fields} {path : Units}
    (h : isType fields "hardBreak" = true) : checkInline parsesAsHttps (object fields) path =
      Walk.node.andThen (.wrong (onlyKeys fields ["marks"] path ++
        checkMarks parsesAsHttps (get? fields "marks") (fieldPath path (plain "marks")))) := by
  rw [checkInline, if_pos h]

theorem checkInline_text {fields : Fields} {path : Units} (h : isType fields "hardBreak" ≠ true)
    (htext : isType fields "text" = true) : checkInline parsesAsHttps (object fields) path =
      Walk.node.andThen (((Walk.wrong (onlyKeys fields ["text", "marks"] path)).andThen
        (checkText (get? fields "text") (fieldPath path (plain "text")))).andThen
        (.wrong (checkMarks parsesAsHttps (get? fields "marks") (fieldPath path (plain "marks"))))) := by
  rw [checkInline, if_neg h, if_pos htext]

/-- A line break is written anew without marks. -/
theorem hardBreak_kept {fields : Fields} (hbreak : isType fields "hardBreak" = true) :
    Kept (checkInline parsesAsHttps) normalizeInline readInline Inline.trimmed (object fields)
      (ofType "hardBreak" []) .hardBreak := by
  have hkind : isType [(plain "type", string (plain "hardBreak"))] "hardBreak" = true := by decide
  refine ⟨?_, ?_, ?_, ?_, fun path path' => ?_⟩
  · rw [normalizeInline, if_pos hbreak]
  · rw [ofType, normalizeInline, if_pos hkind]
    rfl
  · rw [readInline, if_pos hbreak]
  · rw [ofType, readInline, if_pos hkind]
    rfl
  · rw [ofType, checkInline_hardBreak hkind, checkInline_hardBreak hbreak, onlyKeys_cons (by decide),
      onlyKeys_nil, get?_cons_of_ne (by decide)]
    exact (agrees_self rfl).andThen agrees_wrong

/-- A text with its marks, as it is written anew. -/
def textNode (text : Units) (marks : List JsonData) : JsonData :=
  ofType "text" ((plain "text", string text) :: optionalField "marks" marks)

/-- How a text with marks is written and read. -/
theorem text_spec {fields : Fields} {text : Units} {marks : List JsonData} {values : List Mark}
    (hbreak : isType fields "hardBreak" ≠ true) (htype : isType fields "text" = true)
    (htext : get? fields "text" = some (string text))
    (hmarks : normalizeMarks (get? fields "marks") = some marks)
    (hvalues : readMarks (get? fields "marks") = some values) :
    normalizeInline (object fields) = some (textNode text marks) ∧
      readInline (object fields) = some (.text text values) := by
  constructor
  · rw [normalizeInline, if_neg hbreak, text?, htext, hmarks]
    by_cases hempty : marks = []
    · simp [hempty, textNode, optionalField]
    · simp [hempty, textNode, optionalField]
  · rw [readInline, if_neg hbreak, if_pos htype, text?, htext, hvalues]
    rfl

theorem inline_kept :
    AllKept (checkInline parsesAsHttps) normalizeInline readInline Inline.trimmed := by
  intro node path h
  have hnode := (issues_andThen h).2
  split at hnode
  · next fields =>
    by_cases hbreak : isType fields "hardBreak" = true
    · exact ⟨_, _, hardBreak_kept hbreak⟩
    · rw [if_neg hbreak] at hnode
      split_ifs at hnode with htype
      · obtain ⟨hfields, hmarks⟩ := issues_andThen hnode
        obtain ⟨text, htext, hagrees⟩ := checkText_spec (issues_andThen hfields).2
        obtain ⟨marks', values, hresult, hreads, hagain, hreads', hchecked⟩ := marks_kept hmarks
        obtain ⟨hwritten, hread⟩ := text_spec hbreak htype htext hresult hreads
        have hbreak' : isType ((plain "type", string (plain "text")) ::
            (plain "text", string text) :: optionalField "marks" marks') "hardBreak" ≠ true := by
          rw [isType_ofType]
          decide
        have htype' : isType ((plain "type", string (plain "text")) ::
            (plain "text", string text) :: optionalField "marks" marks') "text" = true := by
          rw [isType_ofType]
          decide
        have htext' : get? ((plain "type", string (plain "text")) ::
            (plain "text", string text) :: optionalField "marks" marks') "text" =
              some (string text) := (get?_cons_of_ne (by decide)).trans get?_cons_self
        have hfield : get? ((plain "type", string (plain "text")) ::
            (plain "text", string text) :: optionalField "marks" marks') "marks" =
              if marks' ≠ [] then some (array marks') else none :=
          (get?_cons_of_ne (by decide)).trans
            ((get?_cons_of_ne (by decide)).trans (get?_optionalField "marks" marks'))
        obtain ⟨hwritten', hread'⟩ := text_spec hbreak' htype' htext'
          (hfield ▸ (apply_optional normalizeMarks rfl marks').trans hagain)
          (hfield ▸ (apply_optional readMarks rfl marks').trans hreads')
        refine ⟨_, _, ⟨hwritten, hwritten', hread, hread', fun path path' => ?_⟩⟩
        rw [textNode, ofType, checkInline_text hbreak' htype', checkInline_text hbreak htype, hfield,
          apply_optional (fun marks => checkMarks parsesAsHttps marks _) rfl marks', hchecked, htext']
        have hkeys : onlyKeys ((plain "type", string (plain "text")) ::
            (plain "text", string text) :: optionalField "marks" marks') ["text", "marks"] path' = [] := by
          rw [onlyKeys_cons (by decide), onlyKeys_cons (by decide), onlyKeys_optionalField (by decide)]
        rw [hkeys]
        rw [htext]
        exact (agrees_self rfl).andThen ((agrees_wrong.andThen (hagrees _ _)).andThen agrees_wrong)
      · cases hnode
  · cases hnode

/-- A paragraph as it is written anew. -/
def paragraphNode (content : List JsonData) : JsonData :=
  ofType "paragraph" (optionalField "content" content)

/-- How a paragraph is written and read. -/
theorem paragraph_spec {fields : Fields} {items items' : List JsonData} {values : List Inline}
    (hitems : givenItems (get? fields "content") = some items)
    (hwritten : items.mapM normalizeInline = some items')
    (hread : items.mapM readInline = some values) :
    normalizeParagraph (object fields) = some (paragraphNode items') ∧
      (isType fields "paragraph" = true → readParagraph (object fields) = some ⟨values⟩) := by
  constructor
  · rw [normalizeParagraph, hitems]
    by_cases hempty : items' = []
    · simp [hwritten, hempty, paragraphNode, optionalField]
    · simp [hwritten, hempty, paragraphNode, optionalField]
  · intro htype
    rw [readParagraph, if_pos htype, hitems]
    simp [hread]

theorem checkParagraph_object {fields : Fields} {path : Units} {items : List JsonData}
    (htype : isType fields "paragraph" = true)
    (hitems : givenItems (get? fields "content") = some items) :
    checkParagraph parsesAsHttps (object fields) path = Walk.node.andThen
      ((Walk.wrong (onlyKeys fields ["content"] path)).andThen
        (.overItems (checkInline parsesAsHttps) (fieldPath path (plain "content")) 0 items)) := by
  rw [checkParagraph, if_pos htype]
  cases hcontent : get? fields "content" with
  | none =>
    rw [hcontent] at hitems
    rw [← Option.some.inj hitems]
    rfl
  | some content =>
    rw [hcontent] at hitems
    cases content with
    | array contents =>
      rw [← Option.some.inj hitems]
    | _ => cases hitems

theorem paragraph_kept :
    AllKept (checkParagraph parsesAsHttps) normalizeParagraph readParagraph Paragraph.trimmed := by
  intro node path h
  have hnode := (issues_andThen h).2
  split at hnode
  · next fields =>
    split_ifs at hnode with htype
    · have hcontent := (issues_andThen hnode).2
      obtain ⟨items, hitems⟩ : ∃ items, givenItems (get? fields "content") = some items := by
        split at hcontent
        · next hnone => exact ⟨[], by rw [hnone]; rfl⟩
        · next items harray => exact ⟨items, by rw [harray]; rfl⟩
        · cases hcontent
      rw [checkParagraph_object htype hitems] at h
      obtain ⟨items', values, hkept⟩ := inline_kept.items (issues_andThen (issues_andThen h).2).2
      obtain ⟨hwritten, hread⟩ := paragraph_spec hitems hkept.result hkept.reads
      have htype' : isType ((plain "type", string (plain "paragraph")) ::
          optionalField "content" items') "paragraph" = true := by
        rw [isType_ofType]
        decide
      have hitems' : givenItems (get? ((plain "type", string (plain "paragraph")) ::
          optionalField "content" items') "content") = some items' := by
        rw [get?_cons_of_ne (by decide), get?_optionalField]
        exact apply_optional givenItems rfl items'
      obtain ⟨hwritten', hread'⟩ := paragraph_spec hitems' hkept.again hkept.readsAgain
      refine ⟨_, _, ⟨hwritten, hwritten', hread htype, hread' htype', fun path path' => ?_⟩⟩
      rw [paragraphNode, ofType, checkParagraph_object htype' hitems',
        checkParagraph_object htype hitems, onlyKeys_cons (by decide),
        onlyKeys_optionalField (by decide)]
      exact (agrees_self rfl).andThen (agrees_wrong.andThen (hkept.agrees _ _ _ _))
    · cases hnode
  · cases hnode

/-! ### Content that may not be empty -/

theorem overContent_eq {check : JsonData → Units → Walk} {fields : Fields} {items : List JsonData}
    (hitems : contentOf fields = some items) (hne : items ≠ []) (path : Units) :
    overContent check fields path = .overItems check (fieldPath path (plain "content")) 0 items := by
  obtain ⟨item, rest, rfl⟩ := List.exists_cons_of_ne_nil hne
  unfold contentOf at hitems
  split at hitems
  · next items harray =>
    cases hitems
    rw [overContent, contentArray, harray]
  · cases hitems

/-- An accepted content is an array with items. -/
theorem contentOf_spec {check : JsonData → Units → Walk} {fields : Fields} {path : Units}
    (h : (overContent check fields path).issues = []) :
    ∃ items, contentOf fields = some items ∧ items ≠ [] := by
  unfold overContent contentArray at h
  split at h
  · next items hitems =>
    split at hitems
    · next item rest harray => exact ⟨item :: rest, by rw [contentOf, harray], List.cons_ne_nil item rest⟩
    · cases hitems
  · cases h

/-- A node with a kind and items. -/
def contentFields (kind : Units) (items : List JsonData) : Fields :=
  [(plain "type", string kind), (plain "content", array items)]

theorem contentOf_contentFields (kind : Units) (items : List JsonData) :
    contentOf (contentFields kind items) = some items := by
  rw [contentOf, contentFields, get?_cons_of_ne (by decide), get?_cons_self]

theorem onlyKeys_contentFields (kind : Units) (items : List JsonData) (path : Units) :
    onlyKeys (contentFields kind items) ["content"] path = [] := by
  rw [contentFields, onlyKeys_cons (by decide), onlyKeys_cons (by decide), onlyKeys_nil]

/-- What is checked of a node with items that are kept. -/
theorem content_kept {α : Type} {check : JsonData → Units → Walk}
    {normalize : JsonData → Option JsonData} {read : JsonData → Option α} {trimmed : α → α}
    (hall : AllKept check normalize read trimmed) {fields : Fields} {path : Units}
    (h : (overContent check fields path).issues = []) (kind : Units) :
    ∃ items items' values, contentOf fields = some items ∧
      ItemsKept check normalize read trimmed items items' values ∧ ∀ path path',
        Agrees (overContent check (contentFields kind items') path') (overContent check fields path) := by
  obtain ⟨items, hitems, hne⟩ := contentOf_spec h
  rw [overContent_eq hitems hne] at h
  obtain ⟨items', values, hkept⟩ := hall.items h
  have hne' : items' ≠ [] := by
    intro hempty
    have hlength := hkept.length
    rw [hempty] at hlength
    exact hne (List.eq_nil_of_length_eq_zero hlength.symm)
  refine ⟨items, items', values, hitems, hkept, fun path path' => ?_⟩
  rw [overContent_eq (contentOf_contentFields kind items') hne', overContent_eq hitems hne]
  exact hkept.agrees _ _ _ _

/-! ### Lists and blocks -/

theorem isList_of_paragraph {fields : Fields} (htype : isType fields "paragraph" = true) :
    isList fields = false := by
  have hkind := typeOf_of_isType htype
  rw [isList, typeOf_eq_of_text? hkind, typeOf_eq_of_text? hkind]
  decide

/-- What is read as a paragraph is checked as one in a list and among the blocks. -/
theorem check_of_readParagraph {node : JsonData} {value : Paragraph} {path : Units}
    (h : readParagraph node = some value) :
    checkItemPart parsesAsHttps node path = checkParagraph parsesAsHttps node path ∧
      checkBlock parsesAsHttps node path = checkParagraph parsesAsHttps node path := by
  unfold readParagraph at h
  split at h
  · next fields =>
    split_ifs at h with htype
    have hlist := isList_of_paragraph htype
    rw [checkItemPart, checkBlock, hlist, htype]
    exact ⟨rfl, rfl⟩
  · cases h

theorem itemPart_kept :
    AllKept (checkItemPart parsesAsHttps) normalizeParagraph readParagraph Paragraph.trimmed := by
  intro node path h
  have hparagraph : (checkParagraph parsesAsHttps node path).issues = [] := by
    unfold checkItemPart at h
    split at h
    · split_ifs at h
      · cases h
      · exact h
    · exact h
  obtain ⟨node', value, hkept⟩ := paragraph_kept node path hparagraph
  refine ⟨node', value, hkept.result, hkept.again, hkept.reads, hkept.readsAgain, fun path path' => ?_⟩
  rw [(check_of_readParagraph hkept.readsAgain).1, (check_of_readParagraph hkept.reads).1]
  exact hkept.agrees path path'

theorem listItem_kept :
    AllKept (checkListItem parsesAsHttps) normalizeListItem readListItem ListItem.trimmed := by
  intro node path h
  have hnode := (issues_andThen h).2
  split at hnode
  · next fields =>
    split_ifs at hnode with htype
    · obtain ⟨items, items', values, hitems, hkept, hagrees⟩ :=
        content_kept itemPart_kept (issues_andThen hnode).2 (plain "listItem")
      have htype' : isType (contentFields (plain "listItem") items') "listItem" = true := by
        rw [contentFields, isType_ofType]
        decide
      refine ⟨object (contentFields (plain "listItem") items'), ⟨values⟩, ?_, ?_, ?_, ?_,
        fun path path' => ?_⟩
      · simp [normalizeListItem, hitems, hkept.result, ofType, contentFields]
      · rw [normalizeListItem, contentOf_contentFields]
        simp [hkept.again, ofType, contentFields]
      · simp [readListItem, htype, hitems, hkept.reads]
      · rw [readListItem, if_pos htype', contentOf_contentFields]
        simp [hkept.readsAgain, ListItem.trimmed]
      · rw [checkListItem, checkListItem, if_pos htype, if_pos htype', onlyKeys_contentFields]
        exact (agrees_self rfl).andThen (agrees_wrong.andThen (hagrees path path'))
    · cases hnode
  · cases hnode

/-- The kind of an object that says that it is a list. -/
theorem listKind?_of_isList {fields : Fields} (h : isList fields = true) :
    ∃ kind value, typeOf fields = some kind ∧ kind ≠ plain "paragraph" ∧
      ∀ others, typeOf others = some kind → isList others = true ∧ listKind? others = some value := by
  have hordered : plain "orderedList" ≠ plain "bulletList" := by decide
  rw [isList, Bool.or_eq_true] at h
  rcases h with hkind | hkind
  · refine ⟨plain "bulletList", .bulletList, typeOf_of_isType hkind, by decide, fun others htype => ?_⟩
    simp [isList, listKind?, typeOf_eq_of_text? htype]
  · refine ⟨plain "orderedList", .orderedList, typeOf_of_isType hkind, by decide, fun others htype => ?_⟩
    simp [isList, listKind?, typeOf_eq_of_text? htype, hordered]

/-- An accepted list is written anew with its kind. -/
theorem list_kept {fields : Fields} {path : Units} (hlist : isList fields = true)
    (h : (checkList parsesAsHttps fields path).issues = []) : ∃ node' value,
      Kept (checkBlock parsesAsHttps) normalizeBlock readBlock Block.trimmed (object fields) node'
        value := by
  obtain ⟨kind, value, htype, hparagraph, hkinds⟩ := listKind?_of_isList hlist
  obtain ⟨items, items', values, hitems, hkept, hagrees⟩ :=
    content_kept listItem_kept (issues_andThen h).2 kind
  have htype' : typeOf (contentFields kind items') = some kind := typeOf_cons kind _
  have hnot : ∀ others, typeOf others = some kind → isType others "paragraph" = false := by
    intro others hothers
    rw [typeOf_eq_of_text? hothers]
    exact decide_eq_false hparagraph
  refine ⟨object (contentFields kind items'), .list value values, ?_, ?_, ?_, ?_,
    fun path path' => ?_⟩
  · simp [normalizeBlock, hnot fields htype, htype, hitems, hkept.result, contentFields]
  · rw [normalizeBlock, hnot _ htype', htype', contentOf_contentFields]
    simp [hkept.again, contentFields]
  · simp [readBlock, hnot fields htype, (hkinds fields htype).2, hitems, hkept.reads]
  · rw [readBlock, hnot _ htype', (hkinds _ htype').2, contentOf_contentFields]
    simp [hkept.readsAgain, Block.trimmed]
  · rw [checkBlock, checkBlock, if_pos hlist, if_pos (hkinds _ htype').1, checkList, checkList,
      onlyKeys_contentFields]
    exact (agrees_self rfl).andThen (agrees_wrong.andThen (hagrees path path'))

theorem block_kept : AllKept (checkBlock parsesAsHttps) normalizeBlock readBlock Block.trimmed := by
  intro node path h
  unfold checkBlock at h
  split at h
  · next fields =>
    split_ifs at h with hlist htype
    · exact list_kept hlist (issues_andThen h).2
    · obtain ⟨node', value, hkept⟩ := paragraph_kept (object fields) path h
      have hwritten : ∀ others value, readParagraph others = some value →
          normalizeBlock others = normalizeParagraph others ∧
            readBlock others = (readParagraph others).map .paragraph := by
        intro others value hread
        unfold readParagraph at hread
        split at hread
        · next fields =>
          split_ifs at hread with hparagraph
          rw [normalizeBlock, readBlock, if_pos hparagraph, if_pos hparagraph]
          exact ⟨rfl, by cases readParagraph (object fields) <;> rfl⟩
        · cases hread
      obtain ⟨hnormalize, hread⟩ := hwritten _ _ hkept.reads
      obtain ⟨hnormalize', hread'⟩ := hwritten _ _ hkept.readsAgain
      refine ⟨node', .paragraph value, ?_, ?_, ?_, ?_, fun path path' => ?_⟩
      · rw [hnormalize, hkept.result]
      · rw [hnormalize', hkept.again]
      · rw [hread, hkept.reads]
        rfl
      · rw [hread', hkept.readsAgain]
        rfl
      · rw [(check_of_readParagraph hkept.readsAgain).2, (check_of_readParagraph hkept.reads).2]
        exact hkept.agrees path path'
    · cases h
  · cases h

end Kept

/-! ### Documents -/

theorem checkCounts_eq_nil {walk walk' : Walk} {path path' : Units} (hagrees : Agrees walk' walk)
    (h : checkCounts walk path = []) : checkCounts walk' path' = [] := by
  obtain ⟨htext, hnodes⟩ := List.append_eq_nil_iff.mp h
  rw [checkCounts, hagrees.textLength, hagrees.nodes]
  split_ifs at htext hnodes with hlong hmany
  rw [if_neg hlong, if_neg hmany]
  rfl

/-- Writing an accepted value anew gives an accepted value that is written as it is, and it is
the same document with the spaces around the addresses of its links left out. -/
theorem normalized_is_the_document (parsesAsHttps : Units → Bool) (value : JsonData) (path : Units)
    (h : validateRichTextDoc parsesAsHttps value path = []) : ∃ normalized doc,
      normalizeRichTextDoc value = some normalized ∧
      (∀ path', validateRichTextDoc parsesAsHttps normalized path' = []) ∧
      normalizeRichTextDoc normalized = some normalized ∧
      readDoc value = some doc ∧ readDoc normalized = some doc.trimmed := by
  unfold validateRichTextDoc at h
  split at h
  · next fields =>
    split_ifs at h with htype
    dsimp only at h
    split at h
    · cases h
    · next hvisible =>
      obtain ⟨hissues, hcounts⟩ := List.append_eq_nil_iff.mp h
      obtain ⟨items, items', values, hitems, hkept, hagrees⟩ :=
        content_kept block_kept (issues_andThen hissues).2 (plain "doc")
      have htype' : isType (contentFields (plain "doc") items') "doc" = true := by
        rw [contentFields, isType_ofType]
        decide
      refine ⟨object (contentFields (plain "doc") items'), ⟨values⟩, ?_, fun path' => ?_, ?_, ?_, ?_⟩
      · simp [normalizeRichTextDoc, hitems, hkept.result, ofType, contentFields]
      · have hkeys : Agrees (.wrong []) (.wrong (onlyKeys fields ["content"] path)) := agrees_wrong
        have hwalk := hkeys.andThen (hagrees path path')
        rw [validateRichTextDoc, if_pos htype', onlyKeys_contentFields]
        dsimp only
        rw [hwalk.issues, checkCounts_eq_nil hwalk hcounts, hwalk.hasVisibleText]
        rw [hissues, hcounts] at hvisible
        exact if_neg hvisible
      · rw [normalizeRichTextDoc, contentOf_contentFields]
        simp [hkept.again, ofType, contentFields]
      · simp [readDoc, htype, hitems, hkept.reads]
      · rw [readDoc, if_pos htype', contentOf_contentFields]
        simp [hkept.readsAgain, Doc.trimmed]
  · cases h

/-- A link to a variable with spaces around it, and a line break with a mark. -/
def sampleDoc : JsonData :=
  let link := ofType "link" [(plain "attrs", object [(plain "href", string (plain " \x7b\x7buser.url\x7d\x7d "))])]
  let text := ofType "text" [(plain "text", string (plain "Entrar")), (plain "marks", array [link])]
  let hardBreak := ofType "hardBreak" [(plain "marks", array [ofType "bold" []])]
  ofType "doc" [(plain "content",
    array [ofType "paragraph" [(plain "content", array [text, hardBreak])]])]

theorem normalized_is_the_document_spacedLink : ∃ normalized doc,
    normalizeRichTextDoc sampleDoc = some normalized ∧
    (∀ path', validateRichTextDoc (plain "https://").isPrefixOf normalized path' = []) ∧
    normalizeRichTextDoc normalized = some normalized ∧
    readDoc sampleDoc = some doc ∧ readDoc normalized = some doc.trimmed :=
  normalized_is_the_document (plain "https://").isPrefixOf sampleDoc (plain "blocks[0].content")
    (by decide +kernel)

end InternalControl.RichText
