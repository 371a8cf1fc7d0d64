import InternalControl.EmailUrl
import InternalControl.JsonData
import InternalControl.RichText

/-!
# Documents of rich text as data

The validator walks a value node by node, keeps what is wrong and counts nodes and
characters. The normalizer writes every node anew with its known fields only. A valid value
stays valid, and it is the same document with the spaces around its links left out.
-/

namespace InternalControl.RichText

open CodeUnits EmailUrl JsonData

/-! ### The walk -/

/-- What the walk over a part of a value adds. -/
structure Walk where
  issues : List JsonIssue
  nodes : ℕ
  textLength : ℕ
  hasVisibleText : Bool

namespace Walk

/-- A walk that met nothing. -/
def empty : Walk := ⟨[], 0, 0, false⟩

/-- One more node. -/
def node : Walk := ⟨[], 1, 0, false⟩

/-- Something wrong, and no node. -/
def wrong (issues : List JsonIssue) : Walk := ⟨issues, 0, 0, false⟩

/-- One part after another. -/
def andThen (first second : Walk) : Walk :=
  ⟨first.issues ++ second.issues, first.nodes + second.nodes, first.textLength + second.textLength,
    first.hasVisibleText || second.hasVisibleText⟩

/-- The walk over the items of an array. -/
def overItems (check : JsonData → Units → Walk) (path : Units) : ℕ → List JsonData → Walk
  | _, [] => empty
  | index, item :: rest => (check item (itemPath path index)).andThen (overItems check path (index + 1) rest)

end Walk

/-- The limits of a rich text. -/
def maxTextLength : ℕ := 2000

def maxNodes : ℕ := 200

def hrefMaxLength : ℕ := 500

def markTypes : List String := ["bold", "italic", "underline", "link"]

/-! ### The validator -/

/-- The fields that a node may not have. -/
def onlyKeys (fields : Fields) (allowed : List String) (path : Units) : List JsonIssue :=
  (fields.filter fun field => field.1 ∉ (("type" :: allowed).map plain)).map fun field =>
    ⟨fieldPath path field.1, "El texto tiene un formato no permitido."⟩

/-- The items of a node, or what is wrong when it has none. -/
def contentArray (fields : Fields) (path : Units) : List JsonData ⊕ JsonIssue :=
  match get? fields "content" with
  | some (array (item :: rest)) => .inl (item :: rest)
  | _ => .inr ⟨fieldPath path (plain "content"), "Escriba un texto."⟩

section Validator

-- `parsesAsHttps` tells whether the runtime reads an address as one over https
variable (parsesAsHttps : Units → Bool)

/-- The address of a link. -/
def checkHref (href : Option JsonData) (path : Units) : List JsonIssue :=
  match href with
  | some (string href) =>
    if trimUnits href = [] then [⟨path, "Escriba un texto."⟩]
    else if hrefMaxLength < href.length then [⟨path, "Máximo 500 caracteres"⟩]
    else if isAllowedDesignUrl parsesAsHttps href then []
    else [⟨path, "Use una variable del correo o un enlace que empiece por https://."⟩]
  | _ => [⟨path, "Escriba un texto."⟩]

/-- The data of a link, which is its address only. -/
def checkAttrs (attrs : Option JsonData) (path : Units) : List JsonIssue :=
  match attrs with
  | some (object attrs) =>
    ((attrs.filter fun field => field.1 ≠ plain "href").map fun field =>
      ⟨fieldPath path field.1, "El enlace tiene datos de más. Vuelva a crearlo."⟩) ++
      checkHref parsesAsHttps (get? attrs "href") (fieldPath path (plain "href"))
  | _ => [⟨path, "Escriba la dirección del enlace."⟩]

/-- The kind of a mark, when it is a known one. -/
def markType? : JsonData → Option Units
  | object fields => (typeOf fields).filter fun kind => kind ∈ markTypes.map plain
  | _ => none

/-- A mark after others of the kinds seen. -/
def checkMark (seen : List Units) (mark : JsonData) (path : Units) : List JsonIssue :=
  match mark, markType? mark with
  | object fields, some kind =>
    (if kind ∈ seen then [⟨fieldPath path (plain "type"), "El texto repite un formato."⟩] else []) ++
      if kind ≠ plain "link" then onlyKeys fields [] path
      else onlyKeys fields ["attrs"] path ++
        checkAttrs parsesAsHttps (get? fields "attrs") (fieldPath path (plain "attrs"))
  | _, _ => [⟨fieldPath path (plain "type"), "El texto tiene un formato no permitido."⟩]

/-- The marks of a text, one after another. -/
def checkMarkItems (path : Units) : List Units → ℕ → List JsonData → List JsonIssue
  | _, _, [] => []
  | seen, index, mark :: rest =>
    checkMark parsesAsHttps seen mark (itemPath path index) ++
      checkMarkItems path ((markType? mark).toList ++ seen) (index + 1) rest

/-- The marks of a text, which may be left out. -/
def checkMarks (marks : Option JsonData) (path : Units) : List JsonIssue :=
  match marks with
  | none => []
  | some (array marks) => checkMarkItems parsesAsHttps path [] 0 marks
  | some _ => [⟨path, "El formato del texto no es válido."⟩]

/-- The text of a node. -/
def checkText (text : Option JsonData) (path : Units) : Walk :=
  match text with
  | some (string text) =>
    if text = [] then .wrong [⟨path, "Escriba un texto."⟩]
    else
      ⟨if hasBrokenToken text then
          [⟨path, "Una variable quedó partida por un formato. Aplique el formato a toda la variable."⟩]
        else [],
        0, text.length, trimUnits text ≠ []⟩
  | _ => .wrong [⟨path, "Escriba un texto."⟩]

/-- A text or a line break. -/
def checkInline (node : JsonData) (path : Units) : Walk :=
  Walk.node.andThen <|
    match node with
    | object fields =>
      if isType fields "hardBreak" then
        .wrong (onlyKeys fields ["marks"] path ++
          checkMarks parsesAsHttps (get? fields "marks") (fieldPath path (plain "marks")))
      else if isType fields "text" then
        ((Walk.wrong (onlyKeys fields ["text", "marks"] path)).andThen
          (checkText (get? fields "text") (fieldPath path (plain "text")))).andThen
          (.wrong (checkMarks parsesAsHttps (get? fields "marks") (fieldPath path (plain "marks"))))
      else .wrong [⟨fieldPath path (plain "type"), "El párrafo tiene un elemento no permitido."⟩]
    | _ => .wrong [⟨fieldPath path (plain "type"), "El párrafo tiene un elemento no permitido."⟩]

/-- A paragraph, whose content may be left out. -/
def checkParagraph (node : JsonData) (path : Units) : Walk :=
  Walk.node.andThen <|
    match node with
    | object fields =>
      if isType fields "paragraph" then
        (Walk.wrong (onlyKeys fields ["content"] path)).andThen <|
          match get? fields "content" with
          | none => .empty
          | some (array items) =>
            .overItems (checkInline parsesAsHttps) (fieldPath path (plain "content")) 0 items
          | some _ =>
            .wrong [⟨fieldPath path (plain "content"), "El formato del texto no es válido."⟩]
      else .wrong [⟨fieldPath path (plain "type"), "Se esperaba un paragraph"⟩]
    | _ => .wrong [⟨fieldPath path (plain "type"), "Se esperaba un paragraph"⟩]

/-- The object says that it is a list. -/
def isList (fields : Fields) : Bool := isType fields "bulletList" || isType fields "orderedList"

/-- A part of an item of a list, which is a paragraph and no list. -/
def checkItemPart (node : JsonData) (path : Units) : Walk :=
  match node with
  | object fields =>
    if isList fields then
      Walk.node.andThen
        (.wrong [⟨fieldPath path (plain "type"), "No se admiten listas dentro de listas."⟩])
    else checkParagraph parsesAsHttps node path
  | _ => checkParagraph parsesAsHttps node path

/-- The walk over the content of a node that may not be empty. -/
def overContent (check : JsonData → Units → Walk) (fields : Fields) (path : Units) : Walk :=
  match contentArray fields path with
  | .inl items => .overItems check (fieldPath path (plain "content")) 0 items
  | .inr issue => .wrong [issue]

/-- An item of a list. -/
def checkListItem (node : JsonData) (path : Units) : Walk :=
  Walk.node.andThen <|
    match node with
    | object fields =>
      if isType fields "listItem" then
        (Walk.wrong (onlyKeys fields ["content"] path)).andThen
          (overContent (checkItemPart parsesAsHttps) fields path)
      else .wrong [⟨fieldPath path (plain "type"), "La lista tiene un elemento no permitido."⟩]
    | _ => .wrong [⟨fieldPath path (plain "type"), "La lista tiene un elemento no permitido."⟩]

/-- A list. -/
def checkList (fields : Fields) (path : Units) : Walk :=
  (Walk.wrong (onlyKeys fields ["content"] path)).andThen
    (overContent (checkListItem parsesAsHttps) fields path)

/-- A block of a document. -/
def checkBlock (node : JsonData) (path : Units) : Walk :=
  match node with
  | object fields =>
    if isList fields then Walk.node.andThen (checkList parsesAsHttps fields path)
    else if isType fields "paragraph" then checkParagraph parsesAsHttps node path
    else
      Walk.node.andThen
        (.wrong [⟨fieldPath path (plain "type"), "El texto tiene un elemento no permitido."⟩])
  | _ =>
    Walk.node.andThen
      (.wrong [⟨fieldPath path (plain "type"), "El texto tiene un elemento no permitido."⟩])

/-- What the counts of a document may not be. -/
def checkCounts (walk : Walk) (path : Units) : List JsonIssue :=
  (if maxTextLength < walk.textLength then [⟨path, "Máximo 2000 caracteres de texto"⟩] else []) ++
    if maxNodes < walk.nodes then
      [⟨path, "Máximo 200 nodos (párrafos, ítems, textos y saltos)"⟩] else []

/-- What is wrong with a value as a rich text. -/
def validateRichTextDoc (value : JsonData) (path : Units) : List JsonIssue :=
  match value with
  | object fields =>
    if isType fields "doc" then
      let walk := (Walk.wrong (onlyKeys fields ["content"] path)).andThen
        (overContent (checkBlock parsesAsHttps) fields path)
      let issues := walk.issues ++ checkCounts walk path
      -- a document without blocks has an issue of its own, so that nothing else is said of it
      if issues = [] && !walk.hasVisibleText then [⟨path, "El párrafo está vacío."⟩] else issues
    else [⟨path, "El formato del texto no es válido."⟩]
  | _ => [⟨path, "El formato del texto no es válido."⟩]

end Validator

/-! ### The normalizer

It is given documents: where a value is no document, nothing is said of the result.
-/

/-- A mark with its kind, and its address without spaces around it. -/
def normalizeMark : JsonData → Option JsonData
  | object fields => do
    let kind ← typeOf fields
    if kind = plain "link" then
      match get? fields "attrs" with
      | some (object attrs) => do
        let href ← text? attrs "href"
        return ofType "link" [(plain "attrs", object [(plain "href", string (trimUnits href))])]
      | _ => none
    else return object [(plain "type", string kind)]
  | _ => none

/-- The marks of a text, none when they are left out. -/
def normalizeMarks : Option JsonData → Option (List JsonData)
  | none => some []
  | some (array marks) => marks.mapM normalizeMark
  | some _ => none

/-- A text with its marks, or a line break. -/
def normalizeInline : JsonData → Option JsonData
  | object fields =>
    if isType fields "hardBreak" then some (ofType "hardBreak" [])
    else do
      let text ← text? fields "text"
      let marks ← normalizeMarks (get? fields "marks")
      if marks ≠ [] then
        return ofType "text" [(plain "text", string text), (plain "marks", array marks)]
      else return ofType "text" [(plain "text", string text)]
  | _ => none

/-- The items of the content of a node. -/
def contentOf (fields : Fields) : Option (List JsonData) :=
  match get? fields "content" with
  | some (array items) => some items
  | _ => none

/-- The items of a content that may be left out. -/
def givenItems : Option JsonData → Option (List JsonData)
  | none => some []
  | some (array items) => some items
  | some _ => none

/-- A paragraph, without content when it has none. -/
def normalizeParagraph : JsonData → Option JsonData
  | object fields => do
    let content ← (← givenItems (get? fields "content")).mapM normalizeInline
    if content ≠ [] then return ofType "paragraph" [(plain "content", array content)]
    else return ofType "paragraph" []
  | _ => none

/-- An item of a list. -/
def normalizeListItem : JsonData → Option JsonData
  | object fields => do
    let content ← (← contentOf fields).mapM normalizeParagraph
    return ofType "listItem" [(plain "content", array content)]
  | _ => none

/-- A block of a document. -/
def normalizeBlock : JsonData → Option JsonData
  | object fields =>
    if isType fields "paragraph" then normalizeParagraph (object fields)
    else do
      let kind ← typeOf fields
      let content ← (← contentOf fields).mapM normalizeListItem
      return object [(plain "type", string kind), (plain "content", array content)]
  | _ => none

/-- A document with known fields only. -/
def normalizeRichTextDoc : JsonData → Option JsonData
  | object fields => do
    let content ← (← contentOf fields).mapM normalizeBlock
    return ofType "doc" [(plain "content", array content)]
  | _ => none

/-! ### The document of a value -/

/-- The mark that a value is. -/
def readMark : JsonData → Option Mark
  | object fields => do
    let kind ← typeOf fields
    if kind = plain "bold" then return .bold
    else if kind = plain "italic" then return .italic
    else if kind = plain "underline" then return .underline
    else if kind = plain "link" then
      match get? fields "attrs" with
      | some (object attrs) => return .link (← text? attrs "href")
      | _ => none
    else none
  | _ => none

/-- The marks that a value is, none when it is left out. -/
def readMarks : Option JsonData → Option (List Mark)
  | none => some []
  | some (array marks) => marks.mapM readMark
  | some _ => none

/-- The text or the line break that a value is. -/
def readInline : JsonData → Option Inline
  | object fields =>
    if isType fields "hardBreak" then some .hardBreak
    else if isType fields "text" then do
      return .text (← text? fields "text") (← readMarks (get? fields "marks"))
    else none
  | _ => none

/-- The paragraph that a value is. -/
def readParagraph : JsonData → Option Paragraph
  | object fields =>
    if isType fields "paragraph" then do
      return ⟨← (← givenItems (get? fields "content")).mapM readInline⟩
    else none
  | _ => none

/-- The item of a list that a value is. -/
def readListItem : JsonData → Option ListItem
  | object fields =>
    if isType fields "listItem" then do return ⟨← (← contentOf fields).mapM readParagraph⟩ else none
  | _ => none

/-- The kind of list that an object is. -/
def listKind? (fields : Fields) : Option ListKind :=
  if isType fields "bulletList" then some .bulletList
  else if isType fields "orderedList" then some .orderedList
  else none

/-- The block that a value is. -/
def readBlock : JsonData → Option Block
  | object fields =>
    if isType fields "paragraph" then return .paragraph (← readParagraph (object fields))
    else do return .list (← listKind? fields) (← (← contentOf fields).mapM readListItem)
  | _ => none

/-- The document that a value is. -/
def readDoc : JsonData → Option Doc
  | object fields =>
    if isType fields "doc" then do return ⟨← (← contentOf fields).mapM readBlock⟩ else none
  | _ => none

/-! ### Links without spaces around them -/

def Mark.trimmed : Mark → Mark
  | link href => link (trimUnits href)
  | mark => mark

def Inline.trimmed : Inline → Inline
  | text units marks => text units (marks.map Mark.trimmed)
  | hardBreak => hardBreak

def Paragraph.trimmed (paragraph : Paragraph) : Paragraph := ⟨paragraph.content.map Inline.trimmed⟩

def ListItem.trimmed (item : ListItem) : ListItem := ⟨item.content.map Paragraph.trimmed⟩

def Block.trimmed : Block → Block
  | paragraph content => paragraph content.trimmed
  | list kind content => list kind (content.map ListItem.trimmed)

/-- The same document, with the spaces around the addresses of its links left out. -/
def Doc.trimmed (doc : Doc) : Doc := ⟨doc.content.map Block.trimmed⟩

end InternalControl.RichText
