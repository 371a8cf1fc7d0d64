import InternalControl.CodeUnits

/-!
# Rich text and plain text

A plain text becomes a document of paragraphs with line breaks, and a document becomes a
plain text. Going there and back only changes the way lines end.
-/

namespace InternalControl.RichText

open CodeUnits

/-! ### Documents -/

/-- A format of a text, with the address of a link. -/
inductive Mark where
  | bold
  | italic
  | underline
  | link (href : Units)
  deriving DecidableEq

/-- A part of a paragraph. The marks are empty when they are left out. -/
inductive Inline where
  | text (text : Units) (marks : List Mark)
  | hardBreak
  deriving DecidableEq

/-- A paragraph, whose content is empty when it is left out. -/
structure Paragraph where
  content : List Inline
  deriving DecidableEq

/-- An item of a list. -/
structure ListItem where
  content : List Paragraph
  deriving DecidableEq

inductive ListKind where
  | bulletList
  | orderedList
  deriving DecidableEq

/-- A block of a document. -/
inductive Block where
  | paragraph (paragraph : Paragraph)
  | list (kind : ListKind) (content : List ListItem)
  deriving DecidableEq

/-- A rich text. -/
structure Doc where
  content : List Block
  deriving DecidableEq

/-! ### From plain text -/

/-- The code units of a line feed and of a carriage return. -/
def lineFeed : UInt16 := 10

def carriageReturn : UInt16 := 13

/-- Every end of a line becomes a line feed. -/
def lineEnds : Units → Units
  | [] => []
  | [u] => [if u == carriageReturn then lineFeed else u]
  | u :: v :: rest =>
    if u == carriageReturn then
      if v == lineFeed then lineFeed :: lineEnds rest else lineFeed :: lineEnds (v :: rest)
    else u :: lineEnds (v :: rest)

/-- The parts of a text between pairs of a separator, found from the left. -/
def splitPairs (mark : UInt16) : Units → List Units
  | [] => [[]]
  | [u] => [[u]]
  | u :: v :: rest =>
    if u == mark && v == mark then [] :: splitPairs mark rest
    else (splitPairs mark (v :: rest)).modifyHead (u :: ·)

/-- What a line adds to its paragraph. -/
def lineInlines (line : Units) (index : ℕ) : List Inline :=
  (if 0 < index then [.hardBreak] else []) ++ if line ≠ [] then [.text line []] else []

/-- A part of a text as a paragraph. -/
def partParagraph (part : Units) : Paragraph :=
  ⟨(part.splitOn lineFeed).zipIdx.flatMap fun (line, index) => lineInlines line index⟩

/-- A plain text as a document. -/
def textToRichText (text : Units) : Doc :=
  ⟨(splitPairs lineFeed (lineEnds text)).map fun part => .paragraph (partParagraph part)⟩

/-! ### To plain text -/

/-- The address of a link. -/
def Mark.href? : Mark → Option Units
  | link href => some href
  | _ => none

/-- The text of a part of a paragraph, with the address of its first link when it differs. -/
def inlineText : Inline → Units
  | .hardBreak => [lineFeed]
  | .text text marks =>
    match marks.findSome? Mark.href? with
    | some href => if href ≠ text then text ++ plain " (" ++ href ++ plain ")" else text
    | none => text

/-- The text of a paragraph. -/
def paragraphText (paragraph : Paragraph) : Units := paragraph.content.flatMap inlineText

/-- The mark before an item of a list. -/
def itemMark : ListKind → ℕ → Units
  | .orderedList, index => plain (Nat.repr (index + 1)) ++ plain "."
  | .bulletList, _ => plain "-"

/-- The text of a block. -/
def blockText : Block → Units
  | .paragraph paragraph => paragraphText paragraph
  | .list kind content => [lineFeed].intercalate (content.zipIdx.map fun (item, index) =>
      itemMark kind index ++ plain " " ++ [lineFeed].intercalate (item.content.map paragraphText))

/-- A document as plain text. -/
def richTextToText (doc : Doc) : Units :=
  [lineFeed, lineFeed].intercalate (doc.content.map blockText)

/-! ### There and back -/

theorem splitPairs_ne_nil (mark : UInt16) (units : Units) : splitPairs mark units ≠ [] := by
  fun_induction splitPairs mark units with
  | case1 => nofun
  | case2 u => nofun
  | case3 u v rest hpair ih => nofun
  | case4 u v rest hpair ih =>
    intro hnil
    exact ih (List.modifyHead_eq_nil_iff.mp hnil)

/-- A character before the first part stays before the joined text. -/
theorem intercalate_modifyHead (separator : Units) (u : UInt16) {parts : List Units}
    (hne : parts ≠ []) :
    separator.intercalate (parts.modifyHead (u :: ·)) = u :: separator.intercalate parts := by
  obtain ⟨first, rest, rfl⟩ := List.exists_cons_of_ne_nil hne
  cases rest with
  | nil => simp
  | cons second rest => simp [List.intercalate_cons_cons]

/-- Parts between pairs give the text back when pairs join them. -/
theorem intercalate_splitPairs (mark : UInt16) (units : Units) :
    [mark, mark].intercalate (splitPairs mark units) = units := by
  fun_induction splitPairs mark units with
  | case1 => simp
  | case2 u => simp
  | case3 u v rest hpair ih =>
    rw [Bool.and_eq_true, beq_iff_eq, beq_iff_eq] at hpair
    obtain ⟨rfl, rfl⟩ := hpair
    obtain ⟨first, parts, hparts⟩ := List.exists_cons_of_ne_nil (splitPairs_ne_nil v rest)
    rw [hparts] at ih ⊢
    rw [List.intercalate_cons_cons, ih]
    rfl
  | case4 u v rest hpair ih =>
    rw [intercalate_modifyHead _ _ (splitPairs_ne_nil mark (v :: rest)), ih]

/-- A line comes back with the line feed before it, when it is not the first one. -/
theorem flatMap_lineInlines (line : Units) (index : ℕ) :
    (lineInlines line index).flatMap inlineText = if 0 < index then lineFeed :: line else line := by
  have hline : (if line ≠ [] then [Inline.text line []] else []).flatMap inlineText = line := by
    by_cases hempty : line = []
    · simp [hempty]
    · simp [hempty, inlineText]
  rw [lineInlines, List.flatMap_append, hline]
  split <;> rfl

/-- The lines after the first one bring their line feeds. -/
theorem flatMap_lines (lines : List Units) (index : ℕ) :
    (lines.zipIdx (index + 1)).flatMap (fun entry => (lineInlines entry.1 entry.2).flatMap inlineText) =
      lines.flatMap (lineFeed :: ·) := by
  induction lines generalizing index with
  | nil => rfl
  | cons line rest ih =>
    rw [List.zipIdx_cons, List.flatMap_cons, List.flatMap_cons, ih (index + 1), flatMap_lineInlines,
      if_pos (Nat.succ_pos index)]

theorem intercalate_eq_flatMap (u : UInt16) (first : Units) (rest : List Units) :
    [u].intercalate (first :: rest) = first ++ rest.flatMap (u :: ·) := by
  induction rest generalizing first with
  | nil => simp
  | cons second rest ih =>
    rw [List.intercalate_cons_cons, ih, List.flatMap_cons]
    simp

/-- A part of a text is the text of its paragraph. -/
theorem paragraphText_partParagraph (part : Units) :
    paragraphText (partParagraph part) = part := by
  have hlines : [lineFeed].intercalate (part.splitOn lineFeed) = part :=
    List.intercalate_splitOn lineFeed
  have hne : part.splitOn lineFeed ≠ [] := List.splitOn_ne_nil lineFeed part
  rw [paragraphText, partParagraph, List.flatMap_assoc]
  obtain ⟨first, rest, hsplit⟩ := List.exists_cons_of_ne_nil hne
  rw [hsplit, intercalate_eq_flatMap] at hlines
  rw [hsplit, List.zipIdx_cons, List.flatMap_cons, flatMap_lines, flatMap_lineInlines,
    if_neg (lt_irrefl 0)]
  exact hlines

/-- A plain text comes back from its document with line feeds as the ends of its lines. -/
theorem richTextToText_textToRichText (text : Units) :
    richTextToText (textToRichText text) = lineEnds text := by
  have hparts : ∀ part, blockText (.paragraph (partParagraph part)) = part :=
    paragraphText_partParagraph
  rw [richTextToText, textToRichText, List.map_map]
  have hmap : (blockText ∘ fun part => Block.paragraph (partParagraph part)) = id := funext hparts
  rw [hmap, List.map_id]
  exact intercalate_splitPairs lineFeed (lineEnds text)

example : textToRichText (plain "a\r\n\r\n\rb") =
    ⟨[.paragraph ⟨[.text (plain "a") []]⟩,
      .paragraph ⟨[.hardBreak, .text (plain "b") []]⟩]⟩ := by decide

end InternalControl.RichText
