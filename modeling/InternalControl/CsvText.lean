import Mathlib.Data.List.TakeWhile
import InternalControl.OrgChartTypes

/-!
# Lines of comma separated cells

How a cell is written, and how a line is split into cells. A written quote is
doubled and the reader drops every quote, so a line gives the cells back but for
their quotes.
-/

namespace InternalControl.CsvText

open OrgChart (isSpace trimChars)

/-- FORMULA_TRIGGER, on the first character. -/
def formulaTrigger (c : Char) : Bool := c ∈ ['=', '+', '-', '@', '\t', '\r']

def neutralizeCsvFormula (value : List Char) : List Char :=
  if value.head?.any formulaTrigger then '\'' :: value else value

/-- What may stand in a cell. -/
inductive CellValue where
  | none
  /-- A number, by its text. -/
  | number (text : List Char)
  | text (value : List Char)

/-- The characters for which a cell is quoted. -/
def needsQuotes (separator c : Char) : Bool := c == separator || c == '"' || c == '\n' || c == '\r'

def doubleQuotes (value : List Char) : List Char :=
  value.flatMap fun c => if c = '"' then ['"', '"'] else [c]

/-- The text of a cell. -/
def csvCell (value : CellValue) (separator : Char) : List Char :=
  let written := fun text : List Char =>
    if text.any (needsQuotes separator) then '"' :: (doubleQuotes text ++ ['"']) else text
  match value with
  | .none => []
  | .number text => written text
  | .text [] => []
  | .text value => written (neutralizeCsvFormula value)

/-- The loop over the characters of a line: a quote opens or closes, and a comma
outside quotes ends the cell. -/
def splitCells (inQuotes : Bool) (current : List Char) : List Char → List (List Char)
  | [] => [trimChars current]
  | c :: rest =>
    if c = '"' then splitCells (!inQuotes) current rest
    else if c = ',' ∧ inQuotes = false then trimChars current :: splitCells false [] rest
    else splitCells inQuotes (current ++ [c]) rest

/-- The cells of a line. -/
def splitCsvLine (line : List Char) : List (List Char) := splitCells false [] line

/-! ### Spaces at both ends -/

theorem trimChars_idem_left {cs : List Char} (h : ∀ c, cs.head? = some c → isSpace c = false) :
    cs.dropWhile isSpace = cs := by
  cases cs with
  | nil => rfl
  | cons c rest => rw [List.dropWhile_cons_of_neg (by simp [h c rfl])]

/-- A text that begins and ends with something else than a space keeps its ends. -/
theorem trimChars_eq_self {cs : List Char} (hfirst : ∀ c, cs.head? = some c → isSpace c = false)
    (hlast : ∀ c, cs.getLast? = some c → isSpace c = false) : trimChars cs = cs := by
  rw [trimChars, trimChars_idem_left hfirst, trimChars_idem_left, List.reverse_reverse]
  intro c hc
  rw [List.head?_reverse] at hc
  exact hlast c hc

theorem head?_dropWhile {p : Char → Bool} {cs : List Char} {c : Char}
    (h : (cs.dropWhile p).head? = some c) : p c = false := by
  have hnot := List.head?_dropWhile_not p cs
  rwa [h] at hnot

/-- A trimmed text neither begins nor ends with a space. -/
theorem ends_of_trimChars {cs : List Char} (h : trimChars cs = cs) :
    (∀ c, cs.head? = some c → isSpace c = false) ∧
      ∀ c, cs.getLast? = some c → isSpace c = false := by
  have hlast : ∀ c, cs.getLast? = some c → isSpace c = false := by
    intro c hc
    rw [← h, trimChars, List.getLast?_reverse] at hc
    exact head?_dropWhile hc
  refine ⟨fun c hc => ?_, hlast⟩
  -- trimming can only have shortened the text, so nothing was dropped in front
  have hlength : (cs.dropWhile isSpace).length = cs.length := by
    have hle := List.length_dropWhile_le isSpace cs
    have hle' := List.length_dropWhile_le isSpace (cs.dropWhile isSpace).reverse
    have heq := congrArg List.length h
    rw [trimChars, List.length_reverse] at heq
    rw [List.length_reverse] at hle'
    omega
  have hsuffix := (List.dropWhile_suffix isSpace (l := cs)).eq_of_length hlength
  rw [← hsuffix] at hc
  exact head?_dropWhile hc

theorem trimChars_nil : trimChars [] = [] := rfl

/-- Blanks only are nothing when trimmed. -/
theorem trimChars_spaces {cs : List Char} (h : ∀ c ∈ cs, isSpace c = true) : trimChars cs = [] := by
  rw [trimChars, List.dropWhile_eq_nil_iff.mpr h]
  rfl

/-! ### Reading back a written cell -/

/-- The text without its quotes. -/
def dropQuotes (value : List Char) : List Char := value.filter fun c => c ≠ '"'

theorem dropQuotes_eq_self_iff {value : List Char} : dropQuotes value = value ↔ '"' ∉ value := by
  rw [dropQuotes, List.filter_eq_self]
  constructor
  · intro h hmem
    exact absurd (h _ hmem) (by decide)
  · intro h c hc
    simpa using fun heq : c = '"' => h (heq ▸ hc)

theorem quote_not_mem_dropQuotes (value : List Char) : '"' ∉ dropQuotes value := by
  intro h
  exact absurd (List.mem_filter.mp h).2 (by decide)

/-- Inside quotes everything but quotes is taken over, and a doubled quote is passed by. -/
theorem splitCells_doubleQuotes (value current rest : List Char) :
    splitCells true current (doubleQuotes value ++ rest) =
      splitCells true (current ++ dropQuotes value) rest := by
  induction value generalizing current with
  | nil => simp [doubleQuotes, dropQuotes]
  | cons c value ih =>
    have hcons : doubleQuotes (c :: value) =
        (if c = '"' then ['"', '"'] else [c]) ++ doubleQuotes value := rfl
    rw [hcons]
    by_cases hquote : c = '"'
    · subst hquote
      have hdrop : dropQuotes ('"' :: value) = dropQuotes value := by
        rw [dropQuotes, List.filter_cons_of_neg (by decide)]
        rfl
      rw [hdrop, ← ih]
      simp [splitCells]
    · have hdrop : dropQuotes (c :: value) = c :: dropQuotes value := by
        rw [dropQuotes, List.filter_cons_of_pos (by simpa using hquote)]
        rfl
      rw [hdrop, if_neg hquote, List.cons_append, List.nil_append, List.cons_append, splitCells,
        if_neg hquote, if_neg (by simp), ih, List.append_assoc]
      rfl

/-- Outside quotes everything is taken over up to the next comma or quote. -/
theorem splitCells_plain {value : List Char} (current rest : List Char)
    (h : ∀ c ∈ value, c ≠ '"' ∧ c ≠ ',') :
    splitCells false current (value ++ rest) = splitCells false (current ++ value) rest := by
  induction value generalizing current with
  | nil => simp
  | cons c value ih =>
    obtain ⟨hquote, hcomma⟩ := h c List.mem_cons_self
    rw [List.cons_append, splitCells, if_neg hquote, if_neg (by simp [hcomma]),
      ih _ fun d hd => h d (List.mem_cons_of_mem _ hd), List.append_assoc]
    rfl

/-- A cell that a text may be written in: no line break, no outer space, no formula. -/
structure IsCell (value : List Char) : Prop where
  no_newline : '\n' ∉ value
  no_return : '\r' ∉ value
  trimmed : trimChars value = value
  no_formula : value.head?.any formulaTrigger = false

instance (value : List Char) : Decidable (IsCell value) :=
  decidable_of_iff ('\n' ∉ value ∧ '\r' ∉ value ∧ trimChars value = value ∧
      value.head?.any formulaTrigger = false)
    ⟨fun ⟨hnewline, hreturn, htrimmed, hformula⟩ => ⟨hnewline, hreturn, htrimmed, hformula⟩,
      fun h => ⟨h.no_newline, h.no_return, h.trimmed, h.no_formula⟩⟩

/-- A written cell without a formula is the text, in quotes when it has to be. -/
theorem csvCell_text {value : List Char} (h : IsCell value) :
    csvCell (.text value) ',' =
      if value.any (needsQuotes ',') then '"' :: (doubleQuotes value ++ ['"']) else value := by
  cases value with
  | nil => rfl
  | cons c rest =>
    simp only [csvCell, neutralizeCsvFormula, h.no_formula, Bool.false_eq_true, if_false]

/-- The reader takes a written cell over without its quotes. -/
theorem splitCells_csvCell {value : List Char} (h : IsCell value) (current rest : List Char) :
    splitCells false current (csvCell (.text value) ',' ++ rest) =
      splitCells false (current ++ dropQuotes value) rest := by
  rw [csvCell_text h]
  by_cases hquoted : value.any (needsQuotes ',') = true
  · rw [if_pos hquoted, List.cons_append, splitCells, if_pos rfl, List.append_assoc, Bool.not_false,
      splitCells_doubleQuotes, List.cons_append, List.nil_append, splitCells, if_pos rfl,
      Bool.not_true]
  · have hplain : ∀ c ∈ value, c ≠ '"' ∧ c ≠ ',' := by
      intro c hc
      have hnone := List.any_eq_false.mp (by simpa using hquoted) c hc
      simp only [needsQuotes, Bool.or_eq_true, beq_iff_eq, not_or] at hnone
      exact ⟨hnone.1.1.2, hnone.1.1.1⟩
    have hdrop : dropQuotes value = value :=
      dropQuotes_eq_self_iff.mpr fun hmem => (hplain _ hmem).1 rfl
    rw [if_neg hquoted, splitCells_plain current rest hplain, hdrop]

/-- Cells in one line. -/
def lineOf (cells : List (List Char)) : List Char :=
  [','].intercalate (cells.map fun value => csvCell (.text value) ',')

/-- What the reader makes of a text that was written. -/
def readBack (value : List Char) : List Char := trimChars (dropQuotes value)

/-- A written line is split into its cells, each without its quotes. -/
theorem splitCsvLine_lineOf {cells : List (List Char)} (hne : cells ≠ [])
    (h : ∀ value ∈ cells, IsCell value) : splitCsvLine (lineOf cells) = cells.map readBack := by
  rw [splitCsvLine, lineOf]
  induction cells with
  | nil => exact absurd rfl hne
  | cons value rest ih =>
    have hvalue := h value List.mem_cons_self
    cases rest with
    | nil =>
      rw [List.map_singleton, List.intercalate_singleton]
      have hcell := splitCells_csvCell hvalue [] []
      rw [List.append_nil, List.nil_append] at hcell
      rw [hcell]
      rfl
    | cons next rest =>
      have hrest := ih (by simp) fun other hother => h other (List.mem_cons_of_mem _ hother)
      rw [List.map_cons, List.map_cons, List.intercalate_cons_cons, List.append_assoc,
        splitCells_csvCell hvalue, List.nil_append, List.cons_append, List.nil_append, splitCells,
        if_neg (by decide), if_pos ⟨rfl, rfl⟩, List.map_cons, ← hrest, List.map_cons]
      rfl

theorem mem_of_mem_trimChars {value : List Char} {c : Char} (h : c ∈ trimChars value) : c ∈ value := by
  rw [trimChars, List.mem_reverse] at h
  have hfront := List.dropWhile_subset isSpace h
  rw [List.mem_reverse] at hfront
  exact List.dropWhile_subset isSpace hfront

/-- A text is read back as it is exactly when it has no quote. -/
theorem readBack_eq_self_iff {value : List Char} (h : trimChars value = value) :
    readBack value = value ↔ '"' ∉ value := by
  constructor
  · intro hread hmem
    rw [← hread] at hmem
    exact quote_not_mem_dropQuotes value (mem_of_mem_trimChars hmem)
  · intro hquote
    rw [readBack, dropQuotes_eq_self_iff.mpr hquote, h]

end InternalControl.CsvText
