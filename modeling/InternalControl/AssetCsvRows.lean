import Mathlib.Data.List.Nodup
import InternalControl.AssetCsv

/-!
# What the import reads of a written file

A written file is split into its records again. Each record that the reader keeps
comes back but for its quotes, under a number that leaves blank lines out, and a
record without a required field is not counted.
-/

namespace InternalControl.AssetCsv

open CsvText
open OrgChart (isSpace trimChars)

/-! ### Lines -/

theorem lineFeeds_cons {c : Char} (h : c ≠ '\r') (rest : Chars) :
    lineFeeds (c :: rest) = c :: lineFeeds rest := by
  rw [lineFeeds]
  intro _ hc _
  exact h hc

/-- A text without carriage returns is taken over. -/
theorem lineFeeds_append {line : Chars} (h : '\r' ∉ line) (rest : Chars) :
    lineFeeds (line ++ rest) = line ++ lineFeeds rest := by
  induction line with
  | nil => rfl
  | cons c line ih =>
    have hc : c ≠ '\r' := fun heq => h (heq ▸ List.mem_cons_self)
    rw [List.cons_append, lineFeeds_cons hc, ih fun hmem => h (List.mem_cons_of_mem _ hmem),
      List.cons_append]

/-- Either kind of line end becomes a line feed. -/
theorem lineFeeds_intercalate (file : CsvFile) {lines : List Chars} (h : ∀ line ∈ lines, '\r' ∉ line) :
    lineFeeds (file.newline.intercalate lines) = ['\n'].intercalate lines := by
  have hend : ∀ rest, lineFeeds (file.newline ++ rest) = '\n' :: lineFeeds rest := by
    intro rest
    unfold CsvFile.newline
    split
    · rfl
    · exact lineFeeds_cons (by decide) rest
  induction lines with
  | nil => rfl
  | cons line rest ih =>
    have hline := h line List.mem_cons_self
    cases rest with
    | nil =>
      rw [List.intercalate_singleton, List.intercalate_singleton]
      have hwhole := lineFeeds_append hline []
      rwa [List.append_nil, show lineFeeds [] = [] from rfl, List.append_nil] at hwhole
    | cons next rest =>
      have hrest := ih fun other hother => h other (List.mem_cons_of_mem _ hother)
      rw [List.intercalate_cons_cons, List.intercalate_cons_cons, List.append_assoc,
        lineFeeds_append hline, hend, hrest]
      simp

/-- What a written cell is made of. -/
theorem mem_csvCell {value : Chars} (h : IsCell value) {c : Char}
    (hc : c ∈ csvCell (.text value) ',') : c = '"' ∨ c ∈ value := by
  have hdouble : c ∈ doubleQuotes value → c = '"' ∨ c ∈ value := by
    intro hmem
    obtain ⟨d, hd, hcd⟩ := List.mem_flatMap.mp hmem
    by_cases hquote : d = '"'
    · rw [if_pos hquote] at hcd
      exact Or.inl (by simpa using hcd)
    · rw [if_neg hquote] at hcd
      exact Or.inr (List.mem_singleton.mp hcd ▸ hd)
  rw [csvCell_text h] at hc
  split at hc
  · rcases List.mem_cons.mp hc with rfl | hc
    · exact Or.inl rfl
    · rcases List.mem_append.mp hc with hc | hc
      · exact hdouble hc
      · exact Or.inl (List.mem_singleton.mp hc)
  · exact Or.inr hc

/-- A written line has no line break. -/
theorem lineOf_no_break {cells : List Chars} (h : ∀ value ∈ cells, IsCell value) {c : Char}
    (hc : c ∈ lineOf cells) : c ≠ '\n' ∧ c ≠ '\r' := by
  have hcell : ∀ value ∈ cells, c ∈ csvCell (.text value) ',' → c ≠ '\n' ∧ c ≠ '\r' := by
    intro value hvalue hmem
    rcases mem_csvCell (h value hvalue) hmem with rfl | hmem
    · exact ⟨by decide, by decide⟩
    · exact ⟨fun heq => (h value hvalue).no_newline (heq ▸ hmem),
        fun heq => (h value hvalue).no_return (heq ▸ hmem)⟩
  induction cells with
  | nil => cases hc
  | cons value rest ih =>
    cases rest with
    | nil =>
      rw [lineOf, List.map_singleton, List.intercalate_singleton] at hc
      exact hcell value List.mem_cons_self hc
    | cons next rest =>
      rw [lineOf, List.map_cons, List.map_cons, List.intercalate_cons_cons, List.append_assoc] at hc
      rcases List.mem_append.mp hc with hc | hc
      · exact hcell value List.mem_cons_self hc
      · rcases List.mem_cons.mp hc with rfl | hc
        · exact ⟨by decide, by decide⟩
        · exact ih (fun other hother => h other (List.mem_cons_of_mem _ hother)) hc
            fun other hother => hcell other (List.mem_cons_of_mem _ hother)

/-- A written cell neither begins nor ends with a space. -/
theorem csvCell_ends {value : Chars} (h : IsCell value) :
    (∀ c, (csvCell (.text value) ',').head? = some c → isSpace c = false) ∧
      ∀ c, (csvCell (.text value) ',').getLast? = some c → isSpace c = false := by
  rw [csvCell_text h]
  split
  · refine ⟨fun c hc => ?_, fun c hc => ?_⟩
    · cases hc
      decide
    · rw [← List.cons_append, List.getLast?_append] at hc
      cases hc
      decide
  · exact ends_of_trimChars h.trimmed

/-- A written line keeps its ends when it is trimmed. -/
theorem trimChars_lineOf {cells : List Chars} (h : ∀ value ∈ cells, IsCell value) :
    trimChars (lineOf cells) = lineOf cells := by
  have hlast : ∀ c, (lineOf cells).getLast? = some c → isSpace c = false := by
    intro c hc
    induction cells with
    | nil => cases hc
    | cons value rest ih =>
      cases rest with
      | nil =>
        rw [lineOf, List.map_singleton, List.intercalate_singleton] at hc
        exact (csvCell_ends (h value List.mem_cons_self)).2 c hc
      | cons next rest =>
        rw [lineOf, List.map_cons, List.map_cons, List.intercalate_cons_cons, List.append_assoc,
          List.getLast?_append, List.cons_append, List.nil_append, List.getLast?_cons] at hc
        cases hend : (lineOf (next :: rest)).getLast? with
        | none =>
          rw [lineOf, List.map_cons] at hend
          rw [hend] at hc
          cases hc
          decide
        | some d =>
          have hd := ih (fun other hother => h other (List.mem_cons_of_mem _ hother))
          rw [lineOf, List.map_cons] at hend
          rw [hend] at hc
          cases hc
          exact hd (by rw [lineOf, List.map_cons]; exact hend)
  refine trimChars_eq_self (fun c hc => ?_) hlast
  cases cells with
  | nil => cases hc
  | cons value rest =>
    have hvalue := (csvCell_ends (h value List.mem_cons_self)).1
    cases rest with
    | nil =>
      rw [lineOf, List.map_singleton, List.intercalate_singleton] at hc
      exact hvalue c hc
    | cons next rest =>
      rw [lineOf, List.map_cons, List.map_cons, List.intercalate_cons_cons, List.append_assoc,
        List.head?_append] at hc
      cases hhead : (csvCell (.text value) ',').head? with
      | none =>
        rw [hhead] at hc
        cases hc
        decide
      | some d =>
        rw [hhead] at hc
        cases hc
        exact hvalue _ hhead

/-- A line of several cells is not blank. -/
theorem lineOf_ne_nil {cells : List Chars} (h : 2 ≤ cells.length) : lineOf cells ≠ [] := by
  match cells with
  | value :: next :: rest =>
    rw [lineOf, List.map_cons, List.map_cons, List.intercalate_cons_cons]
    simp

/-! ### The lines of a written file -/

section File

variable {file : CsvFile}

/-- The required names are names of columns, so there are several. -/
theorem CsvFile.WellFormed.several (h : file.WellFormed) : 2 ≤ file.names.length := by
  have hnodup : required.Nodup := by decide
  have hsub : required ⊆ file.names := fun name hname => h.required_names name hname
  have hle := (List.subperm_of_subset hnodup hsub).length_le
  have hfive : required.length = 5 := rfl
  omega

/-- The text of a line with a record. -/
def FileLine.recordText : FileLine → Option Chars
  | .blank _ => none
  | .record fields => some (lineOf fields)

theorem entriesFrom_lines (line index : ℕ) (lines : List FileLine) :
    (entriesFrom line index lines).map (fun entry => (lineOf entry.fields, entry.index)) =
      (lines.filterMap FileLine.recordText).zipIdx index := by
  induction lines generalizing line index with
  | nil => rfl
  | cons first rest ih =>
    cases first with
    | blank spaces => exact ih (line + 1) index
    | record fields =>
      have htext : FileLine.recordText (.record fields) = some (lineOf fields) := rfl
      rw [entriesFrom, List.map_cons, ih, List.filterMap_cons_some htext, List.zipIdx_cons]

/-- An entry is a record of the lines. -/
theorem mem_entriesFrom {line index : ℕ} {lines : List FileLine} {entry : Entry}
    (h : entry ∈ entriesFrom line index lines) : FileLine.record entry.fields ∈ lines := by
  induction lines generalizing line index with
  | nil => cases h
  | cons first rest ih =>
    cases first with
    | blank spaces => exact List.mem_cons_of_mem _ (ih h)
    | record fields =>
      rcases List.mem_cons.mp h with rfl | h
      · exact List.mem_cons_self
      · exact List.mem_cons_of_mem _ (ih h)

/-- Without the blank ones, the lines are the header and the records. -/
theorem linesOf_text (h : file.WellFormed) :
    linesOf file.text = lineOf file.names :: file.lines.filterMap FileLine.recordText := by
  have hlines : ∀ line ∈ lineOf file.names :: file.lines.map FileLine.text,
      ∀ c ∈ line, c ≠ '\n' ∧ c ≠ '\r' := by
    intro line hline c hc
    rcases List.mem_cons.mp hline with rfl | hline
    · exact lineOf_no_break h.names_cells hc
    · obtain ⟨fileLine, hfileLine, rfl⟩ := List.mem_map.mp hline
      cases fileLine with
      | blank spaces => exact (h.blanks spaces hfileLine c hc).2
      | record fields => exact lineOf_no_break (h.fields_cells fields hfileLine) hc
  have hmark : withoutMark file.text = file.text := by
    have hhead : ∀ c, (lineOf file.names).head? = some c → isSpace c = false :=
      (ends_of_trimChars (trimChars_lineOf h.names_cells)).1
    have hne := lineOf_ne_nil h.several
    have htext : ∃ rest, file.text = lineOf file.names ++ rest := by
      unfold CsvFile.text
      cases file.lines.map FileLine.text with
      | nil => exact ⟨[], by rw [List.intercalate_singleton, List.append_nil]⟩
      | cons next rest => exact ⟨_, by rw [List.intercalate_cons_cons, List.append_assoc]⟩
    obtain ⟨rest, hrest⟩ := htext
    rw [hrest]
    cases hfirst : lineOf file.names with
    | nil => exact absurd hfirst hne
    | cons c line =>
      have hc := hhead c (by rw [hfirst]; rfl)
      have hneMark : c ≠ Char.ofNat 0xFEFF := by
        intro heq
        rw [heq] at hc
        exact absurd hc (by decide)
      rw [List.cons_append, withoutMark, if_neg hneMark]
  unfold linesOf
  rw [hmark, CsvFile.text, lineFeeds_intercalate file fun line hline hmem =>
      (hlines line hline _ hmem).2 rfl,
    List.splitOn_intercalate '\n' (fun line hline hmem => (hlines line hline _ hmem).1 rfl) (by simp),
    List.map_cons, trimChars_lineOf h.names_cells,
    List.filter_cons_of_pos (by simpa using lineOf_ne_nil h.several)]
  congr 1
  have hblanks := h.blanks
  have hlengths := h.lengths
  have hcells := h.fields_cells
  have hseveral := h.several
  generalize file.lines = lines at hblanks hlengths hcells
  clear hlines hmark
  induction lines with
  | nil => rfl
  | cons first rest ih =>
    have hrest := ih (fun spaces hmem => hblanks spaces (List.mem_cons_of_mem _ hmem))
      (fun fields hmem => hlengths fields (List.mem_cons_of_mem _ hmem))
      (fun fields hmem => hcells fields (List.mem_cons_of_mem _ hmem))
    cases first with
    | blank spaces =>
      have htrim : trimChars spaces = [] :=
        trimChars_spaces fun c hc => (hblanks spaces List.mem_cons_self c hc).1
      rw [List.map_cons, List.map_cons, FileLine.text, htrim, List.filter_cons_of_neg (by simp),
        List.filterMap_cons_none rfl, hrest]
    | record fields =>
      have hlength := hlengths fields List.mem_cons_self
      have hne : lineOf fields ≠ [] := lineOf_ne_nil (by omega)
      have htext : FileLine.recordText (.record fields) = some (lineOf fields) := rfl
      rw [List.map_cons, List.map_cons, FileLine.text,
        trimChars_lineOf (hcells fields List.mem_cons_self),
        List.filter_cons_of_pos (by simpa using hne), List.filterMap_cons_some htext, hrest]

/-- Each required name is read as it is. -/
theorem readName_required : ∀ name ∈ required, readName name = name := by
  have hall : (required.all fun name => readName name == name) = true := by decide +kernel
  intro name hname
  simpa using List.all_eq_true.mp hall name hname

/-- The rows of a written file are those of its records that have the required fields. -/
theorem parseAssetCsv_text (h : file.WellFormed) :
    parseAssetCsv file.text = file.entries.filterMap fun entry =>
      parseRow (file.names.map readBack) (file.names.map readName) entry.index
        (lineOf entry.fields) := by
  have hlines := entriesFrom_lines 2 0 file.lines
  have hne : file.names ≠ [] := by
    intro hnil
    have hseveral := h.several
    rw [hnil] at hseveral
    simp at hseveral
  have hheaders : (splitCsvLine (lineOf file.names)).map toLowerCase = file.names.map readName := by
    rw [splitCsvLine_lineOf hne h.names_cells, List.map_map]
    rfl
  have hrequired : (required.any fun name => name ∉ file.names.map readName) = false := by
    refine List.any_eq_false.mpr fun name hname => ?_
    have hmem : readName name ∈ file.names.map readName :=
      List.mem_map_of_mem (h.required_names name hname)
    rw [readName_required name hname] at hmem
    simpa using hmem
  unfold parseAssetCsv CsvFile.entries
  rw [linesOf_text h]
  have hmap : ∀ entries : List Entry, (entries.filterMap fun entry =>
      parseRow (file.names.map readBack) (file.names.map readName) entry.index (lineOf entry.fields)) =
      (entries.map fun entry => (lineOf entry.fields, entry.index)).filterMap fun (line, offset) =>
        parseRow (file.names.map readBack) (file.names.map readName) offset line := by
    intro entries
    rw [List.filterMap_map]
    rfl
  rw [hmap, hlines]
  generalize file.lines.filterMap FileLine.recordText = records
  cases records with
  | nil => rfl
  | cons next rest =>
    dsimp only
    rw [hheaders, hrequired, splitCsvLine_lineOf hne h.names_cells]
    rfl

end File

end InternalControl.AssetCsv
