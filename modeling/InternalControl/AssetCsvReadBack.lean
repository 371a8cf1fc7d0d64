import InternalControl.AssetCsvRows

/-!
# When reading undoes writing

The rows of a file say what its records say exactly when the records that are kept
have no quotes and no blank line above them. The preview counts every record when
none of them lacks a required field.
-/

namespace InternalControl.AssetCsv

open CsvText
open OrgChart (isSpace trimChars)

/-! ### Cells by the name of their column -/

theorem orNull_inj {a b : Chars} (h : orNull a = orNull b) : a = b := by
  unfold orNull at h
  split_ifs at h with ha hb
  · rw [ha, hb]
  · exact Option.some.inj h

/-- The cell of a column, found by what the reader makes of its name, when no other column
has that name. -/
theorem cell_idxOf? {read : Chars → Chars} {names fields : List Chars} {name field : Chars}
    (halone : names.Pairwise fun a b => read a = read b → read a ≠ read name)
    (hlength : fields.length = names.length) (h : (name, field) ∈ names.zip fields) :
    cell (fields.map readBack) ((names.map read).idxOf? (read name)) = orNull (readBack field) := by
  induction names generalizing fields with
  | nil => simp at h
  | cons first names ih =>
    cases fields with
    | nil => simp at h
    | cons value fields =>
      rw [List.pairwise_cons] at halone
      rw [List.zip_cons_cons] at h
      rw [List.map_cons, List.map_cons, List.idxOf?_cons]
      rcases List.mem_cons.mp h with heq | h
      · obtain ⟨rfl, rfl⟩ := Prod.mk.inj heq
        rw [if_pos (by simp)]
        unfold cell orNull
        by_cases hempty : readBack field = [] <;> simp [hempty]
      · have hne : read first ≠ read name := fun heq => halone.1 name (List.of_mem_zip h).1 heq heq
        have hrest := ih halone.2 (by simpa using hlength) h
        rw [if_neg (by simpa using hne), ← hrest]
        cases (names.map read).idxOf? (read name) <;> simp [cell]

/-- A name that no column is read as has no cell. -/
theorem cell_idxOf?_of_notMem {names cells : List Chars} {name : Chars} (h : name ∉ names) :
    cell cells (names.idxOf? name) = none := by
  rw [List.idxOf?_eq_none_iff.mpr h]
  rfl

/-! ### The other columns -/

theorem get?_assign (values : KeyedMap Chars Chars) (key value name : Chars) :
    (assign values key value).get? name =
      if name = key ∧ name ≠ protoKey then some value else values.get? name := by
  unfold assign
  split_ifs with hproto hname hname
  · exact absurd (hname.1.trans hproto) hname.2
  · rfl
  · rw [hname.1, KeyedMap.get?_set_self]
  · refine KeyedMap.get?_set_of_ne _ _ fun heq => hname ⟨heq, ?_⟩
    rw [heq]
    exact hproto

/-- A column leaves what stands under another name. -/
theorem get?_customColumn_of_ne {cells : List Chars} {values : KeyedMap Chars Chars}
    {original name : Chars} {index : ℕ} (h : original ≠ name) :
    (customColumn cells values (original, index)).get? name = values.get? name := by
  unfold customColumn
  dsimp only
  split
  · rfl
  · cases cell cells (some index) with
    | none => rfl
    | some value =>
      dsimp only
      rw [get?_assign, if_neg fun heq => h heq.1.symm]

/-- What a column puts under its own name. -/
theorem get?_customColumn_self {cells : List Chars} {values : KeyedMap Chars Chars} {name : Chars}
    {index : ℕ} :
    (customColumn cells values (name, index)).get? name =
      if toLowerCase name ∉ known ∧ name ≠ protoKey then
        (cell cells (some index)).or (values.get? name)
      else values.get? name := by
  unfold customColumn
  dsimp only
  by_cases hknown : toLowerCase name ∈ known
  · rw [if_pos hknown, if_neg fun h => h.1 hknown]
  · rw [if_neg hknown]
    cases cell cells (some index) with
    | none =>
      dsimp only
      rw [Option.none_or, ite_self]
    | some value =>
      dsimp only
      rw [get?_assign]
      by_cases hproto : name = protoKey
      · rw [if_neg fun h => h.2 hproto, if_neg fun h => h.2 hproto]
      · rw [if_pos ⟨rfl, hproto⟩, if_pos ⟨hknown, hproto⟩, Option.some_or]

/-- What the loop over the columns leaves under a name. -/
theorem get?_customValues_foldl {rawHeaders : List Chars} (cells : List Chars)
    (hnodup : rawHeaders.Nodup) (k : ℕ) (values : KeyedMap Chars Chars) (name : Chars) :
    ((rawHeaders.zipIdx k).foldl (customColumn cells) values).get? name =
      if toLowerCase name ∉ known ∧ name ≠ protoKey then
        (cell cells ((rawHeaders.idxOf? name).map (· + k))).or (values.get? name)
      else values.get? name := by
  induction rawHeaders generalizing k values with
  | nil =>
    have hnone : cell cells (([].idxOf? name).map (· + k)) = none := rfl
    rw [hnone, Option.none_or, ite_self]
    rfl
  | cons first rest ih =>
    rw [List.nodup_cons] at hnodup
    rw [List.zipIdx_cons, List.foldl_cons, ih hnodup.2, List.idxOf?_cons]
    by_cases hname : first = name
    · subst hname
      have hnot : cell cells ((rest.idxOf? first).map (· + (k + 1))) = none := by
        rw [List.idxOf?_eq_none_iff.mpr hnodup.1]
        rfl
      rw [hnot, Option.none_or, ite_self, get?_customColumn_self, beq_self_eq_true, if_pos rfl,
        Option.map_some, Nat.zero_add]
    · have hshift : ((rest.idxOf? name).map (· + 1)).map (· + k) =
          (rest.idxOf? name).map (· + (k + 1)) := by
        rw [Option.map_map]
        congr 1
        funext i
        simp only [Function.comp_apply]
        omega
      have hbeq : ¬(first == name) = true := by simpa using hname
      rw [get?_customColumn_of_ne hname, if_neg hbeq, hshift]

theorem get?_customValuesOf {rawHeaders : List Chars} (cells : List Chars)
    (hnodup : rawHeaders.Nodup) (name : Chars) :
    (customValuesOf rawHeaders cells).get? name =
      if toLowerCase name ∉ known ∧ name ≠ protoKey then
        cell cells (rawHeaders.idxOf? name)
      else none := by
  have hstart : (rawHeaders.idxOf? name).map (· + 0) = rawHeaders.idxOf? name := Option.map_id'
  rw [customValuesOf, get?_customValues_foldl cells hnodup, hstart, KeyedMap.get?_empty,
    Option.or_none]

/-! ### The row of a line -/

/-- What a row is made of. -/
theorem parseRow_eq_some {rawHeaders headers : List Chars} {offset : ℕ} {line : Chars}
    {row : AssetCsvRow} (h : parseRow rawHeaders headers offset line = some row) :
    row.rowNumber = offset + 2 ∧
      row.knownFields =
        known.map (fun name => (name, cell (splitCsvLine line) (headers.idxOf? name))) ∧
      row.customValues = customValuesOf rawHeaders (splitCsvLine line) := by
  unfold parseRow at h
  dsimp only at h
  split at h
  · next h1 h2 h3 h4 h5 =>
    cases h
    refine ⟨rfl, ?_, rfl⟩
    simp only [AssetCsvRow.knownFields, known, List.map_cons, List.map_nil, List.zip_cons_cons,
      List.zip_nil_right, h1, h2, h3, h4, h5]
  · cases h

/-- A line has a row exactly when each required column has a cell. -/
theorem isSome_parseRow {rawHeaders headers : List Chars} {offset : ℕ} {line : Chars} :
    (parseRow rawHeaders headers offset line).isSome ↔
      ∀ name ∈ required, (cell (splitCsvLine line) (headers.idxOf? name)).isSome := by
  unfold parseRow
  dsimp only
  simp only [required, List.map_cons, List.map_nil, List.forall_mem_cons, List.not_mem_nil,
    IsEmpty.forall_iff, implies_true, and_true]
  split
  · next h1 h2 h3 h4 h5 =>
    rw [h1, h2, h3, h4, h5]
    exact iff_of_true rfl ⟨rfl, rfl, rfl, rfl, rfl⟩
  · next hnone =>
    refine iff_of_false (by simp) fun ⟨h1, h2, h3, h4, h5⟩ => ?_
    obtain ⟨_, h1⟩ := Option.isSome_iff_exists.mp h1
    obtain ⟨_, h2⟩ := Option.isSome_iff_exists.mp h2
    obtain ⟨_, h3⟩ := Option.isSome_iff_exists.mp h3
    obtain ⟨_, h4⟩ := Option.isSome_iff_exists.mp h4
    obtain ⟨_, h5⟩ := Option.isSome_iff_exists.mp h5
    exact hnone _ _ _ _ _ h1 h2 h3 h4 h5

theorem lookup_map {names : List Chars} {value : Chars → Option Chars} {name : Chars}
    (h : name ∈ names) : (names.map fun name => (name, value name)).lookup name = some (value name) := by
  induction names with
  | nil => cases h
  | cons first rest ih =>
    rw [List.map_cons, List.lookup_cons]
    by_cases hname : name = first
    · rw [hname, beq_self_eq_true]
    · rw [beq_false_of_ne hname]
      exact ih ((List.mem_cons.mp h).resolve_left hname)

section File

variable {file : CsvFile} {entry : Entry}

/-- A record of a file, as the reader splits its line. -/
theorem CsvFile.WellFormed.record (h : file.WellFormed) (hentry : entry ∈ file.entries) :
    entry.fields.length = file.names.length ∧
      splitCsvLine (lineOf entry.fields) = entry.fields.map readBack ∧
        ∀ field ∈ entry.fields, IsCell field := by
  have hrecord := mem_entriesFrom hentry
  have hlength := h.lengths _ hrecord
  have hseveral := h.several
  have hne : entry.fields ≠ [] := by
    intro hnil
    rw [hnil] at hlength
    simp only [List.length_nil] at hlength
    omega
  exact ⟨hlength, splitCsvLine_lineOf hne (h.fields_cells _ hrecord), h.fields_cells _ hrecord⟩

/-- No other column has the name of a column as it is read. -/
theorem CsvFile.WellFormed.alone (h : file.WellFormed) (name : Chars) :
    file.names.Pairwise fun a b => readBack a = readBack b → readBack a ≠ readBack name :=
  (List.pairwise_map.mp h.distinct).imp fun hne heq => absurd heq hne

/-- No other column is the known column that a column is. -/
theorem CsvFile.WellFormed.alone_known (h : file.WellFormed) {name : Chars} (hname : readName name ∈ known) :
    file.names.Pairwise fun a b => readName a = readName b → readName a ≠ readName name :=
  h.distinct_known.imp fun {a b} hne heq (hsame : readName a = readName name) =>
    hne heq (by rw [hsame]; exact hname)

/-- A name without quotes is read as it is. -/
theorem readBack_name (h : file.WellFormed) {name : Chars} (hname : name ∈ file.names) :
    readBack name = name ↔ '"' ∉ name :=
  readBack_eq_self_iff (h.names_cells name hname).trimmed

/-- A known name has no quote. -/
theorem quote_notMem_of_known {name : Chars} (h : toLowerCase name ∈ known) : '"' ∉ name := by
  have hall : (known.all fun name => !name.contains '"') = true := by decide
  intro hquote
  have hlower : '"' ∈ toLowerCase name := List.mem_map.mpr ⟨'"', hquote, by decide⟩
  have hknown := List.all_eq_true.mp hall _ h
  simp [hlower] at hknown

/-- What a field needs for its row to say it: no quotes, in a column that the reader
keeps under its name. -/
def Kept (name field : Chars) : Prop :=
  '"' ∉ field ∧ ('"' ∈ name ∨ name = protoKey → field = [])

/-- A row says a field exactly when the field can be kept. -/
theorem field?_eq_iff (h : file.WellFormed) (hentry : entry ∈ file.entries) {row : AssetCsvRow}
    (hrow : parseRow (file.names.map readBack) (file.names.map readName) entry.index
      (lineOf entry.fields) = some row) {name field : Chars}
    (hfield : (name, field) ∈ file.names.zip entry.fields) :
    row.field? name = orNull field ↔ Kept name field := by
  obtain ⟨hlength, hsplit, hcells⟩ := h.record hentry
  obtain ⟨_, hknown, hcustom⟩ := parseRow_eq_some hrow
  rw [hsplit] at hknown hcustom
  obtain ⟨hname, hmem⟩ := List.of_mem_zip hfield
  have hread : readBack field = field ↔ '"' ∉ field := readBack_eq_self_iff (hcells field hmem).trimmed
  have hempty : orNull (readBack field) = orNull field ↔ '"' ∉ field :=
    ⟨fun heq => hread.mp (orNull_inj heq), fun hquote => by rw [hread.mpr hquote]⟩
  have hnull : none = orNull field ↔ field = [] :=
    ⟨fun heq => (orNull_inj (a := []) (b := field) heq).symm, fun heq => by rw [heq]; rfl⟩
  unfold AssetCsvRow.field? Kept
  by_cases hcolumn : toLowerCase name ∈ known
  · have hquote := quote_notMem_of_known hcolumn
    have hproto : name ≠ protoKey := by
      rintro rfl
      exact absurd hcolumn (by decide)
    have hraw : readName name = toLowerCase name := by
      rw [readName, (readBack_name h hname).mpr hquote]
    have halone := h.alone_known (hraw ▸ hcolumn)
    rw [if_pos hcolumn, hknown, lookup_map hcolumn, ← hraw, Option.join_some,
      cell_idxOf? halone hlength hfield, hempty]
    simp [hquote, hproto]
  · rw [if_neg hcolumn, hcustom, get?_customValuesOf _ h.distinct]
    by_cases hproto : name = protoKey
    · rw [if_neg fun hboth => hboth.2 hproto, hnull]
      constructor
      · rintro rfl
        simp
      · exact fun hkept => hkept.2 (Or.inr hproto)
    · rw [if_pos ⟨hcolumn, hproto⟩]
      by_cases hquote : '"' ∈ name
      · have hnone : name ∉ file.names.map readBack := by
          intro hother
          obtain ⟨other, _, rfl⟩ := List.mem_map.mp hother
          exact quote_not_mem_dropQuotes other (mem_of_mem_trimChars hquote)
        rw [cell_idxOf?_of_notMem hnone, hnull]
        constructor
        · rintro rfl
          simp
        · exact fun hkept => hkept.2 (Or.inl hquote)
      · have hraw := (readBack_name h hname).mpr hquote
        have hcell := cell_idxOf? (h.alone name) hlength hfield
        rw [hraw] at hcell
        rw [hcell, hempty]
        simp [hquote, hproto]

/-- The cell of a required column is what is read of its field. -/
theorem cell_required (h : file.WellFormed) (hentry : entry ∈ file.entries) {name field : Chars}
    (hname : name ∈ required) (hfield : (name, field) ∈ file.names.zip entry.fields) :
    cell (splitCsvLine (lineOf entry.fields)) ((file.names.map readName).idxOf? name) =
      orNull (readBack field) := by
  obtain ⟨hlength, hsplit, _⟩ := h.record hentry
  have hknown : readName name ∈ known := by
    have hall : (required.all fun name => known.contains name) = true := by decide
    rw [readName_required name hname]
    simpa using List.all_eq_true.mp hall name hname
  have hcell := cell_idxOf? (h.alone_known hknown) hlength hfield
  rw [readName_required name hname] at hcell
  rw [hsplit, hcell]

/-- A record that has a row has its required fields. -/
theorem filled_of_isSome (h : file.WellFormed) (hentry : entry ∈ file.entries)
    (hrow : (parseRow (file.names.map readBack) (file.names.map readName) entry.index
      (lineOf entry.fields)).isSome) : Filled file.names entry := by
  intro name hname field hfield hempty
  have hcell := isSome_parseRow.mp hrow name hname
  rw [cell_required h hentry hname hfield, hempty] at hcell
  cases hcell

/-- A record with its required fields, none of them quoted, has a row. -/
theorem isSome_of_filled (h : file.WellFormed) (hentry : entry ∈ file.entries)
    (hfilled : Filled file.names entry)
    (hkept : ∀ name field, (name, field) ∈ file.names.zip entry.fields → '"' ∉ field) :
    (parseRow (file.names.map readBack) (file.names.map readName) entry.index
      (lineOf entry.fields)).isSome := by
  obtain ⟨hlength, _, hcells⟩ := h.record hentry
  refine isSome_parseRow.mpr fun name hname => ?_
  obtain ⟨field, hfield⟩ : ∃ field, (name, field) ∈ file.names.zip entry.fields := by
    obtain ⟨i, hi, rfl⟩ := List.getElem_of_mem (h.required_names name hname)
    have hi' : i < (file.names.zip entry.fields).length := by
      rw [List.length_zip]
      omega
    have hfields : i < entry.fields.length := by omega
    refine ⟨entry.fields[i], List.mem_iff_getElem.mpr ⟨i, hi', ?_⟩⟩
    rw [List.getElem_zip]
  have hmem := (List.of_mem_zip hfield).2
  have hread : readBack field = field :=
    (readBack_eq_self_iff (hcells field hmem).trimmed).mpr (hkept name field hfield)
  rw [cell_required h hentry hname hfield, hread, orNull, if_neg (hfilled name hname field hfield)]
  rfl

end File

/-! ### Rows and records side by side -/

/-- Kept elements that stand beside their images: each of them has one. -/
theorem forall₂_filter_filterMap_iff {α β : Type} {related : α → β → Prop} {kept : α → Bool}
    {image : α → Option β} {elements : List α}
    (himage : ∀ a ∈ elements, (image a).isSome → kept a = true) :
    List.Forall₂ related (elements.filter kept) (elements.filterMap image) ↔
      ∀ a ∈ elements, kept a = true → ∃ b, image a = some b ∧ related a b := by
  have hle : ∀ rest : List α, (∀ a ∈ rest, (image a).isSome → kept a = true) →
      (rest.filterMap image).length ≤ (rest.filter kept).length := by
    intro rest hrest
    induction rest with
    | nil => exact le_rfl
    | cons a rest ih =>
      have htail := ih fun b hb => hrest b (List.mem_cons_of_mem _ hb)
      cases hb : image a with
      | none =>
        rw [List.filterMap_cons_none hb]
        exact htail.trans ((List.sublist_cons_self a rest).filter kept).length_le
      | some b =>
        have hkept := hrest a List.mem_cons_self (by rw [hb]; rfl)
        rw [List.filterMap_cons_some hb, List.filter_cons_of_pos hkept]
        simpa using htail
  induction elements with
  | nil => simp
  | cons a rest ih =>
    have htail := hle rest fun b hb => himage b (List.mem_cons_of_mem _ hb)
    have hrest := ih fun b hb => himage b (List.mem_cons_of_mem _ hb)
    refine Iff.trans ?_ (List.forall_mem_cons.trans (and_congr Iff.rfl hrest.symm)).symm
    cases hb : image a with
    | none =>
      rw [List.filterMap_cons_none hb]
      by_cases hkept : kept a = true
      · rw [List.filter_cons_of_pos hkept]
        refine iff_of_false (fun hside => ?_) fun hboth => ?_
        · have hlength := hside.length_eq
          simp only [List.length_cons] at hlength
          omega
        · obtain ⟨b, hsome, _⟩ := hboth.1 hkept
          cases hsome
      · rw [List.filter_cons_of_neg hkept]
        exact ⟨fun hside => ⟨fun habs => absurd habs hkept, hside⟩, fun hboth => hboth.2⟩
    | some b =>
      have hkept := himage a List.mem_cons_self (by rw [hb]; rfl)
      rw [List.filterMap_cons_some hb, List.filter_cons_of_pos hkept, List.forall₂_cons]
      refine and_congr_left fun _ => ⟨fun hrelated _ => ⟨b, rfl, hrelated⟩, fun hall => ?_⟩
      obtain ⟨b', hsome, hrelated⟩ := hall hkept
      cases hsome
      exact hrelated

section File

variable {file : CsvFile}

/-- What reading back needs of the records with their required fields: no blank line
above them, and fields that can be kept. -/
def Clean (file : CsvFile) : Prop :=
  ∀ entry ∈ file.entries, Filled file.names entry → entry.line = entry.index + 2 ∧
    ∀ name field, (name, field) ∈ file.names.zip entry.fields → Kept name field

/-- No record lacks a required field, or so many do not that the file is refused for its length. -/
def NoneDropped (file : CsvFile) : Prop :=
  (∀ entry ∈ file.entries, Filled file.names entry) ∨
    maxImportRows < (file.entries.filter fun entry => Filled file.names entry).length

/-- Reading undoes writing exactly when the kept records are clean. -/
theorem readBack_iff (h : file.WellFormed) : ReadBack file ↔ Clean file := by
  unfold ReadBack Clean
  rw [parseAssetCsv_text h, forall₂_filter_filterMap_iff fun entry hentry hrow => by
    simpa using filled_of_isSome h hentry hrow]
  constructor
  · intro hall entry hentry hfilled
    obtain ⟨row, hrow, hmatches⟩ := hall entry hentry (by simpa using hfilled)
    have hnumber := (parseRow_eq_some hrow).1
    refine ⟨hmatches.rowNumber.symm.trans hnumber, fun name field hfield => ?_⟩
    exact (field?_eq_iff h hentry hrow hfield).mp (hmatches.fields name field hfield)
  · intro hclean entry hentry hfilled
    obtain ⟨hline, hkept⟩ := hclean entry hentry (by simpa using hfilled)
    obtain ⟨row, hrow⟩ := Option.isSome_iff_exists.mp (isSome_of_filled h hentry
      (by simpa using hfilled) fun name field hfield => (hkept name field hfield).1)
    refine ⟨row, hrow, (parseRow_eq_some hrow).1.trans hline.symm, fun name field hfield => ?_⟩
    exact (field?_eq_iff h hentry hrow hfield).mpr (hkept name field hfield)

/-- The preview counts every record exactly when none of them is dropped. -/
theorem countsEveryRecord_iff {δ ε : Type} {csvRowToDto : AssetCsvRow → Except ε δ}
    (hread : ReadBack file) : CountsEveryRecord csvRowToDto file ↔ NoneDropped file := by
  have hlength := hread.length_eq
  have hfew := (List.filter_sublist (p := fun entry => decide (Filled file.names entry))
    (l := file.entries)).length_le
  have hall : (file.entries.filter fun entry => Filled file.names entry).length =
      file.entries.length ↔ ∀ entry ∈ file.entries, Filled file.names entry := by
    rw [List.length_filter_eq_length_iff]
    simp
  unfold CountsEveryRecord previewImport NoneDropped
  dsimp only
  rw [← hall, ← hlength]
  split_ifs with hzero hmany
  · dsimp only
    rw [hzero, ← List.length_eq_zero_iff]
    constructor
    · intro hempty
      exact Or.inl hempty.symm
    · rintro (hempty | hlong)
      · exact hempty.symm
      · exact absurd hlong (by decide)
  · dsimp only
    exact iff_of_true (by omega) (Or.inr hmany)
  · dsimp only
    constructor
    · exact fun htotal => Or.inl htotal
    · rintro (htotal | hlong)
      · exact htotal
      · exact absurd hlong hmany

end File

/-! ### A quote, a blank line, an empty field -/

/-- A file with the required columns. -/
def requiredFile (lines : List FileLine) : CsvFile := ⟨required, lines, false⟩

/-- A computer of a category and a price centre, bought on a day. -/
def computer (description : String) : List Chars :=
  [description, "COMPUTERS", "4100", "PURCHASE", "2026-03-15"].map String.toList

theorem wellFormed_requiredFile {lines : List FileLine}
    (hlines : ∀ line ∈ lines, line = .blank [] ∨
      ∃ description, line = .record (computer description) ∧ IsCell description.toList) :
    (requiredFile lines).WellFormed where
  names_cells := by
    have hall : (required.all fun name => decide (IsCell name)) = true := by decide +kernel
    intro name hname
    simpa using List.all_eq_true.mp hall name hname
  distinct := by
    have hdistinct : (required.map readBack).Nodup := by decide +kernel
    exact hdistinct
  distinct_known := by
    have hdistinct : (required.map readName).Nodup := by decide +kernel
    exact (List.pairwise_map.mp hdistinct).imp fun hne heq => absurd heq hne
  required_names _ hname := hname
  blanks spaces hspaces := by
    rcases hlines _ hspaces with heq | ⟨_, heq, _⟩
    · cases heq
      intro c hc
      cases hc
    · cases heq
  lengths fields hfields := by
    rcases hlines _ hfields with heq | ⟨_, heq, _⟩
    · cases heq
    · cases heq
      rfl
  fields_cells fields hfields := by
    have hall : (["COMPUTERS", "4100", "PURCHASE", "2026-03-15"].map String.toList).all
        (fun field => decide (IsCell field)) = true := by decide +kernel
    rcases hlines _ hfields with heq | ⟨_, heq, hcell⟩
    · cases heq
    · cases heq
      intro field hfield
      rcases List.mem_cons.mp hfield with rfl | hfield
      · exact hcell
      · simpa using List.all_eq_true.mp hall field hfield

end InternalControl.AssetCsv
