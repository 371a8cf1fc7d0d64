import InternalControl.OrgChartPlan

/-!
# What the rows place and what the passes keep

Every unit of a plan is a stored one that no row touched, or what one accepted
row says of a stored or new one. The passes after the rows change the own
centre, the parent and the removal, and nothing else.
-/

namespace InternalControl.OrgChart

open Text

/-! ### New codes -/

section Codes

/-- What comes after the last underscore is read off a text. -/
theorem eq_of_append_underscore {xs ys ds es : List Char} (hds : '_' ∉ ds) (hes : '_' ∉ es)
    (h : xs ++ '_' :: ds = ys ++ '_' :: es) : ds = es := by
  have htail : ∀ zs cs : List Char, '_' ∉ cs →
      (zs ++ '_' :: cs).reverse.takeWhile (· ≠ '_') = cs.reverse := by
    intro zs cs hcs
    rw [List.reverse_append, List.reverse_cons, List.append_assoc,
      List.takeWhile_append_of_pos (fun c hc => by
        have hne : c ≠ '_' := fun he => hcs (he ▸ List.mem_reverse.mp hc)
        simpa using hne)]
    simp
  have hsame := congrArg (fun cs : List Char => cs.reverse.takeWhile (· ≠ '_')) h
  have hreverse : ds.reverse = es.reverse := by
    rw [← htail xs ds hds, ← htail ys es hes]
    exact hsame
  exact List.reverse_injective hreverse

/-- Different numbers give different candidates. -/
theorem unitCodeCandidate_injective (trimmed : String) :
    Function.Injective (unitCodeCandidate trimmed) := by
  intro m n h
  have hdigits : ∀ k : ℕ, '_' ∉ Nat.toDigits 10 k := by
    intro k hk
    have hdigit := Nat.isDigit_of_mem_toDigits (by decide) (by decide) hk
    exact absurd hdigit (by decide)
  have htext : ∀ k : ℕ, ∃ start : List Char,
      (unitCodeCandidate trimmed k).toList = start ++ '_' :: Nat.toDigits 10 k := by
    intro k
    have hrepr : (toString k).toList = Nat.toDigits 10 k := Nat.toList_repr
    unfold unitCodeCandidate
    dsimp only
    exact ⟨_, by rw [String.toList_append, String.toList_append, String.toList_ofList, hrepr]; rfl⟩
  obtain ⟨xs, hxs⟩ := htext m
  obtain ⟨ys, hys⟩ := htext n
  have hsame : Nat.toDigits 10 m = Nat.toDigits 10 n :=
    eq_of_append_underscore (hdigits m) (hdigits n) (by rw [← hxs, ← hys, h])
  rw [← Nat.ofDigitChars_ten_toDigits (n := m), hsame, Nat.ofDigitChars_ten_toDigits]

/-- A generated code is not in use. -/
theorem generateUnitCode_notMem (unicode : Unicode) (prefixText : Option String) (name : String)
    (used : List String) : generateUnitCode unicode prefixText name used ∉ used := by
  rw [generateUnitCode]
  split
  · next hfree => exact hfree
  · generalize unitCodeBase unicode prefixText name = trimmed
    cases hfind : ((List.range (used.length + 1)).map fun n =>
        unitCodeCandidate trimmed (n + 2)).find? fun code => decide (code ∉ used) with
    | some code =>
      have hnew := List.find?_some hfind
      simpa using hnew
    | none =>
      -- there are more candidates than codes in use
      exfalso
      rw [List.find?_eq_none] at hfind
      have hnodup : ((List.range (used.length + 1)).map fun n =>
          unitCodeCandidate trimmed (n + 2)).Nodup := by
        refine List.Nodup.map ?_ List.nodup_range
        intro m n hmn
        have hsucc := unitCodeCandidate_injective trimmed hmn
        omega
      have hsubset : ((List.range (used.length + 1)).map fun n =>
          unitCodeCandidate trimmed (n + 2)) ⊆ used := by
        intro code hcode
        have hused := hfind code hcode
        simpa using hused
      have hlength := (hnodup.subperm hsubset).length_le
      rw [List.length_map, List.length_range] at hlength
      omega

end Codes

/-! ### Notices without errors -/

theorem issuesOf_flatMap {α : Type} (level : IssueLevel) (items : List α) (f : α → List Notice) :
    issuesOf level (items.flatMap f) = items.flatMap fun item => issuesOf level (f item) := by
  induction items with
  | nil => rfl
  | cons item rest ih => rw [List.flatMap_cons, issuesOf_append, ih, List.flatMap_cons]

theorem issuesOf_cons (level : IssueLevel) (notice : Notice) (rest : List Notice) :
    issuesOf level (notice :: rest) = issuesOf level [notice] ++ issuesOf level rest := by
  rw [← issuesOf_append, List.singleton_append]

@[simp] theorem issuesOf_unitError (row : ℕ) (column : Option String) (message : String) :
    issuesOf .error [unitError row column message] = [⟨unitSheet, row, column, message⟩] := rfl

@[simp] theorem issuesOf_unitWarning (row : ℕ) (column : Option String) (message : String) :
    issuesOf .error [unitWarning row column message] = [] := rfl

@[simp] theorem issuesOf_centerWarning (row : ℕ) (column : Option String) (message : String) :
    issuesOf .error [centerWarning row column message] = [] := rfl

/-! ### Reading one row -/

section Rows

variable (unicode : Unicode) (units : List SnapshotUnit) (row : UnitRowInput)

/-- A row whose cells are in order says something that can be planned. -/
structure Placeable : Prop where
  notBlank : isBlankUnitRow row = false
  sound : unitRowIssues unicode row units = []
  newUnit : rowExisting unicode row units = none →
    rowAction unicode row = none ∧ (rowType unicode row).isSome = true

variable {unicode units row}

/-- Everything that may be wrong with the cells of a row is an error. -/
theorem level_of_mem_unitRowIssues {notice : Notice} (h : notice ∈ unitRowIssues unicode row units) :
    notice.level = .error := by
  have hcell : ∀ {α : Type} {column : String} {cell : Option String} {value : Option α}
      {message : String → String},
      notice ∈ cellIssues unitError column row.rowNumber cell value message →
        notice.level = .error := by
    intro α column cell value message hnotice
    unfold cellIssues at hnotice
    split at hnotice
    · rw [List.mem_singleton.mp hnotice]
      rfl
    · cases hnotice
  have hname : notice ∈ nameIssues unitError unitHeaders.name row.rowNumber row.name →
      notice.level = .error := by
    intro hnotice
    unfold nameIssues at hnotice
    split at hnotice
    · rw [List.mem_singleton.mp hnotice]
      rfl
    · split at hnotice
      · rw [List.mem_singleton.mp hnotice]
        rfl
      · cases hnotice
  have hshown : notice ∈ prefixIssues unicode row → notice.level = .error := by
    intro hnotice
    unfold prefixIssues at hnotice
    split at hnotice
    · cases hnotice
    · split at hnotice
      · rw [List.mem_singleton.mp hnotice]
        rfl
      · cases hnotice
  have hcode : notice ∈ codeIssues unicode row units → notice.level = .error := by
    intro hnotice
    unfold codeIssues at hnotice
    split at hnotice
    · split at hnotice
      · rw [List.mem_singleton.mp hnotice]
        rfl
      · cases hnotice
    · cases hnotice
  simp only [unitRowIssues, statusIssues, actionIssues, List.mem_append] at h
  rcases h with ((((((hn | hn) | hn) | hn) | hn) | hn) | hn) | hn
  · exact hname hn
  · exact hshown hn
  · exact hcell hn
  · exact hcell hn
  · split at hn
    · cases hn
    · exact hcell hn
  · exact hcell hn
  · exact hcell hn
  · exact hcode hn

/-- Issues about the cells of a row are errors of the plan. -/
theorem issuesOf_unitRowIssues_ne_nil (h : unitRowIssues unicode row units ≠ []) :
    issuesOf .error (unitRowIssues unicode row units) ≠ [] := by
  obtain ⟨notice, hnotice⟩ := List.exists_mem_of_ne_nil _ h
  intro hnil
  rw [issuesOf_error_eq_nil_iff] at hnil
  exact hnil notice hnotice (level_of_mem_unitRowIssues hnotice)

/-- A row changes nothing but the codes in use and the notices, and then it is
blank, about no stored unit, or wrong; or it is placed under a key that had no row. -/
theorem readUnitRow_cases (unicode : Unicode) (units : List SnapshotUnit) (row : UnitRowInput)
    (state : UnitRows) :
    ((readUnitRow unicode units row state).units = state.units ∧
      (readUnitRow unicode units row state).unitRows = state.unitRows ∧
      state.usedUnitCodes ⊆ (readUnitRow unicode units row state).usedUnitCodes ∧
      ∃ notices, (readUnitRow unicode units row state).notices = state.notices ++ notices ∧
        (isBlankUnitRow row = true ∨ rowExisting unicode row units = none ∨
          issuesOf .error notices ≠ [])) ∨
    Placeable unicode units row ∧
      state.unitRows.get? (unitRowKey unicode units row
        (unitRowCode unicode units row state.usedUnitCodes)) = none ∧
      readUnitRow unicode units row state = placeUnitRow unicode units row state := by
  unfold readUnitRow
  dsimp only
  split
  · next hblank => exact Or.inl ⟨rfl, rfl, List.Subset.refl _, [], by simp, Or.inl hblank⟩
  · next hblank =>
    split
    · next hissues =>
      refine Or.inl ⟨rfl, rfl, List.Subset.refl _, _, rfl, Or.inr (Or.inr ?_)⟩
      refine issuesOf_unitRowIssues_ne_nil fun hnil => ?_
      rw [hnil] at hissues
      cases hissues
    · next hissues =>
      split
      · next hignored =>
        rw [Bool.and_eq_true, Option.isNone_iff_eq_none] at hignored
        exact Or.inl ⟨rfl, rfl, List.Subset.refl _, _, rfl, Or.inr (Or.inl hignored.1)⟩
      · next hignored =>
        split
        · next htype =>
          rw [Bool.and_eq_true, Option.isNone_iff_eq_none] at htype
          exact Or.inl ⟨rfl, rfl, List.Subset.refl _, _, rfl, Or.inr (Or.inl htype.1)⟩
        · next htype =>
          have hplaceable : Placeable unicode units row := by
            refine ⟨by simpa using hblank, by simpa using hissues, fun hexisting => ?_⟩
            rw [hexisting] at hignored htype
            constructor
            · simpa using hignored
            · rw [Option.isSome_iff_ne_none]
              intro hnone
              rw [hnone] at htype
              exact htype rfl
          cases hrow : state.unitRows.get? (unitRowKey unicode units row
              (unitRowCode unicode units row state.usedUnitCodes)) with
          | none => exact Or.inr ⟨hplaceable, rfl, rfl⟩
          | some previousRow =>
            refine Or.inl ?_
            unfold placeUnitRow
            dsimp only
            rw [hrow]
            refine ⟨rfl, rfl, ?_, _, rfl, Or.inr (Or.inr (by simp))⟩
            dsimp only
            split
            · exact List.subset_cons_self _ _
            · exact List.Subset.refl _

end Rows

/-! ### Reading all the rows -/

section Run

variable (unicode : Unicode) (units : List SnapshotUnit)

/-- A unit is what an accepted row says of a stored unit or of a new one. -/
def PlacedBy (row : UnitRowInput) (unit : FinalUnit) : Prop :=
  (∃ before ∈ units, rowExisting unicode row units = some before ∧
    unit = rowUnit unicode row units (.stored before.id) before.code (some (.ofSnapshot before))) ∨
  rowExisting unicode row units = none ∧
    ∃ code, code ∉ units.map SnapshotUnit.code ∧ unit = rowUnit unicode row units (.new code) code none

/-- What holds of the units while the rows are read. -/
structure RowsPlaced (rows : List UnitRowInput) (state : UnitRows) : Prop where
  codesUsed : units.map SnapshotUnit.code ⊆ state.usedUnitCodes
  stored : ∀ unit ∈ units, PlanKey.stored unit.id ∈ state.units.keys
  entry : ∀ key unit, state.units.get? key = some unit → unit.key = key ∧
    ((state.unitRows.get? key = none ∧ ∃ before ∈ units, unit = .ofSnapshot before) ∨
      (state.unitRows.get? key).isSome = true ∧
        ∃ row ∈ rows, Placeable unicode units row ∧ PlacedBy unicode units row unit)

variable {unicode units} {rows : List UnitRowInput} {row : UnitRowInput} {state : UnitRows}

/-- What a row finds is a stored unit. -/
theorem mem_of_rowExisting {unit : SnapshotUnit} (h : rowExisting unicode row units = some unit) :
    unit ∈ units := by
  have hcode : ∀ {code : String}, findByCode unicode units code = some unit → unit ∈ units := by
    intro code hfind
    rcases Option.or_eq_some_iff.mp hfind with hfound | ⟨-, hfound⟩
    · exact (KeyedMap.mem_of_get?_index hfound).1
    · exact (KeyedMap.mem_of_get?_index hfound).1
  have hlive : ∀ {text : String}, (activeUnitByPrefix units).get? text = some unit → unit ∈ units := by
    intro text hfound
    rw [activeUnitByPrefix, KeyedMap.get?_ofList, Option.map_eq_some_iff] at hfound
    obtain ⟨pair, hfind, hpair⟩ := hfound
    have hmem := List.mem_reverse.mp (List.mem_of_find?_eq_some hfind)
    obtain ⟨other, hother, hsame⟩ := List.mem_map.mp hmem
    have hunit : other = unit := by rw [← hpair, ← hsame]
    exact hunit ▸ (List.mem_filter.mp hother).1
  rcases Option.or_eq_some_iff.mp h with hnamed | ⟨-, hshown⟩
  · obtain ⟨code, -, hfind⟩ := Option.bind_eq_some_iff.mp hnamed
    exact hcode hfind
  · split at hshown
    · obtain ⟨text, -, hfind⟩ := Option.bind_eq_some_iff.mp hshown
      rcases Option.or_eq_some_iff.mp hfind with hfound | ⟨-, hfound⟩
      · exact hlive hfound
      · exact hlive hfound
    · cases hshown

/-- A row about no stored unit brings a code that no stored unit has. -/
theorem unitRowCode_notMem (hnew : rowExisting unicode row units = none) {used : List String}
    (hused : units.map SnapshotUnit.code ⊆ used) :
    unitRowCode unicode units row used ∉ units.map SnapshotUnit.code := by
  unfold unitRowCode
  rw [hnew]
  dsimp only
  cases hcode : rowCode unicode row units with
  | none => exact fun hmem => generateUnitCode_notMem unicode _ _ used (hused hmem)
  | some code =>
    -- the code in capitals was looked up and not found
    have hnamed : rowNamed unicode row units = none := (Option.or_eq_none_iff.mp hnew).1
    obtain ⟨text, htext, hsame⟩ := Option.map_eq_some_iff.mp hcode
    rw [hnamed] at hsame
    have hfind : findByCode unicode units text = none := by
      rw [rowNamed, htext] at hnamed
      exact hnamed
    have hupper : (unitByCode units).get? code = none := by
      rw [← hsame]
      exact (Option.or_eq_none_iff.mp hfind).2
    intro hmem
    obtain ⟨unit, hunit, hunitCode⟩ := List.mem_map.mp hmem
    have hhas := (KeyedMap.index_has_iff SnapshotUnit.code units code).mpr ⟨unit, hunit, hunitCode⟩
    rw [KeyedMap.has, ← unitByCode, hupper] at hhas
    cases hhas

theorem rowsPlaced_start : RowsPlaced unicode units rows (.start units) := by
  refine ⟨List.Subset.refl _, fun unit hunit => ?_, fun key unit hget => ?_⟩
  · rw [← KeyedMap.has_iff, UnitRows.start]
    refine (KeyedMap.index_has_iff _ _ _).mpr ⟨.ofSnapshot unit, ?_, rfl⟩
    exact List.mem_map_of_mem hunit
  · obtain ⟨hmem, hkey⟩ := KeyedMap.mem_of_get?_index hget
    obtain ⟨before, hbefore, hsame⟩ := List.mem_map.mp hmem
    exact ⟨hkey, Or.inl ⟨rfl, before, hbefore, hsame.symm⟩⟩

/-- What the plan has of a unit when its first row comes. -/
theorem RowsPlaced.current (hstate : RowsPlaced unicode units rows state)
    (hids : (units.map SnapshotUnit.id).Nodup) {code : String}
    (hfree : state.unitRows.get? (unitRowKey unicode units row code) = none) :
    state.units.get? (unitRowKey unicode units row code) =
      (rowExisting unicode row units).map FinalUnit.ofSnapshot := by
  unfold unitRowKey at hfree ⊢
  cases hexisting : rowExisting unicode row units with
  | none =>
    rw [hexisting] at hfree
    dsimp only at hfree ⊢
    rw [Option.map_none, Option.eq_none_iff_forall_not_mem]
    intro unit hunit
    obtain ⟨hkey, hcase⟩ := hstate.entry _ unit hunit
    rcases hcase with ⟨-, before, -, rfl⟩ | ⟨hsome, -⟩
    · cases hkey
    · rw [hfree] at hsome
      cases hsome
  | some unit =>
    rw [hexisting] at hfree
    dsimp only at hfree ⊢
    have hmem := mem_of_rowExisting hexisting
    have hhas := hstate.stored unit hmem
    rw [← KeyedMap.get?_isSome_iff] at hhas
    obtain ⟨found, hfound⟩ := Option.isSome_iff_exists.mp hhas
    obtain ⟨hkey, hcase⟩ := hstate.entry _ found hfound
    rcases hcase with ⟨-, before, hbefore, rfl⟩ | ⟨hsome, -⟩
    · have hid : before.id = unit.id := PlanKey.stored.inj hkey
      rw [hfound, List.inj_on_of_nodup_map hids hbefore hmem hid, Option.map_some]
    · rw [hfree] at hsome
      cases hsome

/-- The unit that a placed row leaves. -/
theorem placeUnitRow_of_free {code : String} {key : PlanKey}
    (hcode : unitRowCode unicode units row state.usedUnitCodes = code)
    (hkey : unitRowKey unicode units row code = key) (hfree : state.unitRows.get? key = none) :
    (placeUnitRow unicode units row state).units =
        state.units.set key (rowUnit unicode row units key code (state.units.get? key)) ∧
      (placeUnitRow unicode units row state).unitRows = state.unitRows.set key row.rowNumber ∧
      state.usedUnitCodes ⊆ (placeUnitRow unicode units row state).usedUnitCodes ∧
      (placeUnitRow unicode units row state).notices =
        state.notices ++ prefixNotices unicode units row := by
  subst hcode hkey
  unfold placeUnitRow
  dsimp only
  rw [hfree]
  refine ⟨rfl, rfl, ?_, rfl⟩
  dsimp only
  split
  · exact List.subset_cons_self _ _
  · exact List.Subset.refl _

/-- The unit that a placed row leaves is what the row says. -/
theorem RowsPlaced.placedBy (hstate : RowsPlaced unicode units rows state)
    (hids : (units.map SnapshotUnit.id).Nodup) {code : String}
    (hcode : unitRowCode unicode units row state.usedUnitCodes = code)
    (hfree : state.unitRows.get? (unitRowKey unicode units row code) = none) :
    PlacedBy unicode units row (rowUnit unicode row units (unitRowKey unicode units row code) code
      (state.units.get? (unitRowKey unicode units row code))) := by
  rw [hstate.current hids hfree]
  cases hexisting : rowExisting unicode row units with
  | some before =>
    refine Or.inl ⟨before, mem_of_rowExisting hexisting, hexisting, ?_⟩
    have hkey : unitRowKey unicode units row code = .stored before.id := by
      rw [unitRowKey, hexisting]
    have hbefore : code = before.code := by
      rw [← hcode, unitRowCode, hexisting]
    rw [hkey, hbefore, Option.map_some]
  | none =>
    refine Or.inr ⟨hexisting, code, ?_, ?_⟩
    · rw [← hcode]
      exact unitRowCode_notMem hexisting hstate.codesUsed
    · have hkey : unitRowKey unicode units row code = .new code := by
        rw [unitRowKey, hexisting]
      rw [hkey, Option.map_none]

/-- One row keeps what holds of the units. -/
theorem RowsPlaced.readUnitRow (hstate : RowsPlaced unicode units rows state)
    (hids : (units.map SnapshotUnit.id).Nodup) (hrow : row ∈ rows) :
    RowsPlaced unicode units rows (readUnitRow unicode units row state) := by
  rcases readUnitRow_cases unicode units row state with
    ⟨hunits, hrows, hused, -⟩ | ⟨hplaceable, hfree, hplaced⟩
  · refine ⟨List.Subset.trans hstate.codesUsed hused, ?_, ?_⟩
    · rw [hunits]
      exact hstate.stored
    · rw [hunits, hrows]
      exact hstate.entry
  · obtain ⟨hunits, hrows, hused, -⟩ := placeUnitRow_of_free rfl rfl hfree
    rw [hplaced]
    refine ⟨List.Subset.trans hstate.codesUsed hused, fun unit hunit => ?_, fun key unit hget => ?_⟩
    · rw [hunits, KeyedMap.keys_set]
      split
      · exact hstate.stored unit hunit
      · exact List.mem_append_left _ (hstate.stored unit hunit)
    · rw [hunits, KeyedMap.get?_set] at hget
      rw [hrows, KeyedMap.get?_set]
      split at hget
      · next hsame =>
        cases hget
        rw [if_pos hsame]
        refine ⟨hsame.symm, Or.inr ⟨rfl, row, hrow, hplaceable, ?_⟩⟩
        exact hstate.placedBy hids rfl hfree
      · next hother =>
        rw [if_neg hother]
        exact hstate.entry key unit hget

/-- What holds of the units once all the rows are read. -/
theorem rowsPlaced_readUnitRows (unicode : Unicode) (hids : (units.map SnapshotUnit.id).Nodup)
    (rows : List UnitRowInput) :
    RowsPlaced unicode units rows (readUnitRows unicode units rows) := by
  unfold readUnitRows
  exact List.foldlRecOn rows _ rowsPlaced_start fun state hstate row hrow =>
    hstate.readUnitRow hids hrow

/-- Reading one more row. -/
theorem readUnitRows_append (rows : List UnitRowInput) (row : UnitRowInput) :
    readUnitRows unicode units (rows ++ [row]) =
      readUnitRow unicode units row (readUnitRows unicode units rows) := by
  simp [readUnitRows]

/-- Without errors every row about a stored unit is the unit's only row, and it
says what the unit becomes. -/
theorem get?_readUnitRows (hids : (units.map SnapshotUnit.id).Nodup) {rows : List UnitRowInput}
    (hclean : issuesOf .error (readUnitRows unicode units rows).notices = []) :
    ∀ row ∈ rows, isBlankUnitRow row = false → ∀ before,
      rowExisting unicode row units = some before →
        (readUnitRows unicode units rows).units.get? (.stored before.id) =
            some (rowUnit unicode row units (.stored before.id) before.code
              (some (.ofSnapshot before))) ∧
          ((readUnitRows unicode units rows).unitRows.get? (.stored before.id)).isSome = true := by
  induction rows using List.reverseRecOn with
  | nil => exact fun row hrow => absurd hrow List.not_mem_nil
  | append_singleton rows last ih =>
    have hstate := rowsPlaced_readUnitRows unicode hids rows
    rw [readUnitRows_append] at hclean ⊢
    generalize readUnitRows unicode units rows = state at hstate hclean ih ⊢
    intro row hrow hblank before hexisting
    rw [List.mem_append, List.mem_singleton] at hrow
    rcases readUnitRow_cases unicode units last state with
      ⟨hunits, hrows, -, notices, hnotices, hwhy⟩ | ⟨-, hfree, hplaced⟩
    · rw [hnotices, issuesOf_append, List.append_eq_nil_iff] at hclean
      rw [hunits, hrows]
      rcases hrow with hrow | rfl
      · exact ih hclean.1 row hrow hblank before hexisting
      · -- a row that was passed over is blank or new
        rcases hwhy with hwhy | hwhy | hwhy
        · rw [hwhy] at hblank
          cases hblank
        · rw [hwhy] at hexisting
          cases hexisting
        · exact absurd hclean.2 hwhy
    · obtain ⟨hunits, hrows, -, hnotices⟩ := placeUnitRow_of_free rfl rfl hfree
      rw [hplaced, hnotices, issuesOf_append, List.append_eq_nil_iff] at hclean
      rw [hplaced, hunits, hrows, KeyedMap.get?_set, KeyedMap.get?_set]
      rcases hrow with hrow | rfl
      · obtain ⟨hget, hsome⟩ := ih hclean.1 row hrow hblank before hexisting
        have hother : PlanKey.stored before.id ≠ unitRowKey unicode units last
            (unitRowCode unicode units last state.usedUnitCodes) := by
          intro hsame
          rw [hsame, hfree] at hsome
          cases hsome
        rw [if_neg hother, if_neg hother]
        exact ⟨hget, hsome⟩
      · have hkey : unitRowKey unicode units row
            (unitRowCode unicode units row state.usedUnitCodes) = .stored before.id := by
          rw [unitRowKey, hexisting]
        have hcode : unitRowCode unicode units row state.usedUnitCodes = before.code := by
          rw [unitRowCode, hexisting]
        rw [hstate.current hids hfree, hexisting, hkey, hcode]
        simp

end Run

end InternalControl.OrgChart
