import InternalControl.UnitHierarchy

/-!
# Paths derived from the tree of units

The path of a unit is the path of its parent and its own code. A code has no
slash, so what stands before a slash of a path is the path of a unit above,
and whose path begins with the path of a unit and a slash is below that unit.
-/

namespace InternalControl.UnitHierarchy

open OrgChart ParentMap SqlLike Text

/-- The place of a unit follows from its parent. -/
def PlacedUnder (units : List OrganizationalUnit) (unit : OrganizationalUnit) : Prop :=
  match unit.parentId with
  | none => unit.hierarchyPath = some ("/" ++ toPathSegment unit.code) ∧ unit.hierarchyLevel = 0
  | some parentId => ∃ parent ∈ units, parent.id = parentId ∧
      ∃ path, parent.hierarchyPath = some path ∧
        unit.hierarchyPath = some (path ++ "/" ++ toPathSegment unit.code) ∧
        unit.hierarchyLevel = parent.hierarchyLevel + 1

/-- The place of every unit follows from its parent. -/
def Placed (units : List OrganizationalUnit) : Prop := ∀ unit ∈ units, PlacedUnder units unit

/-- A table of units whose places follow from the tree. -/
structure Derived (units : List OrganizationalUnit) : Prop where
  /-- No two units share an id. -/
  ids : (units.map OrganizationalUnit.id).Nodup
  /-- No two units share a code. -/
  codes : (units.map OrganizationalUnit.code).Nodup
  /-- Every code has the form of one. -/
  patterns : ∀ unit ∈ units, unitCodePattern unit.code = true
  placed : Placed units

/-! ### Segments -/

/-- A character of a path segment. -/
def isSegmentChar (c : Char) : Bool := c.isLower || c.isDigit || c == '_'

theorem segmentChar_table : ∀ n < 128, isUnitCodeChar (Char.ofNat n) = true →
    isSegmentChar (Char.ofNat n).toLower = true ∧
      (Char.ofNat n).toLower.toUpper = Char.ofNat n := by
  decide

theorem segmentChar_of_isUnitCodeChar {c : Char} (hc : isUnitCodeChar c = true) :
    isSegmentChar c.toLower = true ∧ c.toLower.toUpper = c := by
  have htable := segmentChar_table c.toNat (toNat_lt_of_isUnitCodeChar hc)
  rw [Char.ofNat_toNat] at htable
  exact htable hc

theorem isUnitCodeChar_of_mem {code : String} (hcode : unitCodePattern code = true) {c : Char}
    (hc : c ∈ code.toList) : isUnitCodeChar c = true := by
  unfold unitCodePattern at hcode
  cases hlist : code.toList with
  | nil => rw [hlist] at hc; cases hc
  | cons first rest =>
    rw [hlist] at hc hcode
    simp only [Bool.and_eq_true, List.all_eq_true] at hcode
    rcases List.mem_cons.mp hc with rfl | hc
    · simp [isUnitCodeChar, hcode.1]
    · exact hcode.2 c hc

theorem toList_toPathSegment (code : String) :
    (toPathSegment code).toList = code.toList.map Char.toLower := by
  simp [toPathSegment, asciiLower]

/-- The characters of the segment of a code. -/
theorem isSegmentChar_of_mem {code : String} (hcode : unitCodePattern code = true) {c : Char}
    (hc : c ∈ (toPathSegment code).toList) : isSegmentChar c = true := by
  rw [toList_toPathSegment, List.mem_map] at hc
  obtain ⟨upper, hupper, rfl⟩ := hc
  exact (segmentChar_of_isUnitCodeChar (isUnitCodeChar_of_mem hcode hupper)).1

/-- A code is read back from its segment. -/
theorem toPathSegment_inj {code other : String} (hcode : unitCodePattern code = true)
    (hother : unitCodePattern other = true)
    (h : (toPathSegment code).toList = (toPathSegment other).toList) : code = other := by
  have hback : ∀ {text : String}, unitCodePattern text = true →
      (toPathSegment text).toList.map Char.toUpper = text.toList := by
    intro text htext
    rw [toList_toPathSegment, List.map_map]
    refine (List.map_congr_left fun c hc => ?_).trans (List.map_id _)
    exact (segmentChar_of_isUnitCodeChar (isUnitCodeChar_of_mem htext hc)).2
  exact String.toList_injective ((hback hcode).symm.trans ((congrArg _ h).trans (hback hother)))

theorem slash_notMem_segment {code : String} (hcode : unitCodePattern code = true) :
    '/' ∉ (toPathSegment code).toList := by
  intro hmem
  have hslash := isSegmentChar_of_mem hcode hmem
  exact absurd hslash (by decide)

/-- A character of a path. -/
def isPathChar (c : Char) : Bool := isSegmentChar c || c == '/'

theorem isOneChar_of_isPathChar {c : Char} (hc : isPathChar c = true) : isOneChar c = true := by
  rw [isOneChar, Bool.and_eq_true, bne_iff_ne, bne_iff_ne]
  constructor
  · rintro rfl
    exact absurd hc (by decide)
  · rintro rfl
    exact absurd hc (by decide)

theorem toNat_lt_of_isPathChar {c : Char} (hc : isPathChar c = true) : c.toNat < 0x10000 := by
  simp only [isPathChar, isSegmentChar, Char.isLower, Char.isDigit, Bool.or_eq_true,
    Bool.and_eq_true, decide_eq_true_eq, beq_iff_eq] at hc
  rcases hc with ((⟨-, h⟩ | ⟨-, h⟩) | rfl) | rfl
  · exact lt_of_le_of_lt (show c.toNat ≤ 122 from h) (by decide)
  · exact lt_of_le_of_lt (show c.toNat ≤ 57 from h) (by decide)
  · decide
  · decide

/-- The length of a path counts its characters. -/
theorem utf16Length_of_path {path : String} (hpath : ∀ c ∈ path.toList, isPathChar c = true) :
    utf16Length path = path.toList.length :=
  utf16Length_of_single fun c hc => toNat_lt_of_isPathChar (hpath c hc)

/-! ### Paths and the tree -/

/-- A text is cut at its last slash in one way. -/
theorem append_slash_cases {front rest path segment : List Char} (hslash : '/' ∉ segment)
    (h : front ++ '/' :: rest = path ++ '/' :: segment) :
    (front = path ∧ rest = segment) ∨ ∃ more, path = front ++ '/' :: more := by
  rcases List.append_eq_append_iff.mp h with ⟨more, hpath, hrest⟩ | ⟨more, hfront, hsegment⟩
  · cases more with
    | nil =>
      rw [List.nil_append, List.cons.injEq] at hrest
      exact Or.inl ⟨by simpa using hpath.symm, hrest.2⟩
    | cons c more =>
      rw [List.cons_append, List.cons.injEq] at hrest
      exact Or.inr ⟨more, hrest.1 ▸ hpath⟩
  · cases more with
    | nil =>
      rw [List.nil_append, List.cons.injEq] at hsegment
      exact Or.inl ⟨by simpa using hfront, hsegment.2.symm⟩
    | cons c more =>
      rw [List.cons_append, List.cons.injEq] at hsegment
      exact absurd (hsegment.2 ▸ List.mem_append_right _ List.mem_cons_self) hslash

theorem append_slash_inj {path other segment next : List Char} (hsegment : '/' ∉ segment)
    (hnext : '/' ∉ next) (h : path ++ '/' :: segment = other ++ '/' :: next) :
    path = other ∧ segment = next := by
  obtain hsame | ⟨more, hother⟩ := append_slash_cases hnext h
  · exact hsame
  · rw [hother, List.append_assoc] at h
    have hrest := List.cons.inj (List.append_cancel_left h)
    exact absurd (hrest.2 ▸ List.mem_append_right _ List.mem_cons_self) hsegment

theorem findById_eq_some {units : List OrganizationalUnit} {id : RowId}
    {unit : OrganizationalUnit} (h : findById units id = some unit) :
    unit ∈ units ∧ unit.id = id := by
  have hid := List.find?_some h
  exact ⟨List.mem_of_find?_eq_some h, by simpa using hid⟩

section Tree

variable {units : List OrganizationalUnit} {unit other : OrganizationalUnit}

theorem Derived.eq_of_id (h : Derived units) (hunit : unit ∈ units) (hother : other ∈ units)
    (hid : unit.id = other.id) : unit = other := List.inj_on_of_nodup_map h.ids hunit hother hid

theorem Derived.eq_of_code (h : Derived units) (hunit : unit ∈ units) (hother : other ∈ units)
    (hcode : unit.code = other.code) : unit = other :=
  List.inj_on_of_nodup_map h.codes hunit hother hcode

theorem Derived.findById (h : Derived units) (hunit : unit ∈ units) :
    UnitHierarchy.findById units unit.id = some unit := by
  cases hfind : UnitHierarchy.findById units unit.id with
  | none =>
    have hnone := List.find?_eq_none.mp hfind unit hunit
    simp at hnone
  | some found =>
    obtain ⟨hfound, hid⟩ := findById_eq_some hfind
    rw [h.eq_of_id hfound hunit hid]

theorem Derived.parentOf (h : Derived units) (hunit : unit ∈ units) :
    UnitHierarchy.parentOf units unit.id = unit.parentId := by
  rw [UnitHierarchy.parentOf, h.findById hunit]
  rfl

/-- From a parent to the units under it, every unit is met. -/
theorem Derived.induction (h : Derived units) {motive : OrganizationalUnit → Prop}
    (root : ∀ unit ∈ units, unit.parentId = none →
      unit.hierarchyPath = some ("/" ++ toPathSegment unit.code) → motive unit)
    (below : ∀ unit ∈ units, ∀ parent ∈ units, unit.parentId = some parent.id →
      ∀ path, parent.hierarchyPath = some path →
        unit.hierarchyPath = some (path ++ "/" ++ toPathSegment unit.code) →
        motive parent → motive unit) :
    ∀ unit ∈ units, motive unit := by
  intro unit hunit
  -- the path of a parent is shorter
  induction hlength : (unit.hierarchyPath.getD "").toList.length using Nat.strong_induction_on
    generalizing unit with
  | h n ih =>
    have hplaced := h.placed unit hunit
    rw [PlacedUnder] at hplaced
    cases hparent : unit.parentId with
    | none =>
      rw [hparent] at hplaced
      exact root unit hunit hparent hplaced.1
    | some parentId =>
      rw [hparent] at hplaced
      obtain ⟨parent, hmem, rfl, path, hpath, hunitPath, -⟩ := hplaced
      refine below unit hunit parent hmem hparent path hpath hunitPath ?_
      refine ih _ ?_ parent hmem rfl
      rw [← hlength, hpath, hunitPath]
      simp only [Option.getD_some, String.toList_append, List.length_append]
      have hslash : "/".toList.length = 1 := rfl
      omega

theorem slash_append_ne_empty (path segment : String) : path ++ ("/" ++ segment) ≠ "" := by
  intro hempty
  have hlist := congrArg String.toList hempty
  simp at hlist

/-- Every unit has a path of path characters that is not empty. -/
theorem Derived.exists_path (h : Derived units) : ∀ unit ∈ units, ∃ path,
    unit.hierarchyPath = some path ∧ path ≠ "" ∧ ∀ c ∈ path.toList, isPathChar c = true := by
  have hsegment : ∀ unit ∈ units, ∀ c ∈ ("/" ++ toPathSegment unit.code).toList,
      isPathChar c = true := by
    intro unit hunit c hc
    rw [String.toList_append, List.mem_append] at hc
    rw [isPathChar, Bool.or_eq_true]
    rcases hc with hc | hc
    · exact Or.inr (by simpa using hc)
    · exact Or.inl (isSegmentChar_of_mem (h.patterns unit hunit) hc)
  refine h.induction ?_ ?_
  · intro unit hunit _ hpath
    have hne := slash_append_ne_empty "" (toPathSegment unit.code)
    rw [String.empty_append] at hne
    exact ⟨_, hpath, hne, hsegment unit hunit⟩
  · intro unit hunit parent _ _ path hpath hunitPath hmotive
    obtain ⟨path', hpath', -, hchars⟩ := hmotive
    obtain rfl := Option.some.inj (hpath.symm.trans hpath')
    rw [String.append_assoc] at hunitPath
    refine ⟨_, hunitPath, slash_append_ne_empty path _, fun c hc => ?_⟩
    rw [String.toList_append, List.mem_append] at hc
    rcases hc with hc | hc
    · exact hchars c hc
    · exact hsegment unit hunit c hc

/-- The path of a unit ends with its own segment. -/
theorem Derived.exists_front (h : Derived units) (hunit : unit ∈ units) {path : String}
    (hpath : unit.hierarchyPath = some path) :
    ∃ front, path.toList = front ++ '/' :: (toPathSegment unit.code).toList := by
  have hplaced := h.placed unit hunit
  rw [PlacedUnder] at hplaced
  split at hplaced
  · obtain rfl := Option.some.inj (hpath.symm.trans hplaced.1)
    exact ⟨[], by simp⟩
  · obtain ⟨-, -, -, parentPath, -, hunitPath, -⟩ := hplaced
    obtain rfl := Option.some.inj (hpath.symm.trans hunitPath)
    exact ⟨parentPath.toList, by simp⟩

/-- A path whose last segment is that of a code belongs to the unit with the code. -/
theorem Derived.code_of_path (h : Derived units) (hunit : unit ∈ units) {path code : String}
    (hpath : unit.hierarchyPath = some path) (hcode : unitCodePattern code = true)
    {front : List Char} (hfront : path.toList = front ++ '/' :: (toPathSegment code).toList) :
    unit.code = code := by
  have hpattern := h.patterns unit hunit
  obtain ⟨own, hown⟩ := h.exists_front hunit hpath
  have hsame := append_slash_inj (slash_notMem_segment hpattern) (slash_notMem_segment hcode)
    (hown.symm.trans hfront)
  exact toPathSegment_inj hpattern hcode hsame.2

theorem Derived.eq_of_path (h : Derived units) (hunit : unit ∈ units) (hother : other ∈ units)
    (hpath : unit.hierarchyPath = other.hierarchyPath) : unit = other := by
  obtain ⟨path, hotherPath, -, -⟩ := h.exists_path other hother
  obtain ⟨front, hfront⟩ := h.exists_front hother hotherPath
  have hcode := h.code_of_path hunit (hpath.trans hotherPath) (h.patterns other hother) hfront
  exact h.eq_of_code hunit hother hcode

theorem Derived.acyclic (h : Derived units) : Acyclic (UnitHierarchy.parentOf units) := by
  let rank (id : RowId) : ℕ :=
    (((UnitHierarchy.findById units id).bind OrganizationalUnit.hierarchyPath).getD "").toList.length
  refine acyclic_of_rank rank fun id parentId hparent => ?_
  obtain ⟨unit, hfind, hunitParent⟩ := Option.bind_eq_some_iff.mp hparent
  obtain ⟨hunit, rfl⟩ := findById_eq_some hfind
  have hplaced := h.placed unit hunit
  rw [PlacedUnder, hunitParent] at hplaced
  obtain ⟨parent, hmem, rfl, path, hpath, hunitPath, -⟩ := hplaced
  have hrank : rank unit.id = path.toList.length + 1 + (toPathSegment unit.code).toList.length := by
    simp [rank, h.findById hunit, hunitPath, Nat.add_assoc, Nat.add_comm 1]
  have hparentRank : rank parent.id = path.toList.length := by
    simp [rank, h.findById hmem, hpath]
  omega

/-- The parent of a unit is a unit. -/
theorem Derived.exists_parent (h : Derived units) (hunit : unit ∈ units) {parentId : RowId}
    (hparent : unit.parentId = some parentId) : ∃ parent ∈ units, parent.id = parentId := by
  have hplaced := h.placed unit hunit
  rw [PlacedUnder, hparent] at hplaced
  obtain ⟨parent, hmem, hid, -⟩ := hplaced
  exact ⟨parent, hmem, hid⟩

/-- Whatever is met on the way up from a unit is a unit. -/
theorem Derived.mem_of_reaches (h : Derived units) (hunit : unit ∈ units) {id : RowId}
    (hreach : Reaches (UnitHierarchy.parentOf units) unit.id id) : ∃ above ∈ units, above.id = id := by
  induction hreach with
  | refl => exact ⟨unit, hunit, rfl⟩
  | tail _ hstep ih =>
    obtain ⟨above, habove, rfl⟩ := ih
    exact h.exists_parent habove ((h.parentOf habove).symm.trans hstep)

/-- The path of a unit below another one begins with that one's path. -/
theorem Derived.path_of_reaches (h : Derived units) (hunit : unit ∈ units) {path : String}
    (hpath : unit.hierarchyPath = some path) : ∀ other ∈ units,
      Reaches (UnitHierarchy.parentOf units) other.id unit.id → other.id ≠ unit.id →
        ∃ text rest, other.hierarchyPath = some text ∧ text.toList = path.toList ++ '/' :: rest := by
  refine h.induction ?_ ?_
  · intro other hother hparent _ hreach hne
    obtain heq | ⟨next, hstep, -⟩ := Relation.ReflTransGen.cases_head hreach
    · exact absurd heq hne
    · rw [Edge, h.parentOf hother, hparent] at hstep
      cases hstep
  · intro other hother parent hmem hparent parentPath hparentPath hotherPath ih hreach hne
    obtain heq | ⟨next, hstep, hrest⟩ := Relation.ReflTransGen.cases_head hreach
    · exact absurd heq hne
    rw [Edge, h.parentOf hother, hparent] at hstep
    obtain rfl := Option.some.inj hstep
    by_cases hsame : parent.id = unit.id
    · obtain rfl := h.eq_of_id hmem hunit hsame
      obtain rfl := Option.some.inj (hparentPath.symm.trans hpath)
      exact ⟨_, (toPathSegment other.code).toList, hotherPath, by simp⟩
    · obtain ⟨text, rest, htext, htextPath⟩ := ih hrest hsame
      obtain rfl := Option.some.inj (hparentPath.symm.trans htext)
      exact ⟨_, rest ++ '/' :: (toPathSegment other.code).toList, hotherPath, by simp [htextPath]⟩

/-- What stands before a slash of a path is the path of a unit above. -/
theorem Derived.exists_above (h : Derived units) {front : List Char} (hfront : front ≠ []) :
    ∀ unit ∈ units, ∀ path rest, unit.hierarchyPath = some path →
      path.toList = front ++ '/' :: rest → ∃ above ∈ units, ∃ text,
        above.hierarchyPath = some text ∧ text.toList = front ∧
        Reaches (UnitHierarchy.parentOf units) unit.id above.id := by
  refine h.induction ?_ ?_
  · intro unit hunit _ hunitPath path rest hpath hcut
    obtain rfl := Option.some.inj (hpath.symm.trans hunitPath)
    have hcut' : front ++ '/' :: rest = [] ++ '/' :: (toPathSegment unit.code).toList := by
      rw [← hcut]
      simp
    obtain ⟨hnil, -⟩ | ⟨more, hnil⟩ :=
      append_slash_cases (slash_notMem_segment (h.patterns unit hunit)) hcut'
    · exact absurd hnil hfront
    · exact absurd hnil (by simp)
  · intro unit hunit parent hmem hparent parentPath hparentPath hunitPath ih path rest hpath hcut
    obtain rfl := Option.some.inj (hpath.symm.trans hunitPath)
    have hstep : Reaches (UnitHierarchy.parentOf units) unit.id parent.id :=
      Relation.ReflTransGen.single ((h.parentOf hunit).trans hparent)
    have hcut' : front ++ '/' :: rest =
        parentPath.toList ++ '/' :: (toPathSegment unit.code).toList := by
      rw [← hcut]
      simp
    obtain ⟨hsame, -⟩ | ⟨more, hmore⟩ :=
      append_slash_cases (slash_notMem_segment (h.patterns unit hunit)) hcut'
    · exact ⟨parent, hmem, parentPath, hparentPath, hsame.symm, hstep⟩
    · obtain ⟨above, habove, text, htext, heq, hreach⟩ := ih parentPath more hparentPath hmore
      exact ⟨above, habove, text, htext, heq, hstep.trans hreach⟩

end Tree

end InternalControl.UnitHierarchy
