import InternalControl.Fallible
import InternalControl.UnitPaths

/-!
# Moves of an organisational unit

The statement that rewrites the paths below a unit matches underscores of the
old path with any character: an edit keeps the paths derived from the tree
exactly when no path looks below the old one without being it.
-/

namespace InternalControl.UnitHierarchy

open Fallible OrgChart ParentMap SqlLike Text

/-- The units that are not below a unit keep their path and level. -/
def OutsideKept (units after : List OrganizationalUnit) (id : RowId) : Prop :=
  ∀ unit ∈ units, ¬Reaches (parentOf units) unit.id id →
    ∃ kept ∈ after, kept.id = unit.id ∧ kept.hierarchyPath = unit.hierarchyPath ∧
      kept.hierarchyLevel = unit.hierarchyLevel

/-- When an edit changes the code or the parent of a unit, only what is below
the unit has a path that looks like it, and the path of the parent it goes to
is not the old path with other characters in place of underscores. -/
def OnlyDescendantsLookBelow (units : List OrganizationalUnit) (id : RowId)
    (dto : UpdateOrganizationalUnitDto) : Prop :=
  ∀ unit ∈ units, unit.id = id →
    dto.code.getD unit.code ≠ unit.code ∨ chooseParentId unit dto ≠ unit.parentId →
      ∀ oldPath, unit.hierarchyPath = some oldPath → ∀ other ∈ units, other.id ≠ id →
        (looksBelow oldPath other = true → Reaches (parentOf units) other.id id) ∧
        (chooseParentId unit dto = some other.id → ∀ path, other.hierarchyPath = some path →
          ¬SameButUnderscores oldPath.toList path.toList)

/-! ### The edit -/

/-- The parent of an edit is a unit that is not below the edited one. -/
structure Chosen (units : List OrganizationalUnit) (unit : OrganizationalUnit)
    (dto : UpdateOrganizationalUnitDto) (parent : Option OrganizationalUnit) : Prop where
  id : chooseParentId unit dto = parent.map OrganizationalUnit.id
  mem : ∀ chosen, parent = some chosen → chosen ∈ units
  outside : ∀ chosen, parent = some chosen → ¬Reaches (parentOf units) chosen.id unit.id

/-- What a successful edit has done. -/
theorem update_eq_ok {unicode : Unicode} {system : System} {id : RowId}
    {dto : UpdateOrganizationalUnitDto} {after : List OrganizationalUnit}
    {warnings : List OrgUnitWarningDetail}
    (h : update unicode system id dto = .ok (after, warnings)) :
    ∃ unit parent head, findById system.units id = some unit ∧
      chooseParent system.units unit dto = .ok parent ∧
      (∀ other ∈ system.units, other.id ≠ unit.id → other.code ≠ dto.code.getD unit.code) ∧
      after = match present unit.hierarchyPath with
        | some oldPath =>
          if pathChanged unit parent dto then
            rewriteDescendantPaths oldPath (nextPath unit parent dto)
              (nextLevel parent - unit.hierarchyLevel)
              (written system.units unit (updated unit parent dto head))
          else written system.units unit (updated unit parent dto head)
        | none => written system.units unit (updated unit parent dto head) := by
  unfold update at h
  obtain ⟨unit, hunit, h⟩ := bind_eq_ok h
  obtain ⟨parent, hparent, h⟩ := bind_eq_ok h
  obtain ⟨⟨texts, head⟩, -, h⟩ := bind_eq_ok h
  obtain ⟨hunique, h⟩ := check_eq_ok h
  refine ⟨unit, parent, head, ?_, hparent, ?_, ?_⟩
  · rw [requireUnit] at hunit
    split at hunit
    · next found hfound =>
      obtain rfl := Except.ok.inj hunit
      exact hfound
    · cases hunit
  · intro other hother hid hcode
    refine hunique (List.any_eq_true.mpr ⟨other, hother, ?_⟩)
    rw [Bool.and_eq_true, decide_eq_true_eq, decide_eq_true_eq]
    exact ⟨hid, hcode⟩
  · generalize present unit.hierarchyPath = front at h ⊢
    cases front with
    | none => exact (Prod.mk.inj (Except.ok.inj h)).1.symm
    | some oldPath =>
      dsimp only at h ⊢
      split at h
      · next hchanged =>
        rw [if_pos hchanged]
        exact (Prod.mk.inj (Except.ok.inj h)).1.symm
      · next hchanged =>
        rw [if_neg hchanged]
        exact (Prod.mk.inj (Except.ok.inj h)).1.symm

section Choice

variable {units : List OrganizationalUnit} {unit : OrganizationalUnit}

/-- The search for an ancestor meets every unit above. -/
theorem Derived.isAncestorOf_of_reaches (h : Derived units) {parent : OrganizationalUnit}
    (hparent : parent ∈ units) (hne : parent.id ≠ unit.id)
    (hreach : Reaches (UnitHierarchy.parentOf units) parent.id unit.id) :
    isAncestorOf units unit.id parent.id = true := by
  obtain heq | htrans := Relation.reflTransGen_iff_eq_or_transGen.mp hreach
  · exact absurd heq.symm hne
  obtain ⟨n, hn⟩ := (transGen_iff_climb _ _ _).mp htrans
  rw [isAncestorOf, meetsWithin_iff]
  refine ⟨n, ?_, hn⟩
  obtain ⟨next, hnext, hclimb⟩ := Option.bind_eq_some_iff.mp hn
  have hlisted : ∀ m ≤ n, ∃ id ∈ units.map OrganizationalUnit.id,
      climb (UnitHierarchy.parentOf units) m next = some id := by
    intro m hm
    obtain ⟨d, rfl⟩ := Nat.exists_eq_add_of_le hm
    rw [climb_add] at hclimb
    obtain ⟨id, hid, -⟩ := Option.bind_eq_some_iff.mp hclimb
    have habove : Reaches (UnitHierarchy.parentOf units) parent.id id := by
      refine ((transGen_iff_climb _ _ _).mpr ⟨m, ?_⟩).to_reflTransGen
      rw [climb_succ, hnext]
      exact hid
    obtain ⟨above, hmem, rfl⟩ := h.mem_of_reaches hparent habove
    exact ⟨above.id, List.mem_map_of_mem hmem, hid⟩
  have hlength := h.acyclic.lt_length_of_climb hlisted
  rwa [List.length_map] at hlength

/-- A unit is not below any unit under it. -/
theorem Derived.not_reaches_parent (h : Derived units) (hunit : unit ∈ units) {parentId : RowId}
    (hparent : unit.parentId = some parentId) :
    ¬Reaches (UnitHierarchy.parentOf units) parentId unit.id := by
  intro hreach
  exact h.acyclic unit.id (Relation.TransGen.head' ((h.parentOf hunit).trans hparent) hreach)

theorem Chosen.of_none {dto : UpdateOrganizationalUnitDto} (h : chooseParentId unit dto = none) :
    Chosen units unit dto none where
  id := h
  mem _ hnone := nomatch hnone
  outside _ hnone := nomatch hnone

theorem Chosen.of_some {dto : UpdateOrganizationalUnitDto} {parent : OrganizationalUnit}
    (h : chooseParentId unit dto = some parent.id) (hmem : parent ∈ units)
    (hfree : ¬Reaches (UnitHierarchy.parentOf units) parent.id unit.id) :
    Chosen units unit dto (some parent) where
  id := h
  mem _ hsome := Option.some.inj hsome ▸ hmem
  outside _ hsome := Option.some.inj hsome ▸ hfree

theorem Derived.chosen (h : Derived units) (hunit : unit ∈ units)
    {dto : UpdateOrganizationalUnitDto} {parent : Option OrganizationalUnit}
    (hchoose : chooseParent units unit dto = .ok parent) : Chosen units unit dto parent := by
  unfold chooseParent at hchoose
  split at hchoose
  · next hdto =>
    obtain rfl := Except.ok.inj hchoose
    cases hparent : unit.parentId with
    | none =>
      exact Chosen.of_none (by simp [chooseParentId, hdto, hparent])
    | some parentId =>
      obtain ⟨found, hmem, rfl⟩ := h.exists_parent hunit hparent
      have hfound : (some found.id).bind (UnitHierarchy.findById units) = some found :=
        h.findById hmem
      rw [hfound]
      exact Chosen.of_some (by simp [chooseParentId, hdto, hparent]) hmem
        (h.not_reaches_parent hunit hparent)
  · next hdto =>
    obtain rfl := Except.ok.inj hchoose
    exact Chosen.of_none (by simp [chooseParentId, hdto])
  · next parentId hdto =>
    split at hchoose
    · cases hchoose
    · next hne =>
      split at hchoose
      · cases hchoose
      · next found hrequire =>
        split at hchoose
        · cases hchoose
        · next hfree =>
          obtain rfl := Except.ok.inj hchoose
          have hfound : UnitHierarchy.findById units parentId = some found := by
            rw [requireUnit] at hrequire
            split at hrequire
            · next unit' hunit' =>
              obtain rfl := Except.ok.inj hrequire
              exact hunit'
            · cases hrequire
          obtain ⟨hmem, rfl⟩ := findById_eq_some hfound
          refine Chosen.of_some (by simp [chooseParentId, hdto]) hmem fun hreach => ?_
          exact hfree (h.isAncestorOf_of_reaches hmem hne hreach)

end Choice

/-- An edit of a table of units whose places follow from the tree. -/
structure Edit (units : List OrganizationalUnit) (unit : OrganizationalUnit)
    (dto : UpdateOrganizationalUnitDto) (parent : Option OrganizationalUnit) (oldPath : String) :
    Prop where
  derived : Derived units
  mem : unit ∈ units
  chosen : Chosen units unit dto parent
  /-- The code the edit leaves has the form of one. -/
  pattern : unitCodePattern (dto.code.getD unit.code) = true
  /-- No other unit has the code the edit leaves. -/
  unique : ∀ other ∈ units, other.id ≠ unit.id → other.code ≠ dto.code.getD unit.code
  path : unit.hierarchyPath = some oldPath

/-- The path of an optional parent as characters. -/
def parentChars (parent : Option OrganizationalUnit) : List Char :=
  ((parent.bind OrganizationalUnit.hierarchyPath).getD "").toList

/-- A unit after the edit and the rewriting of paths. -/
def moved (unit : OrganizationalUnit) (parent : Option OrganizationalUnit)
    (dto : UpdateOrganizationalUnitDto) (head : Option HeadCenterChoice) (oldPath : String)
    (other : OrganizationalUnit) : OrganizationalUnit :=
  let after := if other.id = unit.id then updated unit parent dto head else other
  if looksBelow oldPath after then
    rewritten oldPath (nextPath unit parent dto) (nextLevel parent - unit.hierarchyLevel) after
  else after

theorem rewriteDescendantPaths_written (units : List OrganizationalUnit)
    (unit : OrganizationalUnit) (parent : Option OrganizationalUnit)
    (dto : UpdateOrganizationalUnitDto) (head : Option HeadCenterChoice) (oldPath : String) :
    rewriteDescendantPaths oldPath (nextPath unit parent dto)
        (nextLevel parent - unit.hierarchyLevel)
        (written units unit (updated unit parent dto head)) =
      units.map (moved unit parent dto head oldPath) := by
  rw [rewriteDescendantPaths, written, List.map_map]
  rfl

section Edits

variable {units : List OrganizationalUnit} {unit : OrganizationalUnit}
  {dto : UpdateOrganizationalUnitDto} {parent : Option OrganizationalUnit} {oldPath : String}

/-- A successful edit is one, and it leaves the table with the paths rewritten
or only with the new columns. -/
theorem edit_of_update {unicode : Unicode} {system : System} {id : RowId}
    {after : List OrganizationalUnit} {warnings : List OrgUnitWarningDetail}
    (h : Derived system.units) (hcode : ∀ code, dto.code = some code → unitCodePattern code = true)
    (hupdate : update unicode system id dto = .ok (after, warnings)) :
    ∃ unit parent head oldPath, Edit system.units unit dto parent oldPath ∧ unit.id = id ∧
      after = if pathChanged unit parent dto then
          system.units.map (moved unit parent dto head oldPath)
        else written system.units unit (updated unit parent dto head) := by
  obtain ⟨unit, parent, head, hfind, hchoose, hunique, hafter⟩ := update_eq_ok hupdate
  obtain ⟨hunit, hid⟩ := findById_eq_some hfind
  obtain ⟨oldPath, hpath, hne, -⟩ := h.exists_path unit hunit
  refine ⟨unit, parent, head, oldPath, ⟨h, hunit, h.chosen hunit hchoose, ?_, hunique, hpath⟩,
    hid, ?_⟩
  · cases hdto : dto.code with
    | none => exact h.patterns unit hunit
    | some code => exact hcode code hdto
  · rw [present_eq_some.mpr ⟨hpath, hne⟩] at hafter
    rw [hafter, ← rewriteDescendantPaths_written]

/-- The characters of a parent that is there. -/
theorem Edit.parentChars_some (h : Edit units unit dto parent oldPath)
    {chosen : OrganizationalUnit} (hchosen : parent = some chosen) :
    ∃ path, chosen.hierarchyPath = some path ∧ parentChars parent = path.toList ∧
      nextPath unit parent dto = path ++ "/" ++ toPathSegment (dto.code.getD unit.code) := by
  subst hchosen
  obtain ⟨path, hpath, hne, -⟩ := h.derived.exists_path chosen (h.chosen.mem chosen rfl)
  refine ⟨path, hpath, by simp [parentChars, hpath], ?_⟩
  rw [nextPath, Option.bind_some, childPath, present_eq_some.mpr ⟨hpath, hne⟩]

/-- The new path is the path of the parent and the new code. -/
theorem Edit.toList_nextPath (h : Edit units unit dto parent oldPath) :
    (nextPath unit parent dto).toList =
      parentChars parent ++ '/' :: (toPathSegment (dto.code.getD unit.code)).toList := by
  cases hparent : parent with
  | none => simp [nextPath, childPath, present, parentChars]
  | some chosen =>
    obtain ⟨path, -, hchars, hnext⟩ := h.parentChars_some hparent
    rw [← hparent, hchars, hnext]
    simp

/-- No other unit has the new path. -/
theorem Edit.nextPath_ne (h : Edit units unit dto parent oldPath) {other : OrganizationalUnit}
    (hother : other ∈ units) (hne : other.id ≠ unit.id) :
    other.hierarchyPath ≠ some (nextPath unit parent dto) := by
  intro hpath
  exact h.unique other hother hne
    (h.derived.code_of_path hother hpath h.pattern h.toList_nextPath)

/-- The path changes when the code or the parent does. -/
theorem Edit.pathChanged_iff (h : Edit units unit dto parent oldPath) :
    pathChanged unit parent dto = true ↔
      dto.code.getD unit.code ≠ unit.code ∨ chooseParentId unit dto ≠ unit.parentId := by
  have hsegment := slash_notMem_segment (h.derived.patterns unit h.mem)
  have hplaced := h.derived.placed unit h.mem
  rw [PlacedUnder] at hplaced
  -- the old parent and its characters
  obtain ⟨before, hbefore, hbeforeMem, hold⟩ : ∃ before : Option OrganizationalUnit,
      unit.parentId = before.map OrganizationalUnit.id ∧ (∀ p, before = some p → p ∈ units) ∧
      oldPath.toList = parentChars before ++ '/' :: (toPathSegment unit.code).toList := by
    cases hparentId : unit.parentId with
    | none =>
      rw [hparentId] at hplaced
      obtain rfl := Option.some.inj (h.path.symm.trans hplaced.1)
      refine ⟨none, rfl, ?_, by simp [parentChars]⟩
      intro p hnone
      cases hnone
    | some parentId =>
      rw [hparentId] at hplaced
      obtain ⟨found, hmem, rfl, path, hpath, hunitPath, -⟩ := hplaced
      obtain rfl := Option.some.inj (h.path.symm.trans hunitPath)
      refine ⟨some found, rfl, fun p hp => Option.some.inj hp ▸ hmem, ?_⟩
      simp [parentChars, hpath]
  have hnonempty : ∀ p ∈ units, parentChars (some p) ≠ [] := by
    intro p hp
    obtain ⟨path, hpath, hne, -⟩ := h.derived.exists_path p hp
    simpa [parentChars, hpath] using hne
  have hinj : parentChars parent = parentChars before ↔ chooseParentId unit dto = unit.parentId := by
    rw [h.chosen.id, hbefore]
    cases hparent : parent with
    | none =>
      cases before with
      | none => simp
      | some q =>
        have hq := hnonempty q (hbeforeMem q rfl)
        simpa [parentChars] using hq.symm
    | some p =>
      have hp := h.chosen.mem p hparent
      cases before with
      | none =>
        have hp := hnonempty p hp
        simpa [parentChars] using hp
      | some q =>
        have hq := hbeforeMem q rfl
        constructor
        · intro hchars
          obtain ⟨path, hpath, -, -⟩ := h.derived.exists_path p hp
          obtain ⟨text, htext, -, -⟩ := h.derived.exists_path q hq
          have hsame : path = text := by
            refine String.toList_injective ?_
            simpa [parentChars, hpath, htext] using hchars
          rw [h.derived.eq_of_path hp hq (by rw [hpath, htext, hsame])]
        · intro hid
          rw [h.derived.eq_of_id hp hq (by simpa using hid)]
  rw [pathChanged, decide_eq_true_eq, h.path, ne_eq, Option.some.injEq, ← not_and_or, not_iff_not,
    ← hinj, ← String.toList_inj, h.toList_nextPath, hold]
  constructor
  · intro hlist
    obtain ⟨hchars, hcode⟩ := append_slash_inj (slash_notMem_segment h.pattern) hsegment hlist
    exact ⟨toPathSegment_inj h.pattern (h.derived.patterns unit h.mem) hcode, hchars⟩
  · rintro ⟨hcode, hchars⟩
    rw [hcode, hchars]

/-- The statement takes the paths that begin like the old one and a slash. -/
theorem Edit.looksBelow_iff (h : Edit units unit dto parent oldPath) {other : OrganizationalUnit}
    {path : String} (hpath : other.hierarchyPath = some path) :
    looksBelow oldPath other = true ↔ ∃ front rest,
      path.toList = front ++ '/' :: rest ∧ SameButUnderscores oldPath.toList front := by
  obtain ⟨path', hpath', -, hchars⟩ := h.derived.exists_path unit h.mem
  obtain rfl := Option.some.inj (h.path.symm.trans hpath')
  have hone : ∀ c ∈ oldPath.toList, isOneChar c = true :=
    fun c hc => isOneChar_of_isPathChar (hchars c hc)
  rw [looksBelow, hpath, Option.any_some, String.toList_append]
  exact like_append_separator hone (by decide) (by decide) path.toList

/-- The number of characters the statement cuts off is that of the old path. -/
theorem Edit.utf16Length_oldPath (h : Edit units unit dto parent oldPath) :
    utf16Length oldPath = oldPath.toList.length := by
  obtain ⟨path, hpath, -, hchars⟩ := h.derived.exists_path unit h.mem
  obtain rfl := Option.some.inj (h.path.symm.trans hpath)
  exact utf16Length_of_path hchars

/-- The paths below a unit look like it. -/
theorem Edit.looksBelow_of_reaches (h : Edit units unit dto parent oldPath)
    {other : OrganizationalUnit} (hother : other ∈ units) (hne : other.id ≠ unit.id)
    (hreach : Reaches (parentOf units) other.id unit.id) : looksBelow oldPath other = true := by
  obtain ⟨text, rest, htext, hcut⟩ :=
    h.derived.path_of_reaches h.mem h.path other hother hreach hne
  exact (h.looksBelow_iff htext).mpr ⟨oldPath.toList, rest, hcut, sameButUnderscores_refl _⟩

/-- The statement takes what is below the unit and nothing else. -/
structure Edit.Exact (units : List OrganizationalUnit) (unit : OrganizationalUnit)
    (parent : Option OrganizationalUnit) (dto : UpdateOrganizationalUnitDto)
    (head : Option HeadCenterChoice) (oldPath : String) : Prop where
  others : ∀ other ∈ units, other.id ≠ unit.id → looksBelow oldPath other = true →
    Reaches (parentOf units) other.id unit.id
  itself : looksBelow oldPath (updated unit parent dto head) = false

section Moves

variable {head : Option HeadCenterChoice}

theorem moved_id (other : OrganizationalUnit) :
    (moved unit parent dto head oldPath other).id = other.id := by
  unfold moved
  by_cases hid : other.id = unit.id
  · rw [if_pos hid]
    dsimp only
    split <;> exact hid.symm
  · rw [if_neg hid]
    dsimp only
    split <;> rfl

theorem moved_self (hself : looksBelow oldPath (updated unit parent dto head) = false) :
    moved unit parent dto head oldPath unit = updated unit parent dto head := by
  rw [moved, if_pos rfl]
  exact if_neg (by simp [hself])

theorem moved_of_not_looksBelow {other : OrganizationalUnit} (hne : other.id ≠ unit.id)
    (hlooks : looksBelow oldPath other = false) :
    moved unit parent dto head oldPath other = other := by
  rw [moved, if_neg hne]
  exact if_neg (by simp [hlooks])

theorem moved_of_looksBelow {other : OrganizationalUnit} (hne : other.id ≠ unit.id)
    (hlooks : looksBelow oldPath other = true) :
    moved unit parent dto head oldPath other =
      rewritten oldPath (nextPath unit parent dto) (nextLevel parent - unit.hierarchyLevel)
        other := by
  rw [moved, if_neg hne]
  exact if_pos hlooks

theorem updated_hierarchyPath (hchanged : pathChanged unit parent dto = true) :
    (updated unit parent dto head).hierarchyPath = some (nextPath unit parent dto) :=
  if_pos hchanged

theorem updated_hierarchyLevel (hchanged : pathChanged unit parent dto = true) :
    (updated unit parent dto head).hierarchyLevel = nextLevel parent := if_pos hchanged

/-- What is outside the moved subtree stays as it is. -/
theorem Edit.moved_outside (h : Edit.Exact units unit parent dto head oldPath)
    {other : OrganizationalUnit} (hother : other ∈ units)
    (hout : ¬Reaches (parentOf units) other.id unit.id) :
    moved unit parent dto head oldPath other = other := by
  have hne : other.id ≠ unit.id := fun hid => hout (hid ▸ Relation.ReflTransGen.refl)
  refine moved_of_not_looksBelow hne (Bool.eq_false_iff.mpr fun hlooks => ?_)
  exact hout (h.others other hother hne hlooks)

/-- The path of a unit below the moved one, after the move. -/
theorem Edit.moved_path (h : Edit units unit dto parent oldPath) {other : OrganizationalUnit}
    (hne : other.id ≠ unit.id) (hlooks : looksBelow oldPath other = true) {text : String}
    {rest : List Char} (htext : other.hierarchyPath = some text)
    (hcut : text.toList = oldPath.toList ++ rest) :
    (moved unit parent dto head oldPath other).hierarchyPath =
      some (nextPath unit parent dto ++ String.ofList rest) := by
  rw [moved_of_looksBelow hne hlooks]
  simp [rewritten, htext, h.utf16Length_oldPath, hcut]

/-- The moved unit lies under its new parent. -/
theorem Edit.placedUnder_self (h : Edit units unit dto parent oldPath)
    (hexact : Edit.Exact units unit parent dto head oldPath)
    (hchanged : pathChanged unit parent dto = true) :
    PlacedUnder (units.map (moved unit parent dto head oldPath))
      (moved unit parent dto head oldPath unit) := by
  have hid : (updated unit parent dto head).parentId = parent.map OrganizationalUnit.id :=
    h.chosen.id
  rw [moved_self hexact.itself, PlacedUnder, updated_hierarchyPath hchanged,
    updated_hierarchyLevel hchanged, hid]
  cases hparent : parent with
  | none => exact ⟨rfl, rfl⟩
  | some chosen =>
    obtain ⟨path, hpath, -, hnext⟩ := h.parentChars_some hparent
    have hmem := h.chosen.mem chosen hparent
    have hstays := Edit.moved_outside hexact hmem (h.chosen.outside chosen hparent)
    rw [hparent] at hnext hstays
    have hkept := List.mem_map.mpr ⟨chosen, hmem, hstays⟩
    exact ⟨chosen, hkept, rfl, path, hpath, congrArg some hnext, rfl⟩

/-- A unit below the moved one stays under its parent. -/
theorem Edit.placedUnder_below (h : Edit units unit dto parent oldPath)
    (hexact : Edit.Exact units unit parent dto head oldPath)
    (hchanged : pathChanged unit parent dto = true) {other : OrganizationalUnit}
    (hother : other ∈ units) (hne : other.id ≠ unit.id)
    (hreach : Reaches (parentOf units) other.id unit.id) :
    PlacedUnder (units.map (moved unit parent dto head oldPath))
      (moved unit parent dto head oldPath other) := by
  have hlooks := h.looksBelow_of_reaches hother hne hreach
  have hmovedOther : moved unit parent dto head oldPath other =
      rewritten oldPath (nextPath unit parent dto) (nextLevel parent - unit.hierarchyLevel)
        other := moved_of_looksBelow hne hlooks
  have hplaced := h.derived.placed other hother
  rw [PlacedUnder] at hplaced
  obtain heq | ⟨next, hstep, hrest⟩ := Relation.ReflTransGen.cases_head hreach
  · exact absurd heq hne
  rw [Edge, h.derived.parentOf hother] at hstep
  rw [hstep] at hplaced
  obtain ⟨above, hmem, rfl, path, hpath, hotherPath, hlevel⟩ := hplaced
  have hotherParent : (moved unit parent dto head oldPath other).parentId = some above.id := by
    rw [hmovedOther]
    exact hstep
  rw [PlacedUnder, hotherParent]
  refine ⟨moved unit parent dto head oldPath above, List.mem_map_of_mem hmem, moved_id above, ?_⟩
  have hotherList : (path ++ "/" ++ toPathSegment other.code).toList =
      path.toList ++ '/' :: (toPathSegment other.code).toList := by simp
  by_cases hsame : above.id = unit.id
  · -- right below the moved unit
    obtain rfl := h.derived.eq_of_id hmem h.mem hsame
    obtain rfl := Option.some.inj (hpath.symm.trans h.path)
    rw [moved_self hexact.itself, updated_hierarchyPath hchanged, updated_hierarchyLevel hchanged,
      h.moved_path hne hlooks hotherPath hotherList, hmovedOther]
    refine ⟨_, rfl, congrArg some (String.toList_injective (by simp [rewritten])), ?_⟩
    simp only [rewritten, hlevel]
    omega
  · have hlooksAbove := h.looksBelow_of_reaches hmem hsame hrest
    obtain ⟨text, rest, htext, hcut⟩ :=
      h.derived.path_of_reaches h.mem h.path above hmem hrest hsame
    obtain rfl := Option.some.inj (hpath.symm.trans htext)
    rw [hcut, List.append_assoc] at hotherList
    rw [h.moved_path hsame hlooksAbove hpath hcut, h.moved_path hne hlooks hotherPath hotherList,
      hmovedOther, moved_of_looksBelow hsame hlooksAbove]
    refine ⟨_, rfl, congrArg some (String.toList_injective (by simp [rewritten])), ?_⟩
    simp only [rewritten, hlevel]
    omega

/-- A unit outside the moved subtree stays under its parent. -/
theorem Edit.placedUnder_outside (h : Edit units unit dto parent oldPath)
    (hexact : Edit.Exact units unit parent dto head oldPath) {other : OrganizationalUnit}
    (hother : other ∈ units) (hout : ¬Reaches (parentOf units) other.id unit.id) :
    PlacedUnder (units.map (moved unit parent dto head oldPath))
      (moved unit parent dto head oldPath other) := by
  rw [Edit.moved_outside hexact hother hout]
  have hplaced := h.derived.placed other hother
  rw [PlacedUnder] at hplaced ⊢
  cases hparent : other.parentId with
  | none =>
    rw [hparent] at hplaced
    exact hplaced
  | some parentId =>
    rw [hparent] at hplaced
    obtain ⟨above, hmem, rfl, hplace⟩ := hplaced
    have hstep : Edge (parentOf units) other.id above.id :=
      (h.derived.parentOf hother).trans hparent
    have hstays := Edit.moved_outside hexact hmem
      fun hreach => hout (Relation.ReflTransGen.head hstep hreach)
    exact ⟨above, List.mem_map.mpr ⟨above, hmem, hstays⟩, rfl, hplace⟩

/-- When the statement takes what is below the unit and nothing else, every
place follows from the tree after the move. -/
theorem Edit.placed_moved (h : Edit units unit dto parent oldPath)
    (hexact : Edit.Exact units unit parent dto head oldPath)
    (hchanged : pathChanged unit parent dto = true) :
    Placed (units.map (moved unit parent dto head oldPath)) := by
  intro after hafter
  obtain ⟨other, hother, rfl⟩ := List.mem_map.mp hafter
  by_cases hreach : Reaches (parentOf units) other.id unit.id
  · by_cases hsame : other.id = unit.id
    · rw [h.derived.eq_of_id hother h.mem hsame]
      exact h.placedUnder_self hexact hchanged
    · exact h.placedUnder_below hexact hchanged hother hsame hreach
  · exact h.placedUnder_outside hexact hother hreach

theorem Edit.outsideKept_moved (hexact : Edit.Exact units unit parent dto head oldPath) :
    OutsideKept units (units.map (moved unit parent dto head oldPath)) unit.id := by
  intro other hother hout
  refine ⟨other, ?_, rfl, rfl, rfl⟩
  have hstays := Edit.moved_outside hexact hother hout
  exact List.mem_map.mpr ⟨other, hother, hstays⟩

/-- What matches the old path is not empty. -/
theorem Edit.front_ne_nil (h : Edit units unit dto parent oldPath) {front : List Char}
    (hsame : SameButUnderscores oldPath.toList front) : front ≠ [] := by
  rintro rfl
  obtain ⟨path, hpath, hnonempty, -⟩ := h.derived.exists_path unit h.mem
  obtain rfl := Option.some.inj (h.path.symm.trans hpath)
  have hlength := hsame.length_eq
  exact hnonempty (by simpa using hlength)

/-- A path that is not below the unit and looks like it is changed. -/
theorem Edit.moved_path_ne (h : Edit units unit dto parent oldPath) {other : OrganizationalUnit}
    (hother : other ∈ units) (hne : other.id ≠ unit.id) (hlooks : looksBelow oldPath other = true)
    (hout : ¬Reaches (parentOf units) other.id unit.id) :
    (moved unit parent dto head oldPath other).hierarchyPath ≠ other.hierarchyPath := by
  obtain ⟨text, htext, -, -⟩ := h.derived.exists_path other hother
  obtain ⟨front, rest, hcut, hsame⟩ := (h.looksBelow_iff htext).mp hlooks
  have hfront := h.front_ne_nil hsame
  -- the front is the path of a unit above, which keeps another code than the new one
  obtain ⟨above, habove, path, hpath, hlist, hreach⟩ :=
    h.derived.exists_above hfront other hother text rest htext hcut
  have haboveNe : above.id ≠ unit.id := fun hid => hout (hid ▸ hreach)
  intro hstays
  rw [moved_of_looksBelow hne hlooks, rewritten, htext] at hstays
  have hnext := congrArg String.toList (Option.some.inj hstays)
  rw [String.toList_append, String.toList_ofList, h.utf16Length_oldPath, hsame.length_eq, hcut,
    List.drop_left] at hnext
  refine h.nextPath_ne habove haboveNe (hpath.trans (congrArg some (String.toList_injective ?_)))
  exact hlist.trans (List.append_cancel_right hnext).symm

/-- The new path looks below the old one when the path of the parent does, or
is the old one with other characters in place of underscores. -/
theorem Edit.looksBelow_updated_iff (h : Edit units unit dto parent oldPath)
    (hchanged : pathChanged unit parent dto = true) :
    looksBelow oldPath (updated unit parent dto head) = true ↔ ∃ chosen, parent = some chosen ∧
      (looksBelow oldPath chosen = true ∨ ∃ path, chosen.hierarchyPath = some path ∧
        SameButUnderscores oldPath.toList path.toList) := by
  rw [h.looksBelow_iff (updated_hierarchyPath hchanged), h.toList_nextPath]
  have hslash := slash_notMem_segment h.pattern
  constructor
  · rintro ⟨front, rest, hcut, hsame⟩
    cases hparent : parent with
    | none =>
      -- a path of one segment has nothing before its slash
      rw [hparent] at hcut
      have hfront := h.front_ne_nil hsame
      obtain ⟨hnil, -⟩ | ⟨more, hnil⟩ := append_slash_cases hslash hcut.symm
      · exact absurd hnil (by simpa [parentChars] using hfront)
      · exact absurd hnil (by simp [parentChars])
    | some chosen =>
      obtain ⟨path, hpath, hchars, -⟩ := h.parentChars_some hparent
      rw [hchars] at hcut
      refine ⟨chosen, rfl, ?_⟩
      obtain ⟨hfront, -⟩ | ⟨more, hmore⟩ := append_slash_cases hslash hcut.symm
      · exact Or.inr ⟨path, hpath, hfront ▸ hsame⟩
      · exact Or.inl ((h.looksBelow_iff hpath).mpr ⟨front, more, hmore, hsame⟩)
  · rintro ⟨chosen, hparent, hlooks | ⟨path, hpath, hsame⟩⟩
    · obtain ⟨path, hpath, hchars, -⟩ := h.parentChars_some hparent
      obtain ⟨front, rest, hcut, hsame⟩ := (h.looksBelow_iff hpath).mp hlooks
      rw [hchars, hcut]
      exact ⟨front, _, by rw [List.append_assoc, List.cons_append], hsame⟩
    · obtain ⟨text, htext, hchars, -⟩ := h.parentChars_some hparent
      obtain rfl := Option.some.inj (hpath.symm.trans htext)
      exact ⟨_, _, congrArg (· ++ _) hchars, hsame⟩

/-- The statement takes exactly what is below the unit under the condition on
the paths before the edit. -/
theorem Edit.exact_iff (h : Edit units unit dto parent oldPath)
    (hchanged : pathChanged unit parent dto = true) :
    Edit.Exact units unit parent dto head oldPath ↔ OnlyDescendantsLookBelow units unit.id dto := by
  constructor
  · intro hexact same hsame hid _ path hpath other hother hne
    obtain rfl := h.derived.eq_of_id hsame h.mem hid
    obtain rfl := Option.some.inj (h.path.symm.trans hpath)
    refine ⟨hexact.others other hother hne, fun hparent text htext hunder => ?_⟩
    have hitself := hexact.itself
    rw [Bool.eq_false_iff] at hitself
    refine hitself ((h.looksBelow_updated_iff hchanged).mpr ?_)
    rw [h.chosen.id] at hparent
    obtain ⟨chosen, hchosen, hchosenId⟩ := Option.map_eq_some_iff.mp hparent
    obtain rfl := h.derived.eq_of_id (h.chosen.mem chosen hchosen) hother hchosenId
    exact ⟨chosen, hchosen, Or.inr ⟨text, htext, hunder⟩⟩
  · intro hcondition
    have hothers := hcondition unit h.mem rfl (h.pathChanged_iff.mp hchanged) oldPath h.path
    refine ⟨fun other hother hne => (hothers other hother hne).1, Bool.eq_false_iff.mpr ?_⟩
    intro hlooks
    obtain ⟨chosen, hparent, hcases⟩ := (h.looksBelow_updated_iff hchanged).mp hlooks
    have hmem := h.chosen.mem chosen hparent
    have hout := h.chosen.outside chosen hparent
    have hne : chosen.id ≠ unit.id := fun hid => hout (hid ▸ Relation.ReflTransGen.refl)
    have hchosen := hothers chosen hmem hne
    rcases hcases with hbelow | ⟨path, hpath, hunder⟩
    · exact hout (hchosen.1 hbelow)
    · refine hchosen.2 ?_ path hpath hunder
      rw [h.chosen.id, hparent]
      rfl

/-- A unit whose id is that of a moved one. -/
theorem Edit.eq_moved_of_id (h : Edit units unit dto parent oldPath)
    {after other : OrganizationalUnit}
    (hafter : after ∈ units.map (moved unit parent dto head oldPath)) (hother : other ∈ units)
    (hid : after.id = other.id) : after = moved unit parent dto head oldPath other := by
  obtain ⟨found, hfound, rfl⟩ := List.mem_map.mp hafter
  rw [moved_id] at hid
  rw [h.derived.eq_of_id hfound hother hid]

/-- When every place follows from the tree after the move and nothing else
moves, the statement takes exactly what is below the unit. -/
theorem Edit.exact_of_placed (h : Edit units unit dto parent oldPath)
    (hchanged : pathChanged unit parent dto = true)
    (hplaced : Placed (units.map (moved unit parent dto head oldPath)))
    (hkept : OutsideKept units (units.map (moved unit parent dto head oldPath)) unit.id) :
    Edit.Exact units unit parent dto head oldPath := by
  have hothers : ∀ other ∈ units, other.id ≠ unit.id → looksBelow oldPath other = true →
      Reaches (parentOf units) other.id unit.id := by
    intro other hother hne hlooks
    by_contra hout
    obtain ⟨kept, hmem, hid, hpath, -⟩ := hkept other hother hout
    rw [h.eq_moved_of_id hmem hother hid] at hpath
    exact h.moved_path_ne hother hne hlooks hout hpath
  refine ⟨hothers, Bool.eq_false_iff.mpr fun hlooks => ?_⟩
  obtain ⟨chosen, hparent, hcases⟩ := (h.looksBelow_updated_iff hchanged).mp hlooks
  have hmem := h.chosen.mem chosen hparent
  have hout := h.chosen.outside chosen hparent
  have hne : chosen.id ≠ unit.id := fun hid => hout (hid ▸ Relation.ReflTransGen.refl)
  have hfree : looksBelow oldPath chosen = false :=
    Bool.eq_false_iff.mpr fun hbelow => hout (hothers chosen hmem hne hbelow)
  obtain ⟨path, hpath, hunder⟩ := hcases.resolve_left (by simp [hfree])
  obtain ⟨text, htext, -, hnext⟩ := h.parentChars_some hparent
  obtain rfl := Option.some.inj (hpath.symm.trans htext)
  -- the edited unit is cut and given its new path a second time
  have hself : moved unit parent dto head oldPath unit =
      rewritten oldPath (nextPath unit parent dto) (nextLevel parent - unit.hierarchyLevel)
        (updated unit parent dto head) := by
    rw [moved, if_pos rfl]
    exact if_pos hlooks
  have hparentId : (updated unit parent dto head).parentId = some chosen.id := by
    refine h.chosen.id.trans ?_
    rw [hparent]
    rfl
  have hplace := hplaced _ (List.mem_map_of_mem h.mem)
  have hselfId : (moved unit parent dto head oldPath unit).parentId = some chosen.id := by
    rw [hself]
    exact hparentId
  rw [PlacedUnder, hselfId] at hplace
  obtain ⟨above, habove, hid, abovePath, habovePath, hselfPath, -⟩ := hplace
  rw [h.eq_moved_of_id habove hmem hid, moved_of_not_looksBelow hne hfree, hpath] at habovePath
  obtain rfl := Option.some.inj habovePath
  rw [hself, rewritten, updated_hierarchyPath hchanged, Option.map_some] at hselfPath
  have hlist := congrArg String.toList (Option.some.inj hselfPath)
  have hcode : (moved unit parent dto head oldPath unit).code = dto.code.getD unit.code := by
    rw [hself]
    rfl
  have hnextList : (nextPath unit parent dto).toList =
      path.toList ++ '/' :: (toPathSegment (dto.code.getD unit.code)).toList := by simp [hnext]
  rw [String.toList_append, String.toList_ofList, h.utf16Length_oldPath, hunder.length_eq,
    hnextList, List.drop_left] at hlist
  have hlength := congrArg List.length hlist
  change _ = (path ++ "/" ++ toPathSegment (dto.code.getD unit.code)).toList.length at hlength
  simp only [String.toList_append, List.length_append, List.length_cons] at hlength
  have hslash : "/".toList.length = 1 := rfl
  omega

end Moves

/-- An edit that leaves the path alone leaves every place as it was. -/
theorem Edit.placed_written (h : Edit units unit dto parent oldPath)
    (hchanged : ¬pathChanged unit parent dto = true) (head : Option HeadCenterChoice) :
    Placed (written units unit (updated unit parent dto head)) ∧
      OutsideKept units (written units unit (updated unit parent dto head)) unit.id := by
  obtain ⟨hcode, hparent⟩ := not_or.mp (h.pathChanged_iff.not.mp hchanged)
  rw [not_not] at hcode hparent
  let change (other : OrganizationalUnit) : OrganizationalUnit :=
    if other.id = unit.id then updated unit parent dto head else other
  have hsame : ∀ other ∈ units, (change other).id = other.id ∧
      (change other).parentId = other.parentId ∧ (change other).code = other.code ∧
      (change other).hierarchyPath = other.hierarchyPath ∧
      (change other).hierarchyLevel = other.hierarchyLevel := by
    intro other hother
    by_cases hid : other.id = unit.id
    · obtain rfl := h.derived.eq_of_id hother h.mem hid
      simp [change, updated, hcode, hparent, hchanged]
    · simp [change, hid]
  constructor
  · intro after hafter
    obtain ⟨other, hother, rfl⟩ := List.mem_map.mp hafter
    obtain ⟨-, hotherParent, hotherCode, hotherPath, hotherLevel⟩ := hsame other hother
    have hplaced := h.derived.placed other hother
    change PlacedUnder (units.map change) (change other)
    rw [PlacedUnder] at hplaced ⊢
    rw [hotherParent, hotherCode, hotherPath, hotherLevel]
    cases hparentId : other.parentId with
    | none =>
      rw [hparentId] at hplaced
      exact hplaced
    | some parentId =>
      rw [hparentId] at hplaced
      obtain ⟨above, hmem, rfl, path, hpath, hplace⟩ := hplaced
      obtain ⟨haboveId, -, -, habovePath, haboveLevel⟩ := hsame above hmem
      refine ⟨change above, List.mem_map_of_mem hmem, haboveId, path, ?_, ?_⟩
      · rw [habovePath, hpath]
      · rw [haboveLevel]
        exact hplace
  · intro other hother _
    obtain ⟨hid, -, -, hpath, hlevel⟩ := hsame other hother
    exact ⟨change other, List.mem_map_of_mem hother, hid, hpath, hlevel⟩

end Edits

/-- An edit keeps the places of all units derived from the tree, and those
outside the moved subtree as they were, exactly when no path looks below the
old path of the unit without being below the unit. -/
theorem update_keepsPlaces_iff (unicode : Unicode) (system : System) (id : RowId)
    (dto : UpdateOrganizationalUnitDto) (after : List OrganizationalUnit)
    (warnings : List OrgUnitWarningDetail) (hderived : Derived system.units)
    (hcode : ∀ code, dto.code = some code → unitCodePattern code = true)
    (hupdate : update unicode system id dto = .ok (after, warnings)) :
    (Placed after ∧ OutsideKept system.units after id) ↔
      OnlyDescendantsLookBelow system.units id dto := by
  obtain ⟨unit, parent, head, oldPath, hedit, rfl, rfl⟩ := edit_of_update hderived hcode hupdate
  by_cases hchanged : pathChanged unit parent dto = true
  · rw [if_pos hchanged, ← hedit.exact_iff hchanged]
    constructor
    · rintro ⟨hplaced, hkept⟩
      exact hedit.exact_of_placed hchanged hplaced hkept
    · intro hexact
      exact ⟨hedit.placed_moved hexact hchanged, Edit.outsideKept_moved hexact⟩
  · rw [if_neg hchanged]
    refine iff_of_true (hedit.placed_written hchanged head) ?_
    intro same hsame hid hmoves
    obtain rfl := hderived.eq_of_id hsame hedit.mem hid
    exact absurd (hedit.pathChanged_iff.mpr hmoves) hchanged

/-! ### A rename that moves the unit of another -/

/-- An office with a code, a parent and a place. -/
def office (id : RowId) (code : String) (parentId : Option RowId) (level : ℤ) (path : String) :
    OrganizationalUnit where
  id := id
  parentId := parentId
  code := code
  name := id.text
  unitType := .office
  hierarchyLevel := level
  hierarchyPath := some path
  codePrefix := none
  relationType := .authority
  headCostCenterId := none
  headCostCenterCode := none
  color := none
  isActive := true

/-- The code with an underscore. -/
def underscored : RowId := ⟨"u1", by decide⟩

/-- The code with another character in its place. -/
def lookalike : RowId := ⟨"u2", by decide⟩

/-- The unit under the second one. -/
def leaf : RowId := ⟨"u3", by decide⟩

/-- Two offices, and one under the second. -/
def threeOffices : System where
  units := [office underscored "A_B" none 0 "/a_b", office lookalike "AXB" none 0 "/axb",
    office leaf "C" (some lookalike) 1 "/axb/c"]
  costCenters := []

theorem threeOffices_derived : Derived threeOffices.units where
  ids := by decide
  codes := by decide
  patterns := by decide
  placed := by
    intro unit hunit
    simp only [threeOffices, List.mem_cons, List.not_mem_nil, or_false] at hunit
    rcases hunit with rfl | rfl | rfl
    · exact ⟨by decide, rfl⟩
    · exact ⟨by decide, rfl⟩
    · exact ⟨office lookalike "AXB" none 0 "/axb", by simp [threeOffices], rfl, "/axb", rfl,
        by decide, rfl⟩

/-- A new code for the first office takes the unit of the second one along. -/
theorem rename_moves_lookalike :
    ¬∀ (unicode : Unicode) (system : System) (id : RowId) (dto : UpdateOrganizationalUnitDto)
      (after : List OrganizationalUnit) (warnings : List OrgUnitWarningDetail),
      Derived system.units → (∀ code, dto.code = some code → unitCodePattern code = true) →
        update unicode system id dto = .ok (after, warnings) →
          Placed after ∧ OutsideKept system.units after id := by
  intro h
  have hrenamed := h Unicode.ascii threeOffices underscored { code := some "B" }
    [office underscored "B" none 0 "/b", office lookalike "AXB" none 0 "/axb",
      office leaf "C" (some lookalike) 1 "/b/c"] []
    threeOffices_derived (by simp [unitCodePattern, Char.isUpper]) (by decide +kernel)
  obtain ⟨above, habove, hid, path, hpath, hplace, -⟩ :=
    hrenamed.1 (office leaf "C" (some lookalike) 1 "/b/c") (by simp)
  simp only [List.mem_cons, List.not_mem_nil, or_false] at habove
  rcases habove with rfl | rfl | rfl
  · exact absurd hid (by decide)
  · obtain rfl := Option.some.inj hpath
    exact absurd hplace (by decide)
  · exact absurd hid (by decide)

/-- A new code for the unit under the second office moves that unit only. -/
theorem update_keepsPlaces_iff_leaf :
    (Placed [office underscored "A_B" none 0 "/a_b", office lookalike "AXB" none 0 "/axb",
        office leaf "D" (some lookalike) 1 "/axb/d"] ∧
      OutsideKept threeOffices.units [office underscored "A_B" none 0 "/a_b",
        office lookalike "AXB" none 0 "/axb", office leaf "D" (some lookalike) 1 "/axb/d"] leaf) ↔
      OnlyDescendantsLookBelow threeOffices.units leaf { code := some "D" } :=
  update_keepsPlaces_iff Unicode.ascii threeOffices leaf { code := some "D" } _ []
    threeOffices_derived (by simp [unitCodePattern, Char.isUpper]) (by decide +kernel)

end InternalControl.UnitHierarchy
