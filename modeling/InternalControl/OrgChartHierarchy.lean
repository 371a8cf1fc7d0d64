import InternalControl.UnitHierarchy

/-!
# The hierarchy rebuilt after an import

After an import the level and the path of every unit are computed again from its
parent, each one once. The walk to the root stops after sixty-four steps and takes
the unit it stopped at for a root. That place is kept for the units that come
later, so the order of the rows decides which deep units are placed wrongly.
-/

namespace InternalControl.OrgChart

open ParentMap UnitHierarchy

/-- The columns that the rewrite reads and writes. -/
structure HierarchyRow where
  id : RowId
  parentId : Option RowId
  code : String
  hierarchyLevel : ℤ
  hierarchyPath : Option String
  deriving DecidableEq

/-- The computed place of a unit. -/
structure HierarchyPlace where
  level : ℕ
  path : String
  deriving DecidableEq

abbrev ComputedPlaces := KeyedMap RowId HierarchyPlace

/-- Where the walk to the root stops. -/
def hierarchyGuard : ℕ := 64

/-- The place of a root. -/
def rootPlace (code : String) : HierarchyPlace := ⟨0, "/" ++ toPathSegment code⟩

/-- The place below another one. -/
def placeBelow (above : HierarchyPlace) (code : String) : HierarchyPlace :=
  ⟨above.level + 1, above.path ++ "/" ++ toPathSegment code⟩

/-- The place of a unit, from the one of its parent as long as the walk may go on, and the
places computed on the way. -/
def resolvePlace (byId : KeyedMap RowId HierarchyRow) : ℕ → RowId → ComputedPlaces →
    HierarchyPlace × ComputedPlaces
  | steps, id, computed =>
    match computed.get? id with
    | some known => (known, computed)
    | none =>
      match byId.get? id with
      | none => (⟨0, ""⟩, computed)
      | some row =>
        match steps, row.parentId with
        | steps + 1, some parentId =>
          let above := resolvePlace byId steps parentId computed
          let place := placeBelow above.1 row.code
          (place, above.2.set id place)
        | _, _ => (rootPlace row.code, computed.set id (rootPlace row.code))

/-- A row with its place. -/
def HierarchyRow.placed (row : HierarchyRow) (place : HierarchyPlace) : HierarchyRow :=
  { row with hierarchyLevel := place.level, hierarchyPath := some place.path }

/-- The statement that writes the place of one row. -/
def writePlace (table : List HierarchyRow) (id : RowId) (place : HierarchyPlace) :
    List HierarchyRow :=
  table.map fun row => if row.id = id then row.placed place else row

/-- One turn of the loop: a row whose place is not the computed one is written. -/
def rewriteRow (byId : KeyedMap RowId HierarchyRow) (state : ComputedPlaces × List HierarchyRow)
    (row : HierarchyRow) : ComputedPlaces × List HierarchyRow :=
  let resolved := resolvePlace byId hierarchyGuard row.id state.1
  (resolved.2,
    if (resolved.1.level : ℤ) ≠ row.hierarchyLevel ∨ some resolved.1.path ≠ row.hierarchyPath then
      writePlace state.2 row.id resolved.1
    else state.2)

/-- The rows by their ids. -/
def rowById (rows : List HierarchyRow) : KeyedMap RowId HierarchyRow :=
  KeyedMap.index HierarchyRow.id rows

/-- The table after all the rows. -/
def rewriteHierarchy (rows : List HierarchyRow) : List HierarchyRow :=
  (rows.foldl (rewriteRow (rowById rows)) (.empty, rows)).2

/-! ### The tree of a table -/

/-- The parent of each unit. -/
def rowParents (rows : List HierarchyRow) (id : RowId) : Option RowId :=
  ((rowById rows).get? id).bind HierarchyRow.parentId

/-- The units above one, the nearest first. -/
def ancestors (rows : List HierarchyRow) (row : HierarchyRow) : List RowId :=
  walk (rowParents rows) rows.length row.parentId

/-- The units form trees: ids are keys, every parent is there, and no unit lies above itself. -/
structure Forest (rows : List HierarchyRow) : Prop where
  ids : (rows.map HierarchyRow.id).Nodup
  parents : ∀ row ∈ rows, ∀ parentId ∈ row.parentId, parentId ∈ rows.map HierarchyRow.id
  acyclic : Acyclic (rowParents rows)

/-- The level of a unit counts those above it, and its path continues the one of its parent. -/
def Follows (rows : List HierarchyRow) (row : HierarchyRow) : Prop :=
  row.hierarchyLevel = (ancestors rows row).length ∧
    match row.parentId with
    | none => row.hierarchyPath = some ("/" ++ toPathSegment row.code)
    | some parentId => ∃ parent ∈ rows, parent.id = parentId ∧ ∃ path,
        parent.hierarchyPath = some path ∧
          row.hierarchyPath = some (path ++ "/" ++ toPathSegment row.code)

/-- Every unit has the level and the path that follow from the tree. -/
def Rebuilt (rows : List HierarchyRow) : Prop := ∀ row ∈ rows, Follows rows row

/-- Where the walk from a row would stop below a parent, an earlier row went by. -/
def ReachedInTime (rows earlier : List HierarchyRow) (row : HierarchyRow) : Prop :=
  ∀ top, climb (rowParents rows) hierarchyGuard row.id = some top → rowParents rows top ≠ none →
    ∃ seen ∈ earlier, Reaches (rowParents rows) seen.id top

/-- A unit with more than sixty-four others above it comes after one at or below the
sixty-fourth of them. -/
def ShallowFirst (rows : List HierarchyRow) : Prop :=
  ∀ earlier row later, rows = earlier ++ row :: later → ReachedInTime rows earlier row

/-- The place that follows from the tree. -/
inductive TruePlace (rows : List HierarchyRow) : RowId → HierarchyPlace → Prop
  | root (row : HierarchyRow) (hrow : row ∈ rows) (hparent : row.parentId = none) :
      TruePlace rows row.id (rootPlace row.code)
  | child (row : HierarchyRow) (hrow : row ∈ rows) (parentId : RowId)
      (hparent : row.parentId = some parentId) (above : HierarchyPlace)
      (habove : TruePlace rows parentId above) : TruePlace rows row.id (placeBelow above row.code)

section Tree

variable {rows : List HierarchyRow} {row : HierarchyRow} {id parentId : RowId}
  {place : HierarchyPlace}

theorem Forest.get?_rowById (h : Forest rows) :
    (rowById rows).get? id = some row ↔ row ∈ rows ∧ row.id = id := KeyedMap.get?_index_iff h.ids

theorem Forest.rowParents_of_mem (h : Forest rows) (hrow : row ∈ rows) :
    rowParents rows row.id = row.parentId := by
  rw [rowParents, h.get?_rowById.mpr ⟨hrow, rfl⟩, Option.bind_some]

/-- A unit with a parent is a row, and its parent is another one. -/
theorem Forest.of_parent (h : Forest rows) (hparent : rowParents rows id = some parentId) :
    ∃ row ∈ rows, row.id = id ∧ row.parentId = some parentId ∧
      ∃ parent ∈ rows, parent.id = parentId := by
  obtain ⟨row, hget, hrowParent⟩ := Option.bind_eq_some_iff.mp hparent
  obtain ⟨hrow, hid⟩ := h.get?_rowById.mp hget
  exact ⟨row, hrow, hid, hrowParent, List.mem_map.mp (h.parents row hrow parentId hrowParent)⟩

theorem Forest.ne_parent (h : Forest rows) (hparent : rowParents rows id = some parentId) :
    ¬Reaches (rowParents rows) parentId id :=
  fun hreach => h.acyclic id (Relation.TransGen.head' hparent hreach)

/-- From a unit one reaches the unit itself and what is reached from its parent. -/
theorem reaches_iff {other : RowId} : Reaches (rowParents rows) id other ↔
    other = id ∨ ∃ parentId, rowParents rows id = some parentId ∧
      Reaches (rowParents rows) parentId other := by
  constructor
  · intro hreach
    obtain hsame | ⟨next, hstep, hrest⟩ := Relation.ReflTransGen.cases_head hreach
    · exact .inl hsame.symm
    · exact .inr ⟨next, hstep, hrest⟩
  · rintro (rfl | ⟨next, hstep, hrest⟩)
    · exact Relation.ReflTransGen.refl
    · exact Relation.ReflTransGen.head hstep hrest

/-- The climb from a unit meets as many rows as its level says. -/
theorem TruePlace.climb (h : Forest rows) (hplace : TruePlace rows id place) :
    ∀ steps ≤ place.level, ∃ above ∈ rows.map HierarchyRow.id,
      climb (rowParents rows) steps id = some above := by
  induction hplace with
  | root row hrow hparent =>
    intro steps hsteps
    rw [Nat.le_zero.mp hsteps]
    exact ⟨row.id, List.mem_map_of_mem hrow, rfl⟩
  | child row hrow parentId hparent above habove ih =>
    intro steps hsteps
    cases steps with
    | zero => exact ⟨row.id, List.mem_map_of_mem hrow, rfl⟩
    | succ steps =>
      obtain ⟨top, htop, hclimb⟩ := ih steps (Nat.le_of_succ_le_succ hsteps)
      refine ⟨top, htop, ?_⟩
      rw [climb_succ, h.rowParents_of_mem hrow, hparent]
      exact hclimb

theorem TruePlace.length_walk (h : Forest rows) (hplace : TruePlace rows id place) :
    ∀ bound, place.level ≤ bound →
      (walk (rowParents rows) bound (rowParents rows id)).length = place.level := by
  induction hplace with
  | root row hrow hparent =>
    intro bound hbound
    rw [h.rowParents_of_mem hrow, hparent]
    cases bound <;> rfl
  | child row hrow parentId hparent above habove ih =>
    intro bound hbound
    have hlevel : (placeBelow above row.code).level = above.level + 1 := rfl
    rw [hlevel] at hbound ⊢
    obtain ⟨steps, rfl⟩ : ∃ steps, bound = steps + 1 := ⟨bound - 1, by omega⟩
    rw [h.rowParents_of_mem hrow, hparent, walk, List.length_cons, ih steps (by omega)]

/-- The level of a place counts the units above. -/
theorem TruePlace.level_eq (h : Forest rows) (hrow : row ∈ rows)
    (hplace : TruePlace rows row.id place) : (ancestors rows row).length = place.level := by
  have hshort := h.acyclic.lt_length_of_climb (hplace.climb h)
  rw [List.length_map] at hshort
  rw [ancestors, ← h.rowParents_of_mem hrow]
  exact hplace.length_walk h rows.length hshort.le

/-- A unit has one place. -/
theorem TruePlace.unique (h : Forest rows) {other : HierarchyPlace} (hplace : TruePlace rows id place)
    (hother : TruePlace rows id other) : place = other := by
  induction hplace generalizing other with
  | root row hrow hparent =>
    generalize hid : row.id = id at hother
    cases hother with
    | root twin htwin htwinParent =>
      rw [List.inj_on_of_nodup_map h.ids hrow htwin hid]
    | child twin htwin parentId htwinParent above habove =>
      rw [List.inj_on_of_nodup_map h.ids hrow htwin hid, htwinParent] at hparent
      cases hparent
  | child row hrow parentId hparent above habove ih =>
    generalize hid : row.id = id at hother
    cases hother with
    | root twin htwin htwinParent =>
      rw [List.inj_on_of_nodup_map h.ids hrow htwin hid, htwinParent] at hparent
      cases hparent
    | child twin htwin otherId htwinParent otherAbove hotherAbove =>
      have hrowTwin := List.inj_on_of_nodup_map h.ids hrow htwin hid
      rw [hrowTwin, htwinParent] at hparent
      cases hparent
      rw [hrowTwin, ih hotherAbove]

end Tree

/-! ### The walk to the root -/

section Walk

variable {rows : List HierarchyRow} {row : HierarchyRow} {id other parentId top : RowId}
  {computed : ComputedPlaces} {place : HierarchyPlace} {steps : ℕ}

theorem resolvePlace_known (byId : KeyedMap RowId HierarchyRow) (steps : ℕ)
    (hknown : computed.get? id = some place) :
    resolvePlace byId steps id computed = (place, computed) := by
  unfold resolvePlace
  rw [hknown]

/-- A unit without a parent, or where the walk stops. -/
theorem resolvePlace_root (h : Forest rows) (hrow : row ∈ rows) (hnew : computed.get? row.id = none)
    (hstop : steps = 0 ∨ row.parentId = none) :
    resolvePlace (rowById rows) steps row.id computed =
      (rootPlace row.code, computed.set row.id (rootPlace row.code)) := by
  unfold resolvePlace
  rw [hnew, h.get?_rowById.mpr ⟨hrow, rfl⟩]
  dsimp only
  rcases hstop with rfl | hparent
  · rfl
  · rw [hparent]
    cases steps <;> rfl

theorem resolvePlace_below (h : Forest rows) (hrow : row ∈ rows) (hnew : computed.get? row.id = none)
    (hparent : row.parentId = some parentId) :
    resolvePlace (rowById rows) (steps + 1) row.id computed =
      (placeBelow (resolvePlace (rowById rows) steps parentId computed).1 row.code,
        (resolvePlace (rowById rows) steps parentId computed).2.set row.id
          (placeBelow (resolvePlace (rowById rows) steps parentId computed).1 row.code)) := by
  conv_lhs => unfold resolvePlace
  rw [hnew, h.get?_rowById.mpr ⟨hrow, rfl⟩]
  dsimp only
  rw [hparent]

/-- What is computed stays. -/
theorem resolvePlace_keeps (byId : KeyedMap RowId HierarchyRow) (steps : ℕ) (id : RowId)
    (hknown : computed.get? other = some place) :
    (resolvePlace byId steps id computed).2.get? other = some place := by
  induction steps generalizing id computed with
  | zero =>
    unfold resolvePlace
    cases hid : computed.get? id with
    | some known => exact hknown
    | none =>
      have hne : other ≠ id := by
        rintro rfl
        rw [hid] at hknown
        cases hknown
      cases byId.get? id with
      | none => exact hknown
      | some row =>
        dsimp only
        rw [KeyedMap.get?_set_of_ne _ _ hne]
        exact hknown
  | succ steps ih =>
    unfold resolvePlace
    cases hid : computed.get? id with
    | some known => exact hknown
    | none =>
      have hne : other ≠ id := by
        rintro rfl
        rw [hid] at hknown
        cases hknown
      cases byId.get? id with
      | none => exact hknown
      | some row =>
        dsimp only
        cases row.parentId with
        | none =>
          dsimp only
          rw [KeyedMap.get?_set_of_ne _ _ hne]
          exact hknown
        | some parentId =>
          dsimp only
          rw [KeyedMap.get?_set_of_ne _ _ hne]
          exact ih parentId hknown

/-- The place of a row is kept as it is returned. -/
theorem resolvePlace_stores (h : Forest rows) (hrow : row ∈ rows) :
    (resolvePlace (rowById rows) steps row.id computed).2.get? row.id =
      some (resolvePlace (rowById rows) steps row.id computed).1 := by
  cases hknown : computed.get? row.id with
  | some place =>
    rw [resolvePlace_known _ steps hknown]
    exact hknown
  | none =>
    cases steps with
    | zero =>
      rw [resolvePlace_root h hrow hknown (.inl rfl)]
      exact KeyedMap.get?_set_self _ _ _
    | succ steps =>
      cases hparent : row.parentId with
      | none =>
        rw [resolvePlace_root h hrow hknown (.inr hparent)]
        exact KeyedMap.get?_set_self _ _ _
      | some parentId =>
        rw [resolvePlace_below h hrow hknown hparent]
        exact KeyedMap.get?_set_self _ _ _

/-- The computed places are those of the tree, and those above a computed one are computed. -/
structure Settled (rows : List HierarchyRow) (computed : ComputedPlaces) : Prop where
  right : ∀ id place, computed.get? id = some place → TruePlace rows id place
  closed : ∀ id parentId, computed.has id = true → rowParents rows id = some parentId →
    computed.has parentId = true

theorem Settled.has_of_reaches (hsettled : Settled rows computed) (hid : computed.has id = true)
    (hreach : Reaches (rowParents rows) id other) : computed.has other = true := by
  induction hreach with
  | refl => exact hid
  | tail _ hstep ih => exact hsettled.closed _ _ ih hstep

theorem has_set (m : ComputedPlaces) (id other : RowId) (place : HierarchyPlace) :
    (m.set id place).has other = true ↔ other = id ∨ m.has other = true := by
  rw [KeyedMap.has, KeyedMap.get?_set, KeyedMap.has]
  split
  · next hsame => simp [hsame]
  · next hne => simp [hne]

/-- The place of one more unit, above which all is computed. -/
theorem Settled.set (h : Forest rows) (hsettled : Settled rows computed) (hrow : row ∈ rows)
    (hplace : TruePlace rows row.id place)
    (habove : ∀ parentId ∈ row.parentId, computed.has parentId = true) :
    Settled rows (computed.set row.id place) := by
  constructor
  · intro id stored hstored
    rw [KeyedMap.get?_set] at hstored
    split at hstored
    · next hsame =>
      cases hstored
      exact hsame ▸ hplace
    · exact hsettled.right id stored hstored
  · intro id parentId hid hparent
    rw [has_set] at hid ⊢
    rcases hid with rfl | hid
    · rw [h.rowParents_of_mem hrow] at hparent
      exact .inr (habove parentId hparent)
    · exact .inr (hsettled.closed id parentId hid hparent)

/-- A walk that does not stop below a parent computes the places of the units above it
that were not computed yet. -/
theorem Settled.resolvePlace (h : Forest rows) (hsettled : Settled rows computed) (hrow : row ∈ rows)
    (hstop : ∀ top, ParentMap.climb (rowParents rows) steps row.id = some top →
      rowParents rows top ≠ none → computed.has top = true) :
    Settled rows (OrgChart.resolvePlace (rowById rows) steps row.id computed).2 ∧
      ∀ other, (OrgChart.resolvePlace (rowById rows) steps row.id computed).2.has other = true ↔
        computed.has other = true ∨ Reaches (rowParents rows) row.id other := by
  induction steps generalizing row computed with
  | zero =>
    cases hknown : computed.get? row.id with
    | some place =>
      have hhas : computed.has row.id = true := by rw [KeyedMap.has, hknown]; rfl
      rw [resolvePlace_known _ 0 hknown]
      exact ⟨hsettled, fun other => ⟨.inl, fun hor => hor.elim id (hsettled.has_of_reaches hhas)⟩⟩
    | none =>
      have hroot : row.parentId = none := by
        by_contra hparent
        have hhas := hstop row.id rfl (by rwa [h.rowParents_of_mem hrow])
        rw [KeyedMap.has, hknown] at hhas
        cases hhas
      rw [resolvePlace_root h hrow hknown (.inl rfl)]
      refine ⟨hsettled.set h hrow (.root row hrow hroot) (by simp [hroot]), fun other => ?_⟩
      rw [has_set, reaches_iff, h.rowParents_of_mem hrow, hroot]
      simp [or_comm]
  | succ steps ih =>
    cases hknown : computed.get? row.id with
    | some place =>
      have hhas : computed.has row.id = true := by rw [KeyedMap.has, hknown]; rfl
      rw [resolvePlace_known _ (steps + 1) hknown]
      exact ⟨hsettled, fun other => ⟨.inl, fun hor => hor.elim id (hsettled.has_of_reaches hhas)⟩⟩
    | none =>
      cases hparent : row.parentId with
      | none =>
        rw [resolvePlace_root h hrow hknown (.inr hparent)]
        refine ⟨hsettled.set h hrow (.root row hrow hparent) (by simp [hparent]), fun other => ?_⟩
        rw [has_set, reaches_iff, h.rowParents_of_mem hrow, hparent]
        simp [or_comm]
      | some parentId =>
        obtain ⟨parent, hmem, rfl⟩ := List.mem_map.mp (h.parents row hrow parentId hparent)
        have hstopParent : ∀ top, ParentMap.climb (rowParents rows) steps parent.id = some top →
            rowParents rows top ≠ none → computed.has top = true := by
          intro top htop
          refine hstop top ?_
          rw [climb_succ, h.rowParents_of_mem hrow, hparent]
          exact htop
        obtain ⟨habove, hhas⟩ := ih hsettled hmem hstopParent
        have hstored : (OrgChart.resolvePlace (rowById rows) steps parent.id computed).2.get? parent.id =
            some (OrgChart.resolvePlace (rowById rows) steps parent.id computed).1 :=
          resolvePlace_stores h hmem
        rw [resolvePlace_below h hrow hknown hparent]
        have hplace := TruePlace.child row hrow parent.id hparent _ (habove.right _ _ hstored)
        refine ⟨habove.set h hrow hplace fun parentId hsame => ?_, fun other => ?_⟩
        · rw [hparent] at hsame
          cases hsame
          exact (hhas parent.id).mpr (.inr Relation.ReflTransGen.refl)
        · have hfrom : Reaches (rowParents rows) row.id other ↔
              other = row.id ∨ Reaches (rowParents rows) parent.id other := by
            rw [reaches_iff, h.rowParents_of_mem hrow, hparent]
            simp only [Option.some.injEq, exists_eq_left']
          rw [has_set, hhas, hfrom, or_left_comm]

/-- A walk that stops below a parent keeps the unit it stopped at as a root. -/
theorem resolvePlace_stops (h : Forest rows) (hsettled : Settled rows computed) {last : HierarchyRow}
    (hlast : last ∈ rows) (hrow : row ∈ rows) (hnew : computed.has last.id ≠ true)
    (hclimb : climb (rowParents rows) steps row.id = some last.id) :
    (resolvePlace (rowById rows) steps row.id computed).2.get? last.id = some (rootPlace last.code) := by
  have hreach : Reaches (rowParents rows) row.id last.id := (reaches_iff_climb _ _ _).mpr ⟨steps, hclimb⟩
  have hunknown : computed.get? row.id = none := by
    rw [← Option.not_isSome_iff_eq_none]
    exact fun hknown => hnew (hsettled.has_of_reaches hknown hreach)
  induction steps generalizing row with
  | zero =>
    have hsame := List.inj_on_of_nodup_map h.ids hrow hlast (Option.some.inj hclimb)
    subst hsame
    rw [resolvePlace_root h hrow hunknown (.inl rfl)]
    exact KeyedMap.get?_set_self _ _ _
  | succ steps ih =>
    have hne : last.id ≠ row.id := fun hsame =>
      h.acyclic.climb_ne (climb_zero _ row.id) (Nat.succ_pos steps) (hsame ▸ hclimb)
    rw [climb_succ, h.rowParents_of_mem hrow] at hclimb
    obtain ⟨parentId, hparent, hrest⟩ := Option.bind_eq_some_iff.mp hclimb
    obtain ⟨parent, hmem, rfl⟩ := List.mem_map.mp (h.parents row hrow parentId hparent)
    have hreachParent : Reaches (rowParents rows) parent.id last.id :=
      (reaches_iff_climb _ _ _).mpr ⟨steps, hrest⟩
    have hunknownParent : computed.get? parent.id = none := by
      rw [← Option.not_isSome_iff_eq_none]
      exact fun hknown => hnew (hsettled.has_of_reaches hknown hreachParent)
    rw [resolvePlace_below h hrow hunknown hparent, KeyedMap.get?_set_of_ne _ _ hne]
    exact ih hmem hrest hreachParent hunknownParent

end Walk

/-! ### The rows in their order -/

section Run

variable {rows earlier rest : List HierarchyRow} {row : HierarchyRow} {computed : ComputedPlaces}

/-- The places computed after some rows. -/
def computedAfter (rows seen : List HierarchyRow) : ComputedPlaces :=
  seen.foldl (fun computed row => (resolvePlace (rowById rows) hierarchyGuard row.id computed).2) .empty

/-- A row with the place computed for it. -/
def withComputed (computed : ComputedPlaces) (row : HierarchyRow) : HierarchyRow :=
  row.placed ((computed.get? row.id).getD (rootPlace row.code))

theorem computedAfter_append (seen : List HierarchyRow) (row : HierarchyRow) :
    computedAfter rows (seen ++ [row]) =
      (resolvePlace (rowById rows) hierarchyGuard row.id (computedAfter rows seen)).2 := by
  rw [computedAfter, List.foldl_append]
  rfl

/-- Each row has a place from its turn on. -/
theorem exists_computedAfter (h : Forest rows) {seen : List HierarchyRow} (hseen : seen ⊆ rows) :
    ∀ row ∈ seen, ∃ place, (computedAfter rows seen).get? row.id = some place := by
  induction seen using List.reverseRecOn with
  | nil => exact fun row hrow => absurd hrow List.not_mem_nil
  | append_singleton seen last ih =>
    intro row hrow
    rw [computedAfter_append]
    rcases List.mem_append.mp hrow with hold | hlast
    · obtain ⟨place, hplace⟩ := ih (fun other hother => hseen (List.mem_append_left _ hother)) row hold
      exact ⟨place, resolvePlace_keeps _ _ _ hplace⟩
    · rw [List.mem_singleton.mp hlast]
      exact ⟨_, resolvePlace_stores h (hseen (List.mem_append_right _ List.mem_cons_self))⟩

/-- The statement for one row leaves the others as they are. -/
theorem writePlace_append (h : (rows.map HierarchyRow.id).Nodup) (hrows : rows = earlier ++ row :: rest)
    (done : List HierarchyRow) (hdone : done.map HierarchyRow.id = earlier.map HierarchyRow.id)
    (place : HierarchyPlace) :
    writePlace (done ++ row :: rest) row.id place = done ++ row.placed place :: rest := by
  rw [hrows, List.map_append, List.map_cons, ← hdone] at h
  obtain ⟨-, hrest, hapart⟩ := List.nodup_append.mp h
  have hother : ∀ others : List HierarchyRow, row.id ∉ others.map HierarchyRow.id →
      others.map (fun other => if other.id = row.id then other.placed place else other) = others := by
    intro others hnot
    refine (List.map_congr_left fun other hmem => if_neg fun hsame => hnot ?_).trans (List.map_id _)
    exact hsame ▸ List.mem_map_of_mem hmem
  have hbefore : row.id ∉ done.map HierarchyRow.id :=
    fun hmem => hapart _ hmem _ List.mem_cons_self rfl
  rw [writePlace, List.map_append, List.map_cons, hother done hbefore,
    hother rest (List.nodup_cons.mp hrest).1, if_pos rfl]

/-- The turn of one row gives it its computed place. -/
theorem rewriteRow_eq (h : Forest rows) (hrows : rows = earlier ++ row :: rest) :
    rewriteRow (rowById rows) (computedAfter rows earlier,
        earlier.map (withComputed (computedAfter rows earlier)) ++ row :: rest) row =
      (computedAfter rows (earlier ++ [row]),
        (earlier ++ [row]).map (withComputed (computedAfter rows (earlier ++ [row]))) ++ rest) := by
  have hmem : row ∈ rows := hrows ▸ List.mem_append_right _ List.mem_cons_self
  have hearlier : earlier ⊆ rows := fun other hother => hrows ▸ List.mem_append_left _ hother
  have hdone : earlier.map (withComputed (computedAfter rows (earlier ++ [row]))) =
      earlier.map (withComputed (computedAfter rows earlier)) := by
    refine List.map_congr_left fun other hother => ?_
    obtain ⟨place, hplace⟩ := exists_computedAfter h hearlier other hother
    have hkept := resolvePlace_keeps (rowById rows) hierarchyGuard row.id hplace
    rw [withComputed, withComputed, computedAfter_append, hkept, hplace]
  have hids : (earlier.map (withComputed (computedAfter rows earlier))).map HierarchyRow.id =
      earlier.map HierarchyRow.id := by
    rw [List.map_map]
    rfl
  have hstored : (resolvePlace (rowById rows) hierarchyGuard row.id (computedAfter rows earlier)).2.get?
      row.id =
        some (resolvePlace (rowById rows) hierarchyGuard row.id (computedAfter rows earlier)).1 :=
    resolvePlace_stores h hmem
  have hself : withComputed (computedAfter rows (earlier ++ [row])) row =
      row.placed (resolvePlace (rowById rows) hierarchyGuard row.id (computedAfter rows earlier)).1 := by
    rw [withComputed, computedAfter_append, hstored, Option.getD_some]
  rw [List.map_append, List.map_singleton, hdone, hself, List.append_assoc, List.singleton_append,
    computedAfter_append, rewriteRow]
  refine Prod.ext rfl ?_
  dsimp only
  split
  · exact writePlace_append h.ids hrows _ hids _
  · next hsame =>
    -- the row already has its place
    rw [not_or, not_not, not_not] at hsame
    rw [HierarchyRow.placed, hsame.1, hsame.2]

/-- The table after the loop: every row with the place computed for it. -/
theorem rewriteHierarchy_eq (h : Forest rows) :
    rewriteHierarchy rows = rows.map (withComputed (computedAfter rows rows)) := by
  have hrun : ∀ rest earlier, rows = earlier ++ rest →
      rest.foldl (rewriteRow (rowById rows)) (computedAfter rows earlier,
          earlier.map (withComputed (computedAfter rows earlier)) ++ rest) =
        (computedAfter rows rows, rows.map (withComputed (computedAfter rows rows))) := by
    intro rest
    induction rest with
    | nil =>
      intro earlier hrows
      rw [List.append_nil] at hrows
      rw [List.foldl_nil, List.append_nil, ← hrows]
    | cons row rest ih =>
      intro earlier hrows
      rw [List.foldl_cons, rewriteRow_eq h hrows]
      exact ih (earlier ++ [row]) (by rw [hrows, List.append_assoc, List.singleton_append])
  exact congrArg Prod.snd (hrun rows [] rfl)

theorem rowParents_rewritten (h : Forest rows) : rowParents (rewriteHierarchy rows) = rowParents rows := by
  have hkey : ∀ row, (withComputed (computedAfter rows rows) row).id = row.id := fun row => rfl
  funext id
  rw [rewriteHierarchy_eq h, rowParents, rowParents, rowById, KeyedMap.get?_index_map hkey,
    Option.bind_map]
  rfl

theorem ancestors_rewritten (h : Forest rows) (row : HierarchyRow) :
    ancestors (rewriteHierarchy rows) row = ancestors rows row := by
  have hlength : (rewriteHierarchy rows).length = rows.length := by
    rw [rewriteHierarchy_eq h, List.length_map]
  rw [ancestors, ancestors, rowParents_rewritten h, hlength]

/-- The computed places after the first rows. -/
structure SettledAfter (rows earlier : List HierarchyRow) : Prop where
  settled : Settled rows (computedAfter rows earlier)
  reached : ∀ id, (computedAfter rows earlier).has id = true ↔
    ∃ seen ∈ earlier, Reaches (rowParents rows) seen.id id

theorem settledAfter_nil : SettledAfter rows [] where
  settled :=
    { right := fun _ _ hplace => nomatch hplace
      closed := fun _ _ hid => nomatch hid }
  reached _ :=
    { mp := fun hid => nomatch hid
      mpr := fun ⟨_, hseen, _⟩ => absurd hseen List.not_mem_nil }

/-- One more row whose walk does not stop below a parent. -/
theorem SettledAfter.append (h : Forest rows) (hsettled : SettledAfter rows earlier) (hrow : row ∈ rows)
    (hreached : ReachedInTime rows earlier row) : SettledAfter rows (earlier ++ [row]) := by
  have hstop : ∀ top, climb (rowParents rows) hierarchyGuard row.id = some top →
      rowParents rows top ≠ none → (computedAfter rows earlier).has top = true :=
    fun top htop hparent => (hsettled.reached top).mpr (hreached top htop hparent)
  obtain ⟨hnext, hhas⟩ := hsettled.settled.resolvePlace h hrow hstop
  constructor
  · rw [computedAfter_append]
    exact hnext
  · intro id
    rw [computedAfter_append, hhas, hsettled.reached]
    constructor
    · rintro (⟨seen, hseen, hreach⟩ | hreach)
      · exact ⟨seen, List.mem_append_left _ hseen, hreach⟩
      · exact ⟨row, List.mem_append_right _ List.mem_cons_self, hreach⟩
    · rintro ⟨seen, hseen, hreach⟩
      rcases List.mem_append.mp hseen with hseen | hseen
      · exact .inl ⟨seen, hseen, hreach⟩
      · rw [List.mem_singleton.mp hseen] at hreach
        exact .inr hreach

/-- When no walk stops below a parent, every place is the one of the tree. -/
theorem SettledAfter.of_shallowFirst (h : Forest rows) (hshallow : ShallowFirst rows) :
    SettledAfter rows rows := by
  have hrun : ∀ earlier rest, rows = earlier ++ rest → SettledAfter rows earlier := by
    intro earlier
    induction earlier using List.reverseRecOn with
    | nil => exact fun rest _ => settledAfter_nil
    | append_singleton earlier row ih =>
      intro rest hrows
      rw [List.append_assoc, List.singleton_append] at hrows
      have hrow : row ∈ rows := hrows ▸ List.mem_append_right _ List.mem_cons_self
      exact (ih (row :: rest) hrows).append h hrow (hshallow earlier row rest hrows)
  exact hrun rows [] (List.append_nil rows).symm

/-- Rows with the places of the tree have the levels and paths that follow from it. -/
theorem SettledAfter.rebuilt (h : Forest rows) (hsettled : SettledAfter rows rows) :
    Rebuilt (rewriteHierarchy rows) := by
  have hplaces : ∀ row ∈ rows, ∃ place, (computedAfter rows rows).get? row.id = some place ∧
      TruePlace rows row.id place ∧ withComputed (computedAfter rows rows) row = row.placed place := by
    intro row hrow
    obtain ⟨place, hplace⟩ := exists_computedAfter h (List.Subset.refl rows) row hrow
    refine ⟨place, hplace, hsettled.settled.right _ _ hplace, ?_⟩
    rw [withComputed, hplace, Option.getD_some]
  intro after hafter
  rw [rewriteHierarchy_eq h] at hafter
  obtain ⟨row, hrow, rfl⟩ := List.mem_map.mp hafter
  obtain ⟨place, hplace, htrue, hwritten⟩ := hplaces row hrow
  rw [hwritten]
  constructor
  · have hlevel := htrue.level_eq h hrow
    rw [ancestors_rewritten h]
    exact congrArg Nat.cast hlevel.symm
  · have hparentId : (row.placed place).parentId = row.parentId := rfl
    have hpath : (row.placed place).hierarchyPath = some place.path := rfl
    rw [hparentId, hpath]
    generalize hid : row.id = id at htrue
    cases htrue with
    | root twin htwin htwinParent =>
      have hsame := List.inj_on_of_nodup_map h.ids hrow htwin hid
      rw [hsame, htwinParent]
      rfl
    | child twin htwin parentId htwinParent above habove =>
      have hsame := List.inj_on_of_nodup_map h.ids hrow htwin hid
      rw [hsame, htwinParent]
      obtain ⟨parent, hparent, rfl⟩ := List.mem_map.mp (h.parents twin htwin parentId htwinParent)
      obtain ⟨parentPlace, -, hparentTrue, hparentWritten⟩ := hplaces parent hparent
      refine ⟨parent.placed parentPlace, ?_, rfl, parentPlace.path, rfl, ?_⟩
      · rw [rewriteHierarchy_eq h, ← hparentWritten]
        exact List.mem_map_of_mem hparent
      · rw [hparentTrue.unique h habove]
        rfl

/-- A row whose walk stops below a parent leaves a unit with a parent at the level of a root. -/
theorem SettledAfter.not_rebuilt (h : Forest rows) (hsettled : SettledAfter rows earlier)
    (hrows : rows = earlier ++ row :: rest) (hlate : ¬ReachedInTime rows earlier row) :
    ¬Rebuilt (rewriteHierarchy rows) := by
  intro hrebuilt
  have hrow : row ∈ rows := hrows ▸ List.mem_append_right _ List.mem_cons_self
  unfold ReachedInTime at hlate
  push Not at hlate
  obtain ⟨top, htop, hparent, hunseen⟩ := hlate
  obtain ⟨parentId, hparentId⟩ := Option.ne_none_iff_exists'.mp hparent
  obtain ⟨last, hlast, rfl, hlastParent, -⟩ := h.of_parent hparentId
  have hnew : (computedAfter rows earlier).has last.id ≠ true := by
    intro hhas
    obtain ⟨seen, hseen, hreach⟩ := (hsettled.reached last.id).mp hhas
    exact hunseen seen hseen hreach
  have hstopped := resolvePlace_stops h hsettled.settled hlast hrow hnew htop
  -- the place it stopped with stays to the end
  have hkept : ∀ later : List HierarchyRow,
      (computedAfter rows (earlier ++ row :: later)).get? last.id = some (rootPlace last.code) := by
    intro later
    induction later using List.reverseRecOn with
    | nil =>
      rw [computedAfter_append]
      exact hstopped
    | append_singleton later next ih =>
      rw [← List.cons_append, ← List.append_assoc, computedAfter_append]
      exact resolvePlace_keeps _ _ _ ih
  have hfinal := hkept rest
  rw [← hrows] at hfinal
  have hwritten : withComputed (computedAfter rows rows) last = last.placed (rootPlace last.code) := by
    rw [withComputed, hfinal, Option.getD_some]
  have hmem : last.placed (rootPlace last.code) ∈ rewriteHierarchy rows := by
    rw [rewriteHierarchy_eq h, ← hwritten]
    exact List.mem_map_of_mem hlast
  have hlevel := (hrebuilt _ hmem).1
  rw [ancestors_rewritten h] at hlevel
  have hpositive : 0 < (ancestors rows (last.placed (rootPlace last.code))).length := by
    have hlength : rows.length = rows.length - 1 + 1 := by
      have hpos := List.length_pos_of_mem hlast
      omega
    have hparentPlaced : (last.placed (rootPlace last.code)).parentId = some parentId := hlastParent
    rw [ancestors, hparentPlaced, hlength, walk]
    exact Nat.succ_pos _
  have hzero : (last.placed (rootPlace last.code)).hierarchyLevel = 0 := rfl
  omega

/-- For every forest and every order of its rows, each unit gets the level that counts the
units above it and the path that continues the one of its parent, if and only if every unit
with more than sixty-four others above it comes after one at or below the sixty-fourth. -/
theorem rebuilt_iff_shallowFirst (rows : List HierarchyRow) (h : Forest rows) :
    Rebuilt (rewriteHierarchy rows) ↔ ShallowFirst rows := by
  refine ⟨fun hrebuilt => ?_, fun hshallow => (SettledAfter.of_shallowFirst h hshallow).rebuilt h⟩
  have hrun : ∀ rest earlier, rows = earlier ++ rest → SettledAfter rows earlier →
      ∀ before row later, rest = before ++ row :: later → ReachedInTime rows (earlier ++ before) row := by
    intro rest
    induction rest with
    | nil =>
      intro earlier hrows hsettled before row later hnil
      cases before <;> cases hnil
    | cons next rest ih =>
      intro earlier hrows hsettled before row later hsplit
      have hnext : ReachedInTime rows earlier next := by
        by_contra hlate
        exact hsettled.not_rebuilt h hrows hlate hrebuilt
      cases before with
      | nil =>
        rw [List.nil_append] at hsplit
        cases hsplit
        rwa [List.append_nil]
      | cons first before =>
        rw [List.cons_append] at hsplit
        cases hsplit
        have hmem : next ∈ rows := hrows ▸ List.mem_append_right _ List.mem_cons_self
        have hgrown := ih (earlier ++ [next]) (by rw [hrows, List.append_assoc, List.singleton_append])
          (hsettled.append h hmem hnext) before row later rfl
        rwa [List.append_assoc, List.singleton_append] at hgrown
  intro earlier row later hrows
  exact hrun rows [] rfl settledAfter_nil earlier row later hrows

end Run

/-! ### A line of units, the deepest one first -/

section Sample

def lineId (n : ℕ) : RowId where
  text := String.ofList (List.replicate (n + 1) 'u')
  nonempty h := by simpa using congrArg String.toList h

/-- A unit with as many above it as its number says. -/
def lineRow : ℕ → HierarchyRow
  | 0 => ⟨lineId 0, none, "U0", 0, some "/u0"⟩
  | n + 1 => ⟨lineId (n + 1), some (lineId n), "U" ++ toString (n + 1), 0, none⟩

/-- A line of units, in the order that starts at its end. -/
def deepestFirst (length : ℕ) : List HierarchyRow := (List.range length).reverse.map lineRow

theorem deepestFirst_succ (length : ℕ) :
    deepestFirst (length + 1) = lineRow length :: deepestFirst length := by
  rw [deepestFirst, List.range_succ, List.reverse_append, List.map_append]
  rfl

theorem length_lineId (n : ℕ) : (lineId n).text.toList.length = n + 1 := by
  rw [lineId, String.toList_ofList, List.length_replicate]

theorem lineRow_id (n : ℕ) : (lineRow n).id = lineId n := by
  cases n <;> rfl

theorem deepestFirst_forest (length : ℕ) : Forest (deepestFirst length) := by
  have hids : ((deepestFirst length).map HierarchyRow.id).Nodup := by
    have hmap : (deepestFirst length).map HierarchyRow.id = (List.range length).reverse.map lineId := by
      rw [deepestFirst, List.map_map]
      exact List.map_congr_left fun n _ => lineRow_id n
    rw [hmap]
    refine List.Nodup.map (fun m n hsame => ?_) (List.nodup_reverse.mpr List.nodup_range)
    have hm := length_lineId m
    have hn := length_lineId n
    rw [hsame] at hm
    omega
  have hparent : ∀ row ∈ deepestFirst length, ∀ parentId ∈ row.parentId,
      ∃ n, n + 1 < length ∧ row.id = lineId (n + 1) ∧ parentId = lineId n := by
    intro row hrow parentId hparentId
    obtain ⟨n, hn, rfl⟩ := List.mem_map.mp hrow
    rw [List.mem_reverse, List.mem_range] at hn
    cases n with
    | zero => cases hparentId
    | succ n =>
      cases hparentId
      exact ⟨n, hn, rfl, rfl⟩
  constructor
  · exact hids
  · intro row hrow parentId hparentId
    obtain ⟨n, hn, -, rfl⟩ := hparent row hrow parentId hparentId
    rw [← lineRow_id]
    refine List.mem_map_of_mem (List.mem_map_of_mem ?_)
    rw [List.mem_reverse, List.mem_range]
    omega
  · refine acyclic_of_rank (fun id => id.text.toList.length) fun id parentId hedge => ?_
    obtain ⟨row, hget, hparentId⟩ := Option.bind_eq_some_iff.mp hedge
    obtain ⟨hrow, rfl⟩ := (KeyedMap.get?_index_iff hids).mp hget
    obtain ⟨n, -, hid, rfl⟩ := hparent row hrow parentId hparentId
    have hchild := length_lineId (n + 1)
    have habove := length_lineId n
    rw [← hid] at hchild
    omega

/-- The climb from a unit of the line. -/
theorem climb_lineId {length : ℕ} (steps n : ℕ) (hn : n + steps < length) :
    climb (rowParents (deepestFirst length)) steps (lineId (n + steps)) = some (lineId n) := by
  induction steps with
  | zero => rfl
  | succ steps ih =>
    have hmem : lineRow (n + steps + 1) ∈ deepestFirst length := by
      refine List.mem_map_of_mem ?_
      rw [List.mem_reverse, List.mem_range]
      omega
    have hparent := (deepestFirst_forest length).rowParents_of_mem hmem
    rw [lineRow_id] at hparent
    rw [climb_succ, ← Nat.add_assoc, hparent]
    exact ih (by omega)

/-- Of sixty-six units in a line, listed from the deepest one, the second one is placed as a
root. -/
theorem deepest_first_is_not_rebuilt :
    Forest (deepestFirst 66) ∧ ¬Rebuilt (rewriteHierarchy (deepestFirst 66)) := by
  have hrows : deepestFirst 66 = [] ++ lineRow 65 :: deepestFirst 65 := deepestFirst_succ 65
  have htop : climb (rowParents (deepestFirst 66)) hierarchyGuard (lineRow 65).id = some (lineId 1) := by
    rw [lineRow_id]
    exact climb_lineId hierarchyGuard 1 (by decide)
  have hstep : climb (rowParents (deepestFirst 66)) 1 (lineId 1) = some (lineId 0) :=
    climb_lineId 1 0 (by decide)
  have hparent : rowParents (deepestFirst 66) (lineId 1) ≠ none := by
    intro hnone
    rw [climb_succ, hnone] at hstep
    cases hstep
  refine ⟨deepestFirst_forest 66,
    settledAfter_nil.not_rebuilt (deepestFirst_forest 66) hrows fun hreached => ?_⟩
  obtain ⟨seen, hseen, -⟩ := hreached (lineId 1) htop hparent
  exact absurd hseen List.not_mem_nil

theorem rebuilt_iff_shallowFirst_line :
    Rebuilt (rewriteHierarchy (deepestFirst 66)) ↔ ShallowFirst (deepestFirst 66) :=
  rebuilt_iff_shallowFirst (deepestFirst 66) (deepestFirst_forest 66)

end Sample

end InternalControl.OrgChart
