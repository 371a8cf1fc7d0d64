import InternalControl.OrgChartLoops

/-!
# Every unit is listed

The walk of an export visits the units below each visited one. It never runs
out of steps, since each step down visits one more unit. So units are left out
only below a loop.
-/

namespace InternalControl.OrgChart

open Text ParentMap

variable (env : Runtime) (units : List SnapshotUnit)

/-- The ids of the visited units. -/
def visitedIds (visited : List (SnapshotUnit × ℕ)) : List RowId := visited.map fun entry => entry.1.id

/-- The visited units are stored ones, each visited once. -/
structure VisitedOnce (visited : List (SnapshotUnit × ℕ)) : Prop where
  stored : ∀ entry ∈ visited, entry.1 ∈ units
  nodup : (visitedIds visited).Nodup

/-- What a stretch of the walk does: it keeps what was visited, and visits the
units below each one that it visits. -/
structure WalkStretch (visited after : List (SnapshotUnit × ℕ)) : Prop where
  keeps : visited <+: after
  once : VisitedOnce units after
  closed : ∀ entry ∈ after, entry ∉ visited →
    ∀ child ∈ exportChildren env units (some entry.1.id), child.id ∈ visitedIds after

variable {env units} {visited middle after : List (SnapshotUnit × ℕ)}

theorem VisitedOnce.length_le (h : VisitedOnce units visited) : visited.length ≤ units.length := by
  have hnodup : (visited.map Prod.fst).Nodup := by
    refine List.Nodup.of_map SnapshotUnit.id ?_
    rw [List.map_map]
    exact h.nodup
  have hsubset : visited.map Prod.fst ⊆ units := by
    intro unit hunit
    obtain ⟨entry, hentry, rfl⟩ := List.mem_map.mp hunit
    exact h.stored entry hentry
  have hlength := (hnodup.subperm hsubset).length_le
  rw [List.length_map] at hlength
  exact hlength

/-- One more unit. -/
theorem VisitedOnce.visit (h : VisitedOnce units visited) {unit : SnapshotUnit} (hunit : unit ∈ units)
    (hnew : unit.id ∉ visitedIds visited) (depth : ℕ) :
    VisitedOnce units (visited ++ [(unit, depth)]) := by
  constructor
  · intro entry hentry
    rcases List.mem_append.mp hentry with hentry | hentry
    · exact h.stored entry hentry
    · rw [List.mem_singleton.mp hentry]
      exact hunit
  · rw [visitedIds, List.map_append]
    refine List.nodup_append.mpr ⟨h.nodup, by simp, fun id hid other hother hsame => ?_⟩
    rw [List.map_cons, List.map_nil, List.mem_singleton] at hother
    rw [hsame, hother] at hid
    exact hnew hid

theorem WalkStretch.refl (h : VisitedOnce units visited) : WalkStretch env units visited visited :=
  ⟨List.prefix_refl visited, h, fun _ hentry hnew => absurd hentry hnew⟩

theorem WalkStretch.visitedIds_subset (h : WalkStretch env units visited after) :
    visitedIds visited ⊆ visitedIds after :=
  (h.keeps.sublist.map _).subset

theorem WalkStretch.trans (h : WalkStretch env units visited middle)
    (hafter : WalkStretch env units middle after) : WalkStretch env units visited after := by
  refine ⟨h.keeps.trans hafter.keeps, hafter.once, fun entry hentry hnew child hchild => ?_⟩
  by_cases hmiddle : entry ∈ middle
  · exact hafter.visitedIds_subset (h.closed entry hmiddle hnew child hchild)
  · exact hafter.closed entry hentry hmiddle child hchild

/-- A walk below a parent is a stretch that visits all its children. -/
theorem walkStretch_exportWalk (fuel : ℕ) (parent : Option RowId) (depth : ℕ)
    (visited : List (SnapshotUnit × ℕ)) (honce : VisitedOnce units visited)
    (hfuel : units.length < fuel + visited.length) :
    WalkStretch env units visited (exportWalk env units fuel parent depth visited) ∧
      ∀ child ∈ exportChildren env units parent,
        child.id ∈ visitedIds (exportWalk env units fuel parent depth visited) := by
  induction fuel generalizing parent depth visited with
  | zero =>
    have hlength := honce.length_le
    omega
  | succ fuel ih =>
    rw [exportWalk]
    have hchildren : ∀ unit ∈ exportChildren env units parent, unit ∈ units := by
      intro unit hunit
      rw [exportChildren, List.mem_insertionSort] at hunit
      exact (List.mem_filter.mp hunit).1
    generalize exportChildren env units parent = children at hchildren ⊢
    induction children generalizing visited with
    | nil => exact ⟨.refl honce, fun child hchild => absurd hchild List.not_mem_nil⟩
    | cons unit rest ihrest =>
      rw [List.foldl_cons]
      have hunit := hchildren unit List.mem_cons_self
      generalize hmiddle : (if unit.id ∈ visited.map fun entry => entry.1.id then visited
        else exportWalk env units fuel (some unit.id) (depth + 1) (visited ++ [(unit, depth)])) = middle
      have hstretch : WalkStretch env units visited middle ∧ unit.id ∈ visitedIds middle := by
        split at hmiddle
        · next hseen =>
          rw [← hmiddle]
          exact ⟨.refl honce, hseen⟩
        · next hnew =>
          have hvisit := honce.visit hunit hnew depth
          obtain ⟨hbelow, hbelowChildren⟩ := ih (some unit.id) (depth + 1) (visited ++ [(unit, depth)])
            hvisit (by rw [List.length_append, List.length_singleton]; omega)
          rw [hmiddle] at hbelow hbelowChildren
          refine ⟨⟨(List.prefix_append visited _).trans hbelow.keeps, hbelow.once,
            fun entry hentry hfresh child hchild => ?_⟩, ?_⟩
          · -- the unit itself is new too: its children are those of the walk below it
            by_cases hmem : entry ∈ visited ++ [(unit, depth)]
            · rcases List.mem_append.mp hmem with hold | hself
              · exact absurd hold hfresh
              · rw [List.mem_singleton.mp hself] at hchild
                exact hbelowChildren child hchild
            · exact hbelow.closed entry hentry hmem child hchild
          · refine hbelow.visitedIds_subset ?_
            rw [visitedIds, List.map_append]
            simp
      obtain ⟨hfirst, hseen⟩ := hstretch
      have hlength := hfirst.keeps.length_le
      obtain ⟨hrest, hrestChildren⟩ := ihrest middle hfirst.once (by omega)
        fun other hother => hchildren other (List.mem_cons_of_mem _ hother)
      refine ⟨hfirst.trans hrest, fun child hchild => ?_⟩
      rcases List.mem_cons.mp hchild with rfl | hchild
      · exact hrest.visitedIds_subset hseen
      · exact hrestChildren child hchild

variable (env)

/-- Without loops the walk visits every unit. -/
theorem mem_visitedIds (hids : (units.map SnapshotUnit.id).Nodup)
    (hacyclic : Acyclic (snapshotParents units)) {unit : SnapshotUnit} (hunit : unit ∈ units) :
    unit.id ∈ visitedIds (exportWalk env units (units.length + 1) none 0 []) := by
  have hstart : VisitedOnce units [] :=
    ⟨fun entry hentry => absurd hentry List.not_mem_nil, List.nodup_nil⟩
  have hfuel : units.length < units.length + 1 + ([] : List (SnapshotUnit × ℕ)).length := by
    rw [List.length_nil]
    omega
  have hstretch : WalkStretch env units [] (exportWalk env units (units.length + 1) none 0 []) ∧ _ :=
    walkStretch_exportWalk (units.length + 1) none 0 [] hstart hfuel
  generalize exportWalk env units (units.length + 1) none 0 [] = visited at hstretch
  obtain ⟨hwalk, hroots⟩ := hstretch
  by_contra hmissed
  -- a unit that is not visited has a parent that is not visited
  have habove : ∀ child ∈ units, child.id ∉ visitedIds visited →
      ∃ parent ∈ units, parent.id ∉ visitedIds visited ∧
        snapshotParents units child.id = some parent.id := by
    intro child hchild hnot
    have hlisted : ∀ key, exportKey units child = key → child ∈ exportChildren env units key := by
      intro key hkey
      rw [exportChildren, List.mem_insertionSort, List.mem_filter]
      exact ⟨hchild, decide_eq_true hkey⟩
    cases hkey : exportKey units child with
    | none => exact absurd (hroots child (hlisted none hkey)) hnot
    | some id =>
      obtain ⟨hparentId, hhas⟩ := Option.filter_eq_some_iff.mp hkey
      obtain ⟨parent, hparent, hsame⟩ := (KeyedMap.index_has_iff SnapshotUnit.id units id).mp hhas
      refine ⟨parent, hparent, fun hvisited => ?_, ?_⟩
      · obtain ⟨entry, hentry, hentryId⟩ := List.mem_map.mp hvisited
        refine hnot (hwalk.closed entry hentry List.not_mem_nil child ?_)
        rw [hentryId, hsame]
        exact hlisted (some id) hkey
      · have hget : (unitById units).get? child.id = some child :=
          (KeyedMap.get?_index_iff hids).mpr ⟨hchild, rfl⟩
        rw [snapshotParents, hget, hsame]
        exact hparentId
  have hclimb : ∀ n, ∃ last ∈ units, last.id ∉ visitedIds visited ∧
      climb (snapshotParents units) n unit.id = some last.id := by
    intro n
    induction n with
    | zero => exact ⟨unit, hunit, hmissed, rfl⟩
    | succ n ih =>
      obtain ⟨last, hlast, hnot, hreach⟩ := ih
      obtain ⟨parent, hparent, hparentNot, hstep⟩ := habove last hlast hnot
      refine ⟨parent, hparent, hparentNot, ?_⟩
      rw [climb_add, hreach, Option.bind_some, climb_succ, hstep]
      rfl
  have hlisted : ∀ m ≤ units.length, ∃ id ∈ units.map SnapshotUnit.id,
      climb (snapshotParents units) m unit.id = some id := by
    intro m hm
    obtain ⟨last, hlast, -, hreach⟩ := hclimb m
    exact ⟨last.id, List.mem_map_of_mem hlast, hreach⟩
  have hshort := hacyclic.lt_length_of_climb hlisted
  rw [List.length_map] at hshort
  exact lt_irrefl _ hshort

/-- Without loops every unit has a row in the export. -/
theorem exists_export_row (hids : (units.map SnapshotUnit.id).Nodup)
    (hacyclic : Acyclic (snapshotParents units)) (centers : List SnapshotCenter) {unit : SnapshotUnit}
    (hunit : unit ∈ units) :
    ∃ depth, exportRow units centers unit depth ∈ orgChartExportRows env units centers := by
  obtain ⟨entry, hentry, hid⟩ := List.mem_map.mp (mem_visitedIds env hids hacyclic hunit)
  have hsame : entry.1 = unit :=
    List.inj_on_of_nodup_map hids ((exportWalk_visits env units _).1 entry hentry) hunit hid
  refine ⟨entry.2, ?_⟩
  rw [orgChartExportRows, ← hsame]
  exact List.mem_map_of_mem (f := fun entry => exportRow units centers entry.1 entry.2) hentry

end InternalControl.OrgChart
