import InternalControl.OrgChartPlanned

/-!
# Loops among the units of a plan

The check of a plan walks at most 64 steps from each unit of the file. It finds
every loop of at most 64 units and no longer one, so a plan without errors
leaves the units free of loops exactly when the parents the file asks for have
no longer loop.
-/

namespace InternalControl.OrgChart

open Text ParentMap

/-- The parent of each stored unit. -/
def snapshotParents (units : List SnapshotUnit) (id : RowId) : Option RowId :=
  ((unitById units).get? id).bind SnapshotUnit.parentId

/-- The parent of each unit after a plan. -/
def finalParents (units : List PlannedUnit) (key : PlanKey) : Option PlanKey :=
  (units.find? fun unit => unit.key = key).bind PlannedUnit.parentKey

variable (env : Runtime) (snapshot : OrgChartSnapshot) (input : OrgChartInput)

/-- The file asks to delete the unit, and no history keeps it. -/
def leavesForGood (unit : FinalUnit) : Bool :=
  unit.removal = some .delete && (historyOf snapshot unit.existingId).isNone

/-- The parent that the file asks for, of each unit that it does not delete: what
its row says, or the stored one. -/
def askedParents (key : PlanKey) : Option PlanKey :=
  (((rowedUnits env snapshot input).get? key).filter fun unit => !leavesForGood snapshot unit).bind
    fun unit => (planParentChoice env snapshot input
      (withHead env snapshot (planCenterRows env snapshot input).centers unit)).parentKey

/-- Every loop has at most a number of units. -/
def LoopsWithin (parents : PlanKey → Option PlanKey) (bound : ℕ) : Prop :=
  ∀ key, OnLoop parents key → ∃ n < bound, climb parents (n + 1) key = some key

variable {env snapshot input}

theorem placedUnit_parentKey (unit : FinalUnit) : (placedUnit env snapshot input unit).parentKey =
    (planParentChoice env snapshot input
      (withHead env snapshot (planCenterRows env snapshot input).centers unit)).parentKey := rfl

/-- A unit that passes the check of the leaving units is deleted when the file
asks for it and no history keeps it. -/
theorem PlanSound.deleted_iff (hsound : PlanSound env snapshot input) {unit : FinalUnit}
    (hunit : unit ∈ (rowedUnits env snapshot input).values) :
    (settledUnit env snapshot input unit).removal = some .delete ↔
      leavesForGood snapshot unit = true := by
  have hleaving := hsound.leaving unit hunit
  unfold leavesForGood
  rw [Bool.and_eq_true, decide_eq_true_eq, Option.isNone_iff_eq_none]
  by_cases hdelete : unit.removal = some .delete
  · -- the unit is in the file, and only its history is left to decide
    have hrow : ∃ rowNumber, unit.rowNumber = some rowNumber := by
      rcases rowedUnits_cases hunit with ⟨before, -, rfl⟩ | ⟨row, -, -, hby⟩
      · cases hdelete
      · exact ⟨_, hby.spec.1⟩
    obtain ⟨rowNumber, hnumber⟩ := hrow
    have hlive : isLiveUnit (placedUnit env snapshot input unit) = false := by
      rw [isLiveUnit_placedUnit, isLiveUnit, hdelete]
      simp
    have hplaced : (placedUnit env snapshot input unit).removal = some .delete := hdelete
    unfold settledUnit
    unfold settleUnit at hleaving ⊢
    rw [placedUnit_rowNumber, hnumber] at hleaving ⊢
    dsimp only at hleaving ⊢
    rw [hlive, if_neg Bool.false_ne_true] at hleaving ⊢
    have hchecked : ¬(!(storedUnit snapshot (placedUnit env snapshot input unit)).any
        SnapshotUnit.isActive && decide ((placedUnit env snapshot input unit).removal ≠
          some RowAction.delete)) = true := by
      rw [hplaced]
      simp
    rw [if_neg hchecked] at hleaving ⊢
    split at hleaving
    · simp at hleaving
    · next hempty =>
      rw [if_neg hempty, hplaced, placedUnit_existingId]
      cases historyOf snapshot unit.existingId with
      | none => simp [hdelete]
      | some history => simp
  · constructor
    · intro hsettled
      rcases settledUnit_cases env snapshot input unit with hplain | ⟨hremoval, -⟩
      · rw [hplain] at hsettled
        exact absurd hsettled hdelete
      · exact absurd hremoval hdelete
    · intro h
      exact absurd h.1 hdelete

/-- The units after a plan have different keys, so each is found under its own. -/
theorem finalUnit_unique {first second : PlannedUnit} (hfirst : first ∈ finalUnits env snapshot input)
    (hsecond : second ∈ finalUnits env snapshot input) (hkey : first.key = second.key) :
    first = second := by
  obtain ⟨unit, hunit, -, rfl⟩ := mem_finalUnits.mp hfirst
  obtain ⟨other, hother, -, rfl⟩ := mem_finalUnits.mp hsecond
  have hsame : unit.key = other.key := by
    have hunitKey := (settledUnit_identity env snapshot input unit).1
    have hotherKey := (settledUnit_identity env snapshot input other).1
    rw [← hunitKey, ← hotherKey]
    exact hkey
  have hget := get?_rowedUnits_iff.mpr ⟨hunit, hsame⟩
  rw [get?_rowedUnits_iff.mpr ⟨hother, rfl⟩] at hget
  rw [Option.some.inj hget]

/-- After a plan without errors the parents are the ones the file asks for. -/
theorem PlanSound.finalParents_eq (hsound : PlanSound env snapshot input) :
    finalParents (finalUnits env snapshot input) = askedParents env snapshot input := by
  funext key
  unfold finalParents askedParents
  cases hfind : (finalUnits env snapshot input).find? fun unit => decide (unit.key = key) with
  | some planned =>
    obtain ⟨unit, hunit, hkept, hplanned⟩ :=
      mem_finalUnits.mp (List.mem_of_find?_eq_some hfind)
    have hkey : unit.key = key := by
      have hfound := List.find?_some hfind
      rw [decide_eq_true_eq, hplanned] at hfound
      rw [← (settledUnit_identity env snapshot input unit).1]
      exact hfound
    have hstays : leavesForGood snapshot unit = false := by
      rw [← Bool.not_eq_true, ← hsound.deleted_iff hunit]
      exact hkept
    have hplain : settledUnit env snapshot input unit = placedUnit env snapshot input unit ∨
        (settledUnit env snapshot input unit).parentKey =
          (placedUnit env snapshot input unit).parentKey := by
      rcases settledUnit_cases env snapshot input unit with hsame | ⟨-, harchived⟩
      · exact Or.inl hsame
      · exact Or.inr (by rw [harchived])
    have hparent : planned.parentKey = (placedUnit env snapshot input unit).parentKey := by
      rw [hplanned]
      rcases hplain with hsame | hsame
      · rw [hsame]
        rfl
      · exact hsame
    rw [get?_rowedUnits_iff.mpr ⟨hunit, hkey⟩, Option.filter_some, hstays, Option.bind_some, hparent]
    rfl
  | none =>
    rw [Option.bind_none]
    symm
    rw [Option.bind_eq_none_iff]
    intro unit hunit
    obtain ⟨hget, hstays⟩ := Option.filter_eq_some_iff.mp hunit
    obtain ⟨hmem, hkey⟩ := get?_rowedUnits_iff.mp hget
    have hkept : (settledUnit env snapshot input unit).removal ≠ some .delete := by
      intro hdelete
      rw [(hsound.deleted_iff hmem).mp hdelete] at hstays
      cases hstays
    have hfinal := mem_finalUnits.mpr ⟨unit, hmem, hkept, rfl⟩
    have hnone := List.find?_eq_none.mp hfind _ hfinal
    refine absurd (decide_eq_true ?_) hnone
    rw [← hkey, ← (settledUnit_identity env snapshot input unit).1]
    rfl

/-- A parent that the file asks for is a unit of the plan on every loop. -/
theorem parentMap_of_askedParents {key parent : PlanKey}
    (h : askedParents env snapshot input key = some parent)
    (hparent : (askedParents env snapshot input parent).isSome = true) :
    parentMap (placedUnits env snapshot input) key = some parent := by
  obtain ⟨unit, hunit, hkey⟩ := Option.bind_eq_some_iff.mp h
  obtain ⟨other, hother⟩ := Option.isSome_iff_exists.mp hparent
  obtain ⟨above, habove, -⟩ := Option.bind_eq_some_iff.mp hother
  have hhas : (placedUnits env snapshot input).has parent = true := by
    rw [KeyedMap.has, get?_placedUnits, (Option.filter_eq_some_iff.mp habove).1]
    rfl
  rw [parentMap, get?_placedUnits, (Option.filter_eq_some_iff.mp hunit).1, Option.map_some,
    Option.bind_some, placedUnit_parentKey, hkey, Option.filter_some, hhas]
  rfl

/-- A return along the asked parents is a return in the plan. -/
theorem climb_parentMap {key : PlanKey} {n : ℕ} (hloop : OnLoop (askedParents env snapshot input) key)
    {target : PlanKey} (h : climb (askedParents env snapshot input) n key = some target) :
    climb (parentMap (placedUnits env snapshot input)) n key = some target := by
  induction n generalizing key with
  | zero => exact h
  | succ n ih =>
    rw [climb_succ] at h ⊢
    obtain ⟨parent, hparent, hrest⟩ := Option.bind_eq_some_iff.mp h
    have hnext : OnLoop (askedParents env snapshot input) parent :=
      hloop.of_reaches (Relation.ReflTransGen.single hparent)
    obtain ⟨above, habove, -⟩ := Relation.TransGen.head'_iff.mp hnext
    have hsome : (askedParents env snapshot input parent).isSome = true := by
      rw [show askedParents env snapshot input parent = some above from habove]
      rfl
    rw [parentMap_of_askedParents hparent hsome, Option.bind_some]
    exact ih hnext hrest

/-- A unit of the file on a loop of at most 64 units is reported. -/
theorem PlanSound.no_short_loop (hsound : PlanSound env snapshot input) {unit : FinalUnit}
    (hunit : unit ∈ (rowedUnits env snapshot input).values) {rowNumber : ℕ}
    (hrow : unit.rowNumber = some rowNumber)
    (hloop : OnLoop (askedParents env snapshot input) unit.key) {n : ℕ} (hn : n < maxDepth) :
    climb (askedParents env snapshot input) (n + 1) unit.key ≠ some unit.key := by
  intro hclimb
  have hplaced := climb_parentMap hloop hclimb
  have hcyclic : isCyclic (placedUnits env snapshot input) (placedUnit env snapshot input unit) = true := by
    rw [isCyclic, meetsWithin_iff]
    refine ⟨n, hn, ?_⟩
    rw [climb_succ] at hplaced
    have hstart : parentMap (placedUnits env snapshot input) unit.key =
        (placedUnit env snapshot input unit).parentKey.filter (placedUnits env snapshot input).has := by
      rw [parentMap, get?_placedUnits, get?_rowedUnits_iff.mpr ⟨hunit, rfl⟩, Option.map_some,
        Option.bind_some]
    rw [← hstart]
    exact hplaced
  have hnotices := hsound.loops unit hunit
  rw [cyclicNotices, placedUnit_rowNumber, hrow] at hnotices
  dsimp only at hnotices
  rw [if_pos hcyclic] at hnotices
  cases hnotices

/-- A loop that no row touches was there before. -/
theorem onLoop_snapshotParents {key : PlanKey}
    (hloop : OnLoop (askedParents env snapshot input) key)
    (hold : ∀ other, Reaches (askedParents env snapshot input) key other →
      ∃ before ∈ snapshot.units, (rowedUnits env snapshot input).get? other =
        some (.ofSnapshot before)) :
    ∃ id, OnLoop (snapshotParents snapshot.units) id := by
  have hkey : ∀ other, Reaches (askedParents env snapshot input) key other →
      ∃ id, other = .stored id ∧ ∀ parent, askedParents env snapshot input other = some parent →
        ∃ above, parent = .stored above ∧ snapshotParents snapshot.units id = some above := by
    intro other hreach
    obtain ⟨before, hbefore, hget⟩ := hold other hreach
    have hother : other = .stored before.id := (get?_rowedUnits_iff.mp hget).2.symm
    refine ⟨before.id, hother, fun parent hparent => ?_⟩
    rw [askedParents, hget] at hparent
    have hstored : before.parentId.map PlanKey.stored = some parent := hparent
    obtain ⟨above, habove, rfl⟩ := Option.map_eq_some_iff.mp hstored
    refine ⟨above, rfl, ?_⟩
    rw [snapshotParents, get?_unitById hbefore]
    exact habove
  have hclimb : ∀ n other, Reaches (askedParents env snapshot input) key other → ∀ id,
      other = .stored id → ∀ target, climb (askedParents env snapshot input) n other = some target →
        ∃ last, target = .stored last ∧ climb (snapshotParents snapshot.units) n id = some last := by
    intro n
    induction n with
    | zero =>
      intro other _ id hid target htarget
      have hsame : other = target := Option.some.inj htarget
      exact ⟨id, by rw [← hsame, hid], rfl⟩
    | succ n ih =>
      intro other hreach id hid target htarget
      rw [climb_succ] at htarget
      obtain ⟨parent, hparent, hrest⟩ := Option.bind_eq_some_iff.mp htarget
      obtain ⟨found, hfound, hup⟩ := hkey other hreach
      have hsame : found = id := PlanKey.stored.inj (hfound.symm.trans hid)
      obtain ⟨above, habove, hstored⟩ := hup parent hparent
      have hnext := hreach.tail hparent
      obtain ⟨last, hlast, hrestStored⟩ := ih parent hnext above habove target hrest
      refine ⟨last, hlast, ?_⟩
      rw [climb_succ, ← hsame, hstored, Option.bind_some, hrestStored]
  obtain ⟨n, hn⟩ := (onLoop_iff_climb _ _).mp hloop
  obtain ⟨id, hid, -⟩ := hkey key Relation.ReflTransGen.refl
  obtain ⟨last, hlast, hback⟩ := hclimb (n + 1) key Relation.ReflTransGen.refl id hid key hn
  have hsame : last = id := PlanKey.stored.inj (hlast.symm.trans hid)
  exact ⟨id, (onLoop_iff_climb _ _).mpr ⟨n, hsame ▸ hback⟩⟩

/-- A plan without errors over units free of loops leaves them free of loops
exactly when the parents the file asks for join no more than 64 units in a loop. -/
theorem finalParents_acyclic_iff (env : Runtime) (snapshot : OrgChartSnapshot)
    (input : OrgChartInput) (hsnapshot : Acyclic (snapshotParents snapshot.units))
    (herrors : (planOrgChart env snapshot input).errors = []) :
    Acyclic (finalParents (finalUnits env snapshot input)) ↔
      LoopsWithin (askedParents env snapshot input) maxDepth := by
  have hsound := planSound herrors
  rw [hsound.finalParents_eq]
  constructor
  · exact fun hacyclic key hloop => absurd hloop (hacyclic key)
  · intro hshort key hloop
    by_cases hold : ∀ other, Reaches (askedParents env snapshot input) key other →
        ∃ before ∈ snapshot.units, (rowedUnits env snapshot input).get? other =
          some (.ofSnapshot before)
    · obtain ⟨id, hstored⟩ := onLoop_snapshotParents hloop hold
      exact hsnapshot id hstored
    · -- some unit of the loop is in the file, and the check starts from it
      simp only [not_forall] at hold
      obtain ⟨other, hreach, hnone⟩ := hold
      have hother := hloop.of_reaches hreach
      obtain ⟨parent, hparent, -⟩ := Relation.TransGen.head'_iff.mp hother
      obtain ⟨unit, hunit, -⟩ := Option.bind_eq_some_iff.mp hparent
      have hget := (Option.filter_eq_some_iff.mp hunit).1
      obtain ⟨hmem, hkey⟩ := get?_rowedUnits_iff.mp hget
      rcases rowedUnits_cases hmem with ⟨before, hbefore, hsame⟩ | ⟨row, -, -, hby⟩
      · exact hnone ⟨before, hbefore, hsame ▸ hget⟩
      · subst hkey
        obtain ⟨n, hn, hclimb⟩ := hshort unit.key hother
        exact hsound.no_short_loop hmem hby.spec.1 hother hn hclimb

/-! ### A loop that is too long to be found -/

section LongLoop

/-- The n-th text of a chain of units. -/
def chainText (n : ℕ) : String := String.singleton (Char.ofNat (65 + n))

/-- The n-th id of a chain of units. -/
def chainId (n : ℕ) : RowId := ⟨chainText n, by simp [chainText]⟩

/-- A unit below the one before it; the last of 65 has the prefix 9. -/
def chainUnit (n : ℕ) : SnapshotUnit :=
  { id := chainId n
    code := chainText n
    name := chainText n
    unitType := .office
    parentId := if n = 0 then none else some (chainId (n - 1))
    relationType := .authority
    headCostCenterId := none
    headCostCenterCode := none
    codePrefix := if n = 64 then some "9" else none
    isActive := true
    color := none }

theorem nodup_chainId : ((List.range 65).map chainId).Nodup := by decide +kernel

/-- A chain of 65 units, each below the one before. -/
def chainSnapshot : OrgChartSnapshot where
  units := (List.range 65).map chainUnit
  centers := []
  removal := .empty
  unitIds := by
    rw [List.map_map]
    exact nodup_chainId
  centerIds := List.nodup_nil

/-- A row that puts the first unit of the chain under the last one. -/
def chainRow : UnitRowInput :=
  { rowNumber := 2
    codePrefix := none
    name := some (chainText 0)
    type := none
    parent := some "9"
    relation := none
    headCenter := none
    color := none
    status := none
    action := none
    code := some (chainText 0) }

/-- The file with rows on the sheet of units and nothing else. -/
def unitsFile (rows : List UnitRowInput) : OrgChartInput :=
  { units := rows
    centers := []
    hasUnitSheet := true
    hasCenterSheet := false
    ignoredCenterSheet := false
    stamp := none
    invalidStamp := false
    fileCreatedAt := none }

/-- The digest does not matter to a plan's units. -/
def blindRuntime : Runtime := .ascii (.ofTable [] (by simp))

theorem chain_plan : (planOrgChart blindRuntime chainSnapshot (unitsFile [chainRow])).errors = [] ∧
    (askedParents blindRuntime chainSnapshot (unitsFile [chainRow]) (.stored (chainId 0)) =
      some (.stored (chainId 64))) ∧
    rowExisting blindRuntime.unicode chainRow chainSnapshot.units = some (chainUnit 0) := by
  decide +kernel

/-- The chain has no loop: every parent comes earlier. -/
theorem chain_acyclic : Acyclic (snapshotParents chainSnapshot.units) := by
  have hindex : ∀ m < 65, ∀ n < 65, chainId m = chainId n → m = n := by
    intro m hm n hn hsame
    exact List.inj_on_of_nodup_map nodup_chainId (List.mem_range.mpr hm) (List.mem_range.mpr hn) hsame
  have hparent : ∀ a b, snapshotParents chainSnapshot.units a = some b →
      ∃ n < 64, a = chainId (n + 1) ∧ b = chainId n := by
    intro a b hab
    obtain ⟨unit, hunit, hup⟩ := Option.bind_eq_some_iff.mp hab
    obtain ⟨hmem, hid⟩ := KeyedMap.mem_of_get?_index hunit
    obtain ⟨n, hn, rfl⟩ := List.mem_map.mp hmem
    rw [List.mem_range] at hn
    cases n with
    | zero => cases hup
    | succ n => exact ⟨n, Nat.lt_of_succ_lt_succ hn, hid.symm, (Option.some.inj hup).symm⟩
  classical
  -- the rank of an id is its number in the chain
  refine acyclic_of_rank (fun id => ((List.range 65).map chainId).idxOf id) fun a b hab => ?_
  obtain ⟨n, hn, rfl, rfl⟩ := hparent a b hab
  have hrank : ∀ m < 65, ((List.range 65).map chainId).idxOf (chainId m) = m := by
    intro m hm
    have hget : ((List.range 65).map chainId)[m]? = some (chainId m) := by
      rw [List.getElem?_map, List.getElem?_range hm]
      rfl
    have hlt : m < ((List.range 65).map chainId).length := by
      rw [List.length_map, List.length_range]
      exact hm
    have hgetElem := nodup_chainId.idxOf_getElem m hlt
    rw [List.getElem_map, List.getElem_range] at hgetElem
    exact hgetElem
  rw [hrank n (by omega), hrank (n + 1) (by omega)]
  exact Nat.lt_succ_self n

/-- The file leaves the other units of the chain where they are. -/
theorem chain_askedParents {n : ℕ} (hn : n < 64) :
    askedParents blindRuntime chainSnapshot (unitsFile [chainRow]) (.stored (chainId (n + 1))) =
      some (.stored (chainId n)) := by
  have hunit : chainUnit (n + 1) ∈ chainSnapshot.units :=
    List.mem_map_of_mem (List.mem_range.mpr (by omega))
  obtain ⟨unit, hget⟩ := exists_rowedUnits blindRuntime (unitsFile [chainRow]) hunit
  obtain ⟨hmem, hkey⟩ := get?_rowedUnits_iff.mp hget
  have hother : ∀ before ∈ chainSnapshot.units, PlanKey.stored before.id =
      PlanKey.stored (chainUnit (n + 1)).id → before = chainUnit (n + 1) := by
    intro before hbefore hsame
    exact List.inj_on_of_nodup_map chainSnapshot.unitIds hbefore hunit (PlanKey.stored.inj hsame)
  rcases rowedUnits_cases hmem with ⟨before, hbefore, rfl⟩ | ⟨row, hrow, -, hby⟩
  · have hbefore' : before = chainUnit (n + 1) := hother before hbefore hkey
    have hasked : askedParents blindRuntime chainSnapshot (unitsFile [chainRow])
        (.stored (chainId (n + 1))) = before.parentId.map PlanKey.stored := by
      rw [askedParents, show chainId (n + 1) = (chainUnit (n + 1)).id from rfl, hget]
      rfl
    rw [hasked, hbefore']
    rfl
  · -- the only row is about the first unit
    have hchain : row = chainRow := List.mem_singleton.mp hrow
    subst hchain
    rcases hby with ⟨before, hbefore, hexisting, hsame⟩ | ⟨hexisting, -⟩
    · rw [chain_plan.2.2] at hexisting
      have hfirst : before = chainUnit (n + 1) := hother before hbefore (by rw [← hkey, hsame]; rfl)
      rw [← Option.some.inj hexisting] at hfirst
      have hzero : chainId 0 = chainId (n + 1) := congrArg SnapshotUnit.id hfirst
      have hindex := List.inj_on_of_nodup_map nodup_chainId (List.mem_range.mpr (by omega : 0 < 65))
        (List.mem_range.mpr (by omega : n + 1 < 65)) hzero
      cases hindex
    · rw [chain_plan.2.2] at hexisting
      cases hexisting

/-- A loop of 65 units passes the checks. -/
theorem long_loop_is_accepted : ∃ env snapshot input,
    Acyclic (snapshotParents snapshot.units) ∧ (planOrgChart env snapshot input).errors = [] ∧
      ¬Acyclic (finalParents (finalUnits env snapshot input)) := by
  refine ⟨blindRuntime, chainSnapshot, unitsFile [chainRow], chain_acyclic, chain_plan.1,
    fun hacyclic => ?_⟩
  rw [(planSound chain_plan.1).finalParents_eq] at hacyclic
  have hdown : ∀ n ≤ 64, Reaches (askedParents blindRuntime chainSnapshot (unitsFile [chainRow]))
      (.stored (chainId n)) (.stored (chainId 0)) := by
    intro n
    induction n with
    | zero => exact fun _ => Relation.ReflTransGen.refl
    | succ n ih =>
      intro hn
      exact Relation.ReflTransGen.head (chain_askedParents hn) (ih (by omega))
  refine hacyclic (.stored (chainId 0)) ?_
  exact Relation.TransGen.head' chain_plan.2.1 (hdown 64 (by omega))

/-- The chain under itself: what it asks for decides what it ends with. -/
theorem finalParents_acyclic_iff_chain :
    Acyclic (finalParents (finalUnits blindRuntime chainSnapshot (unitsFile [chainRow]))) ↔
      LoopsWithin (askedParents blindRuntime chainSnapshot (unitsFile [chainRow])) maxDepth :=
  finalParents_acyclic_iff blindRuntime chainSnapshot (unitsFile [chainRow]) chain_acyclic
    chain_plan.1

end LongLoop

end InternalControl.OrgChart
