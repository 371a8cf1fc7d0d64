import InternalControl.CostCenterPlacements
import InternalControl.Fallible
import Mathlib.Logic.Relation

/-!
# Runs of placements

The placements of a centre, over any number of steps of those who create, place,
edit and remove centres, with any clock. Every step but one keeps them a
partition of time that the row of the centre mirrors; a change keeps it exactly
when the start of the open placement passes through the driver unchanged, or is
not after the clock.
-/

namespace InternalControl.CostCenterPlacements

open Fallible

/-- What a run does next. -/
inductive Action where
  /-- A transaction inserts a centre. -/
  | created (center : CostCenter)
  /-- The import links a centre that it has inserted and not opened yet. -/
  | linked (costCenterId : Uuid) (parentId : Option Uuid)
  | opened (costCenterId : Uuid) (context : PlacementContext) (placementId : Uuid)
  | openedMany (costCenterIds : List Uuid) (context : PlacementContext)
      (placementIds : Uuid → Uuid)
  | committed (costCenterId placementId : Uuid)
  | changed (reads : Reads) (costCenterId : Uuid) (patch : PlacementPatch)
      (context : PlacementContext) (now : Date) (placementId : Uuid)
  /-- Columns that are not placed are written. -/
  | edited (costCenterId : Uuid) (externalCode : String) (acceptsAssets : Bool)
  | removed (costCenterId : Uuid)

/-- The placements of a centre, in the order they were inserted. -/
def placementsOf (placements : Placements) (costCenterId : Uuid) : List Placement :=
  placements.rows.filter fun placement => placement.costCenterId = costCenterId

/-- One step, when it is not refused. -/
def next (system : System) : Action → Except ApiException System
  | .created center =>
    match system.centers.insert center with
    | some centers =>
      .ok { system with centers := centers, creating := center.id :: system.creating }
    | none => .error { code := .internal }
  | .linked costCenterId parentId =>
    if placementsOf system.placements costCenterId = [] then
      .ok { system with
        centers := system.centers.update (fun center => center.id = costCenterId)
          (fun center => { center with state.parentId := parentId }) fun _ => rfl }
    else .error { code := .internal }
  | .opened costCenterId context placementId => open_ system costCenterId context placementId
  | .openedMany costCenterIds context placementIds =>
    openMany system costCenterIds context placementIds
  | .committed costCenterId placementId => commitCenter system costCenterId placementId
  | .changed reads costCenterId patch context now placementId =>
    (change system reads costCenterId patch context now placementId).map Prod.fst
  | .edited costCenterId externalCode acceptsAssets =>
    .ok { system with
      centers := system.centers.update (fun center => center.id = costCenterId)
        (fun center => { center with
          externalCode := externalCode, acceptsAssets := acceptsAssets }) fun _ => rfl }
  | .removed costCenterId =>
    .ok { system with
      centers := system.centers.filter (fun center => center.id ≠ costCenterId)
      placements := system.placements.filter
        (fun placement => placement.costCenterId ≠ costCenterId) }

/-- No centre, and no placement. -/
def System.start : System := ⟨Table.empty, Table.empty, []⟩

/-- Placements that follow one another, the open one of which says where a row says its
centre belongs. -/
structure Partitioned (entries : List Placement) (state : PlacementState) : Prop where
  contiguous : ∃ first,
    Timeline.Contiguous Placement.validFrom Placement.validUntil first entries
  mirrored : ∀ placement ∈ entries, placement.validUntil = none → placement.state = state

/-- One placement is open. -/
theorem Partitioned.countP_open {entries : List Placement} {state : PlacementState}
    (h : Partitioned entries state) :
    entries.countP (fun placement => placement.validUntil = none) = 1 := by
  obtain ⟨first, hfirst⟩ := h.contiguous
  exact hfirst.countP_open

/-- No instant has two placements. -/
theorem Partitioned.countP_validAt {entries : List Placement} {state : PlacementState}
    (h : Partitioned entries state) (time : Timestamp) :
    entries.countP (fun placement => validAt placement time) ≤ 1 := by
  obtain ⟨first, hfirst⟩ := h.contiguous
  calc _ = if first ≤ time then 1 else 0 := hfirst.countP_covers time
    _ ≤ 1 := by split <;> omega

/-- The placements are those of centres, and the centres that have one are partitioned. -/
structure Kept (system : System) : Prop where
  owned : ∀ placement ∈ system.placements.rows,
    ∃ center ∈ system.centers.rows, center.id = placement.costCenterId
  partitioned : ∀ center ∈ system.centers.rows,
    placementsOf system.placements center.id ≠ [] →
      Partitioned (placementsOf system.placements center.id) center.state

/-- Besides, the centres that are committed have a placement. -/
structure Sound (system : System) : Prop extends Kept system where
  opened : ∀ center ∈ system.centers.rows, center.id ∉ system.creating →
    placementsOf system.placements center.id ≠ []

theorem Sound.start : Sound .start where
  owned := by simp [System.start, Table.empty]
  partitioned := by simp [System.start, Table.empty]
  opened := by simp [System.start, Table.empty]

section Rows

variable {placements after : Placements} {placement : Placement} {costCenterId : Uuid}

theorem mem_placementsOf :
    placement ∈ placementsOf placements costCenterId ↔
      placement ∈ placements.rows ∧ placement.costCenterId = costCenterId := by
  unfold placementsOf
  simp

theorem insertPlacement_eq_ok (h : insertPlacement placements placement = .ok after) :
    (∀ other ∈ placements.rows, ¬placement.Conflicts other) ∧
      after.rows = placements.rows ++ [placement] := by
  unfold insertPlacement at h
  split at h
  · next hallowed =>
    split at h
    · next inserted hinsert =>
      cases h
      exact ⟨hallowed.2, (Table.insert_eq_some hinsert).2⟩
    · cases h
  · cases h

/-- The placement that is inserted is the last of its centre. -/
theorem placementsOf_insert (h : after.rows = placements.rows ++ [placement])
    (costCenterId : Uuid) : placementsOf after costCenterId = placementsOf placements costCenterId ++
      if placement.costCenterId = costCenterId then [placement] else [] := by
  unfold placementsOf
  rw [h, List.filter_append]
  split
  · next heq => simp [heq]
  · next hne => simp [hne]

/-- The open placement is one of the centre. -/
theorem openPlacement_eq_some (h : openPlacement placements costCenterId = some placement) :
    placement ∈ placementsOf placements costCenterId ∧ placement.validUntil = none := by
  unfold openPlacement at h
  have hfound : placement.costCenterId = costCenterId ∧ placement.validUntil = none := by
    simpa using List.find?_some h
  exact ⟨mem_placementsOf.mpr ⟨List.mem_of_find?_eq_some h, hfound.1⟩, hfound.2⟩

/-- A placement, closed if it was open. -/
def closing (now : Date) (placement : Placement) : Placement :=
  if placement.validUntil = none then
    { placement with validUntil := some (closedAt now placement) }
  else placement

theorem closing_validUntil (now : Date) (placement : Placement) :
    (closing now placement).validUntil ≠ none := by
  unfold closing
  split
  · simp
  · next hclosed => exact hclosed

theorem closing_costCenterId (now : Date) (placement : Placement) :
    (closing now placement).costCenterId = placement.costCenterId := by
  unfold closing
  split <;> rfl

/-- The placements of a centre after those of a centre are closed. -/
theorem placementsOf_close (now : Date) (other : Uuid) :
    placementsOf (close placements costCenterId now) other =
      (placementsOf placements other).map fun placement =>
        if placement.costCenterId = costCenterId then closing now placement else placement := by
  have hrows : (close placements costCenterId now).rows = placements.rows.map fun placement =>
      if placement.costCenterId = costCenterId then closing now placement else placement := by
    refine List.map_congr_left fun placement _ => ?_
    unfold closing
    by_cases howner : placement.costCenterId = costCenterId <;> simp [howner]
  unfold placementsOf
  rw [hrows, List.filter_map]
  congr 1
  refine List.filter_congr fun placement _ => ?_
  have hsame : (if placement.costCenterId = costCenterId then closing now placement
      else placement).costCenterId = placement.costCenterId := by
    split
    · exact closing_costCenterId now placement
    · rfl
  simp only [Function.comp_apply, hsame]

theorem placementsOf_close_self (now : Date) :
    placementsOf (close placements costCenterId now) costCenterId =
      (placementsOf placements costCenterId).map (closing now) := by
  rw [placementsOf_close]
  refine List.map_congr_left fun placement hplacement => ?_
  rw [if_pos (mem_placementsOf.mp hplacement).2]

theorem placementsOf_close_of_ne {other : Uuid} (now : Date) (hne : other ≠ costCenterId) :
    placementsOf (close placements costCenterId now) other = placementsOf placements other := by
  rw [placementsOf_close]
  refine (List.map_congr_left fun placement hplacement => ?_).trans (List.map_id _)
  have howner := (mem_placementsOf.mp hplacement).2
  rw [if_neg fun h => hne (howner.symm.trans h)]
  rfl

end Rows

section Steps

variable {system after : System} {costCenterId : Uuid}

/-- A centre without a placement gets its first one. -/
theorem Kept.first (h : Kept system) {center : CostCenter} (hcenter : center ∈ system.centers.rows)
    (hnone : placementsOf system.placements center.id = []) {placement : Placement}
    {placements : Placements} (hcenterId : placement.costCenterId = center.id)
    (hstate : placement.state = center.state) (hopen : placement.validUntil = none)
    (hrows : placements.rows = system.placements.rows ++ [placement]) :
    Kept { system with placements := placements } := by
  constructor
  · intro other hother
    change other ∈ placements.rows at hother
    rw [hrows, List.mem_append, List.mem_singleton] at hother
    rcases hother with hold | rfl
    · exact h.owned other hold
    · exact ⟨center, hcenter, hcenterId.symm⟩
  · intro other hother hsome
    change placementsOf placements other.id ≠ [] at hsome
    change Partitioned (placementsOf placements other.id) other.state
    have hplacements := placementsOf_insert hrows other.id
    by_cases hsame : other.id = center.id
    · have heq : other = center :=
        List.inj_on_of_nodup_map system.centers.nodup hother hcenter hsame
      subst heq
      rw [hnone, if_pos hcenterId, List.nil_append] at hplacements
      rw [hplacements]
      constructor
      · exact ⟨placement.validFrom, .last placement hopen⟩
      · intro entry hentry _
        rw [List.mem_singleton.mp hentry, hstate]
    · rw [if_neg fun heq => hsame (heq.symm.trans hcenterId), List.append_nil] at hplacements
      rw [hplacements] at hsome ⊢
      exact h.partitioned other hother hsome

/-- The first placement of a centre that has some is refused. -/
theorem Kept.placementsOf_eq_nil (h : Kept system) {center : CostCenter}
    (hcenter : center ∈ system.centers.rows) {context : PlacementContext} {placementId : Uuid}
    {placements : Placements}
    (hinsert : insertPlacement system.placements (initialPlacement center context placementId) =
      .ok placements) : placementsOf system.placements center.id = [] := by
  by_contra hsome
  have hcount := (h.partitioned center hcenter hsome).countP_open
  have hpos : 0 < (placementsOf system.placements center.id).countP fun placement =>
      placement.validUntil = none := by omega
  obtain ⟨current, hcurrent, hopen⟩ := List.countP_pos_iff.mp hpos
  have hmem := mem_placementsOf.mp hcurrent
  exact (insertPlacement_eq_ok hinsert).1 current hmem.1
    ⟨hmem.2.symm, .inl ⟨rfl, of_decide_eq_true hopen⟩⟩

/-- Opening the placement of a centre keeps those of all. -/
theorem Kept.initial (h : Kept system) {center : CostCenter}
    (hcenter : center ∈ system.centers.rows) {context : PlacementContext} {placementId : Uuid}
    {placements : Placements}
    (hinsert : insertPlacement system.placements (initialPlacement center context placementId) =
      .ok placements) : Kept { system with placements := placements } :=
  h.first hcenter (h.placementsOf_eq_nil hcenter hinsert) rfl rfl rfl
    (insertPlacement_eq_ok hinsert).2

/-- A centre that has a placement keeps one when others are inserted. -/
theorem placementsOf_ne_nil {placements inserted : Placements} {added : List Placement}
    (hrows : inserted.rows = placements.rows ++ added)
    (h : placementsOf placements costCenterId ≠ []) :
    placementsOf inserted costCenterId ≠ [] := by
  obtain ⟨placement, hplacement⟩ := List.exists_mem_of_ne_nil _ h
  refine List.ne_nil_of_mem (a := placement) (mem_placementsOf.mpr ?_)
  have hold := mem_placementsOf.mp hplacement
  exact ⟨hrows ▸ List.mem_append_left _ hold.1, hold.2⟩

theorem open_eq_ok {context : PlacementContext} {placementId : Uuid}
    (h : open_ system costCenterId context placementId = .ok after) :
    ∃ center placements, system.centers.find? costCenterId = some center ∧
      insertPlacement system.placements (initialPlacement center context placementId) =
        .ok placements ∧ after = { system with placements := placements } := by
  unfold open_ at h
  cases hfound : system.centers.find? costCenterId with
  | none =>
    rw [hfound] at h
    cases h
  | some center =>
    rw [hfound] at h
    obtain ⟨placements, hinsert, hreturn⟩ := bind_eq_ok h
    cases hreturn
    exact ⟨center, placements, rfl, hinsert, rfl⟩

theorem Kept.open_ (h : Kept system) {context : PlacementContext} {placementId : Uuid}
    (hopen : open_ system costCenterId context placementId = .ok after) : Kept after := by
  obtain ⟨center, placements, hfound, hinsert, rfl⟩ := open_eq_ok hopen
  exact h.initial (Table.mem_of_find? hfound) hinsert

theorem Sound.open_ (h : Sound system) {context : PlacementContext} {placementId : Uuid}
    (hopen : open_ system costCenterId context placementId = .ok after) : Sound after := by
  refine ⟨h.toKept.open_ hopen, ?_⟩
  obtain ⟨center, placements, hfound, hinsert, rfl⟩ := open_eq_ok hopen
  intro other hother hcommitted
  exact placementsOf_ne_nil (insertPlacement_eq_ok hinsert).2
    (h.opened other hother hcommitted)

theorem Sound.openMany (h : Sound system) {costCenterIds : List Uuid}
    {context : PlacementContext} {placementIds : Uuid → Uuid}
    (hopen : openMany system costCenterIds context placementIds = .ok after) : Sound after := by
  unfold CostCenterPlacements.openMany at hopen
  obtain ⟨placements, hloop, hreturn⟩ := bind_eq_ok hopen
  cases hreturn
  refine foldlM_invariant (fun placements => Sound { system with placements := placements })
    h ?_ hloop
  intro current center hcenter next hcurrent hinsert
  have hmem : center ∈ system.centers.rows := (List.mem_filter.mp hcenter).1
  refine ⟨hcurrent.toKept.initial hmem hinsert, ?_⟩
  intro other hother hcommitted
  exact placementsOf_ne_nil (insertPlacement_eq_ok hinsert).2
    (hcurrent.opened other hother hcommitted)

/-- The transaction that creates a centre leaves it with a placement. -/
theorem Sound.commitCenter (h : Sound system) {placementId : Uuid}
    (hcommit : commitCenter system costCenterId placementId = .ok after) : Sound after := by
  have hcommitted : Kept { system with creating := system.creating.filter (· ≠ costCenterId) } :=
    ⟨h.owned, h.partitioned⟩
  have hother : ∀ center ∈ system.centers.rows, center.id ≠ costCenterId →
      center.id ∉ system.creating.filter (· ≠ costCenterId) →
      placementsOf system.placements center.id ≠ [] := by
    intro center hcenter hne hnot
    refine h.opened center hcenter fun hcreating => hnot ?_
    exact List.mem_filter.mpr ⟨hcreating, decide_eq_true hne⟩
  unfold CostCenterPlacements.commitCenter at hcommit
  simp only at hcommit
  split at hcommit
  · next hplaced =>
    cases hcommit
    refine ⟨hcommitted, fun center hcenter hnot => ?_⟩
    by_cases hid : center.id = costCenterId
    · obtain ⟨placement, hplacement, howner⟩ := hplaced
      exact List.ne_nil_of_mem (mem_placementsOf.mpr ⟨hplacement, howner.trans hid.symm⟩)
    · exact hother center hcenter hid hnot
  · cases hfound : system.centers.find? costCenterId with
    | none =>
      rw [hfound] at hcommit
      cases hcommit
      refine ⟨hcommitted, fun center hcenter hnot => hother center hcenter (fun hid => ?_) hnot⟩
      have hsome := Table.find?_of_mem hcenter
      rw [hid, hfound] at hsome
      cases hsome
    | some center =>
      rw [hfound] at hcommit
      refine ⟨hcommitted.open_ hcommit, ?_⟩
      obtain ⟨opening, placements, hopening, hinsert, rfl⟩ := open_eq_ok hcommit
      intro other hmem hnot
      have hrows := (insertPlacement_eq_ok hinsert).2
      by_cases hid : other.id = costCenterId
      · have howner : opening.id = costCenterId := Table.key_of_find? hopening
        change placementsOf placements other.id ≠ []
        rw [placementsOf_insert hrows, hid]
        rw [if_pos (show (initialPlacement opening (triggerContext center)
          placementId).costCenterId = costCenterId from howner)]
        exact List.append_ne_nil_of_right_ne_nil _ (List.cons_ne_nil _ _)
      · exact placementsOf_ne_nil hrows (hother other hmem hid hnot)

/-- Writing columns of centres that are not placed, or centres without placements. -/
theorem Sound.update (h : Sound system) {picked : CostCenter → Prop} [DecidablePred picked]
    {write : CostCenter → CostCenter} {hkey : ∀ center, (write center).id = center.id}
    (hstate : ∀ center, picked center → placementsOf system.placements center.id ≠ [] →
      (write center).state = center.state) :
    Sound { system with centers := system.centers.update picked write hkey } := by
  have hid : ∀ center : CostCenter,
      (if picked center then write center else center).id = center.id := by
    intro center
    split
    · exact hkey center
    · rfl
  constructor
  · constructor
    · intro placement hplacement
      obtain ⟨center, hcenter, howner⟩ := h.owned placement hplacement
      refine ⟨if picked center then write center else center, ?_, (hid center).trans howner⟩
      exact List.mem_map.mpr ⟨center, hcenter, rfl⟩
    · intro other hother hsome
      obtain ⟨center, hcenter, rfl⟩ := List.mem_map.mp hother
      rw [hid] at hsome ⊢
      have hpartitioned := h.partitioned center hcenter hsome
      split
      · next hpicked => rw [hstate center hpicked hsome]; exact hpartitioned
      · exact hpartitioned
  · intro other hother hcommitted
    obtain ⟨center, hcenter, rfl⟩ := List.mem_map.mp hother
    rw [hid] at hcommitted ⊢
    exact h.opened center hcenter hcommitted

/-- A centre without placements comes in. -/
theorem Sound.created (h : Sound system) {center : CostCenter} {centers : Centers}
    (hinsert : system.centers.insert center = some centers) :
    Sound { system with centers := centers, creating := center.id :: system.creating } := by
  obtain ⟨hnew, hrows⟩ := Table.insert_eq_some hinsert
  have hnone : placementsOf system.placements center.id = [] := by
    refine List.eq_nil_iff_forall_not_mem.mpr fun placement hplacement => ?_
    have hmem := mem_placementsOf.mp hplacement
    obtain ⟨other, hother, howner⟩ := h.owned placement hmem.1
    have hfound := Table.find?_of_mem hother
    rw [howner, hmem.2, hnew] at hfound
    cases hfound
  constructor
  · constructor
    · intro placement hplacement
      obtain ⟨other, hother, howner⟩ := h.owned placement hplacement
      exact ⟨other, hrows ▸ List.mem_append_left _ hother, howner⟩
    · intro other hother hsome
      change other ∈ centers.rows at hother
      rw [hrows, List.mem_append, List.mem_singleton] at hother
      rcases hother with hold | rfl
      · exact h.partitioned other hold hsome
      · exact absurd hnone hsome
  · intro other hother hcommitted
    change other ∈ centers.rows at hother
    rw [hrows, List.mem_append, List.mem_singleton] at hother
    rcases hother with hold | rfl
    · exact h.opened other hold fun hcreating => hcommitted (List.mem_cons_of_mem _ hcreating)
    · exact absurd (List.mem_cons_self ..) hcommitted

/-- A centre goes with its placements. -/
theorem Sound.removed (h : Sound system) :
    Sound { system with
      centers := system.centers.filter fun center => center.id ≠ costCenterId
      placements := system.placements.filter
        fun placement => placement.costCenterId ≠ costCenterId } := by
  have hkept : ∀ other : Uuid, other ≠ costCenterId →
      placementsOf (system.placements.filter
        fun placement => placement.costCenterId ≠ costCenterId) other =
      placementsOf system.placements other := by
    intro other hne
    unfold placementsOf Table.filter
    rw [List.filter_filter]
    refine List.filter_congr fun placement _ => ?_
    by_cases howner : placement.costCenterId = other <;> simp [howner, hne]
  have hrow : ∀ center ∈ (system.centers.filter fun center => center.id ≠ costCenterId).rows,
      center ∈ system.centers.rows ∧ center.id ≠ costCenterId := by
    intro center hcenter
    have hmem := List.mem_filter.mp hcenter
    exact ⟨hmem.1, of_decide_eq_true hmem.2⟩
  constructor
  · constructor
    · intro placement hplacement
      have hmem := List.mem_filter.mp hplacement
      obtain ⟨center, hcenter, howner⟩ := h.owned placement hmem.1
      have hne : placement.costCenterId ≠ costCenterId := of_decide_eq_true hmem.2
      refine ⟨center, List.mem_filter.mpr ⟨hcenter, decide_eq_true ?_⟩, howner⟩
      change center.id ≠ costCenterId
      rw [howner]
      exact hne
    · intro center hcenter hsome
      obtain ⟨hmem, hne⟩ := hrow center hcenter
      change placementsOf (system.placements.filter _) center.id ≠ [] at hsome
      change Partitioned (placementsOf (system.placements.filter _) center.id) center.state
      rw [hkept center.id hne] at hsome ⊢
      exact h.partitioned center hmem hsome
  · intro center hcenter hcommitted
    obtain ⟨hmem, hne⟩ := hrow center hcenter
    change placementsOf (system.placements.filter _) center.id ≠ []
    rw [hkept center.id hne]
    exact h.opened center hmem hcommitted

/-- The end of a placement passes through the driver: the clock is not before its start, or
its start has no digits below the millisecond. -/
def Passes (now : Date) (placement : Placement) : Prop :=
  placement.validFrom ≤ toTimestamp now ∨ placement.validFrom % 1000 = 0

instance (now : Date) (placement : Placement) : Decidable (Passes now placement) :=
  inferInstanceAs (Decidable (_ ∨ _))

theorem passes_iff (now : Date) (placement : Placement) :
    Passes now placement ↔
      toTimestamp (toDate (closedAt now placement)) = closedAt now placement := by
  rw [toTimestamp_toDate]
  unfold Passes closedAt toTimestamp
  generalize placement.validFrom = start
  have hclock : now * 1000 % 1000 = 0 := Int.mul_emod_left now 1000
  rcases le_total start (now * 1000) with hle | hle
  · rw [max_eq_left hle]
    exact ⟨fun _ => hclock, fun _ => .inl hle⟩
  · rw [max_eq_right hle]
    refine ⟨fun h => h.elim (fun hback => ?_) id, .inr⟩
    rw [le_antisymm hback hle]
    exact hclock

/-- What a change that goes through has done. -/
theorem change_eq_ok {reads : Reads} {patch : PlacementPatch} {context : PlacementContext}
    {now : Date} {placementId : Uuid} {outcome : Option PlacementChange}
    (h : change system reads costCenterId patch context now placementId =
      .ok (after, outcome)) :
    after = system ∨ ∃ to_ toMode acceptsAssetsCleared placements,
      insertPlacement (close system.placements costCenterId now)
        (nextPlacement system.placements costCenterId to_ toMode context now placementId) =
          .ok placements ∧
      after = { system with
        centers := place system.centers costCenterId to_ acceptsAssetsCleared
        placements := placements } := by
  unfold change at h
  cases hfound : system.centers.find? costCenterId with
  | none =>
    rw [hfound] at h
    cases h
  | some center =>
    rw [hfound] at h
    simp only at h
    split at h
    · cases h
      exact .inl rfl
    · obtain ⟨_, _, h⟩ := bind_eq_ok h
      obtain ⟨_, _, h⟩ := bind_eq_ok h
      obtain ⟨acceptsAssetsCleared, _, h⟩ := bind_eq_ok h
      obtain ⟨placements, hinsert, h⟩ := bind_eq_ok h
      cases h
      exact .inr ⟨_, _, acceptsAssetsCleared, placements, hinsert, rfl⟩

/-- The placements of a centre that is changed: the open one closed, and the next one. -/
theorem placementsOf_change {to_ : PlacementState} {toMode : PlacementMode}
    {context : PlacementContext} {now : Date} {placementId : Uuid} {placements : Placements}
    (hinsert : insertPlacement (close system.placements costCenterId now)
      (nextPlacement system.placements costCenterId to_ toMode context now placementId) =
        .ok placements) (other : Uuid) :
    placementsOf placements other =
      if other = costCenterId then
        (placementsOf system.placements costCenterId).map (closing now) ++
          [nextPlacement system.placements costCenterId to_ toMode context now placementId]
      else placementsOf system.placements other := by
  rw [placementsOf_insert (insertPlacement_eq_ok hinsert).2]
  have howner : (nextPlacement system.placements costCenterId to_ toMode context now
      placementId).costCenterId = costCenterId := rfl
  rw [howner]
  by_cases hother : other = costCenterId
  · rw [if_pos hother.symm, if_pos hother, hother, placementsOf_close_self]
  · rw [if_neg (Ne.symm hother), if_neg hother, placementsOf_close_of_ne now hother,
      List.append_nil]

/-- The placements of a centre that are closed and followed by the next one are partitioned,
when the end passes. -/
theorem Partitioned.change {entries : List Placement} {state to_ : PlacementState}
    (h : Partitioned entries state) {current next : Placement} {now : Date}
    (hcurrent : current ∈ entries) (hopen : current.validUntil = none)
    (hpasses : Passes now current)
    (hstart : next.validFrom = toTimestamp (toDate (closedAt now current)))
    (hnext : next.validUntil = none) (hstate : next.state = to_) :
    Partitioned (entries.map (closing now) ++ [next]) to_ := by
  obtain ⟨first, hfirst⟩ := h.contiguous
  constructor
  · refine ⟨first, hfirst.map_append ?_ ?_ hstart hnext⟩
    · intro entry _ hclosed
      unfold closing
      rw [if_neg hclosed]
    · intro entry hentry hentryOpen
      have heq : entry = current := hfirst.eq_of_open hentry hentryOpen hcurrent hopen
      subst heq
      unfold closing
      rw [if_pos hopen, (passes_iff now entry).mp hpasses]
      exact ⟨rfl, rfl, le_max_right _ _⟩
  · intro placement hplacement hplacementOpen
    rw [List.mem_append, List.mem_singleton] at hplacement
    rcases hplacement with hclosed | rfl
    · obtain ⟨entry, _, rfl⟩ := List.mem_map.mp hclosed
      exact absurd hplacementOpen (closing_validUntil now entry)
    · exact hstate

/-- They are partitioned only when it passes. -/
theorem Partitioned.change_iff {entries : List Placement} {state : PlacementState}
    (h : Partitioned entries state) {current next : Placement} {now : Date}
    (hcurrent : current ∈ entries) (hopen : current.validUntil = none)
    (hstart : next.validFrom = toTimestamp (toDate (closedAt now current)))
    (hnext : next.validUntil = none) :
    Partitioned (entries.map (closing now) ++ [next]) next.state ↔ Passes now current := by
  constructor
  · rintro ⟨⟨first, hfirst⟩, _⟩
    obtain ⟨start, hentries⟩ := h.contiguous
    obtain ⟨before, last, rfl, hlast⟩ := hentries.exists_last
    have heq : current = last :=
      hentries.eq_of_open hcurrent hopen (List.mem_append_right _ (List.mem_singleton_self _)) hlast
    rw [List.map_append, List.append_assoc] at hfirst
    have hstop : (closing now last).validUntil = some next.validFrom := hfirst.stop_eq
    rw [passes_iff, ← hstart, heq]
    unfold closing at hstop
    rw [if_pos hlast] at hstop
    exact (Option.some.inj hstop).symm
  · exact fun hpasses => h.change hcurrent hopen hpasses hstart hnext rfl

/-- A change leaves each centre with its identifier. -/
theorem place_rows {to_ : PlacementState} {acceptsAssetsCleared : Bool} {other : CostCenter}
    (h : other ∈ (place system.centers costCenterId to_ acceptsAssetsCleared).rows) :
    ∃ center ∈ system.centers.rows, other.id = center.id ∧
      other.state = if center.id = costCenterId then to_ else center.state := by
  obtain ⟨center, hcenter, rfl⟩ := List.mem_map.mp h
  refine ⟨center, hcenter, ?_⟩
  split <;> exact ⟨rfl, rfl⟩

/-- Where the next placement of a centre starts, by what is open. -/
theorem nextValidFrom_of_open {placements : Placements} {current : Placement} {now : Date}
    (h : openPlacement placements costCenterId = some current) :
    nextValidFrom placements costCenterId now = toDate (closedAt now current) := by
  unfold nextValidFrom
  rw [h]

/-- A centre with placements has an open one. -/
theorem Partitioned.exists_open {placements : Placements} {state : PlacementState}
    (h : Partitioned (placementsOf placements costCenterId) state) :
    ∃ current, openPlacement placements costCenterId = some current := by
  have hcount := h.countP_open
  have hpos : 0 < (placementsOf placements costCenterId).countP fun placement =>
      placement.validUntil = none := by omega
  obtain ⟨current, hcurrent, hopen⟩ := List.countP_pos_iff.mp hpos
  have hmem := mem_placementsOf.mp hcurrent
  refine Option.isSome_iff_exists.mp (List.find?_isSome.mpr ⟨current, hmem.1, ?_⟩)
  exact decide_eq_true ⟨hmem.2, of_decide_eq_true hopen⟩

/-- A change whose end passes keeps the placements of every centre partitioned. -/
theorem Sound.change (h : Sound system) {reads : Reads} {patch : PlacementPatch}
    {context : PlacementContext} {now : Date} {placementId : Uuid}
    {outcome : Option PlacementChange}
    (hchange : change system reads costCenterId patch context now placementId =
      .ok (after, outcome))
    (hpasses : ∀ current ∈ openPlacement system.placements costCenterId, Passes now current) :
    Sound after := by
  rcases change_eq_ok hchange with rfl | ⟨to_, toMode, cleared, placements, hinsert, rfl⟩
  · exact h
  have hof := placementsOf_change hinsert
  generalize hnext : nextPlacement system.placements costCenterId to_ toMode context now
    placementId = next at hof
  have hsome : ∀ center ∈ system.centers.rows,
      center.id ∉ system.creating → placementsOf placements center.id ≠ [] := by
    intro center hcenter hcommitted
    rw [hof]
    split
    · exact List.append_ne_nil_of_right_ne_nil _ (List.cons_ne_nil _ _)
    · exact h.opened center hcenter hcommitted
  constructor
  · constructor
    · intro placement hplacement
      change placement ∈ placements.rows at hplacement
      have hmem : placement ∈ placementsOf placements placement.costCenterId :=
        mem_placementsOf.mpr ⟨hplacement, rfl⟩
      rw [hof] at hmem
      have howned : ∃ center ∈ system.centers.rows, center.id = placement.costCenterId := by
        split at hmem
        · next howner =>
          -- the centre was found before it was changed
          unfold CostCenterPlacements.change at hchange
          cases hfound : system.centers.find? costCenterId with
          | none =>
            rw [hfound] at hchange
            cases hchange
          | some center =>
            exact ⟨center, Table.mem_of_find? hfound,
              (Table.key_of_find? hfound).trans howner.symm⟩
        · exact h.owned placement (mem_placementsOf.mp hmem).1
      obtain ⟨center, hcenter, howner⟩ := howned
      refine ⟨if center.id = costCenterId then { center with
        state := to_
        acceptsAssets := if cleared then false else center.acceptsAssets } else center,
        List.mem_map.mpr ⟨center, hcenter, rfl⟩, ?_⟩
      split <;> exact howner
    · intro other hother hplaced
      obtain ⟨center, hcenter, hid, hstate⟩ := place_rows hother
      change placementsOf placements other.id ≠ [] at hplaced
      change Partitioned (placementsOf placements other.id) other.state
      rw [hof, hid] at hplaced ⊢
      rw [hstate]
      split
      · next howner =>
        by_cases hnone : placementsOf system.placements costCenterId = []
        · rw [hnone, List.map_nil, List.nil_append]
          constructor
          · exact ⟨next.validFrom, .last next (hnext ▸ rfl)⟩
          · intro entry hentry _
            rw [List.mem_singleton.mp hentry, ← hnext]
            rfl
        · have hpartitioned := h.partitioned center hcenter (howner ▸ hnone)
          rw [howner] at hpartitioned
          obtain ⟨current, hcurrent⟩ := hpartitioned.exists_open
          have hmem := openPlacement_eq_some hcurrent
          refine hpartitioned.change hmem.1 hmem.2 (hpasses current hcurrent) ?_ (hnext ▸ rfl)
            (hnext ▸ rfl)
          rw [← hnext, ← nextValidFrom_of_open hcurrent]
          rfl
      · next howner =>
        rw [if_neg howner] at hplaced
        exact h.partitioned center hcenter hplaced
  · intro other hother hcommitted
    obtain ⟨center, hcenter, hid, _⟩ := place_rows hother
    change placementsOf placements other.id ≠ []
    rw [hid] at hcommitted ⊢
    exact hsome center hcenter hcommitted

/-- A step is careful when the end that a change closes passes through the driver. -/
def Careful (system : System) : Action → Prop
  | .changed _ costCenterId _ _ now _ =>
    ∀ current ∈ openPlacement system.placements costCenterId, Passes now current
  | _ => True

instance (system : System) (action : Action) : Decidable (Careful system action) := by
  cases action <;> unfold Careful <;> infer_instance

/-- A careful step keeps the placements partitioned. -/
theorem Sound.next (h : Sound system) {action : Action} (hnext : next system action = .ok after)
    (hcareful : Careful system action) : Sound after := by
  cases action with
  | created center =>
    simp only [CostCenterPlacements.next] at hnext
    split at hnext
    · next centers hinsert =>
      cases hnext
      exact h.created hinsert
    · cases hnext
  | linked costCenterId parentId =>
    simp only [CostCenterPlacements.next] at hnext
    split at hnext
    · next hnone =>
      cases hnext
      refine h.update fun center hid hsome => absurd hnone ?_
      subst hid
      exact hsome
    · cases hnext
  | opened costCenterId context placementId => exact h.open_ hnext
  | openedMany costCenterIds context placementIds => exact h.openMany hnext
  | committed costCenterId placementId => exact h.commitCenter hnext
  | changed reads costCenterId patch context now placementId =>
    simp only [CostCenterPlacements.next] at hnext
    cases hchange : CostCenterPlacements.change system reads costCenterId patch context now
      placementId with
    | error error =>
      rw [hchange] at hnext
      cases hnext
    | ok result =>
      rw [hchange] at hnext
      cases hnext
      exact h.change hchange hcareful
  | edited costCenterId externalCode acceptsAssets =>
    cases hnext
    exact h.update fun center _ _ => rfl
  | removed costCenterId =>
    cases hnext
    exact h.removed

end Steps

/-- A run of steps that are not refused, each of which meets a condition. -/
inductive Run (condition : System → Action → Prop) : System → Prop
  | start : Run condition .start
  | step {system after : System} {action : Action} (hrun : Run condition system)
      (hnext : next system action = .ok after) (hcondition : condition system action) :
      Run condition after

theorem Run.sound {system : System} (h : Run Careful system) : Sound system := by
  induction h with
  | start => exact Sound.start
  | step hrun hnext hcondition ih => exact ih.next hnext hcondition

/-- What is kept of each centre: of one that is committed, or has a placement, one placement is
open and says where the row says it belongs, the intervals of all follow one another without a
gap, and no instant has two of them. -/
def PartitionOfTime (system : System) : Prop :=
  ∀ center ∈ system.centers.rows,
    (center.id ∉ system.creating ∨ placementsOf system.placements center.id ≠ []) →
    (placementsOf system.placements center.id).countP (fun placement =>
        placement.validUntil = none) = 1 ∧
      (∃ first, Timeline.Contiguous Placement.validFrom Placement.validUntil first
        (placementsOf system.placements center.id)) ∧
      (∀ time, (placementsOf system.placements center.id).countP (fun placement =>
        validAt placement time) ≤ 1) ∧
      ∀ placement ∈ placementsOf system.placements center.id,
        placement.validUntil = none → placement.state = center.state

/-- In every run of creations, openings, changes, edits and removals of centres, with any clock:
when each change finds an open placement that does not start after its clock, or starts on a
millisecond, the placements of every centre partition its time and its row mirrors them. -/
theorem placements_partition_time {system : System} (hrun : Run Careful system) :
    PartitionOfTime system := by
  intro center hcenter hplaced
  have hsound := hrun.sound
  have hsome : placementsOf system.placements center.id ≠ [] :=
    hplaced.elim (hsound.opened center hcenter) id
  have hpartitioned := hsound.partitioned center hcenter hsome
  exact ⟨hpartitioned.countP_open, hpartitioned.contiguous, hpartitioned.countP_validAt,
    hpartitioned.mirrored⟩

section Samples

/-- A centre that an import inserts, between two milliseconds. -/
def importedCenter : CostCenter where
  id := "center"
  externalCode := "4330"
  state := ⟨some "faculty", none, true⟩
  acceptsAssets := true
  syncSource := .importExcel
  createdAt := 1767225600123456

def importContext : PlacementContext where
  reason := "Alta"
  actorId := none
  source := .import_

/-- A unit that is active, and no centre to move under. -/
def sampleReads : Reads where
  units unitId := if unitId = "library" then some true else none
  parents _ := none
  assets := 0

/-- Move the centre to another unit. -/
def moveToLibrary (now : Date) : Action :=
  .changed sampleReads "center" { unitId := some (some "library") }
    ⟨"Cambio", some "ana", .manual, none, none, none, none⟩ now "second"

/-- Place it back at no unit. -/
def moveOut (now : Date) : Action :=
  .changed sampleReads "center" { unitId := some none }
    ⟨"Retiro", some "ana", .manual, none, none, none, some .manual⟩ now "third"

/-- The centre is inserted, opened and committed. -/
def importedSystem : System :=
  [.created importedCenter, .openedMany ["center"] importContext fun _ => "first",
    .committed "center" "unused"].foldl
    (fun system action => attempt (next · action) system) .start

theorem importedSystem_run (condition : System → Action → Prop)
    (hfree : ∀ system action, (∀ reads id patch context now placementId,
      action ≠ .changed reads id patch context now placementId) → condition system action) :
    Run condition importedSystem := by
  refine .step (.step (.step .start
    (eq_ok_attempt (next · (.created importedCenter)) (by decide +kernel)) ?_)
    (eq_ok_attempt (next · (.openedMany ["center"] importContext fun _ => "first"))
      (by decide +kernel)) ?_)
    (eq_ok_attempt (next · (.committed "center" "unused")) (by decide +kernel)) ?_ <;>
  exact hfree _ _ fun _ _ _ _ _ _ h => nomatch h

/-- The centre is moved by a clock that has passed its creation, and then by one that has not. -/
def movedSystem : System :=
  attempt (next · (moveOut 1767225500000))
    (attempt (next · (moveToLibrary 1767225700000)) importedSystem)

theorem movedSystem_run : Run Careful movedSystem := by
  have himported : Run Careful importedSystem :=
    importedSystem_run Careful fun system action hfree => by
      cases action with
      | changed reads id patch context now placementId =>
        exact absurd rfl (hfree reads id patch context now placementId)
      | _ => trivial
  exact (himported.step (eq_ok_attempt (next · (moveToLibrary 1767225700000))
      (by decide +kernel)) (by decide +kernel)).step
    (eq_ok_attempt (next · (moveOut 1767225500000)) (by decide +kernel)) (by decide +kernel)

theorem placements_partition_time_moved :
    Run Careful movedSystem ∧ PartitionOfTime movedSystem :=
  ⟨movedSystem_run, placements_partition_time movedSystem_run⟩

/-- The centre is moved by a clock that has not reached its creation. -/
def slippedSystem : System := attempt (next · (moveToLibrary 1767225600000)) importedSystem

theorem slippedSystem_run : Run (fun _ _ => True) slippedSystem :=
  (importedSystem_run (fun _ _ => True) fun _ _ _ => trivial).step
    (eq_ok_attempt (next · (moveToLibrary 1767225600000)) (by decide +kernel)) trivial

/-- The first placement ends where it starts, and the next one starts before: there is no
partition. -/
theorem placements_slip :
    ¬∀ system, Run (fun _ _ => True) system → PartitionOfTime system := by
  intro h
  have hrow : (importedCenter.id ∉ slippedSystem.creating) ∧
      (slippedSystem.centers.rows.map CostCenter.id = [importedCenter.id]) ∧
      (placementsOf slippedSystem.placements importedCenter.id).map
        (fun placement => (placement.validFrom, placement.validUntil)) =
        [(1767225600123456, some 1767225600123456), (1767225600123000, none)] := by
    decide +kernel
  obtain ⟨hcommitted, hcenters, hentries⟩ := hrow
  have hmem : importedCenter.id ∈ slippedSystem.centers.rows.map CostCenter.id := by
    rw [hcenters]
    exact List.mem_singleton_self _
  obtain ⟨center, hcenter, hid⟩ := List.mem_map.mp hmem
  obtain ⟨_, ⟨first, hfirst⟩, _⟩ := h slippedSystem slippedSystem_run center hcenter
    (.inl (hid ▸ hcommitted))
  rw [hid] at hfirst
  obtain ⟨one, rest, hrest, hone, htwo⟩ := List.map_eq_cons_iff.mp hentries
  obtain ⟨two, last, hlast, htwo, hnil⟩ := List.map_eq_cons_iff.mp htwo
  rw [List.map_eq_nil_iff.mp hnil] at hlast
  rw [hrest, hlast] at hfirst
  have hstop : one.validUntil = some two.validFrom :=
    Timeline.Contiguous.stop_eq (show Timeline.Contiguous _ _ first ([] ++ one :: [two]) from hfirst)
  rw [(Prod.mk.inj hone).2, (Prod.mk.inj htwo).1] at hstop
  exact absurd hstop (by decide)

end Samples

end InternalControl.CostCenterPlacements
