import InternalControl.CostCenterStructure

/-!
# Centres below their grouping code

The code that ends in zero may stand above a centre only as a grouping one. The
plan asks the row of that code, and then lets a stored centre with assets keep its
movement against its row. It also leaves a stored centre below a parent that its
code no longer derives.
-/

namespace InternalControl.CostCenterStructure

open CodePrefix Text

/-- The candidate of a code that must be a grouping one. -/
def groupingCandidate (code : String) : Option String :=
  ((parentCandidates code).find? ParentCandidate.mustBeGrouping).map ParentCandidate.code

/-- The movement flag of a code after the plan: the planned one, or the stored one of a centre
that the file does not have. -/
def finalMovement (file : List FileCenter) (db : List DbCenter) (units : List DbUnit)
    (code : String) : Option Bool :=
  match (KeyedMap.index PlannedCenter.code (planCostCenterStructure file db units).centers).get? code with
  | some center => some center.hasMovement
  | none => ((dbByCode db).get? code).map DbCenter.hasMovement

/-- The planned centres whose code derives their grouping candidate hang from a grouping one. -/
def DerivedUnderGroupings (file : List FileCenter) (db : List DbCenter) (units : List DbUnit) : Prop :=
  ∀ center ∈ (planCostCenterStructure file db units).centers,
    ∀ grouping, groupingCandidate center.code = some grouping →
      deriveParentCode center.code (isGrouping file db) = some grouping →
        center.parentCode = some grouping ∧ finalMovement file db units grouping = some false

/-- The planned centres below their grouping candidate hang from a grouping one. -/
def UnderGroupings (file : List FileCenter) (db : List DbCenter) (units : List DbUnit) : Prop :=
  ∀ center ∈ (planCostCenterStructure file db units).centers,
    ∀ grouping, groupingCandidate center.code = some grouping →
      center.parentCode = some grouping → finalMovement file db units grouping = some false

/-- No row has its grouping candidate in the file as a grouping row of a stored centre that has
movement and assets. -/
def NoGroupingWithAssets (file : List FileCenter) (db : List DbCenter) : Prop :=
  ∀ row ∈ file, ∀ grouping, groupingCandidate row.code = some grouping →
    ∀ above ∈ file, above.code = grouping → above.hasMovement = false →
      ∀ stored ∈ db, stored.code = grouping → stored.hasMovement = true → stored.activeAssets = 0

/-- No row of a stored centre without a derived parent has its grouping candidate as the
stored one. -/
def NoKeptGrouping (file : List FileCenter) (db : List DbCenter) : Prop :=
  ∀ row ∈ file, ∀ grouping, groupingCandidate row.code = some grouping →
    deriveParentCode row.code (isGrouping file db) = none →
      ∀ stored ∈ db, stored.code = row.code → ∀ parent ∈ db, stored.parentId = some parent.id →
        parent.code ≠ grouping

/-! ### Codes and their candidates -/

section Candidates

variable {code grouping : String} {known : String → Option Bool}

theorem isDetailCode_of_groupingCandidate (h : groupingCandidate code = some grouping) :
    isDetailCode code = true := by
  unfold groupingCandidate parentCandidates at h
  split at h
  · next hdetail => exact hdetail
  · cases h

theorem isRootCode_of_isDetailCode (h : isDetailCode code = true) : isRootCode code = false := by
  rw [isDetailCode, Bool.and_eq_true, beq_iff_eq] at h
  rw [isRootCode, h.1]
  rfl

theorem toNat_lt_of_isDigit {c : Char} (hc : c.isDigit = true) : c.toNat < 0x10000 := by
  simp only [Char.isDigit, Bool.and_eq_true, decide_eq_true_eq] at hc
  exact lt_of_le_of_lt (show c.toNat ≤ 57 from hc.2) (by decide)

/-- A detail code is a list of four digits. -/
theorem toList_of_isDetailCode (h : isDetailCode code = true) :
    ∃ a b c d, code.toList = [a, b, c, d] ∧ ∀ e ∈ code.toList, e.isDigit = true := by
  rw [isDetailCode, allDigits, Bool.and_eq_true, Bool.and_eq_true, beq_iff_eq, List.all_eq_true] at h
  obtain ⟨hlength, -, hdigits⟩ := h
  have hcount : code.toList.length = detailCodeLength := by
    rw [← utf16Length_of_single fun c hc => toNat_lt_of_isDigit (hdigits c hc)]
    exact hlength
  match hlist : code.toList, hcount with
  | [a, b, c, d], _ => exact ⟨a, b, c, d, rfl, hlist ▸ hdigits⟩

/-- A candidate that is kept was listed, and its code was not seen before. -/
theorem mem_of_mem_dropSeen {seen : List String} {candidates : List ParentCandidate}
    {candidate : ParentCandidate} (h : candidate ∈ dropSeen seen candidates) :
    candidate ∈ candidates ∧ candidate.code ∉ seen := by
  induction candidates generalizing seen with
  | nil => cases h
  | cons first rest ih =>
    rw [dropSeen] at h
    split at h
    · next hseen =>
      obtain ⟨hmem, hnew⟩ := ih h
      exact ⟨List.mem_cons_of_mem _ hmem, hnew⟩
    · next hnew =>
      rcases List.mem_cons.mp h with rfl | h
      · exact ⟨List.mem_cons_self, hnew⟩
      · obtain ⟨hmem, hnewer⟩ := ih h
        exact ⟨List.mem_cons_of_mem _ hmem, fun hseen => hnewer (List.mem_cons_of_mem _ hseen)⟩

/-- The grouping candidate is the code of the first three digits and a zero, the first one to
be asked and the only one of its code. -/
theorem groupingCandidate_eq (h : groupingCandidate code = some grouping) :
    grouping = sliceTo code 3 ++ "0" ∧ ∃ rest, parentCandidates code = ⟨grouping, true⟩ :: rest ∧
      ∀ candidate ∈ rest, candidate.code ≠ grouping := by
  have hdetail := isDetailCode_of_groupingCandidate h
  unfold groupingCandidate at h
  rw [parentCandidates, if_pos hdetail] at h ⊢
  rw [dropSeen] at h ⊢
  split at h
  · -- the other candidates need not be grouping ones
    obtain ⟨candidate, hfound, -⟩ := Option.map_eq_some_iff.mp h
    have hlisted := (mem_of_mem_dropSeen (List.mem_of_find?_eq_some hfound)).1
    have hflag := List.find?_some hfound
    simp only [List.mem_cons, List.not_mem_nil, or_false] at hlisted
    rcases hlisted with rfl | rfl | rfl <;> cases hflag
  · next hnew =>
    rw [List.find?_cons_of_pos rfl, Option.map_some, Option.some.injEq] at h
    subst h
    rw [if_neg hnew]
    refine ⟨rfl, _, rfl, fun candidate hcandidate hsame => ?_⟩
    exact (mem_of_mem_dropSeen hcandidate).2 (hsame ▸ List.mem_cons_self)

/-- The grouping candidate is a detail code too. -/
theorem isDetailCode_grouping (h : groupingCandidate code = some grouping) :
    isDetailCode grouping = true := by
  obtain ⟨a, b, c, d, hlist, hdigits⟩ := toList_of_isDetailCode (isDetailCode_of_groupingCandidate h)
  obtain ⟨rfl, -⟩ := groupingCandidate_eq h
  rw [hlist] at hdigits
  have htext : (sliceTo code 3 ++ "0").toList = [a, b, c, '0'] := by
    rw [sliceTo, hlist, String.toList_append, String.toList_ofList]
    rfl
  have hall : ∀ e ∈ [a, b, c, '0'], e.isDigit = true := by
    intro e he
    simp only [List.mem_cons, List.not_mem_nil, or_false] at he
    rcases he with rfl | rfl | rfl | rfl
    · exact hdigits _ (by simp)
    · exact hdigits _ (by simp)
    · exact hdigits _ (by simp)
    · rfl
  have hlength : utf16Length (sliceTo code 3 ++ "0") = 4 := by
    rw [utf16Length_of_single fun c hc => toNat_lt_of_isDigit (hall c (htext ▸ hc)), htext]
    rfl
  rw [isDetailCode, allDigits, hlength, htext, Bool.and_eq_true, Bool.and_eq_true, List.all_eq_true]
  exact ⟨rfl, rfl, hall⟩

/-- The grouping candidate is derived exactly when it is known as a grouping one. -/
theorem deriveParentCode_grouping (h : groupingCandidate code = some grouping) :
    deriveParentCode code known = some grouping ↔ known grouping = some true := by
  obtain ⟨-, rest, hcandidates, hrest⟩ := groupingCandidate_eq h
  rw [deriveParentCode, hcandidates, List.find?_cons]
  cases hknown : known grouping with
  | none =>
    have hskip : isParent known ⟨grouping, true⟩ = false := by rw [isParent, hknown]; rfl
    rw [hskip]
    refine ⟨fun hfound => ?_, nofun⟩
    obtain ⟨candidate, hcandidate, hcode⟩ := Option.map_eq_some_iff.mp hfound
    exact absurd hcode (hrest candidate (List.mem_of_find?_eq_some hcandidate))
  | some isOne =>
    cases isOne with
    | true =>
      have htake : isParent known ⟨grouping, true⟩ = true := by rw [isParent, hknown]; rfl
      rw [htake]
      exact ⟨fun _ => rfl, fun _ => rfl⟩
    | false =>
      have hskip : isParent known ⟨grouping, true⟩ = false := by rw [isParent, hknown]; rfl
      rw [hskip]
      refine ⟨fun hfound => ?_, nofun⟩
      obtain ⟨candidate, hcandidate, hcode⟩ := Option.map_eq_some_iff.mp hfound
      exact absurd hcode (hrest candidate (List.mem_of_find?_eq_some hcandidate))

end Candidates

/-! ### Movement flags before and after -/

section Flags

variable {file : List FileCenter} {db : List DbCenter} {units : List DbUnit} {row : FileCenter}
  {stored : DbCenter} {code grouping : String}

theorem readRow_code (row : FileCenter) : (readRow row).code = row.code := by
  unfold readRow
  split <;> rfl

theorem readRow_of_isDetailCode (h : isDetailCode row.code = true) : readRow row = row := by
  rw [readRow, isRootCode_of_isDetailCode h]
  rfl

theorem codes_readRow (file : List FileCenter) :
    (file.map readRow).map FileCenter.code = file.map FileCenter.code := by
  rw [List.map_map]
  exact List.map_congr_left fun row _ => readRow_code row

theorem codes_plannedCenters (file : List FileCenter) (db : List DbCenter) (units : List DbUnit) :
    (planCostCenterStructure file db units).centers.map PlannedCenter.code = file.map FileCenter.code := by
  have hcenters : (planCostCenterStructure file db units).centers =
      (file.map readRow).map (planCenter file db units) := rfl
  rw [← codes_readRow, hcenters, List.map_map]
  rfl

/-- A planned centre is that of a row. -/
theorem mem_centers_iff {center : PlannedCenter} :
    center ∈ (planCostCenterStructure file db units).centers ↔
      ∃ row ∈ file, center = planCenter file db units (readRow row) := by
  have hcenters : (planCostCenterStructure file db units).centers =
      (file.map readRow).map (planCenter file db units) := rfl
  rw [hcenters, List.map_map, List.mem_map]
  simp only [Function.comp_apply, eq_comm]

theorem isGrouping_of_row (hfile : (file.map FileCenter.code).Nodup) (hrow : row ∈ file)
    (hdetail : isDetailCode row.code = true) :
    isGrouping file db row.code = some !row.hasMovement := by
  have hget : (fileByCode file).get? row.code = some row := by
    refine (KeyedMap.get?_index_iff (by rwa [codes_readRow])).mpr ⟨?_, rfl⟩
    exact readRow_of_isDetailCode hdetail ▸ List.mem_map_of_mem hrow
  rw [isGrouping, hget]

theorem get?_fileByCode_of_notMem (hcode : code ∉ file.map FileCenter.code) :
    (fileByCode file).get? code = none := by
  rw [← Option.not_isSome_iff_eq_none]
  intro hhas
  obtain ⟨row, hrow, rfl⟩ := (KeyedMap.index_has_iff _ _ _).mp hhas
  exact hcode (codes_readRow file ▸ List.mem_map_of_mem hrow)

theorem isGrouping_of_notMem (hcode : code ∉ file.map FileCenter.code) :
    isGrouping file db code = ((dbByCode db).get? code).map fun center => !center.hasMovement := by
  rw [isGrouping, get?_fileByCode_of_notMem hcode]

theorem finalMovement_of_row (hfile : (file.map FileCenter.code).Nodup) (hrow : row ∈ file)
    (hdetail : isDetailCode row.code = true) :
    finalMovement file db units row.code = some (keepsMovement db row || row.hasMovement) := by
  have hget : (KeyedMap.index PlannedCenter.code (planCostCenterStructure file db units).centers).get?
      row.code = some (planCenter file db units row) := by
    refine (KeyedMap.get?_index_iff (by rwa [codes_plannedCenters])).mpr ⟨?_, rfl⟩
    exact mem_centers_iff.mpr ⟨row, hrow, by rw [readRow_of_isDetailCode hdetail]⟩
  rw [finalMovement, hget]
  change some (if keepsMovement db row then true else row.hasMovement) = _
  cases keepsMovement db row <;> rfl

theorem finalMovement_of_notMem (hcode : code ∉ file.map FileCenter.code) :
    finalMovement file db units code = ((dbByCode db).get? code).map DbCenter.hasMovement := by
  have hget : (KeyedMap.index PlannedCenter.code (planCostCenterStructure file db units).centers).get?
      code = none := by
    rw [← Option.not_isSome_iff_eq_none]
    intro hhas
    obtain ⟨center, hcenter, rfl⟩ := (KeyedMap.index_has_iff _ _ _).mp hhas
    exact hcode (codes_plannedCenters file db units ▸ List.mem_map_of_mem hcenter)
  rw [finalMovement, hget]

theorem get?_dbByCode (hcodes : (db.map DbCenter.code).Nodup) :
    (dbByCode db).get? code = some stored ↔ stored ∈ db ∧ stored.code = code :=
  KeyedMap.get?_index_iff hcodes

theorem storedParentCode_eq_some (hids : (db.map DbCenter.id).Nodup) :
    storedParentCode db stored = some code ↔
      ∃ parent ∈ db, stored.parentId = some parent.id ∧ parent.code = code := by
  rw [storedParentCode, Option.map_eq_some_iff]
  constructor
  · rintro ⟨parent, hparent, hcode⟩
    obtain ⟨id, hid, hget⟩ := Option.bind_eq_some_iff.mp hparent
    obtain ⟨hmem, rfl⟩ := (KeyedMap.get?_index_iff hids).mp hget
    exact ⟨parent, hmem, hid, hcode⟩
  · rintro ⟨parent, hmem, hid, hcode⟩
    refine ⟨parent, ?_, hcode⟩
    rw [hid]
    exact (KeyedMap.get?_index_iff hids).mpr ⟨hmem, rfl⟩

theorem keepsMovement_iff (hcodes : (db.map DbCenter.code).Nodup) : keepsMovement db row = true ↔
    ∃ stored ∈ db, stored.code = row.code ∧ stored.hasMovement = true ∧ row.hasMovement = false ∧
      0 < stored.activeAssets := by
  rw [keepsMovement, Option.any_eq_true]
  simp only [Bool.and_eq_true, Bool.not_eq_true', decide_eq_true_eq]
  constructor
  · rintro ⟨stored, hget, ⟨hmovement, hrow⟩, hassets⟩
    obtain ⟨hmem, hcode⟩ := (get?_dbByCode hcodes).mp hget
    exact ⟨stored, hmem, hcode, hmovement, hrow, hassets⟩
  · rintro ⟨stored, hmem, hcode, hmovement, hrow, hassets⟩
    exact ⟨stored, (get?_dbByCode hcodes).mpr ⟨hmem, hcode⟩, ⟨hmovement, hrow⟩, hassets⟩

/-- A code known as a grouping one keeps the flag, unless its row is one that keeps its
movement. -/
theorem finalMovement_of_isGrouping (hfile : (file.map FileCenter.code).Nodup)
    (hdetail : isDetailCode grouping = true) (hknown : isGrouping file db grouping = some true)
    (hassets : ∀ above ∈ file, above.code = grouping → keepsMovement db above = false) :
    finalMovement file db units grouping = some false := by
  by_cases hmem : grouping ∈ file.map FileCenter.code
  · obtain ⟨above, habove, rfl⟩ := List.mem_map.mp hmem
    rw [isGrouping_of_row hfile habove hdetail, Option.some.injEq, Bool.not_eq_true'] at hknown
    rw [finalMovement_of_row hfile habove hdetail, hassets above habove rfl, hknown]
    rfl
  · rw [isGrouping_of_notMem hmem, Option.map_eq_some_iff] at hknown
    obtain ⟨stored, hget, hmovement⟩ := hknown
    rw [Bool.not_eq_true'] at hmovement
    rw [finalMovement_of_notMem hmem, hget, Option.map_some, hmovement]

/-- A stored code not known as a grouping one has movement after the plan. -/
theorem finalMovement_of_not_isGrouping (hfile : (file.map FileCenter.code).Nodup)
    (hcodes : (db.map DbCenter.code).Nodup) (hdetail : isDetailCode grouping = true)
    (hstored : stored ∈ db) (hcode : stored.code = grouping)
    (hknown : isGrouping file db grouping ≠ some true) :
    finalMovement file db units grouping = some true := by
  by_cases hmem : grouping ∈ file.map FileCenter.code
  · obtain ⟨above, habove, rfl⟩ := List.mem_map.mp hmem
    rw [isGrouping_of_row hfile habove hdetail] at hknown
    rw [finalMovement_of_row hfile habove hdetail]
    cases hmovement : above.hasMovement with
    | true => rw [Bool.or_true]
    | false => exact absurd (by rw [hmovement]; rfl) hknown
  · have hget := (get?_dbByCode hcodes).mpr ⟨hstored, hcode⟩
    rw [isGrouping_of_notMem hmem, hget] at hknown
    rw [finalMovement_of_notMem hmem, hget]
    cases hmovement : stored.hasMovement with
    | true => rw [Option.map_some, hmovement]
    | false => exact absurd (by rw [Option.map_some, hmovement]; rfl) hknown

end Flags

/-! ### The parents of a plan -/

section Parents

variable {file : List FileCenter} {db : List DbCenter} {units : List DbUnit} {row : FileCenter}
  {parent grouping : String}

/-- A derived parent is the planned one. -/
theorem plannedParent_of_derived (hderived : deriveParentCode row.code (isGrouping file db) = some parent) :
    plannedParent file db row = some parent := by
  have hrow : derivedParent file db row = some parent := hderived
  rw [plannedParent, hrow]
  cases (dbByCode db).get? row.code <;> rfl

/-- Without a derived parent, the planned one of a detail code is the stored one. -/
theorem plannedParent_of_not_derived (hdetail : isDetailCode row.code = true)
    (hderived : deriveParentCode row.code (isGrouping file db) = none) :
    plannedParent file db row = ((dbByCode db).get? row.code).bind (storedParentCode db) := by
  have hrow : derivedParent file db row = none := hderived
  rw [plannedParent, hrow, isRootCode_of_isDetailCode hdetail]
  cases (dbByCode db).get? row.code <;> rfl

/-- A row whose grouping candidate is a grouping row of a stored centre with movement and assets
ends below a centre with movement. -/
theorem finalMovement_of_assets (hfile : (file.map FileCenter.code).Nodup)
    (hgrouping : groupingCandidate row.code = some grouping)
    {above : FileCenter} (habove : above ∈ file) (hcode : above.code = grouping)
    (hflag : above.hasMovement = false) (hkeeps : keepsMovement db above = true) :
    deriveParentCode row.code (isGrouping file db) = some grouping ∧
      finalMovement file db units grouping = some true := by
  have hdetail := isDetailCode_grouping hgrouping
  subst hcode
  refine ⟨(deriveParentCode_grouping hgrouping).mpr ?_, ?_⟩
  · rw [isGrouping_of_row hfile habove hdetail, hflag]
    rfl
  · rw [finalMovement_of_row hfile habove hdetail, hkeeps]
    rfl

/-- No grouping row of the file keeps its movement. -/
theorem NoGroupingWithAssets.keepsMovement_eq (hcodes : (db.map DbCenter.code).Nodup)
    (hassets : NoGroupingWithAssets file db) (hrow : row ∈ file)
    (hgrouping : groupingCandidate row.code = some grouping) :
    ∀ above ∈ file, above.code = grouping → keepsMovement db above = false := by
  intro above habove hcode
  rw [Bool.eq_false_iff]
  intro hkeeps
  obtain ⟨stored, hstored, hsame, hmovement, hflag, hpositive⟩ := (keepsMovement_iff hcodes).mp hkeeps
  have hnone := hassets row hrow grouping hgrouping above habove hcode hflag stored hstored
    (hsame.trans hcode) hmovement
  omega

theorem derivedUnderGroupings_iff (hfile : (file.map FileCenter.code).Nodup)
    (hcodes : (db.map DbCenter.code).Nodup) :
    DerivedUnderGroupings file db units ↔ NoGroupingWithAssets file db := by
  constructor
  · intro hunder row hrow grouping hgrouping above habove hcode hflag stored hstored hsame hmovement
    by_contra hassets
    have hkeeps : keepsMovement db above = true := (keepsMovement_iff hcodes).mpr
      ⟨stored, hstored, hsame.trans hcode.symm, hmovement, hflag, by omega⟩
    obtain ⟨hderived, hfinal⟩ : deriveParentCode row.code (isGrouping file db) = some grouping ∧
        finalMovement file db units grouping = some true :=
      finalMovement_of_assets hfile hgrouping habove hcode hflag hkeeps
    have hdetail := isDetailCode_of_groupingCandidate hgrouping
    have hcenter : planCenter file db units row ∈ (planCostCenterStructure file db units).centers :=
      mem_centers_iff.mpr ⟨row, hrow, by rw [readRow_of_isDetailCode hdetail]⟩
    have hfalse := (hunder _ hcenter grouping hgrouping hderived).2
    rw [hfinal] at hfalse
    cases hfalse
  · intro hassets center hcenter grouping hgrouping hderived
    obtain ⟨row, hrow, rfl⟩ := mem_centers_iff.mp hcenter
    have hcode : (planCenter file db units (readRow row)).code = row.code := readRow_code row
    rw [hcode] at hgrouping hderived
    have hdetail := isDetailCode_of_groupingCandidate hgrouping
    rw [readRow_of_isDetailCode hdetail]
    refine ⟨plannedParent_of_derived hderived, ?_⟩
    exact finalMovement_of_isGrouping hfile (isDetailCode_grouping hgrouping)
      ((deriveParentCode_grouping hgrouping).mp hderived)
      (hassets.keepsMovement_eq hcodes hrow hgrouping)

theorem underGroupings_iff (hfile : (file.map FileCenter.code).Nodup)
    (hcodes : (db.map DbCenter.code).Nodup) (hids : (db.map DbCenter.id).Nodup) :
    UnderGroupings file db units ↔ NoGroupingWithAssets file db ∧ NoKeptGrouping file db := by
  constructor
  · intro hunder
    have hderivedUnder : DerivedUnderGroupings file db units := by
      intro center hcenter grouping hgrouping hderived
      obtain ⟨row, hrow, rfl⟩ := mem_centers_iff.mp hcenter
      have hparent : (planCenter file db units (readRow row)).parentCode = some grouping :=
        plannedParent_of_derived hderived
      exact ⟨hparent, hunder _ hcenter grouping hgrouping hparent⟩
    refine ⟨(derivedUnderGroupings_iff hfile hcodes).mp hderivedUnder, ?_⟩
    intro row hrow grouping hgrouping hnone stored hstored hcode parent hparent hparentId hsame
    have hdetail := isDetailCode_of_groupingCandidate hgrouping
    have hcenter : planCenter file db units row ∈ (planCostCenterStructure file db units).centers :=
      mem_centers_iff.mpr ⟨row, hrow, by rw [readRow_of_isDetailCode hdetail]⟩
    have hkept : plannedParent file db row = some grouping := by
      rw [plannedParent_of_not_derived hdetail hnone, (get?_dbByCode hcodes).mpr ⟨hstored, hcode⟩]
      exact (storedParentCode_eq_some hids).mpr ⟨parent, hparent, hparentId, hsame⟩
    have hfalse := hunder _ hcenter grouping hgrouping hkept
    have hknown : isGrouping file db grouping ≠ some true := by
      intro hknown
      rw [(deriveParentCode_grouping hgrouping).mpr hknown] at hnone
      cases hnone
    have htrue : finalMovement file db units grouping = some true :=
      finalMovement_of_not_isGrouping hfile hcodes (isDetailCode_grouping hgrouping) hparent hsame hknown
    rw [htrue] at hfalse
    cases hfalse
  · rintro ⟨hassets, hkept⟩ center hcenter grouping hgrouping hparent
    have hderivedUnder : DerivedUnderGroupings file db units :=
      (derivedUnderGroupings_iff hfile hcodes).mpr hassets
    obtain ⟨row, hrow, rfl⟩ := mem_centers_iff.mp hcenter
    have hcode : (planCenter file db units (readRow row)).code = row.code := readRow_code row
    have hdetail := isDetailCode_of_groupingCandidate (hcode ▸ hgrouping)
    rw [readRow_of_isDetailCode hdetail] at hcenter hgrouping hparent
    cases hderived : deriveParentCode row.code (isGrouping file db) with
    | some derived =>
      have hsame : some derived = some grouping := (plannedParent_of_derived hderived).symm.trans hparent
      rw [hsame] at hderived
      exact (hderivedUnder _ hcenter grouping hgrouping hderived).2
    | none =>
      have hstoredParent : ((dbByCode db).get? row.code).bind (storedParentCode db) = some grouping :=
        (plannedParent_of_not_derived hdetail hderived).symm.trans hparent
      obtain ⟨stored, hget, hcodeParent⟩ := Option.bind_eq_some_iff.mp hstoredParent
      obtain ⟨hstored, hstoredCode⟩ := (get?_dbByCode hcodes).mp hget
      obtain ⟨parent, hmem, hparentId, hsame⟩ := (storedParentCode_eq_some hids).mp hcodeParent
      exact absurd hsame (hkept row hrow grouping hgrouping hderived stored hstored hstoredCode parent
        hmem hparentId)

end Parents

/-- For every file and every stored centres, the centres that derive their grouping candidate
hang from a grouping one if and only if no such candidate is a grouping row of a stored centre
with movement and assets; all the centres planned below their grouping candidate do if and only
if, besides, none is left below it that does not derive it. -/
theorem centers_under_groupings_iff (file : List FileCenter) (db : List DbCenter) (units : List DbUnit)
    (hfile : (file.map FileCenter.code).Nodup) (hcodes : (db.map DbCenter.code).Nodup)
    (hids : (db.map DbCenter.id).Nodup) :
    (DerivedUnderGroupings file db units ↔ NoGroupingWithAssets file db) ∧
      (UnderGroupings file db units ↔ NoGroupingWithAssets file db ∧ NoKeptGrouping file db) :=
  ⟨derivedUnderGroupings_iff hfile hcodes, underGroupings_iff hfile hcodes hids⟩

/-- A file that makes a stored centre with assets a grouping one and puts another below it. -/
def regroupedFile : List FileCenter :=
  [⟨2, "1110", "Archivo", false, none⟩, ⟨3, "1111", "Archivo central", true, none⟩]

def centerWithAssets : List DbCenter :=
  [⟨⟨"1", by decide⟩, "1110", "Archivo", none, none, true, true, 2⟩]

/-- The new centre goes below the one that keeps its movement. -/
theorem center_under_movement :
    ¬DerivedUnderGroupings regroupedFile centerWithAssets [] ∧
      ¬UnderGroupings regroupedFile centerWithAssets [] := by
  have hcenter : planCenter regroupedFile centerWithAssets [] ⟨3, "1111", "Archivo central", true, none⟩ ∈
      (planCostCenterStructure regroupedFile centerWithAssets []).centers :=
    List.mem_cons_of_mem _ List.mem_cons_self
  have hmovement : finalMovement regroupedFile centerWithAssets [] "1110" = some true := by
    decide +kernel
  have hderived : deriveParentCode "1111" (isGrouping regroupedFile centerWithAssets) = some "1110" := by
    decide +kernel
  refine ⟨fun hunder => ?_, fun hunder => ?_⟩
  · have hfinal := (hunder _ hcenter "1110" (by decide +kernel) hderived).2
    rw [hmovement] at hfinal
    cases hfinal
  · have hfinal := hunder _ hcenter "1110" (by decide +kernel) (by decide +kernel)
    rw [hmovement] at hfinal
    cases hfinal

theorem centers_under_groupings_iff_regrouped :
    (DerivedUnderGroupings regroupedFile centerWithAssets [] ↔
        NoGroupingWithAssets regroupedFile centerWithAssets) ∧
      (UnderGroupings regroupedFile centerWithAssets [] ↔
        NoGroupingWithAssets regroupedFile centerWithAssets ∧
          NoKeptGrouping regroupedFile centerWithAssets) :=
  centers_under_groupings_iff regroupedFile centerWithAssets [] (by decide) (by decide) (by decide)

end InternalControl.CostCenterStructure
