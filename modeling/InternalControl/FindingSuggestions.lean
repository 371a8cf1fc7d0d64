import InternalControl.Text
import Mathlib

/-!
# The suggested category of a finding

A category is suggested for a finding when its lists name the result or the
condition of the item. Of several, the one that says more is suggested, then
the one that is sorted first, then the one with the first code.
-/

namespace InternalControl.FindingSuggestions

open Text

structure SuggestibleCategory where
  code : String
  isActive : Bool
  sortOrder : ℤ
  suggestResults : Option (List String)
  suggestConditions : Option (List String)
  deriving DecidableEq

structure SuggestibleItem where
  result : String
  actualCondition : Option String
  deriving DecidableEq

/-- The values of a list that is there and not empty. -/
def listed (values : Option (List String)) : Option (List String) :=
  values.filter fun values => !values.isEmpty

/-- How well a category fits an item, unless one of its lists leaves the item out. -/
def score (category : SuggestibleCategory) (item : SuggestibleItem) : Option ℕ :=
  let byResult := (listed category.suggestResults).isSome
  let byCondition := (listed category.suggestConditions).isSome
  if !byResult && !byCondition then none
  else if byResult && !(category.suggestResults.getD []).contains item.result then none
  else if byCondition && !item.actualCondition.any (category.suggestConditions.getD []).contains then
    none
  else some ((if byCondition then 2 else 0) + if byResult then 1 else 0)

/-- The category found so far. -/
structure Best where
  code : String
  score : ℕ
  sortOrder : ℤ
  deriving DecidableEq

/-- The strict comparison of two codes with the relational operator. -/
def codeBefore (code other : String) : Bool := decide (units code < units other)

/-- A category with its score replaces the one found so far. -/
def better (found : Best) (best : Option Best) : Bool :=
  match best with
  | none => true
  | some best => best.score < found.score ||
      (found.score == best.score &&
        (decide (found.sortOrder < best.sortOrder) ||
          (found.sortOrder == best.sortOrder && codeBefore found.code best.code)))

/-- One turn of the loop. -/
def consider (item : SuggestibleItem) (best : Option Best) (category : SuggestibleCategory) :
    Option Best :=
  if !category.isActive then best
  else match score category item with
    | none => best
    | some value =>
      let found : Best := ⟨category.code, value, category.sortOrder⟩
      if better found best then some found else best

def suggestFindingCategory (categories : List SuggestibleCategory) (item : SuggestibleItem) :
    Option String :=
  (categories.foldl (consider item) none).map Best.code

/-! ### The loop finds the least rank -/

/-- What an active category that fits the item enters the comparison with. -/
def candidate (item : SuggestibleItem) (category : SuggestibleCategory) : Option Best :=
  if category.isActive then
    (score category item).map fun value => ⟨category.code, value, category.sortOrder⟩
  else none

/-- The place of a candidate: a high score first, then a low sort order, then a low code. -/
def rank (found : Best) : ℕᵒᵈ ×ₗ ℤ ×ₗ List ℕ :=
  toLex (OrderDual.toDual found.score, toLex (found.sortOrder, units found.code))

theorem better_some_iff (found best : Best) :
    better found (some best) = true ↔ rank found < rank best := by
  simp only [better, codeBefore, rank, Prod.Lex.toLex_lt_toLex, OrderDual.toDual_lt_toDual,
    OrderDual.toDual_inj, Bool.or_eq_true, Bool.and_eq_true, decide_eq_true_eq, beq_iff_eq]

theorem consider_eq (item : SuggestibleItem) (best : Option Best) (category : SuggestibleCategory) :
    consider item best category = match candidate item category with
      | some found => List.argAux (fun b c => rank b < rank c) best found
      | none => best := by
  unfold consider candidate
  cases category.isActive with
  | false => rfl
  | true =>
    cases score category item with
    | none => rfl
    | some value =>
      cases best with
      | none => rfl
      | some best =>
        have hbetter := better_some_iff ⟨category.code, value, category.sortOrder⟩ best
        simp only [Bool.not_true, Bool.false_eq_true, if_false, if_true, Option.map_some, List.argAux,
          hbetter]

/-- The loop keeps the first candidate of the least rank. -/
theorem foldl_consider (item : SuggestibleItem) (categories : List SuggestibleCategory) :
    categories.foldl (consider item) none = (categories.filterMap (candidate item)).argmin rank := by
  rw [List.argmin, List.foldl_filterMap]
  congr 1
  funext best category
  rw [consider_eq]
  cases candidate item category <;> rfl

/-! ### The order of the catalogue -/

/-- A category with its score comes before another one with its own. -/
def Precedes (category rival : SuggestibleCategory) (value other : ℕ) : Prop :=
  other < value ∨ value = other ∧
    (category.sortOrder < rival.sortOrder ∨ category.sortOrder = rival.sortOrder ∧
      units category.code < units rival.code)

/-- The score of a category that is in use. -/
def scored (category : SuggestibleCategory) (item : SuggestibleItem) : Option ℕ :=
  if category.isActive then score category item else none

variable {categories : List SuggestibleCategory} {item : SuggestibleItem}
  {category rival : SuggestibleCategory} {value other : ℕ}

theorem candidate_eq_some_iff {found : Best} : candidate item category = some found ↔
    ∃ value, scored category item = some value ∧ found = ⟨category.code, value, category.sortOrder⟩ := by
  unfold candidate scored
  split
  · rw [Option.map_eq_some_iff]
    simp only [eq_comm]
  · simp

theorem precedes_iff_rank_lt : Precedes category rival value other ↔
    rank ⟨category.code, value, category.sortOrder⟩ < rank ⟨rival.code, other, rival.sortOrder⟩ := by
  simp only [Precedes, rank, Prod.Lex.toLex_lt_toLex, OrderDual.toDual_lt_toDual, OrderDual.toDual_inj]

theorem rank_inj {found best : Best} (h : rank found = rank best) : found.code = best.code := by
  have hlast := congrArg (fun place => (ofLex (ofLex place).2).2) h
  exact units_injective hlast

/-- What is suggested fits the item, and no candidate has a lower rank. -/
theorem suggest_eq_some {code : String} (h : suggestFindingCategory categories item = some code) :
    ∃ category ∈ categories, ∃ value, scored category item = some value ∧ category.code = code ∧
      ∀ rival ∈ categories, ∀ other, scored rival item = some other →
        rank ⟨category.code, value, category.sortOrder⟩ ≤ rank ⟨rival.code, other, rival.sortOrder⟩ := by
  rw [suggestFindingCategory, foldl_consider, Option.map_eq_some_iff] at h
  obtain ⟨found, hfound, rfl⟩ := h
  obtain ⟨category, hcategory, hcandidate⟩ := List.mem_filterMap.mp (List.argmin_mem hfound)
  obtain ⟨value, hvalue, rfl⟩ := candidate_eq_some_iff.mp hcandidate
  refine ⟨category, hcategory, value, hvalue, rfl, fun rival hrival other hother => ?_⟩
  have hlisted := List.mem_filterMap.mpr ⟨rival, hrival, candidate_eq_some_iff.mpr ⟨other, hother, rfl⟩⟩
  exact List.le_of_mem_argmin hlisted hfound

theorem suggest_eq_none_iff : suggestFindingCategory categories item = none ↔
    ∀ category ∈ categories, scored category item = none := by
  rw [suggestFindingCategory, foldl_consider, Option.map_eq_none_iff, List.argmin_eq_none,
    List.filterMap_eq_nil_iff]
  refine forall₂_congr fun category _ => ?_
  rw [candidate, scored]
  split
  · exact Option.map_eq_none_iff
  · simp

/-- Of two categories with different codes, one precedes the other. -/
theorem precedes_of_rank_le (hcode : category.code ≠ rival.code)
    (hle : rank ⟨category.code, value, category.sortOrder⟩ ≤ rank ⟨rival.code, other, rival.sortOrder⟩) :
    Precedes category rival value other := by
  refine precedes_iff_rank_lt.mpr (lt_of_le_of_ne hle fun hsame => hcode ?_)
  exact rank_inj hsame

/-- A category that precedes all the others that fit is the one suggested. -/
theorem suggest_of_precedes (hcategory : category ∈ categories) (hvalue : scored category item = some value)
    (hbest : ∀ rival ∈ categories, rival ≠ category → ∀ other, scored rival item = some other →
      Precedes category rival value other) :
    suggestFindingCategory categories item = some category.code := by
  cases hsuggest : suggestFindingCategory categories item with
  | none =>
    have hnone := suggest_eq_none_iff.mp hsuggest category hcategory
    rw [hvalue] at hnone
    cases hnone
  | some code =>
    obtain ⟨winner, hwinner, points, hpoints, rfl, hleast⟩ := suggest_eq_some hsuggest
    by_cases hsame : winner = category
    · rw [hsame]
    · -- the winner precedes the best one and the other way round
      have hlt := precedes_iff_rank_lt.mp (hbest winner hwinner hsame points hpoints)
      exact absurd hlt (not_lt_of_ge (hleast category hcategory value hvalue))

/-- A category is suggested exactly when it is the best one by score, sort order and code,
and none when no category scores: the order of the catalogue does not matter. -/
theorem suggestion_is_the_best (categories : List SuggestibleCategory) (item : SuggestibleItem)
    (hcodes : (categories.map SuggestibleCategory.code).Nodup) :
    (∀ shuffled, shuffled.Perm categories →
      suggestFindingCategory shuffled item = suggestFindingCategory categories item) ∧
    (∀ category ∈ categories, suggestFindingCategory categories item = some category.code ↔
      ∃ value, scored category item = some value ∧
        ∀ rival ∈ categories, rival ≠ category → ∀ other, scored rival item = some other →
          Precedes category rival value other) ∧
    (∀ code, suggestFindingCategory categories item = some code →
      ∃ category ∈ categories, category.code = code) ∧
    (suggestFindingCategory categories item = none ↔
      ∀ category ∈ categories, scored category item = none) := by
  have hbest : ∀ category ∈ categories, suggestFindingCategory categories item = some category.code →
      ∃ value, scored category item = some value ∧
        ∀ rival ∈ categories, rival ≠ category → ∀ other, scored rival item = some other →
          Precedes category rival value other := by
    intro category hcategory hsuggest
    obtain ⟨winner, hwinner, value, hvalue, hcode, hleast⟩ := suggest_eq_some hsuggest
    have hsame : winner = category := List.inj_on_of_nodup_map hcodes hwinner hcategory hcode
    subst hsame
    refine ⟨value, hvalue, fun rival hrival hne other hother => ?_⟩
    have hapart : winner.code ≠ rival.code := fun hcode =>
      hne (List.inj_on_of_nodup_map hcodes hrival hwinner hcode.symm)
    exact precedes_of_rank_le hapart (hleast rival hrival other hother)
  refine ⟨fun shuffled hperm => ?_, fun category hcategory => ⟨hbest category hcategory, ?_⟩,
    fun code hsuggest => ?_, suggest_eq_none_iff⟩
  · cases hsuggest : suggestFindingCategory categories item with
    | none =>
      have hnone := suggest_eq_none_iff.mp hsuggest
      exact suggest_eq_none_iff.mpr fun category hcategory =>
        hnone category (hperm.mem_iff.mp hcategory)
    | some code =>
      obtain ⟨winner, hwinner, -, -, rfl, -⟩ := suggest_eq_some hsuggest
      obtain ⟨value, hvalue, hrivals⟩ := hbest winner hwinner hsuggest
      refine suggest_of_precedes (hperm.mem_iff.mpr hwinner) hvalue fun rival hrival => ?_
      exact hrivals rival (hperm.mem_iff.mp hrival)
  · rintro ⟨value, hvalue, hrivals⟩
    exact suggest_of_precedes hcategory hvalue hrivals
  · obtain ⟨winner, hwinner, -, -, hcode, -⟩ := suggest_eq_some hsuggest
    exact ⟨winner, hwinner, hcode⟩

/-- Two categories for what is not found, and a general one that comes first in the sheet. -/
def missingCatalogue : List SuggestibleCategory :=
  [⟨"OTHER", true, 1, some ["NOT_FOUND", "MISPLACED"], none⟩,
    ⟨"LOST", true, 7, some ["NOT_FOUND"], some ["LOST"]⟩,
    ⟨"GONE", true, 7, some ["NOT_FOUND"], some ["LOST"]⟩]

theorem suggestion_is_the_best_missing :
    suggestFindingCategory missingCatalogue.reverse ⟨"NOT_FOUND", some "LOST"⟩ =
      suggestFindingCategory missingCatalogue ⟨"NOT_FOUND", some "LOST"⟩ :=
  (suggestion_is_the_best missingCatalogue ⟨"NOT_FOUND", some "LOST"⟩ (by decide)).1 _
    (List.reverse_perm missingCatalogue)

example : suggestFindingCategory missingCatalogue ⟨"NOT_FOUND", some "LOST"⟩ = some "GONE" := by
  decide +kernel

end InternalControl.FindingSuggestions
