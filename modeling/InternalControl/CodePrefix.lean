import Mathlib.Data.List.Sort
import InternalControl.Text

/-!
# Cost centre codes and unit prefixes

Detail codes have four digits. Their place in the structure is read off the
digits: the grouping code ending in zero above a code, and the unit with the
longest prefix of it.
-/

namespace InternalControl.CodePrefix

open Text

/-- DETAIL_CODE_LENGTH. -/
def detailCodeLength : ℕ := 4

/-- Four decimal digits. -/
def isDetailCode (code : String) : Bool :=
  utf16Length code == detailCodeLength && allDigits code

/-- One decimal digit. -/
def isRootCode (code : String) : Bool := utf16Length code == 1 && allDigits code

/-- The text with a character behind it until it has the length. -/
def padEnd (text : String) (length : ℕ) (c : Char) : String :=
  text ++ String.ofList (List.replicate (length - utf16Length text) c)

/-- The codes of a prefix. -/
structure PrefixRange where
  from_ : String
  to_ : String

/-- The first and the last detail code of a prefix. -/
def prefixRange (codePrefix : String) : PrefixRange where
  from_ := padEnd codePrefix detailCodeLength '0'
  to_ := padEnd codePrefix detailCodeLength '9'

/-- The code begins with the prefix. -/
def codeMatchesPrefix (code unitPrefix : String) : Bool := startsWith code unitPrefix

/-- A code that may stand above another one. -/
structure ParentCandidate where
  /-- The code above. -/
  code : String
  /-- Only a grouping centre counts under this candidate. -/
  mustBeGrouping : Bool
  deriving DecidableEq

/-- Keep the candidates whose code was not seen before. -/
def dropSeen : List String → List ParentCandidate → List ParentCandidate
  | _, [] => []
  | seen, candidate :: rest =>
    if candidate.code ∈ seen then dropSeen seen rest
    else candidate :: dropSeen (candidate.code :: seen) rest

/-- The codes that may stand above a detail code, nearest first. -/
def parentCandidates (code : String) : List ParentCandidate :=
  if isDetailCode code then
    dropSeen [code]
      [⟨sliceTo code 3 ++ "0", true⟩, ⟨sliceTo code 2 ++ "00", false⟩,
        ⟨sliceTo code 1 ++ "000", false⟩, ⟨sliceTo code 1, false⟩]
  else []

/-- A candidate counts when it is known and, where it must be, a grouping one. -/
def isParent (isGrouping : String → Option Bool) (candidate : ParentCandidate) : Bool :=
  (isGrouping candidate.code).any fun grouping => !candidate.mustBeGrouping || grouping

/-- The first candidate that counts. -/
def deriveParentCode (code : String) (isGrouping : String → Option Bool) : Option String :=
  ((parentCandidates code).find? (isParent isGrouping)).map ParentCandidate.code

/-- The unit with the longest prefix of the code, the first of equals. -/
def longestPrefix {α : Type*} (codePrefix : α → String) (code : String) (units : List α) :
    Option α :=
  ((units.filter fun unit => codeMatchesPrefix code (codePrefix unit)).insertionSort
    fun left right => utf16Length (codePrefix right) ≤ utf16Length (codePrefix left)).head?

/-- The grouping code above a detail code that ends neither in zero nor in five. -/
def expectedParentCode (code : String) : Option String :=
  if !isDetailCode code then none
  else if code.toList[3]? = some '0' || code.toList[3]? = some '5' then none
  else some (sliceTo code 3 ++ "0")

/-- Where the rule puts a centre. -/
structure CenterParentResolution where
  /-- The code of the parent, when it exists. -/
  parentCode : Option String
  /-- The code the rule asks for and nobody has. -/
  missingParentCode : Option String

/-- The parent code of a centre, if it exists, and the missing one otherwise. -/
def resolveCenterParent (code : String) (codeExists : String → Bool) : CenterParentResolution :=
  match expectedParentCode code with
  | none => ⟨none, none⟩
  | some expected => if codeExists expected then ⟨some expected, none⟩ else ⟨none, some expected⟩

/-- The unit whose prefix a centre's code falls under. -/
def resolveCenterUnit {α : Type*} (codePrefix : α → String) (code : String) (units : List α) :
    Option α := longestPrefix codePrefix code units

/-- What the rule finds is a unit of the list whose prefix the code has. -/
theorem mem_of_resolveCenterUnit {α : Type*} {codePrefix : α → String} {code : String}
    {units : List α} {unit : α} (h : resolveCenterUnit codePrefix code units = some unit) :
    unit ∈ units ∧ codeMatchesPrefix code (codePrefix unit) = true := by
  have hmem := List.mem_of_head? h
  rw [List.mem_insertionSort, List.mem_filter] at hmem
  exact hmem

/-- Changing units but not their prefixes changes the unit found the same way. -/
theorem resolveCenterUnit_map {α : Type*} {codePrefix : α → String} {change : α → α}
    (hchange : ∀ unit, codePrefix (change unit) = codePrefix unit) (code : String)
    (units : List α) :
    resolveCenterUnit codePrefix code (units.map change) =
      (resolveCenterUnit codePrefix code units).map change := by
  unfold resolveCenterUnit longestPrefix
  rw [List.filter_map, ← List.head?_map]
  congr 1
  simp only [Function.comp_def, hchange]
  refine (List.map_insertionSort _ _ _ _ fun a _ b _ => ?_).symm
  rw [hchange, hchange]

/-- A rule result is the code it was asked about, and that code exists. -/
theorem exists_of_resolveCenterParent {code : String} {codeExists : String → Bool} {parent : String}
    (h : (resolveCenterParent code codeExists).parentCode = some parent) :
    expectedParentCode code = some parent ∧ codeExists parent = true := by
  unfold resolveCenterParent at h
  cases he : expectedParentCode code with
  | none => simp [he] at h
  | some expected =>
    by_cases hx : codeExists expected = true
    · rw [he] at h
      simp only [hx, if_true, Option.some.injEq] at h
      exact ⟨by rw [h], h ▸ hx⟩
    · simp [he, hx] at h

end InternalControl.CodePrefix
