import InternalControl.OrgChartPlacing
import Mathlib.Data.List.TakeWhile

/-!
# The codes of new units

A new unit without a code gets one from its prefix or its name. The search for a
free number behind it has no bound of its own: it ends because different numbers
give different codes, and the code keeps its form while it is cut to make room.
-/

namespace InternalControl.OrgChart

open Text

variable {c : Char} {code trimmed : String} {used : List String}

/-! ### The form of a code -/

/-- A code of the form has a capital first and characters of a code after it. -/
theorem unitCodePattern_iff : unitCodePattern code = true ↔ ∃ first rest,
    code.toList = first :: rest ∧ first.isUpper = true ∧ ∀ c ∈ rest, isUnitCodeChar c = true := by
  unfold unitCodePattern
  cases code.toList with
  | nil => simp
  | cons first rest => simp

theorem isUnitCodeChar_of_isUpper (hc : c.isUpper = true) : isUnitCodeChar c = true := by
  simp [isUnitCodeChar, hc]

theorem isUnitCodeChar_of_isDigit (hc : c.isDigit = true) : isUnitCodeChar c = true := by
  simp [isUnitCodeChar, hc]

/-- The length of a text of code characters counts them. -/
theorem utf16Length_of_unitCodeChars (hcode : ∀ c ∈ code.toList, isUnitCodeChar c = true) :
    utf16Length code = code.toList.length := by
  refine utf16Length_of_single fun c hc => ?_
  have hsmall := toNat_lt_of_isUnitCodeChar (hcode c hc)
  omega

theorem isUnitCodeChar_of_unitCodePattern (hcode : unitCodePattern code = true) :
    ∀ c ∈ code.toList, isUnitCodeChar c = true := by
  obtain ⟨first, rest, hlist, hfirst, hrest⟩ := unitCodePattern_iff.mp hcode
  intro c hc
  rw [hlist] at hc
  rcases List.mem_cons.mp hc with rfl | hc
  · exact isUnitCodeChar_of_isUpper hfirst
  · exact hrest c hc

/-! ### The code to try first -/

theorem isUnitCodeChar_underscored (cs : List Char) :
    ∀ c ∈ underscored cs, isUnitCodeChar c = true := by
  induction cs with
  | nil => exact fun c hc => absurd hc List.not_mem_nil
  | cons first rest ih =>
    intro c hc
    rw [underscored] at hc
    split at hc
    · next hplain =>
      rcases List.mem_cons.mp hc with rfl | hc
      · simp only [isUnitCodeChar, hplain, Bool.true_or]
      · exact ih c hc
    · split at hc
      · next tail htail =>
        rw [htail] at ih
        exact ih c hc
      · rcases List.mem_cons.mp hc with rfl | hc
        · rfl
        · exact ih c hc

theorem dropEnd_isPrefix (test : Char → Bool) (cs : List Char) : dropEnd test cs <+: cs := by
  have hsuffix := List.reverse_prefix.mpr (List.dropWhile_suffix (l := cs.reverse) test)
  rwa [List.reverse_reverse] at hsuffix

/-- What ends the text stays when it does not pass the test. -/
theorem dropEnd_ne_nil {test : Char → Bool} {cs : List Char} (hc : c ∈ cs) (htest : test c = false) :
    dropEnd test cs ≠ [] := by
  intro hnil
  rw [dropEnd, List.reverse_eq_nil_iff, List.dropWhile_eq_nil_iff] at hnil
  have hpassed := hnil c (List.mem_reverse.mpr hc)
  rw [htest] at hpassed
  cases hpassed

theorem isUnitCodeChar_asciiSlug (unicode : Unicode) (name : String) :
    ∀ c ∈ (asciiSlug unicode name).toList, isUnitCodeChar c = true := by
  intro c hc
  rw [asciiSlug, String.toList_ofList] at hc
  have hkept := (dropEnd_isPrefix _ _).subset hc
  exact isUnitCodeChar_underscored _ c ((List.dropWhile_suffix _).subset hkept)

/-- The start of a code: cut to the length and freed of the underscores at its end,
it keeps the form of one. -/
theorem unitCodePattern_cut {first : Char} {rest : List Char} (hfirst : first.isUpper = true)
    (hrest : ∀ c ∈ rest, isUnitCodeChar c = true) :
    ∃ tail, dropEnd (· == '_') ((first :: rest).take unitCodeMax) = first :: tail ∧
      tail.length < unitCodeMax ∧ ∀ c ∈ tail, isUnitCodeChar c = true := by
  have hunder : (first == '_') = false := by
    rw [beq_eq_false_iff_ne]
    rintro rfl
    exact absurd hfirst (by decide)
  have htake : (first :: rest).take unitCodeMax = first :: rest.take 19 := rfl
  have hprefixed := dropEnd_isPrefix (· == '_') (first :: rest.take 19)
  have hfirst_mem : first ∈ first :: rest.take 19 := List.mem_cons_self
  have hne : dropEnd (· == '_') (first :: rest.take 19) ≠ [] :=
    dropEnd_ne_nil hfirst_mem hunder
  rw [htake]
  generalize dropEnd (· == '_') (first :: rest.take 19) = kept at hprefixed hne
  cases kept with
  | nil => exact absurd rfl hne
  | cons head tail =>
    obtain ⟨rfl, htail⟩ := List.cons_prefix_cons.mp hprefixed
    have hlength := htail.length_le
    rw [List.length_take] at hlength
    refine ⟨tail, rfl, ?_, fun c hc => hrest c (List.mem_of_mem_take (htail.subset hc))⟩
    have hmax : unitCodeMax = 20 := rfl
    omega

/-- The code to try first has the form and the length of a code, for every prefix of digits
and for every name. -/
theorem unitCodeBase_spec (unicode : Unicode) {prefixText : Option String}
    (hdigits : ∀ text ∈ present prefixText, prefixPattern text = true) (name : String) :
    unitCodePattern (unitCodeBase unicode prefixText name) = true ∧
      (unitCodeBase unicode prefixText name).toList.length ≤ unitCodeMax := by
  unfold unitCodeBase
  extract_lets slug base kept
  have hbase : ∃ first rest, base.toList = first :: rest ∧ first.isUpper = true ∧
      ∀ c ∈ rest, isUnitCodeChar c = true := by
    have hslug := isUnitCodeChar_asciiSlug unicode name
    unfold base
    cases hprefixed : present prefixText with
    | some text =>
      have hpattern := hdigits text hprefixed
      rw [prefixPattern, allDigits, Bool.and_eq_true, Bool.and_eq_true] at hpattern
      refine ⟨'U', text.toList, by simp [String.toList_append], rfl, fun c hc => ?_⟩
      exact isUnitCodeChar_of_isDigit (List.all_eq_true.mp hpattern.1.2 c hc)
    | none =>
      dsimp only
      split
      · next hupper =>
        cases hlist : slug.toList with
        | nil => simp [hlist] at hupper
        | cons first rest =>
          rw [hlist] at hupper
          refine ⟨first, rest, rfl, by simpa using hupper, fun c hc => hslug c ?_⟩
          exact hlist ▸ List.mem_cons_of_mem _ hc
      · refine ⟨'U', '_' :: slug.toList, by simp [String.toList_append], rfl, fun c hc => ?_⟩
        rcases List.mem_cons.mp hc with rfl | hc
        · rfl
        · exact hslug c hc
  obtain ⟨first, rest, hlist, hfirst, hrest⟩ := hbase
  obtain ⟨tail, hcut, hlength, htail⟩ := unitCodePattern_cut hfirst hrest
  have hkept : kept.toList = first :: tail := by
    unfold kept
    rw [String.toList_ofList, hlist, hcut]
  have hpresent : present (some kept) = some kept := by
    refine present_eq_some.mpr ⟨rfl, fun hempty => ?_⟩
    rw [hempty] at hkept
    cases hkept
  rw [hpresent, Option.getD_some]
  refine ⟨unitCodePattern_iff.mpr ⟨first, tail, hkept, hfirst, htail⟩, ?_⟩
  rw [hkept, List.length_cons]
  omega

/-! ### The search for a free number -/

/-- A candidate with a number of at most seven digits has the form and the length of a code. -/
theorem unitCodeCandidate_spec (htrimmed : unitCodePattern trimmed = true) {suffix : ℕ}
    (hsuffix : suffix < 10 ^ 7) :
    unitCodePattern (unitCodeCandidate trimmed suffix) = true ∧
      (unitCodeCandidate trimmed suffix).toList.length ≤ unitCodeMax := by
  obtain ⟨first, rest, hlist, hfirst, hrest⟩ := unitCodePattern_iff.mp htrimmed
  have hdigits : (Nat.toDigits 10 suffix).length ≤ 7 :=
    Nat.length_toDigits_le_iff (by decide) (by decide) |>.mpr hsuffix
  have hrepr : (toString suffix).toList = Nat.toDigits 10 suffix := Nat.toList_repr
  have htail : ("_" ++ toString suffix).length = (Nat.toDigits 10 suffix).length + 1 := by
    rw [← String.length_toList, String.toList_append, hrepr, List.length_append]
    exact Nat.add_comm 1 _
  have hmax : unitCodeMax = 20 := rfl
  have hcandidate : (unitCodeCandidate trimmed suffix).toList =
      first :: (rest.take (18 - (Nat.toDigits 10 suffix).length) ++ '_' :: Nat.toDigits 10 suffix) := by
    have hkept : unitCodeMax - ("_" ++ toString suffix).length =
        18 - (Nat.toDigits 10 suffix).length + 1 := by omega
    unfold unitCodeCandidate
    dsimp only
    rw [if_pos (by omega), hkept, hlist, String.toList_append, String.toList_ofList,
      String.toList_append, hrepr, List.take_succ_cons]
    rfl
  constructor
  · refine unitCodePattern_iff.mpr ⟨first, _, hcandidate, hfirst, fun c hc => ?_⟩
    rcases List.mem_append.mp hc with hc | hc
    · exact hrest c (List.mem_of_mem_take hc)
    · rcases List.mem_cons.mp hc with rfl | hc
      · rfl
      · exact isUnitCodeChar_of_isDigit (Nat.isDigit_of_mem_toDigits (by decide) (by decide) hc)
  · rw [hcandidate, List.length_cons, List.length_append, List.length_cons, List.length_take]
    omega

/-- The loop of the search, cut after some turns: the candidate of the first number from
`suffix` on that is not in use. -/
def searchFrom (trimmed : String) (used : List String) : ℕ → ℕ → Option String
  | 0, _ => none
  | turns + 1, suffix =>
    if unitCodeCandidate trimmed suffix ∉ used then some (unitCodeCandidate trimmed suffix)
    else searchFrom trimmed used turns (suffix + 1)

/-- The code of a new unit, when its search ends within some turns. -/
def generateWithin (turns : ℕ) (unicode : Unicode) (prefixText : Option String) (name : String)
    (used : List String) : Option String :=
  let trimmed := unitCodeBase unicode prefixText name
  if trimmed ∉ used then some trimmed else searchFrom trimmed used turns 2

theorem searchFrom_eq_find? (trimmed : String) (used : List String) (turns suffix : ℕ) :
    searchFrom trimmed used turns suffix =
      ((List.range' suffix turns).map (unitCodeCandidate trimmed)).find? fun code => code ∉ used := by
  induction turns generalizing suffix with
  | zero => rfl
  | succ turns ih =>
    rw [searchFrom, List.range'_succ, List.map_cons, List.find?_cons, ih]
    by_cases hfree : unitCodeCandidate trimmed suffix ∉ used <;> simp [hfree]

/-- The candidates that the search passes by are in use. They differ, so they are fewer than
the codes in use. -/
theorem exists_searchFrom (trimmed : String) (used : List String) (suffix : ℕ) :
    ∃ passed ≤ used.toFinset.card, unitCodeCandidate trimmed (suffix + passed) ∉ used ∧
      ∀ more, searchFrom trimmed used (passed + 1 + more) suffix =
        some (unitCodeCandidate trimmed (suffix + passed)) := by
  have hfree : ∃ passed ≤ used.toFinset.card, unitCodeCandidate trimmed (suffix + passed) ∉ used := by
    by_contra hnone
    push Not at hnone
    have hcard : (Finset.range (used.toFinset.card + 1)).card ≤ used.toFinset.card := by
      refine Finset.card_le_card_of_injOn (fun n => unitCodeCandidate trimmed (suffix + n)) ?_ ?_
      · intro n hn
        have hle := Nat.le_of_lt_succ (Finset.mem_range.mp hn)
        exact List.mem_toFinset.mpr (hnone n hle)
      · intro m _ n _ hsame
        have hsum := unitCodeCandidate_injective trimmed hsame
        omega
    rw [Finset.card_range] at hcard
    omega
  -- the first free one
  have hfirst := Nat.find_spec hfree
  have hleast : ∀ n < Nat.find hfree, unitCodeCandidate trimmed (suffix + n) ∈ used := by
    intro n hn
    have hnot := Nat.find_min hfree hn
    by_contra hnew
    exact hnot ⟨by omega, hnew⟩
  refine ⟨Nat.find hfree, hfirst.1, hfirst.2, fun more => ?_⟩
  generalize Nat.find hfree = passed at hfirst hleast ⊢
  have hnew := hfirst.2
  clear hfirst hfree
  induction passed generalizing suffix with
  | zero =>
    rw [show 0 + 1 + more = more + 1 by omega, searchFrom]
    exact if_pos hnew
  | succ passed ih =>
    have htaken : unitCodeCandidate trimmed suffix ∈ used := hleast 0 (by omega)
    have hnext : suffix + (passed + 1) = suffix + 1 + passed := by omega
    rw [show passed + 1 + 1 + more = passed + 1 + more + 1 by omega, searchFrom,
      if_neg (not_not.mpr htaken), hnext]
    rw [hnext] at hnew
    refine ih (suffix + 1) (fun n hn => ?_) hnew
    have hbefore := hleast (n + 1) (by omega)
    rwa [show suffix + (n + 1) = suffix + 1 + n by omega] at hbefore

/-- The bounded search of a plan is the loop, cut where it has ended. -/
theorem generateWithin_eq (unicode : Unicode) (prefixText : Option String) (name : String)
    (used : List String) :
    generateWithin (used.length + 1) unicode prefixText name used =
      some (generateUnitCode unicode prefixText name used) := by
  unfold generateWithin generateUnitCode
  extract_lets trimmed
  split
  · rfl
  · obtain ⟨passed, hpassed, -, hsearch⟩ := exists_searchFrom trimmed used 2
    have hcard := used.toFinset_card_le
    have hfound := hsearch (used.length - passed)
    rw [show passed + 1 + (used.length - passed) = used.length + 1 by omega] at hfound
    have hlist : (List.range (used.length + 1)).map (fun n => unitCodeCandidate trimmed (n + 2)) =
        (List.range' 2 (used.length + 1)).map (unitCodeCandidate trimmed) := by
      rw [List.range'_eq_map_range, List.map_map]
      refine List.map_congr_left fun n _ => ?_
      rw [Function.comp_apply, Nat.add_comm]
    rw [hfound, hlist, ← searchFrom_eq_find?, hfound]
    rfl

/-- For every prefix of digits or none, every name and fewer than a million codes in use, the
search ends, and its code is new and has the form and the length of a code. -/
theorem generated_code_is_new (unicode : Unicode) (prefixText : Option String) (name : String)
    (used : List String) (hdigits : ∀ text ∈ present prefixText, prefixPattern text = true)
    (hused : used.toFinset.card < 1000000) :
    ∃ turns, ∀ more, generateWithin (turns + more) unicode prefixText name used =
        some (generateUnitCode unicode prefixText name used) ∧
      generateUnitCode unicode prefixText name used ∉ used ∧
      utf16Length (generateUnitCode unicode prefixText name used) ≤ unitCodeMax ∧
      unitCodePattern (generateUnitCode unicode prefixText name used) = true := by
  obtain ⟨hpattern, hlength⟩ := unitCodeBase_spec unicode hdigits name
  have hplan := generateWithin_eq unicode prefixText name used
  have hends : ∃ turns code, (∀ more, generateWithin (turns + more) unicode prefixText name used =
      some code) ∧ code.toList.length ≤ unitCodeMax ∧ unitCodePattern code = true := by
    unfold generateWithin
    generalize unitCodeBase unicode prefixText name = trimmed at hpattern hlength
    dsimp only
    split
    · exact ⟨0, trimmed, fun more => rfl, hlength, hpattern⟩
    · obtain ⟨passed, hpassed, -, hsearch⟩ := exists_searchFrom trimmed used 2
      have hsuffix : 2 + passed < 10 ^ 7 := by omega
      obtain ⟨hform, hshort⟩ := unitCodeCandidate_spec hpattern hsuffix
      exact ⟨passed + 1, _, hsearch, hshort, hform⟩
  obtain ⟨turns, code, hwithin, hshort, hform⟩ := hends
  -- the plan's search took no other code
  have hcode : generateUnitCode unicode prefixText name used = code := by
    have hmore := hwithin (used.length + 1)
    have hlong : generateWithin (turns + (used.length + 1)) unicode prefixText name used =
        some (generateUnitCode unicode prefixText name used) := by
      unfold generateWithin at hplan ⊢
      dsimp only at hplan ⊢
      split at hplan
      · next hfree => rwa [if_pos hfree]
      · next htaken =>
        rw [if_neg htaken]
        obtain ⟨passed, hpassed, -, hsearch⟩ :=
          exists_searchFrom (unitCodeBase unicode prefixText name) used 2
        have hcard := used.toFinset_card_le
        have hshorter := hsearch (used.length - passed)
        have hlonger := hsearch (used.length - passed + turns)
        rw [show passed + 1 + (used.length - passed) = used.length + 1 by omega] at hshorter
        rw [show passed + 1 + (used.length - passed + turns) = turns + (used.length + 1) by omega]
          at hlonger
        rw [hlonger, ← hshorter, hplan]
    exact Option.some.inj (hlong.symm.trans hmore)
  subst hcode
  refine ⟨turns, fun more => ⟨hwithin more, generateUnitCode_notMem unicode _ _ _, ?_, hform⟩⟩
  rw [utf16Length_of_unitCodeChars (isUnitCodeChar_of_unitCodePattern hform)]
  exact hshort

/-- A name without Latin letters, beside a unit that already has the letter alone. -/
theorem generated_code_is_new_letterless : ∃ turns, ∀ more,
    generateWithin (turns + more) Unicode.ascii none "東京" ["U"] =
        some (generateUnitCode Unicode.ascii none "東京" ["U"]) ∧
      generateUnitCode Unicode.ascii none "東京" ["U"] ∉ ["U"] ∧
      utf16Length (generateUnitCode Unicode.ascii none "東京" ["U"]) ≤ unitCodeMax ∧
      unitCodePattern (generateUnitCode Unicode.ascii none "東京" ["U"]) = true :=
  generated_code_is_new Unicode.ascii none "東京" ["U"] nofun (by decide)

example : generateUnitCode Unicode.ascii none "東京" ["U"] = "U_2" := by decide +kernel

end InternalControl.OrgChart
