import Mathlib.Data.List.Forall2
import Mathlib.Data.List.Infix
import Mathlib.Tactic.Common

/-!
# Matching a text against a LIKE pattern

A percent sign stands for any text, an underscore for any one character, and
a backslash takes the meaning away from the character behind it. A pattern
built from a text is safe only if the text has none of the three.
-/

namespace InternalControl.SqlLike

/-- A part of a pattern. -/
inductive Token where
  | literal (c : Char)
  | one
  | many
  deriving DecidableEq

/-- The meaning of a character of a pattern. -/
def token (c : Char) : Token := if c = '%' then .many else if c = '_' then .one else .literal c

/-- The parts of a pattern. -/
def tokens : List Char → List Token
  | [] => []
  | [c] => [token c]
  | c :: d :: rest => if c = '\\' then .literal d :: tokens rest else token c :: tokens (d :: rest)

/-- Whether a text is made of the parts in order. -/
def matchesTokens : List Token → List Char → Bool
  | [], text => text.isEmpty
  | .many :: parts, text => text.tails.any fun rest => matchesTokens parts rest
  | .one :: parts, text => text.tail?.any fun rest => matchesTokens parts rest
  | .literal c :: parts, text =>
    text.head? == some c && text.tail?.any fun rest => matchesTokens parts rest

/-- Whether a text matches a pattern. -/
def like (pattern text : List Char) : Bool := matchesTokens (tokens pattern) text

/-- A character of a pattern that stands for one character of the text. -/
def isOneChar (c : Char) : Bool := c != '%' && c != '\\'

/-- Characters that each match one of the text, an underscore any of them. -/
def SameButUnderscores : List Char → List Char → Prop :=
  List.Forall₂ fun p c => p = '_' ∨ p = c

theorem SameButUnderscores.length_eq {pattern text : List Char}
    (h : SameButUnderscores pattern text) : pattern.length = text.length := List.Forall₂.length_eq h

theorem sameButUnderscores_refl (text : List Char) : SameButUnderscores text text := by
  induction text with
  | nil => exact List.Forall₂.nil
  | cons c rest ih => exact List.Forall₂.cons (Or.inr rfl) ih

/-- Without underscores only the text itself matches. -/
theorem SameButUnderscores.eq_of_plain {pattern text : List Char}
    (h : SameButUnderscores pattern text) (hplain : ∀ c ∈ pattern, c ≠ '_') : text = pattern := by
  induction h with
  | nil => rfl
  | cons hc _ ih =>
    rw [ih fun c hmem => hplain c (List.mem_cons_of_mem _ hmem),
      hc.resolve_left (hplain _ List.mem_cons_self)]

theorem like_percent (text : List Char) : like ['%'] text = true := by
  rw [like, tokens, token, if_pos rfl, matchesTokens, List.any_eq_true]
  exact ⟨[], (List.mem_tails _ _).mpr (List.nil_suffix), rfl⟩

/-- The first part of a pattern whose first character stands for one character. -/
theorem tokens_cons {p : Char} (hp : isOneChar p = true) (pattern : List Char) :
    tokens (p :: pattern) = token p :: tokens pattern := by
  simp only [isOneChar, Bool.and_eq_true, bne_iff_ne] at hp
  cases pattern with
  | nil => rfl
  | cons q rest => rw [tokens, if_neg hp.2]

/-- One pattern character against the front of the text. -/
theorem like_cons {p : Char} (hp : isOneChar p = true) (pattern text : List Char) :
    like (p :: pattern) text = true ↔
      ∃ c rest, text = c :: rest ∧ (p = '_' ∨ p = c) ∧ like pattern rest = true := by
  have hmany : p ≠ '%' := by
    simp only [isOneChar, Bool.and_eq_true, bne_iff_ne] at hp
    exact hp.1
  rw [like, tokens_cons hp, token, if_neg hmany]
  by_cases hone : p = '_'
  · rw [if_pos hone, matchesTokens]
    cases text <;> simp [hone, like]
  · rw [if_neg hone, matchesTokens]
    cases text with
    | nil => simp
    | cons c rest =>
      simp only [List.head?_cons, List.tail?_cons, Option.any_some, Bool.and_eq_true, beq_iff_eq,
        Option.some.injEq, List.cons.injEq, hone, false_or, like]
      constructor
      · rintro ⟨rfl, hrest⟩
        exact ⟨_, _, ⟨rfl, rfl⟩, rfl, hrest⟩
      · rintro ⟨_, _, ⟨rfl, rfl⟩, rfl, hrest⟩
        exact ⟨rfl, hrest⟩

/-- The front of a pattern that stands for single characters is matched by the
front of the text. -/
theorem like_append {start : List Char} (hstart : ∀ c ∈ start, isOneChar c = true)
    (pattern text : List Char) :
    like (start ++ pattern) text = true ↔ ∃ front rest,
      text = front ++ rest ∧ SameButUnderscores start front ∧ like pattern rest = true := by
  induction start generalizing text with
  | nil =>
    constructor
    · intro hlike
      exact ⟨[], text, rfl, List.Forall₂.nil, hlike⟩
    · rintro ⟨front, rest, rfl, hsame, hlike⟩
      cases hsame
      exact hlike
  | cons p start ih =>
    have hp := hstart p List.mem_cons_self
    have hrest : ∀ c ∈ start, isOneChar c = true := fun c hc => hstart c (List.mem_cons_of_mem _ hc)
    rw [List.cons_append, like_cons hp]
    constructor
    · rintro ⟨c, text, rfl, hc, hlike⟩
      obtain ⟨front, rest, rfl, hsame, hlike⟩ := (ih hrest _).mp hlike
      exact ⟨c :: front, rest, rfl, List.Forall₂.cons hc hsame, hlike⟩
    · rintro ⟨front, rest, rfl, hsame, hlike⟩
      cases hsame with
      | cons hc hsame =>
        exact ⟨_, _, rfl, hc, (ih hrest _).mpr ⟨_, rest, rfl, hsame, hlike⟩⟩

/-- A start, a separator and then anything. -/
theorem like_append_separator {start : List Char} (hstart : ∀ c ∈ start, isOneChar c = true)
    {separator : Char} (hone : isOneChar separator = true) (hplain : separator ≠ '_')
    (text : List Char) :
    like (start ++ [separator, '%']) text = true ↔ ∃ front rest,
      text = front ++ separator :: rest ∧ SameButUnderscores start front := by
  rw [like_append hstart]
  constructor
  · rintro ⟨front, rest, rfl, hsame, hlike⟩
    obtain ⟨c, rest, rfl, hc, -⟩ := (like_cons hone _ _).mp hlike
    exact ⟨front, rest, by rw [hc.resolve_left hplain], hsame⟩
  · rintro ⟨front, rest, rfl, hsame⟩
    refine ⟨front, separator :: rest, rfl, hsame, (like_cons hone _ _).mpr ?_⟩
    exact ⟨separator, rest, rfl, Or.inr rfl, like_percent rest⟩

end InternalControl.SqlLike
