import InternalControl.CodeUnits
import Mathlib.Data.List.DropRight

/-!
# Addresses and variables in mails

An address of a mail is a variable alone or a literal address over https. Spaces around it
do not change whether it is allowed.
-/

namespace InternalControl.EmailUrl

open CodeUnits

/-- A code unit that is a space or a line end. -/
def isSpaceUnit (u : UInt16) : Bool :=
  u.toNat ∈ [9, 10, 11, 12, 13, 32, 160, 5760, 8232, 8233, 8239, 8287, 12288, 65279] ||
    (8192 ≤ u.toNat && u.toNat ≤ 8202)

/-- Without the spaces at both ends. -/
def trimUnits (units : Units) : Units := (units.dropWhile isSpaceUnit).rdropWhile isSpaceUnit

/-- A character of the name of a variable. -/
def tokenUnit (u : UInt16) : Bool :=
  (97 ≤ u && u ≤ 122) || (65 ≤ u && u ≤ 90) || (48 ≤ u && u ≤ 57) || u == 95 || u == 46

/-- What follows two characters of a kind at the start. -/
def afterPair (mark : UInt16) : Units → Option Units
  | u :: v :: rest => if u == mark && v == mark then some rest else none
  | _ => none

/-- Two characters of a kind in a row. -/
def hasPair (mark : UInt16) : Units → Bool
  | [] => false
  | u :: rest => (afterPair mark (u :: rest)).isSome || hasPair mark rest

/-- The braces around a variable. -/
def openBrace : UInt16 := 123

def closeBrace : UInt16 := 125

/-- The name of the variable that a text starts with, and what follows it. -/
def tokenAtStart (units : Units) : Option (Units × Units) := do
  let inner ← afterPair openBrace units
  let named := inner.dropWhile isSpaceUnit
  if named.takeWhile tokenUnit = [] then none
  let rest ← afterPair closeBrace ((named.dropWhile tokenUnit).dropWhile isSpaceUnit)
  return (named.takeWhile tokenUnit, rest)

/-- The variable an address is, spaces around it apart. -/
def buttonUrlToken (url : Units) : Option Units :=
  match tokenAtStart (trimUnits url) with
  | some (name, []) => some name
  | _ => none

section Urls

-- `parsesAsHttps` tells whether the runtime reads an address as one over https
variable (parsesAsHttps : Units → Bool)

/-- A literal address over https, with no space and no variable. -/
def isHttpsLiteral (value : Units) : Bool :=
  (plain "https://").isPrefixOf value &&
    !(value.any isSpaceUnit || hasPair openBrace value || hasPair closeBrace value) &&
    parsesAsHttps value

/-- An address that a mail may have. -/
def isAllowedDesignUrl (url : Units) : Bool :=
  (buttonUrlToken url).isSome || isHttpsLiteral parsesAsHttps url

/-! ### Spaces around an address -/

/-- What is left in front of a text without spaces at its end starts as the text does. -/
theorem dropWhile_rdropWhile {p : UInt16 → Bool} {units : Units}
    (h : units.dropWhile p = units) : (units.rdropWhile p).dropWhile p = units.rdropWhile p := by
  have hcut := List.rdropWhile_prefix p units
  cases hkept : units.rdropWhile p with
  | nil => rfl
  | cons u rest =>
    rw [hkept] at hcut
    obtain ⟨tail, rfl⟩ := hcut
    have hfirst := List.head?_dropWhile_not p (u :: rest ++ tail)
    rw [h] at hfirst
    exact List.dropWhile_cons_of_neg (by simpa using hfirst)

/-- A trimmed text has no spaces at its ends. -/
theorem trimUnits_trimUnits (units : Units) : trimUnits (trimUnits units) = trimUnits units := by
  have hfront : (units.dropWhile isSpaceUnit).dropWhile isSpaceUnit = units.dropWhile isSpaceUnit :=
    List.dropWhile_idempotent _ _
  rw [trimUnits, trimUnits, dropWhile_rdropWhile hfront]
  exact List.rdropWhile_idempotent _ _

theorem length_trimUnits_le (units : Units) : (trimUnits units).length ≤ units.length :=
  (List.rdropWhile_prefix _ _).length_le.trans (List.length_dropWhile_le _ _)

/-- A text without spaces is trimmed. -/
theorem trimUnits_of_no_space {units : Units} (h : units.any isSpaceUnit = false) :
    trimUnits units = units := by
  rw [List.any_eq_false] at h
  have hfront : units.dropWhile isSpaceUnit = units := by
    cases units with
    | nil => rfl
    | cons u rest => exact List.dropWhile_cons_of_neg (h u List.mem_cons_self)
  rw [trimUnits, hfront]
  cases units using List.reverseRecOn with
  | nil => rfl
  | append_singleton start u =>
    exact List.rdropWhile_concat_neg _ _ _ (h u (List.mem_append_right _ List.mem_cons_self))

/-- An address that is allowed with its spaces is allowed without them. -/
theorem isAllowedDesignUrl_trimUnits {url : Units}
    (h : isAllowedDesignUrl parsesAsHttps url = true) :
    isAllowedDesignUrl parsesAsHttps (trimUnits url) = true := by
  rw [isAllowedDesignUrl, Bool.or_eq_true] at h ⊢
  rcases h with htoken | hliteral
  · left
    rw [buttonUrlToken, trimUnits_trimUnits]
    exact htoken
  · right
    have hspaces : url.any isSpaceUnit = false := by
      rw [isHttpsLiteral, Bool.and_eq_true, Bool.and_eq_true, Bool.not_eq_true', Bool.or_eq_false_iff,
        Bool.or_eq_false_iff] at hliteral
      exact hliteral.1.2.1.1
    rw [trimUnits_of_no_space hspaces]
    exact hliteral

end Urls

/-! ### Variables in a text -/

/-- How long the variable at the start of a text is. -/
def tokenLength (units : Units) : Option ℕ :=
  (tokenAtStart units).map fun token => units.length - token.2.length

/-- The text without its variables; the first characters to leave out are of the one before. -/
def dropTokens : ℕ → Units → Units
  | _, [] => []
  | inToken + 1, _ :: rest => dropTokens inToken rest
  | 0, u :: rest =>
    match tokenLength (u :: rest) with
    | some length => dropTokens (length - 1) rest
    | none => u :: dropTokens 0 rest

/-- A pair of braces that is no part of a variable. -/
def hasBrokenToken (text : Units) : Bool :=
  hasPair openBrace (dropTokens 0 text) || hasPair closeBrace (dropTokens 0 text)

example : dropTokens 0 (plain "a \x7b\x7b b.c \x7d\x7d\x7d\x7d\x7b\x7bd\x7d") =
    plain "a \x7d\x7d\x7b\x7bd\x7d" := by decide

example : buttonUrlToken (plain " \x7b\x7buser.url \x7d\x7d ") = some (plain "user.url") := by decide

end InternalControl.EmailUrl
