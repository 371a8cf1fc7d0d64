import Mathlib.Data.Nat.Notation
import Mathlib.Data.Rat.Defs
import Mathlib.Algebra.Field.Rat
import Mathlib.Tactic.Common

/-!
# Texts as code units

A text of the modelled language is any list of 16-bit code units. What an
encoding of characters can keep of it is the text with each code unit that is
no character replaced, and a decimal numeral in it has a value.
-/

namespace InternalControl.CodeUnits

/-- A text, by its code units. -/
abbrev Units := List UInt16

instance lawfulBEqUnits : LawfulBEq Units := inferInstance

/-- The code units of a plain text. -/
def plain (s : String) : Units := s.toList.map fun c => c.toNat.toUInt16

/-! ### Surrogates -/

def isHigh (u : UInt16) : Bool := 0xD800 ≤ u && u ≤ 0xDBFF

def isLow (u : UInt16) : Bool := 0xDC00 ≤ u && u ≤ 0xDFFF

/-- The mark that stands for a code unit without its other half. -/
def replacement (u : UInt16) : UInt16 := if isHigh u || isLow u then 0xFFFD else u

/-- A text as an encoding of characters keeps it. -/
def toWellFormed : Units → Units
  | [] => []
  | [u] => [replacement u]
  | u :: v :: rest =>
    if isHigh u && isLow v then u :: v :: toWellFormed rest
    else replacement u :: toWellFormed (v :: rest)

/-- Every half of a character has its other half. -/
def isWellFormed : Units → Bool
  | [] => true
  | [u] => !(isHigh u || isLow u)
  | u :: v :: rest =>
    if isHigh u && isLow v then isWellFormed rest
    else !(isHigh u || isLow u) && isWellFormed (v :: rest)

theorem replacement_eq_self_iff (u : UInt16) :
    replacement u = u ↔ (!(isHigh u || isLow u)) = true := by
  unfold replacement
  split
  · next hsurrogate =>
    have hmark : ¬0xFFFD = u := by
      intro hmark
      subst hmark
      exact absurd hsurrogate (by decide)
    simp [hmark, hsurrogate]
  · next hplain => simp [hplain]

/-- An encoding keeps exactly the texts whose characters are whole. -/
theorem toWellFormed_eq_self_iff (units : Units) :
    toWellFormed units = units ↔ isWellFormed units = true := by
  fun_induction toWellFormed units with
  | case1 => simp [isWellFormed]
  | case2 u =>
    rw [isWellFormed, List.cons.injEq, ← replacement_eq_self_iff]
    simp
  | case3 u v rest hpair ih =>
    rw [isWellFormed, if_pos hpair, ← ih]
    simp
  | case4 u v rest hpair ih =>
    rw [isWellFormed, if_neg hpair, List.cons.injEq, Bool.and_eq_true, ← ih,
      replacement_eq_self_iff]

/-! ### Decimal numerals -/

def isDigit (u : UInt16) : Bool := 48 ≤ u && u ≤ 57

def readDigits (digits : Units) : ℕ := digits.foldl (fun value u => 10 * value + (u.toNat - 48)) 0

/-- The exponent of a numeral, after its letter. -/
def parseExponent (units : Units) : Option ℤ :=
  let (negative, digits) :=
    match units with
    | 43 :: rest => (false, rest)
    | 45 :: rest => (true, rest)
    | _ => (false, units)
  if digits ≠ [] ∧ digits.all isDigit then
    some (if negative then -(readDigits digits : ℤ) else readDigits digits)
  else none

/-- The value of a numeral without a sign. -/
def parseUnsigned (units : Units) : Option ℚ :=
  let whole := units.takeWhile isDigit
  let (fraction, rest) :=
    match units.dropWhile isDigit with
    | 46 :: rest => (rest.takeWhile isDigit, rest.dropWhile isDigit)
    | rest => ([], rest)
  if whole = [] ∧ fraction = [] then none
  else
    let mantissa : ℚ := readDigits (whole ++ fraction) / 10 ^ fraction.length
    match rest with
    | [] => some mantissa
    | letter :: exponent =>
      if letter = 101 ∨ letter = 69 then
        (parseExponent exponent).map fun e =>
          if 0 ≤ e then mantissa * 10 ^ e.toNat else mantissa / 10 ^ (-e).toNat
      else none

/-- The value of a decimal numeral. -/
def parseDecimal (units : Units) : Option ℚ :=
  match units with
  | 43 :: rest => parseUnsigned rest
  | 45 :: rest => (parseUnsigned rest).map fun value => -value
  | _ => parseUnsigned units

/-- A numeral with a fraction and an exponent. -/
example : parseDecimal (plain "-12.50e+1") = some (-125) := by decide +kernel

end InternalControl.CodeUnits
