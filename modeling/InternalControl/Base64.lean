import Mathlib
import InternalControl.HtmlText

/-!
# Base64

Bytes are written as digits, four for every three bytes, and read back. The digits are letters,
figures and three other characters.
-/

namespace InternalControl.Base64

open CodeUnits HtmlText

/-- One of the 64 digits. -/
def base64Digit (n : ℕ) : UInt16 :=
  if n < 26 then (65 + n).toUInt16
  else if n < 52 then (71 + n).toUInt16
  else if n < 62 then (n - 4).toUInt16
  else if n = 62 then 43
  else 47

def base64 : List UInt8 → Units
  | [] => []
  | [a] => [base64Digit (a.toNat / 4), base64Digit (a.toNat % 4 * 16), equalsSign, equalsSign]
  | [a, b] => [base64Digit (a.toNat / 4), base64Digit (a.toNat % 4 * 16 + b.toNat / 16),
      base64Digit (b.toNat % 16 * 4), equalsSign]
  | a :: b :: c :: rest => base64Digit (a.toNat / 4) ::
      base64Digit (a.toNat % 4 * 16 + b.toNat / 16) ::
      base64Digit (b.toNat % 16 * 4 + c.toNat / 64) :: base64Digit (c.toNat % 64) :: base64 rest

def isBase64Unit (u : UInt16) : Bool :=
  isLetter u || isDigit u || u = 43 || u = slash || u = equalsSign

theorem isBase64Unit_digit (n : ℕ) : isBase64Unit (base64Digit n) = true := by
  by_cases h : n < 64
  · have hdigits : ∀ n < 64, isBase64Unit (base64Digit n) = true := by decide
    exact hdigits n h
  · have hlast : base64Digit n = 47 := by
      rw [base64Digit, if_neg (by omega), if_neg (by omega), if_neg (by omega), if_neg (by omega)]
    rw [hlast]
    decide

theorem isBase64Unit_base64 (bytes : List UInt8) : ∀ u ∈ base64 bytes, isBase64Unit u = true := by
  have hequals : isBase64Unit equalsSign = true := by decide
  fun_induction base64 bytes with
  | case1 => simp
  | case2 a => simp [isBase64Unit_digit, hequals]
  | case3 a b => simp [isBase64Unit_digit, hequals]
  | case4 a b c rest ih => simpa [isBase64Unit_digit] using ih

/-- The number that a digit of base64 stands for. -/
def base64Value (u : UInt16) : ℕ :=
  if u.toNat = 43 then 62
  else if u.toNat = 47 then 63
  else if u.toNat ≤ 57 then u.toNat + 4
  else if u.toNat ≤ 90 then u.toNat - 65
  else u.toNat - 71

def fromBase64 : Units → List UInt8
  | a :: b :: c :: d :: rest =>
    let first := (base64Value a * 4 + base64Value b / 16).toUInt8
    if c = equalsSign then [first]
    else
      let second := (base64Value b % 16 * 16 + base64Value c / 4).toUInt8
      if d = equalsSign then [first, second]
      else first :: second :: (base64Value c % 4 * 64 + base64Value d).toUInt8 :: fromBase64 rest
  | _ => []

theorem base64Value_digit {n : ℕ} (h : n < 64) :
    base64Value (base64Digit n) = n ∧ base64Digit n ≠ equalsSign := by
  have hdigits : ∀ n < 64, base64Value (base64Digit n) = n ∧ base64Digit n ≠ equalsSign := by decide
  exact hdigits n h

theorem toUInt8_eq {n : ℕ} (a : UInt8) (h : n = a.toNat) : n.toUInt8 = a := by
  rw [h]
  exact UInt8.ofNat_toNat

theorem fromBase64_base64 (bytes : List UInt8) : fromBase64 (base64 bytes) = bytes := by
  fun_induction base64 bytes with
  | case1 => rfl
  | case2 a =>
    have ha := a.toNat_lt
    obtain ⟨hfirst, _⟩ := base64Value_digit (by omega : a.toNat / 4 < 64)
    obtain ⟨hsecond, _⟩ := base64Value_digit (by omega : a.toNat % 4 * 16 < 64)
    rw [fromBase64, hfirst, hsecond, if_pos rfl, toUInt8_eq a (by omega)]
  | case3 a b =>
    have ha := a.toNat_lt
    have hb := b.toNat_lt
    obtain ⟨hfirst, _⟩ := base64Value_digit (by omega : a.toNat / 4 < 64)
    obtain ⟨hsecond, _⟩ := base64Value_digit (by omega : a.toNat % 4 * 16 + b.toNat / 16 < 64)
    obtain ⟨hthird, hnot⟩ := base64Value_digit (by omega : b.toNat % 16 * 4 < 64)
    rw [fromBase64, hfirst, hsecond, hthird, if_neg hnot, if_pos rfl, toUInt8_eq a (by omega),
      toUInt8_eq b (by omega)]
  | case4 a b c rest ih =>
    have ha := a.toNat_lt
    have hb := b.toNat_lt
    have hc := c.toNat_lt
    obtain ⟨hfirst, _⟩ := base64Value_digit (by omega : a.toNat / 4 < 64)
    obtain ⟨hsecond, _⟩ := base64Value_digit (by omega : a.toNat % 4 * 16 + b.toNat / 16 < 64)
    obtain ⟨hthird, hnot⟩ := base64Value_digit (by omega : b.toNat % 16 * 4 + c.toNat / 64 < 64)
    obtain ⟨hlast, hnotLast⟩ := base64Value_digit (by omega : c.toNat % 64 < 64)
    rw [fromBase64, hfirst, hsecond, hthird, hlast, if_neg hnot, if_neg hnotLast, ih,
      toUInt8_eq a (by omega), toUInt8_eq b (by omega), toUInt8_eq c (by omega)]

end InternalControl.Base64
