import Mathlib

/-!
# Dates to the millisecond

A date of the modelled language as its calendar fields in universal time, and
the text of toISOString. The text determines the date.
-/

namespace InternalControl

/-- The days of a month. -/
def daysInMonth (year : ℤ) (month : ℕ) : ℕ :=
  if month = 2 then
    if year % 4 = 0 ∧ (year % 100 ≠ 0 ∨ year % 400 = 0) then 29 else 28
  else if month = 4 ∨ month = 6 ∨ month = 9 ∨ month = 11 then 30
  else 31

/-- A date, by its fields in universal time. -/
structure Instant where
  year : ℤ
  month : ℕ
  day : ℕ
  hour : ℕ
  minute : ℕ
  second : ℕ
  millisecond : ℕ
  /-- The fields name a date in the range of the language. -/
  valid : year.natAbs < 1000000 ∧ (1 ≤ month ∧ month ≤ 12) ∧ (1 ≤ day ∧ day ≤ daysInMonth year month) ∧
    hour < 24 ∧ minute < 60 ∧ second < 60 ∧ millisecond < 1000
  deriving DecidableEq

namespace Instant

/-- The fields in order of weight. -/
def fields (instant : Instant) : List ℤ :=
  [instant.year, instant.month, instant.day, instant.hour, instant.minute, instant.second,
    instant.millisecond]

/-- The first date is not after the second. -/
def le (a b : Instant) : Bool := decide (a.fields ≤ b.fields)

/-- The last decimal digits of a number, a fixed count of them. -/
def digits : ℕ → ℕ → List Char
  | 0, _ => []
  | width + 1, n => digits width (n / 10) ++ [Char.ofNat (48 + n % 10)]

theorem length_digits (width n : ℕ) : (digits width n).length = width := by
  induction width generalizing n with
  | zero => rfl
  | succ width ih => simp [digits, ih]

theorem digitChar_inj : ∀ a < 10, ∀ b < 10, Char.ofNat (48 + a) = Char.ofNat (48 + b) → a = b := by
  decide

/-- Numbers that fit the width are told apart by their digits. -/
theorem digits_inj {width n m : ℕ} (hn : n < 10 ^ width) (hm : m < 10 ^ width)
    (h : digits width n = digits width m) : n = m := by
  induction width generalizing n m with
  | zero => omega
  | succ width ih =>
    rw [digits, digits] at h
    rw [Nat.pow_succ] at hn hm
    obtain ⟨hfront, hback⟩ := List.append_inj' h rfl
    have hlast : n % 10 = m % 10 := digitChar_inj _ (Nat.mod_lt n (by decide)) _
      (Nat.mod_lt m (by decide)) (List.cons.inj hback).1
    have hrest := ih (Nat.div_lt_of_lt_mul (by omega)) (Nat.div_lt_of_lt_mul (by omega)) hfront
    omega

/-- The year of toISOString: four digits, or a sign and six. -/
def yearText (year : ℤ) : List Char :=
  if 0 ≤ year ∧ year ≤ 9999 then digits 4 year.toNat
  else (if year < 0 then '-' else '+') :: digits 6 year.natAbs

/-- The digits behind the year in toISOString. -/
def restText (instant : Instant) : List Char :=
  '-' :: (digits 2 instant.month ++ '-' :: (digits 2 instant.day ++
    'T' :: (digits 2 instant.hour ++ ':' :: (digits 2 instant.minute ++
      ':' :: (digits 2 instant.second ++ '.' :: (digits 3 instant.millisecond ++ ['Z']))))))

/-- The text of a date. -/
def toISOString (instant : Instant) : String :=
  String.ofList (yearText instant.year ++ restText instant)

theorem length_restText (instant : Instant) : (restText instant).length = 20 := by
  simp [restText, length_digits]

theorem digitChar_ne_sign : ∀ n < 10, Char.ofNat (48 + n) ≠ '-' ∧ Char.ofNat (48 + n) ≠ '+' := by
  decide

/-- The digits of a number do not begin with a sign. -/
theorem digits_ne_sign {width n : ℕ} {c : Char} (hc : c = '-' ∨ c = '+') (rest : List Char) :
    digits width n ≠ c :: rest := by
  intro h
  induction width generalizing n rest with
  | zero => cases h
  | succ width ih =>
    rw [digits] at h
    cases hfront : digits width (n / 10) with
    | nil =>
      rw [hfront, List.nil_append, List.cons.injEq] at h
      have hdigit := digitChar_ne_sign (n % 10) (Nat.mod_lt n (by decide))
      rcases hc with rfl | rfl
      · exact hdigit.1 h.1
      · exact hdigit.2 h.1
    | cons d ds =>
      rw [hfront, List.cons_append, List.cons.injEq] at h
      exact ih ds (h.1 ▸ hfront)

/-- Years in range are told apart by their text. -/
theorem yearText_inj {year other : ℤ} (hyear : year.natAbs < 1000000)
    (hother : other.natAbs < 1000000) (h : yearText year = yearText other) : year = other := by
  have hsign : ∀ y : ℤ, (if y < 0 then '-' else '+') = '-' ∨ (if y < 0 then '-' else '+') = '+' :=
    fun y => by split <;> simp
  unfold yearText at h
  by_cases hshort : 0 ≤ year ∧ year ≤ 9999 <;> by_cases hshort' : 0 ≤ other ∧ other ≤ 9999
  · rw [if_pos hshort, if_pos hshort'] at h
    have hnat := digits_inj (by omega) (by omega) h
    omega
  · rw [if_pos hshort, if_neg hshort'] at h
    exact absurd h (digits_ne_sign (hsign other) _)
  · rw [if_neg hshort, if_pos hshort'] at h
    exact absurd h.symm (digits_ne_sign (hsign year) _)
  · rw [if_neg hshort, if_neg hshort', List.cons.injEq] at h
    have hnat := digits_inj (by omega) (by omega) h.2
    have hside : year < 0 ↔ other < 0 := by
      have hchar := h.1
      by_cases hy : year < 0 <;> by_cases ho : other < 0
      · exact iff_of_true hy ho
      · rw [if_pos hy, if_neg ho] at hchar
        exact absurd hchar (by decide)
      · rw [if_neg hy, if_pos ho] at hchar
        exact absurd hchar (by decide)
      · exact iff_of_false hy ho
    omega

/-- Dates with the same text are the same date. -/
theorem toISOString_injective : Function.Injective toISOString := by
  intro a b h
  obtain ⟨ya, ma, da, ha, mia, sa, msa, hyear, hmonth, hday, hhour, hminute, hsecond, hmilli⟩ := a
  obtain ⟨yb, mb, db, hb, mib, sb, msb, hyear', hmonth', hday', hhour', hminute', hsecond',
    hmilli'⟩ := b
  have hdays : ∀ y m, daysInMonth y m ≤ 31 := fun y m => by
    unfold daysInMonth
    split_ifs <;> omega
  have hda := hdays ya ma
  have hdb := hdays yb mb
  have hchars := String.ofList_injective h
  obtain ⟨hy, hrest⟩ := List.append_inj' hchars (by simp [length_restText])
  simp only [restText, List.cons.injEq, true_and] at hrest
  obtain ⟨h1, hrest⟩ := List.append_inj hrest (by simp [length_digits])
  obtain ⟨h2, hrest⟩ := List.append_inj (List.cons.inj hrest).2 (by simp [length_digits])
  obtain ⟨h3, hrest⟩ := List.append_inj (List.cons.inj hrest).2 (by simp [length_digits])
  obtain ⟨h4, hrest⟩ := List.append_inj (List.cons.inj hrest).2 (by simp [length_digits])
  obtain ⟨h5, hrest⟩ := List.append_inj (List.cons.inj hrest).2 (by simp [length_digits])
  obtain ⟨h6, _⟩ := List.append_inj (List.cons.inj hrest).2 (by simp [length_digits])
  cases yearText_inj hyear hyear' hy
  cases digits_inj (by omega) (by omega) h1
  cases digits_inj (by omega) (by omega) h2
  cases digits_inj (by omega) (by omega) h3
  cases digits_inj (by omega) (by omega) h4
  cases digits_inj (by omega) (by omega) h5
  cases digits_inj (by omega) (by omega) h6
  rfl

end Instant

end InternalControl
