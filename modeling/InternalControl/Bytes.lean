import Mathlib

/-!
# Numbers in a list of bytes

Little-endian numbers at an offset, and the last offset of a range at which a
condition holds.
-/

namespace InternalControl.Bytes

/-- Two bytes, the low one first. A byte beyond the end counts as zero. -/
def uint16 (bytes : List UInt8) (offset : ℕ) : ℕ :=
  (bytes.getD offset 0).toNat + 256 * (bytes.getD (offset + 1) 0).toNat

/-- Four bytes, the low ones first. -/
def uint32 (bytes : List UInt8) (offset : ℕ) : ℕ :=
  uint16 bytes offset + 65536 * uint16 bytes (offset + 2)

theorem uint16_append (before rest : List UInt8) (offset : ℕ) :
    uint16 (before ++ rest) (before.length + offset) = uint16 rest offset := by
  have hbyte : ∀ i, (before ++ rest).getD (before.length + i) 0 = rest.getD i 0 := fun i => by
    rw [List.getD_append_right _ _ _ _ (Nat.le_add_right _ _), Nat.add_sub_cancel_left]
  unfold uint16
  rw [hbyte offset, Nat.add_assoc, hbyte (offset + 1)]

theorem uint32_append (before rest : List UInt8) (offset : ℕ) :
    uint32 (before ++ rest) (before.length + offset) = uint32 rest offset := by
  unfold uint32
  rw [uint16_append, Nat.add_assoc, uint16_append]

/-- The last number down from a start, but not below a stop, at which a condition holds. -/
def lastFrom (p : ℕ → Bool) (stop : ℕ) : ℕ → Option ℕ
  | 0 => if p 0 then some 0 else none
  | n + 1 => if p (n + 1) then some (n + 1) else if n < stop then none else lastFrom p stop n

variable {p : ℕ → Bool} {stop start n : ℕ}

theorem lastFrom_le (h : lastFrom p stop start = some n) : n ≤ start := by
  induction start with
  | zero =>
    rw [lastFrom] at h
    split at h
    · cases h
      exact Nat.le_refl 0
    · cases h
  | succ start ih =>
    rw [lastFrom] at h
    split at h
    · cases h
      exact Nat.le_refl _
    · split at h
      · cases h
      · exact Nat.le_succ_of_le (ih h)

theorem lastFrom_self (h : p start = true) : lastFrom p stop start = some start := by
  cases start <;> rw [lastFrom, if_pos h]

/-- Going on further down does not change what is found. -/
theorem lastFrom_zero (h : lastFrom p stop start = some n) : lastFrom p 0 start = some n := by
  induction start with
  | zero => exact h
  | succ start ih =>
    rw [lastFrom] at h ⊢
    split at h
    · next hp => rwa [if_pos hp]
    · next hp =>
      split at h
      · cases h
      · rw [if_neg hp, if_neg (Nat.not_lt_zero start)]
        exact ih h

end InternalControl.Bytes
