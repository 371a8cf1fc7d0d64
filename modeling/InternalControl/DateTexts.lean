import InternalControl.CalendarDays
import InternalControl.LoanDates
import InternalControl.Text

/-!
# Dates as texts

The planning of inventories handles dates as texts: the first ten characters of the text of
an instant at midnight. A text gives its day back when the year has four digits and is not
one that the language takes for a year of the twentieth century.
-/

namespace InternalControl.InventorySchedule

open Calendar LoanDates Text

/-! ### Texts and days -/

/-- The text of an instant at midnight. -/
def midnightText (date : CalendarDate) : List Char :=
  Instant.yearText date.year ++ '-' :: (Instant.digits 2 date.month ++
    '-' :: (Instant.digits 2 date.day ++ "T00:00:00.000Z".toList))

/-- The text of a day, by its number. -/
def fromUtcDay (number : ℤ) : String := String.ofList ((midnightText (dateOfDay number)).take 10)

/-- The number of a day by its fields, whose month and day may run over. -/
def utcDay (date : CalendarDate) : ℤ :=
  let index := fullYear date.year * 12 + date.month - 1
  CalendarDate.dayNumber ⟨index / 12, (index % 12).toNat + 1, 1⟩ + date.day - 1

/-- The number of the day that a text begins with. -/
def toUtcDay (date : String) : Option ℤ := (isoFields (date.toList.take 10)).map utcDay

/-- The text of the day some days later. -/
def addDays (date : String) (days : ℤ) : Option String :=
  (toUtcDay date).map fun number => fromUtcDay (number + days)

/-- A day of the calendar in a year of four digits. -/
structure IsDate (date : CalendarDate) : Prop where
  valid : date.Valid
  year_nonneg : 0 ≤ date.year
  year_le : date.year ≤ 9999

/-- The text of a date. -/
def dateText (date : CalendarDate) : String :=
  String.ofList (Instant.digits 4 date.year.toNat ++ '-' :: (Instant.digits 2 date.month ++
    '-' :: Instant.digits 2 date.day))

section Dates

variable {date other : CalendarDate} {number : ℤ}

theorem IsDate.month_lt (h : IsDate date) : date.month < 100 ∧ date.day < 100 := by
  have hmonth := h.valid.month_le
  have hday := h.valid.day_le
  have hbounds := daysInMonth_bounds date.year date.month
  omega

/-- The text of the number of a date is the text of the date. -/
theorem fromUtcDay_dayNumber (h : IsDate date) : fromUtcDay date.dayNumber = dateText date := by
  have hyear : Instant.yearText date.year = Instant.digits 4 date.year.toNat :=
    if_pos ⟨h.year_nonneg, h.year_le⟩
  rw [fromUtcDay, CalendarDate.dateOfDay_dayNumber h.valid, midnightText, hyear, dateText]
  rfl

/-! ### Reading digits -/

theorem readDigits_append (digits : List Char) (c : Char) :
    readDigits (digits ++ [c]) = 10 * readDigits digits + (c.toNat - 48) := by
  simp [readDigits, List.foldl_append]

theorem digitChar_spec : ∀ n < 10, (Char.ofNat (48 + n)).toNat = 48 + n ∧
    (Char.ofNat (48 + n)).isDigit = true := by decide

/-- The digits of a number read as the number. -/
theorem readDigits_digits {width n : ℕ} (h : n < 10 ^ width) :
    readDigits (Instant.digits width n) = n := by
  induction width generalizing n with
  | zero =>
    have hzero : n = 0 := by omega
    rw [hzero]
    rfl
  | succ width ih =>
    rw [Nat.pow_succ] at h
    rw [Instant.digits, readDigits_append, ih (by omega),
      (digitChar_spec (n % 10) (Nat.mod_lt n (by decide))).1]
    omega

theorem isDigit_of_mem_digits {width n : ℕ} {c : Char} (h : c ∈ Instant.digits width n) :
    c.isDigit = true := by
  induction width generalizing n with
  | zero => cases h
  | succ width ih =>
    rw [Instant.digits] at h
    rcases List.mem_append.mp h with hfront | hlast
    · exact ih hfront
    · rw [List.mem_singleton.mp hlast]
      exact (digitChar_spec (n % 10) (Nat.mod_lt n (by decide))).2

/-- The text of a date is read back as the date. -/
theorem isoFields_dateText (h : IsDate date) :
    isoFields ((dateText date).toList.take 10) = some date := by
  obtain ⟨year, month, day⟩ := date
  obtain ⟨hmonth, hday⟩ := h.month_lt
  have hyear := h.year_nonneg
  have hyear' := h.year_le
  dsimp only at hmonth hday hyear hyear'
  have hy : readDigits (Instant.digits 4 year.toNat) = year.toNat := readDigits_digits (by omega)
  have hm : readDigits (Instant.digits 2 month) = month := readDigits_digits (by omega)
  have hd : readDigits (Instant.digits 2 day) = day := readDigits_digits (by omega)
  have hall : ∀ c ∈ Instant.digits 4 year.toNat ++ (Instant.digits 2 month ++ Instant.digits 2 day),
      c.isDigit = true := by
    intro c hc
    rcases List.mem_append.mp hc with hc | hc
    · exact isDigit_of_mem_digits hc
    · exact (List.mem_append.mp hc).elim isDigit_of_mem_digits isDigit_of_mem_digits
  rw [dateText, String.toList_ofList]
  simp only [Instant.digits, List.nil_append, List.cons_append] at hy hm hd hall ⊢
  rw [List.take_of_length_le (by simp), isoFields, List.all_eq_true.mpr hall, if_pos rfl, hy, hm, hd]
  simp [Int.toNat_of_nonneg hyear]

/-- The number of a day is that of its fields, but for the years with two digits. -/
theorem utcDay_eq (h : date.Valid) : utcDay date =
    CalendarDate.dayNumber ⟨fullYear date.year, date.month, date.day⟩ := by
  have hmonth := h.month_pos
  have hmonth' := h.month_le
  have hyear : (fullYear date.year * 12 + date.month - 1) / 12 = fullYear date.year := by omega
  have hrest : ((fullYear date.year * 12 + date.month - 1) % 12).toNat + 1 = date.month := by omega
  simp only [utcDay, hyear, hrest, CalendarDate.dayNumber]
  push_cast
  ring

theorem toUtcDay_dateText (h : IsDate date) : toUtcDay (dateText date) =
    some (CalendarDate.dayNumber ⟨fullYear date.year, date.month, date.day⟩) := by
  rw [toUtcDay, isoFields_dateText h, Option.map_some, utcDay_eq h.valid]

/-- From the year one hundred on, a text gives its day back. -/
theorem toUtcDay_of_year (h : IsDate date) (hyear : 100 ≤ date.year) :
    toUtcDay (dateText date) = some date.dayNumber := by
  rw [toUtcDay_dateText h, fullYear_eq hyear]

/-! ### The order of texts -/

theorem digitUnits : ∀ n < 10, charUnits (Char.ofNat (48 + n)) = [48 + n] := by decide

/-- Lists compare by their first elements and then by the others. -/
theorem cons_le_cons (n m : ℕ) (xs ys : List ℕ) :
    (n :: xs ≤ m :: ys) ↔ n < m ∨ n = m ∧ xs ≤ ys := by
  rw [← not_lt, ← not_lt (a := ys), List.cons_lt_cons_iff]
  by_cases hless : ys < xs
  · simp only [hless, and_true, not_true, and_false, or_false]
    omega
  · simp only [hless, and_false, or_false, not_false_eq_true, and_true]
    omega

/-- Numbers of one width compare before what follows them. -/
theorem units_digits_le {width n m : ℕ} (hn : n < 10 ^ width) (hm : m < 10 ^ width)
    (xs ys : List ℕ) :
    ((Instant.digits width n).flatMap charUnits ++ xs ≤
        (Instant.digits width m).flatMap charUnits ++ ys) ↔ n < m ∨ n = m ∧ xs ≤ ys := by
  induction width generalizing n m xs ys with
  | zero =>
    have hzero : n = 0 ∧ m = 0 := by omega
    simp [hzero.1, hzero.2, Instant.digits]
  | succ width ih =>
    rw [Nat.pow_succ] at hn hm
    rw [Instant.digits, Instant.digits, List.flatMap_append, List.flatMap_append,
      List.append_assoc, List.append_assoc, ih (by omega) (by omega), List.flatMap_singleton,
      List.flatMap_singleton, digitUnits (n % 10) (Nat.mod_lt n (by decide)),
      digitUnits (m % 10) (Nat.mod_lt m (by decide)), List.singleton_append, List.singleton_append,
      cons_le_cons]
    constructor
    · rintro (h | ⟨hfront, hlast | ⟨hlast, hrest⟩⟩)
      · omega
      · omega
      · exact .inr ⟨by omega, hrest⟩
    · rintro (h | ⟨rfl, hrest⟩)
      · by_cases hfront : n / 10 < m / 10
        · exact .inl hfront
        · exact .inr ⟨by omega, .inl (by omega)⟩
      · exact .inr ⟨rfl, .inr ⟨rfl, hrest⟩⟩

/-- Texts of dates compare as their days do. -/
theorem unitsLe_dateText (h : IsDate date) (hother : IsDate other) :
    unitsLe (dateText date) (dateText other) = true ↔ date.dayNumber ≤ other.dayNumber := by
  obtain ⟨hmonth, hday⟩ := h.month_lt
  obtain ⟨hmonth', hday'⟩ := hother.month_lt
  have hyear : date.year.toNat < 10 ^ 4 ∧ (date.year.toNat : ℤ) = date.year := by
    have hlow := h.year_nonneg
    have hhigh := h.year_le
    omega
  have hyear' : other.year.toNat < 10 ^ 4 ∧ (other.year.toNat : ℤ) = other.year := by
    have hlow := hother.year_nonneg
    have hhigh := hother.year_le
    omega
  have hdash : charUnits '-' = [45] := rfl
  have hdays : ((Instant.digits 2 date.day).flatMap charUnits ≤
      (Instant.digits 2 other.day).flatMap charUnits) ↔ date.day ≤ other.day := by
    have hnil := units_digits_le (by omega : date.day < 10 ^ 2) (by omega : other.day < 10 ^ 2) [] []
    rw [List.append_nil, List.append_nil] at hnil
    rw [hnil]
    simp only [le_refl, and_true]
    omega
  have hle : unitsLe (dateText date) (dateText other) = true ↔ ¬other.Before date := by
    rw [unitsLe, decide_eq_true_eq, units, units, dateText, dateText, String.toList_ofList,
      String.toList_ofList, List.flatMap_append, List.flatMap_append,
      units_digits_le hyear.1 hyear'.1, List.flatMap_cons, List.flatMap_cons, hdash,
      List.singleton_append, List.singleton_append, cons_le_cons, List.flatMap_append,
      List.flatMap_append, units_digits_le (by omega) (by omega), List.flatMap_cons,
      List.flatMap_cons, hdash, List.singleton_append, List.singleton_append, cons_le_cons, hdays]
    simp only [lt_irrefl, false_or, true_and, CalendarDate.Before]
    omega
  rw [hle, CalendarDate.before_iff hother.valid h.valid, not_lt]

end Dates

end InternalControl.InventorySchedule
