import Mathlib.Logic.Function.Iterate
import Mathlib.Tactic.NormNum
import Mathlib.Tactic.Ring
import InternalControl.Instant

/-!
# Days and months of the calendar

The day after a day, the number of a day, and the addition of months to a day.
The number of a day goes up by one from each day to the next, so a distance in
days can be read off two numbers.
-/

namespace InternalControl.Calendar

/-- A day by its year, month and day. -/
structure CalendarDate where
  year : ℤ
  month : ℕ
  day : ℕ
  deriving DecidableEq, Repr

namespace CalendarDate

/-- The fields name a day of the calendar. -/
structure Valid (date : CalendarDate) : Prop where
  month_pos : 1 ≤ date.month
  month_le : date.month ≤ 12
  day_pos : 1 ≤ date.day
  day_le : date.day ≤ daysInMonth date.year date.month

/-- The day after a day. -/
def next (date : CalendarDate) : CalendarDate :=
  if date.day < daysInMonth date.year date.month then ⟨date.year, date.month, date.day + 1⟩
  else if date.month < 12 then ⟨date.year, date.month + 1, 1⟩
  else ⟨date.year + 1, 1, 1⟩

/-- A day lies before another one. -/
def Before (a b : CalendarDate) : Prop :=
  a.year < b.year ∨ a.year = b.year ∧ (a.month < b.month ∨ a.month = b.month ∧ a.day < b.day)

instance (a b : CalendarDate) : Decidable (a.Before b) :=
  inferInstanceAs (Decidable (_ ∨ _))

/-- The months before the month of a day, counted from the year zero. -/
def monthIndex (date : CalendarDate) : ℤ := date.year * 12 + date.month - 1

/-- The same day some months later, or the last day of a month without it. -/
def addMonths (date : CalendarDate) (months : ℤ) : CalendarDate :=
  let index := date.monthIndex + months
  let year := index / 12
  let month := (index % 12).toNat + 1
  ⟨year, month, min date.day (daysInMonth year month)⟩

end CalendarDate

/-- The days before a year, counted from the year 1970. -/
def daysBeforeYear (year : ℤ) : ℤ :=
  365 * (year - 1970) + (year - 1969) / 4 - (year - 1901) / 100 + (year - 1601) / 400

/-- The days of the first months of a year. -/
def daysOfMonths (year : ℤ) : ℕ → ℕ
  | 0 => 0
  | months + 1 => daysOfMonths year months + daysInMonth year (months + 1)

/-- The number of a day: the first day of 1970 is zero. -/
def CalendarDate.dayNumber (date : CalendarDate) : ℤ :=
  daysBeforeYear date.year + daysOfMonths date.year (date.month - 1) + date.day - 1

/-! ### Lengths of months and years -/

theorem daysInMonth_bounds (year : ℤ) (month : ℕ) :
    28 ≤ daysInMonth year month ∧ daysInMonth year month ≤ 31 := by
  unfold daysInMonth
  split_ifs <;> omega

/-- A year begins when the twelve months of the one before are over. -/
theorem daysBeforeYear_succ (year : ℤ) :
    daysBeforeYear (year + 1) = daysBeforeYear year + daysOfMonths year 12 := by
  have hfebruary : daysOfMonths year 12 = 337 + daysInMonth year 2 := by
    simp only [daysOfMonths, daysInMonth]
    norm_num
    omega
  have hdays : daysInMonth year 2 =
      if year % 4 = 0 ∧ (year % 100 ≠ 0 ∨ year % 400 = 0) then 29 else 28 := rfl
  rw [hfebruary, hdays]
  unfold daysBeforeYear
  split_ifs with hleap <;> push_cast <;> omega

theorem daysOfMonths_mono (year : ℤ) {few many : ℕ} (h : few ≤ many) :
    daysOfMonths year few ≤ daysOfMonths year many := by
  induction many, h using Nat.le_induction with
  | base => exact le_rfl
  | succ many _ ih =>
    rw [daysOfMonths]
    omega

/-- Months that begin later have more days before them. -/
theorem daysOfMonths_add_le (year : ℤ) {few many : ℕ} (h : few < many) :
    daysOfMonths year few + daysInMonth year (few + 1) ≤ daysOfMonths year many :=
  daysOfMonths_mono year h

theorem daysBeforeYear_mono {year other : ℤ} (h : year ≤ other) :
    daysBeforeYear year ≤ daysBeforeYear other := by
  unfold daysBeforeYear
  omega

namespace CalendarDate

variable {a b date : CalendarDate}

/-! ### Consecutive days -/

theorem Valid.next (h : date.Valid) : date.next.Valid := by
  obtain ⟨hmonth, hmonth', hday, hday'⟩ := h
  unfold CalendarDate.next
  split_ifs with hin hyear
  · exact ⟨hmonth, hmonth', by simp, hin⟩
  · exact ⟨by simp, hyear, le_rfl, by have := daysInMonth_bounds date.year (date.month + 1); simp; omega⟩
  · exact ⟨le_rfl, by simp, le_rfl, by have := daysInMonth_bounds (date.year + 1) 1; simp; omega⟩

/-- The number goes up by one from each day to the next. -/
theorem dayNumber_next (h : date.Valid) : date.next.dayNumber = date.dayNumber + 1 := by
  obtain ⟨hmonth, hmonth', hday, hday'⟩ := h
  have hmonths : daysOfMonths date.year date.month =
      daysOfMonths date.year (date.month - 1) + daysInMonth date.year date.month := by
    have hsucc : date.month - 1 + 1 = date.month := by omega
    conv_lhs => rw [← hsucc, daysOfMonths]
    rw [hsucc]
  unfold next dayNumber
  split_ifs with hin hyear
  · push_cast
    omega
  · have hlast : date.day = daysInMonth date.year date.month := by omega
    simp only [Nat.add_sub_cancel]
    rw [hmonths, hlast]
    push_cast
    omega
  · have hlast : date.day = daysInMonth date.year date.month := by omega
    have htwelve : date.month = 12 := by omega
    have hzero : daysOfMonths (date.year + 1) (1 - 1) = 0 := rfl
    simp only [hzero, daysBeforeYear_succ]
    rw [← htwelve, hmonths, hlast]
    push_cast
    omega

theorem Valid.iterate_next (h : date.Valid) (days : ℕ) : (CalendarDate.next^[days] date).Valid := by
  induction days with
  | zero => exact h
  | succ days ih =>
    rw [Function.iterate_succ_apply']
    exact ih.next

/-- Each day on adds one to the number. -/
theorem dayNumber_iterate_next (h : date.Valid) (days : ℕ) :
    (CalendarDate.next^[days] date).dayNumber = date.dayNumber + days := by
  induction days with
  | zero => simp
  | succ days ih =>
    rw [Function.iterate_succ_apply', dayNumber_next (h.iterate_next days), ih]
    push_cast
    ring

/-! ### The order of days -/

/-- The days of a year have numbers between those of the year's bounds. -/
theorem dayNumber_bounds (h : date.Valid) :
    daysBeforeYear date.year ≤ date.dayNumber ∧ date.dayNumber < daysBeforeYear (date.year + 1) := by
  obtain ⟨hmonth, hmonth', hday, hday'⟩ := h
  have hbelow := daysOfMonths_add_le date.year (by omega : date.month - 1 < 12)
  have hsucc : date.month - 1 + 1 = date.month := by omega
  rw [hsucc] at hbelow
  rw [daysBeforeYear_succ]
  unfold dayNumber
  omega

theorem dayNumber_lt_of_before (ha : a.Valid) (hb : b.Valid) (h : a.Before b) :
    a.dayNumber < b.dayNumber := by
  rcases h with hyear | ⟨hyear, hmonth | ⟨hmonth, hday⟩⟩
  · have habove := (dayNumber_bounds ha).2
    have hbelow := (dayNumber_bounds hb).1
    have hyears := daysBeforeYear_mono (by omega : a.year + 1 ≤ b.year)
    omega
  · have hmonths := daysOfMonths_add_le a.year
      (by have := ha.month_pos; omega : a.month - 1 < b.month - 1)
    have hsucc : a.month - 1 + 1 = a.month := by have := ha.month_pos; omega
    have hlast := ha.day_le
    have hfirst := hb.day_pos
    rw [hsucc] at hmonths
    unfold dayNumber
    rw [← hyear]
    omega
  · unfold dayNumber
    rw [← hyear, ← hmonth]
    omega

theorem before_trichotomy (a b : CalendarDate) : a.Before b ∨ a = b ∨ b.Before a := by
  obtain ⟨year, month, day⟩ := a
  obtain ⟨year', month', day'⟩ := b
  simp only [Before, mk.injEq]
  omega

/-- A day before another one has the lower number. -/
theorem before_iff (ha : a.Valid) (hb : b.Valid) : a.Before b ↔ a.dayNumber < b.dayNumber := by
  refine ⟨dayNumber_lt_of_before ha hb, fun h => ?_⟩
  rcases before_trichotomy a b with hbefore | rfl | hafter
  · exact hbefore
  · omega
  · have hlt := dayNumber_lt_of_before hb ha hafter
    omega

/-- Days are told apart by their numbers. -/
theorem dayNumber_inj (ha : a.Valid) (hb : b.Valid) (h : a.dayNumber = b.dayNumber) : a = b := by
  rcases before_trichotomy a b with hbefore | heq | hafter
  · have hlt := dayNumber_lt_of_before ha hb hbefore
    omega
  · exact heq
  · have hlt := dayNumber_lt_of_before hb ha hafter
    omega

/-- As many days on as the numbers differ, one day becomes the other. -/
theorem iterate_next_eq (ha : a.Valid) (hb : b.Valid) {days : ℕ}
    (h : b.dayNumber = a.dayNumber + days) : CalendarDate.next^[days] a = b :=
  dayNumber_inj (ha.iterate_next days) hb (by rw [dayNumber_iterate_next ha, h])

/-! ### Months on -/

theorem Valid.addMonths (h : date.Valid) (months : ℤ) : (date.addMonths months).Valid := by
  have hindex := Int.emod_lt_of_pos (date.monthIndex + months) (by decide : (0 : ℤ) < 12)
  have hindex' := Int.emod_nonneg (date.monthIndex + months) (by decide : (12 : ℤ) ≠ 0)
  refine ⟨by simp [CalendarDate.addMonths], ?_, ?_, ?_⟩
  · simp only [CalendarDate.addMonths]
    omega
  · have hbounds := daysInMonth_bounds (date.addMonths months).year (date.addMonths months).month
    have hday := h.day_pos
    simp only [CalendarDate.addMonths] at hbounds ⊢
    omega
  · exact min_le_right _ _

/-- The months on are counted by the month. -/
theorem monthIndex_addMonths (date : CalendarDate) (months : ℤ) :
    (date.addMonths months).monthIndex = date.monthIndex + months := by
  have hindex' := Int.emod_nonneg (date.monthIndex + months) (by decide : (12 : ℤ) ≠ 0)
  have hdivision := Int.mul_ediv_add_emod (date.monthIndex + months) 12
  rw [monthIndex, addMonths]
  dsimp only
  omega

/-- A day of an earlier month lies before. -/
theorem before_of_monthIndex (ha : a.Valid) (hb : b.Valid) (h : a.monthIndex < b.monthIndex) :
    a.Before b := by
  have hpos := ha.month_pos
  have hle := ha.month_le
  have hpos' := hb.month_pos
  have hle' := hb.month_le
  unfold monthIndex at h
  unfold Before
  omega

theorem monthIndex_le (ha : a.Valid) (hb : b.Valid) (h : ¬b.Before a) :
    a.monthIndex ≤ b.monthIndex := by
  by_contra hlater
  exact h (before_of_monthIndex hb ha (by omega))

theorem addMonths_zero (h : date.Valid) : date.addMonths 0 = date := by
  obtain ⟨year, month, day⟩ := date
  obtain ⟨hmonth, hmonth', hday, hday'⟩ := h
  dsimp only at hmonth hmonth' hday hday'
  have hyear : (year * 12 + month - 1 + 0) / 12 = year := by omega
  have hrest : ((year * 12 + month - 1 + 0) % 12).toNat + 1 = month := by omega
  simp only [addMonths, monthIndex, hyear, hrest, mk.injEq, true_and]
  omega

end CalendarDate

/-! ### Two-digit years -/

/-- A year below one hundred is one of the twentieth century to the modelled language. -/
def fullYear (year : ℤ) : ℤ := if 0 ≤ year ∧ year ≤ 99 then 1900 + year else year

theorem fullYear_eq {year : ℤ} (h : 100 ≤ year) : fullYear year = year :=
  if_neg (by omega)

/-- The shift by nineteen centuries keeps the length of a month, but for the year zero. -/
theorem daysInMonth_fullYear {year : ℤ} (h : year ≠ 0) (month : ℕ) :
    daysInMonth (fullYear year) month = daysInMonth year month := by
  unfold fullYear
  split_ifs with htwo
  · unfold daysInMonth
    split_ifs <;> omega
  · rfl

end InternalControl.Calendar
