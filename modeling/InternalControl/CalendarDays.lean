import InternalControl.Calendar

/-!
# The day with a number

The year, the month and the day of the day with a number. It is the one day of the calendar
that has it.
-/

namespace InternalControl.Calendar

/-- The year of the day with a number. -/
def yearOfDay (number : ℤ) : ℤ :=
  let guess := 1970 + 400 * number / 146097
  if number < daysBeforeYear guess then guess - 1
  else if daysBeforeYear (guess + 1) ≤ number then guess + 1
  else guess

/-- The last of the first months that begins in the days of a year up to one of them. -/
def monthOfDay (year : ℤ) (dayOfYear : ℕ) : ℕ → ℕ
  | 0 => 0
  | month + 1 =>
    if daysOfMonths year month ≤ dayOfYear then month + 1 else monthOfDay year dayOfYear month

/-- The day with a number. -/
def dateOfDay (number : ℤ) : CalendarDate :=
  let year := yearOfDay number
  let dayOfYear := (number - daysBeforeYear year).toNat
  let month := monthOfDay year dayOfYear 12
  ⟨year, month, dayOfYear - daysOfMonths year (month - 1) + 1⟩

/-- The day lies in its year. -/
theorem yearOfDay_spec (number : ℤ) : daysBeforeYear (yearOfDay number) ≤ number ∧
    number < daysBeforeYear (yearOfDay number + 1) := by
  have hlow : daysBeforeYear (1970 + 400 * number / 146097 - 1) ≤ number := by
    unfold daysBeforeYear
    omega
  have hhigh : number < daysBeforeYear (1970 + 400 * number / 146097 + 1 + 1) := by
    unfold daysBeforeYear
    omega
  unfold yearOfDay
  dsimp only
  split_ifs with hbefore hafter
  · rw [sub_add_cancel]
    exact ⟨hlow, hbefore⟩
  · exact ⟨hafter, hhigh⟩
  · omega

/-- A year is that of the days between its bounds. -/
theorem yearOfDay_eq {number year : ℤ} (hlow : daysBeforeYear year ≤ number)
    (hhigh : number < daysBeforeYear (year + 1)) : yearOfDay number = year := by
  obtain ⟨hlow', hhigh'⟩ := yearOfDay_spec number
  rcases lt_trichotomy (yearOfDay number) year with hless | heq | hmore
  · have hyears := daysBeforeYear_mono (by omega : yearOfDay number + 1 ≤ year)
    omega
  · exact heq
  · have hyears := daysBeforeYear_mono (by omega : year + 1 ≤ yearOfDay number)
    omega

/-- The month found begins no later than the day, and the next one begins after it. -/
theorem monthOfDay_spec (year : ℤ) (dayOfYear months : ℕ) (hmonths : 1 ≤ months) :
    1 ≤ monthOfDay year dayOfYear months ∧ monthOfDay year dayOfYear months ≤ months ∧
      daysOfMonths year (monthOfDay year dayOfYear months - 1) ≤ dayOfYear ∧
      (dayOfYear < daysOfMonths year months →
        dayOfYear < daysOfMonths year (monthOfDay year dayOfYear months)) := by
  induction months with
  | zero => omega
  | succ month ih =>
    rw [monthOfDay]
    split
    · next hbegun => exact ⟨by omega, le_rfl, hbegun, id⟩
    · next hlater =>
      have hpos : 1 ≤ month := by
        by_contra hzero
        have hmonth : month = 0 := by omega
        rw [hmonth] at hlater
        exact hlater (Nat.zero_le dayOfYear)
      obtain ⟨hfirst, hlast, hbegun, hended⟩ := ih hpos
      exact ⟨hfirst, by omega, hbegun, fun _ => hended (by omega)⟩

/-- The day with a number is a day of the calendar, and it has the number. -/
theorem dateOfDay_spec (number : ℤ) :
    (dateOfDay number).Valid ∧ (dateOfDay number).dayNumber = number := by
  obtain ⟨hlow, hhigh⟩ := yearOfDay_spec number
  rw [daysBeforeYear_succ] at hhigh
  obtain ⟨hfirst, hlast, hbegun, hended⟩ := monthOfDay_spec (yearOfDay number)
    (number - daysBeforeYear (yearOfDay number)).toNat 12 (by decide)
  have hend := hended (by omega)
  have hmonths : daysOfMonths (yearOfDay number)
      (monthOfDay (yearOfDay number) (number - daysBeforeYear (yearOfDay number)).toNat 12) =
      daysOfMonths (yearOfDay number)
        (monthOfDay (yearOfDay number) (number - daysBeforeYear (yearOfDay number)).toNat 12 - 1) +
      daysInMonth (yearOfDay number)
        (monthOfDay (yearOfDay number) (number - daysBeforeYear (yearOfDay number)).toNat 12) := by
    obtain ⟨month, hmonth⟩ := Nat.exists_eq_succ_of_ne_zero (by omega :
      monthOfDay (yearOfDay number) (number - daysBeforeYear (yearOfDay number)).toNat 12 ≠ 0)
    rw [hmonth]
    rfl
  constructor
  · refine ⟨hfirst, hlast, Nat.succ_pos _, ?_⟩
    simp only [dateOfDay]
    omega
  · simp only [dateOfDay, CalendarDate.dayNumber]
    omega

namespace CalendarDate

variable {date : CalendarDate}

theorem dateOfDay_dayNumber (h : date.Valid) : dateOfDay date.dayNumber = date :=
  dayNumber_inj (dateOfDay_spec _).1 h (dateOfDay_spec _).2

end CalendarDate

/-- The day of the week of the day with a number, from zero for Monday on. -/
def weekday (number : ℤ) : ℤ := (number + 3) % 7

example : dateOfDay 0 = ⟨1970, 1, 1⟩ ∧ dateOfDay 20515 = ⟨2026, 3, 3⟩ := by decide +kernel

end InternalControl.Calendar
