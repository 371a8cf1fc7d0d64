import InternalControl.DateTexts
import InternalControl.StorageKeys

/-!
# Weeks of a period

The planning of inventories splits a period into weeks from Monday to Sunday, named by their
year and number. The weeks partition the period as long as its dates are not so early that a
week touches a year of two digits, nor so late that one touches a year of five.
-/

namespace InternalControl.InventorySchedule

open Calendar Text

/-! ### Weeks -/

/-- A week with its first and its last day, as texts. -/
structure IsoWeek where
  key : String
  start : String
  finish : String
  deriving DecidableEq

/-- The number of a week, of two characters at least. -/
def padWeek (week : ℤ) : String :=
  let text := toString week
  if text.toList.length < 2 then String.ofList (List.replicate (2 - text.toList.length) '0') ++ text
  else text

/-- The name of a week. -/
def weekKey (year week : ℤ) : String := toString year ++ "-W" ++ padWeek week

/-- The day of the week of a day, from zero for Sunday on. -/
def getUTCDay (number : ℤ) : ℤ := (number + 4) % 7

/-- The week of a day. Its last day is read from the text of its first one. -/
def weekOfDay (number : ℤ) : Option IsoWeek := do
  let weekday := (getUTCDay number + 6) % 7
  let start := fromUtcDay (number - weekday)
  let thursday := number + (3 - weekday)
  let year := (dateOfDay thursday).year
  let week := 1 + (thursday - utcDay ⟨year, 1, 1⟩) / 7
  let finish ← addDays start 6
  return { key := weekKey year week, start := start, finish := finish }

/-- The week of a date. -/
def isoWeekOf (date : String) : Option IsoWeek := do
  weekOfDay (← toUtcDay date)

/-- Why no weeks are given. -/
inductive Failure where
  /-- A text is no date. -/
  | invalidDate
  /-- The turns allowed are over. -/
  | unfinished

/-- The weeks from one on that begin no later than a date, in at most so many turns. -/
def weeksFrom (toDate : String) : ℕ → IsoWeek → Except Failure (List IsoWeek)
  | 0, _ => .error .unfinished
  | turns + 1, cursor =>
    if unitsLe cursor.start toDate then
      match (addDays cursor.start 7).bind isoWeekOf with
      | some next => (weeksFrom toDate turns next).map (cursor :: ·)
      | none => .error .invalidDate
    else .ok []

/-- The weeks of a period. -/
def isoWeeksBetween (turns : ℕ) (fromDate toDate : String) : Except Failure (List IsoWeek) :=
  match isoWeekOf fromDate with
  | some cursor => weeksFrom toDate turns cursor
  | none => .error .invalidDate

/-! ### What weeks are for -/

/-- The first day of a week and the last one. -/
structure Span where
  monday : CalendarDate
  sunday : CalendarDate

/-- A date lies in a week. -/
def Span.Contains (span : Span) (date : CalendarDate) : Prop :=
  ¬date.Before span.monday ∧ ¬span.sunday.Before date

/-- The Monday of the first week of a year, which is the week of the fourth of January. -/
def firstMonday (year : ℤ) : ℤ :=
  let fourth := CalendarDate.dayNumber ⟨year, 1, 4⟩
  fourth - weekday fourth

/-- The week of a Monday has a number in a year. -/
def IsIsoWeek (monday year week : ℤ) : Prop :=
  firstMonday year ≤ monday ∧ monday < firstMonday (year + 1) ∧
    monday = firstMonday year + 7 * (week - 1)

/-- A week is the one from a Monday to a Sunday, named by its year and its number. -/
structure IsWeek (week : IsoWeek) (span : Span) : Prop where
  monday : IsDate span.monday
  sunday : IsDate span.sunday
  start : week.start = dateText span.monday
  finish : week.finish = dateText span.sunday
  starts : weekday span.monday.dayNumber = 0
  lasts : span.sunday.dayNumber = span.monday.dayNumber + 6
  key : ∃ year number, IsIsoWeek span.monday.dayNumber year number ∧ week.key = weekKey year number

/-- A date lies in a period. -/
def InPeriod (fromDate toDate date : CalendarDate) : Prop :=
  date.Valid ∧ ¬date.Before fromDate ∧ ¬toDate.Before date

/-- Weeks that partition a period. -/
structure Partition (fromDate toDate : CalendarDate) (weeks : List IsoWeek) (spans : List Span) :
    Prop where
  length : spans.length = weeks.length
  isWeek : ∀ (i : ℕ) (week : IsoWeek) (span : Span), weeks[i]? = some week → spans[i]? = some span →
    IsWeek week span
  consecutive : ∀ (i : ℕ) (span after : Span), spans[i]? = some span → spans[i + 1]? = some after →
    after.monday = span.sunday.next
  covers : ∀ date, InPeriod fromDate toDate date →
    ∃! i : ℕ, ∃ span, spans[i]? = some span ∧ span.Contains date
  meets : ∀ span ∈ spans, ∃ date, InPeriod fromDate toDate date ∧ span.Contains date
  distinct : (weeks.map IsoWeek.key).Nodup

/-- The weeks of a period are found in some number of turns, and they partition it. -/
def WeeksPartition (fromDate toDate : CalendarDate) : Prop :=
  ∃ weeks spans, (∃ turns, ∀ more,
    (isoWeeksBetween (turns + more) (dateText fromDate) (dateText toDate)).toOption = some weeks) ∧
    Partition fromDate toDate weeks spans

/-! ### Days whose weeks have four digits -/

/-- The first Monday whose week lies in the years from one hundred on, and the last one whose
week begins before the year ten thousand. -/
def lowest : ℤ := CalendarDate.dayNumber ⟨100, 1, 4⟩

def highest : ℤ := CalendarDate.dayNumber ⟨9999, 12, 27⟩

theorem lowest_eq : lowest = daysBeforeYear 100 + 3 ∧ lowest % 7 = 4 := by decide +kernel

theorem highest_eq : highest = daysBeforeYear 10000 - 5 ∧ highest % 7 = 4 := by decide +kernel

section Days

variable {number monday year : ℤ}

/-- The days of the years from one hundred to ten thousand are dates. -/
theorem isDate_dateOfDay (hlow : daysBeforeYear 100 ≤ number)
    (hhigh : number < daysBeforeYear 10000) :
    IsDate (dateOfDay number) ∧ 100 ≤ (dateOfDay number).year := by
  obtain ⟨hbegun, hended⟩ := yearOfDay_spec number
  have hyear : 100 ≤ yearOfDay number := by
    by_contra hless
    have hyears := daysBeforeYear_mono (by omega : yearOfDay number + 1 ≤ 100)
    omega
  have hyear' : yearOfDay number ≤ 9999 := by
    by_contra hmore
    have hyears := daysBeforeYear_mono (by omega : 10000 ≤ yearOfDay number)
    omega
  exact ⟨⟨(dateOfDay_spec number).1, by simp only [dateOfDay]; omega, hyear'⟩, hyear⟩

theorem fromUtcDay_eq (hlow : daysBeforeYear 100 ≤ number) (hhigh : number < daysBeforeYear 10000) :
    fromUtcDay number = dateText (dateOfDay number) := by
  have htext := fromUtcDay_dayNumber (isDate_dateOfDay hlow hhigh).1
  rwa [(dateOfDay_spec number).2] at htext

/-- Such a day is read back from its text. -/
theorem toUtcDay_fromUtcDay (hlow : daysBeforeYear 100 ≤ number)
    (hhigh : number < daysBeforeYear 10000) : toUtcDay (fromUtcDay number) = some number := by
  obtain ⟨hdate, hyear⟩ := isDate_dateOfDay hlow hhigh
  rw [fromUtcDay_eq hlow hhigh, toUtcDay_of_year hdate hyear, (dateOfDay_spec number).2]

theorem addDays_fromUtcDay (hlow : daysBeforeYear 100 ≤ number)
    (hhigh : number < daysBeforeYear 10000) (days : ℤ) :
    addDays (fromUtcDay number) days = some (fromUtcDay (number + days)) := by
  rw [addDays, toUtcDay_fromUtcDay hlow hhigh]
  rfl

theorem valid_january (year : ℤ) : CalendarDate.Valid ⟨year, 1, 1⟩ :=
  ⟨le_rfl, show 1 ≤ 12 by decide, le_rfl, le_trans (show 1 ≤ 28 by decide) (daysInMonth_bounds year 1).1⟩

theorem dayNumber_january (year : ℤ) :
    CalendarDate.dayNumber ⟨year, 1, 1⟩ = daysBeforeYear year := by
  simp [CalendarDate.dayNumber, daysOfMonths]

/-- The year and the number of the week of a Monday. -/
def yearAt (monday : ℤ) : ℤ := yearOfDay (monday + 3)

def numberAt (monday : ℤ) : ℤ := 1 + (monday + 3 - daysBeforeYear (yearAt monday)) / 7

/-- The week of a Monday. -/
def weekAt (monday : ℤ) : IsoWeek :=
  ⟨weekKey (yearAt monday) (numberAt monday), fromUtcDay monday, fromUtcDay (monday + 6)⟩

/-- The week of a day is that of the Monday before it. -/
theorem weekOfDay_eq (hlow : lowest ≤ number) (hhigh : number < highest + 5) :
    weekOfDay number = some (weekAt (number - weekday number)) := by
  obtain ⟨hlowest, hrest⟩ := lowest_eq
  obtain ⟨hhighest, hrest'⟩ := highest_eq
  have hday : (getUTCDay number + 6) % 7 = weekday number := by
    unfold getUTCDay weekday
    omega
  have hmonday : lowest ≤ number - weekday number ∧ number - weekday number ≤ highest := by
    unfold weekday
    omega
  have hthursday : number + (3 - weekday number) = number - weekday number + 3 := by ring
  have hyear : 100 ≤ yearAt (number - weekday number) :=
    (isDate_dateOfDay (by omega) (by omega)).2
  have hjanuary : utcDay ⟨yearAt (number - weekday number), 1, 1⟩ =
      daysBeforeYear (yearAt (number - weekday number)) := by
    rw [utcDay_eq (valid_january _), fullYear_eq hyear, dayNumber_january]
  have hdate : (dateOfDay (number - weekday number + 3)).year = yearAt (number - weekday number) := rfl
  simp only [weekOfDay, hday, hthursday, hdate, hjanuary]
  rw [addDays_fromUtcDay (by omega) (by omega)]
  rfl

theorem isoWeekOf_fromUtcDay (hlow : lowest ≤ number) (hhigh : number < highest + 5) :
    isoWeekOf (fromUtcDay number) = some (weekAt (number - weekday number)) := by
  obtain ⟨hlowest, -⟩ := lowest_eq
  obtain ⟨hhighest, -⟩ := highest_eq
  rw [isoWeekOf, toUtcDay_fromUtcDay (by omega) (by omega), Option.bind_eq_bind, Option.bind_some,
    weekOfDay_eq hlow hhigh]

/-! ### Names of weeks -/

/-- The Thursday of a week tells the year, and the number counts the weeks up to it. -/
theorem isIsoWeek (hmonday : weekday monday = 0) :
    IsIsoWeek monday (yearAt monday) (numberAt monday) := by
  obtain ⟨hbegun, hended⟩ := yearOfDay_spec (monday + 3)
  have hfourth : ∀ year, CalendarDate.dayNumber ⟨year, 1, 4⟩ = daysBeforeYear year + 3 := by
    intro year
    simp only [CalendarDate.dayNumber, daysOfMonths, Nat.sub_self]
    push_cast
    ring
  have hyear : yearOfDay (monday + 3) = yearAt monday := rfl
  rw [hyear] at hbegun hended
  have hlength : daysBeforeYear (yearAt monday) ≤ daysBeforeYear (yearAt monday + 1) :=
    daysBeforeYear_mono (by omega)
  unfold weekday at hmonday
  simp only [IsIsoWeek, firstMonday, hfourth, numberAt, weekday]
  omega

/-- The number of a week is one of the fifty-three. -/
theorem numberAt_bounds (monday : ℤ) : 1 ≤ numberAt monday ∧ numberAt monday ≤ 53 := by
  obtain ⟨hbegun, hended⟩ := yearOfDay_spec (monday + 3)
  have hyear : yearOfDay (monday + 3) = yearAt monday := rfl
  rw [hyear] at hbegun hended
  have hlength : daysBeforeYear (yearAt monday + 1) ≤ daysBeforeYear (yearAt monday) + 366 := by
    unfold daysBeforeYear
    omega
  unfold numberAt
  omega

theorem padWeek_eq : ∀ week < 54, padWeek (week : ℕ) = String.ofList (Instant.digits 2 week) := by
  decide +kernel

/-- Names of weeks tell years and numbers apart. -/
theorem weekKey_inj {year other week number : ℤ} (hyear : 0 ≤ year) (hother : 0 ≤ other)
    (hweek : 1 ≤ week ∧ week ≤ 53) (hnumber : 1 ≤ number ∧ number ≤ 53)
    (h : weekKey year week = weekKey other number) : year = other ∧ week = number := by
  obtain ⟨year, rfl⟩ := Int.eq_ofNat_of_zero_le hyear
  obtain ⟨other, rfl⟩ := Int.eq_ofNat_of_zero_le hother
  obtain ⟨week, rfl⟩ := Int.eq_ofNat_of_zero_le (by omega : 0 ≤ week)
  obtain ⟨number, rfl⟩ := Int.eq_ofNat_of_zero_le (by omega : 0 ≤ number)
  have htext : ∀ n : ℕ, (toString (n : ℤ)).toList = Nat.toDigits 10 n := fun n => Nat.toList_repr
  have hlist := congrArg String.toList h
  rw [weekKey, weekKey, padWeek_eq week (by omega), padWeek_eq number (by omega)] at hlist
  simp only [String.toList_append, String.toList_ofList, htext, List.append_assoc] at hlist
  obtain ⟨hyears, hweeks⟩ := StorageKeys.append_mark_inj
    (StorageKeys.notMem_toDigits (by decide) year) (StorageKeys.notMem_toDigits (by decide) other) hlist
  have hdigits : Instant.digits 2 week = Instant.digits 2 number := (List.cons.inj hweeks).2
  rw [StorageKeys.toDigits_inj hyears, Instant.digits_inj (by omega) (by omega) hdigits]
  exact ⟨rfl, rfl⟩

/-- Mondays are told apart by the names of their weeks. -/
theorem weekAt_key_inj {other : ℤ} (hmonday : weekday monday = 0) (hother : weekday other = 0)
    (hlow : 0 ≤ yearAt monday) (hlow' : 0 ≤ yearAt other)
    (h : (weekAt monday).key = (weekAt other).key) : monday = other := by
  obtain ⟨hyear, hnumber⟩ := weekKey_inj hlow hlow' (numberAt_bounds monday) (numberAt_bounds other) h
  obtain ⟨-, -, hplace⟩ := isIsoWeek hmonday
  obtain ⟨-, -, hplace'⟩ := isIsoWeek hother
  rw [hplace, hplace', hyear, hnumber]

end Days

end InternalControl.InventorySchedule
