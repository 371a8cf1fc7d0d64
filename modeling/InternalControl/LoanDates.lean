import InternalControl.Calendar

/-!
# The time a loan is used

Years, months and days between two days, for a loan. The months start from the
difference of the calendar months and come down one by one while they pass
the later day; the days are what is left after them.
-/

namespace InternalControl.LoanDates

open Calendar

/-- The value of decimal digits. -/
def readDigits (digits : List Char) : ℕ :=
  digits.foldl (fun value c => 10 * value + (c.toNat - 48)) 0

/-- ISO_DATE, on the first ten characters. -/
def isoFields : List Char → Option CalendarDate
  | [y₁, y₂, y₃, y₄, '-', m₁, m₂, '-', d₁, d₂] =>
    if [y₁, y₂, y₃, y₄, m₁, m₂, d₁, d₂].all Char.isDigit then
      some ⟨readDigits [y₁, y₂, y₃, y₄], readDigits [m₁, m₂], readDigits [d₁, d₂]⟩
    else none
  | _ => none

/-- The days of a month as the day before the first of the next one. -/
def daysInMonth (year : ℤ) (month : ℕ) : ℕ := InternalControl.daysInMonth (fullYear year) month

/-- The day that a text begins with. -/
def parse (iso : String) : Except String CalendarDate :=
  match isoFields (iso.toList.take 10) with
  | none => .error ("Fecha inválida: " ++ iso)
  | some date =>
    if date.month < 1 ∨ date.month > 12 ∨ date.day < 1 ∨ date.day > daysInMonth date.year date.month then
      .error ("Fecha inválida: " ++ iso)
    else .ok date

/-- Milliseconds of a day. -/
def msPerDay : ℤ := 86400000

/-- The beginning of a day in milliseconds of universal time. -/
def toUtcMs (date : CalendarDate) : ℤ :=
  CalendarDate.dayNumber ⟨fullYear date.year, date.month, date.day⟩ * msPerDay

/-- The same day some months later, cut to the last day of the month. -/
def addMonths (date : CalendarDate) (months : ℤ) : CalendarDate :=
  let index := date.year * 12 + (date.month - 1) + months
  let year := index / 12
  -- the remainder of the language has the sign of the dividend
  let month := (index.tmod 12 + 1).toNat
  ⟨year, month, min date.day (daysInMonth year month)⟩

/-- LoanUsage. -/
structure LoanUsage where
  years : ℤ
  months : ℤ
  days : ℤ
  totalDays : ℤ
  text : String
  deriving DecidableEq

/-- A count with its noun. -/
def unit (value : ℤ) (singular plural : String) : String :=
  toString value ++ " " ++ if value = 1 then singular else plural

/-- The text of a usage. -/
def formatUsage (years months days : ℤ) : String :=
  ", ".intercalate
    [unit years "año" "años", unit months "mes" "meses", unit days "día" "días"]

/-- Math.round of milliseconds in days. -/
def roundDays (ms : ℤ) : ℤ := (2 * ms + msPerDay) / (2 * msPerDay)

/-- The loop that takes months off while they pass the end. -/
def takeOff (start : CalendarDate) (endMs : ℤ) : ℕ → ℕ
  | 0 => 0
  | months + 1 =>
    if toUtcMs (addMonths start (months + 1 : ℕ)) > endMs then takeOff start endMs months
    else months + 1

/-- The usage between two days that were read. -/
def usageOf (start stop : CalendarDate) : Option LoanUsage :=
  let endMs := toUtcMs stop
  let totalDays := roundDays (endMs - toUtcMs start)
  if totalDays < 0 then none
  else
    let months := (stop.year - start.year) * 12 + (stop.month - start.month)
    let months := if months > 0 then (takeOff start endMs months.toNat : ℤ) else months
    let anchor := addMonths start months
    let days := roundDays (endMs - toUtcMs anchor)
    let years := months / 12
    let rest := months.tmod 12
    some ⟨years, rest, days, totalDays, formatUsage years rest days⟩

/-- The usage between two days written as text, or nothing when it ends before it begins. -/
def usageBetween («from» «to» : String) : Except String (Option LoanUsage) := do
  let start ← parse «from»
  let stop ← parse «to»
  return usageOf start stop

/-- The institution's own example. -/
example : usageOf ⟨2026, 3, 27⟩ ⟨2026, 12, 11⟩ = some ⟨0, 8, 14, 259, "0 años, 8 meses, 14 días"⟩ := by
  decide

/-! ### What the functions are on the calendar -/

section Calendar

variable {date start stop : CalendarDate}

/-- A text that is read is a day of the calendar, from the year one hundred on. -/
theorem valid_of_parse {iso : String} (h : parse iso = .ok date) (hyear : 100 ≤ date.year) :
    date.Valid := by
  unfold parse at h
  cases hfields : isoFields (iso.toList.take 10) with
  | none =>
    rw [hfields] at h
    cases h
  | some fields =>
    rw [hfields] at h
    dsimp only at h
    split_ifs at h with hinvalid
    have heq : fields = date := Except.ok.inj h
    subst heq
    have hdays : daysInMonth fields.year fields.month =
        InternalControl.daysInMonth fields.year fields.month := by
      rw [daysInMonth, fullYear_eq hyear]
    rw [hdays] at hinvalid
    exact ⟨by omega, by omega, by omega, by omega⟩

/-- From the year one hundred on, the beginning of a day is its number. -/
theorem toUtcMs_eq (hyear : 100 ≤ date.year) : toUtcMs date = date.dayNumber * msPerDay := by
  rw [toUtcMs, fullYear_eq hyear]

theorem roundDays_mul (days : ℤ) : roundDays (days * msPerDay) = days := by
  unfold roundDays msPerDay
  omega

/-- The months on are those of the calendar. -/
theorem addMonths_eq (hvalid : start.Valid) (hyear : 100 ≤ start.year) {months : ℤ}
    (hmonths : 0 ≤ months) : addMonths start months = start.addMonths months := by
  have hpos := hvalid.month_pos
  have hindex : start.year * 12 + (start.month - 1) + months = start.monthIndex + months := by
    rw [CalendarDate.monthIndex]
    ring
  have hnonneg : 0 ≤ start.monthIndex + months := by
    rw [CalendarDate.monthIndex]
    omega
  have hyears : 100 ≤ (start.monthIndex + months) / 12 := by
    rw [CalendarDate.monthIndex]
    omega
  have hmod := Int.emod_nonneg (start.monthIndex + months) (by decide : (12 : ℤ) ≠ 0)
  have hmonth : ((start.monthIndex + months) % 12 + 1).toNat =
      ((start.monthIndex + months) % 12).toNat + 1 := by omega
  simp only [addMonths, CalendarDate.addMonths, hindex, Int.tmod_eq_emod_of_nonneg hnonneg, hmonth,
    daysInMonth, fullYear_eq hyears]

theorem year_addMonths (hvalid : start.Valid) (hyear : 100 ≤ start.year) {months : ℤ}
    (hmonths : 0 ≤ months) : 100 ≤ (start.addMonths months).year := by
  have hpos := hvalid.month_pos
  simp only [CalendarDate.addMonths, CalendarDate.monthIndex]
  omega

/-- The milliseconds of a later month compare as the days do. -/
theorem addMonths_gt_iff (hstart : start.Valid) (hstop : stop.Valid) (hyear : 100 ≤ start.year)
    (hyear' : 100 ≤ stop.year) {months : ℤ} (hmonths : 0 ≤ months) :
    toUtcMs (addMonths start months) > toUtcMs stop ↔ stop.Before (start.addMonths months) := by
  rw [addMonths_eq hstart hyear hmonths, toUtcMs_eq (year_addMonths hstart hyear hmonths),
    toUtcMs_eq hyear', CalendarDate.before_iff hstop (hstart.addMonths months)]
  unfold msPerDay
  omega

/-! ### The loop -/

/-- The loop stops at months that do not pass the end, and one more passes it. -/
theorem takeOff_spec (hstart : start.Valid) (hstop : stop.Valid) (hyear : 100 ≤ start.year)
    (hyear' : 100 ≤ stop.year) (horder : ¬stop.Before start) (months : ℕ)
    (hnext : stop.Before (start.addMonths (months + 1))) :
    ¬stop.Before (start.addMonths (takeOff start (toUtcMs stop) months)) ∧
      stop.Before (start.addMonths (takeOff start (toUtcMs stop) months + 1)) := by
  induction months with
  | zero =>
    have hzero : start.addMonths ((0 : ℕ) : ℤ) = start := CalendarDate.addMonths_zero hstart
    rw [takeOff, hzero]
    exact ⟨horder, by simpa using hnext⟩
  | succ months ih =>
    have hcompare := addMonths_gt_iff hstart hstop hyear hyear' (Int.natCast_nonneg (months + 1))
    rw [takeOff]
    split_ifs with hpast
    · have hbefore := hcompare.mp hpast
      push_cast at hbefore
      exact ih hbefore
    · exact ⟨fun hbefore => hpast (hcompare.mpr hbefore), by exact_mod_cast hnext⟩

end Calendar

/-! ### The usage is the calendar's difference -/

/-- Years, months and days that lead from one day to another one on the calendar,
with the days between both. -/
structure IsDifference (start stop : CalendarDate) (usage : LoanUsage) : Prop where
  months_nonneg : 0 ≤ usage.months
  months_le : usage.months ≤ 11
  days_nonneg : 0 ≤ usage.days
  /-- After the months and the days the end is reached. -/
  reaches : CalendarDate.next^[usage.days.toNat]
    (start.addMonths (12 * usage.years + usage.months)) = stop
  /-- One month more passes the end. -/
  maximal : stop.Before (start.addMonths (12 * usage.years + usage.months + 1))
  total_nonneg : 0 ≤ usage.totalDays
  /-- Day after day, the total leads from the one to the other. -/
  total : CalendarDate.next^[usage.totalDays.toNat] start = stop

variable {start stop : CalendarDate}

/-- The total of the usage is the difference of the numbers of the days. -/
theorem totalDays_eq (hyear : 100 ≤ start.year) (hyear' : 100 ≤ stop.year) :
    roundDays (toUtcMs stop - toUtcMs start) = stop.dayNumber - start.dayNumber := by
  rw [toUtcMs_eq hyear, toUtcMs_eq hyear', ← sub_mul, roundDays_mul]

theorem usageOf_before (hstart : start.Valid) (hstop : stop.Valid) (hyear : 100 ≤ start.year)
    (hyear' : 100 ≤ stop.year) (h : stop.Before start) : usageOf start stop = none := by
  have hlt := CalendarDate.dayNumber_lt_of_before hstop hstart h
  have htotal : roundDays (toUtcMs stop - toUtcMs start) < 0 := by
    rw [totalDays_eq hyear hyear']
    omega
  simp only [usageOf, if_pos htotal]

theorem usageOf_isDifference (hstart : start.Valid) (hstop : stop.Valid) (hyear : 100 ≤ start.year)
    (hyear' : 100 ≤ stop.year) (h : ¬stop.Before start) :
    ∃ usage, usageOf start stop = some usage ∧ IsDifference start stop usage := by
  have hle : start.dayNumber ≤ stop.dayNumber := by
    rw [CalendarDate.before_iff hstop hstart] at h
    omega
  have htotal := totalDays_eq hyear hyear'
  have hdifference : (stop.year - start.year) * 12 + ((stop.month : ℤ) - start.month) =
      stop.monthIndex - start.monthIndex := by
    unfold CalendarDate.monthIndex
    ring
  have hmonths := CalendarDate.monthIndex_le hstart hstop h
  obtain ⟨whole, hwhole⟩ : ∃ whole : ℕ, (whole : ℤ) = stop.monthIndex - start.monthIndex :=
    ⟨(stop.monthIndex - start.monthIndex).toNat, Int.toNat_of_nonneg (by omega)⟩
  -- one month more than the difference of the months passes the end
  have hnext : stop.Before (start.addMonths (whole + 1)) := by
    refine CalendarDate.before_of_monthIndex hstop (hstart.addMonths _) ?_
    rw [CalendarDate.monthIndex_addMonths]
    omega
  obtain ⟨hreached, hpassed⟩ := takeOff_spec hstart hstop hyear hyear' h whole hnext
  have hcount : (if (whole : ℤ) > 0 then (takeOff start (toUtcMs stop) (whole : ℤ).toNat : ℤ)
      else (whole : ℤ)) = takeOff start (toUtcMs stop) whole := by
    rw [Int.toNat_natCast]
    split_ifs with hpos
    · rfl
    · have hzero : whole = 0 := by omega
      rw [hzero]
      rfl
  generalize takeOff start (toUtcMs stop) whole = months at hreached hpassed hcount
  have hnonneg : (0 : ℤ) ≤ months := Int.natCast_nonneg months
  have hanchor := addMonths_eq hstart hyear hnonneg
  have hdays := totalDays_eq (year_addMonths hstart hyear hnonneg) hyear'
  have hanchorLe : (start.addMonths months).dayNumber ≤ stop.dayNumber := by
    rw [CalendarDate.before_iff hstop (hstart.addMonths _)] at hreached
    omega
  have hsplit : 12 * ((months : ℤ) / 12) + (months : ℤ).tmod 12 = months := by
    rw [Int.tmod_eq_emod_of_nonneg hnonneg]
    omega
  have hrest : 0 ≤ (months : ℤ).tmod 12 ∧ (months : ℤ).tmod 12 ≤ 11 := by
    rw [Int.tmod_eq_emod_of_nonneg hnonneg]
    omega
  have htotalNonneg : ¬stop.dayNumber - start.dayNumber < 0 := by omega
  refine ⟨⟨months / 12, (months : ℤ).tmod 12, stop.dayNumber - (start.addMonths months).dayNumber,
    stop.dayNumber - start.dayNumber, formatUsage (months / 12) ((months : ℤ).tmod 12)
      (stop.dayNumber - (start.addMonths months).dayNumber)⟩, ?_, ?_⟩
  · simp only [usageOf, htotal, hdifference, ← hwhole, hcount, hanchor, hdays, if_neg htotalNonneg]
  · refine ⟨hrest.1, hrest.2, by dsimp only; omega, ?_, ?_, by dsimp only; omega, ?_⟩
    · rw [hsplit]
      exact CalendarDate.iterate_next_eq (hstart.addMonths _) hstop (by dsimp only; omega)
    · rw [hsplit]
      exact hpassed
    · exact CalendarDate.iterate_next_eq hstart hstop (by dsimp only; omega)

end InternalControl.LoanDates
