import InternalControl.IsoWeeks
import Mathlib.Data.List.Nodup

/-!
# When the weeks partition a period

The loop over weeks gives the Mondays of the period in order. It fails where the text of a
week no longer reads as its days, which the two bounds on the period tell exactly.
-/

namespace InternalControl.InventorySchedule

open Calendar Text

/-! ### The loop -/

/-- The Mondays from one on up to a day. -/
def mondays (monday last : ℤ) : List ℤ :=
  (List.range ((last - monday + 7) / 7).toNat).map fun i : ℕ => monday + 7 * (i : ℤ)

section Loop

variable {monday last : ℤ} {toDate : CalendarDate}

theorem mondays_of_le (h : monday ≤ last) :
    mondays monday last = monday :: mondays (monday + 7) last := by
  have hcount : ((last - monday + 7) / 7).toNat = ((last - (monday + 7) + 7) / 7).toNat + 1 := by omega
  rw [mondays, hcount, List.range_succ_eq_map, List.map_cons, List.map_map, mondays]
  congr 1
  · simp
  · refine List.map_congr_left fun i _ => ?_
    simp only [Function.comp_apply]
    push_cast
    ring

theorem mondays_of_lt (h : last < monday) : mondays monday last = [] := by
  have hcount : ((last - monday + 7) / 7).toNat = 0 := by omega
  rw [mondays, hcount]
  rfl

/-- A week begins no later than a date when its Monday does. -/
theorem unitsLe_weekAt (hdate : IsDate toDate) (hlow : daysBeforeYear 100 ≤ monday)
    (hhigh : monday < daysBeforeYear 10000) :
    unitsLe (weekAt monday).start (dateText toDate) = true ↔ monday ≤ toDate.dayNumber := by
  rw [weekAt, fromUtcDay_eq hlow hhigh, unitsLe_dateText (isDate_dateOfDay hlow hhigh).1 hdate,
    (dateOfDay_spec monday).2]

/-- The week after a week. -/
theorem next_weekAt (hmonday : weekday monday = 0) (hlow : lowest ≤ monday)
    (hhigh : monday + 7 ≤ highest) :
    (addDays (weekAt monday).start 7).bind isoWeekOf = some (weekAt (monday + 7)) := by
  obtain ⟨hlowest, -⟩ := lowest_eq
  obtain ⟨hhighest, -⟩ := highest_eq
  have hnext : weekday (monday + 7) = 0 := by
    unfold weekday at hmonday ⊢
    omega
  rw [weekAt, addDays_fromUtcDay (by omega) (by omega), Option.bind_some,
    isoWeekOf_fromUtcDay (by omega) (by omega), hnext, sub_zero]

/-- No week comes after the highest one. -/
theorem next_highest : (addDays (weekAt highest).start 7).bind isoWeekOf = none := by
  decide

/-- The loop gives the weeks of the Mondays up to a date before the highest one. -/
theorem weeksFrom_eq (hdate : IsDate toDate) (hlast : toDate.dayNumber < highest) {turns : ℕ}
    (hmonday : weekday monday = 0) (hlow : lowest ≤ monday) (hhigh : monday ≤ highest)
    (hturns : (mondays monday toDate.dayNumber).length < turns) :
    weeksFrom (dateText toDate) turns (weekAt monday) =
      .ok ((mondays monday toDate.dayNumber).map weekAt) := by
  obtain ⟨hlowest, -⟩ := lowest_eq
  obtain ⟨hhighest, hrest⟩ := highest_eq
  induction turns generalizing monday with
  | zero => omega
  | succ turns ih =>
    have hstart := unitsLe_weekAt hdate (by omega : daysBeforeYear 100 ≤ monday) (by omega)
    by_cases hbegun : monday ≤ toDate.dayNumber
    · have hnext : weekday (monday + 7) = 0 ∧ monday + 7 ≤ highest := by
        unfold weekday at hmonday ⊢
        omega
      rw [mondays_of_le hbegun] at hturns ⊢
      have hweeks := ih hnext.1 (by omega) hnext.2 (by simpa using hturns)
      rw [weeksFrom, if_pos (hstart.mpr hbegun), next_weekAt hmonday hlow hnext.2]
      dsimp only
      rw [hweeks]
      rfl
    · rw [weeksFrom, if_neg (fun h => hbegun (hstart.mp h)), mondays_of_lt (by omega)]
      rfl

/-- The loop fails when the period goes on past the highest Monday. -/
theorem weeksFrom_fails (hdate : IsDate toDate) (hlast : highest ≤ toDate.dayNumber) (turns : ℕ)
    (hmonday : weekday monday = 0) (hlow : lowest ≤ monday) (hhigh : monday ≤ highest) :
    (weeksFrom (dateText toDate) turns (weekAt monday)).toOption = none := by
  obtain ⟨hlowest, -⟩ := lowest_eq
  obtain ⟨hhighest, hrest⟩ := highest_eq
  induction turns generalizing monday with
  | zero => rfl
  | succ turns ih =>
    have hstart := unitsLe_weekAt hdate (by omega : daysBeforeYear 100 ≤ monday) (by omega)
    rw [weeksFrom, if_pos (hstart.mpr (by omega))]
    by_cases htop : monday = highest
    · rw [htop, next_highest]
      rfl
    · have hnext : weekday (monday + 7) = 0 ∧ monday + 7 ≤ highest := by
        unfold weekday at hmonday ⊢
        omega
      rw [next_weekAt hmonday hlow hnext.2]
      have hfails := ih hnext.1 (by omega) hnext.2
      cases hweeks : weeksFrom (dateText toDate) turns (weekAt (monday + 7)) with
      | error failure =>
        simp only [hweeks]
        rfl
      | ok weeks =>
        rw [hweeks] at hfails
        cases hfails

/-- Whatever the loop gives are weeks of Mondays from the first one on. -/
theorem mem_weeksFrom {toText : String} {turns : ℕ} {weeks : List IsoWeek} {week : IsoWeek}
    (hmonday : weekday monday = 0) (hlow : lowest ≤ monday) (hhigh : monday ≤ highest)
    (h : (weeksFrom toText turns (weekAt monday)).toOption = some weeks) (hweek : week ∈ weeks) :
    ∃ later, monday ≤ later ∧ later ≤ highest ∧ week = weekAt later := by
  obtain ⟨hhighest, hrest⟩ := highest_eq
  induction turns generalizing monday weeks with
  | zero => cases h
  | succ turns ih =>
    rw [weeksFrom] at h
    split at h
    · by_cases htop : monday = highest
      · rw [htop, next_highest] at h
        cases h
      · have hnext : weekday (monday + 7) = 0 ∧ monday + 7 ≤ highest := by
          unfold weekday at hmonday ⊢
          omega
        rw [next_weekAt hmonday hlow hnext.2] at h
        cases hweeks : weeksFrom toText turns (weekAt (monday + 7)) with
        | error failure =>
          simp only [hweeks] at h
          cases h
        | ok rest =>
          simp only [hweeks] at h
          cases h
          rcases List.mem_cons.mp hweek with rfl | hmem
          · exact ⟨monday, le_rfl, hhigh, rfl⟩
          · obtain ⟨later, hafter, hbound, rfl⟩ :=
              ih hnext.1 (by omega) hnext.2 (by rw [hweeks]; rfl) hmem
            exact ⟨later, by omega, hbound, rfl⟩
    · cases h
      cases hweek

end Loop

/-! ### Periods whose weeks have four digits -/

/-- The days of the week of a Monday. -/
def spanAt (monday : ℤ) : Span := ⟨dateOfDay monday, dateOfDay (monday + 6)⟩

section Periods

variable {fromDate toDate date : CalendarDate} {first last monday : ℤ}

theorem contains_spanAt (hdate : date.Valid) :
    (spanAt monday).Contains date ↔ monday ≤ date.dayNumber ∧ date.dayNumber ≤ monday + 6 := by
  obtain ⟨hvalid, hnumber⟩ := dateOfDay_spec monday
  obtain ⟨hvalid', hnumber'⟩ := dateOfDay_spec (monday + 6)
  rw [Span.Contains, spanAt, CalendarDate.before_iff hdate hvalid,
    CalendarDate.before_iff hvalid' hdate, hnumber, hnumber', not_lt, not_lt]

theorem isWeek_weekAt (hmonday : weekday monday = 0) (hlow : lowest ≤ monday)
    (hhigh : monday < highest) : IsWeek (weekAt monday) (spanAt monday) := by
  obtain ⟨hlowest, -⟩ := lowest_eq
  obtain ⟨hhighest, hrest⟩ := highest_eq
  have hnext : monday + 7 ≤ highest := by
    unfold weekday at hmonday
    omega
  refine ⟨(isDate_dateOfDay (by omega) (by omega)).1, (isDate_dateOfDay (by omega) (by omega)).1,
    fromUtcDay_eq (by omega) (by omega), fromUtcDay_eq (by omega) (by omega), ?_, ?_, ?_⟩
  · rw [spanAt, (dateOfDay_spec monday).2, hmonday]
  · rw [spanAt, (dateOfDay_spec _).2, (dateOfDay_spec _).2]
  · refine ⟨yearAt monday, numberAt monday, ?_, rfl⟩
    rw [spanAt, (dateOfDay_spec monday).2]
    exact isIsoWeek hmonday

theorem getElem?_mondays (i : ℕ) : (mondays monday last)[i]? =
    if i < ((last - monday + 7) / 7).toNat then some (monday + 7 * (i : ℤ)) else none := by
  rw [mondays, List.getElem?_map]
  split
  · next hin => rw [List.getElem?_range hin, Option.map_some]
  · next hout => rw [List.getElem?_eq_none (by simpa using hout), Option.map_none]

/-- A Monday of the list is so many weeks after the first one, and not after the last day. -/
theorem mem_mondays {later : ℤ} (h : later ∈ mondays monday last) :
    ∃ i : ℕ, later = monday + 7 * (i : ℤ) ∧ later ≤ last := by
  obtain ⟨i, hi, rfl⟩ := List.mem_map.mp h
  rw [List.mem_range] at hi
  exact ⟨i, rfl, by omega⟩

/-- A place in the list of Mondays holds the one so many weeks on, if it begins by the last day. -/
theorem getElem?_map_mondays {β : Type} (f : ℤ → β) (i : ℕ) (value : β) :
    ((mondays monday last).map f)[i]? = some value ↔
      monday + 7 * (i : ℤ) ≤ last ∧ value = f (monday + 7 * (i : ℤ)) := by
  rw [List.getElem?_map, getElem?_mondays]
  have hcount : i < ((last - monday + 7) / 7).toNat ↔ monday + 7 * (i : ℤ) ≤ last := by omega
  split
  · next hin =>
    rw [Option.map_some, Option.some.injEq]
    exact ⟨fun h => ⟨hcount.mp hin, h.symm⟩, fun h => h.2.symm⟩
  · next hout =>
    rw [Option.map_none]
    exact ⟨nofun, fun h => absurd (hcount.mpr h.1) hout⟩

theorem yearAt_nonneg (hlow : lowest ≤ monday) (hhigh : monday < highest) : 0 ≤ yearAt monday := by
  obtain ⟨hlowest, -⟩ := lowest_eq
  obtain ⟨hhighest, -⟩ := highest_eq
  exact le_trans (by decide) (isDate_dateOfDay (by omega : daysBeforeYear 100 ≤ monday + 3) (by omega)).2

/-- The weeks of the Mondays from that of the first day partition the period. -/
theorem partition_mondays (hfrom : IsDate fromDate) (hto : IsDate toDate)
    (hle : fromDate.dayNumber ≤ toDate.dayNumber) (hlow : lowest ≤ fromDate.dayNumber)
    (hhigh : toDate.dayNumber < highest)
    (hmonday : monday = fromDate.dayNumber - weekday fromDate.dayNumber) :
    Partition fromDate toDate ((mondays monday toDate.dayNumber).map weekAt)
      ((mondays monday toDate.dayNumber).map spanAt) := by
  obtain ⟨-, hlowest⟩ := lowest_eq
  have hstart : weekday monday = 0 ∧ lowest ≤ monday ∧ monday ≤ fromDate.dayNumber ∧
      fromDate.dayNumber ≤ monday + 6 := by
    unfold weekday at hmonday ⊢
    omega
  obtain ⟨hzero, hlow', hbefore, hafter⟩ := hstart
  have hmondays : ∀ i : ℕ, weekday (monday + 7 * (i : ℤ)) = 0 := by
    intro i
    unfold weekday at hzero ⊢
    omega
  constructor
  · rw [List.length_map, List.length_map]
  · intro i week span hweek hspan
    obtain ⟨hbegun, rfl⟩ := (getElem?_map_mondays weekAt i week).mp hweek
    obtain ⟨-, rfl⟩ := (getElem?_map_mondays spanAt i span).mp hspan
    exact isWeek_weekAt (hmondays i) (by omega) (by omega)
  · intro i span after hspan hafter
    obtain ⟨-, rfl⟩ := (getElem?_map_mondays spanAt i span).mp hspan
    obtain ⟨-, rfl⟩ := (getElem?_map_mondays spanAt (i + 1) after).mp hafter
    obtain ⟨hvalid, hnumber⟩ := dateOfDay_spec (monday + 7 * (i : ℤ) + 6)
    refine CalendarDate.dayNumber_inj (dateOfDay_spec _).1 hvalid.next ?_
    dsimp only [spanAt]
    rw [CalendarDate.dayNumber_next hvalid, hnumber, (dateOfDay_spec _).2]
    push_cast
    ring
  · rintro date ⟨hvalid, hfirst, hlast⟩
    rw [CalendarDate.before_iff hvalid hfrom.valid, not_lt] at hfirst
    rw [CalendarDate.before_iff hto.valid hvalid, not_lt] at hlast
    refine ⟨((date.dayNumber - monday) / 7).toNat,
      ⟨spanAt (monday + 7 * (((date.dayNumber - monday) / 7).toNat : ℤ)), ?_, ?_⟩, ?_⟩
    · exact (getElem?_map_mondays spanAt _ _).mpr ⟨by omega, rfl⟩
    · rw [contains_spanAt hvalid]
      omega
    · rintro i ⟨span, hspan, hcontains⟩
      obtain ⟨-, rfl⟩ := (getElem?_map_mondays spanAt i span).mp hspan
      rw [contains_spanAt hvalid] at hcontains
      omega
  · intro span hspan
    obtain ⟨later, hlater, rfl⟩ := List.mem_map.mp hspan
    obtain ⟨i, rfl, hbegun⟩ := mem_mondays hlater
    by_cases hearly : monday + 7 * (i : ℤ) < fromDate.dayNumber
    · refine ⟨fromDate, ⟨hfrom.valid, ?_, ?_⟩, (contains_spanAt hfrom.valid).mpr (by omega)⟩
      · rw [CalendarDate.before_iff hfrom.valid hfrom.valid]
        exact lt_irrefl _
      · rw [CalendarDate.before_iff hto.valid hfrom.valid]
        omega
    · obtain ⟨hvalid, hnumber⟩ := dateOfDay_spec (monday + 7 * (i : ℤ))
      refine ⟨dateOfDay (monday + 7 * (i : ℤ)), ⟨hvalid, ?_, ?_⟩, (contains_spanAt hvalid).mpr ?_⟩
      · rw [CalendarDate.before_iff hvalid hfrom.valid, hnumber]
        exact hearly
      · rw [CalendarDate.before_iff hto.valid hvalid, hnumber]
        omega
      · rw [hnumber]
        omega
  · rw [List.map_map]
    refine List.Nodup.map_on ?_ ?_
    · intro later hlater other hother hkeys
      obtain ⟨i, rfl, hbegun⟩ := mem_mondays hlater
      obtain ⟨j, rfl, hbegun'⟩ := mem_mondays hother
      exact weekAt_key_inj (hmondays i) (hmondays j) (yearAt_nonneg (by omega) (by omega))
        (yearAt_nonneg (by omega) (by omega)) hkeys
    · exact List.Nodup.map (fun i j hsame => by simpa using hsame) List.nodup_range

/-- The weeks partition a period between the bounds. -/
theorem weeksPartition (hfrom : IsDate fromDate) (hto : IsDate toDate)
    (hle : fromDate.dayNumber ≤ toDate.dayNumber) (hlow : lowest ≤ fromDate.dayNumber)
    (hhigh : toDate.dayNumber < highest) : WeeksPartition fromDate toDate := by
  obtain ⟨hlowest, hrest⟩ := lowest_eq
  obtain ⟨hhighest, hrest'⟩ := highest_eq
  have hmonday : weekday (fromDate.dayNumber - weekday fromDate.dayNumber) = 0 ∧
      lowest ≤ fromDate.dayNumber - weekday fromDate.dayNumber ∧
      fromDate.dayNumber - weekday fromDate.dayNumber ≤ highest := by
    unfold weekday
    omega
  have hfirst : isoWeekOf (dateText fromDate) =
      some (weekAt (fromDate.dayNumber - weekday fromDate.dayNumber)) := by
    rw [← fromUtcDay_dayNumber hfrom]
    exact isoWeekOf_fromUtcDay hlow (by omega)
  refine ⟨_, _, ⟨(mondays (fromDate.dayNumber - weekday fromDate.dayNumber)
    toDate.dayNumber).length + 1, fun more => ?_⟩, partition_mondays hfrom hto hle hlow hhigh rfl⟩
  rw [isoWeeksBetween, hfirst]
  dsimp only
  rw [weeksFrom_eq hto hhigh hmonday.1 hmonday.2.1 hmonday.2.2 (by omega)]
  rfl

/-! ### Periods that begin too early or end too late -/

theorem dateText_inj {other : CalendarDate} (hdate : IsDate date) (hother : IsDate other)
    (h : dateText date = dateText other) : date.dayNumber = other.dayNumber := by
  have hself := fun text => (unitsLe_total text text).elim id id
  have hle := (unitsLe_dateText hdate hother).mp (h ▸ hself (dateText date))
  have hle' := (unitsLe_dateText hother hdate).mp (h ▸ hself (dateText date))
  exact le_antisymm hle hle'

/-- What a run gives when its first week is that of a Monday from the bounds. -/
theorem weeks_after {weeks : List IsoWeek} {week : IsoWeek} {turns : ℕ} {toText : String}
    (hmonday : weekday monday = 0) (hlow : lowest ≤ monday) (hhigh : monday ≤ highest)
    (hfirst : isoWeekOf (dateText fromDate) = some (weekAt monday))
    (hweeks : (isoWeeksBetween turns (dateText fromDate) toText).toOption = some weeks)
    (hweek : week ∈ weeks) : ∃ later, monday ≤ later ∧ later ≤ highest ∧ week = weekAt later := by
  rw [isoWeeksBetween, hfirst] at hweeks
  exact mem_weeksFrom hmonday hlow hhigh hweeks hweek

/-- A year of two digits is taken for one of the twentieth century. -/
theorem not_weeksPartition_of_year (hfrom : IsDate fromDate) (hto : IsDate toDate)
    (hle : fromDate.dayNumber ≤ toDate.dayNumber) (hyear : fromDate.year ≤ 99) :
    ¬WeeksPartition fromDate toDate := by
  rintro ⟨weeks, spans, ⟨turns, hweeks⟩, hpartition⟩
  obtain ⟨hlowest, hrest⟩ := lowest_eq
  obtain ⟨hhighest, hrest'⟩ := highest_eq
  have hnonneg := hfrom.year_nonneg
  have hfull : fullYear fromDate.year = 1900 + fromDate.year := if_pos ⟨hnonneg, hyear⟩
  have hmonth := hfrom.valid.month_le
  have hbounds := daysInMonth_bounds fromDate.year fromDate.month
  have hday := hfrom.valid.day_pos
  have hday' := hfrom.valid.day_le
  have hmonths := daysOfMonths_mono (1900 + fromDate.year) (by omega : fromDate.month - 1 ≤ 12)
  have hends := daysBeforeYear_succ (1900 + fromDate.year)
  have hbegun := daysBeforeYear_mono (by omega : 1900 ≤ 1900 + fromDate.year)
  have hended := daysBeforeYear_mono (by omega : 1900 + fromDate.year + 1 ≤ 2000)
  have hearly := (CalendarDate.dayNumber_bounds hfrom.valid).2
  have hearly' := daysBeforeYear_mono (by omega : fromDate.year + 1 ≤ 100)
  have hvalues : daysBeforeYear 100 + 7 < daysBeforeYear 1900 ∧
      daysBeforeYear 2000 + 100 < daysBeforeYear 10000 := by decide
  obtain ⟨number, hnumber, hcentury⟩ : ∃ number, toUtcDay (dateText fromDate) = some number ∧
      daysBeforeYear 1900 ≤ number ∧ number < daysBeforeYear 2000 + 31 := by
    refine ⟨_, toUtcDay_dateText hfrom, ?_⟩
    rw [hfull]
    simp only [CalendarDate.dayNumber]
    omega
  have hfirst : isoWeekOf (dateText fromDate) = some (weekAt (number - weekday number)) := by
    rw [isoWeekOf, hnumber, Option.bind_eq_bind, Option.bind_some, weekOfDay_eq (by omega) (by omega)]
  have hmonday : weekday (number - weekday number) = 0 ∧ lowest ≤ number - weekday number ∧
      number - weekday number ≤ highest := by
    unfold weekday
    omega
  have hself : InPeriod fromDate toDate fromDate := by
    refine ⟨hfrom.valid, ?_, ?_⟩
    · rw [CalendarDate.before_iff hfrom.valid hfrom.valid]
      exact lt_irrefl _
    · rw [CalendarDate.before_iff hto.valid hfrom.valid]
      omega
  obtain ⟨i, ⟨span, hspan, hcontains⟩, -⟩ := hpartition.covers fromDate hself
  obtain ⟨week, hweek⟩ : ∃ week, weeks[i]? = some week := by
    have hlength := hpartition.length
    obtain ⟨hi, -⟩ := List.getElem?_eq_some_iff.mp hspan
    exact ⟨weeks[i], List.getElem?_eq_getElem (by omega)⟩
  have hisWeek := hpartition.isWeek i week span hweek hspan
  obtain ⟨later, hafter, hbound, rfl⟩ := weeks_after hmonday.1 hmonday.2.1 hmonday.2.2 hfirst
    (hweeks 0) (List.mem_of_getElem? hweek)
  have htext : dateText (dateOfDay later) = dateText span.monday :=
    (fromUtcDay_eq (by omega) (by omega)).symm.trans hisWeek.start
  have hsame := dateText_inj (isDate_dateOfDay (by omega) (by omega)).1 hisWeek.monday htext
  have hnotafter := hcontains.1
  rw [CalendarDate.before_iff hfrom.valid hisWeek.monday.valid, not_lt] at hnotafter
  rw [(dateOfDay_spec later).2] at hsame
  have hlater : number - weekday number ≥ number - 6 := by
    unfold weekday
    omega
  omega

/-- The week of the first three days of the year one hundred begins in the year before. -/
theorem firstDays_week : ∀ day ∈ [1, 2, 3], (isoWeekOf (dateText ⟨100, 1, day⟩)).map
    (fun week => (week.start, week.finish)) =
      some (dateText ⟨99, 12, 28⟩, dateText ⟨2000, 1, 3⟩) := by
  decide

/-- The first three days of the year one hundred are in a week that ends in the year 2000. -/
theorem not_weeksPartition_of_day (hto : IsDate toDate) {day : ℕ} (hday : day ∈ [1, 2, 3])
    (hle : CalendarDate.dayNumber ⟨100, 1, day⟩ ≤ toDate.dayNumber) :
    ¬WeeksPartition ⟨100, 1, day⟩ toDate := by
  rintro ⟨weeks, spans, ⟨turns, hweeks⟩, hpartition⟩
  obtain ⟨cursor, hcursor, htexts⟩ := Option.map_eq_some_iff.mp (firstDays_week day hday)
  obtain ⟨hstart, hfinish⟩ := Prod.mk.inj htexts
  have hmonday : IsDate ⟨99, 12, 28⟩ := ⟨⟨by decide, by decide, by decide, by decide⟩, by decide, by decide⟩
  have hsunday : IsDate ⟨2000, 1, 3⟩ := ⟨⟨by decide, by decide, by decide, by decide⟩, by decide, by decide⟩
  have hbefore : ∀ day ∈ [1, 2, 3], CalendarDate.dayNumber ⟨99, 12, 28⟩ ≤
      CalendarDate.dayNumber ⟨100, 1, day⟩ := by decide
  have hbegun : unitsLe cursor.start (dateText toDate) = true := by
    rw [hstart]
    exact (unitsLe_dateText hmonday hto).mpr ((hbefore day hday).trans hle)
  obtain ⟨rest, rfl⟩ : ∃ rest, weeks = cursor :: rest := by
    have hrun := hweeks 1
    rw [isoWeeksBetween, hcursor] at hrun
    dsimp only at hrun
    rw [weeksFrom, if_pos hbegun] at hrun
    split at hrun
    · next next hnext =>
      cases hmore : weeksFrom (dateText toDate) turns next with
      | error failure =>
        rw [hmore] at hrun
        cases hrun
      | ok rest =>
        rw [hmore] at hrun
        exact ⟨rest, (Option.some.inj hrun).symm⟩
    · cases hrun
  obtain ⟨span, hspan⟩ : ∃ span, spans[0]? = some span := by
    have hlength := hpartition.length
    rw [List.length_cons] at hlength
    exact ⟨spans[0], List.getElem?_eq_getElem (by omega)⟩
  have hisWeek := hpartition.isWeek 0 cursor span rfl hspan
  have hfirst := dateText_inj hmonday hisWeek.monday (hstart.symm.trans hisWeek.start)
  have hlast := dateText_inj hsunday hisWeek.sunday (hfinish.symm.trans hisWeek.finish)
  have hlasts := hisWeek.lasts
  rw [← hfirst, ← hlast] at hlasts
  exact absurd hlasts (by decide)

/-- A period that goes on past the highest Monday has no weeks. -/
theorem not_weeksPartition_of_late (hfrom : IsDate fromDate) (hto : IsDate toDate)
    (hlow : lowest ≤ fromDate.dayNumber) (hhigh : highest ≤ toDate.dayNumber) :
    ¬WeeksPartition fromDate toDate := by
  rintro ⟨weeks, spans, ⟨turns, hweeks⟩, -⟩
  obtain ⟨hlowest, hrest⟩ := lowest_eq
  obtain ⟨hhighest, hrest'⟩ := highest_eq
  have hended := (CalendarDate.dayNumber_bounds hfrom.valid).2
  have hyears := daysBeforeYear_mono (by have hyear := hfrom.year_le; omega : fromDate.year + 1 ≤ 10000)
  have hfirst : isoWeekOf (dateText fromDate) =
      some (weekAt (fromDate.dayNumber - weekday fromDate.dayNumber)) := by
    rw [← fromUtcDay_dayNumber hfrom]
    exact isoWeekOf_fromUtcDay hlow (by omega)
  have hmonday : weekday (fromDate.dayNumber - weekday fromDate.dayNumber) = 0 ∧
      lowest ≤ fromDate.dayNumber - weekday fromDate.dayNumber ∧
      fromDate.dayNumber - weekday fromDate.dayNumber ≤ highest := by
    unfold weekday
    omega
  have hrun := hweeks 0
  rw [isoWeeksBetween, hfirst] at hrun
  dsimp only at hrun
  rw [weeksFrom_fails hto hhigh _ hmonday.1 hmonday.2.1 hmonday.2.2] at hrun
  cases hrun

/-- A date before the lowest Monday has a year of two digits or is one of three days. -/
theorem early_cases (hfrom : IsDate fromDate) (h : fromDate.dayNumber < lowest) :
    fromDate.year ≤ 99 ∨ ∃ day ∈ [1, 2, 3], fromDate = ⟨100, 1, day⟩ := by
  obtain ⟨hlowest, -⟩ := lowest_eq
  have hbegun := (CalendarDate.dayNumber_bounds hfrom.valid).1
  have hcentury : daysBeforeYear 100 + 3 < daysBeforeYear 101 := by decide
  by_cases hyear : fromDate.year ≤ 99
  · exact .inl hyear
  · right
    have hhundred : fromDate.year = 100 := by
      by_contra hmore
      have hyears := daysBeforeYear_mono (by omega : 101 ≤ fromDate.year)
      omega
    obtain ⟨year, month, day⟩ := fromDate
    dsimp only at hhundred
    subst hhundred
    have hmonth := hfrom.valid.month_pos
    have hday := hfrom.valid.day_pos
    dsimp only at hmonth hday
    have hjanuary : month = 1 := by
      by_contra hlater
      have hmonths := daysOfMonths_mono 100 (by omega : 1 ≤ month - 1)
      have hone : daysOfMonths 100 1 = 31 := by decide
      simp only [CalendarDate.dayNumber] at h
      omega
    subst hjanuary
    have hnone : daysOfMonths 100 0 = 0 := rfl
    simp only [CalendarDate.dayNumber, Nat.sub_self, hnone] at h
    refine ⟨day, ?_, rfl⟩
    simp only [List.mem_cons, List.not_mem_nil, or_false]
    omega

end Periods

/-- The weeks partition a period exactly when it begins on the fourth of January of the year
one hundred or later, and ends before the 27th of December of the year 9999. -/
theorem weeksPartition_iff (fromDate toDate : CalendarDate) (hfrom : IsDate fromDate)
    (hto : IsDate toDate) (hle : ¬toDate.Before fromDate) : WeeksPartition fromDate toDate ↔
      ¬fromDate.Before ⟨100, 1, 4⟩ ∧ toDate.Before ⟨9999, 12, 27⟩ := by
  have hlowest : CalendarDate.Valid ⟨100, 1, 4⟩ := ⟨by decide, by decide, by decide, by decide⟩
  have hhighest : CalendarDate.Valid ⟨9999, 12, 27⟩ := ⟨by decide, by decide, by decide, by decide⟩
  rw [CalendarDate.before_iff hto.valid hfrom.valid, not_lt] at hle
  rw [CalendarDate.before_iff hfrom.valid hlowest, CalendarDate.before_iff hto.valid hhighest, not_lt]
  constructor
  · intro h
    have hlow : lowest ≤ fromDate.dayNumber := by
      by_contra hearly
      rcases early_cases hfrom (by omega) with hyear | ⟨day, hday, rfl⟩
      · exact not_weeksPartition_of_year hfrom hto hle hyear h
      · exact not_weeksPartition_of_day hto hday hle h
    refine ⟨hlow, ?_⟩
    by_contra hlate
    exact not_weeksPartition_of_late hfrom hto hlow (not_lt.mp hlate) h
  · rintro ⟨hlow, hhigh⟩
    exact weeksPartition hfrom hto hle hlow hhigh

theorem weeksPartition_iff_october : WeeksPartition ⟨2026, 10, 1⟩ ⟨2026, 10, 14⟩ ↔
    ¬CalendarDate.Before ⟨2026, 10, 1⟩ ⟨100, 1, 4⟩ ∧
      CalendarDate.Before ⟨2026, 10, 14⟩ ⟨9999, 12, 27⟩ :=
  weeksPartition_iff ⟨2026, 10, 1⟩ ⟨2026, 10, 14⟩
    ⟨⟨by decide, by decide, by decide, by decide⟩, by decide, by decide⟩
    ⟨⟨by decide, by decide, by decide, by decide⟩, by decide, by decide⟩ (by decide)

/-- The weeks of the last days of the year 9999 are not found. -/
theorem last_days_have_no_weeks : ¬ ∀ fromDate toDate : CalendarDate, IsDate fromDate →
    IsDate toDate → ¬toDate.Before fromDate → WeeksPartition fromDate toDate := by
  intro h
  have hdate : IsDate ⟨9999, 12, 31⟩ :=
    ⟨⟨by decide, by decide, by decide, by decide⟩, by decide, by decide⟩
  have hlate : highest ≤ CalendarDate.dayNumber ⟨9999, 12, 31⟩ := by decide
  have hlow : lowest ≤ CalendarDate.dayNumber ⟨9999, 12, 31⟩ := by decide
  exact not_weeksPartition_of_late hdate hdate hlow hlate (h _ _ hdate hdate (by decide))

example : (isoWeeksBetween 4 "2026-10-01" "2026-10-14").toOption =
    some [⟨"2026-W40", "2026-09-28", "2026-10-04"⟩, ⟨"2026-W41", "2026-10-05", "2026-10-11"⟩,
      ⟨"2026-W42", "2026-10-12", "2026-10-18"⟩] := by decide

end InternalControl.InventorySchedule
