import Mathlib.Algebra.BigOperators.Intervals
import Mathlib.Data.Rat.Floor
import InternalControl.Calendar

/-!
# Monthly depreciation

The straight line depreciation of an asset for one month, in cents. The
monthly amount is rounded down and the last month of the useful life takes
what is left, but the periods after it start again from the rounded amount.
A write-off takes the days of its month that have passed and ends the periods.
-/

namespace InternalControl.Depreciation

/-- DepreciationMethod. -/
inductive DepreciationMethod where
  | straightLine
  | decliningBalance
  | unitsOfProduction
  | none
  deriving DecidableEq

/-- A date text by its year, month and day. -/
structure IsoDay where
  year : ℤ
  month : ℕ
  day : ℕ
  deriving DecidableEq

/-- What the calculation reads of an asset. -/
structure DepreciationAssetInput where
  id : String
  acquisitionDate : IsoDay
  acquisitionPrice : ℚ
  salvageValue : ℚ
  usefulLifeYears : Option ℤ
  method : DepreciationMethod
  writtenOffAt : Option IsoDay
  costCenterId : String
  categoryId : String

/-- Why an asset has no depreciation in a period. -/
inductive DepreciationSkipReason where
  | zeroPrice
  | noUsefulLife
  | methodNone
  | notStarted
  | writtenOffBefore
  deriving DecidableEq

/-- An asset without depreciation in a period. -/
structure DepreciationSkip where
  assetId : String
  reason : DepreciationSkipReason
  deriving DecidableEq

/-- The depreciation of an asset in a period. -/
structure DepreciationSnapshot where
  assetId : String
  method : DepreciationMethod
  monthlyDepreciation : String
  accumulatedDepreciation : String
  bookValue : String
  costCenterId : String
  categoryId : String
  deriving DecidableEq

/-- An amount of cents with two decimals. -/
def money (cents : ℤ) : String :=
  let rest := cents.natAbs % 100
  (if cents < 0 then "-" else "") ++ toString (cents.natAbs / 100) ++ "." ++
    (if rest < 10 then "0" else "") ++ toString rest

/-- An amount in cents, halves rounded up. -/
def toCents (value : ℚ) : ℤ := ⌊value * 100 + 1 / 2⌋

/-- A month as a number. -/
def periodIndex (year : ℤ) (month : ℕ) : ℤ := year * 12 + month

/-- The days of a month as the day before the first of the next one. -/
def daysInMonth (year : ℤ) (month : ℕ) : ℕ :=
  InternalControl.daysInMonth (Calendar.fullYear year) month

/-- The month after the acquisition. -/
def firstDepreciationPeriod (acquisitionDate : IsoDay) : ℤ × ℕ :=
  if acquisitionDate.month = 12 then (acquisitionDate.year + 1, 1)
  else (acquisitionDate.year, acquisitionDate.month + 1)

/-- Which period of the asset a month is, the first being one. -/
def elapsed (asset : DepreciationAssetInput) (year : ℤ) (month : ℕ) : ℤ :=
  let first := firstDepreciationPeriod asset.acquisitionDate
  periodIndex year month - periodIndex first.1 first.2 + 1

/-- The part of the price that is depreciated, in cents. -/
def depreciable (asset : DepreciationAssetInput) : ℤ :=
  max (toCents asset.acquisitionPrice - toCents asset.salvageValue) 0

/-- The three amounts of a period, in cents. -/
structure DepreciationAmounts where
  thisMonth : ℤ
  accumulated : ℤ
  book : ℤ
  deriving DecidableEq

/-- The amounts of a month for an asset with the given useful life. -/
def depreciationAmounts (asset : DepreciationAssetInput) (usefulLifeYears : ℤ) (year : ℤ)
    (month : ℕ) : DepreciationAmounts :=
  let price := toCents asset.acquisitionPrice
  let elapsed := elapsed asset year month
  let totalMonths := usefulLifeYears * 12
  let fullMonthly := depreciable asset / totalMonths
  let previousMonths := min (elapsed - 1) totalMonths
  let previousAccum := min (fullMonthly * previousMonths) (depreciable asset)
  let wholeMonth :=
    if elapsed ≤ totalMonths then
      if elapsed = totalMonths then depreciable asset - previousAccum else fullMonthly
    else 0
  let thisMonth :=
    match asset.writtenOffAt with
    | some written =>
      if elapsed ≤ totalMonths ∧ periodIndex written.year written.month = periodIndex year month then
        -- Math.round of the part of the month before the write-off
        (2 * (wholeMonth * written.day) + daysInMonth year month) / (2 * daysInMonth year month)
      else wholeMonth
    | none => wholeMonth
  let accumulated := min (previousAccum + thisMonth) (depreciable asset)
  ⟨thisMonth, accumulated, price - accumulated⟩

/-- The depreciation of an asset in a month, or why it has none. -/
def calculateAssetDepreciation (asset : DepreciationAssetInput) (year : ℤ) (month : ℕ) :
    DepreciationSnapshot ⊕ DepreciationSkip :=
  if asset.acquisitionPrice ≤ 0 then .inr ⟨asset.id, .zeroPrice⟩
  else
    match asset.usefulLifeYears with
    | none => .inr ⟨asset.id, .noUsefulLife⟩
    | some usefulLifeYears =>
      if usefulLifeYears ≤ 0 then .inr ⟨asset.id, .noUsefulLife⟩
      else if asset.method = .none then .inr ⟨asset.id, .methodNone⟩
      else if elapsed asset year month < 1 then .inr ⟨asset.id, .notStarted⟩
      else if asset.writtenOffAt.any fun written =>
          periodIndex written.year written.month < periodIndex year month then
        .inr ⟨asset.id, .writtenOffBefore⟩
      else
        let amounts := depreciationAmounts asset usefulLifeYears year month
        .inl
          { assetId := asset.id
            method := asset.method
            monthlyDepreciation := money amounts.thisMonth
            accumulatedDepreciation := money amounts.accumulated
            bookValue := money amounts.book
            costCenterId := asset.costCenterId
            categoryId := asset.categoryId }

/-- The snapshots of a period and the assets left out. -/
def calculatePeriodDepreciation (assets : List DepreciationAssetInput) (year : ℤ) (month : ℕ) :
    List DepreciationSnapshot × List DepreciationSkip :=
  let results := assets.map fun asset => calculateAssetDepreciation asset year month
  (results.filterMap Sum.getLeft?, results.filterMap Sum.getRight?)

/-! ### Periods by number -/

/-- The month of a period: the first one is one. -/
def periodAt (asset : DepreciationAssetInput) (k : ℕ) : ℤ × ℕ :=
  let first := firstDepreciationPeriod asset.acquisitionDate
  let months := first.1 * 12 + (first.2 - 1 : ℕ) + (k - 1 : ℕ)
  (months / 12, (months % 12).toNat + 1)

/-- The amounts of a period by its number. -/
def amountsAt (asset : DepreciationAssetInput) (usefulLifeYears : ℤ) (k : ℕ) : DepreciationAmounts :=
  depreciationAmounts asset usefulLifeYears (periodAt asset k).1 (periodAt asset k).2

/-- The k-th period is reached after k months. -/
theorem elapsed_periodAt (asset : DepreciationAssetInput) {k : ℕ} (hk : 1 ≤ k) :
    elapsed asset (periodAt asset k).1 (periodAt asset k).2 = k := by
  have hfirst : 1 ≤ (firstDepreciationPeriod asset.acquisitionDate).2 := by
    unfold firstDepreciationPeriod
    split <;> simp
  simp only [elapsed, periodIndex, periodAt]
  generalize (firstDepreciationPeriod asset.acquisitionDate).1 = year at *
  generalize (firstDepreciationPeriod asset.acquisitionDate).2 = month at *
  have hmod := Int.emod_nonneg (year * 12 + (month - 1 : ℕ) + (k - 1 : ℕ)) (by decide : (12 : ℤ) ≠ 0)
  have hdiv := Int.mul_ediv_add_emod (year * 12 + (month - 1 : ℕ) + (k - 1 : ℕ)) 12
  omega

section StraightLine

variable {asset : DepreciationAssetInput} {years : ℤ}

/-- The rounded monthly amounts never add up to more than the base. -/
theorem fullMonthly_mul_le (hyears : 0 < years) {months : ℤ} (hmonths : months ≤ years * 12) :
    depreciable asset / (years * 12) * months ≤ depreciable asset := by
  have hbase : 0 ≤ depreciable asset := le_max_right _ _
  have hmonthly : 0 ≤ depreciable asset / (years * 12) := Int.ediv_nonneg hbase (by omega)
  calc depreciable asset / (years * 12) * months
      ≤ depreciable asset / (years * 12) * (years * 12) :=
        mul_le_mul_of_nonneg_left hmonths hmonthly
    _ ≤ depreciable asset := Int.ediv_mul_le _ (by omega)

/-- What an asset that is not written off has in a period: before the last
month, in it, and after it. -/
theorem amountsAt_eq (hyears : 0 < years) (hwritten : asset.writtenOffAt = none) {k : ℕ}
    (hk : 1 ≤ k) :
    (amountsAt asset years k).thisMonth =
        (if (k : ℤ) < years * 12 then depreciable asset / (years * 12)
        else if (k : ℤ) = years * 12 then
          depreciable asset - depreciable asset / (years * 12) * (k - 1)
        else 0) ∧
      (amountsAt asset years k).accumulated =
        (if (k : ℤ) < years * 12 then depreciable asset / (years * 12) * k
        else if (k : ℤ) = years * 12 then depreciable asset
        else depreciable asset / (years * 12) * (years * 12)) ∧
      (amountsAt asset years k).book =
        toCents asset.acquisitionPrice - (amountsAt asset years k).accumulated := by
  have hbound := fun months => @fullMonthly_mul_le asset years hyears months
  simp only [amountsAt, depreciationAmounts, hwritten, elapsed_periodAt asset hk]
  generalize depreciable asset = base at *
  generalize base / (years * 12) = monthly at *
  rcases lt_trichotomy (k : ℤ) (years * 12) with hlt | heq | hgt
  · have hprevious : min ((k : ℤ) - 1) (years * 12) = k - 1 := min_eq_left (by omega)
    have hle := hbound (k - 1) (by omega)
    have hle' := hbound k (by omega)
    have hstep : monthly * ((k : ℤ) - 1) + monthly = monthly * k := by ring
    rw [hprevious, min_eq_left hle, if_pos hlt.le, if_neg hlt.ne, if_pos hlt, if_pos hlt, hstep,
      min_eq_left hle']
    exact ⟨rfl, rfl, trivial⟩
  · have hprevious : min ((k : ℤ) - 1) (years * 12) = k - 1 := min_eq_left (by omega)
    have hle := hbound (k - 1) (by omega)
    rw [hprevious, min_eq_left hle, if_pos heq.le, if_pos heq, if_neg heq.not_lt, if_pos heq,
      if_neg heq.not_lt, if_pos heq, add_sub_cancel, min_self]
    exact ⟨rfl, rfl, trivial⟩
  · have hprevious : min ((k : ℤ) - 1) (years * 12) = years * 12 := min_eq_right (by omega)
    have hle := hbound (years * 12) le_rfl
    rw [hprevious, min_eq_left hle, if_neg (by omega), if_neg (by omega), if_neg (by omega),
      if_neg (by omega), if_neg (by omega), add_zero, min_eq_left hle]
    exact ⟨rfl, rfl, trivial⟩

/-- The amounts of the months up to one add up to what is accumulated, as
long as the useful life is not over. -/
theorem sum_thisMonth_eq (hyears : 0 < years) (hwritten : asset.writtenOffAt = none) (k : ℕ) :
    ∑ i ∈ Finset.range k, (amountsAt asset years (i + 1)).thisMonth =
      if (k : ℤ) < years * 12 then depreciable asset / (years * 12) * k else depreciable asset := by
  induction k with
  | zero =>
    have hpos : ((0 : ℕ) : ℤ) < years * 12 := by omega
    rw [Finset.sum_range_zero, if_pos hpos, Nat.cast_zero, mul_zero]
  | succ k ih =>
    rw [Finset.sum_range_succ, ih, (amountsAt_eq hyears hwritten (Nat.succ_pos k)).1]
    push_cast
    rcases lt_trichotomy ((k : ℤ) + 1) (years * 12) with hlt | heq | hgt
    · rw [if_pos (by omega), if_pos hlt, if_pos hlt]
      ring
    · rw [if_pos (by omega), if_neg heq.not_lt, if_pos heq, if_neg heq.not_lt]
      ring
    · rw [if_neg (by omega), if_neg (by omega), if_neg (by omega), if_neg (by omega), add_zero]

end StraightLine

/-- Depreciation that adds up over every period, in cents. -/
structure AddsUp (asset : DepreciationAssetInput) (years : ℤ) : Prop where
  sum : ∀ k, 1 ≤ k → (amountsAt asset years k).accumulated =
    ∑ i ∈ Finset.range k, (amountsAt asset years (i + 1)).thisMonth
  nondecreasing : ∀ k, 1 ≤ k →
    (amountsAt asset years k).accumulated ≤ (amountsAt asset years (k + 1)).accumulated
  bounded : ∀ k, 1 ≤ k → (amountsAt asset years k).accumulated ≤ depreciable asset
  book : ∀ k, 1 ≤ k → (amountsAt asset years k).book =
    toCents asset.acquisitionPrice - (amountsAt asset years k).accumulated
  atEnd : ∀ k : ℕ, years * 12 ≤ k → (amountsAt asset years k).accumulated = depreciable asset

/-- The snapshot of every period of an asset that is not written off shows its
amounts, and these add up exactly when the base is a whole number of equal months. -/
theorem calculateAssetDepreciation_addsUp_iff {asset : DepreciationAssetInput} {years : ℤ}
    (hprice : 0 < asset.acquisitionPrice) (hlife : asset.usefulLifeYears = some years)
    (hyears : 0 < years) (hmethod : asset.method ≠ .none) (hwritten : asset.writtenOffAt = none) :
    (∀ k, 1 ≤ k → calculateAssetDepreciation asset (periodAt asset k).1 (periodAt asset k).2 =
      .inl
        { assetId := asset.id
          method := asset.method
          monthlyDepreciation := money (amountsAt asset years k).thisMonth
          accumulatedDepreciation := money (amountsAt asset years k).accumulated
          bookValue := money (amountsAt asset years k).book
          costCenterId := asset.costCenterId
          categoryId := asset.categoryId }) ∧
      (AddsUp asset years ↔ years * 12 ∣ depreciable asset) := by
  have hsum := sum_thisMonth_eq hyears hwritten
  have hamounts := fun k hk => @amountsAt_eq asset years hyears hwritten k hk
  have hbound := fun months => @fullMonthly_mul_le asset years hyears months
  have hbase : 0 ≤ depreciable asset := le_max_right _ _
  have hmonthly : 0 ≤ depreciable asset / (years * 12) := Int.ediv_nonneg hbase (by omega)
  refine ⟨fun k hk => ?_, fun hadds => ?_, fun hdvd => ?_⟩
  · have hstarted : ¬(k : ℤ) < 1 := by omega
    rw [calculateAssetDepreciation, if_neg hprice.not_ge, hlife]
    simp only [if_neg hyears.not_ge, if_neg hmethod, elapsed_periodAt asset hk, if_neg hstarted,
      hwritten, Option.any_none, Bool.false_eq_true, if_false, amountsAt]
  · -- the period after the last one starts again from the rounded amount
    have hafter : years * 12 ≤ ((years.toNat * 12 + 1 : ℕ) : ℤ) := by push_cast; omega
    have hend := hadds.atEnd (years.toNat * 12 + 1) hafter
    have hlate : ((years.toNat * 12 + 1 : ℕ) : ℤ) = years * 12 + 1 := by push_cast; omega
    rw [(hamounts _ (Nat.succ_pos _)).2.1, hlate, if_neg (by omega), if_neg (by omega)] at hend
    exact Dvd.intro_left _ hend
  · have hwhole : depreciable asset / (years * 12) * (years * 12) = depreciable asset :=
      Int.ediv_mul_cancel hdvd
    have haccumulated : ∀ k : ℕ, 1 ≤ k → (amountsAt asset years k).accumulated =
        if (k : ℤ) < years * 12 then depreciable asset / (years * 12) * k
        else depreciable asset := by
      intro k hk
      rw [(hamounts k hk).2.1, hwhole]
      split_ifs <;> rfl
    refine ⟨fun k hk => ?_, fun k hk => ?_, fun k hk => ?_, fun k hk => (hamounts k hk).2.2,
      fun k hk => ?_⟩
    · rw [haccumulated k hk, hsum k]
    · rw [haccumulated k hk, haccumulated (k + 1) (by omega)]
      push_cast
      by_cases hnext : (k : ℤ) + 1 < years * 12
      · rw [if_pos (by omega), if_pos hnext, mul_add, mul_one]
        omega
      · rw [if_neg hnext]
        split_ifs with hcurrent
        · exact hbound k hcurrent.le
        · exact le_rfl
    · rw [haccumulated k hk]
      split_ifs with hcurrent
      · exact hbound k hcurrent.le
      · exact le_rfl
    · rw [haccumulated k (by omega), if_neg (by omega)]

/-! ### Write-offs -/

/-- The snapshot of a month in which the asset is depreciated. -/
def snapshotOf (asset : DepreciationAssetInput) (usefulLifeYears : ℤ) (year : ℤ) (month : ℕ) :
    DepreciationSnapshot where
  assetId := asset.id
  method := asset.method
  monthlyDepreciation := money (depreciationAmounts asset usefulLifeYears year month).thisMonth
  accumulatedDepreciation := money (depreciationAmounts asset usefulLifeYears year month).accumulated
  bookValue := money (depreciationAmounts asset usefulLifeYears year month).book
  costCenterId := asset.costCenterId
  categoryId := asset.categoryId

/-- The same asset, had it not been written off. -/
def DepreciationAssetInput.kept (asset : DepreciationAssetInput) : DepreciationAssetInput :=
  { asset with writtenOffAt := none }

/-- A day of the calendar, which has no year zero. -/
structure IsoDay.Valid (date : IsoDay) : Prop where
  year_ne : date.year ≠ 0
  month_pos : 1 ≤ date.month
  month_le : date.month ≤ 12
  day_pos : 1 ≤ date.day
  day_le : date.day ≤ InternalControl.daysInMonth date.year date.month

/-- What a write-off makes of the periods of an asset: the months before it are
untouched, its own month is prorated and the later ones are left out. -/
structure StopsAt (asset : DepreciationAssetInput) (years : ℤ) (written : IsoDay) : Prop where
  /-- Every started month up to the write-off shows its amounts. -/
  shown : ∀ year month, 1 ≤ elapsed asset year month →
    periodIndex year month ≤ periodIndex written.year written.month →
    calculateAssetDepreciation asset year month = .inl (snapshotOf asset years year month)
  prorated_nonneg : 0 ≤ (depreciationAmounts asset years written.year written.month).thisMonth
  prorated_le : (depreciationAmounts asset years written.year written.month).thisMonth ≤
    (depreciationAmounts asset.kept years written.year written.month).thisMonth
  /-- In the first month nothing was accumulated before. -/
  accumulated_first : elapsed asset written.year written.month = 1 →
    (depreciationAmounts asset years written.year written.month).accumulated =
      (depreciationAmounts asset years written.year written.month).thisMonth
  /-- Later the amount is added to what the month before had accumulated. -/
  accumulated_next : ∀ year month, 1 ≤ elapsed asset year month →
    periodIndex year month + 1 = periodIndex written.year written.month →
    (depreciationAmounts asset years written.year written.month).accumulated =
      (depreciationAmounts asset years year month).accumulated +
        (depreciationAmounts asset years written.year written.month).thisMonth
  bounded : (depreciationAmounts asset years written.year written.month).accumulated ≤
    depreciable asset
  before : ∀ year month, periodIndex year month < periodIndex written.year written.month →
    calculateAssetDepreciation asset year month = calculateAssetDepreciation asset.kept year month
  after : ∀ year month, periodIndex written.year written.month < periodIndex year month →
    calculateAssetDepreciation asset year month = .inr ⟨asset.id, .writtenOffBefore⟩

/-- A share of an amount by days, halves rounded up, lies between nothing and the amount. -/
theorem share_bounds {amount : ℤ} {day days : ℕ} (hamount : 0 ≤ amount) (hday : day ≤ days)
    (hdays : 0 < days) :
    0 ≤ (2 * (amount * day) + days) / (2 * days) ∧
      (2 * (amount * day) + days) / (2 * days) ≤ amount := by
  have hpos : (0 : ℤ) < 2 * days := by omega
  have hshare : 0 ≤ amount * day := mul_nonneg hamount (Int.natCast_nonneg day)
  have hwhole : amount * day ≤ amount * days :=
    mul_le_mul_of_nonneg_left (by exact_mod_cast hday) hamount
  refine ⟨Int.ediv_nonneg (by omega) hpos.le, ?_⟩
  have hlt : (2 * (amount * day) + days) / (2 * days) < amount + 1 := by
    rw [Int.ediv_lt_iff_lt_mul hpos]
    have hexpand : (amount + 1) * (2 * days) = 2 * (amount * days) + 2 * days := by ring
    omega
  omega

section WriteOff

variable {asset : DepreciationAssetInput} {years : ℤ} {written : IsoDay} {year : ℤ} {month : ℕ}

/-- Two months are as far apart as their periods. -/
theorem elapsed_sub (asset : DepreciationAssetInput) (year year' : ℤ) (month month' : ℕ) :
    elapsed asset year month - elapsed asset year' month' =
      periodIndex year month - periodIndex year' month' := by
  simp only [elapsed]
  ring

/-- A started month that is not after the write-off shows its amounts. -/
theorem calculateAssetDepreciation_shown (hprice : 0 < asset.acquisitionPrice)
    (hlife : asset.usefulLifeYears = some years) (hyears : 0 < years)
    (hmethod : asset.method ≠ .none) (hstarted : 1 ≤ elapsed asset year month)
    (hwritten : ∀ written, asset.writtenOffAt = some written →
      periodIndex year month ≤ periodIndex written.year written.month) :
    calculateAssetDepreciation asset year month = .inl (snapshotOf asset years year month) := by
  have hopen : (asset.writtenOffAt.any fun written =>
      periodIndex written.year written.month < periodIndex year month) = false := by
    cases h : asset.writtenOffAt with
    | none => rfl
    | some written => simpa using hwritten written h
  rw [calculateAssetDepreciation, if_neg hprice.not_ge, hlife]
  simp only [if_neg hyears.not_ge, if_neg hmethod, if_neg hstarted.not_gt, hopen,
    Bool.false_eq_true, if_false]
  rfl

/-- A month other than that of the write-off has the amounts of the kept asset. -/
theorem depreciationAmounts_kept (hoff : asset.writtenOffAt = some written)
    (hmonth : periodIndex written.year written.month ≠ periodIndex year month) :
    depreciationAmounts asset years year month = depreciationAmounts asset.kept years year month := by
  have hneg : ¬(elapsed asset year month ≤ years * 12 ∧
      periodIndex written.year written.month = periodIndex year month) := fun h => hmonth h.2
  simp only [depreciationAmounts, hoff, if_neg hneg]
  rfl

/-- The amount of a month of the useful life for an asset that is kept, and what
was accumulated before it. -/
theorem depreciationAmounts_kept_eq (hyears : 0 < years)
    (hlast : elapsed asset year month ≤ years * 12) :
    (depreciationAmounts asset.kept years year month).thisMonth =
        (if elapsed asset year month = years * 12 then
          depreciable asset - depreciable asset / (years * 12) * (elapsed asset year month - 1)
        else depreciable asset / (years * 12)) ∧
      (depreciationAmounts asset.kept years year month).accumulated =
        depreciable asset / (years * 12) * (elapsed asset year month - 1) +
          (depreciationAmounts asset.kept years year month).thisMonth := by
  have hkept : elapsed asset.kept year month = elapsed asset year month := rfl
  have hbase : depreciable asset.kept = depreciable asset := rfl
  have hnone : asset.kept.writtenOffAt = none := rfl
  have hbound := fun months => @fullMonthly_mul_le asset years hyears months
  simp only [depreciationAmounts, hkept, hbase, hnone]
  generalize elapsed asset year month = k at *
  generalize depreciable asset = base at *
  generalize base / (years * 12) = monthly at *
  have hprevious : min (k - 1) (years * 12) = k - 1 := min_eq_left (by omega)
  have hle := hbound (k - 1) (by omega)
  rw [hprevious, min_eq_left hle, if_pos hlast]
  refine ⟨rfl, min_eq_left ?_⟩
  split_ifs with hfinal
  · omega
  · have hstep : monthly * (k - 1) + monthly = monthly * k := by ring
    rw [hstep]
    exact hbound k hlast

/-- The month of the write-off has a share of the amount of the kept asset, on top
of what was accumulated before. -/
theorem depreciationAmounts_written (hoff : asset.writtenOffAt = some written)
    (hlast : elapsed asset written.year written.month ≤ years * 12) :
    let whole := (depreciationAmounts asset.kept years written.year written.month).thisMonth
    let days := daysInMonth written.year written.month
    let amounts := depreciationAmounts asset years written.year written.month
    amounts.thisMonth = (2 * (whole * written.day) + days) / (2 * days) ∧
      amounts.accumulated =
        min (min (depreciable asset / (years * 12) *
          min (elapsed asset written.year written.month - 1) (years * 12)) (depreciable asset) +
            amounts.thisMonth) (depreciable asset) := by
  have hkept : elapsed asset.kept written.year written.month =
      elapsed asset written.year written.month := rfl
  have hbase : depreciable asset.kept = depreciable asset := rfl
  have hnone : asset.kept.writtenOffAt = none := rfl
  simp only [depreciationAmounts, hoff, hkept, hbase, hnone, and_true, if_pos hlast]

end WriteOff

/-- A write-off on a day of the useful life, after depreciation has started, leaves
the months before alone, prorates its own and ends the periods. -/
theorem writeOff_stopsAt {asset : DepreciationAssetInput} {years : ℤ} {written : IsoDay}
    (hprice : 0 < asset.acquisitionPrice) (hlife : asset.usefulLifeYears = some years)
    (hyears : 0 < years) (hmethod : asset.method ≠ .none) (hoff : asset.writtenOffAt = some written)
    (hvalid : written.Valid) (hstarted : 1 ≤ elapsed asset written.year written.month)
    (hlast : elapsed asset written.year written.month ≤ years * 12) : StopsAt asset years written := by
  have hdays : daysInMonth written.year written.month =
      InternalControl.daysInMonth written.year written.month :=
    Calendar.daysInMonth_fullYear hvalid.year_ne _
  have hlength : 0 < daysInMonth written.year written.month := by
    have hbounds := Calendar.daysInMonth_bounds written.year written.month
    omega
  have hday : written.day ≤ daysInMonth written.year written.month := hdays ▸ hvalid.day_le
  have hbound := fun months => @fullMonthly_mul_le asset years hyears months
  have hbase : 0 ≤ depreciable asset := le_max_right _ _
  have hmonthly : 0 ≤ depreciable asset / (years * 12) := Int.ediv_nonneg hbase (by omega)
  obtain ⟨hwhole, hkeptAccumulated⟩ := depreciationAmounts_kept_eq hyears hlast
  obtain ⟨hthis, haccumulated⟩ := depreciationAmounts_written hoff hlast
  have hprevious := hbound (elapsed asset written.year written.month - 1) (by omega)
  -- the whole month never takes more than what is left of the base
  have hfits : depreciable asset / (years * 12) * (elapsed asset written.year written.month - 1) +
      (depreciationAmounts asset.kept years written.year written.month).thisMonth ≤
        depreciable asset := by
    rw [← hkeptAccumulated]
    exact min_le_right _ _
  have hnonneg : 0 ≤ (depreciationAmounts asset.kept years written.year written.month).thisMonth := by
    rw [hwhole]
    split_ifs
    · omega
    · exact hmonthly
  obtain ⟨hlow, hhigh⟩ := share_bounds hnonneg hday hlength
  rw [← hthis] at hlow hhigh
  rw [min_eq_left (by omega : elapsed asset written.year written.month - 1 ≤ years * 12),
    min_eq_left hprevious, min_eq_left (by omega)] at haccumulated
  have hshown : ∀ year month, 1 ≤ elapsed asset year month →
      periodIndex year month ≤ periodIndex written.year written.month →
      calculateAssetDepreciation asset year month = .inl (snapshotOf asset years year month) := by
    intro year month hfirst hle
    refine calculateAssetDepreciation_shown hprice hlife hyears hmethod hfirst fun other hother => ?_
    rw [hoff] at hother
    exact Option.some.inj hother ▸ hle
  refine ⟨hshown, hlow, hhigh, fun hone => ?_, fun year month hfirst hnext => ?_, ?_,
    fun year month hlt => ?_, fun year month hgt => ?_⟩
  · rw [haccumulated, hone]
    ring
  · have hne : periodIndex written.year written.month ≠ periodIndex year month := by omega
    have helapsed : elapsed asset written.year written.month = elapsed asset year month + 1 := by
      have hapart := elapsed_sub asset written.year year written.month month
      omega
    obtain ⟨hbefore, hsum⟩ := @depreciationAmounts_kept_eq asset years year month hyears (by omega)
    rw [if_neg (by omega)] at hbefore
    rw [haccumulated, depreciationAmounts_kept hoff hne, hsum, hbefore, helapsed]
    ring
  · omega
  · by_cases hfirst : 1 ≤ elapsed asset year month
    · have hkept := @calculateAssetDepreciation_shown asset.kept years year month hprice hlife hyears
        hmethod hfirst (fun _ h => nomatch h)
      have hamounts := @depreciationAmounts_kept asset years written year month hoff (by omega)
      rw [hshown year month hfirst hlt.le, hkept]
      simp only [snapshotOf, hamounts]
      rfl
    · have hnot : elapsed asset year month < 1 := by omega
      have hnot' : elapsed asset.kept year month < 1 := hnot
      have hprice' : ¬asset.kept.acquisitionPrice ≤ 0 := hprice.not_ge
      have hlife' : asset.kept.usefulLifeYears = some years := hlife
      have hmethod' : asset.kept.method ≠ .none := hmethod
      rw [calculateAssetDepreciation, calculateAssetDepreciation, if_neg hprice.not_ge,
        if_neg hprice', hlife, hlife']
      simp only [if_neg hyears.not_ge, if_neg hmethod, if_neg hmethod', if_pos hnot, if_pos hnot']
      rfl
  · have hlate : ¬elapsed asset year month < 1 := by
      have hapart := elapsed_sub asset year written.year month written.month
      omega
    have hover : (asset.writtenOffAt.any fun written =>
        periodIndex written.year written.month < periodIndex year month) = true := by
      rw [hoff]
      simpa using hgt
    rw [calculateAssetDepreciation, if_neg hprice.not_ge, hlife]
    simp only [if_neg hyears.not_ge, if_neg hmethod, if_neg hlate, hover, if_true]

/-- An asset of one peso over one year: eight cents a month leave four over. -/
def lampara : DepreciationAssetInput where
  id := "asset-1"
  acquisitionDate := ⟨2024, 1, 15⟩
  acquisitionPrice := 1
  salvageValue := 0
  usefulLifeYears := some 1
  method := .straightLine
  writtenOffAt := none
  costCenterId := "cc-1"
  categoryId := "cat-1"

theorem depreciable_lampara : depreciable lampara = 100 := by
  have hprice : toCents 1 = 100 := by norm_num [toCents, Int.floor_eq_iff]
  have hsalvage : toCents 0 = 0 := by norm_num [toCents, Int.floor_eq_iff]
  simp [depreciable, lampara, hprice, hsalvage]

/-- After the last month what is accumulated falls back by the cents left over. -/
theorem accumulated_falls_after_end :
    (amountsAt lampara 1 12).accumulated = 100 ∧ (amountsAt lampara 1 13).accumulated = 96 ∧
      ¬AddsUp lampara 1 := by
  have hamounts := fun k hk => @amountsAt_eq lampara 1 (by decide) rfl k hk
  simp only [depreciable_lampara] at hamounts
  refine ⟨(hamounts 12 (by decide)).2.1, (hamounts 13 (by decide)).2.1, fun hadds => ?_⟩
  have hend := hadds.atEnd 13 (by decide)
  rw [depreciable_lampara, (hamounts 13 (by decide)).2.1] at hend
  exact absurd hend (by decide)

theorem calculateAssetDepreciation_addsUp_iff_lampara :
    AddsUp lampara 1 ↔ 1 * 12 ∣ depreciable lampara :=
  (calculateAssetDepreciation_addsUp_iff (by norm_num [lampara]) rfl (by decide) (by decide) rfl).2

/-- The same asset, broken on the leap day of its first month. -/
theorem writeOff_stopsAt_leapDay :
    StopsAt { lampara with writtenOffAt := some ⟨2024, 2, 29⟩ } 1 ⟨2024, 2, 29⟩ :=
  writeOff_stopsAt (by norm_num [lampara]) rfl (by decide) (by decide) rfl
    ⟨by decide, by decide, by decide, by decide, by decide⟩ (by decide) (by decide)

end InternalControl.Depreciation
