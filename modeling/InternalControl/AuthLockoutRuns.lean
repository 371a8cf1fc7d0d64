import InternalControl.AuthLockout
import Mathlib.Algebra.Order.Group.Int
import Mathlib.Data.List.Chain
import Mathlib.Order.Lattice

/-!
# The rate of guessing over runs

How many attempts are let through in any window of a policy, when they are let
through again after a lock, and how the locks grow. Each part is an invariant
of the row of one subject and factor, together with the attempts made so far.
-/

namespace InternalControl.AuthLockout

/-- A lock lasts at least a window, and a row that is purged has nothing left to count. -/
structure LockoutPolicy.Sound (policy : LockoutPolicy) : Prop where
  two_le_threshold : 2 ≤ policy.threshold
  window_pos : 0 < policy.windowMs
  window_le_base : policy.windowMs ≤ policy.baseLockMs
  window_le_max : policy.windowMs ≤ policy.maxLockMs
  window_le_stale : policy.windowMs ≤ staleAfterMs
  reset_le_stale : policy.levelResetMs ≤ staleAfterMs

theorem lockoutPolicies_sound (factor : AuthFactor) : (lockoutPolicies factor).Sound := by
  cases factor <;> constructor <;> decide

section Durations

variable {policy : LockoutPolicy}

theorem lockDurationMs_le_max (policy : LockoutPolicy) (level : ℕ) :
    lockDurationMs policy level ≤ policy.maxLockMs :=
  Nat.min_le_right _ _

theorem lockDurationMs_mono {level level' : ℕ} (h : level ≤ level') :
    lockDurationMs policy level ≤ lockDurationMs policy level' := by
  have hpow : 2 ^ level ≤ 2 ^ level' := Nat.pow_le_pow_right (by omega) h
  have hmul : policy.baseLockMs * 2 ^ level ≤ policy.baseLockMs * 2 ^ level' :=
    Nat.mul_le_mul_left _ hpow
  unfold lockDurationMs
  omega

theorem LockoutPolicy.Sound.window_le_lock (h : policy.Sound) (level : ℕ) :
    policy.windowMs ≤ lockDurationMs policy level := by
  have hpow : 1 ≤ 2 ^ level := Nat.one_le_two_pow
  have hmul : policy.baseLockMs * 1 ≤ policy.baseLockMs * 2 ^ level :=
    Nat.mul_le_mul_left _ hpow
  have hbase := h.window_le_base
  have hmax := h.window_le_max
  unfold lockDurationMs
  omega

end Durations

/-! ### What one attempt does -/

section Steps

variable {policy : LockoutPolicy} {row : Option LockoutState} {now : ℤ}

/-- The failures counted with this one. -/
def failuresAt (state : LockoutState) (policy : LockoutPolicy) (at_ : ℤ) : ℕ :=
  (if windowActive state policy at_ then state.failedCount else 0) + 1

/-- An attempt is refused under a lock. Otherwise it is counted, and the count either stays
below the threshold or opens a lock. -/
inductive AttemptSpec (policy : LockoutPolicy) (row : Option LockoutState) (now : ℤ) :
    AttemptOutcome × LockoutState → Prop
  | refused (state : LockoutState) (until_ : ℤ) (hrow : row = some state)
      (huntil : state.lockedUntil = some until_) (h : now < until_) :
      AttemptSpec policy row now (⟨false, false, some until_⟩, state)
  | counted (hfree : ∀ state ∈ row, ∀ until_ ∈ state.lockedUntil, until_ ≤ now)
      (h : failuresAt (lockedRow row now) policy now < policy.threshold) :
      AttemptSpec policy row now (⟨true, false, none⟩,
        ⟨failuresAt (lockedRow row now) policy now,
          if windowActive (lockedRow row now) policy now then (lockedRow row now).windowStartedAt
          else now, levelAt (lockedRow row now) policy now, none, now⟩)
  | locked (hfree : ∀ state ∈ row, ∀ until_ ∈ state.lockedUntil, until_ ≤ now)
      (h : policy.threshold ≤ failuresAt (lockedRow row now) policy now) :
      AttemptSpec policy row now
        (⟨true, true, some (now + lockDurationMs policy (levelAt (lockedRow row now) policy now))⟩,
          ⟨0, now, levelAt (lockedRow row now) policy now + 1,
            some (now + lockDurationMs policy (levelAt (lockedRow row now) policy now)), now⟩)

theorem isLocked_iff {state : LockoutState} :
    isLocked state now = true ↔ ∃ until_, state.lockedUntil = some until_ ∧ now < until_ := by
  unfold isLocked
  cases state.lockedUntil <;> simp

/-- A row that the transaction inserts is not locked. -/
theorem isLocked_lockedRow (h : isLocked (lockedRow row now) now = true) :
    row = some (lockedRow row now) := by
  cases row with
  | none => simp [lockedRow, isLocked] at h
  | some state => rfl

theorem attemptOn_spec (policy : LockoutPolicy) (row : Option LockoutState) (now : ℤ) :
    AttemptSpec policy row now (attemptOn policy row now) := by
  by_cases hlocked : isLocked (lockedRow row now) now = true
  · have hrow := isLocked_lockedRow hlocked
    obtain ⟨until_, huntil, h⟩ := isLocked_iff.mp hlocked
    have hattempt : attemptOn policy row now = (⟨false, false, some until_⟩, lockedRow row now) := by
      simp [attemptOn, hlocked, huntil]
    rw [hattempt]
    exact .refused _ until_ hrow huntil h
  · have hfree : ∀ state ∈ row, ∀ until_ ∈ state.lockedUntil, until_ ≤ now := by
      intro state hstate until_ huntil
      by_contra hlt
      refine hlocked (isLocked_iff.mpr ⟨until_, ?_, by omega⟩)
      rw [Option.mem_def.mp hstate]
      exact huntil
    have hattempt : attemptOn policy row now =
        (⟨true, (countAttempt (lockedRow row now) policy now).lockedNow,
          (countAttempt (lockedRow row now) policy now).next.lockedUntil⟩,
            (countAttempt (lockedRow row now) policy now).next) := if_neg hlocked
    rw [hattempt]
    by_cases h : policy.threshold ≤ failuresAt (lockedRow row now) policy now
    · have hcounted : countAttempt (lockedRow row now) policy now = ⟨_, true⟩ := if_pos h
      rw [hcounted]
      exact .locked hfree h
    · have hcounted : countAttempt (lockedRow row now) policy now = ⟨_, false⟩ := if_neg h
      rw [hcounted]
      exact .counted hfree (Nat.lt_of_not_le h)

end Steps

/-! ### Runs -/

section Runs

variable {key : Key} {kept : List Attempt → Option LockoutState → ℤ → Prop}

/-- What purging, waiting and attempting keep of one row and the attempts so far. -/
structure Keeps (policy : LockoutPolicy) (kept : List Attempt → Option LockoutState → ℤ → Prop) :
    Prop where
  purge : ∀ past row now, kept past row now →
    kept past (row.filter fun state => !isStale state now) now
  later : ∀ past row clock now, clock ≤ now → kept past row clock → kept past row now
  attempt : ∀ past row now, kept past row now →
    kept (past ++ [⟨now, (attemptOn policy row now).1⟩]) (some (attemptOn policy row now).2) now

/-- One attempt, of this subject and factor or of others. -/
theorem Keeps.registerAttempt (hkeeps : Keeps (lockoutPolicies key.2) kept) {past : List Attempt}
    {lockouts : Lockouts} {now : ℤ} (other : Key) (h : kept past (lockouts key) now) :
    kept (past ++ attempted key lockouts (.registerAttempt other now))
      (call lockouts (.registerAttempt other now) key) now := by
  by_cases hkey : other = key
  · subst hkey
    have hnext := hkeeps.purge _ _ _ (hkeeps.attempt past (lockouts other) now h)
    simpa [attempted, call, AuthLockout.registerAttempt, purgeStale] using hnext
  · have hnext := hkeeps.purge _ _ _ h
    simpa [attempted, call, AuthLockout.registerAttempt, purgeStale, hkey,
      Function.update_of_ne (Ne.symm hkey)] using hnext

/-- A run in which nobody clears the row. -/
theorem Keeps.attempts (hkeeps : Keeps (lockoutPolicies key.2) kept) {past : List Attempt}
    {lockouts : Lockouts} {clock : ℤ} {calls : List Call} (h : kept past (lockouts key) clock)
    (hclock : ∀ now ∈ instants calls, clock ≤ now) (hsorted : (instants calls).Pairwise (· ≤ ·))
    (hclear : .clear key ∉ calls) :
    ∃ now, kept (past ++ attempts key lockouts calls) (after lockouts calls key) now := by
  induction calls generalizing lockouts past clock with
  | nil => exact ⟨clock, by simpa [AuthLockout.attempts, after] using h⟩
  | cons next calls ih =>
    have hrest : .clear key ∉ calls := fun hin => hclear (List.mem_cons_of_mem _ hin)
    rw [AuthLockout.attempts, ← List.append_assoc]
    cases next with
    | clear other =>
      have hother : key ≠ other := by
        rintro rfl
        exact hclear (List.mem_cons_self ..)
      have hrow : call lockouts (.clear other) key = lockouts key := Function.update_of_ne hother _ _
      exact ih (by simpa [attempted, hrow] using h) hclock hsorted hrest
    | registerAttempt other now =>
      have hnow : clock ≤ now := hclock now (List.mem_cons_self ..)
      obtain ⟨hfirst, hsorted⟩ := List.pairwise_cons.mp (show
        (now :: instants calls).Pairwise (· ≤ ·) from hsorted)
      have hnext := hkeeps.registerAttempt other (hkeeps.later past (lockouts key) clock now hnow h)
      exact ih hnext hfirst hsorted hrest

/-- Any run, with the attempts since the row was cleared for the last time. -/
theorem Keeps.exists_past (hkeeps : Keeps (lockoutPolicies key.2) kept)
    (hfresh : ∀ clock, kept [] none clock) {past : List Attempt} {lockouts : Lockouts} {clock : ℤ}
    {calls : List Call} (h : kept past (lockouts key) clock)
    (hclock : ∀ now ∈ instants calls, clock ≤ now) (hsorted : (instants calls).Pairwise (· ≤ ·)) :
    ∃ past now, kept past (after lockouts calls key) now ∧ (now = clock ∨ now ∈ instants calls) := by
  induction calls generalizing lockouts past clock with
  | nil => exact ⟨past, clock, h, .inl rfl⟩
  | cons next calls ih =>
    cases next with
    | clear other =>
      by_cases hkey : other = key
      · subst hkey
        have hrow : call lockouts (.clear other) other = none := Function.update_self ..
        exact ih (hrow ▸ hfresh clock) hclock hsorted
      · have hrow : call lockouts (.clear other) key = lockouts key :=
          Function.update_of_ne (Ne.symm hkey) _ _
        exact ih (hrow ▸ h) hclock hsorted
    | registerAttempt other now =>
      have hnow : clock ≤ now := hclock now (List.mem_cons_self ..)
      obtain ⟨hfirst, hsorted⟩ := List.pairwise_cons.mp (show
        (now :: instants calls).Pairwise (· ≤ ·) from hsorted)
      have hnext := hkeeps.registerAttempt other (hkeeps.later past (lockouts key) clock now hnow h)
      obtain ⟨past, end_, hkept, hend⟩ := ih hnext hfirst hsorted
      exact ⟨past, end_, hkept, .inr (hend.elim (fun he => he ▸ List.mem_cons_self ..)
        fun hin => List.mem_cons_of_mem _ hin)⟩

end Runs

/-! ### How many attempts a window holds -/

section Window

variable {policy : LockoutPolicy} {allowed : List ℤ} {row : Option LockoutState}
  {state : LockoutState} {clock now : ℤ}

/-- No attempt let through shares a window with one from an instant on. -/
def Quiet (policy : LockoutPolicy) (allowed : List ℤ) (from_ : ℤ) : Prop :=
  ∀ at_ ∈ allowed, at_ + policy.windowMs ≤ from_

/-- The count of a row covers its window. Of the attempts before it, few are near. -/
structure Counts (policy : LockoutPolicy) (allowed : List ℤ) (state : LockoutState) : Prop where
  below : state.failedCount < policy.threshold
  since : allowed.countP (fun at_ => state.windowStartedAt ≤ at_) ≤ state.failedCount
  after : allowed.countP (fun at_ => state.windowStartedAt < at_) + 1 ≤ state.failedCount
  earlier : allowed.countP (fun at_ => state.windowStartedAt - policy.windowMs < at_ ∧
    at_ < state.windowStartedAt) + 2 ≤ policy.threshold
  inside : ∀ at_ ∈ allowed, at_ < state.windowStartedAt + policy.windowMs

/-- What a row says of the attempts let through so far. -/
inductive Tracks (policy : LockoutPolicy) (allowed : List ℤ) (clock : ℤ) :
    Option LockoutState → Prop
  | absent (h : Quiet policy allowed clock) : Tracks policy allowed clock none
  | locked (state : LockoutState) (until_ : ℤ) (hlock : state.lockedUntil = some until_)
      (hquiet : Quiet policy allowed until_)
      (hstart : state.windowStartedAt + policy.windowMs ≤ until_) :
      Tracks policy allowed clock (some state)
  | counting (state : LockoutState) (hlock : state.lockedUntil = none)
      (hstart : state.windowStartedAt ≤ clock) (hcounts : Counts policy allowed state) :
      Tracks policy allowed clock (some state)

theorem Tracks.later (h : Tracks policy allowed clock row) (hclock : clock ≤ now) :
    Tracks policy allowed now row := by
  cases h with
  | absent h => exact .absent fun at_ hat => (h at_ hat).trans hclock
  | locked state until_ hlock hquiet hstart => exact .locked state until_ hlock hquiet hstart
  | counting state hlock hstart hcounts =>
    exact .counting state hlock (hstart.trans hclock) hcounts

/-- An attempt that is let through goes into the window of the row, or it opens another one
with few attempts near. -/
inductive Lands (policy : LockoutPolicy) (allowed : List ℤ) (state : LockoutState) (now : ℤ) : Prop
  | continues (hcounts : Counts policy allowed state) (hstart : state.windowStartedAt ≤ now)
      (hactive : windowActive state policy now = true)
  | opens (hfailures : failuresAt state policy now = 1)
      (hstart : (if windowActive state policy now then state.windowStartedAt else now) = now)
      (hbefore : ∀ at_ ∈ allowed, at_ < now)
      (hfew : allowed.countP (fun at_ => now - policy.windowMs < at_) + 2 ≤ policy.threshold)

/-- What is quiet up to now opens a window with nothing near. -/
theorem Quiet.countP_eq_zero {from_ : ℤ} (h : Quiet policy allowed from_) (hfrom : from_ ≤ now) :
    allowed.countP (fun at_ => now - policy.windowMs < at_) = 0 := by
  rw [List.countP_eq_zero]
  intro at_ hat
  have hat := h at_ hat
  simp only [decide_eq_true_eq]
  omega

theorem Tracks.lands (hsound : policy.Sound) (h : Tracks policy allowed now row)
    (hfree : ∀ state ∈ row, ∀ until_ ∈ state.lockedUntil, until_ ≤ now) :
    Lands policy allowed (lockedRow row now) now := by
  have htwo := hsound.two_le_threshold
  have hpos := hsound.window_pos
  cases h with
  | absent hquiet =>
    have hnear := hquiet.countP_eq_zero (le_refl now)
    have hinside : now - now < (policy.windowMs : ℤ) := by omega
    have hactive : windowActive (lockedRow none now) policy now = true := decide_eq_true hinside
    refine .opens ?_ ?_ ?_ (by omega)
    · simp only [failuresAt, hactive, if_true]
      rfl
    · simp only [hactive, if_true]
      rfl
    · intro at_ hat
      have hat := hquiet at_ hat
      omega
  | locked state until_ hlock hquiet hstart =>
    have huntil : until_ ≤ now := hfree state rfl until_ hlock
    have hnear := hquiet.countP_eq_zero huntil
    have hover : windowActive state policy now = false := by
      simp only [windowActive, decide_eq_false_iff_not]
      omega
    refine .opens ?_ ?_ ?_ (by omega)
    · simp [lockedRow, failuresAt, hover]
    · simp [lockedRow, hover]
    · intro at_ hat
      have hat := hquiet at_ hat
      omega
  | counting state hlock hstart hcounts =>
    cases hactive : windowActive state policy now with
    | true => exact .continues hcounts hstart hactive
    | false =>
      have hover : state.windowStartedAt + policy.windowMs ≤ now := by
        simp only [windowActive, decide_eq_false_iff_not] at hactive
        omega
      refine .opens ?_ ?_ ?_ ?_
      · simp [lockedRow, failuresAt, hactive]
      · simp [lockedRow, hactive]
      · intro at_ hat
        have hat := hcounts.inside at_ hat
        omega
      · -- what is near lies in the old window after the attempt that opened it
        have hnear : allowed.countP (fun at_ => now - policy.windowMs < at_) ≤
            allowed.countP (fun at_ => state.windowStartedAt < at_) := by
          refine List.countP_mono_left fun at_ _ h => ?_
          simp only [decide_eq_true_eq] at h ⊢
          omega
        have hafter := hcounts.after
        have hbelow := hcounts.below
        omega

/-- What one condition picks is picked by one of two others. -/
theorem countP_le_add (allowed : List ℤ) {p q r : ℤ → Prop} [DecidablePred p] [DecidablePred q]
    [DecidablePred r]
    (h : ∀ at_ ∈ allowed, p at_ → q at_ ∨ r at_) :
    allowed.countP (fun at_ => p at_) ≤
      allowed.countP (fun at_ => q at_) + allowed.countP fun at_ => r at_ := by
  induction allowed with
  | nil => simp
  | cons first rest ih =>
    have hrest := ih fun at_ hat => h at_ (List.mem_cons_of_mem _ hat)
    have hfirst := h first (List.mem_cons_self ..)
    simp only [List.countP_cons, decide_eq_true_eq]
    by_cases hp : p first
    · rcases hfirst hp with hq | hr
      · simp only [hp, hq, if_true]
        omega
      · simp only [hp, hr, if_true]
        omega
    · simp only [hp, if_false]
      omega

/-- With the attempt that lands now, a window that reaches it holds at most the bound. -/
theorem Lands.near_le (hsound : policy.Sound) (h : Lands policy allowed state now) :
    allowed.countP (fun at_ => now - policy.windowMs < at_) + 1 ≤ 2 * policy.threshold - 2 := by
  have htwo := hsound.two_le_threshold
  cases h with
  | opens hfailures hstart hbefore hfew => omega
  | continues hcounts hstart hactive =>
    have hsplit := countP_le_add allowed
      (p := fun at_ => now - policy.windowMs < at_) (q := fun at_ => state.windowStartedAt ≤ at_)
      (r := fun at_ => state.windowStartedAt - policy.windowMs < at_ ∧
        at_ < state.windowStartedAt) (by intro at_ _ h; omega)
    have hsince := hcounts.since
    have hearlier := hcounts.earlier
    have hbelow := hcounts.below
    omega

/-- The row after an attempt that stays below the threshold covers the window with it. -/
theorem Lands.counts (hsound : policy.Sound) (h : Lands policy allowed state now)
    (hbelow : failuresAt state policy now < policy.threshold) (level : ℕ) (until_ : Option ℤ) :
    Counts policy (allowed ++ [now]) ⟨failuresAt state policy now,
      if windowActive state policy now then state.windowStartedAt else now, level, until_, now⟩ := by
  have hpos := hsound.window_pos
  cases h with
  | opens hfailures hstart hbefore hfew =>
    rw [hstart, hfailures]
    have hsince : allowed.countP (fun at_ => now ≤ at_) = 0 := by
      rw [List.countP_eq_zero]
      intro at_ hat
      have hat := hbefore at_ hat
      simp only [decide_eq_true_eq]
      omega
    have hafter : allowed.countP (fun at_ => now < at_) = 0 := by
      rw [List.countP_eq_zero]
      intro at_ hat
      have hat := hbefore at_ hat
      simp only [decide_eq_true_eq]
      omega
    have hearlier : allowed.countP (fun at_ => now - policy.windowMs < at_ ∧ at_ < now) ≤
        allowed.countP fun at_ => now - policy.windowMs < at_ := by
      refine List.countP_mono_left fun at_ _ h => ?_
      simp only [decide_eq_true_eq] at h ⊢
      exact h.1
    refine ⟨by simp only; omega, ?_, ?_, ?_, ?_⟩
    · simp [List.countP_append, hsince]
    · simp [List.countP_append, hafter]
    · simp only [List.countP_append, List.countP_singleton, decide_eq_true_eq, lt_irrefl, and_false,
        if_false]
      omega
    · intro at_ hat
      rcases List.mem_append.mp hat with hat | hat
      · have hat := hbefore at_ hat
        simp only
        omega
      · cases List.mem_singleton.mp hat
        simp only
        omega
  | continues hcounts hstart hactive =>
    have hfailures : failuresAt state policy now = state.failedCount + 1 := by
      simp [failuresAt, hactive]
    have hinside : now < state.windowStartedAt + policy.windowMs := by
      simp only [windowActive, decide_eq_true_eq] at hactive
      omega
    have hsince := hcounts.since
    have hafter := hcounts.after
    have hearlier := hcounts.earlier
    rw [hfailures] at hbelow ⊢
    simp only [hactive, if_true]
    refine ⟨hbelow, ?_, ?_, ?_, ?_⟩
    · simp only [List.countP_append, List.countP_singleton]
      split <;> omega
    · simp only [List.countP_append, List.countP_singleton]
      split <;> omega
    · have hnot : ¬(state.windowStartedAt - policy.windowMs < now ∧ now < state.windowStartedAt) := by
        omega
      simp only [List.countP_append, List.countP_singleton, decide_eq_true_eq, hnot, if_false]
      omega
    · intro at_ hat
      rcases List.mem_append.mp hat with hat | hat
      · exact hcounts.inside at_ hat
      · cases List.mem_singleton.mp hat
        exact hinside

end Window

/-! ### Invariants of the attempts -/

section Past

variable {policy : LockoutPolicy} {past : List Attempt} {row : Option LockoutState} {now : ℤ}

theorem allowedAt_refused (past : List Attempt) (now : ℤ) (until_ : Option ℤ) :
    allowedAt (past ++ [⟨now, ⟨false, false, until_⟩⟩]) = allowedAt past := by
  simp [allowedAt]

theorem allowedAt_allowed (past : List Attempt) (now : ℤ) (lockedNow : Bool)
    (until_ : Option ℤ) :
    allowedAt (past ++ [⟨now, ⟨true, lockedNow, until_⟩⟩]) = allowedAt past ++ [now] := by
  simp [allowedAt]

/-- A stale row has been left alone for as long as anything is counted. -/
theorem isStale_iff {state : LockoutState} :
    isStale state now = true ↔ state.lastFailureAt < now - staleAfterMs ∧
      ∀ until_ ∈ state.lockedUntil, until_ < now := by
  simp only [isStale, decide_eq_true_eq]

/-- No window holds more attempts than the bound, and the row tracks them. -/
structure Rated (policy : LockoutPolicy) (past : List Attempt) (row : Option LockoutState)
    (clock : ℤ) : Prop where
  past_le : ∀ at_ ∈ allowedAt past, at_ ≤ clock
  last : ∀ state ∈ row, ∀ at_ ∈ allowedAt past, at_ ≤ state.lastFailureAt
  tracks : Tracks policy (allowedAt past) clock row
  sparse : ∀ start : ℤ, (allowedAt past).countP (fun at_ => start ≤ at_ ∧
    at_ < start + policy.windowMs) ≤ 2 * policy.threshold - 2

theorem Rated.start (policy : LockoutPolicy) (clock : ℤ) : Rated policy [] none clock :=
  ⟨by simp [allowedAt], by simp, .absent (by simp [Quiet, allowedAt]), by simp [allowedAt]⟩

theorem Rated.purge (hsound : policy.Sound) (h : Rated policy past row now) :
    Rated policy past (row.filter fun state => !isStale state now) now := by
  cases row with
  | none => exact h
  | some state =>
    cases hstale : isStale state now with
    | false => simpa [Option.filter, hstale] using h
    | true =>
      have hrow : (some state).filter (fun state => !isStale state now) = none := by
        simp [Option.filter, hstale]
      have hquiet : Quiet policy (allowedAt past) now := by
        intro at_ hat
        have hlast := h.last state rfl at_ hat
        have hlong := (isStale_iff.mp hstale).1
        have hwindow := hsound.window_le_stale
        omega
      rw [hrow]
      exact ⟨h.past_le, by simp, .absent hquiet, h.sparse⟩

theorem Rated.later {clock : ℤ} (hclock : clock ≤ now) (h : Rated policy past row clock) :
    Rated policy past row now :=
  ⟨fun at_ hat => (h.past_le at_ hat).trans hclock, h.last, h.tracks.later hclock, h.sparse⟩

/-- One more attempt that lands among those let through. -/
theorem Rated.sparse_append (hsound : policy.Sound) (h : Rated policy past row now)
    (hlands : Lands policy (allowedAt past) (lockedRow row now) now) (start : ℤ) :
    (allowedAt past ++ [now]).countP (fun at_ => start ≤ at_ ∧ at_ < start + policy.windowMs) ≤
      2 * policy.threshold - 2 := by
  rw [List.countP_append, List.countP_singleton]
  by_cases hin : start ≤ now ∧ now < start + policy.windowMs
  · have hnear : (allowedAt past).countP (fun at_ => start ≤ at_ ∧ at_ < start + policy.windowMs) ≤
        (allowedAt past).countP fun at_ => now - policy.windowMs < at_ := by
      refine List.countP_mono_left fun at_ _ h => ?_
      simp only [decide_eq_true_eq] at h ⊢
      omega
    have hbound := hlands.near_le hsound
    simp only [hin, and_self, decide_true, if_true]
    omega
  · have hsparse := h.sparse start
    simp only [hin, decide_false, Bool.false_eq_true, if_false]
    omega

theorem Rated.attempt (hsound : policy.Sound) (h : Rated policy past row now) :
    Rated policy (past ++ [⟨now, (attemptOn policy row now).1⟩])
      (some (attemptOn policy row now).2) now := by
  have hall : ∀ at_ ∈ allowedAt past ++ [now], at_ ≤ now := by
    intro at_ hat
    rcases List.mem_append.mp hat with hat | hat
    · exact h.past_le at_ hat
    · exact le_of_eq (List.mem_singleton.mp hat)
  have hspec := attemptOn_spec policy row now
  generalize attemptOn policy row now = attempted at hspec ⊢
  cases hspec with
  | refused state until_ hrow huntil hlt =>
    have hallowed := allowedAt_refused past now (some until_)
    subst hrow
    refine ⟨?_, ?_, ?_, ?_⟩ <;> rw [hallowed]
    · exact h.past_le
    · exact h.last
    · exact h.tracks
    · exact h.sparse
  | counted hfree hbelow =>
    have hlands := h.tracks.lands hsound hfree
    have hallowed := allowedAt_allowed past now false none
    refine ⟨?_, ?_, ?_, ?_⟩ <;> rw [hallowed]
    · exact hall
    · rintro _ ⟨⟩
      exact hall
    · refine .counting _ rfl ?_ (hlands.counts hsound hbelow _ _)
      cases hlands with
      | opens hfailures hstart hbefore hfew => exact hstart.le
      | continues hcounts hstart hactive => simpa only [hactive, if_true] using hstart
    · exact h.sparse_append hsound hlands
  | locked hfree hreached =>
    have hlands := h.tracks.lands hsound hfree
    have hallowed := allowedAt_allowed past now true
      (some (now + lockDurationMs policy (levelAt (lockedRow row now) policy now)))
    have hlock := hsound.window_le_lock (levelAt (lockedRow row now) policy now)
    refine ⟨?_, ?_, ?_, ?_⟩ <;> rw [hallowed]
    · exact hall
    · rintro _ ⟨⟩
      exact hall
    · refine .locked _ _ rfl ?_ ?_
      · intro at_ hat
        have hat := hall at_ hat
        omega
      · simp only
        omega
    · exact h.sparse_append hsound hlands

/-- No attempt was let through under a lock that was announced before it. -/
structure Respected (past : List Attempt) (row : Option LockoutState) (clock : ℤ) : Prop where
  pairwise : past.Pairwise fun earlier later => later.outcome.allowed = true →
    ∀ until_ ∈ earlier.outcome.lockedUntil, until_ ≤ later.now
  announced : ∀ earlier ∈ past, ∀ until_ ∈ earlier.outcome.lockedUntil, until_ ≤ clock ∨
    ∃ state ∈ row, ∃ longest ∈ state.lockedUntil, until_ ≤ longest

theorem Respected.start (row : Option LockoutState) (clock : ℤ) : Respected [] row clock :=
  ⟨List.Pairwise.nil, by simp⟩

theorem Respected.purge (h : Respected past row now) :
    Respected past (row.filter fun state => !isStale state now) now := by
  refine ⟨h.pairwise, fun earlier hearlier until_ huntil => ?_⟩
  rcases h.announced earlier hearlier until_ huntil with hover | ⟨state, hrow, longest, hlock, hle⟩
  · exact .inl hover
  · cases hstale : isStale state now with
    | true =>
      have hlt := (isStale_iff.mp hstale).2 longest hlock
      exact .inl (by omega)
    | false =>
      refine .inr ⟨state, ?_, longest, hlock, hle⟩
      rw [Option.mem_def.mp hrow]
      simp [Option.filter, hstale]

theorem Respected.later {clock : ℤ} (hclock : clock ≤ now) (h : Respected past row clock) :
    Respected past row now :=
  ⟨h.pairwise, fun earlier hearlier until_ huntil =>
    (h.announced earlier hearlier until_ huntil).imp_left fun hover => hover.trans hclock⟩

theorem Respected.attempt (h : Respected past row now) :
    Respected (past ++ [⟨now, (attemptOn policy row now).1⟩])
      (some (attemptOn policy row now).2) now := by
  have hspec := attemptOn_spec policy row now
  generalize attemptOn policy row now = attempted at hspec ⊢
  cases hspec with
  | refused state until_ hrow huntil hlt =>
    refine ⟨List.pairwise_append.mpr ⟨h.pairwise, List.pairwise_singleton .., ?_⟩, ?_⟩
    · rintro earlier _ later hlater hallowed
      cases List.mem_singleton.mp hlater
      cases hallowed
    · intro earlier hearlier announced hannounced
      rcases List.mem_append.mp hearlier with hearlier | hearlier
      · rw [← hrow]
        exact h.announced earlier hearlier announced hannounced
      · cases List.mem_singleton.mp hearlier
        cases hannounced
        exact .inr ⟨state, rfl, until_, huntil, le_refl _⟩
  | counted hfree hbelow =>
    have hover : ∀ earlier ∈ past, ∀ until_ ∈ earlier.outcome.lockedUntil, until_ ≤ now := by
      intro earlier hearlier until_ huntil
      rcases h.announced earlier hearlier until_ huntil with hover | ⟨state, hrow, longest, hlock, hle⟩
      · exact hover
      · exact hle.trans (hfree state hrow longest hlock)
    refine ⟨List.pairwise_append.mpr ⟨h.pairwise, List.pairwise_singleton .., ?_⟩, ?_⟩
    · intro earlier hearlier later hlater _
      cases List.mem_singleton.mp hlater
      exact hover earlier hearlier
    · intro earlier hearlier announced hannounced
      rcases List.mem_append.mp hearlier with hearlier | hearlier
      · exact .inl (hover earlier hearlier announced hannounced)
      · cases List.mem_singleton.mp hearlier
        cases hannounced
  | locked hfree hreached =>
    have hover : ∀ earlier ∈ past, ∀ until_ ∈ earlier.outcome.lockedUntil, until_ ≤ now := by
      intro earlier hearlier until_ huntil
      rcases h.announced earlier hearlier until_ huntil with hover | ⟨state, hrow, longest, hlock, hle⟩
      · exact hover
      · exact hle.trans (hfree state hrow longest hlock)
    refine ⟨List.pairwise_append.mpr ⟨h.pairwise, List.pairwise_singleton .., ?_⟩, ?_⟩
    · intro earlier hearlier later hlater _
      cases List.mem_singleton.mp hlater
      exact hover earlier hearlier
    · intro earlier hearlier announced hannounced
      rcases List.mem_append.mp hearlier with hearlier | hearlier
      · exact .inl (hover earlier hearlier announced hannounced)
      · cases List.mem_singleton.mp hearlier
        cases hannounced
        exact .inr ⟨_, rfl, _, rfl, le_refl _⟩

/-- The locks grow as long as the level is not forgotten. -/
structure Leveled (policy : LockoutPolicy) (past : List Attempt) (row : Option LockoutState)
    (clock : ℤ) : Prop where
  longest : ∀ duration ∈ lockDurations past, duration ≤ policy.maxLockMs
  opened : allowedAt past = [] → lockDurations past = []
  last : ∀ state ∈ row, ∀ at_ ∈ (allowedAt past).getLast?, at_ = state.lastFailureAt
  forgotten : row = none → ∀ at_ ∈ (allowedAt past).getLast?, at_ + policy.levelResetMs ≤ clock
  grow : (allowedAt past).IsChain (fun earlier later : ℤ => later - earlier < policy.levelResetMs) →
    (lockDurations past).Pairwise (· ≤ ·) ∧ ∀ state ∈ row, ∀ duration ∈ lockDurations past,
      duration ≤ lockDurationMs policy state.lockLevel

theorem lockDurations_unlocked (past : List Attempt) (now : ℤ) (allowed : Bool)
    (until_ : Option ℤ) :
    lockDurations (past ++ [⟨now, ⟨allowed, false, until_⟩⟩]) = lockDurations past := by
  simp [lockDurations]

theorem lockDurations_locked (past : List Attempt) (now : ℤ) (duration : ℕ) :
    lockDurations (past ++ [⟨now, ⟨true, true, some (now + duration)⟩⟩]) =
      lockDurations past ++ [(duration : ℤ)] := by
  simp [lockDurations]

theorem Leveled.start (policy : LockoutPolicy) (row : Option LockoutState) (clock : ℤ) :
    Leveled policy [] row clock :=
  ⟨by simp [lockDurations], by simp [lockDurations], by simp [allowedAt], by simp [allowedAt],
    by simp [lockDurations]⟩

theorem Leveled.purge (hsound : policy.Sound) (h : Leveled policy past row now) :
    Leveled policy past (row.filter fun state => !isStale state now) now := by
  cases row with
  | none => exact h
  | some state =>
    cases hstale : isStale state now with
    | false => simpa [Option.filter, hstale] using h
    | true =>
      have hrow : (some state).filter (fun state => !isStale state now) = none := by
        simp [Option.filter, hstale]
      rw [hrow]
      refine ⟨h.longest, h.opened, by simp, fun _ at_ hat => ?_, fun hchain => ⟨(h.grow hchain).1,
        by simp⟩⟩
      have hlast := h.last state rfl at_ hat
      have hlong := (isStale_iff.mp hstale).1
      have hreset := hsound.reset_le_stale
      omega

theorem Leveled.later {clock : ℤ} (hclock : clock ≤ now) (h : Leveled policy past row clock) :
    Leveled policy past row now :=
  ⟨h.longest, h.opened, h.last, fun hrow at_ hat => (h.forgotten hrow at_ hat).trans hclock, h.grow⟩

/-- While the level is not forgotten, no lock so far is longer than one opened now. -/
theorem Leveled.duration_le (h : Leveled policy past row now)
    (hchain : (allowedAt past ++ [now]).IsChain
      fun earlier later : ℤ => later - earlier < policy.levelResetMs) :
    (lockDurations past).Pairwise (· ≤ ·) ∧ ∀ duration ∈ lockDurations past,
      duration ≤ lockDurationMs policy (levelAt (lockedRow row now) policy now) := by
  obtain ⟨hpast, -, hnear⟩ := List.isChain_append.mp hchain
  obtain ⟨hgrow, hlevel⟩ := h.grow hpast
  refine ⟨hgrow, fun duration hduration => ?_⟩
  cases hlast : (allowedAt past).getLast? with
  | none =>
    rw [h.opened (List.getLast?_eq_none_iff.mp hlast)] at hduration
    cases hduration
  | some at_ =>
    have hreset : now - at_ < policy.levelResetMs := hnear at_ hlast now rfl
    cases row with
    | none =>
      have hforgotten := h.forgotten rfl at_ hlast
      omega
    | some state =>
      have hsame : at_ = state.lastFailureAt := h.last state rfl at_ hlast
      have hkept : levelAt (lockedRow (some state) now) policy now = state.lockLevel :=
        if_pos (hsame ▸ hreset)
      rw [hkept]
      exact hlevel state rfl duration hduration

theorem Leveled.attempt (h : Leveled policy past row now) :
    Leveled policy (past ++ [⟨now, (attemptOn policy row now).1⟩])
      (some (attemptOn policy row now).2) now := by
  have hspec := attemptOn_spec policy row now
  generalize attemptOn policy row now = attempted at hspec ⊢
  cases hspec with
  | refused state until_ hrow huntil hlt =>
    have hallowed := allowedAt_refused past now (some until_)
    have hdurations := lockDurations_unlocked past now false (some until_)
    subst hrow
    constructor <;> simp only [hallowed, hdurations]
    · exact h.longest
    · exact h.opened
    · exact h.last
    · exact fun hnone => by cases hnone
    · exact h.grow
  | counted hfree hbelow =>
    have hallowed := allowedAt_allowed past now false none
    have hdurations := lockDurations_unlocked past now true none
    constructor <;> simp only [hallowed, hdurations]
    · exact h.longest
    · exact fun hempty => by simp at hempty
    · rintro _ ⟨⟩ at_ hat
      simpa using hat.symm
    · exact fun hnone => by cases hnone
    · intro hchain
      obtain ⟨hgrow, hlevel⟩ := h.duration_le hchain
      refine ⟨hgrow, ?_⟩
      rintro _ ⟨⟩
      exact hlevel
  | locked hfree hreached =>
    have hallowed := allowedAt_allowed past now true
      (some (now + lockDurationMs policy (levelAt (lockedRow row now) policy now)))
    have hdurations := lockDurations_locked past now
      (lockDurationMs policy (levelAt (lockedRow row now) policy now))
    constructor <;> simp only [hallowed, hdurations]
    · intro duration hduration
      rcases List.mem_append.mp hduration with hduration | hduration
      · exact h.longest duration hduration
      · have hmax := lockDurationMs_le_max policy (levelAt (lockedRow row now) policy now)
        rw [List.mem_singleton.mp hduration]
        omega
    · exact fun hempty => by simp at hempty
    · rintro _ ⟨⟩ at_ hat
      simpa using hat.symm
    · exact fun hnone => by cases hnone
    · intro hchain
      obtain ⟨hgrow, hlevel⟩ := h.duration_le hchain
      refine ⟨List.pairwise_append.mpr ⟨hgrow, List.pairwise_singleton .., ?_⟩, ?_⟩
      · intro duration hduration last hlast
        rw [List.mem_singleton.mp hlast]
        exact hlevel duration hduration
      · rintro _ ⟨⟩ duration hduration
        have hnext : lockDurationMs policy (levelAt (lockedRow row now) policy now) ≤
            lockDurationMs policy (levelAt (lockedRow row now) policy now + 1) :=
          lockDurationMs_mono (Nat.le_succ _)
        simp only
        rcases List.mem_append.mp hduration with hduration | hduration
        · have hle := hlevel duration hduration
          omega
        · rw [List.mem_singleton.mp hduration]
          omega

end Past

/-! ### The bound -/

section Bound

theorem rated_keeps {policy : LockoutPolicy} (hsound : policy.Sound) :
    Keeps policy (Rated policy) :=
  ⟨fun _ _ _ h => h.purge hsound, fun _ _ _ _ hclock h => h.later hclock,
    fun _ _ _ h => h.attempt hsound⟩

theorem respected_keeps (policy : LockoutPolicy) : Keeps policy Respected :=
  ⟨fun _ _ _ h => h.purge, fun _ _ _ _ hclock h => h.later hclock, fun _ _ _ h => h.attempt⟩

theorem leveled_keeps {policy : LockoutPolicy} (hsound : policy.Sound) :
    Keeps policy (Leveled policy) :=
  ⟨fun _ _ _ h => h.purge hsound, fun _ _ _ _ hclock h => h.later hclock, fun _ _ _ h => h.attempt⟩

theorem instants_append (earlier run : List Call) :
    instants (earlier ++ run) = instants earlier ++ instants run :=
  List.filterMap_append

theorem allowedAt_append (past later : List Attempt) :
    allowedAt (past ++ later) = allowedAt past ++ allowedAt later := by
  simp [allowedAt]

theorem exists_le_of_sorted {instants : List ℤ} (h : instants.Pairwise (· ≤ ·)) :
    ∃ clock, ∀ at_ ∈ instants, clock ≤ at_ := by
  cases instants with
  | nil => exact ⟨0, by simp⟩
  | cons first rest =>
    refine ⟨first, fun at_ hat => ?_⟩
    rcases List.mem_cons.mp hat with rfl | hat
    · exact le_refl _
    · exact (List.pairwise_cons.mp h).1 at_ hat

/-- After any calls, a run of attempts at times that do not decrease and in which the row is not
cleared lets through at most `2t - 2` attempts in a window, none under a lock that was opened
before, and its locks grow, up to the longest, as long as the level is not forgotten. -/
theorem guessing_is_bounded (subject : String) (factor : AuthFactor) (earlier run : List Call)
    (hsorted : (instants (earlier ++ run)).Pairwise (· ≤ ·))
    (hclear : .clear (subject, factor) ∉ run) :
    (∀ start : ℤ, (allowedAt (attempts (subject, factor) (after (fun _ => none) earlier) run)).countP
      (fun at_ => start ≤ at_ ∧ at_ < start + (lockoutPolicies factor).windowMs) ≤
        2 * (lockoutPolicies factor).threshold - 2) ∧
      (attempts (subject, factor) (after (fun _ => none) earlier) run).Pairwise
        (fun earlier later => later.outcome.allowed = true →
          ∀ until_ ∈ earlier.outcome.lockedUntil, until_ ≤ later.now) ∧
      ((allowedAt (attempts (subject, factor) (after (fun _ => none) earlier) run)).IsChain
          (fun earlier later : ℤ => later - earlier < (lockoutPolicies factor).levelResetMs) →
        (lockDurations (attempts (subject, factor) (after (fun _ => none) earlier) run)).Pairwise
          (· ≤ ·)) ∧
      ∀ duration ∈ lockDurations (attempts (subject, factor) (after (fun _ => none) earlier) run),
        duration ≤ (lockoutPolicies factor).maxLockMs := by
  have hsound := lockoutPolicies_sound factor
  obtain ⟨clock, hclock⟩ := exists_le_of_sorted hsorted
  rw [instants_append, List.pairwise_append] at hsorted
  obtain ⟨hearlier, hrun, hbetween⟩ := hsorted
  rw [instants_append] at hclock
  have hpast : ∃ past now, Rated (lockoutPolicies factor) past
      (after (fun _ => none) earlier (subject, factor)) now ∧ (now = clock ∨ now ∈ instants earlier) :=
    (rated_keeps hsound).exists_past (Rated.start _) (Rated.start _ clock)
      (fun at_ hat => hclock at_ (List.mem_append_left _ hat)) hearlier
  obtain ⟨past, now, hrated, hnow⟩ := hpast
  have hfrom : ∀ at_ ∈ instants run, now ≤ at_ := by
    intro at_ hat
    rcases hnow with rfl | hnow
    · exact hclock at_ (List.mem_append_right _ hat)
    · exact hbetween now hnow at_ hat
  obtain ⟨end_, hrated⟩ := (rated_keeps hsound).attempts hrated hfrom hrun hclear
  obtain ⟨_, hrespected⟩ := (respected_keeps (lockoutPolicies factor)).attempts
    (Respected.start _ now) hfrom hrun hclear
  obtain ⟨_, hleveled⟩ := (leveled_keeps hsound).attempts (Leveled.start _ _ now) hfrom hrun hclear
  rw [List.nil_append] at hrespected hleveled
  refine ⟨fun start => ?_, hrespected.pairwise, fun hchain => (hleveled.grow hchain).1,
    hleveled.longest⟩
  have hsparse := hrated.sparse start
  rw [allowedAt_append, List.countP_append] at hsparse
  omega

/-- Five passwords are tried in two minutes, and a sixth one during the lock. -/
def sixTries : List Call :=
  [0, 30000, 60000, 90000, 120000, 600000].map fun now : ℤ =>
    .registerAttempt ("user:ana", .password) now

theorem guessing_is_bounded_sixTries :
    (allowedAt (attempts ("user:ana", .password) (after (fun _ => none) []) sixTries)).countP
      (fun at_ => (0 : ℤ) ≤ at_ ∧ at_ < 0 + (lockoutPolicies .password).windowMs) ≤
        2 * (lockoutPolicies .password).threshold - 2 :=
  (guessing_is_bounded "user:ana" .password [] sixTries (by decide) (by decide)).1 0

example : allowedAt (attempts ("user:ana", .password) (fun _ => none) sixTries) =
    [0, 30000, 60000, 90000, 120000] := by decide

end Bound

end InternalControl.AuthLockout
