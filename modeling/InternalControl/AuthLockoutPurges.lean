import InternalControl.AuthLockoutRuns

/-!
# Purges of the counts

A row is purged when its last attempt is a day old and its lock is over. By then
its window has closed and its level is forgotten, so the next attempt counts as
the first one would. A run answers the same with any of its purges left out.
-/

namespace InternalControl.AuthLockout

/-- The transaction of an attempt, without the purge that follows it. -/
def transact (lockouts : Lockouts) (key : Key) (now : ℤ) : AttemptOutcome × Lockouts :=
  let attempted := attemptOn (lockoutPolicies key.2) (lockouts key) now
  (attempted.1, Function.update lockouts key (some attempted.2))

theorem registerAttempt_eq (lockouts : Lockouts) (key : Key) (now : ℤ) :
    registerAttempt lockouts key now =
      ((transact lockouts key now).1, purgeStale (transact lockouts key now).2 now) := rfl

/-- The end of the lock of a subject, as long as it lasts. -/
def lockedUntil (lockouts : Lockouts) (key : Key) (now : ℤ) : Option ℤ :=
  ((lockouts key).bind LockoutState.lockedUntil).filter fun until_ => now < until_

/-- What a caller asks of the service. -/
inductive Operation
  | registerAttempt (key : Key)
  | lockedUntil (key : Key)
  | clear (key : Key)
  deriving DecidableEq, Repr

/-- What a caller is told. -/
inductive Answer
  | attempt (outcome : AttemptOutcome)
  | lockedUntil (until_ : Option ℤ)
  | cleared
  deriving DecidableEq, Repr

/-- A call of the service, without any purge. -/
def answer (lockouts : Lockouts) (operation : Operation) (now : ℤ) : Answer × Lockouts :=
  match operation with
  | .registerAttempt key =>
    let attempted := transact lockouts key now
    (.attempt attempted.1, attempted.2)
  | .lockedUntil key => (.lockedUntil (lockedUntil lockouts key now), lockouts)
  | .clear key => (.cleared, clear lockouts key)

/-- A call, when it is made, and whether stale rows are purged after it. -/
structure TimedCall where
  operation : Operation
  now : ℤ
  purges : Bool
  deriving DecidableEq, Repr

/-- The same call with no purge after it. -/
def TimedCall.unpurged (call : TimedCall) : TimedCall := { call with purges := false }

/-- The table after a call and its purge. -/
def TimedCall.table (lockouts : Lockouts) (call : TimedCall) : Lockouts :=
  let answered := (answer lockouts call.operation call.now).2
  if call.purges then purgeStale answered call.now else answered

/-- What the callers of a run are told, the first one first. -/
def answers : Lockouts → List TimedCall → List Answer
  | _, [] => []
  | lockouts, call :: calls =>
    (answer lockouts call.operation call.now).1 :: answers (call.table lockouts) calls

/-! ### Rows that count for nothing -/

section Rows

variable {policy : LockoutPolicy} {state : LockoutState} {row kept : Option LockoutState}
  {clock now : ℤ}

/-- The window of a row starts by its last attempt, and that is not in the future. -/
structure Dated (state : LockoutState) (now : ℤ) : Prop where
  window_le : state.windowStartedAt ≤ state.lastFailureAt
  failure_le : state.lastFailureAt ≤ now

/-- The last attempt of a row is a day old, and its lock is over. -/
structure Faded (state : LockoutState) (now : ℤ) : Prop where
  dated : Dated state now
  failure : state.lastFailureAt + staleAfterMs ≤ now
  lock : ∀ until_ ∈ state.lockedUntil, until_ ≤ now

theorem Dated.later (h : Dated state clock) (hclock : clock ≤ now) : Dated state now :=
  ⟨h.window_le, h.failure_le.trans hclock⟩

theorem Faded.later (h : Faded state clock) (hclock : clock ≤ now) : Faded state now :=
  ⟨h.dated.later hclock, h.failure.trans hclock, fun until_ huntil => (h.lock until_ huntil).trans hclock⟩

theorem Dated.faded (h : Dated state now) (hstale : isStale state now = true) : Faded state now := by
  rw [isStale, decide_eq_true_eq] at hstale
  have hfailure := hstale.1
  exact ⟨h, by omega, fun until_ huntil => (hstale.2 until_ huntil).le⟩

theorem Faded.isLocked (h : Faded state now) : isLocked state now = false := by
  rw [Bool.eq_false_iff]
  intro hlocked
  obtain ⟨until_, huntil, hlt⟩ := isLocked_iff.mp hlocked
  have hover := h.lock until_ huntil
  omega

/-- An attempt on a faded row goes as the first one of a subject does. -/
theorem Faded.attemptOn (hsound : policy.Sound) (h : Faded state now) :
    attemptOn policy (some state) now = attemptOn policy none now := by
  have hreset := hsound.reset_le_stale
  have hwindow := hsound.window_le_stale
  have hfailure := h.failure
  have hstart := h.dated.window_le
  have hlevel : levelAt state policy now = 0 := by
    unfold levelAt
    split
    · omega
    · rfl
  have hclosed : windowActive state policy now = false := by
    simp only [windowActive, decide_eq_false_iff_not]
    omega
  have hfree : AuthLockout.isLocked ⟨0, now, 0, none, now⟩ now = false := rfl
  have hfreshLevel : levelAt ⟨0, now, 0, none, now⟩ policy now = 0 := ite_self 0
  have hcount : countAttempt state policy now = countAttempt ⟨0, now, 0, none, now⟩ policy now := by
    simp only [countAttempt, hlevel, hclosed, hfreshLevel, Bool.false_eq_true, if_false, ite_self]
  simp only [AuthLockout.attemptOn, lockedRow, Option.getD_some, Option.getD_none, h.isLocked, hfree,
    hcount, Bool.false_eq_true, if_false]

/-- An attempt leaves a dated row. -/
theorem dated_attemptOn (policy : LockoutPolicy) (hrow : ∀ state ∈ row, Dated state now) :
    Dated (attemptOn policy row now).2 now := by
  have hspec := attemptOn_spec policy row now
  generalize attemptOn policy row now = attempted at hspec ⊢
  have hread : Dated (lockedRow row now) now := by
    cases row with
    | none => exact ⟨le_rfl, le_rfl⟩
    | some state => exact hrow state rfl
  cases hspec with
  | refused state until_ hstate huntil hlt => exact hrow state hstate
  | counted hfree hbelow =>
    refine ⟨?_, le_rfl⟩
    dsimp only
    split
    · exact hread.window_le.trans hread.failure_le
    · exact le_rfl
  | locked hfree hreached => exact ⟨le_rfl, le_rfl⟩

/-! ### Two runs -/

/-- A row of a run with purges, and the row of the run without them. -/
inductive Follows (now : ℤ) : Option LockoutState → Option LockoutState → Prop
  | same (row : Option LockoutState) (hrow : ∀ state ∈ row, Dated state now) : Follows now row row
  | purged (state : LockoutState) (hfaded : Faded state now) : Follows now none (some state)

theorem Follows.later (h : Follows clock kept row) (hclock : clock ≤ now) : Follows now kept row := by
  cases h with
  | same row hrow => exact .same row fun state hstate => (hrow state hstate).later hclock
  | purged state hfaded => exact .purged state (hfaded.later hclock)

theorem Follows.purge (h : Follows now kept row) :
    Follows now (kept.filter fun state => !isStale state now) row := by
  cases h with
  | purged state hfaded => exact .purged state hfaded
  | same row hrow =>
    cases row with
    | none => exact .same none hrow
    | some state =>
      cases hstale : isStale state now with
      | true =>
        rw [Option.filter_some_neg (by simp [hstale])]
        exact .purged state ((hrow state rfl).faded hstale)
      | false =>
        rw [Option.filter_some_pos (by simp [hstale])]
        exact .same (some state) hrow

theorem Follows.attemptOn_eq (hsound : policy.Sound) (h : Follows now kept row) :
    attemptOn policy kept now = attemptOn policy row now := by
  cases h with
  | same row hrow => rfl
  | purged state hfaded => exact (hfaded.attemptOn hsound).symm

theorem Follows.attempt (hsound : policy.Sound) (h : Follows now kept row) :
    Follows now (some (attemptOn policy kept now).2) (some (attemptOn policy row now).2) := by
  have hdated : Dated (attemptOn policy kept now).2 now := by
    cases h with
    | same row hrow => exact dated_attemptOn policy hrow
    | purged state hfaded => exact dated_attemptOn policy nofun
  rw [← h.attemptOn_eq hsound]
  refine .same _ fun state hstate => ?_
  cases hstate
  exact hdated

/-- A lock that is over is not shown, whether its row is there or not. -/
theorem Follows.shownLock_eq (h : Follows now kept row) :
    (kept.bind LockoutState.lockedUntil).filter (fun until_ => now < until_) =
      (row.bind LockoutState.lockedUntil).filter fun until_ => now < until_ := by
  cases h with
  | same row hrow => rfl
  | purged state hfaded =>
    rw [Option.bind_some, Option.bind_none, Option.filter_none, eq_comm, Option.filter_eq_none_iff]
    intro until_ huntil
    have hover := hfaded.lock until_ huntil
    simpa using hover

end Rows

/-! ### Tables -/

section Tables

variable {kept lockouts : Lockouts} {clock now : ℤ}

/-- Every row of one table follows that of the other. -/
def TableFollows (now : ℤ) (kept lockouts : Lockouts) : Prop :=
  ∀ key, Follows now (kept key) (lockouts key)

/-- A call answers the same on both tables, and they stay together. -/
theorem TableFollows.answer (h : TableFollows now kept lockouts) (operation : Operation) :
    (answer kept operation now).1 = (answer lockouts operation now).1 ∧
      TableFollows now (answer kept operation now).2 (answer lockouts operation now).2 := by
  cases operation with
  | registerAttempt key =>
    have hsound := lockoutPolicies_sound key.2
    have hsame := (h key).attemptOn_eq hsound
    refine ⟨?_, fun other => ?_⟩
    · simp only [AuthLockout.answer, transact, hsame]
    · by_cases hkey : other = key
      · subst hkey
        simp only [AuthLockout.answer, transact, Function.update_self]
        exact (h other).attempt hsound
      · simp only [AuthLockout.answer, transact, Function.update_of_ne hkey]
        exact h other
  | lockedUntil key =>
    have hshown := (h key).shownLock_eq
    refine ⟨?_, h⟩
    simp only [AuthLockout.answer, lockedUntil, hshown]
  | clear key =>
    refine ⟨rfl, fun other => ?_⟩
    by_cases hkey : other = key
    · subst hkey
      simp only [AuthLockout.answer, clear, Function.update_self]
      exact .same none nofun
    · simp only [AuthLockout.answer, clear, Function.update_of_ne hkey]
      exact h other

/-- The tables stay together through a call and the purge of one of them. -/
theorem TableFollows.table (call : TimedCall) (h : TableFollows call.now kept lockouts) :
    TableFollows call.now (call.table kept) (call.unpurged.table lockouts) := by
  have hanswered := (h.answer call.operation).2
  intro key
  rw [TimedCall.table]
  split
  · exact (hanswered key).purge
  · exact hanswered key

/-- Two runs of the same calls from tables that follow each other. -/
theorem TableFollows.answers_eq {calls : List TimedCall} (h : TableFollows clock kept lockouts)
    (hclock : ∀ call ∈ calls, clock ≤ call.now)
    (hsorted : (calls.map TimedCall.now).Pairwise (· ≤ ·)) :
    answers kept calls = answers lockouts (calls.map TimedCall.unpurged) := by
  induction calls generalizing clock kept lockouts with
  | nil => rfl
  | cons call calls ih =>
    have hnow : TableFollows call.now kept lockouts :=
      fun key => (h key).later (hclock call List.mem_cons_self)
    obtain ⟨hfirst, hrest⟩ := List.pairwise_cons.mp hsorted
    have hlater : ∀ other ∈ calls, call.now ≤ other.now :=
      fun other hother => hfirst other.now (List.mem_map_of_mem hother)
    have hanswer := (hnow.answer call.operation).1
    rw [List.map_cons, answers, answers, ih (hnow.table call) hlater hrest]
    exact congrArg (· :: _) hanswer

/-- Every call of a run at times that do not decrease is answered as in the run
without any purge. -/
theorem purges_are_unobservable (calls : List TimedCall)
    (hsorted : (calls.map TimedCall.now).Pairwise (· ≤ ·)) :
    answers (fun _ => none) calls = answers (fun _ => none) (calls.map TimedCall.unpurged) := by
  cases calls with
  | nil => rfl
  | cons call calls =>
    have hstart : TableFollows call.now (fun _ => none) (fun _ => none) := fun _ => .same none nofun
    have hfirst : ∀ other ∈ calls, call.now ≤ other.now := fun other hother =>
      (List.pairwise_cons.mp hsorted).1 other.now (List.mem_map_of_mem hother)
    refine hstart.answers_eq (fun other hother => ?_) hsorted
    rcases List.mem_cons.mp hother with rfl | hother
    · exact le_rfl
    · exact hfirst other hother

end Tables

/-- An address fails twice, and again a day and a minute later, after the purge of another
subject's attempt. -/
def returningAddress : List TimedCall :=
  [⟨.registerAttempt ("ip:10.0.0.1", .ipFailures), 0, false⟩,
    ⟨.registerAttempt ("ip:10.0.0.1", .ipFailures), 1000, true⟩,
    ⟨.registerAttempt ("user:ana", .password), 86460000, true⟩,
    ⟨.lockedUntil ("ip:10.0.0.1", .ipFailures), 86460000, false⟩,
    ⟨.registerAttempt ("ip:10.0.0.1", .ipFailures), 86520000, true⟩]

theorem purges_are_unobservable_returningAddress :
    answers (fun _ => none) returningAddress =
      answers (fun _ => none) (returningAddress.map TimedCall.unpurged) :=
  purges_are_unobservable returningAddress (by decide)

end InternalControl.AuthLockout
