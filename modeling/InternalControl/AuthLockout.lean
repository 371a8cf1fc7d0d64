import Mathlib.Algebra.Order.Ring.Int
import Mathlib.Data.List.Basic
import Mathlib.Logic.Function.Basic
import Mathlib.Tactic.Common

/-!
# Attempts to authenticate

Every attempt with a password or a code is counted in one row for the subject
and the factor. A count that reaches the threshold locks the subject out, for
longer the more often it happens. Instants are the milliseconds of a `Date`.
-/

namespace InternalControl.AuthLockout

/-- What the attempts of a subject are counted for. -/
inductive AuthFactor
  | password
  | mfa
  | passwordIp
  | ipFailures
  deriving DecidableEq, Repr

/-- How attempts are counted and locks are measured, in milliseconds. -/
structure LockoutPolicy where
  threshold : ℕ
  windowMs : ℕ
  baseLockMs : ℕ
  maxLockMs : ℕ
  levelResetMs : ℕ
  deriving DecidableEq, Repr

def minute : ℕ := 60000

def hour : ℕ := 60 * minute

/-- The policy of each factor. -/
def lockoutPolicies : AuthFactor → LockoutPolicy
  | .password => ⟨5, 15 * minute, 15 * minute, hour, 24 * hour⟩
  | .mfa => ⟨5, 15 * minute, 15 * minute, 4 * hour, 24 * hour⟩
  | .passwordIp => ⟨5, 15 * minute, 15 * minute, hour, 24 * hour⟩
  | .ipFailures => ⟨50, 15 * minute, 15 * minute, hour, 24 * hour⟩

/-- The row of a subject and a factor. -/
structure LockoutState where
  failedCount : ℕ
  windowStartedAt : ℤ
  lockLevel : ℕ
  lockedUntil : Option ℤ
  lastFailureAt : ℤ
  deriving DecidableEq, Repr

/-- A lock holds up to the instant it names, and not at it. -/
def isLocked (state : LockoutState) (now : ℤ) : Bool :=
  match state.lockedUntil with
  | none => false
  | some until_ => until_ > now

/-- Every lock doubles the one before it, up to the longest. -/
def lockDurationMs (policy : LockoutPolicy) (lockLevel : ℕ) : ℕ :=
  min (policy.baseLockMs * 2 ^ lockLevel) policy.maxLockMs

/-- The level is forgotten when the last attempt is too long ago. -/
def levelAt (state : LockoutState) (policy : LockoutPolicy) (at_ : ℤ) : ℕ :=
  if at_ - state.lastFailureAt < policy.levelResetMs then state.lockLevel else 0

/-- The window the row counts in is still open. -/
def windowActive (state : LockoutState) (policy : LockoutPolicy) (at_ : ℤ) : Bool :=
  at_ - state.windowStartedAt < policy.windowMs

/-- The row after an attempt that is let through, and whether it locks the subject out. -/
structure Counted where
  next : LockoutState
  lockedNow : Bool

def countAttempt (state : LockoutState) (policy : LockoutPolicy) (now : ℤ) : Counted :=
  let lockLevel := levelAt state policy now
  let active := windowActive state policy now
  let failedCount := (if active then state.failedCount else 0) + 1
  let windowStartedAt := if active then state.windowStartedAt else now
  if policy.threshold ≤ failedCount then
    { next := ⟨0, now, lockLevel + 1, some (now + lockDurationMs policy lockLevel), now⟩
      lockedNow := true }
  else
    { next := ⟨failedCount, windowStartedAt, lockLevel, none, now⟩
      lockedNow := false }

/-- What the caller is told of an attempt. -/
structure AttemptOutcome where
  allowed : Bool
  lockedNow : Bool
  lockedUntil : Option ℤ
  deriving DecidableEq, Repr

def staleAfterMs : ℕ := 24 * 60 * 60 * 1000

/-- What the counts are kept under. -/
abbrev Key := String × AuthFactor

/-- The table of the counts, with at most one row for a subject and a factor. -/
abbrev Lockouts := Key → Option LockoutState

/-- A row is stale when its last attempt is a day old and its lock is over. -/
def isStale (state : LockoutState) (now : ℤ) : Bool :=
  state.lastFailureAt < now - staleAfterMs ∧ ∀ until_ ∈ state.lockedUntil, until_ < now

def purgeStale (lockouts : Lockouts) (now : ℤ) : Lockouts :=
  fun key => (lockouts key).filter fun state => !isStale state now

/-- The row that the transaction reads: the one there, or else the one it inserts. -/
def lockedRow (row : Option LockoutState) (now : ℤ) : LockoutState :=
  row.getD ⟨0, now, 0, none, now⟩

/-- The transaction of an attempt, on the row of its subject and factor. -/
def attemptOn (policy : LockoutPolicy) (row : Option LockoutState) (now : ℤ) :
    AttemptOutcome × LockoutState :=
  let state := lockedRow row now
  if isLocked state now then (⟨false, false, state.lockedUntil⟩, state)
  else
    let counted := countAttempt state policy now
    (⟨true, counted.lockedNow, counted.next.lockedUntil⟩, counted.next)

/-- Count an attempt, then purge the table of stale rows. -/
def registerAttempt (lockouts : Lockouts) (key : Key) (now : ℤ) : AttemptOutcome × Lockouts :=
  let attempted := attemptOn (lockoutPolicies key.2) (lockouts key) now
  (attempted.1, purgeStale (Function.update lockouts key (some attempted.2)) now)

/-- Forget the attempts of a subject. -/
def clear (lockouts : Lockouts) (key : Key) : Lockouts :=
  Function.update lockouts key none

/-- A call of the service that changes the table. -/
inductive Call
  | registerAttempt (key : Key) (now : ℤ)
  | clear (key : Key)
  deriving DecidableEq, Repr

def call (lockouts : Lockouts) : Call → Lockouts
  | .registerAttempt key now => (registerAttempt lockouts key now).2
  | .clear key => clear lockouts key

/-- The table after calls. -/
def after (lockouts : Lockouts) (calls : List Call) : Lockouts :=
  calls.foldl call lockouts

/-- An attempt of a run, with what its caller was told. -/
structure Attempt where
  now : ℤ
  outcome : AttemptOutcome
  deriving DecidableEq, Repr

/-- What one call adds to the attempts of a subject and factor. -/
def attempted (key : Key) (lockouts : Lockouts) : Call → List Attempt
  | .registerAttempt other now =>
    if other = key then [⟨now, (registerAttempt lockouts other now).1⟩] else []
  | .clear _ => []

/-- The attempts of one subject and factor in a run, the first one first. -/
def attempts (key : Key) : Lockouts → List Call → List Attempt
  | _, [] => []
  | lockouts, next :: calls => attempted key lockouts next ++ attempts key (call lockouts next) calls

/-- When attempts are registered in a run. -/
def instants (calls : List Call) : List ℤ :=
  calls.filterMap fun
    | .registerAttempt _ now => some now
    | .clear _ => none

/-- When the attempts that were let through were made. -/
def allowedAt (attempts : List Attempt) : List ℤ :=
  (attempts.filter fun attempt => attempt.outcome.allowed).map Attempt.now

/-- How long the locks are that the attempts opened. -/
def lockDurations (attempts : List Attempt) : List ℤ :=
  (attempts.filter fun attempt => attempt.outcome.lockedNow).filterMap fun attempt =>
    attempt.outcome.lockedUntil.map fun until_ => until_ - attempt.now

end InternalControl.AuthLockout
