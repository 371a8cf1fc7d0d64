import InternalControl.Interleaving
import Mathlib.Data.Int.Notation
import Mathlib.Order.Basic

/-!
# Second factors of a user

A user has at most one secret for time-based codes, and may have a pending one.
A code is matched against the secret that a request has read, which gives a
time step, and the step is then recorded by a conditional update of the user's
row. Transactions that enable, replace or clear the secret treat the last
recorded step each in their own way.
-/

namespace InternalControl.Mfa

open Interleaving

/-- A secret, as it is once it is deciphered. -/
abbrev Secret := String

/-- The columns of `app_user` for the second factor. -/
structure AppUser where
  mfaSecret : Option Secret
  mfaEnabled : Bool
  mfaEnrollmentRequired : Bool
  mfaPendingSecret : Option Secret
  mfaPendingCreatedAt : Option ℤ
  mfaLastTotpStep : Option ℕ
  deriving DecidableEq, Repr

/-- What a code authorised: a time step of a secret. -/
structure Authorization where
  secret : Secret
  step : ℕ
  deriving DecidableEq, Repr

/-- The row of the user. The secrets generated so far and the steps that authorised an operation
are kept beside it. -/
structure Store where
  user : AppUser
  generated : List Secret
  authorized : List Authorization
  deriving DecidableEq, Repr

/-- What a code is asked for by `acceptTotp`. -/
inductive Purpose
  | login
  | setup
  | reenroll
  | disable
  deriving DecidableEq, Repr

/-- How far a request has come. -/
inductive Phase
  | idle
  /-- The user was read, with the secret that codes are matched against. -/
  | reading (purpose : Purpose) (secret : Option Secret)
  | matched (purpose : Purpose) (secret : Secret) (step : ℕ)
  | accepted (purpose : Purpose) (secret : Option Secret)
  | confirming (pending : Secret)
  | confirmed (pending : Secret) (step : ℕ)
  | beginning
  deriving DecidableEq, Repr

def mfaPendingTtlMs : ℕ := 15 * 60 * 1000

def isExpired (createdAt now : ℤ) : Bool := createdAt + mfaPendingTtlMs ≤ now

namespace AppUser

/-- Make a secret the user's. A step raises the last one, and none leaves it. -/
def activate (user : AppUser) (secret : Secret) (totpStep : Option ℕ) : AppUser :=
  { mfaSecret := some secret
    mfaEnabled := true
    mfaEnrollmentRequired := false
    mfaPendingSecret := none
    mfaPendingCreatedAt := none
    mfaLastTotpStep :=
      match totpStep with
      | none => user.mfaLastTotpStep
      | some step => some (max (user.mfaLastTotpStep.getD step) step) }

/-- Record a step unless it is not above the last one. -/
def recordTotpStep (user : AppUser) (step : ℕ) : Option AppUser :=
  if ∀ last ∈ user.mfaLastTotpStep, last < step then some { user with mfaLastTotpStep := some step }
  else none

def clear (enrollmentRequired : Bool) : AppUser where
  mfaSecret := none
  mfaEnabled := false
  mfaEnrollmentRequired := enrollmentRequired
  mfaPendingSecret := none
  mfaPendingCreatedAt := none
  mfaLastTotpStep := none

def savePending (user : AppUser) (secret : Secret) (now : ℤ) : AppUser :=
  { user with mfaPendingSecret := some secret, mfaPendingCreatedAt := some now }

def saveMfaSecret (user : AppUser) (secret : Secret) : AppUser :=
  { user with mfaSecret := some secret }

end AppUser

/-- Where a request goes with the user it has read. Only an enrolment needs no proof while no
second factor is enabled. -/
def readUser (user : AppUser) : Purpose → Phase
  | .login => if user.mfaEnabled ∧ user.mfaSecret.isSome then .reading .login user.mfaSecret else .idle
  | .setup => if user.mfaSecret.isSome ∧ ¬user.mfaEnabled then .reading .setup user.mfaSecret else .idle
  | .reenroll => if user.mfaEnabled then .reading .reenroll user.mfaSecret else .accepted .reenroll none
  | .disable => if user.mfaEnabled then .reading .disable user.mfaSecret else .idle

/-- Where a request goes when its code is not accepted: a proof may still be a recovery code. -/
def refused : Purpose → Phase
  | .login => .idle
  | .setup => .idle
  | .reenroll => .reading .reenroll none
  | .disable => .reading .disable none

/-- A statement of a request. -/
inductive Statement (Code : Type)
  | read (purpose : Purpose)
  | matchTotp (code : Code) (now : ℤ)
  | recordTotpStep
  /-- A recovery code takes the place of a time-based one. -/
  | recoveryCode
  | completeSetupEnrollment
  | savePending (secret : Secret) (now : ℤ)
  | disable
  | findPending (now : ℤ)
  | confirmEnrollment
  | resetByAdmin
  | beginMfaSetup
  | saveMfaSecret (secret : Secret)
  | crash
  deriving DecidableEq, Repr

section Program

variable {ι Code : Type}

/-- Write the row of the user. -/
def Store.write (store : Store) (user : AppUser) : Store := { store with user := user }

/-- Write a secret that was just generated. No secret is generated twice. -/
def Store.generate (store : Store) (secret : Secret) (user : AppUser) : Option Store :=
  if secret ∈ store.generated then none
  else some { store with user := user, generated := secret :: store.generated }

/-- A step of a secret authorises an operation. -/
def Store.authorize (store : Store) (secret : Secret) (step : ℕ) (user : AppUser) : Store :=
  { store with user := user, authorized := store.authorized ++ [⟨secret, step⟩] }

/-- The statements of the services, over what the platform makes of a code. -/
def program (matchTotp : ℤ → Code → Secret → Option ℕ) : Program ι Store Phase (Statement Code)
  | _, .read purpose, store, .idle =>
    some (store, readUser store.user purpose)
  | _, .matchTotp code now, store, .reading purpose (some secret) =>
    some (store, match matchTotp now code secret with
      | none => refused purpose
      | some step => .matched purpose secret step)
  | _, .recordTotpStep, store, .matched purpose secret step =>
    match store.user.recordTotpStep step with
    | none => some (store, refused purpose)
    | some user => some (store.authorize secret step user, .accepted purpose (some secret))
  | _, .recoveryCode, store, .reading .reenroll secret => some (store, .accepted .reenroll secret)
  | _, .recoveryCode, store, .reading .disable secret => some (store, .accepted .disable secret)
  | _, .completeSetupEnrollment, store, .accepted .setup (some secret) =>
    some (store.write (store.user.activate secret none), .idle)
  | _, .savePending secret now, store, .accepted .reenroll _ =>
    (store.generate secret (store.user.savePending secret now)).map fun after => (after, .idle)
  | _, .disable, store, .accepted .disable _ => some (store.write (AppUser.clear false), .idle)
  | _, .findPending now, store, .idle =>
    some (store, match store.user.mfaPendingSecret, store.user.mfaPendingCreatedAt with
      | some secret, some createdAt => if isExpired createdAt now then .idle else .confirming secret
      | _, _ => .idle)
  | _, .matchTotp code now, store, .confirming secret =>
    some (store, match matchTotp now code secret with
      | none => .idle
      | some step => .confirmed secret step)
  | _, .confirmEnrollment, store, .confirmed secret step =>
    if store.user.mfaPendingSecret = some secret then
      some (store.authorize secret step (store.user.activate secret (some step)), .idle)
    else some (store, .idle)
  | _, .resetByAdmin, store, .idle => some (store.write (AppUser.clear true), .idle)
  | _, .beginMfaSetup, store, .idle => some (store, if store.user.mfaEnabled then .idle else .beginning)
  | _, .saveMfaSecret secret, store, .beginning =>
    (store.generate secret (store.user.saveMfaSecret secret)).map fun after => (after, .idle)
  | _, .crash, store, _ => some (store, .idle)
  | _, _, _, _ => none

/-- A user without a second factor. -/
def start (ι : Type) (enrollmentRequired : Bool) : Interleaving ι Store Phase :=
  ⟨⟨AppUser.clear enrollmentRequired, [], []⟩, fun _ => .idle⟩

end Program

end InternalControl.Mfa
