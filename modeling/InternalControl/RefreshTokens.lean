import InternalControl.Table
import InternalControl.TicketCell
import Mathlib.Data.Int.Notation
import Mathlib.Logic.Function.Basic
import Mathlib.Logic.Relation

/-!
# Families of refresh tokens

A session is a family of refresh tokens, of which one is current. Calls that
refresh it read the family, check what they were given and rotate the current
token with one conditional statement; a token that is not current revokes the
family. The statements of the calls interleave in any order, with those of
logins, logouts and the other services that revoke sessions.
-/

namespace InternalControl.RefreshTokens

/-- An identifier that the runtime draws or the store holds. -/
abbrev Uuid := String

/-- Milliseconds, as a clock shows them. -/
abbrev Time := ℤ

inductive RefreshTokenFamilyStatus where
  | active
  | revoked
  deriving DecidableEq

inductive UserStatus where
  | active
  | inactive
  | suspended
  | pendingActivation
  deriving DecidableEq

inductive ErrorCode where
  | tokenExpired
  | userSuspended
  | userInactive
  | invitationExpired
  deriving DecidableEq

structure RefreshTokenFamily where
  id : Uuid
  userId : Uuid
  status : RefreshTokenFamilyStatus
  currentJti : Uuid
  expiresAt : Time
  revokedAt : Option Time
  mfaVerifiedAt : Option Time
  deriving DecidableEq

structure AppUser where
  id : Uuid
  personId : Uuid
  username : String
  status : UserStatus
  mustChangePassword : Bool
  invitationExpiresAt : Option Time
  deriving DecidableEq

/-- What a signed refresh token says. -/
structure RefreshTokenPayload where
  sub : Uuid
  familyId : Uuid
  jti : Uuid
  deriving DecidableEq

structure TokenScope where
  type : String
  id : Option Uuid
  deriving DecidableEq

structure AuthenticatedUser where
  id : Uuid
  personId : Uuid
  username : String
  roles : List String
  scopes : List TokenScope
  mustChangePassword : Bool
  sessionId : Option Uuid
  deriving DecidableEq

structure RefreshResponseDto where
  accessToken : String
  expiresIn : ℤ
  deriving DecidableEq

structure RefreshOutcome where
  response : RefreshResponseDto
  refreshToken : String
  deriving DecidableEq

/-- The signing of tokens, and how many seconds they live. -/
structure TokenService where
  /-- What a refresh token says, when its signature and its shape are right. -/
  verifyRefreshToken : String → Option RefreshTokenPayload
  signRefreshToken : Uuid → Uuid → Uuid → String
  signAccessToken : AuthenticatedUser → String
  refreshTokenLifetimeSeconds : ℤ
  accessTokenLifetimeSeconds : ℤ

/-- The families, by their identifier. -/
abbrev Families := Table RefreshTokenFamily.id

section Repository

/-- The condition of a rotation: the family still shows the token presented. -/
abbrev Rotatable (id expectedJti : Uuid) (family : RefreshTokenFamily) : Prop :=
  family.id = id ∧ family.currentJti = expectedJti ∧ family.status = .active

structure RotateRefreshTokenFamilyParams where
  id : Uuid
  expectedJti : Uuid
  newJti : Uuid
  expiresAt : Time
  deriving DecidableEq

/-- Whether one row was changed, and the families after it. -/
def rotate (families : Families) (params : RotateRefreshTokenFamilyParams) : Bool × Families :=
  (families.affected (Rotatable params.id params.expectedJti) = 1,
    families.update (Rotatable params.id params.expectedJti)
      (fun family => { family with
        currentJti := params.newJti, expiresAt := params.expiresAt })
      fun _ => rfl)

/-- Revoke the active families that a condition picks. -/
def revokeWhere (families : Families) (picked : RefreshTokenFamily → Prop)
    [DecidablePred picked] (revokedAt : Time) : Families :=
  families.update (fun family => picked family ∧ family.status = .active)
    (fun family => { family with status := .revoked, revokedAt := some revokedAt })
    fun _ => rfl

/-- The families that such a statement revokes. -/
def revokedWhere (families : Families) (picked : RefreshTokenFamily → Prop)
    [DecidablePred picked] : List Uuid :=
  (families.rows.filter fun family => picked family ∧ family.status = .active).map
    RefreshTokenFamily.id

def revoke (families : Families) (id : Uuid) (revokedAt : Time) : Families :=
  revokeWhere families (fun family => family.id = id) revokedAt

def revokeAllForUser (families : Families) (userId : Uuid) (revokedAt : Time) : Families :=
  revokeWhere families (fun family => family.userId = userId) revokedAt

/-- The sessions of a user, but for one that may be kept. -/
abbrev Session (userId : Uuid) (keepSessionId : Option Uuid) (family : RefreshTokenFamily) :
    Prop :=
  family.userId = userId ∧ keepSessionId ≠ some family.id

def revokeSessions (families : Families) (userId : Uuid) (keepSessionId : Option Uuid)
    (revokedAt : Time) : Families :=
  revokeWhere families (Session userId keepSessionId) revokedAt

def markSessionMfaVerified (families : Families) (userId sessionId : Uuid) (verifiedAt : Time) :
    Families :=
  families.update
    (fun family => family.id = sessionId ∧ family.userId = userId ∧ family.status = .active)
    (fun family => { family with mfaVerifiedAt := some verifiedAt })
    fun _ => rfl

end Repository

section Service

/-- Why a family is revoked by a call that presents one of its tokens. -/
inductive ReuseReason where
  | revokedOrExpiredFamily
  | staleJti
  | rotationRace
  deriving DecidableEq

/-- How far a call has come, by the statement that it sends next. -/
inductive Stage where
  /-- The token is verified, and the family is read next. -/
  | verified (payload : RefreshTokenPayload)
  /-- The token is current, and the user is read next. -/
  | current (payload : RefreshTokenPayload) (family : RefreshTokenFamily) (now : Time)
  /-- The account is usable, and a new token is drawn next. -/
  | usable (payload : RefreshTokenPayload) (family : RefreshTokenFamily) (user : AppUser)
      (now : Time)
  /-- The family is rotated next. -/
  | rotating (payload : RefreshTokenPayload) (family : RefreshTokenFamily) (user : AppUser)
      (params : RotateRefreshTokenFamilyParams)
  /-- The roles and the scopes are read next, and the tokens signed. -/
  | rotated (payload : RefreshTokenPayload) (family : RefreshTokenFamily) (user : AppUser)
      (newJti : Uuid)
  /-- The family is revoked next, because of the token presented. -/
  | reuse (payload : RefreshTokenPayload) (family : RefreshTokenFamily) (reason : ReuseReason)
  /-- The family is revoked next, because its user is gone. -/
  | orphaned (payload : RefreshTokenPayload) (family : RefreshTokenFamily) (now : Time)
  /-- The call has returned or thrown. -/
  | finished (result : Except ErrorCode RefreshOutcome)

/-- The first lines: a call without a token, or with one that does not verify, is refused. -/
def begin (tokens : TokenService) (refreshToken : Option String) : Stage :=
  match refreshToken.bind tokens.verifyRefreshToken with
  | none => .finished (.error .tokenExpired)
  | some payload => .verified payload

/-- The checks on the family that was read. -/
def afterFamily (payload : RefreshTokenPayload) (now : Time) :
    Option RefreshTokenFamily → Stage
  | none => .finished (.error .tokenExpired)
  | some family =>
    if family.status = .revoked ∨ family.expiresAt ≤ now then
      .reuse payload family .revokedOrExpiredFamily
    else if family.currentJti ≠ payload.jti then .reuse payload family .staleJti
    else .current payload family now

def isInvitationExpired (expiresAt : Option Time) (now : Time) : Bool :=
  match expiresAt with
  | none => false
  | some expiry => expiry ≤ now

def assertAccountUsable (user : AppUser) (now : Time) : Except ErrorCode Unit :=
  if user.status = .suspended then .error .userSuspended
  else if user.status = .inactive then .error .userInactive
  else if user.status = .pendingActivation ∧ ¬user.mustChangePassword then .error .userInactive
  else if user.mustChangePassword ∧ isInvitationExpired user.invitationExpiresAt now then
    .error .invitationExpired
  else .ok ()

/-- The checks on the user that was read. The second clock is that of the invitation. -/
def afterUser (payload : RefreshTokenPayload) (family : RefreshTokenFamily)
    (now checkedAt : Time) : Option AppUser → Stage
  | none => .orphaned payload family now
  | some user =>
    match assertAccountUsable user checkedAt with
    | .error code => .finished (.error code)
    | .ok () => .usable payload family user now

def refreshExpiryFrom (tokens : TokenService) (now : Time) : Time :=
  now + tokens.refreshTokenLifetimeSeconds * 1000

/-- What the rotation will ask for, with the token that was drawn. -/
def afterDraw (tokens : TokenService) (payload : RefreshTokenPayload)
    (family : RefreshTokenFamily) (user : AppUser) (now : Time) (newJti : Uuid) : Stage :=
  .rotating payload family user {
    id := family.id
    expectedJti := payload.jti
    newJti := newJti
    expiresAt := refreshExpiryFrom tokens now }

/-- Where a rotation that did or did not change the row leads. -/
def afterRotate (payload : RefreshTokenPayload) (family : RefreshTokenFamily) (user : AppUser)
    (newJti : Uuid) (rotated : Bool) : Stage :=
  if rotated then .rotated payload family user newJti else .reuse payload family .rotationRace

def toAuthenticatedUser (user : AppUser) (roles : List String) (scopes : List TokenScope)
    (sessionId : Option Uuid) : AuthenticatedUser where
  id := user.id
  personId := user.personId
  username := user.username
  roles := roles
  scopes := scopes
  mustChangePassword := user.mustChangePassword
  sessionId := sessionId

/-- The answer of a call that has rotated. -/
def issue (tokens : TokenService) (family : RefreshTokenFamily) (user : AppUser) (newJti : Uuid)
    (roles : List String) (scopes : List TokenScope) : RefreshOutcome where
  response := {
    accessToken := tokens.signAccessToken (toAuthenticatedUser user roles scopes family.id)
    expiresIn := tokens.accessTokenLifetimeSeconds }
  refreshToken := tokens.signRefreshToken user.id family.id newJti

end Service

/-- What has happened to the families. -/
inductive Event where
  /-- A login opened a family. -/
  | opened (familyId jti : Uuid)
  /-- A call exchanged the token of a family for another. -/
  | rotated (call : ℕ) (familyId expectedJti newJti : Uuid)
  /-- A call revoked a family because of the token it presented. -/
  | reused (call : ℕ) (familyId presentedJti : Uuid) (reason : ReuseReason)
  /-- Families were revoked for another reason. -/
  | revoked (familyIds : List Uuid)
  /-- A call answered with a new token. -/
  | answered (call : ℕ) (payload : RefreshTokenPayload) (newJti : Uuid)

/-- The store, the calls in progress, the identifiers drawn and what has happened. -/
structure System where
  families : Families
  users : List AppUser
  calls : ℕ → Option Stage
  drawn : List Uuid
  history : List Event

/-- Before the first login. -/
def System.start (users : List AppUser) : System where
  families := Table.empty
  users := users
  calls := fun _ => none
  drawn := []
  history := []

def System.findUser (system : System) (id : Uuid) : Option AppUser :=
  system.users.find? fun user => user.id = id

/-- Put a call in a stage. -/
def System.at (system : System) (call : ℕ) (stage : Stage) : System :=
  { system with calls := Function.update system.calls call (some stage) }

/-- The family that a login opens. -/
def openedFamily (userId familyId jti : Uuid) (expiresAt : Time) (mfaVerifiedAt : Option Time) :
    RefreshTokenFamily where
  id := familyId
  userId := userId
  status := .active
  currentJti := jti
  expiresAt := expiresAt
  revokedAt := none
  mfaVerifiedAt := mfaVerifiedAt

/-- A step of a call or of another service. Every clock reading is arbitrary,
and every identifier drawn is one that was never drawn before. -/
inductive Step (tokens : TokenService) (system : System) : System → Prop
  | began (call : ℕ) (refreshToken : Option String) (hcall : system.calls call = none) :
      Step tokens system (system.at call (begin tokens refreshToken))
  | familyRead (call : ℕ) (payload : RefreshTokenPayload) (now : Time)
      (hcall : system.calls call = some (.verified payload)) :
      Step tokens system (system.at call
        (afterFamily payload now (system.families.find? payload.familyId)))
  | userRead (call : ℕ) (payload : RefreshTokenPayload) (family : RefreshTokenFamily)
      (now checkedAt : Time) (hcall : system.calls call = some (.current payload family now)) :
      Step tokens system (system.at call
        (afterUser payload family now checkedAt (system.findUser payload.sub)))
  | drew (call : ℕ) (payload : RefreshTokenPayload) (family : RefreshTokenFamily)
      (user : AppUser) (now : Time) (newJti : Uuid)
      (hcall : system.calls call = some (.usable payload family user now))
      (hfresh : newJti ∉ system.drawn) :
      Step tokens system
        { system.at call (afterDraw tokens payload family user now newJti) with
          drawn := newJti :: system.drawn }
  | rotated (call : ℕ) (payload : RefreshTokenPayload) (family : RefreshTokenFamily)
      (user : AppUser) (params : RotateRefreshTokenFamilyParams)
      (hcall : system.calls call = some (.rotating payload family user params)) :
      Step tokens system
        { system.at call
            (afterRotate payload family user params.newJti (rotate system.families params).1) with
          families := (rotate system.families params).2
          history := if (rotate system.families params).1 then
              system.history ++ [.rotated call params.id params.expectedJti params.newJti]
            else system.history }
  | reused (call : ℕ) (payload : RefreshTokenPayload) (family : RefreshTokenFamily)
      (reason : ReuseReason) (revokedAt : Time)
      (hcall : system.calls call = some (.reuse payload family reason)) :
      Step tokens system
        { system.at call (.finished (.error .tokenExpired)) with
          families := revoke system.families family.id revokedAt
          history := system.history ++ [.reused call family.id payload.jti reason] }
  | orphaned (call : ℕ) (payload : RefreshTokenPayload) (family : RefreshTokenFamily)
      (now : Time) (hcall : system.calls call = some (.orphaned payload family now)) :
      Step tokens system
        { system.at call (.finished (.error .tokenExpired)) with
          families := revoke system.families family.id now
          history := system.history ++
            [.revoked (revokedWhere system.families fun row => row.id = family.id)] }
  | answered (call : ℕ) (payload : RefreshTokenPayload) (family : RefreshTokenFamily)
      (user : AppUser) (newJti : Uuid) (roles : List String) (scopes : List TokenScope)
      (hcall : system.calls call = some (.rotated payload family user newJti)) :
      Step tokens system
        { system.at call (.finished (.ok (issue tokens family user newJti roles scopes))) with
          history := system.history ++ [.answered call payload newJti] }
  | stopped (call : ℕ) (code : ErrorCode) (stage : Stage)
      (hcall : system.calls call = some stage) (hstage : ∀ result, stage ≠ .finished result) :
      Step tokens system (system.at call (.finished (.error code)))
  | loggedIn (userId familyId jti : Uuid) (expiresAt : Time) (mfaVerifiedAt : Option Time)
      (families : Families) (hid : familyId ∉ system.drawn) (hjti : jti ∉ familyId :: system.drawn)
      (hinsert : system.families.insert
        (openedFamily userId familyId jti expiresAt mfaVerifiedAt) = some families) :
      Step tokens system { system with
        families := families
        drawn := jti :: familyId :: system.drawn
        history := system.history ++ [.opened familyId jti] }
  | revokedAll (userId : Uuid) (revokedAt : Time) :
      Step tokens system { system with
        families := revokeAllForUser system.families userId revokedAt
        history := system.history ++
          [.revoked (revokedWhere system.families fun family => family.userId = userId)] }
  | revokedSessions (userId : Uuid) (keepSessionId : Option Uuid) (revokedAt : Time) :
      Step tokens system { system with
        families := revokeSessions system.families userId keepSessionId revokedAt
        history := system.history ++
          [.revoked (revokedWhere system.families (Session userId keepSessionId))] }
  | mfaVerified (userId sessionId : Uuid) (verifiedAt : Time) :
      Step tokens system
        { system with
          families := markSessionMfaVerified system.families userId sessionId verifiedAt }
  | usersChanged (users : List AppUser) : Step tokens system { system with users := users }

/-- The systems that steps lead to from before the first login. -/
def Reachable (tokens : TokenService) (system : System) : Prop :=
  ∃ users, Relation.ReflTransGen (Step tokens) (.start users) system

end InternalControl.RefreshTokens
