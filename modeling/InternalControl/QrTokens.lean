import InternalControl.Assets
import InternalControl.Interleaving
import Mathlib.Order.Basic

/-!
# Tokens in QR codes

An asset carries one signed token and its version. Issuing and revoking read
the asset, compute the version from what they read, and write it later in a
transaction that locks the row. A token is accepted when the row carries a
token and the version of the presented one. When a version is not above the
one it replaces, a revoked or replaced token is accepted again.
-/

namespace InternalControl.QrTokens

open Interleaving

abbrev Uuid := String

/-- What a token says. -/
structure QrPayload where
  assetId : Uuid
  tokenVersion : ℕ
  jti : String
  deriving DecidableEq, Repr

/-- Signing a payload, and reading the payload of a text with a valid signature. -/
structure Jwt (Token : Type) where
  sign : QrPayload → Token
  decode : Token → Option QrPayload

/-- A signed token reads as what was signed. -/
def Jwt.Lawful {Token : Type} (jwt : Jwt Token) : Prop :=
  ∀ payload, jwt.decode (jwt.sign payload) = some payload

/-- The columns of an asset that a token depends on. -/
structure Asset (Token : Type) where
  id : Uuid
  costCenterId : Uuid
  operationalStatus : Assets.OperationalStatus
  qrToken : Option Token
  qrTokenVersion : ℕ
  qrSignedAt : Option ℤ
  qrSignedBy : Option Uuid
  deriving DecidableEq

inductive RotationAction
  | issued
  | revoked
  deriving DecidableEq, Repr

/-- A row of `qr_token_rotation_log`. -/
structure QrTokenRotationLog where
  assetId : Uuid
  tokenVersion : ℕ
  jti : String
  action : RotationAction
  performedBy : Uuid
  createdAt : ℤ
  deriving DecidableEq, Repr

/-- The row of the asset and the log of its rotations. -/
structure Store (Token : Type) where
  asset : Asset Token
  rotations : List QrTokenRotationLog

inductive ErrorCode
  | qrAssetWrittenOff
  | qrTokenInvalid
  | qrVersionMismatch
  | resourceNotFound
  deriving DecidableEq, Repr

/-- The largest value of the column of the version. -/
def maxSmallint : ℕ := 32767

/-- What a request will write, computed from the asset it has read. -/
inductive Change (Token : Type)
  | issue (token : Token) (version : ℕ) (jti : String) (actorId : Uuid) (signedAt : ℤ)
  | revoke (version : ℕ) (jti : String) (actorId : Uuid) (createdAt : ℤ)
  deriving DecidableEq

namespace Change

variable {Token : Type}

def version : Change Token → ℕ
  | issue _ version _ _ _ => version
  | revoke version _ _ _ => version

/-- Only an issue looks at the asset again under the lock. -/
def guard (asset : Asset Token) : Change Token → Except ErrorCode Unit
  | issue .. => if asset.operationalStatus = .writtenOff then .error .qrAssetWrittenOff else .ok ()
  | revoke .. => .ok ()

/-- The columns that the change patches. -/
def patch (asset : Asset Token) : Change Token → Asset Token
  | issue token version _ actorId signedAt =>
    { asset with
      qrToken := some token
      qrTokenVersion := version
      qrSignedAt := some signedAt
      qrSignedBy := some actorId }
  | revoke version _ _ _ =>
    { asset with
      qrToken := none
      qrTokenVersion := version
      qrSignedAt := none
      qrSignedBy := none }

def rotation (assetId : Uuid) : Change Token → QrTokenRotationLog
  | issue _ version jti actorId signedAt => ⟨assetId, version, jti, .issued, actorId, signedAt⟩
  | revoke version jti actorId createdAt => ⟨assetId, version, jti, .revoked, actorId, createdAt⟩

/-- The transaction of a change, under the lock of the row. -/
def apply (store : Store Token) (change : Change Token) : Except ErrorCode (Store Token) :=
  match change.guard store.asset with
  | .error code => .error code
  | .ok () => .ok ⟨change.patch store.asset,
      store.rotations ++ [change.rotation store.asset.id]⟩

end Change

section Requests

variable {Token : Type} (jwt : Jwt Token)

/-- Read the asset and sign its next token. -/
def issue (asset : Asset Token) (actorId : Uuid) (jti : String) (signedAt : ℤ) :
    Except ErrorCode (Change Token) :=
  if asset.operationalStatus = .writtenOff then .error .qrAssetWrittenOff
  else
    let nextVersion := asset.qrTokenVersion + if asset.qrToken.isSome then 1 else 0
    let version := if asset.qrToken.isSome then nextVersion else asset.qrTokenVersion
    .ok (.issue (jwt.sign ⟨asset.id, version, jti⟩) version jti actorId signedAt)

/-- Read the asset and compute the version that no token carries. -/
def revoke (asset : Asset Token) (actorId : Uuid) (jti : String) (createdAt : ℤ) :
    Except ErrorCode (Change Token) :=
  if asset.qrToken.isNone then .error .resourceNotFound
  else .ok (.revoke (asset.qrTokenVersion + 1) jti actorId createdAt)

/-- The asset a token names, when its version is the one of the asset. -/
def assetIdFromToken (asset : Asset Token) (token : Token) : Option Uuid :=
  match jwt.decode token with
  | none => none
  | some payload =>
    if payload.assetId = asset.id ∧ asset.qrToken.isSome ∧ asset.qrTokenVersion = payload.tokenVersion
    then some asset.id else none

/-- The costs centres a caller may read assets of. -/
inductive CostCenterScope
  | global
  | costCenters (ids : List Uuid)
  | none
  deriving DecidableEq, Repr

def CostCenterScope.covers (costCenterId : Uuid) : CostCenterScope → Bool
  | global => true
  | costCenters ids => ids.contains costCenterId
  | none => false

/-- Verify a token that a caller presents. -/
def verify (asset : Asset Token) (token : Token) (scope : CostCenterScope) : Except ErrorCode ℕ :=
  match jwt.decode token with
  | none => .error .qrTokenInvalid
  | some payload =>
    if payload.assetId ≠ asset.id then .error .qrTokenInvalid
    else if scope.covers asset.costCenterId = false then .error .qrTokenInvalid
    else if payload.tokenVersion ≠ asset.qrTokenVersion ∨ asset.qrToken.isNone then
      .error .qrVersionMismatch
    else .ok asset.qrTokenVersion

/-- A statement of a request on the asset, or the write of another service. -/
inductive Statement
  | issue (actorId : Uuid) (jti : String) (signedAt : ℤ)
  | revoke (actorId : Uuid) (jti : String) (createdAt : ℤ)
  | apply
  | otherWrite (operationalStatus : Assets.OperationalStatus) (costCenterId : Uuid)
  | crash
  deriving DecidableEq

/-- The statements of the service. A request that is refused writes nothing. -/
def program {ι : Type} : Program ι (Store Token) (Option (Change Token)) Statement
  | _, .issue actorId jti signedAt, store, none =>
    some (store, (issue jwt store.asset actorId jti signedAt).toOption)
  | _, .revoke actorId jti createdAt, store, none =>
    some (store, (revoke store.asset actorId jti createdAt).toOption)
  | _, .apply, store, some change =>
    match change.apply store with
    | .error _ => some (store, none)
    | .ok after => some (if change.version ≤ maxSmallint then after else store, none)
  | _, .otherWrite operationalStatus costCenterId, store, request =>
    some ({ store with asset := { store.asset with
      operationalStatus := operationalStatus, costCenterId := costCenterId } }, request)
  | _, .crash, store, _ => some (store, none)
  | _, _, _, _ => none

end Requests

end InternalControl.QrTokens
