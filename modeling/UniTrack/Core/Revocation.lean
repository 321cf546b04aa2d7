import Mathlib.Data.Rat.Floor
import UniTrack.Core.Security
import UniTrack.Framework.Expiry

/-!
# Revocation and rotation (`app/core/revocation.py`)

The deny list that makes a token killable before it expires, and the record of
what replaced a refresh token. The stored JSON of a pair is taken as the pair.
-/

namespace UniTrack

open UniTrack.Framework UniTrack.Python

/-- How long a rotated refresh token keeps returning its replacement. -/
def rotationGraceS : ℚ := 60

structure TokenPair where
  accessToken : Text
  refreshToken : Text
  tokenType : Text := "bearer".toList
  expiresIn : Int
deriving DecidableEq

/-- The keys `auth:revoked:{jti}` and `auth:rotated:{jti}`. -/
structure RevocationKeys where
  revoked : KeyValues Text Unit
  rotated : KeyValues Text TokenPair

/-- Nothing was ever revoked. -/
def RevocationKeys.empty : RevocationKeys where
  revoked := .empty Text Unit
  rotated := .empty Text TokenPair

/-- The `SET NX` of `claim_rotation`, and whether it won; `none` is the error it
raises when Redis fails. -/
def claimRotation (r : RevocationKeys) (now : Instant) (jti : Text) (pair : TokenPair)
    (redis : CallOutcome) : RevocationKeys × Option Bool :=
  if redis.applied then
    let (rotated, won) := r.rotated.setNx now jti pair rotationGraceS
    ({ r with rotated := rotated }, if redis.heard then some won else none)
  else (r, none)

/-- `recall_rotation`: a failure finds nothing. The read-back of
`claim_rotation` raises instead, which `refresh` takes for the same. -/
def recallRotation (r : RevocationKeys) (now : Instant) (jti : Text) (redis : CallOutcome) :
    Option TokenPair :=
  if redis.heard then r.rotated.get now jti else none

/-- `_ttl_seconds`: the clock is truncated, the lifetime floored at one. -/
def ttlSeconds (claims : Claims) (now : Instant) : Int :=
  max (claims.exp.getD 0 - ⌊now⌋) 1

/-- `revoke`; a failure is swallowed. -/
def revoke (r : RevocationKeys) (claims : Claims) (now : Instant) (redis : CallOutcome) :
    RevocationKeys :=
  if redis.applied then
    { r with revoked := r.revoked.set now claims.jti () (ttlSeconds claims now) }
  else r

/-- `is_revoked`, which fails open. -/
def isRevoked (r : RevocationKeys) (now : Instant) (jti : Text) (redis : CallOutcome) : Bool :=
  if redis.heard then r.revoked.live now jti else false

/-- `is_revoked_strict`, which fails closed. -/
def isRevokedStrict (r : RevocationKeys) (now : Instant) (jti : Text) (redis : CallOutcome) :
    Bool :=
  if redis.heard then r.revoked.live now jti else true

/-- A deny-list entry outlives the token. -/
theorem exp_le_deadline (claims : Claims) (now : Instant) :
    (claims.exp.getD 0 : ℚ) ≤ now + ttlSeconds claims now := by
  have hfloor : (⌊now⌋ : ℚ) ≤ now := Int.floor_le now
  have httl : claims.exp.getD 0 - ⌊now⌋ ≤ ttlSeconds claims now := le_max_left _ _
  have hcast : ((claims.exp.getD 0 - ⌊now⌋ : Int) : ℚ) ≤ ttlSeconds claims now :=
    Int.cast_le.mpr httl
  rw [Int.cast_sub] at hcast
  linarith

end UniTrack
