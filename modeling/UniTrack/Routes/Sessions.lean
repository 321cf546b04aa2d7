import UniTrack.Core.Revocation
import UniTrack.Routes.Auth

/-!
# Refreshing a session, resetting a password (`app/api/routes/auth.py`)

`refresh`, `reset_password` and the guard of every other route, cut at every
call to Redis or to Postgres: one step of a request is what it does up to the
next of these calls. The clock, and what is drawn at random, come with the
step.
-/

namespace UniTrack

open UniTrack.Framework UniTrack.Python

/-- What the session routes share. -/
structure SessionStore where
  db : AccountsDb
  redis : RevocationKeys

/-! ## `get_access_claims` (`app/api/deps.py`) -/

/-- Where the guard of a request stands. -/
inductive AccessPhase where
  /-- not begun -/
  | arrived
  /-- the token is good; next is the deny list -/
  | decoded (claims : Claims)
  | answered (reply : Reply Claims)
deriving DecidableEq

def invalidToken : Reply Claims := .refused 401 "Invalid or expired token"

/-- One step of a guard that is given `token`. -/
def getAccessClaims (jwt : Jwt) (token : Text) (s : SessionStore) (now : Instant)
    (redis : CallOutcome) : AccessPhase → AccessPhase
  | .arrived =>
      match decodeToken jwt now token .access with
      | none => .answered invalidToken
      | some claims => .decoded claims
  | .decoded claims =>
      if isRevoked s.redis now claims.jti redis then .answered invalidToken
      else .answered (.ok claims)
  | .answered reply => .answered reply

/-! ## `reset_password` -/

/-- Where a reset request stands. -/
inductive ResetPhase where
  /-- not begun -/
  | arrived
  /-- the token is good; next is the deny list -/
  | decoded (claims : Claims) (userId : UserId)
  /-- not on the deny list; next is the user -/
  | unrevoked (claims : Claims) (userId : UserId)
  /-- next is the commit of the new hash -/
  | loaded (claims : Claims) (userId : UserId)
  /-- the password is changed; next is the revocation -/
  | changed (claims : Claims)
  | answered (reply : Reply Unit)
deriving DecidableEq

structure ResetInput where
  now : Instant
  redis : CallOutcome
  /-- the salted hash of the password the request asks for -/
  passwordHash : Text

def invalidReset : Reply Unit := .refused 400 "Invalid or expired reset link"

/-- One step of a request that presents `token`. -/
def resetPassword (jwt : Jwt) (token : Text) (s : SessionStore) :
    ResetPhase → ResetInput → SessionStore × ResetPhase
  | .arrived, a =>
      match readToken jwt a.now token .passwordReset with
      | none => (s, .answered invalidReset)
      | some (claims, userId) => (s, .decoded claims userId)
  | .decoded claims userId, a =>
      if isRevoked s.redis a.now claims.jti a.redis then (s, .answered invalidReset)
      else (s, .unrevoked claims userId)
  | .unrevoked claims userId, _ =>
      match s.db.get userId with
      | none => (s, .answered invalidReset)
      | some user => (s, .loaded claims user.id)
  | .loaded claims userId, a =>
      if AccountsDb.Fits AccountsDb.passwordHashWidth a.passwordHash then
        ({ s with db := s.db.setPassword userId a.passwordHash }, .changed claims)
      else (s, .answered .crashed)
  | .changed claims, a =>
      ({ s with redis := revoke s.redis claims a.now a.redis }, .answered (.ok ()))
  | .answered reply, _ => (s, .answered reply)

/-! ## `refresh` -/

/-- Where a refresh request stands. -/
inductive RefreshPhase where
  /-- not begun -/
  | arrived
  /-- the token is good; next is the deny list -/
  | decoded (claims : Claims) (userId : UserId)
  /-- on the deny list; next is the record of what replaced it -/
  | revoked (claims : Claims)
  /-- not on the deny list; next is the user -/
  | unrevoked (claims : Claims) (userId : UserId)
  /-- next the pair is minted -/
  | loaded (claims : Claims)
  /-- next is the `SET NX` of the claim -/
  | minted (claims : Claims) (pair : TokenPair)
  /-- the claim was lost; next the winner is read back -/
  | lost (claims : Claims) (pair : TokenPair)
  /-- `claim_rotation` returned `None`; next is the revocation -/
  | rotating (claims : Claims) (pair : TokenPair)
  | answered (reply : Reply TokenPair)
deriving DecidableEq

structure RefreshInput where
  now : Instant
  redis : CallOutcome
  /-- the two tokens the request would sign -/
  accessToken : Text
  refreshToken : Text

def invalidRefresh : Reply TokenPair := .refused 401 "Invalid or expired refresh token"

/-- `_issue_pair`. -/
def issuePair (accessTokenTtlMin : Int) (a : RefreshInput) : TokenPair where
  accessToken := a.accessToken
  refreshToken := a.refreshToken
  expiresIn := accessTokenTtlMin * 60

/-- One step of a request that presents `token`. -/
def refresh (jwt : Jwt) (accessTokenTtlMin : Int) (token : Text) (s : SessionStore) :
    RefreshPhase → RefreshInput → SessionStore × RefreshPhase
  | .arrived, a =>
      match readToken jwt a.now token .refresh with
      | none => (s, .answered invalidRefresh)
      | some (claims, userId) => (s, .decoded claims userId)
  | .decoded claims userId, a =>
      if isRevokedStrict s.redis a.now claims.jti a.redis then (s, .revoked claims)
      else (s, .unrevoked claims userId)
  | .revoked claims, a =>
      match recallRotation s.redis a.now claims.jti a.redis with
      | some replacement => (s, .answered (.ok replacement))
      | none => (s, .answered invalidRefresh)
  | .unrevoked claims userId, _ =>
      match s.db.get userId with
      | none => (s, .answered (.refused 401 "User not active"))
      | some user =>
          if user.status = .active then (s, .loaded claims)
          else (s, .answered (.refused 401 "User not active"))
  | .loaded claims, a => (s, .minted claims (issuePair accessTokenTtlMin a))
  | .minted claims pair, a =>
      match claimRotation s.redis a.now claims.jti pair a.redis with
      | (redis, some false) => ({ s with redis := redis }, .lost claims pair)
      | (redis, _) => ({ s with redis := redis }, .rotating claims pair)
  | .lost claims pair, a =>
      match recallRotation s.redis a.now claims.jti a.redis with
      | some winner => (s, .answered (.ok winner))
      -- the key is gone, and `None` is also how a caller learns that it won
      | none => (s, .rotating claims pair)
  | .rotating claims pair, a =>
      ({ s with redis := revoke s.redis claims a.now a.redis }, .answered (.ok pair))
  | .answered reply, _ => (s, .answered reply)

end UniTrack
