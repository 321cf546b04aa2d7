import UniTrack.Models.Accounts
import UniTrack.Models.Commerce

/-!
# Tokens (`app/core/security.py`)

What a token has to say before a route trusts it. Signatures, expiry and the
reading of a uuid belong to libraries and are parameters; what they let
through is checked here.
-/

namespace UniTrack

open UniTrack.Framework UniTrack.Python

inductive TokenType where
  | access
  | refresh
  | emailVerify
  | passwordReset
deriving DecidableEq

def TokenType.value : TokenType → Text
  | .access => "access".toList
  | .refresh => "refresh".toList
  | .emailVerify => "email_verify".toList
  | .passwordReset => "password_reset".toList

/-- The claims of a payload that are read; a missing one is `none`. -/
structure Payload where
  sub : Option Text
  type : Option Text
  jti : Option Text
  exp : Option Int
deriving DecidableEq

/-- What reading a token takes from libraries. -/
structure Jwt where
  /-- `jwt.decode` with the signing secret, at an instant; `none` is the `InvalidTokenError` -/
  decode : Instant → Text → Option Payload
  /-- `uuid.UUID(text)`; `none` is the `ValueError` -/
  readUuid : Text → Option UserId
  /-- a token that decodes at two instants says the same at both -/
  stable : ∀ {now now' : Instant} {token : Text} {p p' : Payload},
    decode now token = some p → decode now' token = some p' → p = p'

/-! ## Making one -/

/-- The payload of `_create_token`. -/
structure NewToken where
  sub : Text
  role : UserRole
  type : TokenType
  /-- so that it can be revoked on its own -/
  jti : Text
  iat : Instant
  exp : Instant
deriving DecidableEq

def createToken (sub : Text) (role : UserRole) (type : TokenType) (ttl : ℚ) (now : Instant)
    (jti : Text) : NewToken :=
  ⟨sub, role, type, jti, now, now + ttl⟩

/-- `EMAIL_VERIFY_TTL`, two days. -/
def emailVerifyTtl : ℚ := 2 * 24 * 60 * 60

/-- `PASSWORD_RESET_TTL`, one hour. -/
def passwordResetTtl : ℚ := 60 * 60

def createEmailVerifyToken (sub : Text) (role : UserRole) (now : Instant) (jti : Text) :
    NewToken := createToken sub role .emailVerify emailVerifyTtl now jti

def createPasswordResetToken (sub : Text) (role : UserRole) (now : Instant) (jti : Text) :
    NewToken := createToken sub role .passwordReset passwordResetTtl now jti

/-- What making a token takes from libraries. -/
structure TokenSigner where
  /-- `jwt.encode` with the signing secret -/
  encode : NewToken → Text
  /-- `str(user_id)` -/
  strUuid : UserId → Text

/-! ## Reading one -/

/-- The claims of a token that was accepted: it can be revoked. -/
structure Claims where
  sub : Option Text
  jti : Text
  exp : Option Int
  revocable : jti ≠ []
deriving DecidableEq

/-- `decode_token`; `none` is the `InvalidTokenError`. -/
def decodeToken (jwt : Jwt) (now : Instant) (token : Text) (expected : TokenType) :
    Option Claims :=
  match jwt.decode now token with
  | none => none
  | some payload =>
      if payload.type ≠ some expected.value then none
      else match payload.jti with
        | none => none
        | some jti =>
            if h : jti ≠ [] then some ⟨payload.sub, jti, payload.exp, h⟩
            -- predates revocation, so nothing could revoke it
            else none

/-- A token of the expected type and the user it names: what the routes that
consume a token begin with. -/
def readToken (jwt : Jwt) (now : Instant) (token : Text) (expected : TokenType) :
    Option (Claims × UserId) :=
  match decodeToken jwt now token expected with
  | none => none
  | some claims => (claims.sub.bind jwt.readUuid).map fun userId => (claims, userId)

/-- `jwt.decode` rejects a token from its `exp` on. -/
def Jwt.RejectsExpired (jwt : Jwt) : Prop :=
  ∀ now token p exp, jwt.decode now token = some p → p.exp = some exp → now < (exp : ℚ)

/-- What an accepted token says is its payload. -/
theorem decodeToken_payload {jwt : Jwt} {now : Instant} {token : Text} {expected : TokenType}
    {claims : Claims} (h : decodeToken jwt now token expected = some claims) :
    ∃ p, jwt.decode now token = some p ∧ p.sub = claims.sub ∧ p.jti = some claims.jti ∧
      p.exp = claims.exp := by
  unfold decodeToken at h
  split at h
  · cases h
  · rename_i p hp
    split at h
    · cases h
    · split at h
      · cases h
      · rename_i jti hjti
        split at h
        · cases h
          exact ⟨p, hp, rfl, hjti, rfl⟩
        · cases h

/-- Whichever type is expected, an accepted token says the same. -/
theorem decodeToken_unique {jwt : Jwt} {now now' : Instant} {token : Text}
    {expected expected' : TokenType} {claims claims' : Claims}
    (h : decodeToken jwt now token expected = some claims)
    (h' : decodeToken jwt now' token expected' = some claims') : claims = claims' := by
  obtain ⟨p, hp, hsub, hjti, hexp⟩ := decodeToken_payload h
  obtain ⟨p', hp', hsub', hjti', hexp'⟩ := decodeToken_payload h'
  obtain rfl := jwt.stable hp hp'
  obtain ⟨sub, jti, exp, hrevocable⟩ := claims
  obtain ⟨sub', jti', exp', hrevocable'⟩ := claims'
  simp only at hsub hjti hexp hsub' hjti' hexp'
  obtain rfl := hsub.symm.trans hsub'
  obtain rfl := Option.some.inj (hjti.symm.trans hjti')
  obtain rfl := hexp.symm.trans hexp'
  rfl

theorem readToken_stable {jwt : Jwt} {now now' : Instant} {token : Text} {expected : TokenType}
    {read read' : Claims × UserId} (h : readToken jwt now token expected = some read)
    (h' : readToken jwt now' token expected = some read') : read = read' := by
  unfold readToken at h h'
  cases hd : decodeToken jwt now token expected with
  | none => rw [hd] at h; cases h
  | some claims =>
      cases hd' : decodeToken jwt now' token expected with
      | none => rw [hd'] at h'; cases h'
      | some claims' =>
          obtain rfl := decodeToken_unique hd hd'
          rw [hd] at h
          rw [hd'] at h'
          exact Option.some.inj (h.symm.trans h')

end UniTrack
