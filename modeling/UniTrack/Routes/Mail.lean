import UniTrack.Core.Redis
import UniTrack.Framework.Cooldown
import UniTrack.Python.Urls
import UniTrack.Routes.Auth

/-!
# Links by mail (`app/api/routes/auth.py`, `app/core/email.py`)

`resend_verification` and `forgot_password`: anybody may ask for a link, and it
is mailed to the address on file, once in a while. Both are cut at their read of
Postgres and at their one command to Redis.
-/

namespace UniTrack

open UniTrack.Framework UniTrack.Python

/-! ## The links -/

inductive LinkKind where
  | verification
  | passwordReset
deriving DecidableEq

/-- `verification_link` and `reset_link` differ in the page. -/
def LinkKind.page : LinkKind → Text
  | .verification => "/verify".toList
  | .passwordReset => "/reset-password".toList

/-- `verify_link_base`. -/
def verifyLinkBase (studentAppUrl publicBaseUrl : Text) : Text :=
  rstripSlash (if studentAppUrl = [] then publicBaseUrl else studentAppUrl)

def mailedLink (base : Text) (kind : LinkKind) (token : Text) : Text :=
  base ++ kind.page ++ '?' :: ("token".toList ++ '=' :: quote token)

def Email.verificationLink (base token : Text) : Text := mailedLink base .verification token

def Email.resetLink (base token : Text) : Text := mailedLink base .passwordReset token

/-! ## The requests -/

/-- A mail that was handed to the background. -/
structure SentLink where
  kind : LinkKind
  toAddress : Text
  name : Text
  token : Text
  sentAt : Instant
  /-- Redis granted the slot; else it failed, and the mail goes out all the same -/
  granted : Bool
deriving DecidableEq

structure MailStore where
  db : AccountsDb
  redis : KeyValues Text RedisValue
  clock : Instant
  /-- what was sent so far, in order -/
  sent : List SentLink

/-- `RESEND_COOLDOWN_S` and `RESET_COOLDOWN_S`. -/
def LinkKind.cooldownS : LinkKind → ℚ
  | .verification => 120
  | .passwordReset => 120

/-- `resend:{email}` and `reset:{email}`. -/
def LinkKind.slotKey (kind : LinkKind) (email : Text) : RedisKey :=
  match kind with
  | .verification => ⟨.resend, email⟩
  | .passwordReset => ⟨.reset, email⟩

/-- The accounts that are mailed a link of this kind. -/
def LinkKind.wanted : LinkKind → Account → Bool
  | .verification, user => user.status == .pendingEmail
  | .passwordReset, _ => true

/-- The answer, whatever is true of the address. -/
def LinkKind.accepted : LinkKind → Reply String
  | .verification => .ok "If that address needs confirming, a link is on its way."
  | .passwordReset => .ok "If that address has an account, a reset link is on its way."

/-- The `SET NX` of `_claim_resend` and `_claim_reset`, and whether it won;
`none` is the error that is taken for a win. -/
def LinkKind.claim (kind : LinkKind) (redis : KeyValues Text RedisValue) (now : Instant)
    (email : Text) (call : CallOutcome) : KeyValues Text RedisValue × Option Bool :=
  if call.applied then
    let (redis, won) := redis.setNx now (kind.slotKey email).text (.str "1".toList) kind.cooldownS
    (redis, if call.heard then some won else none)
  else (redis, none)

/-- The token of a link: of the account, for what the link is for. -/
def LinkKind.token (kind : LinkKind) (signer : TokenSigner) (user : Account) (now : Instant)
    (jti : Text) : Text :=
  signer.encode <| match kind with
    | .verification => createEmailVerifyToken (signer.strUuid user.id) user.role now jti
    | .passwordReset => createPasswordResetToken (signer.strUuid user.id) user.role now jti

/-- Where a request stands. -/
inductive LinkPhase where
  | arrived (kind : LinkKind) (email : Text)
  /-- there is somebody to mail; next is the slot -/
  | found (kind : LinkKind) (user : Account)
  | answered (reply : Reply String)

/-- What a step takes from outside: the clock, how its Redis command ends, and
the `jti` it would generate. -/
structure LinkInput where
  now : Instant
  redis : CallOutcome
  jti : Text

/-- One step of either request, at the clock of the store. -/
def linkStep (identity : Identity) (signer : TokenSigner) (s : MailStore) :
    LinkPhase → LinkInput → MailStore × LinkPhase
  | .arrived kind email, _ =>
      match s.db.byEmail (identity.lower email) with
      | none => (s, .answered kind.accepted)
      | some user =>
          if kind.wanted user then (s, .found kind user) else (s, .answered kind.accepted)
  | .found kind user, a =>
      let out := kind.claim s.redis s.clock user.email a.redis
      if out.2 = some false then ({ s with redis := out.1 }, .answered kind.accepted)
      else
        ({ s with
            redis := out.1
            sent := s.sent ++
              [⟨kind, user.email, user.name, kind.token signer user s.clock a.jti, s.clock,
                out.2.isSome⟩] },
          .answered kind.accepted)
  | .answered reply, _ => (s, .answered reply)

def resendVerification (email : Text) : LinkPhase := .arrived .verification email

def forgotPassword (email : Text) : LinkPhase := .arrived .passwordReset email

/-- The store at this instant, or where its clock stands if that is later. -/
def MailStore.tick (s : MailStore) (now : Instant) : MailStore :=
  { s with clock := max s.clock now }

def linkAdvance (identity : Identity) (signer : TokenSigner) (s : MailStore) (p : LinkPhase)
    (a : LinkInput) : MailStore × LinkPhase :=
  linkStep identity signer (s.tick a.now) p a

/-- What the rest of the program does: it leaves some accounts, or it puts
something under a key of its own. -/
inductive MailDisturbance where
  | accounts (db : AccountsDb)
  | redis (write : ForeignWrite [.resend, .reset])

def MailStore.disturb (s : MailStore) : MailDisturbance → MailStore
  | .accounts db => { s with db := db }
  | .redis write => { s with redis := write.apply s.redis }

/-- Any number of requests, and the rest of the program. -/
def mailStep (identity : Identity) (signer : TokenSigner) :
    World MailStore LinkPhase → (ℕ × LinkInput) ⊕ MailDisturbance → World MailStore LinkPhase :=
  amongStep (threadStep (linkAdvance identity signer)) (World.disturb MailStore.disturb)

end UniTrack
