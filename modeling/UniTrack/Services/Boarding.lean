import Mathlib.Algebra.Order.Group.Int
import UniTrack.Models.UnitOfWork
import UniTrack.Python.Base64
import UniTrack.Python.Decimal

/-!
# The rotating boarding code (`app/services/boarding.py`)

What a code contains, how one is made and what makes one valid: the parser with
its error texts, and the check against a public key and a clock. Ed25519 itself,
and how the database driver reads a uuid, belong to other libraries and are
parameters.
-/

namespace UniTrack

open UniTrack.Framework UniTrack.Python

def sliceSeconds : ℚ := 30
def sliceTolerance : Int := 1
def maxPassengers : Int := 60

/-- What boarding takes from the libraries it uses. -/
structure Platform where
  /-- the uuid that a query parameter is read as, if it is one -/
  readUuid : Text → Option TicketId
  /-- `Ed25519PublicKey.from_public_bytes(key).verify(signature, message)` returns -/
  ed25519Verify : Bytes → Bytes → Text → Bool

/-- A malformed, unsigned, forged or stale code. -/
structure InvalidQr where
  message : String
deriving DecidableEq

structure QrPayload where
  ticketId : Text
  passengerCount : Int
  timeSlice : Int
  nonce : Text
deriving DecidableEq

/-- What gets signed, before it is encoded. -/
def QrPayload.signingBytes (payload : QrPayload) : Text :=
  join '.' [payload.ticketId, decimal payload.passengerCount, decimal payload.timeSlice,
    payload.nonce]

def currentSlice (unixSeconds : Instant) : Int := ⌊unixSeconds / sliceSeconds⌋

/-- The code of a payload with its encoded signature. -/
def QrPayload.code (payload : QrPayload) (signature : Text) : Text :=
  join '.' [payload.ticketId, decimal payload.passengerCount, decimal payload.timeSlice,
    payload.nonce, signature]

/-- `str` converts the two numbers. -/
def QrPayload.Spelled (payload : QrPayload) : Prop :=
  payload.passengerCount.natAbs < 10 ^ maxStrDigits ∧ payload.timeSlice.natAbs < 10 ^ maxStrDigits

instance (payload : QrPayload) : Decidable payload.Spelled := by
  unfold QrPayload.Spelled
  infer_instance

/-- The other half of Ed25519. -/
structure Signer where
  /-- `Ed25519PrivateKey.from_private_bytes(key).sign(message)`; `none` is the `ValueError` -/
  ed25519Sign : Bytes → Text → Option Bytes

/-- `build_qr`; `none` is a `ValueError`. -/
def buildQr (signer : Signer) (privateKey : Text) (payload : QrPayload) : Option Text :=
  match urlsafeB64decode privateKey with
  | none => none
  | some key =>
      if ¬ payload.Spelled then none
      else (signer.ed25519Sign key payload.signingBytes).map fun signature =>
        payload.code (urlsafeB64encode signature)

def parseQr (code : Text) : Except InvalidQr (QrPayload × Bytes) :=
  match split '.' code with
  | [ticketId, rawCount, rawSlice, nonce, rawSignature] =>
      match parseInt rawCount, parseInt rawSlice, urlsafeB64decode rawSignature with
      | some passengerCount, some timeSlice, some signature =>
          if passengerCount < 1 then .error ⟨"passenger count must be at least 1"⟩
          else if maxPassengers < passengerCount then
            .error ⟨s!"passenger count above the {maxPassengers} limit"⟩
          else .ok (⟨ticketId, passengerCount, timeSlice, nonce⟩, signature)
      | _, _, _ => .error ⟨"malformed code"⟩
  | _ => .error ⟨"malformed code"⟩

/-- The signature is the ticket's own. -/
def signatureMatches (platform : Platform) (publicKey : Text) (payload : QrPayload)
    (signature : Bytes) : Bool :=
  match urlsafeB64decode publicKey with
  | none => false
  | some key => platform.ed25519Verify key signature payload.signingBytes

/-- The code's slice is the current one or next to it. -/
def Fresh (nowUnix : Instant) (payload : QrPayload) : Prop :=
  |currentSlice nowUnix - payload.timeSlice| ≤ sliceTolerance

instance (nowUnix : Instant) (payload : QrPayload) : Decidable (Fresh nowUnix payload) := by
  unfold Fresh
  infer_instance

def verifyQr (platform : Platform) (code publicKey : Text) (nowUnix : Instant) :
    Except InvalidQr QrPayload :=
  match parseQr code with
  | .error e => .error e
  | .ok (payload, signature) =>
      if signatureMatches platform publicKey payload signature = false then
        .error ⟨"signature does not match this ticket"⟩
      else if ¬ Fresh nowUnix payload then .error ⟨"code has expired"⟩
      else .ok payload

/-- A parsed code is for one to sixty passengers. -/
theorem parseQr_count {code : Text} {payload : QrPayload} {signature : Bytes}
    (h : parseQr code = .ok (payload, signature)) :
    1 ≤ payload.passengerCount ∧ payload.passengerCount ≤ maxPassengers := by
  unfold parseQr at h
  split at h
  · split at h
    · split at h
      · cases h
      · rename_i hlow
        split at h
        · cases h
        · rename_i hhigh
          cases h
          exact ⟨not_lt.mp hlow, not_lt.mp hhigh⟩
    · cases h
  · cases h

/-- What a verified code is: genuine, whatever the clock, and fresh. -/
theorem verifyQr_ok {platform : Platform} {code publicKey : Text} {nowUnix : Instant}
    {payload : QrPayload} : verifyQr platform code publicKey nowUnix = .ok payload ↔
      (∃ signature, parseQr code = .ok (payload, signature) ∧
        signatureMatches platform publicKey payload signature = true) ∧
      Fresh nowUnix payload := by
  unfold verifyQr
  cases hparse : parseQr code with
  | error e => simp
  | ok parsed =>
      obtain ⟨payload', signature⟩ := parsed
      by_cases hsigned : signatureMatches platform publicKey payload' signature = false
      · simp only [if_pos hsigned]
        constructor
        · intro h
          cases h
        · rintro ⟨⟨signature', hok, hsigned'⟩, -⟩
          cases hok
          rw [hsigned] at hsigned'
          cases hsigned'
      · by_cases hfresh : Fresh nowUnix payload'
        · simp only [if_neg hsigned, not_not.mpr hfresh, if_false]
          constructor
          · intro h
            cases h
            exact ⟨⟨signature, rfl, by simpa using hsigned⟩, hfresh⟩
          · rintro ⟨⟨signature', hok, -⟩, -⟩
            cases hok
            rfl
        · simp only [if_neg hsigned, if_pos hfresh]
          constructor
          · intro h
            cases h
          · rintro ⟨⟨signature', hok, -⟩, hfresh'⟩
            cases hok
            exact absurd hfresh' hfresh

/-- The payload of a verified code is the one that the code spells out. -/
theorem verifyQr_payload_unique {platform : Platform} {code key key' : Text} {now now' : Instant}
    {payload payload' : QrPayload} (h : verifyQr platform code key now = .ok payload)
    (h' : verifyQr platform code key' now' = .ok payload') : payload = payload' := by
  obtain ⟨⟨signature, hparse, -⟩, -⟩ := verifyQr_ok.mp h
  obtain ⟨⟨signature', hparse', -⟩, -⟩ := verifyQr_ok.mp h'
  rw [hparse, Except.ok.injEq] at hparse'
  exact congrArg Prod.fst hparse'

/-- The field before the first separator, by which the ticket is looked up. -/
def codeHead (code : Text) : Text := (split '.' code).headD []

/-! ## Genuine codes of two tickets -/

def firstTicketUuid : Text := ["6f1c0e52-8f0e-4d6b-", "9a35-0c2f5b7d1a01"].flatMap String.toList
def secondTicketUuid : Text := ["6f1c0e52-8f0e-4d6b-", "9a35-0c2f5b7d1a02"].flatMap String.toList

def firstTicketKey : Text :=
  ["7OxPSjZ8E6GeoPDh", "9rq1guPeOW3z60xl", "8LBbzHeGB8o="].flatMap String.toList

def secondTicketKey : Text :=
  ["75opJB-5KcehTJfN", "7Bk_xs4A2CCpUxLP", "0uN2nPl-xRM="].flatMap String.toList

/-- One passenger on the first ticket. -/
def firstPayload : QrPayload where
  ticketId := firstTicketUuid
  passengerCount := 1
  timeSlice := 57000000
  nonce := "Zm9vYmFyYmF6cXV4MTIzNA".toList

def firstSignature : Text :=
  ["9m5yMqWqwHjiUG0B", "19ba-ZUVEZMFLdcc", "NmtG3Wh-xtCfnstE", "Mke4YQrX5tVmcJR2",
    "W3XNwm43sZKPEhrj", "Sq21Cg=="].flatMap String.toList

/-- Two passengers on the second ticket, under the same nonce. -/
def secondPayload : QrPayload where
  ticketId := secondTicketUuid
  passengerCount := 2
  timeSlice := 57000000
  nonce := firstPayload.nonce

def secondSignature : Text :=
  ["1obh6kOJfl8ORDGZ", "9Y0dnVFaUmxBp54U", "CbCOvkRZ1jr0mJEw", "opkNN8-rTwep2_UI",
    "HMuPB8okqrjxfMmz", "qu9cBg=="].flatMap String.toList

/-- One passenger on the first ticket, under a nonce of 65 characters. -/
def longNoncePayload : QrPayload :=
  { firstPayload with nonce := List.replicate 65 'n' }

def longNonceSignature : Text :=
  ["Ap_At4oXC-ssuFBc", "kL0o2DctcFxi7drM", "B73RbttCXzs07Ld_", "SXbpRVIo1LdZ05FY",
    "g7GBWsbHDgNxVStm", "BcvSAQ=="].flatMap String.toList

/-- Another passenger on the first ticket. -/
def thirdPayload : QrPayload :=
  { firstPayload with nonce := "cXV4YmF6YmFyZm9vNTY3OA".toList }

def thirdSignature : Text :=
  ["YqFTKJsU8pUG2YH8", "htO8JrNa6MMBLgmj", "y9Mv-IJYq92JXnz7", "T3PqCw7we7vFrd7j",
    "IrvMKWfebo0ZxOHE", "NbXpDQ=="].flatMap String.toList

def firstCode : Text := firstPayload.code firstSignature
def secondCode : Text := secondPayload.code secondSignature
def longNonceCode : Text := longNoncePayload.code longNonceSignature
def thirdCode : Text := thirdPayload.code thirdSignature

/-- The time at which the codes were made. -/
def codesMadeAt : Instant := 1710000000

/-- The encoded signature is the key's for the payload. -/
def signedBy (publicKey : Text) (payload : QrPayload) (encoded : Text) (key signature : Bytes)
    (message : Text) : Bool :=
  urlsafeB64decode publicKey == some key && payload.signingBytes == message &&
    urlsafeB64decode encoded == some signature

/-- A platform on which the two tickets have the keys 1 and 2, and the codes
above are what has been signed. -/
def twoTicketPlatform : Platform where
  readUuid text :=
    if text = firstTicketUuid then some 1
    else if text = secondTicketUuid then some 2
    else none
  ed25519Verify key signature message :=
    signedBy firstTicketKey firstPayload firstSignature key signature message ||
      signedBy secondTicketKey secondPayload secondSignature key signature message ||
      signedBy firstTicketKey longNoncePayload longNonceSignature key signature message ||
      signedBy firstTicketKey thirdPayload thirdSignature key signature message

example : verifyQr twoTicketPlatform firstCode firstTicketKey codesMadeAt =
      .ok firstPayload ∧
    verifyQr twoTicketPlatform firstCode firstTicketKey (codesMadeAt + 60) =
      .error ⟨"code has expired"⟩ ∧
    verifyQr twoTicketPlatform firstCode secondTicketKey codesMadeAt =
      .error ⟨"signature does not match this ticket"⟩ := by decide +kernel

end UniTrack
