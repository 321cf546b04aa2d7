import Mathlib.Tactic.Linarith
import UniTrack.Services.Boarding

/-!
# What a code can say

A payload is signed as one text, its four fields joined by full stops. Where
the ticket and the nonce contain none, the text determines the fields: so a
code that is accepted says what was signed, however it spells its numbers, and
what a device signs is what is read.

## §1 Fields and texts
## §2 Only what was signed
## §3 Slices
## §4 What is built is read
-/

namespace UniTrack

open UniTrack.Framework UniTrack.Python

/-! ## §1 Fields and texts -/

/-- The two texts of the payload contain no separator. -/
def QrPayload.Unbroken (payload : QrPayload) : Prop :=
  '.' ∉ payload.ticketId ∧ '.' ∉ payload.nonce

section
variable {payload payload' : QrPayload} {code signature : Text} {bytes : Bytes}

theorem split_join {fields : List Text} (h : ∀ field ∈ fields, '.' ∉ field) (hne : fields ≠ []) :
    split '.' (join '.' fields) = fields := List.splitOn_intercalate '.' h hne

/-- The fields that `signing_bytes` joins can be told apart again. -/
theorem QrPayload.Unbroken.signingBytes_injective (h : payload.Unbroken) (h' : payload'.Unbroken)
    (hsame : payload.signingBytes = payload'.signingBytes) : payload = payload' := by
  have hfields : ∀ p : QrPayload, p.Unbroken → split '.' p.signingBytes =
      [p.ticketId, decimal p.passengerCount, decimal p.timeSlice, p.nonce] := by
    intro p hp
    apply split_join _ (List.cons_ne_nil _ _)
    simp only [List.mem_cons, List.not_mem_nil, or_false, forall_eq_or_imp, forall_eq]
    exact ⟨hp.1, dot_not_mem_decimal _, dot_not_mem_decimal _, hp.2⟩
  have hlists := (hfields payload h).symm.trans ((congrArg (split '.') hsame).trans
    (hfields payload' h'))
  simp only [List.cons.injEq, and_true] at hlists
  obtain ⟨hticket, hcount, hslice, hnonce⟩ := hlists
  obtain ⟨ticketId, passengerCount, timeSlice, nonce⟩ := payload
  obtain ⟨ticketId', passengerCount', timeSlice', nonce'⟩ := payload'
  obtain rfl := hticket
  obtain rfl := hnonce
  obtain rfl := decimal_injective hcount
  obtain rfl := decimal_injective hslice
  rfl

/-- A field of a split text contains no separator. -/
theorem dot_not_mem_split {text field : Text} (h : field ∈ split '.' text) : '.' ∉ field := by
  induction text generalizing field with
  | nil =>
      rw [split, List.splitOn_nil] at h
      rw [List.mem_singleton.mp h]
      exact List.not_mem_nil
  | cons c text ih =>
      rw [split, List.splitOn_cons_eq_if_modifyHead] at h
      split at h
      · rcases List.mem_cons.mp h with rfl | h
        · exact List.not_mem_nil
        · exact ih h
      · rename_i hc
        cases hrest : text.splitOn '.' with
        | nil => exact absurd hrest (List.splitOn_ne_nil _ _)
        | cons first rest =>
            rw [hrest] at h
            rcases List.mem_cons.mp h with rfl | h
            · -- the character goes to the front of the first field
              intro hdot
              rcases List.mem_cons.mp hdot with rfl | hdot
              · exact hc (beq_self_eq_true _)
              · refine ih ?_ hdot
                show _ ∈ text.splitOn '.'
                rw [hrest]
                exact List.mem_cons_self
            · apply ih
              show field ∈ text.splitOn '.'
              rw [hrest]
              exact List.mem_cons_of_mem _ h

/-- However the numbers of a code are spelled, its texts are unbroken. -/
theorem unbroken_of_parseQr (h : parseQr code = .ok (payload, bytes)) : payload.Unbroken := by
  unfold parseQr at h
  split at h
  · rename_i ticketId rawCount rawSlice nonce rawSignature hsplit
    have hticket : '.' ∉ ticketId := @dot_not_mem_split code _ (hsplit ▸ by simp)
    have hnonce : '.' ∉ nonce := @dot_not_mem_split code _ (hsplit ▸ by simp)
    split at h
    · split at h
      · cases h
      · split at h
        · cases h
        · cases h
          exact ⟨hticket, hnonce⟩
    · cases h
  · cases h

end

/-! ## §2 Only what was signed -/

/-- **A code is never accepted for anything but what was signed**: if a
signature under the key verifies only for the bytes of a signed payload, then
what a code is accepted for is one of these payloads, whatever its text and
whenever it is read. -/
theorem verified_of_signed (platform : Platform) (publicKey : Text) (signed : Set QrPayload)
    (hunbroken : ∀ p ∈ signed, p.Unbroken)
    (hsigned : ∀ key signature message, urlsafeB64decode publicKey = some key →
      platform.ed25519Verify key signature message = true →
      ∃ p ∈ signed, encode p.signingBytes = encode message)
    (code : Text) (now : Instant) (payload : QrPayload)
    (h : verifyQr platform code publicKey now = .ok payload) : payload ∈ signed := by
  obtain ⟨⟨signature, hparse, hmatches⟩, -⟩ := verifyQr_ok.mp h
  unfold signatureMatches at hmatches
  split at hmatches
  · cases hmatches
  · rename_i key hkey
    -- the signed bytes are rebuilt from what was parsed, and so spell the payload
    obtain ⟨p, hp, hbytes⟩ := hsigned key signature payload.signingBytes hkey hmatches
    have hsame : p = payload := (hunbroken p hp).signingBytes_injective (unbroken_of_parseQr hparse)
      (encode_injective hbytes)
    exact hsame ▸ hp

/-- The three payloads that were signed for the first ticket; one of their
codes is read. -/
theorem verified_of_signed_firstTicket :
    firstPayload ∈ ({firstPayload, longNoncePayload, thirdPayload} : Set QrPayload) :=
  verified_of_signed twoTicketPlatform firstTicketKey {firstPayload, longNoncePayload, thirdPayload}
    (by
      rintro p (rfl | rfl | rfl)
      · exact ⟨by decide +kernel, by decide +kernel⟩
      · exact ⟨by decide +kernel, by decide +kernel⟩
      · exact ⟨by decide +kernel, by decide +kernel⟩)
    (by
      intro key signature message hkey hverify
      have hother : urlsafeB64decode secondTicketKey ≠ urlsafeB64decode firstTicketKey := by
        decide +kernel
      simp only [twoTicketPlatform, signedBy, Bool.or_eq_true, Bool.and_eq_true, beq_iff_eq]
        at hverify
      rcases hverify with ((⟨⟨-, hmessage⟩, -⟩ | ⟨⟨hsecond, -⟩, -⟩) | ⟨⟨-, hmessage⟩, -⟩) |
        ⟨⟨-, hmessage⟩, -⟩
      · exact ⟨firstPayload, .inl rfl, congrArg encode hmessage⟩
      · exact absurd (hsecond.trans hkey.symm) hother
      · exact ⟨longNoncePayload, .inr (.inl rfl), congrArg encode hmessage⟩
      · exact ⟨thirdPayload, .inr (.inr rfl), congrArg encode hmessage⟩)
    firstCode codesMadeAt firstPayload (by decide +kernel)

/-! ## §3 Slices -/

/-- Half a minute apart, two clocks are in the same slice or in neighbours. -/
theorem slice_near {now t : Instant} (h : |now - t| ≤ 30) :
    |currentSlice now - currentSlice t| ≤ 1 := by
  obtain ⟨hlow, hhigh⟩ := abs_le.mp h
  have hnow : (currentSlice now : ℚ) ≤ now / 30 := Int.floor_le _
  have hnow' : now / 30 < currentSlice now + 1 := Int.lt_floor_add_one _
  have ht : (currentSlice t : ℚ) ≤ t / 30 := Int.floor_le _
  have ht' : t / 30 < currentSlice t + 1 := Int.lt_floor_add_one _
  have hahead : (currentSlice now : ℚ) < currentSlice t + 2 := by linarith
  have hbehind : (currentSlice t : ℚ) < currentSlice now + 2 := by linarith
  have hahead' : currentSlice now < currentSlice t + 2 := by exact_mod_cast hahead
  have hbehind' : currentSlice t < currentSlice now + 2 := by exact_mod_cast hbehind
  rw [abs_le]
  omega

/-- A minute apart, a whole slice lies between them. -/
theorem slice_far {now t : Instant} (h : 60 ≤ |now - t|) :
    2 ≤ |currentSlice now - currentSlice t| := by
  have hgap : ∀ early late : Instant, early + 60 ≤ late →
      currentSlice early + 2 ≤ currentSlice late := by
    intro early late hle
    apply Int.le_floor.mpr
    have hearly : (currentSlice early : ℚ) ≤ early / 30 := Int.floor_le _
    show ((currentSlice early + 2 : Int) : ℚ) ≤ late / 30
    push_cast
    linarith
  rcases le_abs.mp h with hlate | hearly
  · have := hgap t now (by linarith)
    exact le_trans (by omega) (le_abs_self _)
  · have := hgap now t (by linarith)
    exact le_trans (by omega) (neg_le_abs _)

/-- The slice of every moment that a clock can show is short enough to spell. -/
theorem slice_spelled {t : Instant} (h : |t| < maxDouble) :
    (currentSlice t).natAbs < 10 ^ maxStrDigits := by
  have hpow : ∀ k ≤ maxStrDigits, 2 ^ k < 10 ^ maxStrDigits := fun k hk =>
    (Nat.pow_le_pow_right (by decide) hk).trans_lt (Nat.pow_lt_pow_left (by decide) (by decide))
  have hmax : maxDouble = ((2 ^ 1024 : Nat) : ℚ) := (Nat.cast_pow 2 1024).symm
  rw [hmax] at h
  refine lt_of_le_of_lt ?_ (hpow 1024 (by decide))
  generalize (2 : Nat) ^ 1024 = bound at h
  obtain ⟨hlow, hhigh⟩ := abs_lt.mp h
  have hpositive : (0 : ℚ) ≤ (bound : ℚ) := Nat.cast_nonneg _
  have hfloor : (currentSlice t : ℚ) ≤ t / 30 := Int.floor_le _
  have hfloor' : t / 30 < currentSlice t + 1 := Int.lt_floor_add_one _
  have habove : (currentSlice t : ℚ) < bound + 1 := by linarith
  have hbelow : -(bound : ℚ) < currentSlice t + 1 := by linarith
  have habove' : currentSlice t < bound + 1 := by exact_mod_cast habove
  have hbelow' : -(bound : Int) < currentSlice t + 1 := by exact_mod_cast hbelow
  omega

/-! ## §4 What is built is read -/

/-- A key pair as `generate_keypair` makes it: the public half verifies
whatever the private half signs. -/
structure Ed25519Pair (platform : Platform) (signer : Signer) where
  privateBytes : Bytes
  publicBytes : Bytes
  verifies (message : Text) : ∃ signature,
    signer.ed25519Sign privateBytes message = some signature ∧
      platform.ed25519Verify publicBytes signature message = true

section
variable {platform : Platform} {signer : Signer} {payload : QrPayload} {code : Text}
  {signature : Bytes}

def Ed25519Pair.privateKey (pair : Ed25519Pair platform signer) : Text :=
  urlsafeB64encode pair.privateBytes

def Ed25519Pair.publicKey (pair : Ed25519Pair platform signer) : Text :=
  urlsafeB64encode pair.publicBytes

/-- What the device of a pair builds is the payload's code under its own
signature. -/
theorem Ed25519Pair.buildQr_some (pair : Ed25519Pair platform signer)
    (h : buildQr signer pair.privateKey payload = some code) : payload.Spelled ∧
    ∃ signature, signatureMatches platform pair.publicKey payload signature = true ∧
      code = payload.code (urlsafeB64encode signature) := by
  obtain ⟨signature, hsign, hverify⟩ := pair.verifies payload.signingBytes
  unfold buildQr at h
  rw [Ed25519Pair.privateKey, urlsafeB64decode_encode] at h
  dsimp only at h
  rw [hsign] at h
  split at h
  · cases h
  · rename_i hspelled
    refine ⟨not_not.mp hspelled, signature, ?_, (Option.some.inj h).symm⟩
    rw [signatureMatches, Ed25519Pair.publicKey, urlsafeB64decode_encode]
    exact hverify

theorem Ed25519Pair.buildQr_of_spelled (pair : Ed25519Pair platform signer)
    (h : payload.Spelled) : ∃ code, buildQr signer pair.privateKey payload = some code := by
  obtain ⟨signature, hsign, -⟩ := pair.verifies payload.signingBytes
  refine ⟨payload.code (urlsafeB64encode signature), ?_⟩
  unfold buildQr
  rw [Ed25519Pair.privateKey, urlsafeB64decode_encode]
  dsimp only
  rw [if_neg (not_not.mpr h), hsign, Option.map_some]

/-- The five fields of a code, where the texts contain no separator. -/
theorem QrPayload.Unbroken.split_code (h : payload.Unbroken) (signature : Bytes) :
    split '.' (payload.code (urlsafeB64encode signature)) =
      [payload.ticketId, decimal payload.passengerCount, decimal payload.timeSlice, payload.nonce,
        urlsafeB64encode signature] := by
  apply split_join _ (List.cons_ne_nil _ _)
  simp only [List.mem_cons, List.not_mem_nil, or_false, forall_eq_or_imp, forall_eq]
  exact ⟨h.1, dot_not_mem_decimal _, dot_not_mem_decimal _, h.2, dot_not_mem_urlsafeB64encode _⟩

/-- Only unbroken texts make a code of five fields. -/
theorem QrPayload.unbroken_of_split_code {a b c d e : Text}
    (h : split '.' (payload.code (urlsafeB64encode signature)) = [a, b, c, d, e]) :
    payload.Unbroken := by
  have hdots : ∀ field ∈ [a, b, c, d, e], field.count '.' = 0 := by
    intro field hfield
    rw [← h] at hfield
    exact List.count_eq_zero.mpr (dot_not_mem_split hfield)
  have hjoin : join '.' [a, b, c, d, e] = payload.code (urlsafeB64encode signature) := by
    rw [← h]
    exact List.intercalate_splitOn '.'
  -- four separators join five fields, and more could only come from the texts
  have hcount := congrArg (List.count '.') hjoin
  have hnumber : ∀ n : Int, (decimal n).count '.' = 0 :=
    fun n => List.count_eq_zero.mpr (dot_not_mem_decimal n)
  simp only [List.mem_cons, List.not_mem_nil, or_false, forall_eq_or_imp, forall_eq] at hdots
  simp [join, QrPayload.code, List.intercalate, hdots, hnumber] at hcount
  exact ⟨List.count_eq_zero.mp (by omega), List.count_eq_zero.mp (by omega)⟩

/-- A code with a group of an admissible size is parsed as it was written. -/
theorem parseQr_code (h : payload.Unbroken) (hspelled : payload.Spelled)
    (hlow : 1 ≤ payload.passengerCount) (hhigh : payload.passengerCount ≤ maxPassengers)
    (signature : Bytes) :
    parseQr (payload.code (urlsafeB64encode signature)) = .ok (payload, signature) := by
  unfold parseQr
  rw [h.split_code]
  simp only [parseInt_decimal hspelled.1, parseInt_decimal hspelled.2, urlsafeB64decode_encode,
    if_neg (not_lt.mpr hlow), if_neg (not_lt.mpr hhigh)]

/-- Whatever is parsed of a built code has the group that was written. -/
theorem parseQr_code_count {payload' : QrPayload} {signature' : Bytes} (hspelled : payload.Spelled)
    (h : parseQr (payload.code (urlsafeB64encode signature)) = .ok (payload', signature')) :
    payload'.passengerCount = payload.passengerCount := by
  unfold parseQr at h
  split at h
  · rename_i hsplit
    rw [(QrPayload.unbroken_of_split_code hsplit).split_code] at hsplit
    cases hsplit
    simp only [parseInt_decimal hspelled.1, parseInt_decimal hspelled.2, urlsafeB64decode_encode]
      at h
    split at h
    · cases h
    · split at h
      · cases h
      · cases h
        rfl
  · cases h

/-- A code that was signed for a group of an admissible size is read, or too old. -/
theorem verifyQr_code {publicKey : Text} (h : payload.Unbroken) (hspelled : payload.Spelled)
    (hlow : 1 ≤ payload.passengerCount) (hhigh : payload.passengerCount ≤ maxPassengers)
    (hmatches : signatureMatches platform publicKey payload signature = true) (now : Instant) :
    verifyQr platform (payload.code (urlsafeB64encode signature)) publicKey now =
      if Fresh now payload then .ok payload else .error ⟨"code has expired"⟩ := by
  unfold verifyQr
  rw [parseQr_code h hspelled hlow hhigh]
  simp only [hmatches, Bool.true_eq_false, if_false]
  by_cases hfresh : Fresh now payload
  · rw [if_pos hfresh, if_neg (not_not.mpr hfresh)]
  · rw [if_neg hfresh, if_pos hfresh]

theorem fresh_of_near {now t : Instant} (hslice : payload.timeSlice = currentSlice t)
    (h : |now - t| ≤ 30) : Fresh now payload := by
  show |currentSlice now - payload.timeSlice| ≤ 1
  rw [hslice]
  exact slice_near h

theorem stale_of_far {now t : Instant} (hslice : payload.timeSlice = currentSlice t)
    (h : 60 ≤ |now - t|) : ¬ Fresh now payload := by
  have hapart := slice_far h
  rw [← hslice] at hapart
  show ¬ |currentSlice now - payload.timeSlice| ≤ 1
  omega

/-- `str` writes every admissible group, and the slice of every instant. -/
theorem QrPayload.spelled_of_slice {t : Instant} (hlow : 1 ≤ payload.passengerCount)
    (hhigh : payload.passengerCount ≤ maxPassengers) (hslice : payload.timeSlice = currentSlice t)
    (ht : |t| < maxDouble) : payload.Spelled := by
  refine ⟨?_, hslice ▸ slice_spelled ht⟩
  have hsixty : payload.passengerCount ≤ 60 := hhigh
  have hlarge : (10 : Nat) ^ 2 ≤ 10 ^ maxStrDigits := Nat.pow_le_pow_right (by decide) (by decide)
  omega

/-- **What a device builds is what a helper reads, for as long as it is
fresh.** For every key pair: a code of one to sixty passengers, built for the
slice of an instant, reads as the payload that was signed up to half a minute
from that instant, and has expired a whole minute from it. A code for any other
number of passengers is refused at every moment. -/
theorem qr_round_trip (platform : Platform) (signer : Signer) (pair : Ed25519Pair platform signer)
    (payload : QrPayload) :
    (payload.Unbroken → ∀ t : Instant,
      1 ≤ payload.passengerCount → payload.passengerCount ≤ maxPassengers →
      payload.timeSlice = currentSlice t →
      (|t| < maxDouble → ∃ code, buildQr signer pair.privateKey payload = some code) ∧
      ∀ code, buildQr signer pair.privateKey payload = some code →
        (∀ now, |now - t| ≤ 30 → verifyQr platform code pair.publicKey now = .ok payload) ∧
        (∀ now, 60 ≤ |now - t| →
          verifyQr platform code pair.publicKey now = .error ⟨"code has expired"⟩)) ∧
    ((payload.passengerCount < 1 ∨ maxPassengers < payload.passengerCount) →
      ∀ code, buildQr signer pair.privateKey payload = some code →
        ∀ now, ∃ e, verifyQr platform code pair.publicKey now = .error e) := by
  constructor
  · intro hunbroken t hlow hhigh hslice
    refine ⟨?_, ?_⟩
    · intro ht
      exact pair.buildQr_of_spelled (QrPayload.spelled_of_slice hlow hhigh hslice ht)
    · intro code hbuilt
      obtain ⟨hspelled, signature, hmatches, rfl⟩ := pair.buildQr_some hbuilt
      have hread := verifyQr_code hunbroken hspelled hlow hhigh hmatches
      refine ⟨?_, ?_⟩
      · intro now hnear
        rw [hread, if_pos (fresh_of_near hslice hnear)]
      · intro now hfar
        rw [hread, if_neg (stale_of_far hslice hfar)]
  · intro hcount code hbuilt now
    obtain ⟨hspelled, signature, -, rfl⟩ := pair.buildQr_some hbuilt
    cases hread : verifyQr platform (payload.code (urlsafeB64encode signature)) pair.publicKey
      now with
    | error e => exact ⟨e, rfl⟩
    | ok payload' =>
        obtain ⟨⟨signature', hparse, -⟩, -⟩ := verifyQr_ok.mp hread
        have hbounds := parseQr_count hparse
        rw [parseQr_code_count hspelled hparse] at hbounds
        omega

end

/-- The private half of the first ticket's key. -/
def firstPrivateKey : Text :=
  ["zQKF8qsm5htCo_pM", "hpsyynrig_BbH0MB", "eAWVCtBqfDM="].flatMap String.toList

/-- A device that signs the first payload with that key, and what else it is
given with the text itself. -/
def deviceSigner : Signer where
  ed25519Sign _ message :=
    if message = firstPayload.signingBytes then urlsafeB64decode firstSignature
    else some (encode message)

/-- The signatures that verify are those the device makes. -/
def devicePlatform : Platform :=
  { twoTicketPlatform with
    ed25519Verify := fun _ signature message =>
      deviceSigner.ed25519Sign [] message == some signature }

def devicePair : Ed25519Pair devicePlatform deviceSigner where
  privateBytes := (urlsafeB64decode firstPrivateKey).getD []
  publicBytes := (urlsafeB64decode firstTicketKey).getD []
  verifies message := by
    have hsigned : ∃ signature, deviceSigner.ed25519Sign [] message = some signature := by
      by_cases hfirst : message = firstPayload.signingBytes
      · exact ⟨(urlsafeB64decode firstSignature).getD [], hfirst ▸ by decide +kernel⟩
      · exact ⟨encode message, if_neg hfirst⟩
    obtain ⟨signature, hsign⟩ := hsigned
    refine ⟨signature, hsign, ?_⟩
    show (deviceSigner.ed25519Sign [] message == some signature) = true
    rw [hsign]
    exact beq_self_eq_true _

/-- One passenger too many for any bus. -/
def crowdPayload : QrPayload :=
  { firstPayload with passengerCount := 61 }

def crowdCode : Text := crowdPayload.code (urlsafeB64encode (encode crowdPayload.signingBytes))

/-- The first payload, read at the two ends of its time and a minute before it
was made; and the code of a crowd. -/
theorem qr_round_trip_firstPayload :
    verifyQr devicePlatform firstCode devicePair.publicKey (codesMadeAt + 30) = .ok firstPayload ∧
    verifyQr devicePlatform firstCode devicePair.publicKey (codesMadeAt - 30) = .ok firstPayload ∧
    verifyQr devicePlatform firstCode devicePair.publicKey (codesMadeAt - 60) =
      .error ⟨"code has expired"⟩ ∧
    ∃ e, verifyQr devicePlatform crowdCode devicePair.publicKey codesMadeAt = .error e := by
  have hread := ((qr_round_trip devicePlatform deviceSigner devicePair firstPayload).1
    ⟨by decide +kernel, by decide +kernel⟩ codesMadeAt (by decide) (by decide)
    (by decide +kernel)).2 firstCode (by decide +kernel)
  refine ⟨hread.1 _ (by norm_num), hread.1 _ (by norm_num), hread.2 _ (by norm_num), ?_⟩
  exact (qr_round_trip devicePlatform deviceSigner devicePair crowdPayload).2
    (Or.inr (by decide)) crowdCode (by decide +kernel) codesMadeAt

end UniTrack
