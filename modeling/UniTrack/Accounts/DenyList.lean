import UniTrack.Accounts.SingleUse

/-!
# A revoked token at its expiry

The signature check refuses a token from its expiry on, and the deny list until
some moment after that, so at no instant does a revoked token pass both. But a
call makes the one check before the other. When the entry expires in between,
neither refuses the token.

## §1 Calls that present the token
## §2 The entry outlives the token
## §3 One step
## §4 Runs
-/

namespace UniTrack

open UniTrack.Framework UniTrack.Python

/-! ## §1 Calls that present the token -/

inductive SessionKind where
  | access
  | refresh
deriving DecidableEq

inductive SessionPhase where
  | access (phase : AccessPhase)
  | refresh (phase : RefreshPhase)
deriving DecidableEq

/-- A call, and the instant of its last step. -/
structure SessionCall where
  stepped : Instant
  phase : SessionPhase
deriving DecidableEq

def SessionKind.arrived : SessionKind → SessionPhase
  | .access => .access .arrived
  | .refresh => .refresh .arrived

/-- One step of a call that presents `token`. -/
def sessionCall (jwt : Jwt) (accessTokenTtlMin : Int) (token : Text) (s : SessionStore)
    (c : SessionCall) (a : RefreshInput) : SessionStore × SessionCall :=
  match c.phase with
  | .access p => (s, ⟨a.now, .access (getAccessClaims jwt token s a.now a.redis p)⟩)
  | .refresh p =>
      ((refresh jwt accessTokenTtlMin token s p a).1,
        ⟨a.now, .refresh (refresh jwt accessTokenTtlMin token s p a).2⟩)

inductive SessionStep where
  | call (thread : ℕ) (a : RefreshInput)
  /-- other requests change accounts, rotate tokens, and revoke one -/
  | elsewhere (db : AccountsDb) (rotated : KeyValues Text TokenPair) (claims : Claims)
      (now : Instant) (redis : CallOutcome)

def SessionStep.instant : SessionStep → Instant
  | .call _ a => a.now
  | .elsewhere _ _ _ now _ => now

def sessionStep (jwt : Jwt) (accessTokenTtlMin : Int) (token : Text)
    (w : World SessionStore SessionCall) : SessionStep → World SessionStore SessionCall
  | .call t a => threadStep (sessionCall jwt accessTokenTtlMin token) w (t, a)
  | .elsewhere db rotated claims now redis =>
      { w with store := ⟨db, revoke { w.store.redis with rotated := rotated } claims now redis⟩ }

/-- The token was revoked at `t` with Redis available, and then these calls
arrive. -/
def revokedAt (s : SessionStore) (claims : Claims) (t : Instant) (kinds : ℕ → SessionKind) :
    World SessionStore SessionCall where
  store := { s with redis := revoke s.redis claims t .done }
  threads i := ⟨t, (kinds i).arrived⟩

/-- No guard has let the token in, and no call mints a pair for it. -/
def ShutOut (w : World SessionStore SessionCall) : Prop :=
  ∀ i, (∀ claims, (w.threads i).phase ≠ .access (.answered (.ok claims))) ∧
    ∀ claims pair, (w.threads i).phase ≠ .refresh (.minted claims pair)

/-- The claims with which the call is about to look at the deny list. -/
def SessionPhase.looking? : SessionPhase → Option Claims
  | .access (.decoded claims) => some claims
  | .refresh (.decoded claims _) => some claims
  | _ => none

/-- The call looks at the deny list at the instant at which it checked the
signature, or at least before the entry expires. -/
def InTime (w : World SessionStore SessionCall) : SessionStep → Prop
  | .call i a => ∀ claims, (w.threads i).phase.looking? = some claims →
      a.now = (w.threads i).stepped ∨
        ∀ e, w.store.redis.revoked claims.jti = some e → a.now < e.deadline
  | .elsewhere .. => True

/-- Redis answers the calls, and a `jti` is that of one token. -/
def SessionStep.Sound (claims : Claims) : SessionStep → Prop
  | .call _ a => a.redis = .done
  | .elsewhere _ _ claims' _ _ => claims'.jti = claims.jti → claims'.exp = claims.exp

/-! ## §2 The entry outlives the token -/

section
variable {jwt : Jwt} {ttl : Int} {token : Text} {s : SessionStore} {claims claims' : Claims}
  {r : RevocationKeys} {now : Instant} {redis : CallOutcome}

/-- Another revocation keeps it so. -/
theorem Denied.revoke (h : Denied r claims)
    (hone : claims'.jti = claims.jti → claims'.exp = claims.exp) :
    Denied (revoke r claims' now redis) claims := by
  unfold UniTrack.revoke
  split
  · by_cases hjti : claims'.jti = claims.jti
    · have hself := KeyValues.set_self r.revoked now claims'.jti () (ttlSeconds claims' now)
      refine ⟨_, (congrArg _ hjti.symm).trans hself, ?_⟩
      rw [← hone hjti]
      exact exp_le_deadline claims' now
    · obtain ⟨e, he, hdeadline⟩ := h
      exact ⟨e, (KeyValues.set_of_ne fun hsame => hjti hsame.symm).trans he, hdeadline⟩
  · exact h

/-- What is read off the token before its expiry. -/
def ReadInTime (claims claims' : Claims) (stepped : Instant) : Prop :=
  claims' = claims ∧ stepped < claims.exp.getD 0

theorem readInTime_of_decode {now₀ : Instant} {expected expected' : TokenType} {exp : Int}
    (hexpires : jwt.RejectsExpired) (hread : decodeToken jwt now₀ token expected = some claims)
    (hexp : claims.exp = some exp) (h : decodeToken jwt now token expected' = some claims') :
    ReadInTime claims claims' now := by
  obtain rfl := decodeToken_unique h hread
  obtain ⟨p, hp, -, -, hsame⟩ := decodeToken_payload h
  refine ⟨rfl, ?_⟩
  rw [hexp, Option.getD_some]
  exact hexpires now token p exp hp (hsame.trans hexp)

theorem decode_of_read {userId : UserId} {expected : TokenType}
    (h : readToken jwt now token expected = some (claims, userId)) :
    decodeToken jwt now token expected = some claims := by
  unfold readToken at h
  split at h
  · cases h
  · rename_i read hread
    obtain ⟨id, -, hpair⟩ := Option.map_eq_some_iff.mp h
    cases hpair
    exact hread

/-! ## §3 One step -/

/-- How far the call has come: not past the deny list. -/
def SessionCall.Barred (claims : Claims) (c : SessionCall) : Prop :=
  match c.phase with
  | .access .arrived => True
  | .access (.decoded claims') => ReadInTime claims claims' c.stepped
  | .access (.answered reply) => ∀ claims', reply ≠ .ok claims'
  | .refresh .arrived => True
  | .refresh (.decoded claims' _) => ReadInTime claims claims' c.stepped
  | .refresh (.revoked _) => True
  | .refresh (.answered _) => True
  | .refresh _ => False

/-- The entry is there at the look. -/
theorem live_of_inTime {stepped : Instant} (h : Denied r claims)
    (hread : ReadInTime claims claims' stepped)
    (hintime : now = stepped ∨ ∀ e, r.revoked claims'.jti = some e → now < e.deadline) :
    r.revoked.live now claims'.jti = true := by
  obtain ⟨rfl, hfresh⟩ := hread
  obtain ⟨e, he, hdeadline⟩ := h
  refine KeyValues.live_iff.mpr ⟨e, he, ?_⟩
  rcases hintime with rfl | hbefore
  · -- the token is still valid at this instant, and the entry outlives it
    exact lt_of_lt_of_le hfresh hdeadline
  · exact hbefore e he

/-- **One step of a call**: it stays barred, and leaves the deny list alone. -/
theorem SessionCall.Barred.step {now₀ : Instant} {expected : TokenType} {exp : Int}
    {c : SessionCall} {a : RefreshInput} (h : c.Barred claims) (hexpires : jwt.RejectsExpired)
    (hread : decodeToken jwt now₀ token expected = some claims) (hexp : claims.exp = some exp)
    (hdenied : Denied s.redis claims) (hredis : a.redis = .done)
    (hintime : ∀ claims', c.phase.looking? = some claims' → a.now = c.stepped ∨
      ∀ e, s.redis.revoked claims'.jti = some e → a.now < e.deadline) :
    (sessionCall jwt ttl token s c a).2.Barred claims ∧
      (sessionCall jwt ttl token s c a).1 = s := by
  obtain ⟨stepped, phase⟩ := c
  cases phase with
  | access p =>
      refine ⟨?_, rfl⟩
      cases p with
      | arrived =>
          simp only [sessionCall, getAccessClaims]
          cases hdecode : decodeToken jwt a.now token .access with
          | none =>
              intro claims' hreply
              cases hreply
          | some claims' => exact readInTime_of_decode hexpires hread hexp hdecode
      | decoded claims' =>
          have hlive : isRevoked s.redis a.now claims'.jti a.redis = true := by
            rw [hredis]
            exact live_of_inTime hdenied h (hintime claims' rfl)
          simp only [sessionCall, getAccessClaims, hlive, if_true]
          intro claims'' hreply
          cases hreply
      | answered reply => exact h
  | refresh p =>
      cases p with
      | arrived =>
          simp only [sessionCall, refresh]
          cases hdecode : readToken jwt a.now token .refresh with
          | none => exact ⟨trivial, rfl⟩
          | some read =>
              exact ⟨readInTime_of_decode hexpires hread hexp (decode_of_read hdecode), rfl⟩
      | decoded claims' userId =>
          have hlive : isRevokedStrict s.redis a.now claims'.jti a.redis = true := by
            rw [hredis]
            exact live_of_inTime hdenied h (hintime claims' rfl)
          simp only [sessionCall, refresh, hlive, if_true]
          exact ⟨trivial, trivial⟩
      | revoked claims' =>
          -- a pair recorded earlier may be handed back; none is minted
          simp only [sessionCall, refresh]
          split
          · exact ⟨trivial, rfl⟩
          · exact ⟨trivial, rfl⟩
      | answered reply => exact ⟨trivial, rfl⟩
      | unrevoked claims' userId => exact h.elim
      | loaded claims' => exact h.elim
      | minted claims' pair => exact h.elim
      | lost claims' pair => exact h.elim
      | rotating claims' pair => exact h.elim

theorem SessionCall.Barred.shutOut {c : SessionCall} (h : c.Barred claims) :
    (∀ claims', c.phase ≠ .access (.answered (.ok claims'))) ∧
      ∀ claims' pair, c.phase ≠ .refresh (.minted claims' pair) := by
  obtain ⟨stepped, phase⟩ := c
  constructor
  · rintro claims' rfl
    exact h claims' rfl
  · rintro claims' pair rfl
    exact h

end

/-! ## §4 Runs -/

/-- The token is on the deny list, and no call is past it. -/
structure DenyListed (claims : Claims) (w : World SessionStore SessionCall) : Prop where
  denied : Denied w.store.redis claims
  barred : ∀ i, (w.threads i).Barred claims

theorem DenyListed.step {jwt : Jwt} {ttl : Int} {token : Text} {claims : Claims} {now₀ : Instant}
    {expected : TokenType} {exp : Int} {w : World SessionStore SessionCall} {l : SessionStep}
    (h : DenyListed claims w) (hexpires : jwt.RejectsExpired)
    (hread : decodeToken jwt now₀ token expected = some claims) (hexp : claims.exp = some exp)
    (hsound : l.Sound claims) (hintime : InTime w l) :
    DenyListed claims (sessionStep jwt ttl token w l) := by
  cases l with
  | call i a =>
      obtain ⟨hbarred, hstore⟩ := @SessionCall.Barred.step jwt ttl token w.store claims now₀ expected
        exp (w.threads i) a (h.barred i) hexpires hread hexp h.denied hsound hintime
      constructor
      · show Denied (sessionCall jwt ttl token w.store (w.threads i) a).1.redis claims
        rw [hstore]
        exact h.denied
      · intro j
        by_cases hj : j = i
        · rw [hj]
          show ((threadStep _ w (i, a)).threads i).Barred claims
          rw [threadStep_threads_self]
          exact hbarred
        · show ((threadStep _ w (i, a)).threads j).Barred claims
          rw [threadStep_threads_of_ne hj]
          exact h.barred j
  | elsewhere db rotated claims' now redis =>
      constructor
      · exact @Denied.revoke claims claims' { w.store.redis with rotated := rotated } now redis
          h.denied hsound
      · exact h.barred

/-- **A revoked token stays out**: after its revocation, in any interleaving of
calls that present it with one another and with all else, no guard lets it in
and no refresh mints a pair for it, as long as each call that finds the
signature good reaches the deny list at that instant or before the entry there
expires. -/
theorem revoked_shut_out (jwt : Jwt) (hexpires : jwt.RejectsExpired) (ttl : Int) (token : Text)
    (expected : TokenType) (now₀ : Instant) (claims : Claims) (exp : Int)
    (hread : decodeToken jwt now₀ token expected = some claims) (hexp : claims.exp = some exp)
    (s : SessionStore) (t : Instant) (kinds : ℕ → SessionKind) (ls : List SessionStep)
    (hsound : ∀ l ∈ ls, l.Sound claims)
    (hintime : Throughout (sessionStep jwt ttl token) InTime (revokedAt s claims t kinds) ls) :
    Always (sessionStep jwt ttl token) ShutOut (revokedAt s claims t kinds) ls := by
  have hstart : DenyListed claims (revokedAt s claims t kinds) := by
    constructor
    · exact denied_revoke s.redis claims t
    · intro i
      show SessionCall.Barred claims ⟨t, (kinds i).arrived⟩
      cases kinds i with
      | access => trivial
      | refresh => trivial
  have hrun : Always (sessionStep jwt ttl token) (DenyListed claims) (revokedAt s claims t kinds) ls :=
    always_of_throughout (fun w l h hl => h.step hexpires hread hexp hl.2 hl.1) hstart
      (hintime.and_mem hsound)
  exact hrun.imp fun w h i => (h.barred i).shutOut

/-- A refresh token that expires at 100. -/
def fadingToken : Text := "refresh-token".toList

def fadingJwt : Jwt where
  decode now token :=
    if token = fadingToken ∧ now < 100 then
      some ⟨some "1".toList, some TokenType.refresh.value, some "b7".toList, some 100⟩
    else none
  readUuid _ := some 1
  stable := by
    intro now now' token p p' h h'
    split at h
    · split at h'
      · exact Option.some.inj (h.symm.trans h')
      · cases h'
    · cases h

theorem fadingJwt_rejectsExpired : fadingJwt.RejectsExpired := by
  intro now token p exp hdecode hexp
  simp only [fadingJwt] at hdecode
  split at hdecode
  · rename_i hfresh
    cases hdecode
    cases hexp
    exact_mod_cast hfresh.2
  · cases hdecode

def fadingClaims : Claims where
  sub := some "1".toList
  jti := "b7".toList
  exp := some 100
  revocable := by decide

theorem fadingJwt_decodes : decodeToken fadingJwt 0 fadingToken .refresh = some fadingClaims := by
  decide +kernel

/-- A step of the first call. -/
def fadingStep (now : Instant) : SessionStep :=
  .call 0 ⟨now, .done, "access-a".toList, "refresh-a".toList⟩

/-- The user signs out at 99.5, so the entry lasts until 100.5. -/
def signedOut : World SessionStore SessionCall :=
  revokedAt mailedStore fadingClaims (995 / 10) fun _ => .refresh

/-- Then the token is presented at 99.7, and looked up at 99.8. -/
theorem revoked_shut_out_signedOut : Always (sessionStep fadingJwt 15 fadingToken) ShutOut signedOut
    [fadingStep (997 / 10), fadingStep (998 / 10)] := by
  apply revoked_shut_out fadingJwt fadingJwt_rejectsExpired 15 fadingToken .refresh 0 fadingClaims
    100 fadingJwt_decodes rfl
  · intro l hl
    simp only [List.mem_cons, List.not_mem_nil, or_false] at hl
    rcases hl with rfl | rfl <;> rfl
  · refine ⟨?_, ?_, trivial⟩
    · intro claims' hlooking
      cases hlooking
    · intro claims' hlooking
      right
      intro e he
      have hdecoded : (((sessionStep fadingJwt 15 fadingToken) signedOut
          (fadingStep (997 / 10))).threads 0).phase.looking? = some fadingClaims := by
        decide +kernel
      obtain rfl : fadingClaims = claims' := Option.some.inj (hdecoded.symm.trans hlooking)
      have hentry : (((sessionStep fadingJwt 15 fadingToken) signedOut
          (fadingStep (997 / 10))).store.redis.revoked fadingClaims.jti).map Expiring.deadline =
            some (1005 / 10) := by decide +kernel
      have hsame : some e.deadline = some (1005 / 10) := (congrArg (Option.map _) he).symm.trans hentry
      rw [Option.some.inj hsame]
      decide +kernel

/-- The token is presented at 99.9, just before it expires, and looked up at
100.6, just after its entry has. -/
theorem stalled_refresh_mints :
    ¬ ∀ (jwt : Jwt), jwt.RejectsExpired → ∀ (ttl : Int) (token : Text) (expected : TokenType)
      (now₀ : Instant) (claims : Claims) (exp : Int),
      decodeToken jwt now₀ token expected = some claims → claims.exp = some exp →
      ∀ (s : SessionStore) (t : Instant) (kinds : ℕ → SessionKind) (ls : List SessionStep),
        (∀ l ∈ ls, l.Sound claims) → (∀ l ∈ ls, t < l.instant) →
        (ls.map SessionStep.instant).Pairwise (· ≤ ·) →
        Always (sessionStep jwt ttl token) ShutOut (revokedAt s claims t kinds) ls := by
  intro hclaim
  have hshut := hclaim fadingJwt fadingJwt_rejectsExpired 15 fadingToken .refresh 0 fadingClaims 100
    fadingJwt_decodes rfl mailedStore (995 / 10) (fun _ => .refresh)
    [fadingStep (999 / 10), fadingStep (1006 / 10), fadingStep (1006 / 10), fadingStep (1006 / 10)]
    (by
      intro l hl
      simp only [List.mem_cons, List.not_mem_nil, or_false] at hl
      rcases hl with rfl | rfl | rfl | rfl <;> rfl)
    (by decide +kernel) (by decide +kernel)
  have hminted : ((run (sessionStep fadingJwt 15 fadingToken) signedOut
      [fadingStep (999 / 10), fadingStep (1006 / 10), fadingStep (1006 / 10),
        fadingStep (1006 / 10)]).threads 0).phase =
      .refresh (.minted fadingClaims
        ⟨"access-a".toList, "refresh-a".toList, "bearer".toList, 900⟩) := by decide +kernel
  exact (hshut.final 0).2 _ _ hminted

end UniTrack
