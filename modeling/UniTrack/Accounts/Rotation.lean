import UniTrack.Accounts.SingleUse

/-!
# One replacement for a refresh token

Any number of callers present one refresh token. The first to claim the
rotation stores the pair it minted and the others are handed that pair, for as
long as the record of it lasts.

## §1 Callers and what they were handed
## §2 The recorded pair
## §3 Runs
-/

namespace UniTrack

open UniTrack.Framework UniTrack.Python

/-! ## §1 Callers and what they were handed -/

/-- The pair a caller rotates with, or has been handed. -/
def RefreshPhase.pair? : RefreshPhase → Option TokenPair
  | .rotating _ pair => some pair
  | .answered (.ok pair) => some pair
  | _ => none

/-- The claims a caller has read off the token. -/
def RefreshPhase.claims? : RefreshPhase → Option Claims
  | .decoded claims _ => some claims
  | .revoked claims => some claims
  | .unrevoked claims _ => some claims
  | .loaded claims => some claims
  | .minted claims _ => some claims
  | .lost claims _ => some claims
  | .rotating claims _ => some claims
  | _ => none

/-- All successful responses carry one pair. -/
def Converged (w : World SessionStore RefreshPhase) : Prop :=
  ∀ t t' pair pair', w.threads t = .answered (.ok pair) → w.threads t' = .answered (.ok pair') →
    pair = pair'

/-- The record of the rotation stands at that moment. -/
def RecordLive (w : World SessionStore RefreshPhase) (now : Instant) (claims : Claims) : Prop :=
  w.store.redis.rotated.live now claims.jti = true

/-- Once a caller has a pair, whoever tries to claim the rotation does so
before the record of it expires; and so does whoever reads the winner back. -/
def WithinGrace (w : World SessionStore RefreshPhase) (l : ℕ × RefreshInput) : Prop :=
  (∀ claims pair, w.threads l.1 = .minted claims pair →
    ∀ t, (w.threads t).pair?.isSome → RecordLive w l.2.now claims) ∧
  ∀ claims pair, w.threads l.1 = .lost claims pair → RecordLive w l.2.now claims

/-! ## §2 The recorded pair -/

/-- The pair that the record names, expired or not. -/
def Recorded (r : RevocationKeys) (claims : Claims) (pair : TokenPair) : Prop :=
  ∃ deadline, r.rotated claims.jti = some ⟨pair, deadline⟩

theorem Recorded.unique {r : RevocationKeys} {claims : Claims} {pair pair' : TokenPair}
    (h : Recorded r claims pair) (h' : Recorded r claims pair') : pair = pair' := by
  obtain ⟨deadline, he⟩ := h
  obtain ⟨deadline', he'⟩ := h'
  have heq := Option.some.inj (he.symm.trans he')
  exact congrArg Expiring.value heq

theorem recorded_of_recall {r : RevocationKeys} {now : Instant} {claims : Claims}
    {pair : TokenPair} {redis : CallOutcome}
    (h : recallRotation r now claims.jti redis = some pair) : Recorded r claims pair := by
  unfold recallRotation at h
  split at h
  · obtain ⟨deadline, he, -⟩ := KeyValues.get_eq_some.mp h
    exact ⟨deadline, he⟩
  · cases h

@[simp] theorem revoke_rotated (r : RevocationKeys) (claims : Claims) (now : Instant)
    (redis : CallOutcome) : (revoke r claims now redis).rotated = r.rotated := by
  unfold revoke
  split <;> rfl

/-- Claiming records the pair, or finds a record and leaves it alone. -/
theorem claimRotation_cases (r : RevocationKeys) (now : Instant) (claims : Claims)
    (pair : TokenPair) :
    (r.rotated.live now claims.jti = true ∧
        claimRotation r now claims.jti pair .done = (r, some false)) ∨
      (r.rotated.live now claims.jti = false ∧ ∃ r',
        claimRotation r now claims.jti pair .done = (r', some true) ∧ Recorded r' claims pair) := by
  unfold claimRotation KeyValues.setNx
  cases hlive : r.rotated.live now claims.jti with
  | true => exact Or.inl ⟨rfl, rfl⟩
  | false => exact Or.inr ⟨rfl, _, rfl, _, KeyValues.set_self ..⟩

section
variable {jwt : Jwt} {ttl : Int} {token : Text} {s : SessionStore} {p : RefreshPhase}
  {a : RefreshInput}

theorem refresh_claims
    (h : ∀ claims, p.claims? = some claims → ClaimsOf jwt token .refresh claims) :
    ∀ claims, (refresh jwt ttl token s p a).2.claims? = some claims →
      ClaimsOf jwt token .refresh claims := by
  intro claims hclaims
  cases p with
  | arrived =>
      simp only [refresh] at hclaims
      cases hread : readToken jwt a.now token .refresh with
      | none =>
          rw [hread] at hclaims
          cases hclaims
      | some read =>
          rw [hread] at hclaims
          cases hclaims
          exact ⟨a.now, read.2, hread⟩
  | decoded c userId =>
      simp only [refresh] at hclaims
      split at hclaims
      · exact h claims hclaims
      · exact h claims hclaims
  | revoked c =>
      simp only [refresh] at hclaims
      split at hclaims <;> cases hclaims
  | unrevoked c userId =>
      simp only [refresh] at hclaims
      split at hclaims
      · cases hclaims
      · split at hclaims
        · exact h claims hclaims
        · cases hclaims
  | loaded c => exact h claims hclaims
  | minted c pair =>
      simp only [refresh] at hclaims
      split at hclaims
      · exact h claims hclaims
      · exact h claims hclaims
  | lost c pair =>
      simp only [refresh] at hclaims
      split at hclaims
      · cases hclaims
      · exact h claims hclaims
  | rotating c pair => cases hclaims
  | answered reply => cases hclaims

/-- Only a claim that is won writes the record. -/
theorem refresh_rotated (hredis : a.redis = .done) (h : ∀ claims pair, p = .minted claims pair →
    s.redis.rotated.live a.now claims.jti = true) :
    (refresh jwt ttl token s p a).1.redis.rotated = s.redis.rotated := by
  cases p with
  | arrived =>
      simp only [refresh]
      split <;> rfl
  | decoded c userId =>
      simp only [refresh]
      split <;> rfl
  | revoked c =>
      simp only [refresh]
      split <;> rfl
  | unrevoked c userId =>
      simp only [refresh]
      split
      · rfl
      · split <;> rfl
  | loaded c => rfl
  | minted c pair =>
      rcases claimRotation_cases s.redis a.now c pair with ⟨-, hclaim⟩ | ⟨hexpired, -⟩
      · simp only [refresh, hredis, hclaim]
      · rw [h c pair rfl] at hexpired
        cases hexpired
  | lost c pair =>
      simp only [refresh]
      split <;> rfl
  | rotating c pair => simp only [refresh, revoke_rotated]
  | answered reply => rfl

/-- Where a caller's pair comes from, when it neither wins the claim nor finds
the record gone: it had it already, or read it back. -/
theorem refresh_pair {pair : TokenPair} (hredis : a.redis = .done)
    (hclaim : ∀ claims pair, p = .minted claims pair →
      s.redis.rotated.live a.now claims.jti = true)
    (hback : ∀ claims pair, p = .lost claims pair →
      s.redis.rotated.live a.now claims.jti = true)
    (h : (refresh jwt ttl token s p a).2.pair? = some pair) :
    p.pair? = some pair ∨ ∃ claims, p.claims? = some claims ∧ Recorded s.redis claims pair := by
  cases p with
  | arrived =>
      simp only [refresh] at h
      split at h <;> cases h
  | decoded c userId =>
      simp only [refresh] at h
      split at h <;> cases h
  | revoked c =>
      simp only [refresh] at h
      split at h
      · rename_i hrecall
        cases h
        exact Or.inr ⟨c, rfl, recorded_of_recall hrecall⟩
      · cases h
  | unrevoked c userId =>
      simp only [refresh] at h
      split at h
      · cases h
      · split at h <;> cases h
  | loaded c => cases h
  | minted c mine =>
      rcases claimRotation_cases s.redis a.now c mine with ⟨-, hlost⟩ | ⟨hexpired, -⟩
      · simp only [refresh, hredis, hlost] at h
        cases h
      · rw [hclaim c mine rfl] at hexpired
        cases hexpired
  | lost c mine =>
      simp only [refresh] at h
      split at h
      · rename_i hrecall
        cases h
        exact Or.inr ⟨c, rfl, recorded_of_recall hrecall⟩
      · rename_i hrecall
        have hlive : (s.redis.rotated.get a.now c.jti).isSome = true := hback c mine rfl
        rw [recallRotation, hredis] at hrecall
        rw [show s.redis.rotated.get a.now c.jti = none from hrecall] at hlive
        cases hlive
  | rotating c mine =>
      cases h
      exact Or.inl rfl
  | answered reply => exact Or.inl h

end

/-- What keeps the responses the same: whoever has a pair has the recorded
one. -/
structure OneReplacement (jwt : Jwt) (token : Text) (w : World SessionStore RefreshPhase) :
    Prop where
  read : ∀ t claims, (w.threads t).claims? = some claims → ClaimsOf jwt token .refresh claims
  recorded : ∀ t pair, (w.threads t).pair? = some pair →
    ∃ claims, ClaimsOf jwt token .refresh claims ∧ Recorded w.store.redis claims pair

theorem OneReplacement.converged {jwt : Jwt} {token : Text} {w : World SessionStore RefreshPhase}
    (h : OneReplacement jwt token w) : Converged w := by
  intro t t' pair pair' ht ht'
  obtain ⟨claims, hclaims, hpair⟩ := h.recorded t pair (by rw [ht]; rfl)
  obtain ⟨claims', hclaims', hpair'⟩ := h.recorded t' pair' (by rw [ht']; rfl)
  rw [hclaims'.unique hclaims] at hpair'
  exact hpair.unique hpair'

theorem OneReplacement.step {jwt : Jwt} {ttl : Int} {token : Text}
    {w : World SessionStore RefreshPhase} {l : ℕ × RefreshInput} (h : OneReplacement jwt token w)
    (hgrace : WithinGrace w l) (hredis : l.2.redis = .done) :
    OneReplacement jwt token (threadStep (refresh jwt ttl token) w l) where
  read := by
    intro t
    by_cases ht : t = l.1
    · rw [ht, threadStep_threads_self]
      exact refresh_claims (h.read l.1)
    · rw [threadStep_threads_of_ne ht]
      exact h.read t
  recorded := by
    obtain ⟨hclaim, hback⟩ := hgrace
    by_cases hwins : ∃ claims pair, w.threads l.1 = .minted claims pair ∧
        w.store.redis.rotated.live l.2.now claims.jti = false
    · -- the claim is won: nobody has a pair yet
      obtain ⟨c, mine, hphase, hexpired⟩ := hwins
      rcases claimRotation_cases w.store.redis l.2.now c mine with
        ⟨hlive, -⟩ | ⟨-, r', hwon, hrecord⟩
      · rw [hlive] at hexpired
        cases hexpired
      · intro t pair hpair
        have hmine : ClaimsOf jwt token .refresh c := h.read l.1 c (by rw [hphase]; rfl)
        by_cases ht : t = l.1
        · rw [ht, threadStep_threads_self, hphase] at hpair
          simp only [refresh, hredis, hwon] at hpair
          cases hpair
          refine ⟨c, hmine, ?_⟩
          rw [threadStep_store, hphase]
          simp only [refresh, hredis, hwon]
          exact hrecord
        · rw [threadStep_threads_of_ne ht] at hpair
          have hlive : w.store.redis.rotated.live l.2.now c.jti = true :=
            hclaim c mine hphase t (by rw [hpair]; rfl)
          rw [hlive] at hexpired
          cases hexpired
    · have hminted : ∀ claims pair, w.threads l.1 = .minted claims pair →
          w.store.redis.rotated.live l.2.now claims.jti = true := by
        intro claims pair hphase
        by_contra hnot
        exact hwins ⟨claims, pair, hphase, Bool.eq_false_iff.mpr hnot⟩
      have hsame : (threadStep (refresh jwt ttl token) w l).store.redis.rotated =
          w.store.redis.rotated := refresh_rotated hredis hminted
      intro t pair hpair
      have hbefore : ∃ claims, ClaimsOf jwt token .refresh claims ∧
          Recorded w.store.redis claims pair := by
        by_cases ht : t = l.1
        · rw [ht, threadStep_threads_self] at hpair
          rcases refresh_pair hredis hminted hback hpair with hbefore | ⟨c, hc, hrecord⟩
          · exact h.recorded l.1 pair hbefore
          · exact ⟨c, h.read l.1 c hc, hrecord⟩
        · rw [threadStep_threads_of_ne ht] at hpair
          exact h.recorded t pair hpair
      obtain ⟨claims, hclaims, deadline, he⟩ := hbefore
      exact ⟨claims, hclaims, deadline, by rw [hsame]; exact he⟩

/-! ## §3 Runs -/

/-- Callers that have all yet to begin. -/
def refreshesArrived (s : SessionStore) : World SessionStore RefreshPhase where
  store := s
  threads _ := .arrived

/-- **Refreshes converge**: any number of callers of one refresh token, in any
interleaving of their steps, with Redis available and the record expiring at any
point, are handed one pair as long as whoever comes to the record does so
within the grace window. -/
theorem converged_of_within_grace (jwt : Jwt) (ttl : Int) (token : Text) (s : SessionStore)
    (ls : List (ℕ × RefreshInput)) (havailable : ∀ l ∈ ls, l.2.redis = .done)
    (hgrace : Throughout (threadStep (refresh jwt ttl token)) WithinGrace (refreshesArrived s) ls) :
    Always (threadStep (refresh jwt ttl token)) Converged (refreshesArrived s) ls := by
  have hstart : OneReplacement jwt token (refreshesArrived s) := by
    constructor
    · intro t claims hclaims
      cases hclaims
    · intro t pair hpair
      cases hpair
  have hrun : Always (threadStep (refresh jwt ttl token)) (OneReplacement jwt token)
      (refreshesArrived s) ls :=
    always_of_throughout (fun w l h hl => h.step hl.1 hl.2) hstart (hgrace.and_mem havailable)
  exact hrun.imp fun w h => h.converged

/-- A refresh token that two isolates of one device share. -/
def sharedToken : Text := "refresh-token".toList

def sharedJwt : Jwt where
  decode _ token :=
    if token = sharedToken then
      some ⟨some "1".toList, some TokenType.refresh.value, some "b7".toList, some 2592000⟩
    else none
  readUuid _ := some 1
  stable := by
    intro _ _ token p p' h h'
    exact Option.some.inj (h.symm.trans h')

def mintingA (now : Instant) : RefreshInput := ⟨now, .done, "access-a".toList, "refresh-a".toList⟩
def mintingB (now : Instant) : RefreshInput := ⟨now, .done, "access-b".toList, "refresh-b".toList⟩

theorem shared_revocable : "b7".toList ≠ [] := by decide

def sharedClaims : Claims := ⟨some "1".toList, "b7".toList, some 2592000, shared_revocable⟩

/-- Both isolates mint a pair before either claims the rotation. -/
def bothMint : List (ℕ × RefreshInput) :=
  [(0, mintingA 0), (0, mintingA 0), (0, mintingA 0), (0, mintingA 0),
    (1, mintingB 0), (1, mintingB 0), (1, mintingB 0), (1, mintingB 0)]

/-- The one that loses the claim is answered with the other's pair. -/
def bothRefresh : List (ℕ × RefreshInput) :=
  bothMint ++ [(0, mintingA 0), (1, mintingB 1), (1, mintingB 1), (0, mintingA 1)]

theorem converged_of_within_grace_bothRefresh :
    Always (threadStep (refresh sharedJwt 15 sharedToken)) Converged
        (refreshesArrived mailedStore) bothRefresh ∧
      ∀ t, t = 0 ∨ t = 1 → (run (threadStep (refresh sharedJwt 15 sharedToken))
        (refreshesArrived mailedStore) bothRefresh).threads t =
          .answered (.ok (issuePair 15 (mintingA 0))) := by
  constructor
  · apply converged_of_within_grace _ _ _ _ _
      (by simp [bothRefresh, bothMint, mintingA, mintingB])
    have hminted : Throughout (threadStep (refresh sharedJwt 15 sharedToken)) WithinGrace
        (refreshesArrived mailedStore) bothMint :=
      ⟨⟨nofun, nofun⟩, ⟨nofun, nofun⟩, ⟨nofun, nofun⟩, ⟨nofun, nofun⟩, ⟨nofun, nofun⟩,
        ⟨nofun, nofun⟩, ⟨nofun, nofun⟩, ⟨nofun, nofun⟩, trivial⟩
    refine throughout_append.mpr ⟨hminted, ?_⟩
    generalize hw : run (threadStep (refresh sharedJwt 15 sharedToken))
      (refreshesArrived mailedStore) bothMint = w
    have hothers : ∀ t, t ≠ 0 → t ≠ 1 → w.threads t = .arrived := by
      intro t ht ht'
      rw [← hw]
      exact run_threads_of_ne (by simp [bothMint, ht, ht'])
    have hfirst : w.threads 0 = .minted sharedClaims (issuePair 15 (mintingA 0)) := by
      rw [← hw]
      decide +kernel
    have hsecond : (run (threadStep (refresh sharedJwt 15 sharedToken)) w
        [(0, mintingA 0)]).threads 1 = .minted sharedClaims (issuePair 15 (mintingB 0)) := by
      rw [← hw]
      decide +kernel
    have hlost : (run (threadStep (refresh sharedJwt 15 sharedToken)) w
        [(0, mintingA 0), (1, mintingB 1)]).threads 1 =
          .lost sharedClaims (issuePair 15 (mintingB 0)) := by
      rw [← hw]
      decide +kernel
    have hrotating : (run (threadStep (refresh sharedJwt 15 sharedToken)) w
        [(0, mintingA 0), (1, mintingB 1), (1, mintingB 1)]).threads 0 =
          .rotating sharedClaims (issuePair 15 (mintingA 0)) := by
      rw [← hw]
      decide +kernel
    refine ⟨⟨?_, ?_⟩, ⟨?_, ?_⟩, ⟨?_, ?_⟩, ⟨?_, ?_⟩, trivial⟩
    · -- nobody has a pair yet
      intro claims pair _ t hpair
      by_cases ht : t = 0
      · rw [ht, hfirst] at hpair
        cases hpair
      · by_cases ht' : t = 1
        · have hunmoved : w.threads 1 = (run (threadStep (refresh sharedJwt 15 sharedToken)) w
              [(0, mintingA 0)]).threads 1 := (threadStep_threads_of_ne one_ne_zero).symm
          rw [ht', hunmoved, hsecond] at hpair
          cases hpair
        · rw [hothers t ht ht'] at hpair
          cases hpair
    · intro claims pair hphase
      rw [hfirst] at hphase
      cases hphase
    · intro claims pair hphase t _
      obtain ⟨rfl, -⟩ := RefreshPhase.minted.inj (hsecond.symm.trans hphase)
      unfold RecordLive
      rw [← hw]
      decide +kernel
    · intro claims pair hphase
      cases hsecond.symm.trans hphase
    · intro claims pair hphase
      cases hlost.symm.trans hphase
    · intro claims pair hphase
      obtain ⟨rfl, -⟩ := RefreshPhase.lost.inj (hlost.symm.trans hphase)
      unfold RecordLive
      rw [← hw]
      decide +kernel
    · intro claims pair hphase
      cases hrotating.symm.trans hphase
    · intro claims pair hphase
      cases hrotating.symm.trans hphase
  · rintro t (rfl | rfl)
    · decide +kernel
    · decide +kernel

/-- The second isolate passes the deny list, stalls past the grace window, and
claims the rotation again. -/
theorem stalled_refresh_rotates_again : ¬ Converged
    (run (threadStep (refresh sharedJwt 15 sharedToken)) (refreshesArrived mailedStore)
      [(1, mintingB 0), (1, mintingB 0), (1, mintingB 0), (1, mintingB 0),
        (0, mintingA 0), (0, mintingA 0), (0, mintingA 0), (0, mintingA 0), (0, mintingA 0),
        (0, mintingA 1), (1, mintingB 61), (1, mintingB 61)]) := by
  intro h
  have hpair : issuePair 15 (mintingA 0) = issuePair 15 (mintingB 0) :=
    h 0 1 _ _ (by decide +kernel) (by decide +kernel)
  exact absurd hpair (by decide)

end UniTrack
