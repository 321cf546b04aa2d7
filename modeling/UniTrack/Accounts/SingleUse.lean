import UniTrack.Framework.Threads
import UniTrack.Routes.Sessions

/-!
# A reset link used twice

Any number of requests present one password-reset token. Each looks the token
up on the deny list before it changes the password, and puts it there after;
between the two another request finds the list as it was.

## §1 Requests and what they have done
## §2 One request past the check
## §3 Runs
-/

namespace UniTrack

open UniTrack.Framework UniTrack.Python

/-! ## §1 Requests and what they have done -/

/-- The request has changed the password. -/
def ResetPhase.ChangedPassword : ResetPhase → Prop
  | .changed _ => True
  | .answered (.ok _) => True
  | _ => False

/-- The request is past the deny list, and the token not yet on it. -/
def ResetPhase.Underway : ResetPhase → Prop
  | .unrevoked _ _ => True
  | .loaded _ _ => True
  | .changed _ => True
  | _ => False

instance (p : ResetPhase) : Decidable p.Underway := by
  unfold ResetPhase.Underway
  split <;> infer_instance

/-- The claims a request has read off the token. -/
def ResetPhase.claims? : ResetPhase → Option Claims
  | .decoded claims _ => some claims
  | .unrevoked claims _ => some claims
  | .loaded claims _ => some claims
  | .changed claims => some claims
  | _ => none

/-- At most one request changed the password. -/
def ChangedOnce (w : World SessionStore ResetPhase) : Prop :=
  ∀ t t', (w.threads t).ChangedPassword → (w.threads t').ChangedPassword → t = t'

/-- A request that passes the deny list does so while no other request is
between its own check and its revocation; and after one has been answered it
does so no later than the token expires, as the entry on the list does. -/
def Apart (w : World SessionStore ResetPhase) (l : ℕ × ResetInput) : Prop :=
  ∀ claims userId, w.threads l.1 = .decoded claims userId →
    isRevoked w.store.redis l.2.now claims.jti l.2.redis = false →
    (∀ t, ¬ (w.threads t).Underway) ∧
      ∀ t, w.threads t = .answered (.ok ()) → l.2.now < claims.exp.getD 0

/-- The claims are those of the token, whenever it is read. -/
def ClaimsOf (jwt : Jwt) (token : Text) (expected : TokenType) (claims : Claims) : Prop :=
  ∃ now userId, readToken jwt now token expected = some (claims, userId)

theorem ClaimsOf.unique {jwt : Jwt} {token : Text} {expected : TokenType} {claims claims' : Claims}
    (h : ClaimsOf jwt token expected claims) (h' : ClaimsOf jwt token expected claims') :
    claims = claims' := by
  obtain ⟨now, userId, hread⟩ := h
  obtain ⟨now', userId', hread'⟩ := h'
  exact congrArg Prod.fst (readToken_stable hread hread')

/-! ## §2 One request past the check -/

/-- The request is past the deny list, or done with it. -/
def ResetPhase.Past (p : ResetPhase) : Prop := p.Underway ∨ p.ChangedPassword

section
variable {jwt : Jwt} {token : Text} {s : SessionStore} {p : ResetPhase} {a : ResetInput}

theorem resetPassword_claims
    (h : ∀ claims, p.claims? = some claims → ClaimsOf jwt token .passwordReset claims) :
    ∀ claims, (resetPassword jwt token s p a).2.claims? = some claims →
      ClaimsOf jwt token .passwordReset claims := by
  intro claims hclaims
  cases p with
  | arrived =>
      simp only [resetPassword] at hclaims
      cases hread : readToken jwt a.now token .passwordReset with
      | none =>
          rw [hread] at hclaims
          cases hclaims
      | some read =>
          rw [hread] at hclaims
          cases hclaims
          exact ⟨a.now, read.2, hread⟩
  | decoded c userId =>
      simp only [resetPassword] at hclaims
      split at hclaims
      · cases hclaims
      · exact h claims hclaims
  | unrevoked c userId =>
      simp only [resetPassword] at hclaims
      split at hclaims
      · cases hclaims
      · exact h claims hclaims
  | loaded c userId =>
      simp only [resetPassword] at hclaims
      split at hclaims
      · exact h claims hclaims
      · cases hclaims
  | changed c => cases hclaims
  | answered reply => cases hclaims

/-- Only the deny list lets a request past. -/
theorem resetPassword_past (h : (resetPassword jwt token s p a).2.Past) :
    p.Past ∨ ∃ claims userId, p = .decoded claims userId ∧
      isRevoked s.redis a.now claims.jti a.redis = false := by
  cases p with
  | arrived =>
      simp only [resetPassword] at h
      split at h
      · exact absurd h (by rintro (h | h) <;> exact h)
      · exact absurd h (by rintro (h | h) <;> exact h)
  | decoded claims userId =>
      simp only [resetPassword] at h
      split at h
      · exact absurd h (by rintro (h | h) <;> exact h)
      · rename_i hclear
        exact Or.inr ⟨claims, userId, rfl, Bool.eq_false_iff.mpr hclear⟩
  | unrevoked claims userId => exact Or.inl (Or.inl trivial)
  | loaded claims userId => exact Or.inl (Or.inl trivial)
  | changed claims => exact Or.inl (Or.inl trivial)
  | answered reply => exact Or.inl h

/-- Redis is written by a request that has changed the password, and only to
put its token on the list. -/
theorem resetPassword_redis :
    (resetPassword jwt token s p a).1.redis = s.redis ∨
      ∃ claims, p = .changed claims ∧
        (resetPassword jwt token s p a).1.redis = revoke s.redis claims a.now a.redis := by
  cases p with
  | arrived =>
      left
      simp only [resetPassword]
      split <;> rfl
  | decoded claims userId =>
      left
      simp only [resetPassword]
      split <;> rfl
  | unrevoked claims userId =>
      left
      simp only [resetPassword]
      split <;> rfl
  | loaded claims userId =>
      left
      simp only [resetPassword]
      split <;> rfl
  | changed claims => exact Or.inr ⟨claims, rfl, rfl⟩
  | answered reply => exact Or.inl rfl

/-- A request is answered once its token is on the list. -/
theorem resetPassword_answered (h : (resetPassword jwt token s p a).2 = .answered (.ok ())) :
    p = .answered (.ok ()) ∨ ∃ claims, p = .changed claims := by
  cases p with
  | arrived =>
      simp only [resetPassword] at h
      split at h <;> cases h
  | decoded claims userId =>
      simp only [resetPassword] at h
      split at h <;> cases h
  | unrevoked claims userId =>
      simp only [resetPassword] at h
      split at h <;> cases h
  | loaded claims userId =>
      simp only [resetPassword] at h
      split at h <;> cases h
  | changed claims => exact Or.inr ⟨claims, rfl⟩
  | answered reply => exact Or.inl h

end

/-- The token is on the list for as long as it lives. -/
def Denied (r : RevocationKeys) (claims : Claims) : Prop :=
  ∃ e, r.revoked claims.jti = some e ∧ (claims.exp.getD 0 : ℚ) ≤ e.deadline

theorem denied_revoke (r : RevocationKeys) (claims : Claims) (now : Instant) :
    Denied (revoke r claims now .done) claims :=
  ⟨_, KeyValues.set_self .., exp_le_deadline claims now⟩

theorem isRevoked_of_denied {r : RevocationKeys} {claims : Claims} {now : Instant}
    (h : Denied r claims) (hnow : now < claims.exp.getD 0) :
    isRevoked r now claims.jti .done = true := by
  obtain ⟨e, he, hexp⟩ := h
  exact KeyValues.live_iff.mpr ⟨e, he, lt_of_lt_of_le hnow hexp⟩

/-- What keeps a token single-use: one request past the check, and the token
on the list once that request is answered. -/
structure SingleUse (jwt : Jwt) (token : Text) (w : World SessionStore ResetPhase) : Prop where
  read : ∀ t claims, (w.threads t).claims? = some claims → ClaimsOf jwt token .passwordReset claims
  alone : ∀ t t', (w.threads t).Past → (w.threads t').Past → t = t'
  spent : ∀ t, w.threads t = .answered (.ok ()) →
    ∀ claims, ClaimsOf jwt token .passwordReset claims → Denied w.store.redis claims

theorem SingleUse.changedOnce {jwt : Jwt} {token : Text} {w : World SessionStore ResetPhase}
    (h : SingleUse jwt token w) : ChangedOnce w :=
  fun t t' ht ht' => h.alone t t' (Or.inr ht) (Or.inr ht')

theorem SingleUse.step {jwt : Jwt} {token : Text} {w : World SessionStore ResetPhase}
    {l : ℕ × ResetInput} (h : SingleUse jwt token w) (hapart : Apart w l)
    (hredis : l.2.redis = .done) :
    SingleUse jwt token (threadStep (resetPassword jwt token) w l) where
  read := by
    intro t
    by_cases ht : t = l.1
    · rw [ht, threadStep_threads_self]
      exact resetPassword_claims (h.read l.1)
    · rw [threadStep_threads_of_ne ht]
      exact h.read t
  alone := by
    apply threads_unique_step ResetPhase.Past h.alone
    intro hpast
    rw [threadStep_threads_self] at hpast
    rcases resetPassword_past hpast with hbefore | ⟨claims, userId, hphase, hclear⟩
    · exact Or.inl hbefore
    · right
      obtain ⟨hidle, hlate⟩ := hapart claims userId hphase hclear
      rintro t (hunder | hchanged)
      · exact hidle t hunder
      · -- an answered request has put the token on the list, where it still is
        cases hthread : w.threads t with
        | changed c => exact hidle t (by rw [hthread]; trivial)
        | answered reply =>
            cases reply with
            | ok _ =>
                have hread : ClaimsOf jwt token .passwordReset claims :=
                  h.read l.1 claims (by rw [hphase]; rfl)
                have hdenied : Denied w.store.redis claims := h.spent t hthread claims hread
                rw [hredis, isRevoked_of_denied hdenied (hlate t hthread)] at hclear
                cases hclear
            | refused statusCode detail => rw [hthread] at hchanged; exact hchanged
            | crashed => rw [hthread] at hchanged; exact hchanged
        | arrived => rw [hthread] at hchanged; exact hchanged
        | decoded c u => rw [hthread] at hchanged; exact hchanged
        | unrevoked c u => rw [hthread] at hchanged; exact hchanged
        | loaded c u => rw [hthread] at hchanged; exact hchanged
  spent := by
    intro t hanswered claims hclaims
    rw [threadStep_store]
    rcases @resetPassword_redis jwt token w.store (w.threads l.1) l.2 with
      hsame | ⟨c, hphase, hrevoked⟩
    · rw [hsame]
      by_cases ht : t = l.1
      · rw [ht, threadStep_threads_self] at hanswered
        rcases resetPassword_answered hanswered with hbefore | ⟨c, hphase⟩
        · exact h.spent l.1 hbefore claims hclaims
        · have hread : ClaimsOf jwt token .passwordReset c :=
            h.read l.1 c (by rw [hphase]; rfl)
          rw [hclaims.unique hread, ← hsame, hphase]
          show Denied (revoke w.store.redis c l.2.now l.2.redis) c
          rw [hredis]
          exact denied_revoke _ _ _
      · rw [threadStep_threads_of_ne ht] at hanswered
        exact h.spent t hanswered claims hclaims
    · have hread : ClaimsOf jwt token .passwordReset c := h.read l.1 c (by rw [hphase]; rfl)
      rw [hrevoked, hclaims.unique hread, hredis]
      exact denied_revoke _ _ _

/-! ## §3 Runs -/

/-- Requests that have all yet to begin. -/
def resetsArrived (s : SessionStore) : World SessionStore ResetPhase where
  store := s
  threads _ := .arrived

/-- **A reset token is used once**, by any number of requests in any
interleaving of their steps and with Redis available, as long as none passes
the deny list while another is underway. -/
theorem changed_once_of_apart (jwt : Jwt) (token : Text) (s : SessionStore)
    (ls : List (ℕ × ResetInput)) (havailable : ∀ l ∈ ls, l.2.redis = .done)
    (hapart : Throughout (threadStep (resetPassword jwt token)) Apart (resetsArrived s) ls) :
    Always (threadStep (resetPassword jwt token)) ChangedOnce (resetsArrived s) ls := by
  have hstart : SingleUse jwt token (resetsArrived s) := by
    refine ⟨?_, ?_, ?_⟩
    · intro t claims hclaims
      cases hclaims
    · rintro t t' (h | h) <;> exact absurd h id
    · intro t hanswered
      cases hanswered
  have hrun : Always (threadStep (resetPassword jwt token)) (SingleUse jwt token)
      (resetsArrived s) ls :=
    always_of_throughout (fun w l h hl => h.step hl.1 hl.2) hstart (hapart.and_mem havailable)
  exact hrun.imp fun w h => h.changedOnce

/-- One account, whose owner was mailed one reset link. -/
def mailedStudent : Account where
  id := 1
  email := "student1@ulab.edu.bd".toList
  role := .student
  name := "Alice Rahman".toList
  phone := none
  status := .active
  passwordHash := "$argon2id$old".toList

def resetLink : Text := "reset-link".toList

def resetMail : Jwt where
  decode _ token :=
    if token = resetLink then
      some ⟨some "1".toList, some TokenType.passwordReset.value, some "a1".toList, some 3600⟩
    else none
  readUuid _ := some 1
  stable := by
    intro _ _ token p p' h h'
    exact Option.some.inj (h.symm.trans h')

def mailedStore : SessionStore where
  db := ⟨⟨[mailedStudent], List.pairwise_singleton _ _⟩, .empty, .empty⟩
  redis := .empty

def resetAt (now : Instant) : ResetInput := ⟨now, .done, "$argon2id$new".toList⟩

/-- The link opened, and opened again after it has been used. -/
def openedTwice : List (ℕ × ResetInput) :=
  [(0, resetAt 1), (0, resetAt 1), (0, resetAt 2), (0, resetAt 2), (0, resetAt 3),
    (1, resetAt 4), (1, resetAt 5)]

/-- The second request is turned away. -/
theorem changed_once_of_apart_openedTwice :
    Always (threadStep (resetPassword resetMail resetLink)) ChangedOnce
        (resetsArrived mailedStore) openedTwice ∧
      (run (threadStep (resetPassword resetMail resetLink)) (resetsArrived mailedStore)
        openedTwice).threads 0 = .answered (.ok ()) ∧
      (run (threadStep (resetPassword resetMail resetLink)) (resetsArrived mailedStore)
        openedTwice).threads 1 = .answered invalidReset := by
  refine ⟨?_, by decide +kernel, by decide +kernel⟩
  apply changed_once_of_apart _ _ _ _ (by simp [openedTwice, resetAt])
  have hothers : ∀ t, t ≠ 0 →
      (threadStep (resetPassword resetMail resetLink) (resetsArrived mailedStore)
        (0, resetAt 1)).threads t = .arrived := fun t ht => threadStep_threads_of_ne ht
  refine ⟨?_, ?_, ?_, ?_, ?_, ?_, ?_, trivial⟩
  · intro claims userId hphase
    cases hphase
  · intro claims userId hphase _
    constructor
    · intro t
      by_cases ht : t = 0
      · rw [ht, hphase]
        exact id
      · rw [hothers t ht]
        exact id
    · intro t hanswered
      by_cases ht : t = 0
      · rw [ht, hphase] at hanswered
        cases hanswered
      · rw [hothers t ht] at hanswered
        cases hanswered
  · intro claims userId hphase
    cases hphase
  · intro claims userId hphase
    cases hphase
  · intro claims userId hphase
    cases hphase
  · intro claims userId hphase
    cases hphase
  · -- the token is on the deny list by now
    intro claims userId hphase hclear
    cases hphase
    exact absurd hclear (by decide +kernel)

/-- The link opened in two tabs: both find it unused, and both set a password. -/
theorem two_tabs_change_the_password : ¬ ChangedOnce
    (run (threadStep (resetPassword resetMail resetLink)) (resetsArrived mailedStore)
      [(0, resetAt 1), (1, resetAt 1), (0, resetAt 1), (1, resetAt 1), (0, resetAt 2),
        (1, resetAt 2), (0, resetAt 2), (0, resetAt 2), (1, resetAt 3)]) := by
  intro h
  have hfirst : (run (threadStep (resetPassword resetMail resetLink)) (resetsArrived mailedStore)
      [(0, resetAt 1), (1, resetAt 1), (0, resetAt 1), (1, resetAt 1), (0, resetAt 2),
        (1, resetAt 2), (0, resetAt 2), (0, resetAt 2), (1, resetAt 3)]).threads 0 =
      .answered (.ok ()) := by decide +kernel
  have hsecond : (run (threadStep (resetPassword resetMail resetLink)) (resetsArrived mailedStore)
      [(0, resetAt 1), (1, resetAt 1), (0, resetAt 1), (1, resetAt 1), (0, resetAt 2),
        (1, resetAt 2), (0, resetAt 2), (0, resetAt 2), (1, resetAt 3)]).threads 1 =
      .changed ⟨some "1".toList, "a1".toList, some 3600, by decide⟩ := by decide +kernel
  have hsame : 0 = 1 := h 0 1 (by rw [hfirst]; trivial) (by rw [hsecond]; trivial)
  cases hsame

end UniTrack
