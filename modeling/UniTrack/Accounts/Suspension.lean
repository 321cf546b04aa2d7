import UniTrack.Accounts.Snapshot

/-!
# A suspension takes effect at once

Lookups fill one cache entry an account; moderation drops it after its commit
and again at its teardown. A lookup that read Postgres before such a commit can
still write its snapshot back after both.

## §1 What lookups and the cache say
## §2 The cache
## §3 Runs
-/

namespace UniTrack

open UniTrack.Framework UniTrack.Python

/-! ## §1 What lookups and the cache say -/

/-- Whoever is let in was not suspended before the lookup began, or has been
reinstated since. -/
def SuspensionHolds (w : World Moderated Remembering) : Prop :=
  ∀ t userId principal memory, w.threads t = (.told userId (.ok principal), memory) →
    ∀ n, (userId, n) ∈ memory.since → n < w.store.reinstated userId

/-- No request is under way. -/
def AuthzPhase.AtRest : AuthzPhase → Prop
  | .arrived _ => True
  | .told _ _ => True
  | .answered _ => True
  | _ => False

/-- While no request is under way, the cache says what Postgres would. -/
def CacheCurrent (w : World Moderated Remembering) : Prop :=
  (∀ t, (w.threads t).1.AtRest) → ∀ userId principal,
    w.store.store.principals.get w.store.store.clock userId = some principal →
      loadPrincipal w.store.store.db userId = some principal

/-- The request has committed a change of the account and has yet to drop its
snapshot. -/
def AuthzPhase.Owes (p : AuthzPhase) (userId : UserId) : Prop :=
  match p with
  | .committed m => m.user.id = userId
  | .invalidated m => m.user.id = userId
  | _ => False

/-- What is cached is still so, or somebody has yet to drop it and no suspension
stands; what is decided is informed. -/
def Punctual (w : World Moderated Remembering) (t : ℕ) : Prop :=
  match (w.threads t).1 with
  | .found userId principal =>
      loadPrincipal w.store.store.db userId = some principal ∨
        (¬ w.store.Standing userId ∧ ∃ t', (w.threads t').1.Owes userId)
  | .deciding m => Informed w.store m
  | _ => True

/-! ## §2 The cache -/

/-- A snapshot that may be in the cache. -/
structure Justified (w : World Moderated Remembering) (userId : UserId) (principal : Principal) :
    Prop where
  bars : w.store.Standing userId → principal.status = .suspended
  current : loadPrincipal w.store.store.db userId = some principal ∨
    ∃ t, (w.threads t).1.Owes userId

def CacheOk (w : World Moderated Remembering) : Prop := ∀ userId principal,
  w.store.store.principals.get w.store.store.clock userId = some principal →
    Justified w userId principal

section
variable {w : World Moderated Remembering} {l : ℕ × AuthzInput}

/-- Whoever owes still does, unless it has just dropped the snapshot. -/
theorem owes_step {userId : UserId} (hself : ¬ (w.threads l.1).1.Owes userId)
    (h : ∃ t, (w.threads t).1.Owes userId) :
    ∃ t, ((threadStep observeAuthz w l).threads t).1.Owes userId := by
  obtain ⟨t, ht⟩ := h
  have hne : t ≠ l.1 := by
    rintro rfl
    exact hself ht
  refine ⟨t, ?_⟩
  rw [threadStep_threads_of_ne hne]
  exact ht

/-- A step that leaves an account, its count and its snapshot alone. -/
theorem Justified.step {userId : UserId} {principal : Principal}
    (h : Justified w userId principal) (hself : ¬ (w.threads l.1).1.Owes userId)
    (hload : loadPrincipal (threadStep observeAuthz w l).store.store.db userId =
      loadPrincipal w.store.store.db userId)
    (hstanding : (threadStep observeAuthz w l).store.Standing userId → w.store.Standing userId) :
    Justified (threadStep observeAuthz w l) userId principal where
  bars hs := h.bars (hstanding hs)
  current := by
    rw [hload]
    exact h.current.imp_right (owes_step hself)

/-- The steps that write nothing to Postgres or Redis. -/
def AuthzPhase.Reads : AuthzPhase → Prop
  | .found _ _ => False
  | .deciding _ => False
  | .committed _ => False
  | .invalidated _ => False
  | _ => True

theorem authzStep_reads {s : AuthzStore} {p : AuthzPhase} (hp : p.Reads) (a : AuthzInput) :
    (authzStep s p a).1 = s := by
  cases p with
  | arrived request =>
      cases request with
      | principal userId =>
          simp only [authzStep]
          split <;> rfl
      | suspend admin userId =>
          simp only [authzStep]
          split
          · rfl
          · split <;> rfl
      | approve admin helperId =>
          simp only [authzStep]
          split
          · rfl
          · split <;> rfl
      | reinstate userId =>
          simp only [authzStep]
          split
          · rfl
          · split <;> rfl
  | missed userId =>
      simp only [authzStep]
      split <;> rfl
  | approving admin helper =>
      simp only [authzStep]
      split <;> rfl
  | found userId principal => exact hp.elim
  | deciding m => exact hp.elim
  | committed m => exact hp.elim
  | invalidated m => exact hp.elim
  | suspending user => rfl
  | reinstating user => rfl
  | told userId reply => rfl
  | answered answer => rfl

theorem observeAuthz_reads {s : Moderated} {p : Remembering} (hp : p.1.Reads) (a : AuthzInput) :
    (observeAuthz s p a).1 = s.tick a.now := by
  obtain ⟨phase, memory⟩ := p
  unfold observeAuthz authzAdvance
  dsimp only
  rw [authzStep_reads hp]
  cases phase with
  | found userId principal => exact hp.elim
  | deciding m => exact hp.elim
  | committed m => exact hp.elim
  | invalidated m => exact hp.elim
  | arrived request => rfl
  | missed userId => rfl
  | suspending user => rfl
  | reinstating user => rfl
  | approving admin helper => rfl
  | told userId reply => rfl
  | answered answer => rfl

theorem AuthzPhase.Reads.not_owes {p : AuthzPhase} (hp : p.Reads) (userId : UserId) :
    ¬ p.Owes userId := by
  cases p with
  | committed m => exact hp.elim
  | invalidated m => exact hp.elim
  | found userId principal => exact hp.elim
  | deciding m => exact hp.elim
  | arrived request => exact not_false
  | missed userId => exact not_false
  | suspending user => exact not_false
  | reinstating user => exact not_false
  | approving admin helper => exact not_false
  | told userId reply => exact not_false
  | answered answer => exact not_false

theorem CacheOk.reads (h : CacheOk w) (hp : (w.threads l.1).1.Reads) :
    CacheOk (threadStep observeAuthz w l) := by
  have hstore : (threadStep observeAuthz w l).store = w.store.tick l.2.now :=
    observeAuthz_reads hp l.2
  intro userId principal hget
  rw [hstore] at hget
  have hbefore := h userId principal (KeyValues.get_of_le (le_max_left _ _) hget)
  apply hbefore.step (hp.not_owes userId)
  · rw [hstore]
    rfl
  · rw [hstore]
    exact id

/-- A lookup that caches what is so, or what somebody has yet to drop. -/
theorem CacheOk.fill {userId : UserId} {principal : Principal} (h : CacheOk w)
    (hb : BarredOk w.store) (hphase : (w.threads l.1).1 = .found userId principal)
    (hpunctual : Punctual w l.1) (hredis : l.2.redis = .done) :
    CacheOk (threadStep observeAuthz w l) := by
  have hstore : (threadStep observeAuthz w l).store.store =
      cachePrincipal { w.store.store with clock := max w.store.store.clock l.2.now } userId
        principal .done := by
    rw [threadStep_store]
    simp only [observeAuthz, authzAdvance, authzStep, hphase, hredis]
  have hdb : (threadStep observeAuthz w l).store.store.db = w.store.store.db := by
    rw [hstore]
    rfl
  have hstanding : ∀ userId', (threadStep observeAuthz w l).store.Standing userId' →
      w.store.Standing userId' := by
    intro userId' hs
    simp only [Moderated.Standing, threadStep_store, observeAuthz, Moderated.reinstating,
      Moderated.barring, hphase] at hs
    exact hs
  have hself : ∀ userId', ¬ (w.threads l.1).1.Owes userId' := by
    intro userId'
    rw [hphase]
    exact not_false
  unfold Punctual at hpunctual
  rw [hphase] at hpunctual
  intro userId' principal' hget
  rw [hstore] at hget
  by_cases hid : userId' = userId
  · subst hid
    obtain rfl := KeyValues.get_set_self hget
    constructor
    · intro hs
      rcases hpunctual with hload | ⟨hnot, -⟩
      · exact (hb.suspended (hstanding _ hs)).principal hload
      · exact absurd (hstanding _ hs) hnot
    · rw [hdb]
      rcases hpunctual with hload | ⟨-, howes⟩
      · exact Or.inl hload
      · exact Or.inr (owes_step (hself _) howes)
  · have hbefore : w.store.store.principals.get (max w.store.store.clock l.2.now) userId' =
        some principal' := (KeyValues.get_set_of_ne hid).symm.trans hget
    apply (h userId' principal' (KeyValues.get_of_le (le_max_left _ _) hbefore)).step (hself _)
    · rw [hdb]
    · exact hstanding userId'

/-- A commit makes the cache stale for one account, and owes its invalidation. -/
theorem CacheOk.commit {m : Moderation} (h : CacheOk w) (hb : BarredOk w.store)
    (hphase : (w.threads l.1).1 = .deciding m)
    (hrows : ∀ rows ∈ m.helper, HelperOf w.store.store.db rows.1.id m.user.id) :
    CacheOk (threadStep observeAuthz w l) := by
  have hstore : (threadStep observeAuthz w l).store.store =
      { w.store.store with
        clock := max w.store.store.clock l.2.now
        db := w.store.store.db.moderate m } := by
    rw [threadStep_store]
    simp only [observeAuthz, authzAdvance, authzStep, hphase]
  have hstanding : ∀ userId, (threadStep observeAuthz w l).store.Standing userId →
      w.store.Standing userId := by
    intro userId hs
    have hin : (userId, w.store.reinstating (.deciding m) userId) ∈ w.store.barred := by
      simp only [Moderated.Standing, threadStep_store, observeAuthz, Moderated.barring,
        hphase] at hs
      exact hs
    have hle : w.store.reinstating (.deciding m) userId ≤ w.store.reinstated userId := (hb _ hin).le
    have hsame := le_antisymm hle (reinstated_le w.store (.deciding m) userId)
    rw [hsame] at hin
    exact hin
  have hself : ∀ userId, ¬ (w.threads l.1).1.Owes userId := by
    intro userId
    rw [hphase]
    exact not_false
  intro userId principal hget
  rw [hstore] at hget
  have hbefore := h userId principal (KeyValues.get_of_le (le_max_left _ _) hget)
  by_cases hid : userId = m.user.id
  · refine ⟨fun hs => hbefore.bars (hstanding _ hs), Or.inr ⟨l.1, ?_⟩⟩
    rw [threadStep_threads_self]
    simp only [observeAuthz, authzAdvance, authzStep, hphase]
    exact hid.symm
  · apply hbefore.step (hself _)
    · rw [hstore]
      exact loadPrincipal_moderate_of_ne hrows hid
    · exact hstanding userId

/-- Dropping a snapshot leaves the others as they were. -/
theorem CacheOk.drop {m : Moderation} (h : CacheOk w)
    (hphase : (w.threads l.1).1 = .committed m ∨ (w.threads l.1).1 = .invalidated m)
    (hredis : l.2.redis = .done) : CacheOk (threadStep observeAuthz w l) := by
  have hstore : (threadStep observeAuthz w l).store.store =
      invalidatePrincipal { w.store.store with clock := max w.store.store.clock l.2.now }
        m.user.id .done := by
    rw [threadStep_store]
    rcases hphase with hphase | hphase <;>
      simp only [observeAuthz, authzAdvance, authzStep, hphase, hredis]
  have hstanding : ∀ userId, userId ≠ m.user.id →
      (threadStep observeAuthz w l).store.Standing userId → w.store.Standing userId := by
    intro userId hid hs
    rcases hphase with hphase | hphase
    · simp only [Moderated.Standing, threadStep_store, observeAuthz, Moderated.reinstating,
        Moderated.barring, hphase] at hs
      exact hs
    · simp only [Moderated.Standing, threadStep_store, observeAuthz, Moderated.reinstating,
        Moderated.barring, hphase] at hs
      cases m with
      | suspension user helper =>
          rcases List.mem_cons.mp hs with heq | hs
          · exact absurd (congrArg Prod.fst heq) hid
          · exact hs
      | approval admin helper user => exact hs
      | reinstatement user helper => exact hs
  have hself : ∀ userId, userId ≠ m.user.id → ¬ (w.threads l.1).1.Owes userId := by
    intro userId hid howes
    rcases hphase with hphase | hphase
    · rw [hphase] at howes
      exact hid howes.symm
    · rw [hphase] at howes
      exact hid howes.symm
  intro userId principal hget
  rw [hstore] at hget
  by_cases hid : userId = m.user.id
  · subst hid
    cases (KeyValues.get_del_self ..).symm.trans hget
  · have hbefore : w.store.store.principals.get (max w.store.store.clock l.2.now) userId =
        some principal := (KeyValues.get_del_of_ne hid).symm.trans hget
    apply (h userId principal (KeyValues.get_of_le (le_max_left _ _) hbefore)).step (hself _ hid)
    · rw [hstore]
      rfl
    · exact hstanding userId hid

/-! ## §3 Runs -/

/-- What every state of a run satisfies. -/
structure ModeratedOk (w : World Moderated Remembering) : Prop where
  cache : CacheOk w
  barred : BarredOk w.store
  request : ∀ t, RequestOk w.store (w.threads t)

theorem ModeratedOk.step (h : ModeratedOk w) (hpunctual : Punctual w l.1)
    (hredis : l.2.redis = .done) : ModeratedOk (threadStep observeAuthz w l) := by
  have hticked : CacheBars (w.store.tick l.2.now) := by
    intro userId principal hget
    exact (h.cache userId principal (KeyValues.get_of_le (le_max_left _ _) hget)).bars
  have hinformed : ∀ m, (w.threads l.1).1 = .deciding m → Informed w.store m := by
    intro m hphase
    unfold Punctual at hpunctual
    rw [hphase] at hpunctual
    exact hpunctual
  have hstep : RequestStep w.store (observeAuthz w.store (w.threads l.1) l.2) :=
    requestStep h.barred hticked (h.request l.1) hinformed
  refine ⟨?_, hstep.barred, threads_ok_step RequestOk h.request ?_ ?_⟩
  · have hrequest := (h.request l.1).2
    unfold PhaseKnows at hrequest
    cases hphase : (w.threads l.1).1 with
    | found userId principal => exact h.cache.fill h.barred hphase hpunctual hredis
    | deciding m =>
        rw [hphase] at hrequest
        exact h.cache.commit h.barred hphase hrequest
    | committed m => exact h.cache.drop (Or.inl hphase) hredis
    | invalidated m => exact h.cache.drop (Or.inr hphase) hredis
    | _ =>
        apply h.cache.reads
        rw [hphase]
        trivial
  · rw [threadStep_threads_self]
    exact hstep.request
  · intro p hp
    exact hp.mono hstep.later

theorem ModeratedOk.holds (h : ModeratedOk w) : SuspensionHolds w ∧ CacheCurrent w := by
  constructor
  · intro t userId principal memory ht
    have hknows := (h.request t).2
    rw [ht] at hknows
    exact hknows
  · intro hrest userId principal hget
    rcases (h.cache userId principal hget).current with hload | ⟨t, howes⟩
    · exact hload
    · have ht := hrest t
      cases hphase : (w.threads t).1 with
      | committed m =>
          rw [hphase] at ht
          exact ht.elim
      | invalidated m =>
          rw [hphase] at ht
          exact ht.elim
      | _ =>
          rw [hphase] at howes
          exact howes.elim

end

/-- Requests that have all yet to begin, over a cache that says what Postgres would. -/
def authzArrived (db : AccountsDb) (principals : KeyValues UserId Principal) (now : Instant)
    (requests : ℕ → AuthzRequest) : World Moderated Remembering where
  store := ⟨⟨db, principals, now⟩, fun _ => 0, []⟩
  threads t := (.arrived (requests t), ⟨[], 0⟩)

/-- **A suspension takes effect on the next lookup**, and a cache at rest says
what Postgres would, in any interleaving of any requests whose steps are all
punctual and find Redis available. -/
theorem suspension_holds_of_punctual (db : AccountsDb) (principals : KeyValues UserId Principal)
    (now : Instant) (requests : ℕ → AuthzRequest)
    (hcache : ∀ userId principal, principals.get now userId = some principal →
      loadPrincipal db userId = some principal)
    (ls : List (ℕ × AuthzInput)) (havailable : ∀ l ∈ ls, l.2.redis = .done)
    (hpunctual : Throughout (threadStep observeAuthz) (fun w l => Punctual w l.1)
      (authzArrived db principals now requests) ls) :
    Always (threadStep observeAuthz) (fun w => SuspensionHolds w ∧ CacheCurrent w)
      (authzArrived db principals now requests) ls := by
  have hstart : ModeratedOk (authzArrived db principals now requests) := by
    refine ⟨?_, nofun, ?_⟩
    · intro userId principal hget
      exact ⟨nofun, Or.inl (hcache userId principal hget)⟩
    · intro t
      exact ⟨List.Subset.refl _, trivial⟩
  have hrun := always_of_throughout (fun w l (h : ModeratedOk w) hl => h.step hl.1 hl.2) hstart
    (hpunctual.and_mem havailable)
  exact hrun.imp fun w h => h.holds

/-- An admin and a student in good standing. -/
def campusAccounts : AccountsDb where
  users := ⟨[⟨⟨1, "admin@ulab.edu.bd".toList, .admin, "Dev Admin".toList, none, .active⟩, []⟩,
    ⟨⟨7, "student1@ulab.edu.bd".toList, .student, "Alice Rahman".toList, none, .active⟩, []⟩],
    by decide⟩
  students := .empty
  helpers := .empty

/-- The student's app asks twice; in between the admin suspends the account. -/
def suspensionDay : ℕ → AuthzRequest
  | 0 => .principal 7
  | 1 => .suspend 1 7
  | _ => .principal 7

def atSecond (second : ℚ) : AuthzInput := ⟨second, .done⟩

/-- The first lookup over before the suspension begins. -/
theorem suspension_holds_of_punctual_inTurn :
    Always (threadStep observeAuthz) (fun w => SuspensionHolds w ∧ CacheCurrent w)
      (authzArrived campusAccounts (.empty UserId Principal) 0 suspensionDay)
      [(0, atSecond 1), (0, atSecond 1), (0, atSecond 1), (1, atSecond 2), (1, atSecond 2),
        (1, atSecond 2), (1, atSecond 2), (1, atSecond 2), (2, atSecond 3)] := by
  apply suspension_holds_of_punctual
  · exact nofun
  · simp [atSecond]
  · refine ⟨trivial, trivial, Or.inl ?_, trivial, trivial, ?_, trivial, trivial, trivial, trivial⟩
    · decide +kernel
    · exact nofun

/-- The first lookup reads the account active; the account is suspended and its
snapshot dropped twice; then the lookup caches what it read, and the next one is
let in. -/
theorem late_fill_lets_the_suspended_in :
    ¬ SuspensionHolds (run (threadStep observeAuthz)
      (authzArrived campusAccounts (.empty UserId Principal) 0 suspensionDay)
      [(0, atSecond 1), (0, atSecond 1), (1, atSecond 2), (1, atSecond 2), (1, atSecond 2),
        (1, atSecond 2), (1, atSecond 2), (0, atSecond 3), (2, atSecond 4)]) := by
  intro h
  have htold : (run (threadStep observeAuthz)
      (authzArrived campusAccounts (.empty UserId Principal) 0 suspensionDay)
      [(0, atSecond 1), (0, atSecond 1), (1, atSecond 2), (1, atSecond 2), (1, atSecond 2),
        (1, atSecond 2), (1, atSecond 2), (0, atSecond 3), (2, atSecond 4)]).threads 2 =
      (.told 7 (.ok ⟨7, .student, .active, none, none⟩), ⟨[(7, 0)], 0⟩) := by
    decide +kernel
  have hlt := h 2 7 _ _ htold 0 List.mem_cons_self
  exact absurd hlt (by decide +kernel)

end UniTrack
