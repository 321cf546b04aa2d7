import UniTrack.Routes.Moderation

/-!
# Suspended until reinstated

Which suspensions have finished, and which were undone, is counted beside the
store: a suspension stands until a reinstatement commits after it did.

## §1 Suspensions that have finished
## §2 What a commit does to other accounts
## §3 What every request carries
## §4 One step of a request
-/

namespace UniTrack

open UniTrack.Framework UniTrack.Python

/-! ## §1 Suspensions that have finished -/

/-- The store; how often each account was reinstated; and the suspensions that
have finished, each with how often its account had been reinstated before it. -/
structure Moderated where
  store : AuthzStore
  reinstated : UserId → ℕ
  barred : List (UserId × ℕ)

/-- What a request keeps in mind: the suspensions finished when it began, and
how often its account had been reinstated when it committed. -/
structure Memory where
  since : List (UserId × ℕ)
  epoch : ℕ
deriving DecidableEq

abbrev Remembering := AuthzPhase × Memory

def Moderated.reinstating (s : Moderated) : AuthzPhase → UserId → ℕ
  | .deciding (.reinstatement user _) =>
      Function.update s.reinstated user.id (s.reinstated user.id + 1)
  | _ => s.reinstated

def Moderated.barring (s : Moderated) (p : Remembering) : List (UserId × ℕ) :=
  match p.1 with
  | .invalidated (.suspension user _) => (user.id, p.2.epoch) :: s.barred
  | _ => s.barred

def Moderated.remembering (s : Moderated) (p : Remembering) : Memory :=
  match p.1 with
  | .arrived _ => ⟨s.barred, 0⟩
  | .deciding m => ⟨p.2.since, s.reinstated m.user.id⟩
  | _ => p.2

def observeAuthz (s : Moderated) (p : Remembering) (a : AuthzInput) : Moderated × Remembering :=
  ({ store := (authzAdvance s.store p.1 a).1
     reinstated := s.reinstating p.1
     barred := s.barring p },
    ((authzAdvance s.store p.1 a).2, s.remembering p))

/-- The account's last suspension has finished, and was not undone. -/
def Moderated.Standing (s : Moderated) (userId : UserId) : Prop :=
  (userId, s.reinstated userId) ∈ s.barred

/-- An account read as suspended is suspended still, and none that is suspended
is approved. -/
def Informed (s : Moderated) (m : Moderation) : Prop :=
  match m with
  | .suspension user _ => user.status = .suspended → Suspended s.store.db user.id
  | .approval _ _ user => user.status ≠ .active → ¬ Suspended s.store.db user.id
  | .reinstatement _ _ => True

/-! ## §2 What a commit does to other accounts -/

section
variable {db : AccountsDb} {m : Moderation} {userId : UserId}

/-- A helper's row with this id is of this account. -/
def HelperOf (db : AccountsDb) (helperId : HelperId) (userId : UserId) : Prop :=
  ∀ g ∈ db.helpers, g.id = helperId → g.userId = userId

theorem helperOf_of_mem {h : Helper} (hh : h ∈ db.helpers) : HelperOf db h.id h.userId := by
  intro g hg hid
  rw [db.helpers.eq_of_clash hg hh (Helper.clash_iff.mpr (Or.inl hid))]

theorem HelperOf.moderate {helperId : HelperId} (h : HelperOf db helperId userId) :
    HelperOf (db.moderate m) helperId userId := by
  intro k hk hid
  obtain ⟨g, hg, rfl⟩ := mem_moderate_helpers.mp hk
  rw [(m.leave_keys g).1] at hid
  rw [(m.leave_keys g).2]
  exact h g hg hid

theorem get_moderate_of_ne (h : userId ≠ m.user.id) :
    (db.moderate m).get userId = db.get userId := by
  ext u
  rw [AccountsDb.get_eq_some, AccountsDb.get_eq_some, mem_moderate_users]
  constructor
  · rintro ⟨⟨v, hv, rfl⟩, hid⟩
    by_cases hmv : v.id = m.user.id
    · rw [if_pos hmv] at hid
      exact absurd (hid.symm.trans hmv) h
    · rw [if_neg hmv] at hid ⊢
      exact ⟨hv, hid⟩
  · rintro ⟨hu, rfl⟩
    exact ⟨⟨u, hu, if_neg h⟩, rfl⟩

theorem helperByUserId_moderate_of_ne (hm : ∀ rows ∈ m.helper, HelperOf db rows.1.id m.user.id)
    (h : userId ≠ m.user.id) : (db.moderate m).helperByUserId userId = db.helperByUserId userId := by
  have hleft : ∀ g ∈ db.helpers, g.userId = userId → m.leave g = g := by
    intro g hg huser
    apply Moderation.leave_of_ne
    intro rows hrows hid
    exact h (huser.symm.trans (hm rows hrows g hg hid))
  ext k
  rw [AccountsDb.helperByUserId_eq_some, AccountsDb.helperByUserId_eq_some, mem_moderate_helpers]
  constructor
  · rintro ⟨⟨g, hg, rfl⟩, huser⟩
    rw [(m.leave_keys g).2] at huser
    rw [hleft g hg huser]
    exact ⟨hg, huser⟩
  · rintro ⟨hk, huser⟩
    exact ⟨⟨k, hk, hleft k hk huser⟩, huser⟩

/-- **One commit, one account**: the snapshots of the others stay. -/
theorem loadPrincipal_moderate_of_ne
    (hm : ∀ rows ∈ m.helper, HelperOf db rows.1.id m.user.id) (h : userId ≠ m.user.id) :
    loadPrincipal (db.moderate m) userId = loadPrincipal db userId :=
  loadPrincipal_congr (get_moderate_of_ne h) (helperByUserId_moderate_of_ne hm h)

theorem suspended_moderate_of_ne (h : userId ≠ m.user.id) (hs : Suspended db userId) :
    Suspended (db.moderate m) userId := by
  intro u hu hid
  obtain ⟨v, hv, rfl⟩ := mem_moderate_users.mp hu
  by_cases hmv : v.id = m.user.id
  · rw [if_pos hmv] at hid
    exact absurd (hid.symm.trans hmv) h
  · rw [if_neg hmv] at hid ⊢
    exact hs v hv hid

/-- A commit leaves its account suspended when it writes that, or writes no status. -/
theorem suspended_moderate_self
    (h : (changed m.user.status m.status = none ∧ Suspended db m.user.id) ∨
      changed m.user.status m.status = some .suspended) :
    Suspended (db.moderate m) m.user.id := by
  intro u hu hid
  obtain ⟨v, hv, rfl⟩ := mem_moderate_users.mp hu
  by_cases hmv : v.id = m.user.id
  · rw [if_pos hmv]
    rcases h with ⟨hnone, hs⟩ | hsome
    · rw [hnone]
      exact hs v hv hmv
    · rw [hsome]
      rfl
  · rw [if_neg hmv] at hid
    exact absurd hid hmv

end

/-! ## §3 What every request carries -/

/-- Suspensions and reinstatements only accumulate, and an account that is
suspended stays so until it is reinstated. -/
structure Moderated.Later (s s' : Moderated) : Prop where
  barred : s.barred ⊆ s'.barred
  reinstated : ∀ userId, s.reinstated userId ≤ s'.reinstated userId
  helperOf : ∀ helperId userId,
    HelperOf s.store.db helperId userId → HelperOf s'.store.db helperId userId
  suspended : ∀ userId, s'.reinstated userId = s.reinstated userId →
    Suspended s.store.db userId → Suspended s'.store.db userId

/-- Since the account had been reinstated `n` times it has been reinstated again,
or is suspended. -/
structure Counted (s : Moderated) (userId : UserId) (n : ℕ) : Prop where
  le : n ≤ s.reinstated userId
  suspended : s.reinstated userId = n → Suspended s.store.db userId

def PhaseKnows (s : Moderated) (p : Remembering) : Prop :=
  match p.1 with
  | .approving _ helper => HelperOf s.store.db helper.id helper.userId
  | .deciding m => ∀ rows ∈ m.helper, HelperOf s.store.db rows.1.id m.user.id
  | .committed (.suspension user _) => Counted s user.id p.2.epoch
  | .invalidated (.suspension user _) => Counted s user.id p.2.epoch
  | .found userId principal => ∀ n, (userId, n) ∈ p.2.since →
      principal.status ≠ .suspended → n < s.reinstated userId
  | .told userId (.ok _) => ∀ n, (userId, n) ∈ p.2.since → n < s.reinstated userId
  | _ => True

/-- What a request carries from step to step. -/
def RequestOk (s : Moderated) (p : Remembering) : Prop := p.2.since ⊆ s.barred ∧ PhaseKnows s p

/-- Every suspension that has finished is undone or in force. -/
def BarredOk (s : Moderated) : Prop := ∀ entry ∈ s.barred, Counted s entry.1 entry.2

section
variable {s s' : Moderated} {p : Remembering} {a : AuthzInput}

theorem Counted.mono {userId : UserId} {n : ℕ} (h : Counted s userId n) (hl : s.Later s') :
    Counted s' userId n where
  le := le_trans h.le (hl.reinstated userId)
  suspended hn := by
    have hsame : s'.reinstated userId = s.reinstated userId :=
      le_antisymm (hn.trans_le h.le) (hl.reinstated userId)
    exact hl.suspended userId hsame (h.suspended (hsame.symm.trans hn))

theorem BarredOk.mono (h : BarredOk s) (hl : s.Later s') (hsame : s'.barred = s.barred) :
    BarredOk s' := by
  intro entry hentry
  rw [hsame] at hentry
  exact (h entry hentry).mono hl

/-- The last suspension of the account was not undone, so it is suspended. -/
theorem BarredOk.suspended {userId : UserId} (h : BarredOk s) (hstanding : s.Standing userId) :
    Suspended s.store.db userId :=
  (h _ hstanding).suspended rfl

/-- A suspension finished, and not the standing one, was undone. -/
theorem BarredOk.lt {userId : UserId} {n : ℕ} (h : BarredOk s) (hn : (userId, n) ∈ s.barred)
    (hnot : ¬ s.Standing userId) : n < s.reinstated userId := by
  refine lt_of_le_of_ne (h _ hn).le ?_
  rintro rfl
  exact hnot hn

theorem RequestOk.mono (h : RequestOk s p) (hl : s.Later s') : RequestOk s' p := by
  obtain ⟨phase, memory⟩ := p
  obtain ⟨hsince, hknows⟩ := h
  refine ⟨List.Subset.trans hsince hl.barred, ?_⟩
  cases phase with
  | approving admin helper => exact hl.helperOf _ _ hknows
  | deciding m =>
      intro rows hrows
      exact hl.helperOf _ _ (hknows rows hrows)
  | committed m =>
      cases m with
      | suspension user helper => exact Counted.mono hknows hl
      | approval admin helper user => trivial
      | reinstatement user helper => trivial
  | invalidated m =>
      cases m with
      | suspension user helper => exact Counted.mono hknows hl
      | approval admin helper user => trivial
      | reinstatement user helper => trivial
  | found userId principal =>
      intro n hn hstatus
      exact lt_of_lt_of_le (hknows n hn hstatus) (hl.reinstated userId)
  | told userId reply =>
      cases reply with
      | ok principal =>
          intro n hn
          exact lt_of_lt_of_le (hknows n hn) (hl.reinstated userId)
      | refused statusCode detail => trivial
      | crashed => trivial
  | arrived request => trivial
  | missed userId => trivial
  | suspending user => trivial
  | reinstating user => trivial
  | answered answer => trivial

/-- After an informed commit an account is suspended if it was, or if it was the
one to suspend, unless it was reinstated. -/
theorem suspended_commit {m : Moderation} (hm : Informed s m) {userId : UserId}
    (hsame : s.reinstating (.deciding m) userId = s.reinstated userId)
    (hs : Suspended s.store.db userId ∨ (userId = m.user.id ∧ m.status = .suspended)) :
    Suspended (s.store.db.moderate m) userId := by
  by_cases hself : userId = m.user.id
  · subst hself
    apply suspended_moderate_self
    cases m with
    | suspension user helper =>
        by_cases hread : user.status = .suspended
        · exact Or.inl ⟨if_pos hread.symm, hm hread⟩
        · exact Or.inr (if_neg (Ne.symm hread))
    | approval admin helper user =>
        have hbefore : Suspended s.store.db user.id := by
          rcases hs with hs | ⟨-, hstatus⟩
          · exact hs
          · cases hstatus
        by_cases hread : user.status = .active
        · exact Or.inl ⟨if_pos hread.symm, hbefore⟩
        · exact absurd hbefore (hm hread)
    | reinstatement user helper =>
        simp [Moderated.reinstating, Moderation.user] at hsame
  · rcases hs with hs | ⟨hid, -⟩
    · exact suspended_moderate_of_ne hself hs
    · exact absurd hid hself

theorem reinstated_le (s : Moderated) (p : AuthzPhase) (userId : UserId) :
    s.reinstated userId ≤ s.reinstating p userId := by
  unfold Moderated.reinstating
  split
  · rename_i user helper
    by_cases hid : userId = user.id
    · subst hid
      rw [Function.update_self]
      exact Nat.le_succ _
    · rw [Function.update_of_ne hid]
  · exact le_refl _

theorem barred_subset (s : Moderated) (p : Remembering) : s.barred ⊆ s.barring p := by
  unfold Moderated.barring
  split
  · exact List.subset_cons_self _ _
  · exact List.Subset.refl _

/-! ## §4 One step of a request -/

def Moderated.tick (s : Moderated) (now : Instant) : Moderated :=
  { s with store := { s.store with clock := max s.store.clock now } }

theorem later_tick (s : Moderated) (now : Instant) : s.Later (s.tick now) :=
  ⟨List.Subset.refl _, fun _ => le_refl _, fun _ _ h => h, fun _ _ h => h⟩

/-- Nobody is cached as active whose suspension stands. -/
def CacheBars (s : Moderated) : Prop := ∀ userId principal,
  s.store.principals.get s.store.clock userId = some principal → s.Standing userId →
    principal.status = .suspended

/-- What a step establishes. -/
structure RequestStep (s : Moderated) (after : Moderated × Remembering) : Prop where
  later : s.Later after.1
  barred : BarredOk after.1
  request : RequestOk after.1 after.2

theorem RequestStep.of_tick {now : Instant} (h : BarredOk s) (hp : RequestOk (s.tick now) p) :
    RequestStep s (s.tick now, p) where
  later := later_tick s now
  barred := h.mono (later_tick s now) rfl
  request := hp

/-- The first step of a lookup. -/
theorem requestStep_lookup {userId : UserId} {memory : Memory} (h : BarredOk s)
    (hcache : CacheBars (s.tick a.now)) :
    RequestStep s (observeAuthz s (.arrived (.principal userId), memory) a) := by
  simp only [observeAuthz, authzAdvance, authzStep]
  cases hcached : cachedPrincipal { s.store with clock := max s.store.clock a.now } userId a.redis with
  | none => exact .of_tick h ⟨List.Subset.refl _, trivial⟩
  | some principal =>
      refine .of_tick h ⟨List.Subset.refl _, ?_⟩
      unfold cachedPrincipal at hcached
      split at hcached
      · unfold PhaseKnows
        dsimp only
        cases haccept : acceptPrincipal (some principal) with
        | ok accepted =>
            obtain ⟨hsome, hstatus⟩ := acceptPrincipal_eq_ok.mp haccept
            obtain rfl := Option.some.inj hsome
            intro n hn
            apply h.lt hn
            intro hstanding
            exact hstatus (hcache userId _ hcached hstanding)
        | refused statusCode detail => trivial
        | crashed => trivial
      · cases hcached

/-- The first step of a request that moderates. -/
theorem requestStep_arrived {request : AuthzRequest} {memory : Memory} (h : BarredOk s)
    (hcache : CacheBars (s.tick a.now)) :
    RequestStep s (observeAuthz s (.arrived request, memory) a) := by
  cases request with
  | principal userId => exact requestStep_lookup h hcache
  | suspend admin userId =>
      simp only [observeAuthz, authzAdvance, authzStep]
      split
      · exact .of_tick h ⟨List.Subset.refl _, trivial⟩
      · split
        · exact .of_tick h ⟨List.Subset.refl _, trivial⟩
        · exact .of_tick h ⟨List.Subset.refl _, trivial⟩
  | approve admin helperId =>
      simp only [observeAuthz, authzAdvance, authzStep]
      split
      · exact .of_tick h ⟨List.Subset.refl _, trivial⟩
      · rename_i helper hhelper
        obtain ⟨hmem, -⟩ := AccountsDb.getHelper_eq_some.mp hhelper
        split
        · exact .of_tick h ⟨List.Subset.refl _, trivial⟩
        · exact .of_tick h ⟨List.Subset.refl _, helperOf_of_mem hmem⟩
  | reinstate userId =>
      simp only [observeAuthz, authzAdvance, authzStep]
      split
      · exact .of_tick h ⟨List.Subset.refl _, trivial⟩
      · split
        · exact .of_tick h ⟨List.Subset.refl _, trivial⟩
        · exact .of_tick h ⟨List.Subset.refl _, trivial⟩

/-- A lookup that reads Postgres does not find an account active whose
suspension stands. -/
theorem requestStep_missed {userId : UserId} {memory : Memory} (h : BarredOk s)
    (hsince : memory.since ⊆ s.barred) :
    RequestStep s (observeAuthz s (.missed userId, memory) a) := by
  simp only [observeAuthz, authzAdvance, authzStep]
  cases hload : loadPrincipal s.store.db userId with
  | none => exact .of_tick h ⟨hsince, trivial⟩
  | some principal =>
      refine .of_tick h ⟨hsince, ?_⟩
      intro n hn hstatus
      apply h.lt (hsince hn)
      intro hstanding
      exact hstatus ((h.suspended hstanding).principal hload)

theorem HelperOf.of_read {db : AccountsDb} {userId : UserId} {left : Helper → Helper}
    {rows : Helper × Helper}
    (hrows : rows ∈ (db.helperByUserId userId).map fun h => (h, left h)) :
    HelperOf db rows.1.id userId := by
  obtain ⟨read, hread, rfl⟩ := Option.map_eq_some_iff.mp hrows
  obtain ⟨hmem, rfl⟩ := AccountsDb.helperByUserId_eq_some.mp hread
  exact helperOf_of_mem hmem

/-- The second read of a request that moderates. -/
theorem requestStep_suspending {user : Account} {memory : Memory} (h : BarredOk s)
    (hsince : memory.since ⊆ s.barred) :
    RequestStep s (observeAuthz s (.suspending user, memory) a) :=
  .of_tick h ⟨hsince, fun _ hrows => HelperOf.of_read hrows⟩

theorem requestStep_reinstating {user : Account} {memory : Memory} (h : BarredOk s)
    (hsince : memory.since ⊆ s.barred) :
    RequestStep s (observeAuthz s (.reinstating user, memory) a) :=
  .of_tick h ⟨hsince, fun _ hrows => HelperOf.of_read hrows⟩

theorem requestStep_approving {admin : UserId} {helper : Helper} {memory : Memory}
    (h : BarredOk s) (hsince : memory.since ⊆ s.barred)
    (hhelper : HelperOf s.store.db helper.id helper.userId) :
    RequestStep s (observeAuthz s (.approving admin helper, memory) a) := by
  simp only [observeAuthz, authzAdvance, authzStep]
  cases huser : s.store.db.get helper.userId with
  | none => exact .of_tick h ⟨hsince, trivial⟩
  | some user =>
      obtain ⟨-, hid⟩ := AccountsDb.get_eq_some.mp huser
      refine .of_tick h ⟨hsince, ?_⟩
      rintro rows hrows
      obtain rfl := Option.some.inj hrows
      show HelperOf s.store.db helper.id user.id
      rw [hid]
      exact hhelper

/-- The commit. -/
theorem requestStep_deciding {m : Moderation} {memory : Memory} (h : BarredOk s)
    (hsince : memory.since ⊆ s.barred) (hm : Informed s m) :
    RequestStep s (observeAuthz s (.deciding m, memory) a) := by
  have hlater : s.Later (observeAuthz s (.deciding m, memory) a).1 := by
    refine ⟨barred_subset s (.deciding m, memory), reinstated_le s _, ?_, ?_⟩
    · intro helperId userId hof
      exact hof.moderate
    · intro userId hsame hs
      exact suspended_commit hm hsame (Or.inl hs)
  refine ⟨hlater, h.mono hlater rfl, hsince, ?_⟩
  cases m with
  | suspension user helper =>
      refine ⟨le_refl _, ?_⟩
      intro hsame
      exact suspended_commit hm hsame (Or.inr ⟨rfl, rfl⟩)
  | approval admin helper user => trivial
  | reinstatement user helper => trivial

/-- The steps that only touch the cache. -/
theorem later_of_db (hdb : s'.store.db = s.store.db) (hreinstated : s'.reinstated = s.reinstated)
    (hbarred : s.barred ⊆ s'.barred) : s.Later s' where
  barred := hbarred
  reinstated userId := by rw [hreinstated]
  helperOf helperId userId hof := by
    rw [hdb]
    exact hof
  suspended userId _ hs := by
    rw [hdb]
    exact hs

theorem requestStep_found {userId : UserId} {principal : Principal} {memory : Memory}
    (h : BarredOk s) (hp : RequestOk s (.found userId principal, memory)) :
    RequestStep s (observeAuthz s (.found userId principal, memory) a) := by
  have hlater : s.Later (observeAuthz s (.found userId principal, memory) a).1 := by
    refine later_of_db ?_ rfl (List.Subset.refl _)
    simp only [observeAuthz, authzAdvance, authzStep, cachePrincipal_db]
  refine ⟨hlater, h.mono hlater rfl, hp.1, ?_⟩
  simp only [PhaseKnows, observeAuthz, authzAdvance, authzStep]
  cases haccept : acceptPrincipal (some principal) with
  | ok accepted =>
      obtain ⟨hsome, hstatus⟩ := acceptPrincipal_eq_ok.mp haccept
      obtain rfl := Option.some.inj hsome
      intro n hn
      exact hp.2 n hn hstatus
  | refused statusCode detail => trivial
  | crashed => trivial

theorem requestStep_committed {m : Moderation} {memory : Memory} (h : BarredOk s)
    (hp : RequestOk s (.committed m, memory)) :
    RequestStep s (observeAuthz s (.committed m, memory) a) := by
  have hlater : s.Later (observeAuthz s (.committed m, memory) a).1 := by
    refine later_of_db ?_ rfl (List.Subset.refl _)
    simp only [observeAuthz, authzAdvance, authzStep, invalidatePrincipal_db]
  refine ⟨hlater, h.mono hlater rfl, hp.1, ?_⟩
  cases m with
  | suspension user helper => exact Counted.mono hp.2 hlater
  | approval admin helper user => trivial
  | reinstatement user helper => trivial

/-- The end of a request: a suspension that finishes counts from here on. -/
theorem requestStep_invalidated {m : Moderation} {memory : Memory} (h : BarredOk s)
    (hp : RequestOk s (.invalidated m, memory)) :
    RequestStep s (observeAuthz s (.invalidated m, memory) a) := by
  have hbarred : s.barred ⊆ (observeAuthz s (.invalidated m, memory) a).1.barred :=
    barred_subset s (.invalidated m, memory)
  have hlater : s.Later (observeAuthz s (.invalidated m, memory) a).1 := by
    refine later_of_db ?_ rfl hbarred
    simp only [observeAuthz, authzAdvance, authzStep, invalidatePrincipal_db]
  refine ⟨hlater, ?_, List.Subset.trans hp.1 hbarred, trivial⟩
  cases m with
  | suspension user helper =>
      intro entry hentry
      rcases List.mem_cons.mp hentry with rfl | hentry
      · exact Counted.mono hp.2 hlater
      · exact (h entry hentry).mono hlater
  | approval admin helper user => exact h.mono hlater rfl
  | reinstatement user helper => exact h.mono hlater rfl

/-- **One step**, of any request. -/
theorem requestStep (h : BarredOk s) (hcache : CacheBars (s.tick a.now)) (hp : RequestOk s p)
    (hm : ∀ m, p.1 = .deciding m → Informed s m) : RequestStep s (observeAuthz s p a) := by
  obtain ⟨phase, memory⟩ := p
  cases phase with
  | arrived request => exact requestStep_arrived h hcache
  | missed userId => exact requestStep_missed h hp.1
  | found userId principal => exact requestStep_found h hp
  | suspending user => exact requestStep_suspending h hp.1
  | reinstating user => exact requestStep_reinstating h hp.1
  | approving admin helper => exact requestStep_approving h hp.1 hp.2
  | deciding m => exact requestStep_deciding h hp.1 (hm m rfl)
  | committed m => exact requestStep_committed h hp
  | invalidated m => exact requestStep_invalidated h hp
  | told userId reply => exact .of_tick h (hp.mono (later_tick s a.now))
  | answered answer => exact .of_tick h ⟨hp.1, trivial⟩

end

end UniTrack
