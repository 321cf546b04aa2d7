import UniTrack.Framework.Sessions
import UniTrack.Routes.Moderation

/-!
# The safety net (`app/core/authz.py`, `app/db/session.py`)

Whoever changes an account is asked to drop its cached snapshot, and may forget.
A listener on every flush notes the accounts whose rows it sends, and the end of
the request drops their snapshots. Here a request is any handler at all: it may
change any accounts, in any order, and fail anywhere.

1. What a session sends.
2. A change is read under the account it is noted for.
3. Requests.
4. The cache behind the net.
5. How old an answer of the guard can be.
-/

namespace UniTrack

open UniTrack.Framework UniTrack.Python

/-! ## §1 What a session sends -/

/-- A row of `users` or `helpers` in `session.new`, `session.dirty` or
`session.deleted`; a dirty one as it was read and as it is now. A primary key
is never written. -/
inductive IdentityWrite where
  | newUser (u : Account)
  | newHelper (h : Helper)
  | dirtyUser (read left : Account) (key : left.id = read.id)
  | dirtyHelper (read left : Helper) (key : left.id = read.id)
  | deletedUser (u : Account)
  | deletedHelper (h : Helper)
deriving DecidableEq

/-- What `_record_touched_principals` notes. -/
def IdentityWrite.touches : IdentityWrite → UserId
  | .newUser u => u.id
  | .newHelper h => h.userId
  | .dirtyUser _ left _ => left.id
  | .dirtyHelper _ left _ => left.userId
  | .deletedUser u => u.id
  | .deletedHelper h => h.userId

/-- The stored row with the columns that the session changed. -/
def Account.sent (read left row : Account) : Account :=
  { row with
    email := (changed read.email left.email).getD row.email
    role := (changed read.role left.role).getD row.role
    name := (changed read.name left.name).getD row.name
    phone := (changed read.phone left.phone).getD row.phone
    status := (changed read.status left.status).getD row.status
    passwordHash := (changed read.passwordHash left.passwordHash).getD row.passwordHash }

def Helper.sent (read left row : Helper) : Helper :=
  { row with
    userId := (changed read.userId left.userId).getD row.userId
    approvedBy := (changed read.approvedBy left.approvedBy).getD row.approvedBy
    status := (changed read.status left.status).getD row.status }

/-- `helpers.approved_by` of an account that goes: `ON DELETE SET NULL`. -/
def Helper.unapprove (userId : UserId) (h : Helper) : Helper :=
  if h.approvedBy = some userId then { h with approvedBy := none } else h

@[simp] theorem Helper.unapprove_id (userId : UserId) (h : Helper) :
    (h.unapprove userId).id = h.id := by
  unfold Helper.unapprove
  split <;> rfl

@[simp] theorem Helper.unapprove_userId (userId : UserId) (h : Helper) :
    (h.unapprove userId).userId = h.userId := by
  unfold Helper.unapprove
  split <;> rfl

@[simp] theorem Helper.unapprove_status (userId : UserId) (h : Helper) :
    (h.unapprove userId).status = h.status := by
  unfold Helper.unapprove
  split <;> rfl

theorem Helper.unapprove_clash (userId : UserId) (a b : Helper)
    (h : UniqueKeys.clash (a.unapprove userId) (b.unapprove userId)) :
    UniqueKeys.clash a b := by
  simpa only [Helper.clash_iff, Helper.unapprove_id, Helper.unapprove_userId] using h

/-- One statement of a flush. An account that still has a profile is not
deleted: the session would take the account out of the profile. -/
def AccountsDb.send (db : AccountsDb) : IdentityWrite → Option AccountsDb
  | .newUser u => (db.insertUser u).toOption
  | .newHelper h =>
      if (db.get h.userId).isSome then
        (db.helpers.insert h).map fun helpers => { db with helpers := helpers }
      else none
  | .dirtyUser read left _ =>
      if AccountFits left then
        (db.users.rewrite fun u => if u.id = read.id then read.sent left u else u).map
          fun users => { db with users := users }
      else none
  | .dirtyHelper read left _ =>
      if (changed read.userId left.userId).all fun userId => (db.get userId).isSome then
        (db.helpers.rewrite fun h => if h.id = read.id then read.sent left h else h).map
          fun helpers => { db with helpers := helpers }
      else none
  | .deletedUser u =>
      if db.students.rows.any (fun s => s.userId == u.id) ||
          db.helpers.rows.any (fun h => h.userId == u.id) then none
      else some
        { db with
          users := db.users.delete fun v => v.id == u.id
          helpers := db.helpers.update (Helper.unapprove u.id) (Helper.unapprove_clash u.id) }
  | .deletedHelper h => some { db with helpers := db.helpers.delete fun g => g.id == h.id }

/-! ## §2 A change is read under the account it is noted for -/

/-- No helper's row changes hands: each belongs to one account for good. -/
def OwnedBy (owner : HelperId → UserId) (db : AccountsDb) : Prop :=
  ∀ h ∈ db.helpers, owner h.id = h.userId

def IdentityWrite.Owned (owner : HelperId → UserId) : IdentityWrite → Prop
  | .newHelper h => owner h.id = h.userId
  | .dirtyHelper read left _ => owner read.id = read.userId ∧ left.userId = read.userId
  | .deletedHelper h => owner h.id = h.userId
  | _ => True

instance (owner : HelperId → UserId) : DecidablePred (IdentityWrite.Owned owner)
  | .newHelper h => inferInstanceAs (Decidable (owner h.id = h.userId))
  | .dirtyHelper read left _ =>
      inferInstanceAs (Decidable (owner read.id = read.userId ∧ left.userId = read.userId))
  | .deletedHelper h => inferInstanceAs (Decidable (owner h.id = h.userId))
  | .newUser _ | .dirtyUser _ _ _ | .deletedUser _ => inferInstanceAs (Decidable True)

section
variable {owner : HelperId → UserId} {db db' : AccountsDb} {userId : UserId}

/-- Lookups by id depend on the rows with the id. -/
theorem get_congr (h : ∀ u : Account, u.id = userId → (u ∈ db'.users ↔ u ∈ db.users)) :
    db'.get userId = db.get userId := by
  ext u
  rw [AccountsDb.get_eq_some, AccountsDb.get_eq_some]
  exact and_congr_left (h u)

theorem helperByUserId_congr
    (h : ∀ k : Helper, k.userId = userId → (k ∈ db'.helpers ↔ k ∈ db.helpers)) :
    db'.helperByUserId userId = db.helperByUserId userId := by
  ext k
  rw [AccountsDb.helperByUserId_eq_some, AccountsDb.helperByUserId_eq_some]
  exact and_congr_left (h k)

/-- Who approved a helper is not in the snapshot. -/
theorem loadPrincipal_unapprove (userId' : UserId) :
    loadPrincipal { db with
      helpers := db.helpers.update (Helper.unapprove userId') (Helper.unapprove_clash userId') }
      userId = loadPrincipal db userId := by
  have hhelper : AccountsDb.helperByUserId { db with
        helpers := db.helpers.update (Helper.unapprove userId') (Helper.unapprove_clash userId') }
      userId = (db.helperByUserId userId).map (Helper.unapprove userId') := by
    ext k
    simp only [AccountsDb.helperByUserId_eq_some, Option.map_eq_some_iff, Table.mem_update]
    constructor
    · rintro ⟨⟨g, hg, rfl⟩, hid⟩
      exact ⟨g, ⟨hg, (g.unapprove_userId userId').symm.trans hid⟩, rfl⟩
    · rintro ⟨g, ⟨hg, rfl⟩, rfl⟩
      exact ⟨⟨g, hg, rfl⟩, g.unapprove_userId userId'⟩
  have hget : AccountsDb.get { db with
        helpers := db.helpers.update (Helper.unapprove userId') (Helper.unapprove_clash userId') }
      userId = db.get userId := rfl
  unfold loadPrincipal
  rw [hhelper, hget]
  cases db.helperByUserId userId with
  | none => rfl
  | some h =>
      dsimp only [Option.map_some]
      rw [Helper.unapprove_id, Helper.unapprove_status]

theorem send_newUser {u : Account} (hsend : db.send (.newUser u) = some db') :
    db'.helpers = db.helpers ∧ ∀ v, v ∈ db'.users ↔ v ∈ db.users ∨ v = u := by
  have hsend : (db.insertUser u).toOption = some db' := hsend
  cases hins : db.insertUser u with
  | error e =>
      rw [hins] at hsend
      cases hsend
  | ok next =>
      rw [hins] at hsend
      obtain rfl := Option.some.inj hsend
      exact (AccountsDb.insertUser_ok hins).symm

theorem send_newHelper {h : Helper} (hsend : db.send (.newHelper h) = some db') :
    db'.users = db.users ∧ ∀ k, k ∈ db'.helpers ↔ k ∈ db.helpers ∨ k = h := by
  unfold AccountsDb.send at hsend
  dsimp only at hsend
  split at hsend
  · obtain ⟨helpers, hins, rfl⟩ := Option.map_eq_some_iff.mp hsend
    exact ⟨rfl, fun k => Table.mem_of_insert hins⟩
  · cases hsend

theorem send_dirtyUser {read left : Account} {key : left.id = read.id}
    (hsend : db.send (.dirtyUser read left key) = some db') :
    db'.helpers = db.helpers ∧ ∀ u, u ∈ db'.users ↔
      ∃ v ∈ db.users, (if v.id = read.id then read.sent left v else v) = u := by
  unfold AccountsDb.send at hsend
  dsimp only at hsend
  split at hsend
  · obtain ⟨users, hset, rfl⟩ := Option.map_eq_some_iff.mp hsend
    refine ⟨rfl, fun u => ?_⟩
    rw [Table.mem_def, Table.rewrite_eq_some hset, List.mem_map]
    rfl
  · cases hsend

theorem send_dirtyHelper {read left : Helper} {key : left.id = read.id}
    (hsend : db.send (.dirtyHelper read left key) = some db') :
    db'.users = db.users ∧ ∀ k, k ∈ db'.helpers ↔
      ∃ g ∈ db.helpers, (if g.id = read.id then read.sent left g else g) = k := by
  unfold AccountsDb.send at hsend
  dsimp only at hsend
  split at hsend
  · obtain ⟨helpers, hset, rfl⟩ := Option.map_eq_some_iff.mp hsend
    refine ⟨rfl, fun k => ?_⟩
    rw [Table.mem_def, Table.rewrite_eq_some hset, List.mem_map]
    rfl
  · cases hsend

theorem send_deletedUser {u : Account} (hsend : db.send (.deletedUser u) = some db') :
    db' = { db with
      users := db.users.delete fun v => v.id == u.id
      helpers := db.helpers.update (Helper.unapprove u.id) (Helper.unapprove_clash u.id) } := by
  unfold AccountsDb.send at hsend
  dsimp only at hsend
  split at hsend
  · cases hsend
  · exact (Option.some.inj hsend).symm

/-- A helper's row that the session changes stays whose it was. -/
theorem Helper.sent_userId {read left row : Helper} (h : left.userId = read.userId) :
    (read.sent left row).userId = row.userId := changed_of_eq h

/-- **A change is noted for the only account it can show at.** -/
theorem send_readByName (owner : HelperId → UserId) :
    Session.ReadByName AccountsDb.send IdentityWrite.touches loadPrincipal (OwnedBy owner)
      (IdentityWrite.Owned owner) where
  good {db db' w} hdb hw hsend := by
    cases w with
    | newUser u =>
        intro h hh
        exact hdb h ((send_newUser hsend).1 ▸ hh)
    | newHelper h =>
        intro k hk
        rcases ((send_newHelper hsend).2 k).mp hk with hold | rfl
        · exact hdb k hold
        · exact hw
    | dirtyUser read left key =>
        intro h hh
        exact hdb h ((send_dirtyUser hsend).1 ▸ hh)
    | dirtyHelper read left key =>
        intro k hk
        obtain ⟨g, hg, rfl⟩ := ((send_dirtyHelper hsend).2 k).mp hk
        split
        · exact (hdb g hg).trans (Helper.sent_userId hw.2).symm
        · exact hdb g hg
    | deletedUser u =>
        obtain rfl := send_deletedUser hsend
        intro k hk
        obtain ⟨g, hg, rfl⟩ := List.mem_map.mp hk
        rw [Helper.unapprove_id, Helper.unapprove_userId]
        exact hdb g hg
    | deletedHelper h =>
        obtain rfl := Option.some.inj hsend
        intro k hk
        exact hdb k (Table.mem_delete.mp hk).1
  read {db db' w} hdb hw hsend userId hne := by
    cases w with
    | newUser u =>
        obtain ⟨hhelpers, husers⟩ := send_newUser hsend
        refine loadPrincipal_congr (get_congr fun v hv => ?_)
          (helperByUserId_congr fun k _ => by rw [hhelpers])
        rw [husers]
        exact or_iff_left fun heq => hne (hv.symm.trans (congrArg (·.id) heq))
    | newHelper h =>
        obtain ⟨husers, hhelpers⟩ := send_newHelper hsend
        refine loadPrincipal_congr (get_congr fun u _ => by rw [husers])
          (helperByUserId_congr fun k hk => ?_)
        rw [hhelpers]
        exact or_iff_left fun heq => hne (hk.symm.trans (congrArg (·.userId) heq))
    | dirtyUser read left key =>
        obtain ⟨hhelpers, husers⟩ := send_dirtyUser hsend
        refine loadPrincipal_congr (get_congr fun u hu => ?_)
          (helperByUserId_congr fun k _ => by rw [hhelpers])
        rw [husers]
        constructor
        · rintro ⟨v, hv, rfl⟩
          by_cases hid : v.id = read.id
          · rw [if_pos hid] at hu
            exact absurd (hu.symm.trans (hid.trans key.symm)) hne
          · rw [if_neg hid]
            exact hv
        · intro hmem
          exact ⟨u, hmem, if_neg fun hid => hne (hu.symm.trans (hid.trans key.symm))⟩
    | dirtyHelper read left key =>
        obtain ⟨husers, hhelpers⟩ := send_dirtyHelper hsend
        -- every row that is sent is of the account that is noted
        have hother : ∀ g ∈ db.helpers, g.id = read.id → g.userId ≠ userId := by
          intro g hg hid huser
          refine hne (huser.symm.trans ?_)
          rw [← hdb g hg, hid, hw.1]
          exact hw.2.symm
        refine loadPrincipal_congr (get_congr fun u _ => by rw [husers])
          (helperByUserId_congr fun k hk => ?_)
        rw [hhelpers]
        constructor
        · rintro ⟨g, hg, rfl⟩
          by_cases hid : g.id = read.id
          · rw [if_pos hid, Helper.sent_userId hw.2] at hk
            exact absurd hk (hother g hg hid)
          · rw [if_neg hid]
            exact hg
        · intro hmem
          exact ⟨k, hmem, if_neg fun hid => hother k hmem hid hk⟩
    | deletedUser u =>
        obtain rfl := send_deletedUser hsend
        refine (@loadPrincipal_unapprove { db with users := db.users.delete fun v => v.id == u.id }
          userId u.id).trans (loadPrincipal_congr (get_congr fun v hv => ?_) rfl)
        rw [Table.mem_delete]
        exact and_iff_left (beq_eq_false_iff_ne.mpr fun hid => hne (hv.symm.trans hid))
    | deletedHelper h =>
        obtain rfl := Option.some.inj hsend
        refine loadPrincipal_congr rfl (helperByUserId_congr fun k hk => ?_)
        rw [Table.mem_delete]
        refine ⟨fun h => h.1, fun hmem => ⟨hmem, beq_eq_false_iff_ne.mpr fun hid => hne ?_⟩⟩
        rw [← hk, ← hdb k hmem, hid]
        exact hw

end

/-! ## §3 Requests -/

/-- What a handler does next. -/
inductive HandlerStep where
  | stage (w : IdentityWrite)
  | flush (obstructed : Bool)
  | commit (obstructed : Bool)
  | rollback
  | invalidate (userId : UserId)
  /-- it returns, or raises -/
  | finish
deriving DecidableEq

structure NetInput where
  now : Instant
  redis : CallOutcome
  step : HandlerStep

/-- Where a request stands: before its guard has answered, in its handler, or in
the teardown of its session. -/
inductive NetPhase where
  | arrived (userId : UserId)
  /-- the cache had nothing; next is Postgres -/
  | missed (userId : UserId)
  /-- Postgres has the snapshot since then; next it is cached -/
  | found (userId : UserId) (principal : Principal) (readAt : Instant)
  /-- how `get_principal` ended, and when -/
  | told (userId : UserId) (time : Instant) (reply : Reply Principal)
  | working (session : Session IdentityWrite UserId)
  /-- whose snapshots the teardown has still to drop -/
  | closing (touched : List UserId)
  | closed
deriving DecidableEq

/-- One step of a request. A set has no order: which snapshot the teardown drops
next is the input's choice. -/
def netStep (s : AuthzStore) : NetPhase → NetInput → AuthzStore × NetPhase
  | .arrived userId, a =>
      match cachedPrincipal s userId a.redis with
      | some principal => (s, .told userId s.clock (acceptPrincipal (some principal)))
      | none => (s, .missed userId)
  | .missed userId, _ =>
      match loadPrincipal s.db userId with
      | none => (s, .told userId s.clock (acceptPrincipal none))
      | some principal => (s, .found userId principal s.clock)
  | .found userId principal _, a =>
      (cachePrincipal s userId principal a.redis,
        .told userId s.clock (acceptPrincipal (some principal)))
  | .told _ _ (.ok _), _ => (s, .working (.fresh IdentityWrite UserId))
  | .told _ _ _, _ => (s, .closing [])
  | .working session, a =>
      match a.step with
      | .stage w => (s, .working (session.stage w))
      | .flush obstructed =>
          (s, .working (session.flush AccountsDb.send IdentityWrite.touches obstructed s.db))
      | .commit obstructed =>
          let sent := session.commit AccountsDb.send IdentityWrite.touches obstructed s.db
          ({ s with db := sent.1 }, .working sent.2)
      | .rollback => (s, .working session.rollback)
      | .invalidate userId => (invalidatePrincipal s userId a.redis, .working session)
      | .finish => (s, .closing session.touched)
  | .closing [], _ => (s, .closed)
  | .closing touched, a =>
      match a.step with
      | .invalidate userId =>
          if userId ∈ touched then
            (invalidatePrincipal s userId a.redis, .closing (touched.filter (· ≠ userId)))
          else (s, .closing touched)
      | _ => (s, .closing touched)
  | .closed, _ => (s, .closed)

def AuthzStore.tick (s : AuthzStore) (now : Instant) : AuthzStore :=
  { s with clock := max s.clock now }

/-- At the instant it is given, or at the store's if that is later. -/
def netAdvance (s : AuthzStore) (p : NetPhase) (a : NetInput) : AuthzStore × NetPhase :=
  netStep (s.tick a.now) p a

/-- What one step can do. -/
inductive NetMoves (s : AuthzStore) (a : NetInput) : NetPhase → AuthzStore → NetPhase → Prop where
  | hit {userId principal} (h : cachedPrincipal s userId a.redis = some principal) :
      NetMoves s a (.arrived userId) s
        (.told userId s.clock (acceptPrincipal (some principal)))
  | missed {userId} : NetMoves s a (.arrived userId) s (.missed userId)
  | unknown {userId} (h : loadPrincipal s.db userId = none) :
      NetMoves s a (.missed userId) s (.told userId s.clock (acceptPrincipal none))
  | read {userId principal} (h : loadPrincipal s.db userId = some principal) :
      NetMoves s a (.missed userId) s (.found userId principal s.clock)
  | filled {userId principal readAt} :
      NetMoves s a (.found userId principal readAt) (cachePrincipal s userId principal a.redis)
        (.told userId s.clock (acceptPrincipal (some principal)))
  | begun {userId time principal} :
      NetMoves s a (.told userId time (.ok principal)) s (.working (.fresh IdentityWrite UserId))
  | turnedAway {userId time reply} : NetMoves s a (.told userId time reply) s (.closing [])
  | staged {session w} (h : a.step = .stage w) :
      NetMoves s a (.working session) s (.working (session.stage w))
  | flushed {session obstructed} (h : a.step = .flush obstructed) :
      NetMoves s a (.working session) s
        (.working (session.flush AccountsDb.send IdentityWrite.touches obstructed s.db))
  | committed {session obstructed} (h : a.step = .commit obstructed) :
      NetMoves s a (.working session)
        { s with db := (session.commit AccountsDb.send IdentityWrite.touches obstructed s.db).1 }
        (.working (session.commit AccountsDb.send IdentityWrite.touches obstructed s.db).2)
  | rolledBack {session} (h : a.step = .rollback) :
      NetMoves s a (.working session) s (.working session.rollback)
  | invalidated {session userId} (h : a.step = .invalidate userId) :
      NetMoves s a (.working session) (invalidatePrincipal s userId a.redis) (.working session)
  | finished {session} (h : a.step = .finish) :
      NetMoves s a (.working session) s (.closing session.touched)
  | dropped {touched userId} (h : a.step = .invalidate userId) (hmem : userId ∈ touched) :
      NetMoves s a (.closing touched) (invalidatePrincipal s userId a.redis)
        (.closing (touched.filter (· ≠ userId)))
  | waited {touched} : NetMoves s a (.closing touched) s (.closing touched)
  | closed : NetMoves s a (.closing []) s .closed
  | ended : NetMoves s a .closed s .closed

theorem netStep_moves (s : AuthzStore) (p : NetPhase) (a : NetInput) :
    NetMoves s a p (netStep s p a).1 (netStep s p a).2 := by
  cases p with
  | arrived userId =>
      unfold netStep
      dsimp only
      split
      · rename_i principal hcached
        exact .hit hcached
      · exact .missed
  | missed userId =>
      unfold netStep
      dsimp only
      split
      · rename_i hload
        exact .unknown hload
      · rename_i principal hload
        exact .read hload
  | found userId principal readAt => exact .filled
  | told userId time reply =>
      cases reply with
      | ok principal => exact .begun
      | refused _ _ => exact .turnedAway
      | crashed => exact .turnedAway
  | working session =>
      unfold netStep
      dsimp only
      split
      · rename_i w hact
        exact .staged hact
      · rename_i obstructed hact
        exact .flushed hact
      · rename_i obstructed hact
        exact .committed hact
      · rename_i hact
        exact .rolledBack hact
      · rename_i userId hact
        exact .invalidated hact
      · rename_i hact
        exact .finished hact
  | closing touched =>
      cases touched with
      | nil => exact .closed
      | cons first rest =>
          unfold netStep
          dsimp only
          split
          · rename_i userId hact
            split
            · rename_i hmem
              exact .dropped hact hmem
            · exact .waited
          · exact .waited
  | closed => exact .ended

/-! ## §4 The cache behind the net -/

/-- The request has yet to drop the snapshot of this account. -/
def NetPhase.Owes (userId : UserId) : NetPhase → Prop
  | .working session => userId ∈ session.touched
  | .closing touched => userId ∈ touched
  | _ => False

instance (userId : UserId) : DecidablePred (NetPhase.Owes userId)
  | .working session => inferInstanceAs (Decidable (userId ∈ session.touched))
  | .closing touched => inferInstanceAs (Decidable (userId ∈ touched))
  | .arrived _ | .missed _ | .found _ _ _ | .told _ _ _ | .closed =>
      inferInstanceAs (Decidable False)

/-- The account's snapshot is this, or a request has yet to drop what is cached. -/
def Current (w : World AuthzStore NetPhase) (userId : UserId) (principal : Principal) : Prop :=
  loadPrincipal w.store.db userId = some principal ∨ ∃ t, (w.threads t).Owes userId

/-- Every snapshot that can be read from the cache is current. -/
def CacheBehindNet (w : World AuthzStore NetPhase) : Prop := ∀ userId principal,
  w.store.principals.get w.store.clock userId = some principal → Current w userId principal

/-- What is cached after a miss is still current then, the teardown reaches
Redis, and no change takes a helper's row to another account. -/
def NetInTime (owner : HelperId → UserId) (w : World AuthzStore NetPhase) (l : ℕ × NetInput) :
    Prop :=
  match w.threads l.1, l.2.step with
  | .found userId principal _, _ => Current w userId principal
  | .working _, .stage write => write.Owned owner
  | .closing _, .invalidate _ => l.2.redis.applied = true
  | _, _ => True

/-- What a request carries from step to step. -/
def NetPhase.Carries (owner : HelperId → UserId) : NetPhase → Prop
  | .working session => session.Recorded IdentityWrite.touches (IdentityWrite.Owned owner)
  | _ => True

structure NetOk (owner : HelperId → UserId) (w : World AuthzStore NetPhase) : Prop where
  cache : CacheBehindNet w
  owned : OwnedBy owner w.store.db
  carries : ∀ t, (w.threads t).Carries owner

section
variable {owner : HelperId → UserId} {w : World AuthzStore NetPhase} {l : ℕ × NetInput}
  {s s' : AuthzStore} {p p' : NetPhase}

/-- What can still be read after a `DEL` could be read before. -/
theorem invalidatePrincipal_get {time : Instant} {userId userId' : UserId} {redis : CallOutcome}
    {principal : Principal}
    (h : (invalidatePrincipal s userId redis).principals.get time userId' = some principal) :
    s.principals.get time userId' = some principal := by
  unfold invalidatePrincipal at h
  split at h
  · by_cases hid : userId' = userId
    · subst hid
      rw [KeyValues.get_del_self] at h
      cases h
    · rwa [KeyValues.get_del_of_ne hid] at h
  · exact h

@[simp] theorem invalidatePrincipal_clock (s : AuthzStore) (userId : UserId) (redis : CallOutcome) :
    (invalidatePrincipal s userId redis).clock = s.clock := by
  unfold invalidatePrincipal
  split <;> rfl

/-- What a step has to leave so that the cache stays behind the net: a snapshot
that it changes is one that it owes, and one that it owes no more is gone. -/
structure NetMoved (w : World AuthzStore NetPhase) (p : NetPhase) (s' : AuthzStore)
    (p' : NetPhase) : Prop where
  changed : ∀ userId, p'.Owes userId ∨
    loadPrincipal s'.db userId = loadPrincipal w.store.db userId
  cached : ∀ userId principal, s'.principals.get s'.clock userId = some principal →
    w.store.principals.get w.store.clock userId = some principal ∨ Current w userId principal
  owed : ∀ userId, p.Owes userId → p'.Owes userId ∨
    s'.principals.get s'.clock userId = none

/-- Such a step only lets time pass. -/
theorem NetMoved.idle {now : Instant} (howes : ∀ userId, p.Owes userId → p'.Owes userId) :
    NetMoved w p (w.store.tick now) p' where
  changed _ := Or.inr rfl
  cached _ _ hget := Or.inl (KeyValues.get_of_le (le_max_left _ _) hget)
  owed userId howed := Or.inl (howes userId howed)

/-- A `DEL` leaves what is owed when it drops what is owed no more. -/
theorem NetMoved.drop {now : Instant} {userId : UserId} {redis : CallOutcome}
    (howes : ∀ other, p.Owes other → p'.Owes other ∨ other = userId ∧ redis.applied = true) :
    NetMoved w p (invalidatePrincipal (w.store.tick now) userId redis) p' where
  changed other := by
    rw [invalidatePrincipal_db]
    exact Or.inr rfl
  cached other principal hget := by
    rw [invalidatePrincipal_clock] at hget
    have hbefore := invalidatePrincipal_get hget
    exact Or.inl (KeyValues.get_of_le (le_max_left _ _) hbefore)
  owed other howed := by
    rcases howes other howed with hstill | ⟨rfl, happlied⟩
    · exact Or.inl hstill
    · refine Or.inr ?_
      unfold invalidatePrincipal
      rw [if_pos happlied]
      exact KeyValues.get_del_self _ _ _

/-- What is cached after a miss is what the accounts say, or is dropped later. -/
theorem NetMoved.fill {now : Instant} {userId : UserId} {principal : Principal}
    {redis : CallOutcome} (hcurrent : Current w userId principal)
    (howes : ∀ other, ¬ p.Owes other) :
    NetMoved w p (cachePrincipal (w.store.tick now) userId principal redis) p' where
  changed other := by
    rw [cachePrincipal_db]
    exact Or.inr rfl
  cached other found hget := by
    unfold cachePrincipal at hget
    split at hget
    · by_cases hid : other = userId
      · subst hid
        obtain rfl := KeyValues.get_set_self hget
        exact Or.inr hcurrent
      · rw [KeyValues.get_set_of_ne hid] at hget
        exact Or.inl (KeyValues.get_of_le (le_max_left _ _) hget)
    · exact Or.inl (KeyValues.get_of_le (le_max_left _ _) hget)
  owed other howed := absurd howed (howes other)

/-- What is committed is noted. -/
theorem NetMoved.commit {now : Instant} {session : Session IdentityWrite UserId}
    (howned : OwnedBy owner w.store.db)
    (hrecorded : session.Recorded IdentityWrite.touches (IdentityWrite.Owned owner))
    (obstructed : Bool) :
    NetMoved w (.working session)
      { w.store.tick now with
        db := (session.commit AccountsDb.send IdentityWrite.touches obstructed w.store.db).1 }
      (.working (session.commit AccountsDb.send IdentityWrite.touches obstructed w.store.db).2) where
  changed userId := or_iff_not_imp_left.mpr fun hnot =>
    ((send_readByName owner).commit howned hrecorded obstructed).2 userId hnot
  cached _ _ hget := Or.inl (KeyValues.get_of_le (le_max_left _ _) hget)
  owed _ howed := Or.inl (session.touched_commit obstructed howed)

/-- Every step moves so, and keeps what its request carries. -/
theorem netMoves_moved (howned : OwnedBy owner w.store.db) (hcarries : p.Carries owner)
    (hp : w.threads l.1 = p) (hin : NetInTime owner w l)
    (hmoves : NetMoves (w.store.tick l.2.now) l.2 p s' p') :
    NetMoved w p s' p' ∧ OwnedBy owner s'.db ∧ p'.Carries owner := by
  unfold NetInTime at hin
  rw [hp] at hin
  cases hmoves with
  | hit _ => exact ⟨.idle fun _ => id, howned, trivial⟩
  | missed => exact ⟨.idle fun _ => id, howned, trivial⟩
  | unknown _ => exact ⟨.idle fun _ => id, howned, trivial⟩
  | read _ => exact ⟨.idle fun _ => id, howned, trivial⟩
  | filled =>
      refine ⟨.fill hin fun _ => id, ?_, trivial⟩
      rw [cachePrincipal_db]
      exact howned
  | begun => exact ⟨.idle fun _ => False.elim, howned, Session.recorded_fresh⟩
  | turnedAway => exact ⟨.idle fun _ => False.elim, howned, trivial⟩
  | staged hact =>
      rw [hact] at hin
      exact ⟨.idle fun _ => id, howned, hcarries.stage hin⟩
  | @flushed session obstructed hact =>
      exact ⟨.idle fun _ howed => session.touched_flush obstructed howed, howned,
        hcarries.flush obstructed⟩
  | @committed session obstructed hact =>
      exact ⟨.commit howned hcarries obstructed,
        ((send_readByName owner).commit howned hcarries obstructed).1,
        (hcarries.flush obstructed).rollback⟩
  | rolledBack _ => exact ⟨.idle fun _ => id, howned, hcarries.rollback⟩
  | invalidated _ =>
      refine ⟨.drop fun _ => Or.inl, ?_, hcarries⟩
      rw [invalidatePrincipal_db]
      exact howned
  | finished _ => exact ⟨.idle fun _ => id, howned, trivial⟩
  | @dropped touched userId hact hmem =>
      rw [hact] at hin
      refine ⟨.drop fun other howed => ?_, ?_, trivial⟩
      · by_cases hid : other = userId
        · exact Or.inr ⟨hid, hin⟩
        · exact Or.inl (List.mem_filter.mpr ⟨howed, decide_eq_true hid⟩)
      · rw [invalidatePrincipal_db]
        exact howned
  | waited => exact ⟨.idle fun _ => id, howned, trivial⟩
  | closed => exact ⟨.idle fun _ howed => absurd howed List.not_mem_nil, howned, trivial⟩
  | ended => exact ⟨.idle fun _ => id, howned, trivial⟩

/-- **One step behind the net.** -/
theorem NetOk.step (h : NetOk owner w) (hin : NetInTime owner w l) :
    NetOk owner (threadStep netAdvance w l) := by
  obtain ⟨hmoved, howned, hcarries⟩ := netMoves_moved h.owned (h.carries l.1) rfl hin
    (netStep_moves (w.store.tick l.2.now) (w.threads l.1) l.2)
  have hself := @threadStep_threads_self _ _ _ netAdvance w l
  refine ⟨fun userId principal hget => ?_, howned, ?_⟩
  · have hcurrent : Current w userId principal :=
      (hmoved.cached userId principal hget).elim (h.cache userId principal) id
    rcases hmoved.changed userId with howed | hsame
    · exact Or.inr ⟨l.1, hself.symm ▸ howed⟩
    · rcases hcurrent with hload | ⟨t, ht⟩
      · exact Or.inl (hsame.trans hload)
      · by_cases hl : t = l.1
        · subst hl
          rcases hmoved.owed userId ht with hstill | hgone
          · exact Or.inr ⟨l.1, hself.symm ▸ hstill⟩
          · exact absurd (hget.symm.trans hgone) (by rintro ⟨⟩)
        · refine Or.inr ⟨t, ?_⟩
          rw [threadStep_threads_of_ne hl]
          exact ht
  · exact threads_each_step (fun _ (p : NetPhase) => p.Carries owner) h.carries
      (hself.symm ▸ hcarries)

end

/-- No request has begun: its guard is still to answer, or it has none. -/
def NetPhase.Begins : NetPhase → Prop
  | .arrived _ => True
  | .working session => session = .fresh IdentityWrite UserId
  | _ => False

/-- **Nobody has to remember**: over any handlers whatever, staging, sending,
committing, rolling back and failing as they like, in any order, a snapshot that
can be read from the cache is what the accounts say, or a request that is still
open has yet to drop it. No handler need drop one itself. -/
theorem net_keeps_cache_current (owner : HelperId → UserId) (s : AuthzStore)
    (requests : ℕ → NetPhase) (howned : OwnedBy owner s.db)
    (hcache : ∀ userId principal, s.principals.get s.clock userId = some principal →
      loadPrincipal s.db userId = some principal)
    (hbegins : ∀ t, (requests t).Begins) (labels : List (ℕ × NetInput))
    (hin : Throughout (threadStep netAdvance) (NetInTime owner) ⟨s, requests⟩ labels) :
    Always (threadStep netAdvance) CacheBehindNet ⟨s, requests⟩ labels := by
  have hstart : NetOk owner ⟨s, requests⟩ := by
    refine ⟨fun userId principal hget => Or.inl (hcache userId principal hget), howned, ?_⟩
    intro t
    have hbegin := hbegins t
    dsimp only
    cases hphase : requests t with
    | working session =>
        rw [hphase] at hbegin
        obtain rfl : session = .fresh IdentityWrite UserId := hbegin
        exact Session.recorded_fresh
    | _ => trivial
  exact (always_of_throughout (fun w l h hl => NetOk.step h hl) hstart hin).imp fun _ h => h.cache

/-- An active student. -/
def alice : Account :=
  ⟨⟨7, "student1@ulab.edu.bd".toList, .student, "Alice Rahman".toList, none, .active⟩, []⟩

def aliceAlone : AuthzStore where
  db := { users := ⟨[alice], List.pairwise_singleton _ _⟩, students := .empty, helpers := .empty }
  principals := .empty UserId Principal
  clock := 0

/-- Two lookups of her account, and a handler. -/
def forgetful : ℕ → NetPhase
  | 1 => .working (.fresh IdentityWrite UserId)
  | _ => .arrived 7

def handlerAt (second : ℚ) (step : HandlerStep) : NetInput := ⟨second, .done, step⟩

/-- She is looked up, suspended by a handler that drops nothing, and looked up
again. -/
def forgottenSuspension : List (ℕ × NetInput) :=
  [(0, handlerAt 1 .finish), (0, handlerAt 1 .finish), (0, handlerAt 1 .finish),
    (1, handlerAt 2 (.stage (.dirtyUser alice { alice with status := .suspended } rfl))),
    (1, handlerAt 2 (.commit false)), (1, handlerAt 2 .finish),
    (1, handlerAt 2 (.invalidate 7)), (2, handlerAt 3 .finish), (2, handlerAt 3 .finish)]

theorem net_keeps_cache_current_forgetful :
    Always (threadStep netAdvance) CacheBehindNet ⟨aliceAlone, forgetful⟩ forgottenSuspension := by
  refine net_keeps_cache_current (fun _ => 7) aliceAlone forgetful ?_ ?_ ?_ forgottenSuspension ?_
  · exact fun h hh => absurd hh (Table.not_mem_empty h)
  · rintro _ _ ⟨⟩
  · intro t
    unfold forgetful
    split
    · rfl
    · trivial
  · refine ⟨trivial, trivial, Or.inl ?_, trivial, trivial, trivial, ?_, trivial, trivial, trivial⟩
    · decide +kernel
    · exact rfl

/-! ## §5 How old an answer of the guard can be -/

/-- The requests; and anybody who writes to Postgres behind the program's back. -/
def netMeanwhile (w : World AuthzStore NetPhase) :
    (ℕ × NetInput) ⊕ AccountsDb → World AuthzStore NetPhase
  | .inl l => threadStep netAdvance w l
  | .inr db => { w with store := { w.store with db := db } }

/-- Since when the snapshot that is about to be cached has been waiting. -/
def NetPhase.waitingSince : NetPhase → Option Instant
  | .found _ _ readAt => some readAt
  | _ => none

/-- Who caches a snapshot does so this long after reading it, or sooner. -/
def CachedWithin (lag : ℚ) (w : World AuthzStore NetPhase) : (ℕ × NetInput) ⊕ AccountsDb → Prop
  | .inl (t, a) =>
      ∀ readAt ∈ (w.threads t).waitingSince, max w.store.clock a.now ≤ readAt + lag
  | .inr _ => True

instance (lag : ℚ) (w : World AuthzStore NetPhase) : DecidablePred (CachedWithin lag w)
  | .inl (t, a) => inferInstanceAs (Decidable
      (∀ readAt ∈ (w.threads t).waitingSince, max w.store.clock a.now ≤ readAt + lag))
  | .inr _ => inferInstanceAs (Decidable True)

section
variable (moments : World AuthzStore NetPhase → Prop)

/-- This is what Postgres had of the account at one of these moments, no earlier
than this. -/
def HeldSince (userId : UserId) (since : Instant) (found : Option Principal) : Prop :=
  ∃ w, moments w ∧ since ≤ w.store.clock ∧ found = loadPrincipal w.store.db userId

/-- What is about to be cached, and what was answered. -/
def NetPhase.Recent (age : ℚ) : NetPhase → Prop
  | .found userId principal readAt => HeldSince moments userId readAt (some principal)
  | .told userId time reply =>
      ∃ found, HeldSince moments userId (time - age) found ∧ reply = acceptPrincipal found
  | _ => True

/-- The snapshots that are kept. -/
def PrincipalsRecent (age : ℚ) (principals : KeyValues UserId Principal) : Prop :=
  ∀ userId entry, principals userId = some entry →
    HeldSince moments userId (entry.deadline - age) (some entry.value)

structure NetRecent (age : ℚ) (w : World AuthzStore NetPhase) : Prop where
  cached : PrincipalsRecent moments age w.store.principals
  requests : ∀ t, (w.threads t).Recent moments age

end

section
variable {moments : World AuthzStore NetPhase → Prop} {w : World AuthzStore NetPhase}
  {l : ℕ × NetInput} {s s' : AuthzStore} {p p' : NetPhase} {lag age : ℚ} {userId : UserId}
  {principal : Principal}

theorem HeldSince.mono {since since' : Instant} {found : Option Principal} (hle : since' ≤ since)
    (h : HeldSince moments userId since found) : HeldSince moments userId since' found := by
  obtain ⟨w, hw, hsince, hfound⟩ := h
  exact ⟨w, hw, le_trans hle hsince, hfound⟩

/-- A snapshot that can still be read was put there while it was young. -/
theorem PrincipalsRecent.hit (h : PrincipalsRecent moments age s.principals) {redis : CallOutcome}
    (hcached : cachedPrincipal s userId redis = some principal) :
    HeldSince moments userId (s.clock - age) (some principal) := by
  unfold cachedPrincipal at hcached
  split at hcached
  · obtain ⟨deadline, hentry, hlive⟩ := KeyValues.get_eq_some.mp hcached
    exact (h userId _ hentry).mono (sub_le_sub_right hlive.le age)
  · cases hcached

theorem PrincipalsRecent.drop (h : PrincipalsRecent moments age s.principals)
    (redis : CallOutcome) :
    PrincipalsRecent moments age (invalidatePrincipal s userId redis).principals := by
  unfold invalidatePrincipal
  split
  · intro other entry hentry
    have hentry : s.principals.del userId other = some entry := hentry
    by_cases hid : other = userId
    · subst hid
      rw [KeyValues.del_self] at hentry
      cases hentry
    · rw [KeyValues.del_of_ne hid] at hentry
      exact h other entry hentry
  · exact h

theorem PrincipalsRecent.fill (h : PrincipalsRecent moments (principalTtlS + lag) s.principals)
    (hheld : HeldSince moments userId (s.clock - lag) (some principal)) (redis : CallOutcome) :
    PrincipalsRecent moments (principalTtlS + lag)
      (cachePrincipal s userId principal redis).principals := by
  unfold cachePrincipal
  split
  · intro other entry hentry
    have hentry : s.principals.set s.clock userId principal principalTtlS other = some entry :=
      hentry
    by_cases hid : other = userId
    · subst hid
      rw [KeyValues.set_self] at hentry
      obtain rfl := Option.some.inj hentry
      refine hheld.mono ?_
      dsimp only
      linarith
    · rw [KeyValues.set_of_ne hid] at hentry
      exact h other entry hentry
  · exact h

/-- **One step that is a moment of the run.** -/
theorem netMoves_recent (hlag : 0 ≤ lag)
    (hcached : PrincipalsRecent moments (principalTtlS + lag) s.principals)
    (hp : p.Recent moments (principalTtlS + lag))
    (hin : ∀ readAt ∈ p.waitingSince, s.clock ≤ readAt + lag) {w' : World AuthzStore NetPhase}
    (hw' : moments w') (hstore : w'.store = s') (hmoves : NetMoves s l.2 p s' p') :
    PrincipalsRecent moments (principalTtlS + lag) s'.principals ∧
      p'.Recent moments (principalTtlS + lag) := by
  have hnow : ∀ time : Instant, time - (principalTtlS + lag) ≤ time := by
    intro time
    unfold principalTtlS
    linarith
  cases hmoves with
  | hit h => exact ⟨hcached, _, hcached.hit h, rfl⟩
  | @unknown userId h =>
      refine ⟨hcached, none, ⟨w', hw', ?_, ?_⟩, rfl⟩
      · rw [hstore]
        exact hnow s.clock
      · rw [hstore]
        exact h.symm
  | read h => exact ⟨hcached, w', hw', hstore.symm ▸ le_rfl, hstore.symm ▸ h.symm⟩
  | @filled userId principal readAt =>
      have hlate : s.clock ≤ readAt + lag := hin readAt rfl
      have hheld : HeldSince moments userId readAt (some principal) := hp
      refine ⟨hcached.fill (hheld.mono (by linarith)) _, _, hheld.mono ?_, rfl⟩
      unfold principalTtlS
      linarith
  | invalidated _ => exact ⟨hcached.drop _, trivial⟩
  | dropped _ _ => exact ⟨hcached.drop _, trivial⟩
  | missed | begun | turnedAway | staged _ | flushed _ | committed _ | rolledBack _ | finished _
  | waited | closed | ended => exact ⟨hcached, trivial⟩

theorem NetRecent.step (h : NetRecent moments (principalTtlS + lag) w) (hlag : 0 ≤ lag)
    {label : (ℕ × NetInput) ⊕ AccountsDb} (hin : CachedWithin lag w label)
    (hw' : moments (netMeanwhile w label)) :
    NetRecent moments (principalTtlS + lag) (netMeanwhile w label) := by
  cases label with
  | inl l =>
      obtain ⟨hcached, hself⟩ := netMoves_recent (s := w.store.tick l.2.now) hlag h.cached
        (h.requests l.1) hin hw' rfl (netStep_moves _ (w.threads l.1) l.2)
      refine ⟨hcached, threads_each_step (fun _ (p : NetPhase) => p.Recent moments _) h.requests ?_⟩
      rw [threadStep_threads_self]
      exact hself
  | inr db => exact ⟨h.cached, h.requests⟩

end

/-- **However Redis fails and whoever writes to Postgres**: in a run in which a
snapshot is cached within `lag` of being read, what the guard of a request
answers is what it would have answered from the accounts as they were at some
moment of the last five minutes and `lag`. -/
theorem guard_answers_are_recent (lag : ℚ) (hlag : 0 ≤ lag) (s : AuthzStore)
    (requests : ℕ → NetPhase)
    (hcache : ∀ userId entry, s.principals userId = some entry →
      entry.deadline ≤ s.clock + principalTtlS ∧
        loadPrincipal s.db userId = some entry.value)
    (hbegins : ∀ t, (requests t).Begins) (labels : List ((ℕ × NetInput) ⊕ AccountsDb))
    (hin : Throughout netMeanwhile (CachedWithin lag) ⟨s, requests⟩ labels) (t : ℕ)
    (userId : UserId) (time : Instant) (reply : Reply Principal)
    (htold : (run netMeanwhile ⟨s, requests⟩ labels).threads t = .told userId time reply) :
    ∃ w, Passes netMeanwhile ⟨s, requests⟩ labels w ∧
      time - (principalTtlS + lag) ≤ w.store.clock ∧
      reply = acceptPrincipal (loadPrincipal w.store.db userId) := by
  have hfirst : Passes netMeanwhile ⟨s, requests⟩ labels ⟨s, requests⟩ := ⟨[], labels, rfl, rfl⟩
  have hstart : NetRecent (Passes netMeanwhile ⟨s, requests⟩ labels) (principalTtlS + lag)
      ⟨s, requests⟩ := by
    refine ⟨fun userId entry hentry => ?_, fun t => ?_⟩
    · obtain ⟨hdeadline, hload⟩ := hcache userId entry hentry
      refine ⟨_, hfirst, ?_, hload.symm⟩
      dsimp only
      linarith
    · have hbegin := hbegins t
      dsimp only
      cases hphase : requests t with
      | arrived _ => trivial
      | working _ => trivial
      | _ =>
          rw [hphase] at hbegin
          exact hbegin.elim
  have hend := (always_of_throughout (fun w l h hl => h.step hlag hl.1 hl.2.2) hstart
    hin.passes).final
  have htold := htold ▸ hend.requests t
  obtain ⟨found, ⟨w, hw, hsince, rfl⟩, hreply⟩ := htold
  exact ⟨w, hw, hsince, hreply⟩

/-- She is looked up; an operator suspends her in Postgres itself, and the
teardown of a handler does not reach Redis; four minutes later she still gets in. -/
def lostInvalidation : List ((ℕ × NetInput) ⊕ AccountsDb) :=
  [.inl (0, handlerAt 1 .finish), .inl (0, handlerAt 1 .finish), .inl (0, handlerAt 2 .finish),
    .inr (aliceAlone.db.setStatus 7 .suspended), .inl (1, ⟨3, .refused, .invalidate 7⟩),
    .inl (2, handlerAt 243 .finish)]

theorem guard_answers_are_recent_lost :
    ∃ w, Passes netMeanwhile ⟨aliceAlone, forgetful⟩ lostInvalidation w ∧
      243 - (principalTtlS + 1) ≤ w.store.clock ∧
      Reply.ok ⟨7, .student, .active, none, none⟩ =
        acceptPrincipal (loadPrincipal w.store.db 7) := by
  refine guard_answers_are_recent 1 (by decide) aliceAlone forgetful ?_ ?_ lostInvalidation ?_ 2 7
    243 (.ok ⟨7, .student, .active, none, none⟩) ?_
  · rintro _ _ ⟨⟩
  · intro t
    unfold forgetful
    split
    · rfl
    · trivial
  · decide +kernel
  · decide +kernel

end UniTrack
