import UniTrack.Core.Authz
import UniTrack.Framework.Threads
import UniTrack.Routes.Admin

/-!
# Lookups and moderation, step by step

`get_principal` and the three requests of `app/api/routes/admin.py` that change
an account, cut at every read, commit and Redis command. The last step of such a
request is the teardown of its session (`app/db/session.py`), which drops the
snapshot once more.
-/

namespace UniTrack

open UniTrack.Framework UniTrack.Python

/-! ## What a request decides -/

/-- The rows a request has read when it decides, and who decides. -/
inductive Moderation where
  | suspension (user : Account) (helper : Option Helper)
  | approval (admin : UserId) (helper : Helper) (user : Account)
  | reinstatement (user : Account) (helper : Option Helper)
deriving DecidableEq

namespace Moderation

def user : Moderation → Account
  | .suspension user _ => user
  | .approval _ _ user => user
  | .reinstatement user _ => user

/-- The status it gives the account. -/
def status : Moderation → UserStatus
  | .suspension _ _ => .suspended
  | _ => .active

/-- The helper row as read, and as the request leaves it. -/
def helper : Moderation → Option (Helper × Helper)
  | .suspension _ helper => helper.map fun h => (h, { h with status := .suspended })
  | .approval admin helper _ =>
      some (helper, { helper with status := .approved, approvedBy := some admin })
  | .reinstatement _ helper => helper.map fun h => (h, { h with status := .approved })

end Moderation

/-- An `UPDATE` of a helper's row with the columns that changed. -/
def AccountsDb.patchHelper (db : AccountsDb) (read left : Helper) : AccountsDb :=
  { db with
    helpers := db.helpers.update
      (fun h => if h.id = read.id then
        { h with
          status := (changed read.status left.status).getD h.status
          approvedBy := (changed read.approvedBy left.approvedBy).getD h.approvedBy } else h)
      (by
        intro a b h
        rw [Helper.clash_iff] at h ⊢
        split at h <;> split at h <;> exact h) }

/-- The commit: each row is sent with what the request changed of it. -/
def AccountsDb.moderate (db : AccountsDb) (m : Moderation) : AccountsDb :=
  let db' := match changed m.user.status m.status with
    | none => db
    | some status => db.setStatus m.user.id status
  match m.helper with
  | none => db'
  | some (read, left) => db'.patchHelper read left

/-- What the admin is answered. -/
inductive AdminAnswer where
  | suspended (reply : Reply Unit)
  | approved (reply : Reply HelperOut)
  | reinstated (reply : Reply UserStatusOut)
deriving DecidableEq

def Moderation.answer : Moderation → AdminAnswer
  | .suspension _ _ => .suspended (.ok ())
  | .approval admin helper user =>
      .approved (.ok (toOut { user with status := .active }
        { helper with status := .approved, approvedBy := some admin }))
  | .reinstatement user helper =>
      .reinstated (.ok ⟨user.id, .active, helper.map fun _ => .approved⟩)

/-! ## Steps -/

inductive AuthzRequest where
  | principal (userId : UserId)
  | suspend (admin userId : UserId)
  | approve (admin : UserId) (helperId : HelperId)
  | reinstate (userId : UserId)
deriving DecidableEq

/-- What a step takes from outside. -/
structure AuthzInput where
  now : Instant
  redis : CallOutcome

/-- Where a request stands. -/
inductive AuthzPhase where
  | arrived (request : AuthzRequest)
  /-- the cache had nothing; next is Postgres -/
  | missed (userId : UserId)
  /-- Postgres has the snapshot; next it is cached -/
  | found (userId : UserId) (principal : Principal)
  /-- how `get_principal` ended -/
  | told (userId : UserId) (reply : Reply Principal)
  /-- the account is read; next its helper row -/
  | suspending (user : Account)
  /-- the account is read, suspended; next its helper row -/
  | reinstating (user : Account)
  /-- the helper row is read; next its account -/
  | approving (admin : UserId) (helper : Helper)
  /-- next is the commit -/
  | deciding (m : Moderation)
  /-- next is `invalidate_principal` -/
  | committed (m : Moderation)
  /-- next is the teardown of the session -/
  | invalidated (m : Moderation)
  | answered (answer : AdminAnswer)
deriving DecidableEq

/-- One step of a request, at the clock of the store. -/
def authzStep (s : AuthzStore) : AuthzPhase → AuthzInput → AuthzStore × AuthzPhase
  | .arrived (.principal userId), a =>
      match cachedPrincipal s userId a.redis with
      | some principal => (s, .told userId (acceptPrincipal (some principal)))
      | none => (s, .missed userId)
  | .missed userId, _ =>
      match loadPrincipal s.db userId with
      | none => (s, .told userId (acceptPrincipal none))
      | some principal => (s, .found userId principal)
  | .found userId principal, a =>
      (cachePrincipal s userId principal a.redis,
        .told userId (acceptPrincipal (some principal)))
  | .arrived (.suspend admin userId), _ =>
      if userId = admin then (s, .answered (.suspended (.refused 400 "Cannot suspend yourself")))
      else match s.db.get userId with
        | none => (s, .answered (.suspended (.refused 404 "Unknown user")))
        | some user => (s, .suspending user)
  | .suspending user, _ => (s, .deciding (.suspension user (s.db.helperByUserId user.id)))
  | .arrived (.reinstate userId), _ =>
      match s.db.get userId with
      | none => (s, .answered (.reinstated (.refused 404 "Unknown user")))
      | some user =>
          if user.status ≠ .suspended then
            (s, .answered (.reinstated
              (.refused 409 s!"Account is {user.status.value}, not suspended")))
          else (s, .reinstating user)
  | .reinstating user, _ => (s, .deciding (.reinstatement user (s.db.helperByUserId user.id)))
  | .arrived (.approve admin helperId), _ =>
      match s.db.getHelper helperId with
      | none => (s, .answered (.approved (.refused 404 "Unknown helper")))
      | some helper =>
          if helper.status = .approved then
            (s, .answered (.approved (.refused 409 "Helper is already approved")))
          else (s, .approving admin helper)
  | .approving admin helper, _ =>
      match s.db.get helper.userId with
      | none => (s, .answered (.approved (.refused 404 "Helper has no user row")))
      | some user => (s, .deciding (.approval admin helper user))
  | .deciding m, _ => ({ s with db := s.db.moderate m }, .committed m)
  | .committed m, a => (invalidatePrincipal s m.user.id a.redis, .invalidated m)
  | .invalidated m, a => (invalidatePrincipal s m.user.id a.redis, .answered m.answer)
  | .told userId reply, _ => (s, .told userId reply)
  | .answered answer, _ => (s, .answered answer)

/-- One step at the instant it is given, or at the store's if that is later. -/
def authzAdvance (s : AuthzStore) (p : AuthzPhase) (a : AuthzInput) : AuthzStore × AuthzPhase :=
  authzStep { s with clock := max s.clock a.now } p a

/-! ## What a commit does to the tables -/

section
variable {db : AccountsDb} {m : Moderation}

/-- The rows of `users` after a commit. -/
theorem mem_moderate_users {u : Account} : u ∈ (db.moderate m).users ↔
    ∃ v ∈ db.users, (if v.id = m.user.id then
      { v with status := (changed m.user.status m.status).getD v.status } else v) = u := by
  have husers : ∀ db' : AccountsDb, (match m.helper with
      | none => db'
      | some (read, left) => db'.patchHelper read left).users = db'.users := by
    intro db'
    split <;> rfl
  unfold AccountsDb.moderate
  dsimp only
  rw [husers]
  cases changed m.user.status m.status with
  | none => simp
  | some status => exact AccountsDb.mem_setStatus

/-- What a commit makes of a helper's row. -/
def Moderation.leave (m : Moderation) (h : Helper) : Helper :=
  match m.helper with
  | none => h
  | some (read, left) =>
      if h.id = read.id then
        { h with
          status := (changed read.status left.status).getD h.status
          approvedBy := (changed read.approvedBy left.approvedBy).getD h.approvedBy }
      else h

/-- The rows of `helpers` after a commit. -/
theorem mem_moderate_helpers {h : Helper} : h ∈ (db.moderate m).helpers ↔
    ∃ g ∈ db.helpers, m.leave g = h := by
  have hhelpers : (match changed m.user.status m.status with
      | none => db
      | some status => db.setStatus m.user.id status).helpers = db.helpers := by
    split <;> rfl
  unfold AccountsDb.moderate Moderation.leave
  dsimp only
  cases m.helper with
  | none =>
      dsimp only
      rw [hhelpers]
      simp
  | some rows =>
      obtain ⟨read, left⟩ := rows
      dsimp only
      rw [AccountsDb.patchHelper, Table.mem_update, hhelpers]

/-- Whose row it is does not change. -/
theorem Moderation.leave_keys (m : Moderation) (h : Helper) :
    (m.leave h).id = h.id ∧ (m.leave h).userId = h.userId := by
  unfold Moderation.leave
  split
  · exact ⟨rfl, rfl⟩
  · split <;> exact ⟨rfl, rfl⟩

theorem Moderation.leave_of_ne {h : Helper} (hother : ∀ rows ∈ m.helper, h.id ≠ rows.1.id) :
    m.leave h = h := by
  unfold Moderation.leave
  split
  · rfl
  · rename_i read left hrows
    rw [if_neg (hother (read, left) hrows)]

/-! ## One request on its own -/

theorem setStatus_self {u : Account} (hu : u ∈ db.users) : db.setStatus u.id u.status = db := by
  have hrows : db.users.rows.map (fun v => if v.id = u.id then { v with status := u.status } else v)
      = db.users.rows := by
    refine List.map_congr_left (fun v hv => ?_) |>.trans (List.map_id _)
    by_cases hid : v.id = u.id
    · rw [if_pos hid, AccountsDb.user_ext hv hu hid]
      rfl
    · rw [if_neg hid]
      rfl
  have husers : (db.setStatus u.id u.status).users = db.users := Table.ext hrows
  unfold AccountsDb.setStatus at husers ⊢
  dsimp only at husers
  rw [husers]

theorem patchHelper_self {read left : Helper} (hread : read ∈ db.helpers) :
    db.patchHelper read left = db.setHelper read.id left.status left.approvedBy := by
  have hrows : (db.patchHelper read left).helpers.rows =
      (db.setHelper read.id left.status left.approvedBy).helpers.rows := by
    refine List.map_congr_left fun h hh => ?_
    by_cases hid : h.id = read.id
    · rw [if_pos hid, if_pos hid]
      obtain rfl : h = read :=
        db.helpers.eq_of_clash hh hread (Helper.clash_iff.mpr (Or.inl hid))
      rw [changed_getD, changed_getD]
    · rw [if_neg hid, if_neg hid]
  have hhelpers : (db.patchHelper read left).helpers =
      (db.setHelper read.id left.status left.approvedBy).helpers := Table.ext hrows
  unfold AccountsDb.patchHelper AccountsDb.setHelper at hhelpers ⊢
  dsimp only at hhelpers
  rw [hhelpers]

/-- Over rows that are still as they were read, a commit writes what the
request set. -/
theorem moderate_fresh (huser : m.user ∈ db.users) (hhelper : ∀ rows ∈ m.helper, rows.1 ∈ db.helpers) :
    db.moderate m = match m.helper with
      | none => db.setStatus m.user.id m.status
      | some (read, left) =>
          (db.setStatus m.user.id m.status).setHelper read.id left.status left.approvedBy := by
  have hstatus : (match changed m.user.status m.status with
      | none => db
      | some status => db.setStatus m.user.id status) = db.setStatus m.user.id m.status := by
    unfold changed
    by_cases hsame : m.status = m.user.status
    · rw [if_pos hsame, hsame]
      exact (setStatus_self huser).symm
    · rw [if_neg hsame]
  unfold AccountsDb.moderate
  rw [hstatus]
  cases hrows : m.helper with
  | none => rfl
  | some rows =>
      obtain ⟨read, left⟩ := rows
      exact patchHelper_self (hhelper _ hrows)

/-- Run on its own, the request leaves these tables and this answer. -/
def EndsWith (s : AuthzStore) (p : AuthzPhase) (actions : List AuthzInput) (db : AccountsDb)
    (answer : AdminAnswer) : Prop :=
  (solo authzAdvance s p actions).1.db = db ∧
    (solo authzAdvance s p actions).2 = .answered answer

theorem endsWith_answered (s : AuthzStore) (answer : AdminAnswer) (actions : List AuthzInput) :
    EndsWith s (.answered answer) actions s.db answer := by
  induction actions generalizing s with
  | nil => exact ⟨rfl, rfl⟩
  | cons a actions ih => exact ih { s with clock := max s.clock a.now }

theorem endsWith_deciding (s : AuthzStore) (m : Moderation) (a b c : AuthzInput) :
    EndsWith s (.deciding m) [a, b, c] (s.db.moderate m) m.answer := by
  constructor
  · simp only [solo_cons, solo_nil, authzAdvance, authzStep, invalidatePrincipal_db]
  · rfl

/-- The helper row a request reads for an account is in the table. -/
theorem mem_of_mem_helper {left : Helper → Helper} {userId : UserId}
    {rows : Helper × Helper}
    (hrows : rows ∈ (db.helperByUserId userId).map fun h => (h, left h)) : rows.1 ∈ db.helpers := by
  obtain ⟨read, hread, rfl⟩ := Option.map_eq_some_iff.mp hrows
  exact (AccountsDb.helperByUserId_eq_some.mp hread).1

/-- Without anybody else, the steps of `suspend_user` are `suspend_user`. -/
theorem suspend_alone (s : AuthzStore) (admin userId : UserId) (a b c d e : AuthzInput) :
    EndsWith s (.arrived (.suspend admin userId)) [a, b, c, d, e]
      (suspendUser admin userId s.db).1 (.suspended (suspendUser admin userId s.db).2) := by
  unfold suspendUser EndsWith
  rw [solo_cons, authzAdvance, authzStep]
  by_cases hself : userId = admin
  · rw [if_pos hself, if_pos hself]
    exact endsWith_answered { s with clock := max s.clock a.now } _ [b, c, d, e]
  · rw [if_neg hself, if_neg hself]
    dsimp only
    cases huser : s.db.get userId with
    | none => exact endsWith_answered { s with clock := max s.clock a.now } _ [b, c, d, e]
    | some user =>
        obtain ⟨hmem, rfl⟩ := AccountsDb.get_eq_some.mp huser
        dsimp only
        rw [solo_cons, authzAdvance, authzStep]
        have hends := endsWith_deciding { s with clock := max (max s.clock a.now) b.now }
          (.suspension user (s.db.helperByUserId user.id)) c d e
        rw [@moderate_fresh s.db (.suspension user (s.db.helperByUserId user.id)) hmem
          (fun _ hrows => mem_of_mem_helper hrows)] at hends
        cases hhelper : s.db.helperByUserId user.id with
        | none =>
            rw [hhelper] at hends
            exact hends
        | some helper =>
            rw [hhelper] at hends
            exact hends

/-- The same of `reinstate_user`. -/
theorem reinstate_alone (s : AuthzStore) (userId : UserId) (a b c d e : AuthzInput) :
    EndsWith s (.arrived (.reinstate userId)) [a, b, c, d, e]
      (reinstateUser userId s.db).1 (.reinstated (reinstateUser userId s.db).2) := by
  unfold reinstateUser EndsWith
  rw [solo_cons, authzAdvance, authzStep]
  dsimp only
  cases huser : s.db.get userId with
  | none => exact endsWith_answered { s with clock := max s.clock a.now } _ [b, c, d, e]
  | some user =>
      obtain ⟨hmem, rfl⟩ := AccountsDb.get_eq_some.mp huser
      dsimp only
      by_cases hstatus : user.status ≠ .suspended
      · rw [if_pos hstatus, if_pos hstatus]
        exact endsWith_answered { s with clock := max s.clock a.now } _ [b, c, d, e]
      · rw [if_neg hstatus, if_neg hstatus, solo_cons, authzAdvance, authzStep]
        have hends := endsWith_deciding { s with clock := max (max s.clock a.now) b.now }
          (.reinstatement user (s.db.helperByUserId user.id)) c d e
        rw [@moderate_fresh s.db (.reinstatement user (s.db.helperByUserId user.id)) hmem
          (fun _ hrows => mem_of_mem_helper hrows)] at hends
        cases hhelper : s.db.helperByUserId user.id with
        | none =>
            rw [hhelper] at hends
            exact hends
        | some helper =>
            rw [hhelper] at hends
            exact hends

/-- The same of `approve_helper`. -/
theorem approve_alone (s : AuthzStore) (admin : UserId) (helperId : HelperId)
    (a b c d e : AuthzInput) :
    EndsWith s (.arrived (.approve admin helperId)) [a, b, c, d, e]
      (approveHelper admin helperId s.db).1 (.approved (approveHelper admin helperId s.db).2) := by
  unfold approveHelper EndsWith
  rw [solo_cons, authzAdvance, authzStep]
  dsimp only
  cases hhelper : s.db.getHelper helperId with
  | none => exact endsWith_answered { s with clock := max s.clock a.now } _ [b, c, d, e]
  | some helper =>
      obtain ⟨hhmem, rfl⟩ := AccountsDb.getHelper_eq_some.mp hhelper
      dsimp only
      by_cases hstatus : helper.status = .approved
      · rw [if_pos hstatus, if_pos hstatus]
        exact endsWith_answered { s with clock := max s.clock a.now } _ [b, c, d, e]
      · rw [if_neg hstatus, if_neg hstatus, solo_cons, authzAdvance, authzStep]
        dsimp only
        cases huser : s.db.get helper.userId with
        | none =>
            exact endsWith_answered { s with clock := max (max s.clock a.now) b.now } _ [c, d, e]
        | some user =>
            obtain ⟨hmem, huserId⟩ := AccountsDb.get_eq_some.mp huser
            have hends := endsWith_deciding { s with clock := max (max s.clock a.now) b.now }
              (.approval admin helper user) c d e
            rw [@moderate_fresh s.db (.approval admin helper user) hmem] at hends
            · rw [← huserId]
              exact hends
            · rintro rows hrows
              obtain rfl := Option.some.inj hrows
              exact hhmem

end

end UniTrack
