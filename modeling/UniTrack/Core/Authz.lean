import UniTrack.Framework.Expiry
import UniTrack.Routes.Auth

/-!
# The authorization snapshot (`app/core/authz.py`)

What a request is authorized against: one row of a join over `users` and
`helpers`, cached in Redis and dropped by whoever changes either. The cached
JSON is taken as the snapshot it spells.
-/

namespace UniTrack

open UniTrack.Framework UniTrack.Python

/-- `PRINCIPAL_TTL_S`. -/
def principalTtlS : ℚ := 300

structure Principal where
  userId : UserId
  role : UserRole
  status : UserStatus
  helperId : Option HelperId
  helperStatus : Option HelperStatus
deriving DecidableEq

/-- `load_principal_from_db`. -/
def loadPrincipal (db : AccountsDb) (userId : UserId) : Option Principal :=
  (db.get userId).map fun user =>
    let helper := db.helperByUserId userId
    { userId := user.id
      role := user.role
      status := user.status
      helperId := helper.map (·.id)
      helperStatus := helper.map (·.status) }

/-- Postgres, the keys `authz:principal:{id}`, and a clock that does not run
backwards. -/
structure AuthzStore where
  db : AccountsDb
  principals : KeyValues UserId Principal
  clock : Instant

/-- The cached snapshot; an error of Redis reads as a miss. -/
def cachedPrincipal (s : AuthzStore) (userId : UserId) (redis : CallOutcome) : Option Principal :=
  if redis.heard then s.principals.get s.clock userId else none

/-- The `SET` after a miss; a failure is swallowed. -/
def cachePrincipal (s : AuthzStore) (userId : UserId) (principal : Principal)
    (redis : CallOutcome) : AuthzStore :=
  if redis.applied then
    { s with principals := s.principals.set s.clock userId principal principalTtlS }
  else s

/-- `invalidate_principal`; a failure is swallowed. -/
def invalidatePrincipal (s : AuthzStore) (userId : UserId) (redis : CallOutcome) : AuthzStore :=
  if redis.applied then { s with principals := s.principals.del userId } else s

/-- How `get_principal` (`app/api/deps.py`) ends on the snapshot it was given. -/
def acceptPrincipal : Option Principal → Reply Principal
  | none => .refused 401 "Invalid or expired token"
  | some principal =>
      if principal.status = .suspended then .refused 401 "Invalid or expired token"
      else .ok principal

@[simp] theorem cachePrincipal_db (s : AuthzStore) (userId : UserId) (principal : Principal)
    (redis : CallOutcome) : (cachePrincipal s userId principal redis).db = s.db := by
  unfold cachePrincipal
  split <;> rfl

@[simp] theorem invalidatePrincipal_db (s : AuthzStore) (userId : UserId) (redis : CallOutcome) :
    (invalidatePrincipal s userId redis).db = s.db := by
  unfold invalidatePrincipal
  split <;> rfl

theorem acceptPrincipal_eq_ok {found : Option Principal} {principal : Principal} :
    acceptPrincipal found = .ok principal ↔
      found = some principal ∧ principal.status ≠ .suspended := by
  cases found with
  | none => simp [acceptPrincipal]
  | some p =>
      simp only [acceptPrincipal, Option.some.injEq]
      split
      · rename_i hstatus
        apply iff_of_false nofun
        rintro ⟨rfl, hne⟩
        exact hne hstatus
      · rename_i hstatus
        rw [Reply.ok.injEq]
        refine ⟨?_, fun h => h.1⟩
        rintro rfl
        exact ⟨rfl, hstatus⟩

/-! ## What the snapshot says -/

section
variable {db : AccountsDb}

/-- The account is suspended, if it is there at all. -/
def Suspended (db : AccountsDb) (userId : UserId) : Prop :=
  ∀ u ∈ db.users, u.id = userId → u.status = .suspended

theorem Suspended.principal {userId : UserId} {principal : Principal} (h : Suspended db userId)
    (hload : loadPrincipal db userId = some principal) : principal.status = .suspended := by
  obtain ⟨u, hget, rfl⟩ := Option.map_eq_some_iff.mp hload
  obtain ⟨hu, hid⟩ := AccountsDb.get_eq_some.mp hget
  exact h u hu hid

/-- The snapshot is made of one account and its helper row. -/
theorem loadPrincipal_congr {db' : AccountsDb} {userId : UserId}
    (hget : db'.get userId = db.get userId)
    (hhelper : db'.helperByUserId userId = db.helperByUserId userId) :
    loadPrincipal db' userId = loadPrincipal db userId := by
  unfold loadPrincipal
  rw [hget, hhelper]

end

end UniTrack
