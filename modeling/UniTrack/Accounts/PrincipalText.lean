import UniTrack.Core.Redis
import UniTrack.Routes.Moderation

/-!
# The snapshot as it is kept (`app/core/authz.py`)

Redis keeps a snapshot as the JSON that `Principal.to_json` writes, among
everything else the program keeps there. Whatever is not the JSON of a snapshot
reads as a miss. The store of snapshots that the lookups and the moderation are
stated over is what they see of that keyspace.

1. `to_json` and `from_json`.
2. Lookups and moderation over the keyspace.
3. What they see.
-/

namespace UniTrack

open UniTrack.Framework UniTrack.Python

/-! ## §1 `to_json` and `from_json` -/

def roleTexts : List (Text × UserRole) :=
  [("student".toList, .student), ("helper".toList, .helper), ("admin".toList, .admin)]

def statusTexts : List (Text × UserStatus) :=
  [("pending_email".toList, .pendingEmail), ("active".toList, .active),
    ("pending_approval".toList, .pendingApproval), ("suspended".toList, .suspended)]

def helperStatusTexts : List (Text × HelperStatus) :=
  [("pending".toList, .pending), ("approved".toList, .approved), ("suspended".toList, .suspended)]

def UserRole.text : UserRole → Text
  | .student => "student".toList
  | .helper => "helper".toList
  | .admin => "admin".toList

def UserStatus.text : UserStatus → Text
  | .pendingEmail => "pending_email".toList
  | .active => "active".toList
  | .pendingApproval => "pending_approval".toList
  | .suspended => "suspended".toList

def HelperStatus.text : HelperStatus → Text
  | .pending => "pending".toList
  | .approved => "approved".toList
  | .suspended => "suspended".toList

/-- A `StrEnum` of a value. -/
def readEnum {α : Type} (members : List (Text × α)) : JsonValue → Except PyError α
  | .str text => orValueError (members.lookup text)
  | _ => .error .valueError

theorem readEnum_role (role : UserRole) : readEnum roleTexts (.str role.text) = .ok role := by
  cases role <;> rfl

theorem readEnum_status (status : UserStatus) :
    readEnum statusTexts (.str status.text) = .ok status := by
  cases status <;> rfl

/-- `f(value) if value else None`. -/
def ifTruthy {α : Type} (read : JsonValue → Except PyError α) (value : JsonValue) :
    Except PyError (Option α) :=
  if value.truthy then (read value).map some else .ok none

namespace Principal

variable (py : Interpreter) (u : Uuids)

/-- The dictionary that is dumped. -/
def items (p : Principal) : List (Text × JsonValue) :=
  [("user_id".toList, .str (u.spell p.userId)),
    ("role".toList, .str p.role.text),
    ("status".toList, .str p.status.text),
    ("helper_id".toList, (p.helperId.map fun id => .str (u.spell id)).getD .null),
    ("helper_status".toList, (p.helperStatus.map fun s => .str s.text).getD .null)]

/-- `to_json`. -/
def toJson (p : Principal) : Text := dumps py.repr (.dict (p.items u))

/-- `from_json`. -/
def fromJson (raw : Text) : Except PyError Principal := do
  let d ← loads py.depth raw
  let userId ← u.readValue (← d.item "user_id".toList)
  let role ← readEnum roleTexts (← d.item "role".toList)
  let status ← readEnum statusTexts (← d.item "status".toList)
  let helperId ← ifTruthy u.readValue (← d.item "helper_id".toList)
  let helperStatus ← ifTruthy (readEnum helperStatusTexts) (← d.item "helper_status".toList)
  return ⟨userId, role, status, helperId, helperStatus⟩

theorem items_writable (p : Principal) : Writable py.repr py.depth (.dict (p.items u)) := by
  obtain ⟨depth, hdepth⟩ := py.depth_eq_succ
  rw [hdepth]
  refine .dict fun item hitem => ?_
  unfold items at hitem
  simp only [List.mem_cons, List.not_mem_nil, or_false] at hitem
  rcases hitem with rfl | rfl | rfl | rfl | rfl
  · exact .str _
  · exact .str _
  · exact .str _
  · cases p.helperId
    · exact .null
    · exact .str _
  · cases p.helperStatus
    · exact .null
    · exact .str _

theorem ifTruthy_helperId (helperId : Option HelperId) :
    ifTruthy u.readValue ((helperId.map fun id => .str (u.spell id)).getD .null) = .ok helperId := by
  cases helperId with
  | none => rfl
  | some id =>
      have htruthy : JsonValue.truthy (.str (u.spell id)) = true := by
        simp [JsonValue.truthy, u.spell_ne_nil id]
      simp only [Option.map_some, Option.getD_some, ifTruthy, htruthy, if_true, Uuids.readValue,
        u.read_spell, orValueError, Except.map]

theorem ifTruthy_helperStatus (status : Option HelperStatus) :
    ifTruthy (readEnum helperStatusTexts) ((status.map fun s => .str s.text).getD .null) =
      .ok status := by
  cases status with
  | none => rfl
  | some status => cases status <;> rfl

/-- **A snapshot is read back from its JSON.** -/
theorem fromJson_toJson (p : Principal) : fromJson py u (p.toJson py u) = .ok p := by
  have hitem : ∀ pair ∈ p.items u, (JsonValue.dict (p.items u)).item pair.1 = .ok pair.2 := by
    intro pair hpair
    unfold items at hpair ⊢
    simp only [List.mem_cons, List.not_mem_nil, or_false] at hpair
    rcases hpair with rfl | rfl | rfl | rfl | rfl <;> rfl
  have hloads := loads_dumps (items_writable py u p)
  unfold fromJson toJson
  rw [hloads]
  simp only [items, List.forall_mem_cons] at hitem
  obtain ⟨huser, hrole, hstatus, hhelper, hhelperStatus, -⟩ := hitem
  simp only [items, bind, Except.bind, huser, hrole, hstatus, hhelper, hhelperStatus,
    readEnum_role, readEnum_status, ifTruthy_helperId, ifTruthy_helperStatus, Uuids.readValue,
    u.read_spell, orValueError]
  rfl

end Principal

/-! ## §2 Lookups and moderation over the keyspace -/

/-- Postgres, the whole of Redis, and a clock that does not run backwards. -/
structure AuthzTexts where
  db : AccountsDb
  redis : KeyValues Text RedisValue
  clock : Instant

section
variable (py : Interpreter) (u : Uuids)

/-- `principal_key`. -/
def principalKey (userId : UserId) : RedisKey := ⟨.principal, u.spell userId⟩

/-- The first half of `get_principal_cached`: an error of Redis, a key of
another type and a text that is no snapshot all read as a miss. -/
def cachedPrincipalText (s : AuthzTexts) (userId : UserId) (redis : CallOutcome) :
    Option Principal :=
  if redis.heard then
    (s.redis.get s.clock (principalKey u userId).text).bind fun value =>
      value.getText.bind fun raw => (Principal.fromJson py u raw).toOption
  else none

/-- The `SET` after a miss; a failure is swallowed. -/
def cachePrincipalText (s : AuthzTexts) (userId : UserId) (principal : Principal)
    (redis : CallOutcome) : AuthzTexts :=
  if redis.applied then
    { s with
      redis := s.redis.set s.clock (principalKey u userId).text (.str (principal.toJson py u))
        principalTtlS }
  else s

/-- `invalidate_principal`; a failure is swallowed. -/
def invalidatePrincipalText (s : AuthzTexts) (userId : UserId) (redis : CallOutcome) : AuthzTexts :=
  if redis.applied then { s with redis := s.redis.del (principalKey u userId).text } else s

/-- A step that does not talk to Redis. -/
def authzTablesStep (s : AuthzTexts) (p : AuthzPhase) (a : AuthzInput) : AuthzTexts × AuthzPhase :=
  let out := authzStep { db := s.db, principals := .empty UserId Principal, clock := s.clock } p a
  ({ s with db := out.1.db }, out.2)

/-- One step of a request, at the clock of the store. -/
def authzTextStep (s : AuthzTexts) : AuthzPhase → AuthzInput → AuthzTexts × AuthzPhase
  | .arrived (.principal userId), a =>
      match cachedPrincipalText py u s userId a.redis with
      | some principal => (s, .told userId (acceptPrincipal (some principal)))
      | none => (s, .missed userId)
  | .found userId principal, a =>
      (cachePrincipalText py u s userId principal a.redis,
        .told userId (acceptPrincipal (some principal)))
  | .committed m, a => (invalidatePrincipalText u s m.user.id a.redis, .invalidated m)
  | .invalidated m, a => (invalidatePrincipalText u s m.user.id a.redis, .answered m.answer)
  | p, a => authzTablesStep s p a

def authzTextAdvance (s : AuthzTexts) (p : AuthzPhase) (a : AuthzInput) : AuthzTexts × AuthzPhase :=
  authzTextStep py u { s with clock := max s.clock a.now } p a

/-- Anybody else's command on the same Redis. -/
def AuthzTexts.disturb (s : AuthzTexts) (o : ForeignWrite [.principal]) : AuthzTexts :=
  { s with redis := o.apply s.redis }

/-! ## §3 What they see -/

def principalCodec : Codec UserId Principal Text RedisValue :=
  stringsOf u .principal (Principal.toJson py u) (Principal.fromJson py u)

/-- The snapshots that can be read. -/
def AuthzTexts.seen (s : AuthzTexts) : AuthzStore where
  db := s.db
  principals := (principalCodec py u).view s.redis
  clock := s.clock

variable {py u}

theorem cachedPrincipal_seen (s : AuthzTexts) (userId : UserId) (redis : CallOutcome) :
    cachedPrincipal (s.seen py u) userId redis = cachedPrincipalText py u s userId redis := by
  unfold cachedPrincipal cachedPrincipalText
  rw [AuthzTexts.seen, Codec.get_view]
  rfl

theorem cachePrincipal_seen (s : AuthzTexts) (userId : UserId) (principal : Principal)
    (redis : CallOutcome) :
    cachePrincipal (s.seen py u) userId principal redis =
      (cachePrincipalText py u s userId principal redis).seen py u := by
  unfold cachePrincipal cachePrincipalText
  split
  · have hset := (principalCodec py u).view_set
      (stringsOf_read (Principal.fromJson_toJson py u principal)) s.redis s.clock userId
      principalTtlS
    exact congrArg (fun principals => (⟨s.db, principals, s.clock⟩ : AuthzStore)) hset.symm
  · rfl

theorem invalidatePrincipal_seen (s : AuthzTexts) (userId : UserId) (redis : CallOutcome) :
    invalidatePrincipal (s.seen py u) userId redis =
      (invalidatePrincipalText u s userId redis).seen py u := by
  unfold invalidatePrincipal invalidatePrincipalText
  split
  · have hdel := (principalCodec py u).view_del s.redis userId
    exact congrArg (fun principals => (⟨s.db, principals, s.clock⟩ : AuthzStore)) hdel.symm
  · rfl

/-- A step between two commands leaves the snapshots where they are, and does
not look at them. -/
def TablesOnly (p : AuthzPhase) : Prop :=
  ∀ (s : AuthzStore) (principals : KeyValues UserId Principal) (a : AuthzInput),
    authzStep { s with principals := principals } p a =
      ({ s with db := (authzStep s p a).1.db, principals := principals }, (authzStep s p a).2)

theorem authzTablesStep_seen {p : AuthzPhase} (h : TablesOnly p) (s : AuthzTexts) (a : AuthzInput) :
    authzStep (s.seen py u) p a =
      ((authzTablesStep s p a).1.seen py u, (authzTablesStep s p a).2) :=
  h { db := s.db, principals := .empty UserId Principal, clock := s.clock }
    ((principalCodec py u).view s.redis) a

theorem authzStep_seen (s : AuthzTexts) (p : AuthzPhase) (a : AuthzInput) :
    authzStep (s.seen py u) p a =
      ((authzTextStep py u s p a).1.seen py u, (authzTextStep py u s p a).2) := by
  cases p with
  | arrived request =>
      cases request with
      | principal userId =>
          unfold authzStep authzTextStep
          dsimp only
          rw [cachedPrincipal_seen]
          cases cachedPrincipalText py u s userId a.redis with
          | none => rfl
          | some principal => rfl
      | suspend admin userId =>
          refine authzTablesStep_seen (fun s principals a => ?_) s a
          unfold authzStep
          dsimp only
          split
          · rfl
          · split <;> rfl
      | approve admin helperId =>
          refine authzTablesStep_seen (fun s principals a => ?_) s a
          unfold authzStep
          dsimp only
          split
          · rfl
          · split <;> rfl
      | reinstate userId =>
          refine authzTablesStep_seen (fun s principals a => ?_) s a
          unfold authzStep
          dsimp only
          split
          · rfl
          · split <;> rfl
  | missed userId =>
      refine authzTablesStep_seen (fun s principals a => ?_) s a
      unfold authzStep
      dsimp only
      split <;> rfl
  | found userId principal =>
      exact Prod.ext (cachePrincipal_seen s userId principal a.redis) rfl
  | told userId reply => rfl
  | suspending user => rfl
  | reinstating user => rfl
  | approving admin helper =>
      refine authzTablesStep_seen (fun s principals a => ?_) s a
      unfold authzStep
      dsimp only
      split <;> rfl
  | deciding m => rfl
  | committed m => exact Prod.ext (invalidatePrincipal_seen s m.user.id a.redis) rfl
  | invalidated m => exact Prod.ext (invalidatePrincipal_seen s m.user.id a.redis) rfl
  | answered answer => rfl

theorem disturb_seen (s : AuthzTexts) (o : ForeignWrite [.principal]) :
    (s.disturb o).seen py u = s.seen py u :=
  congrArg (fun principals => (⟨s.db, principals, s.clock⟩ : AuthzStore))
    (stringsOf_foreign u List.mem_cons_self _ _ o s.redis)

end

/-- **Lookups and moderation over one shared Redis of texts are lookups and
moderation over snapshots**: whatever Redis holds at first, whatever the rest
of the program writes in between, and in whatever order the requests take their
steps, every request stands where it stands over the snapshots that can be
read. -/
theorem principals_kept_as_json (py : Interpreter) (u : Uuids) (w : World AuthzTexts AuthzPhase)
    (labels : List ((ℕ × AuthzInput) ⊕ ForeignWrite [.principal])) :
    (run (amongStep (threadStep (authzTextAdvance py u)) (World.disturb AuthzTexts.disturb))
        w labels).seen (AuthzTexts.seen py u) =
      run (threadStep authzAdvance) (w.seen (AuthzTexts.seen py u)) (ownSteps labels) :=
  threads_seen_run _ (fun s p a => authzStep_seen { s with clock := max s.clock a.now } p a)
    disturb_seen w labels

end UniTrack
