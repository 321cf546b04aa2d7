import UniTrack.Core.Redis
import UniTrack.Services.Trip

/-!
# The live trip as it is kept (`app/services/trip.py`)

Redis keeps the trip of a helper as the JSON that `ActiveTrip.to_json` writes.
The store of trips that starts, ends and lookups are stated over is what they
see of the keyspace they share with the rest of the program.

1. `to_json` and `from_json`.
2. Starts, ends and lookups over the keyspace.
3. What they see.
-/

namespace UniTrack

open UniTrack.Framework UniTrack.Python

/-! ## §1 `to_json` and `from_json` -/

namespace ActiveTrip

variable (py : Interpreter) (u : Uuids)

/-- The dictionary that is dumped. -/
def items (active : ActiveTrip) : List (Text × JsonValue) :=
  [("trip_id".toList, .str (u.spell active.tripId)),
    ("bus_id".toList, .str (u.spell active.busId)),
    ("route_id".toList, .str (u.spell active.routeId))]

/-- `to_json`. -/
def toJson (active : ActiveTrip) : Text := dumps py.repr (.dict (active.items u))

/-- `from_json`. -/
def fromJson (raw : Text) : Except PyError ActiveTrip := do
  let d ← loads py.depth raw
  let tripId ← u.readValue (← d.item "trip_id".toList)
  let busId ← u.readValue (← d.item "bus_id".toList)
  let routeId ← u.readValue (← d.item "route_id".toList)
  return ⟨tripId, busId, routeId⟩

theorem items_writable (active : ActiveTrip) :
    Writable py.repr py.depth (.dict (active.items u)) := by
  obtain ⟨depth, hdepth⟩ := py.depth_eq_succ
  rw [hdepth]
  refine .dict fun item hitem => ?_
  unfold items at hitem
  simp only [List.mem_cons, List.not_mem_nil, or_false] at hitem
  rcases hitem with rfl | rfl | rfl <;> exact .str _

/-- **A live trip is read back from its JSON.** -/
theorem fromJson_toJson (active : ActiveTrip) : fromJson py u (active.toJson py u) = .ok active := by
  have htrip : (JsonValue.dict (active.items u)).item "trip_id".toList =
      .ok (.str (u.spell active.tripId)) := rfl
  have hbus : (JsonValue.dict (active.items u)).item "bus_id".toList =
      .ok (.str (u.spell active.busId)) := rfl
  have hroute : (JsonValue.dict (active.items u)).item "route_id".toList =
      .ok (.str (u.spell active.routeId)) := rfl
  unfold fromJson toJson
  rw [loads_dumps (items_writable py u active)]
  simp only [bind, Except.bind, htrip, hbus, hroute, Uuids.readValue, u.read_spell, orValueError]
  rfl

end ActiveTrip

/-! ## §2 Starts, ends and lookups over the keyspace -/

/-- Postgres, the whole of Redis, and a clock that does not run backwards. -/
structure TripTexts where
  db : FleetDb
  redis : KeyValues Text RedisValue
  clock : Instant

section
variable (py : Interpreter) (u : Uuids)

/-- `helper_trip_key`. -/
def helperTripKey (helperId : HelperId) : RedisKey := ⟨.helperTrip, u.spell helperId⟩

/-- `_cache_active`: a failure is swallowed. -/
def cacheActiveText (s : TripTexts) (helperId : HelperId) (active : ActiveTrip)
    (redis : CallOutcome) : TripTexts :=
  if redis.applied then
    { s with
      redis := s.redis.set s.clock (helperTripKey u helperId).text (.str (active.toJson py u))
        activeTripTtlS }
  else s

/-- `clear_active_trip`. -/
def clearActiveTripText (s : TripTexts) (helperId : HelperId) (redis : CallOutcome) : TripTexts :=
  if redis.applied then { s with redis := s.redis.del (helperTripKey u helperId).text } else s

/-- The first half of `get_active_trip`: an error of Redis, a key of another
type and a text that is no trip all read as a miss. -/
def cachedTripText (s : TripTexts) (helperId : HelperId) (redis : CallOutcome) :
    Option ActiveTrip :=
  if redis.heard then
    (s.redis.get s.clock (helperTripKey u helperId).text).bind fun value =>
      value.getText.bind fun raw => (ActiveTrip.fromJson py u raw).toOption
  else none

/-- A step that does not talk to Redis. -/
def tripTablesStep (s : TripTexts) (p : TripPhase) (a : TripInput) : TripTexts × TripPhase :=
  let out := tripStep { db := s.db, cache := .empty HelperId ActiveTrip, clock := s.clock } p a
  ({ s with db := out.1.db }, out.2)

/-- One step of a request, at the clock of the store. -/
def tripTextStep (s : TripTexts) : TripPhase → TripInput → TripTexts × TripPhase
  | .started trip, a =>
      (cacheActiveText py u s trip.helperId (.fromModel trip) a.redis, .answered (.ok trip))
  | .ended trip, a =>
      (clearActiveTripText u s trip.helperId a.redis,
        .answered (if a.redis.heard then .ok trip else .crashed))
  | .arrived (.active helperId), a =>
      match cachedTripText py u s helperId a.redis with
      | some active => (s, .told (some active))
      | none => (s, .missed helperId)
  | .found helperId active, a =>
      (cacheActiveText py u s helperId active a.redis, .told (some active))
  | p, a => tripTablesStep s p a

def tripTextAdvance (s : TripTexts) (p : TripPhase) (a : TripInput) : TripTexts × TripPhase :=
  tripTextStep py u { s with clock := max s.clock a.now } p a

/-- Anybody else's command on the same Redis. -/
def TripTexts.disturb (s : TripTexts) (o : ForeignWrite [.helperTrip]) : TripTexts :=
  { s with redis := o.apply s.redis }

/-! ## §3 What they see -/

def activeTripCodec : Codec HelperId ActiveTrip Text RedisValue :=
  stringsOf u .helperTrip (ActiveTrip.toJson py u) (ActiveTrip.fromJson py u)

/-- The trips that can be read. -/
def TripTexts.seen (s : TripTexts) : TripStore where
  db := s.db
  cache := (activeTripCodec py u).view s.redis
  clock := s.clock

variable {py u}

theorem cachedTrip_seen (s : TripTexts) (helperId : HelperId) (redis : CallOutcome) :
    cachedTrip (s.seen py u) helperId redis = cachedTripText py u s helperId redis := by
  unfold cachedTrip cachedTripText
  rw [TripTexts.seen, Codec.get_view]
  rfl

theorem cacheActive_seen (s : TripTexts) (helperId : HelperId) (active : ActiveTrip)
    (redis : CallOutcome) :
    cacheActive (s.seen py u) helperId active redis =
      (cacheActiveText py u s helperId active redis).seen py u := by
  unfold cacheActive cacheActiveText
  split
  · have hset := (activeTripCodec py u).view_set
      (stringsOf_read (ActiveTrip.fromJson_toJson py u active)) s.redis s.clock helperId
      activeTripTtlS
    exact congrArg (fun cache => (⟨s.db, cache, s.clock⟩ : TripStore)) hset.symm
  · rfl

theorem clearActiveTrip_seen (s : TripTexts) (helperId : HelperId) (redis : CallOutcome) :
    clearActiveTrip (s.seen py u) helperId redis =
      (clearActiveTripText u s helperId redis).seen py u := by
  unfold clearActiveTrip clearActiveTripText
  split
  · have hdel := (activeTripCodec py u).view_del s.redis helperId
    exact congrArg (fun cache => (⟨s.db, cache, s.clock⟩ : TripStore)) hdel.symm
  · rfl

/-- The insert of a start and the commit of an end are steps on the tables. -/
theorem tripTablesStep_seen {p : TripPhase} (s : TripTexts) (a : TripInput)
    (h : ∀ (s : TripStore) (cache : KeyValues HelperId ActiveTrip),
      tripStep { s with cache := cache } p a =
        ({ s with db := (tripStep s p a).1.db, cache := cache }, (tripStep s p a).2)) :
    tripStep (s.seen py u) p a = ((tripTablesStep s p a).1.seen py u, (tripTablesStep s p a).2) :=
  h { db := s.db, cache := .empty HelperId ActiveTrip, clock := s.clock }
    ((activeTripCodec py u).view s.redis)

theorem tripStep_seen (s : TripTexts) (p : TripPhase) (a : TripInput) :
    tripStep (s.seen py u) p a =
      ((tripTextStep py u s p a).1.seen py u, (tripTextStep py u s p a).2) := by
  cases p with
  | arrived request =>
      cases request with
      | start helperId busId routeId =>
          refine tripTablesStep_seen s a fun s cache => ?_
          unfold tripStep
          dsimp only
          split <;> rfl
      | finish helperId =>
          refine tripTablesStep_seen s a fun s cache => ?_
          unfold tripStep
          dsimp only
          split <;> rfl
      | active helperId =>
          unfold tripStep tripTextStep
          dsimp only
          rw [cachedTrip_seen]
          cases cachedTripText py u s helperId a.redis with
          | none => rfl
          | some active => rfl
  | started trip => exact Prod.ext (cacheActive_seen s trip.helperId _ a.redis) rfl
  | ending trip => rfl
  | ended trip => exact Prod.ext (clearActiveTrip_seen s trip.helperId a.redis) rfl
  | missed helperId =>
      refine tripTablesStep_seen s a fun s cache => ?_
      unfold tripStep
      dsimp only
      split <;> rfl
  | found helperId active => exact Prod.ext (cacheActive_seen s helperId active a.redis) rfl
  | answered reply => rfl
  | told active => rfl

theorem TripTexts.disturb_seen (s : TripTexts) (o : ForeignWrite [.helperTrip]) :
    (s.disturb o).seen py u = s.seen py u :=
  congrArg (fun cache => (⟨s.db, cache, s.clock⟩ : TripStore))
    (stringsOf_foreign u List.mem_cons_self _ _ o s.redis)

end

/-- **Starts, ends and lookups over one shared Redis of texts are those over
trips**, whatever Redis holds at first and whoever else writes to it. -/
theorem activeTrips_kept_as_json (py : Interpreter) (u : Uuids) (w : World TripTexts TripPhase)
    (labels : List ((ℕ × TripInput) ⊕ ForeignWrite [.helperTrip])) :
    (run (amongStep (threadStep (tripTextAdvance py u)) (World.disturb TripTexts.disturb))
        w labels).seen (TripTexts.seen py u) =
      run (threadStep tripAdvance) (w.seen (TripTexts.seen py u)) (ownSteps labels) :=
  threads_seen_run _ (fun s p a => tripStep_seen { s with clock := max s.clock a.now } p a)
    TripTexts.disturb_seen w labels

end UniTrack
