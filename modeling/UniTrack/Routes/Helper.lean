import UniTrack.Services.Trip
import UniTrack.Worker.GpsEsIndexer

/-!
# Receiving positions (`app/api/routes/helper.py`)

`ingest_gps`, cut at every read and at every command of its pipeline: the
pipeline is no transaction, so other requests may come between two of its
commands and any of them may fail.
-/

namespace UniTrack

open UniTrack.Framework UniTrack.Python

/-- A timestamp of a device; a naive one does not compare with the others. -/
structure Timestamp where
  naive : Bool
  instant : Instant
deriving DecidableEq

structure GpsPointIn where
  lat : ℚ
  lng : ℚ
  ts : Timestamp
  speed : Option PyFloat
  heading : Option PyFloat
  accuracy : Option PyFloat
deriving DecidableEq

structure GpsBatch where
  busId : BusId
  points : List GpsPointIn
  size : 1 ≤ points.length ∧ points.length ≤ 50

structure GpsAccepted where
  accepted : ℕ
  busId : BusId
  tripId : TripId
deriving DecidableEq

/-- How values are spelled in Redis: `str` of an id and of a float, and
`astimezone(UTC).isoformat()`, which fails at the ends of the calendar. -/
structure Spelling where
  uuid : ℕ → Text
  number : PyFloat → Text
  isoformat : Timestamp → Option Text

/-- `str(x) if x is not None else ""`. -/
def Spelling.optional (w : Spelling) (x : Option PyFloat) : Text := (x.map w.number).getD []

/-- The hash under `bus:{id}:pos`. -/
structure PosHash where
  lat : Text
  lng : Text
  speed : Text
  heading : Text
  ts : Text
  tripId : Text
  ingestedAt : Text
deriving DecidableEq

/-- The commands of the pipeline. -/
inductive GpsCommand where
  | hset (busId : BusId) (pos : PosHash)
  | expire (busId : BusId)
  | publish (message : Text)
  | xadd (fields : GpsFields)
deriving DecidableEq

/-- What is stored for a bus, and the instant at which it is gone, if any. -/
structure PosEntry where
  pos : PosHash
  deadline : Option Instant
deriving DecidableEq

/-- The trips with their cache, the keys `bus:{id}:pos`, the fleet channel and
the stream `gps_ingest`. -/
structure GpsStore where
  trips : TripStore
  positions : BusId → Option PosEntry
  channel : List Text
  stream : Stream GpsFields

def posTtlS : ℚ := 60

/-- `max(batch.points, key=ts)`: the first of the latest, unless two do not compare. -/
def newestPoint : List GpsPointIn → Option GpsPointIn
  | [] => none
  | p :: ps => ps.foldlM (fun best q =>
      if best.ts.naive ≠ q.ts.naive then none
      else if best.ts.instant < q.ts.instant then some q
      else some best) p

def gpsFields (w : Spelling) (caller : HelperId) (busId : BusId) (tripId : TripId)
    (p : GpsPointIn) : Option GpsFields := do
  let ts ← w.isoformat p.ts
  return {
    busId := w.uuid busId
    helperId := w.uuid caller
    tripId := w.uuid tripId
    ts := ts
    lat := w.number (.finite p.lat)
    lng := w.number (.finite p.lng)
    speed := w.optional p.speed
    heading := w.optional p.heading
    accuracy := w.optional p.accuracy }

/-- The commands that put a live bus on the map. -/
def placing (w : Spelling) (now : Instant) (busId : BusId) (tripId : TripId)
    (newest : GpsPointIn) : Option (List GpsCommand) := do
  let ts ← w.isoformat newest.ts
  let ingestedAt ← w.isoformat ⟨false, now⟩
  let lat := w.number (.finite newest.lat)
  let lng := w.number (.finite newest.lng)
  return [
    .hset busId {
      lat := lat
      lng := lng
      speed := w.optional newest.speed
      heading := w.optional newest.heading
      ts := ts
      tripId := w.uuid tripId
      ingestedAt := ingestedAt },
    .expire busId,
    .publish (w.uuid busId ++ [':'] ++ lat ++ [','] ++ lng)]

/-- The pipeline of a batch; `none` is an exception while it is put together. -/
def gpsCommands (w : Spelling) (now : Instant) (caller : HelperId) (batch : GpsBatch) (live : Bool)
    (busId : BusId) (tripId : TripId) : Option (List GpsCommand) := do
  let newest ← newestPoint batch.points
  let map ← (if live then placing w now busId tripId newest else some [])
  let fixes ← batch.points.mapM (gpsFields w caller busId tripId)
  return map ++ fixes.map .xadd

/-- `HSET` keeps the time a key has left, and gives a new key none. -/
def setPosition (s : GpsStore) (busId : BusId) (pos : PosHash) : GpsStore :=
  let kept := (s.positions busId).bind fun e =>
    match e.deadline with
    | none => none
    | some deadline => if s.trips.clock < deadline then some deadline else none
  { s with positions := Function.update s.positions busId (some ⟨pos, kept⟩) }

/-- `EXPIRE`: nothing happens to a key that is gone. -/
def expirePosition (s : GpsStore) (busId : BusId) : GpsStore :=
  { s with positions := Function.update s.positions busId ((s.positions busId).map fun e =>
      match e.deadline with
      | none => { e with deadline := some (s.trips.clock + posTtlS) }
      | some deadline =>
          if s.trips.clock < deadline then { e with deadline := some (s.trips.clock + posTtlS) }
          else e) }

def execute (s : GpsStore) : GpsCommand → GpsStore
  | .hset busId pos => setPosition s busId pos
  | .expire busId => expirePosition s busId
  | .publish message => { s with channel := s.channel ++ [message] }
  | .xadd fields => { s with stream := s.stream.add fields }

/-- Where a request stands. -/
inductive GpsPhase where
  /-- a start, an end or a lookup of its own -/
  | trip (p : TripPhase)
  /-- `get_active_trip` for a batch -/
  | looking (caller : HelperId) (batch : GpsBatch) (p : TripPhase)
  /-- no live trip; next is `recently_ended_trip` -/
  | unbound (caller : HelperId) (batch : GpsBatch)
  /-- no ended trip either; next is the bus -/
  | unmatched (batch : GpsBatch)
  /-- the commands of the pipeline still to come, and whether all the others were answered -/
  | sending (caller : HelperId) (batch : GpsBatch) (commands : List GpsCommand)
      (accepted : GpsAccepted) (heard : Bool)
  | replied (reply : Reply GpsAccepted)

/-- The batch is filed under this trip. -/
def fileUnder (w : Spelling) (now : Instant) (caller : HelperId) (batch : GpsBatch) (live : Bool)
    (busId : BusId) (tripId : TripId) : GpsPhase :=
  match gpsCommands w now caller batch live busId tripId with
  | none => .replied .crashed
  | some commands => .sending caller batch commands ⟨batch.points.length, busId, tripId⟩ true

/-- What follows from the answer of `get_active_trip`, once it has one. -/
def bindBatch (w : Spelling) (now : Instant) (caller : HelperId) (batch : GpsBatch) :
    TripPhase → GpsPhase
  | .told (some active) =>
      if batch.busId ≠ active.busId then
        .replied (.refused 409
          "Live trip is on a different bus — end the trip before switching")
      else fileUnder w now caller batch true active.busId active.tripId
  | .told none => .unbound caller batch
  | p => .looking caller batch p

/-- One step of a request, at the clock of the store. -/
def gpsStep (w : Spelling) (order : LatestEnd) (s : GpsStore) :
    GpsPhase → TripInput → GpsStore × GpsPhase
  | .trip p, a =>
      ({ s with trips := (tripStep s.trips p a).1 }, .trip (tripStep s.trips p a).2)
  | .looking caller batch p, a =>
      ({ s with trips := (tripStep s.trips p a).1 },
        bindBatch w s.trips.clock caller batch (tripStep s.trips p a).2)
  | .unbound caller batch, _ =>
      match recentlyEndedTrip order s.trips.db caller batch.busId s.trips.clock with
      | none => (s, .unmatched batch)
      | some late => (s, fileUnder w s.trips.clock caller batch false late.busId late.id)
  | .unmatched batch, _ =>
      match s.trips.db.getBus batch.busId with
      | none => (s, .replied (.refused 404 "Unknown bus"))
      | some _ => (s, .replied (.refused 409
          "No live trip on this bus — start a trip before sending positions"))
  | .sending caller batch (command :: commands) accepted heard, a =>
      (if a.redis.applied then execute s command else s,
        .sending caller batch commands accepted (heard && a.redis.heard))
  | .sending _ _ [] accepted heard, _ => (s, .replied (if heard then .ok accepted else .crashed))
  | .replied reply, _ => (s, .replied reply)

/-- The store at this instant, or where its clock stands if that is later. -/
def GpsStore.tick (s : GpsStore) (now : Instant) : GpsStore :=
  { s with trips := { s.trips with clock := max s.trips.clock now } }

def gpsAdvance (w : Spelling) (order : LatestEnd) (s : GpsStore) (p : GpsPhase) (a : TripInput) :
    GpsStore × GpsPhase :=
  gpsStep w order (s.tick a.now) p a

end UniTrack
