import UniTrack.Python.Json
import UniTrack.Routes.Helper
import UniTrack.Routes.Tracking

/-!
# The live fleet as one picture (`app/services/fleet_view.py`)

What the map makes of the three values that Redis holds for a bus: the hashes
of its position and of its seats, and the cached arrivals of its trip. All
three come as text that anybody may have written, so each decoder says which
exceptions it takes for no answer. `datetime.fromisoformat` is the one reader
of the standard library that is left open.
-/

namespace UniTrack.FleetView

open UniTrack.Python

/-- `LIVE_MAX_AGE_S`. -/
def liveMaxAgeS : ℤ := 60

/-- `GpsFreshness` (`app/schemas/admin.py`). -/
inductive GpsFreshness where
  | live
  | stale
  | lost
deriving DecidableEq

abbrev Hash := List (Text × Text)

/-- One reply of the pipeline: nothing, a hash, or a string. -/
inductive RedisValue where
  | none
  | hash (fields : Hash)
  | text (value : Text)
deriving DecidableEq

namespace RedisValue

/-- `bool(raw)`. -/
def truthy : RedisValue → Bool
  | .none => false
  | .hash fields => !fields.isEmpty
  | .text value => !value.isEmpty

/-- `raw.get(key)`. -/
def get (key : String) : RedisValue → Except PyError (Option Text)
  | .hash fields => .ok (fields.lookup key.toList)
  | _ => .error .attributeError

/-- `raw[key]`. -/
def item (key : String) : RedisValue → Except PyError Text
  | .hash fields =>
      match fields.lookup key.toList with
      | some value => .ok value
      | Option.none => .error .keyError
  | _ => .error .typeError

end RedisValue

/-- A decoded position hash. -/
structure Position where
  lat : PyFloat
  lng : PyFloat
  ts : Timestamp
  heading : Option PyFloat := none
  speedKmh : Option PyFloat := none
  ingestedAt : Option Timestamp := none
deriving DecidableEq

def classify (ageS : Option ℤ) : GpsFreshness :=
  match ageS with
  | none => .lost
  | some age => if age ≤ liveMaxAgeS then .live else .stale

/-- `_opt_float`. -/
def optFloat (value : Option Text) : Option PyFloat :=
  match value with
  | none | some [] => none
  | some text => parseFloat text

/-- `round(q, 1)`. -/
def round1 (q : ℚ) : ℚ := (roundHalfEven (q * 10) : ℚ) / 10

/-- `_ms_to_kmh`. -/
def msToKmh (value : Option PyFloat) : Option PyFloat :=
  value.map fun
    | .finite q => .finite (round1 (q * (36 / 10)))
    | .infinite => .infinite
    | .nan => .nan

section
variable (fromisoformat : Text → Option Timestamp)

/-- `datetime.fromisoformat(value) if value else None`. -/
def optTimestamp (value : Option Text) : Except PyError (Option Timestamp) :=
  match value with
  | none | some [] => .ok none
  | some text => (orValueError (fromisoformat text)).map some

def parsePosition (raw : RedisValue) : Except PyError (Option Position) :=
  if raw.truthy = false then .ok none
  else
    excepting [.keyError, .valueError, .typeError] none do
      let ingestedAt ← raw.get "ingested_at"
      let lat ← raw.item "lat" >>= fun text => orValueError (parseFloat text)
      let lng ← raw.item "lng" >>= fun text => orValueError (parseFloat text)
      let ts ← raw.item "ts" >>= fun text => orValueError (fromisoformat text)
      let heading ← raw.get "heading"
      let speed ← raw.get "speed"
      let ingestedAt ← optTimestamp fromisoformat ingestedAt
      .ok (some {
        lat := lat
        lng := lng
        ts := ts
        heading := optFloat heading
        speedKmh := msToKmh (optFloat speed)
        ingestedAt := ingestedAt })

/-- `(occupied, capacity)`. -/
def parseSeats (raw : RedisValue) : Except PyError (Option ℤ × Option ℤ) :=
  if raw.truthy = false then .ok (none, none)
  else
    excepting [.keyError, .valueError, .typeError] (none, none) do
      let occupied ← raw.item "occupied" >>= fun text => orValueError (parseInt text)
      let capacity ← raw.item "capacity" >>= fun text => orValueError (parseInt text)
      .ok (some occupied, some capacity)

/-- `json.loads(raw)`; a hash is not text. -/
def loadsReply (depth : ℕ) : RedisValue → Except PyError JsonValue
  | .text value => loads depth value
  | .none | .hash _ => .error .typeError

/-- `json.loads(raw).get("arrivals") or []`, as a value that is true or not. -/
def cachedArrivals (depth : ℕ) (raw : RedisValue) : Except PyError (Option JsonValue) :=
  excepting [.jsonDecodeError, .attributeError] none do
    let data ← loadsReply depth raw
    let arrivals ← data.get "arrivals".toList
    .ok (if arrivals.truthy then some arrivals else none)

/-- `datetime.fromisoformat(arrivals[0]["eta"])`. -/
def firstEta (arrivals : JsonValue) : Except PyError (Option Timestamp) :=
  excepting [.keyError, .valueError, .typeError] none do
    let first ← arrivals.first
    let eta ← first.item "eta".toList
    match eta with
    | .str text => (orValueError (fromisoformat text)).map some
    | _ => .error .typeError

/-- `next_stop_minutes`. A naive time is taken for UTC. -/
def nextStopMinutes (depth : ℕ) (raw : RedisValue) (now : Instant) :
    Except PyError (Option ℤ) :=
  if raw.truthy = false then .ok none
  else do
    let arrivals ← cachedArrivals depth raw
    match arrivals with
    | none => .ok none
    | some arrivals =>
        let eta ← firstEta fromisoformat arrivals
        .ok (eta.map fun eta => minutesUntil eta.instant now)

end

/-- `int(q)`. -/
def truncate (q : ℚ) : ℤ := if 0 ≤ q then ⌊q⌋ else ⌈q⌉

/-- `age_seconds`. A naive time is taken for UTC. -/
def ageSeconds (fixTs : Option Timestamp) (now : Instant) : Option ℤ :=
  fixTs.map fun ts => max (truncate (now - ts.instant)) 0

end UniTrack.FleetView
