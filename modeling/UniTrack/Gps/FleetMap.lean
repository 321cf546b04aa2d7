import UniTrack.Python.Scanner
import UniTrack.Services.LiveTrack

/-!
# One picture of the fleet

The frame of a route, the students' board and the console's map go over their
rosters each in its own code. For one roster and one set of replies they draw
the same buses: one entry a trip, in the order of the roster, each from its own
trip and its own three replies. Whatever the replies hold, the decoders take
what they cannot read for no answer; two exceptions of `json.loads` are left
out, and either of them takes the whole picture down.

1. What one bus looks like.
2. The decoders.
3. The three entries.
4. A whole roster.
5. An integer of 4301 digits.
-/

namespace UniTrack.FleetView

open UniTrack.Python

/-! ## §1 What one bus looks like -/

/-- What Redis replies for one bus: two hashes and a string, or nothing. -/
structure Replies where
  pos : Option Hash
  seats : Option Hash
  eta : Option Text
deriving DecidableEq

def RedisValue.ofHash : Option Hash → RedisValue
  | some fields => .hash fields
  | Option.none => .none

def RedisValue.ofText : Option Text → RedisValue
  | some value => .text value
  | Option.none => .none

/-- The three entries of the flat list. -/
def Replies.values (r : Replies) : List RedisValue :=
  [.ofHash r.pos, .ofHash r.seats, .ofText r.eta]

/-- `json.loads` reads the cached arrivals, or finds that they are not JSON. -/
def Readable (depth : ℕ) (eta : Option Text) : Prop :=
  ∀ text, eta = some text →
    loads depth text ≠ .error .valueError ∧ loads depth text ≠ .error .recursionError

/-- What a map shows of a bus, whichever map it is. -/
structure BusView where
  lat : Option PyFloat
  lng : Option PyFloat
  heading : Option PyFloat
  speedKmh : Option PyFloat
  fixTs : Option Timestamp
  fixAgeS : Option ℤ
  freshness : GpsFreshness
  occupied : Option ℤ
  capacity : Option ℤ
  nextStopEtaMinutes : Option ℤ
deriving DecidableEq

/-- The value, if there is one. -/
def valueOr {α : Type} (fallback : α) : Except PyError α → α
  | .ok a => a
  | .error _ => fallback

section
variable (fromisoformat : Text → Option Timestamp) (depth : ℕ) (now : Instant)

/-- The view of one bus, from its own replies and its configured capacity. -/
def busView (capacity : ℤ) (r : Replies) : BusView :=
  let position := valueOr none (parsePosition fromisoformat (.ofHash r.pos))
  let age := ageSeconds (position.map Position.receivedAt) now
  let seats := valueOr (none, none) (parseSeats (.ofHash r.seats))
  { lat := position.map (·.lat)
    lng := position.map (·.lng)
    heading := position.bind (·.heading)
    speedKmh := position.bind (·.speedKmh)
    fixTs := position.map (·.ts)
    fixAgeS := age
    freshness := classify age
    occupied := seats.1
    capacity := some (seats.2.getD capacity)
    nextStopEtaMinutes := valueOr none (nextStopMinutes fromisoformat depth (.ofText r.eta) now) }

end

def LiveTripRef.frame (ref : LiveTripRef) (view : BusView) : TrackBusFrame :=
  { view, ref with }

def LiveTripColumns.bus (row : LiveTripColumns) (view : BusView) : LiveFleetBus :=
  { view, row with routeDirection := row.direction }

def LiveTripContext.busOut (row : LiveTripContext) (view : BusView) : FleetBusOut :=
  { view with
    tripId := row.trip.id
    busId := row.bus.id
    regNo := row.bus.regNo
    nickname := row.bus.nickname
    routeId := row.route.id
    routeName := row.route.name
    routeDirection := row.route.direction
    helperId := row.helper.id
    helperName := row.user.name
    startedAt := row.trip.actualStart }

/-! ## §2 The decoders -/

section
variable (fromisoformat : Text → Option Timestamp)

theorem item_raises (key : String) (fields : Hash) :
    RaisesOnly [.keyError, .valueError] ((RedisValue.hash fields).item key) := by
  unfold RedisValue.item
  dsimp only
  split
  · exact raisesOnly_ok _
  · exact raisesOnly_error (by decide)

/-- `parse(raw[key])`. -/
theorem parsed_raises {α : Type} (parse : Text → Option α) (key : String) (fields : Hash) :
    RaisesOnly [.keyError, .valueError]
      ((RedisValue.hash fields).item key >>= fun text => orValueError (parse text)) :=
  (item_raises key fields).bind fun _ => raisesOnly_orValueError (by decide) _

theorem optTimestamp_raises (value : Option Text) :
    RaisesOnly [.keyError, .valueError] (optTimestamp fromisoformat value) := by
  unfold optTimestamp
  split
  · exact raisesOnly_ok _
  · exact raisesOnly_ok _
  · exact (raisesOnly_orValueError (by decide) _).map _

/-- Any hash makes a position or none. -/
theorem parsePosition_ok (fields : Option Hash) :
    ∃ position, parsePosition fromisoformat (.ofHash fields) = .ok position := by
  unfold parsePosition
  split
  · exact ⟨_, rfl⟩
  · rename_i htruthy
    cases fields with
    | none => exact absurd rfl htruthy
    | some fields =>
        refine excepting_ok [.keyError, .valueError] none ?_ (by decide)
        apply (raisesOnly_ok _).bind
        intro ingestedAt
        apply (parsed_raises parseFloat "lat" fields).bind
        intro lat
        apply (parsed_raises parseFloat "lng" fields).bind
        intro lng
        apply (parsed_raises fromisoformat "ts" fields).bind
        intro ts
        apply (raisesOnly_ok _).bind
        intro heading
        apply (raisesOnly_ok _).bind
        intro speed
        exact (optTimestamp_raises fromisoformat ingestedAt).bind fun _ => raisesOnly_ok _

/-- Any hash makes two numbers or none. -/
theorem parseSeats_ok (fields : Option Hash) :
    ∃ seats, parseSeats (.ofHash fields) = .ok seats := by
  unfold parseSeats
  split
  · exact ⟨_, rfl⟩
  · rename_i htruthy
    cases fields with
    | none => exact absurd rfl htruthy
    | some fields =>
        refine excepting_ok [.keyError, .valueError] (none, none) ?_ (by decide)
        apply (parsed_raises parseInt "occupied" fields).bind
        intro occupied
        exact (parsed_raises parseInt "capacity" fields).bind fun _ => raisesOnly_ok _

theorem first_raises {value : JsonValue} (h : value.truthy = true) :
    RaisesOnly [.keyError, .valueError, .typeError] value.first := by
  unfold JsonValue.first
  split
  · exact raisesOnly_ok _
  · exact raisesOnly_ok _
  · cases h
  · cases h
  · exact raisesOnly_error (by decide)
  · exact raisesOnly_error (by decide)

theorem jsonGet_raises (key : Text) (value : JsonValue) :
    RaisesOnly [.attributeError] (value.get key) := by
  unfold JsonValue.get
  split
  · exact raisesOnly_ok _
  · exact raisesOnly_error (by decide)

theorem jsonItem_raises (key : Text) (value : JsonValue) :
    RaisesOnly [.keyError, .valueError, .typeError] (value.item key) := by
  unfold JsonValue.item
  split
  · split
    · exact raisesOnly_ok _
    · exact raisesOnly_error (by decide)
  · exact raisesOnly_error (by decide)

/-- Whatever the arrivals are, the first holds a time or none. -/
theorem firstEta_ok {arrivals : JsonValue} (h : arrivals.truthy = true) :
    ∃ eta, firstEta fromisoformat arrivals = .ok eta := by
  refine excepting_ok [.keyError, .valueError, .typeError] none ?_ (by decide)
  apply (first_raises h).bind
  intro first
  apply (jsonItem_raises _ first).bind
  intro eta
  split
  · exact (raisesOnly_orValueError (by decide) _).map _
  · exact raisesOnly_error (by decide)

/-- Arrivals that are handed on are true. -/
theorem truthy_of_cachedArrivals {depth : ℕ} {raw : RedisValue} {arrivals : JsonValue}
    (h : cachedArrivals depth raw = .ok (some arrivals)) : arrivals.truthy = true := by
  unfold cachedArrivals excepting at h
  split at h
  · rename_i found hfound
    cases h
    obtain ⟨data, -, hdata⟩ := bind_eq_ok.mp hfound
    obtain ⟨value, -, hvalue⟩ := bind_eq_ok.mp hdata
    split at hvalue
    · rename_i htruthy
      cases hvalue
      exact htruthy
    · cases hvalue
  · split at h <;> cases h

/-- What `json.loads` raises of a text that is not JSON is caught, and nothing
else of it is. -/
theorem cachedArrivals_ok_iff (depth : ℕ) (text : Text) :
    (∃ arrivals, cachedArrivals depth (.text text) = .ok arrivals) ↔
      loads depth text ≠ .error .valueError ∧ loads depth text ≠ .error .recursionError := by
  have hraises := loads_raises depth text
  unfold cachedArrivals loadsReply
  dsimp only
  cases hloads : loads depth text with
  | ok data =>
      refine iff_of_true ?_ ⟨nofun, nofun⟩
      refine excepting_ok [.attributeError] none ?_ (by decide)
      apply (raisesOnly_ok data).bind
      intro data
      exact (jsonGet_raises _ data).bind fun _ => raisesOnly_ok _
  | error e =>
      have he := hraises e hloads
      simp only [scanErrors, List.mem_cons, List.not_mem_nil, or_false] at he
      rcases he with rfl | rfl | rfl
      · exact iff_of_true ⟨none, rfl⟩ ⟨nofun, nofun⟩
      · exact iff_of_false nofun fun h => h.1 rfl
      · exact iff_of_false nofun fun h => h.2 rfl

/-- **The minutes are counted** exactly when `json.loads` reads the text or
finds that it is not JSON. -/
theorem nextStopMinutes_ok_iff (depth : ℕ) (eta : Option Text) (now : Instant) :
    (∃ minutes, nextStopMinutes fromisoformat depth (.ofText eta) now = .ok minutes) ↔
      Readable depth eta := by
  cases eta with
  | none => exact iff_of_true ⟨none, rfl⟩ nofun
  | some text =>
      have hreadable : Readable depth (some text) ↔
          loads depth text ≠ .error .valueError ∧ loads depth text ≠ .error .recursionError := by
        simp [Readable]
      rw [hreadable, ← cachedArrivals_ok_iff]
      unfold nextStopMinutes
      split
      · rename_i htruthy
        refine iff_of_true ⟨none, rfl⟩ ?_
        have hempty : text = [] := by simpa [RedisValue.ofText, RedisValue.truthy] using htruthy
        rw [hempty, cachedArrivals_ok_iff, loads_nil]
        exact ⟨nofun, nofun⟩
      · constructor
        · rintro ⟨minutes, h⟩
          obtain ⟨arrivals, harrivals, -⟩ := bind_eq_ok.mp h
          exact ⟨arrivals, harrivals⟩
        · rintro ⟨arrivals, harrivals⟩
          cases arrivals with
          | none => exact ⟨none, bind_eq_ok.mpr ⟨none, harrivals, rfl⟩⟩
          | some arrivals =>
              obtain ⟨eta, heta⟩ := firstEta_ok fromisoformat (truthy_of_cachedArrivals harrivals)
              exact ⟨_, bind_eq_ok.mpr ⟨some arrivals, harrivals,
                bind_eq_ok.mpr ⟨eta, heta, rfl⟩⟩⟩

end

/-! ## §3 The three entries -/

/-- The students' columns of a running trip. -/
def LiveTripContext.ref (row : LiveTripContext) : LiveTripRef where
  tripId := row.trip.id
  busId := row.bus.id
  regNo := row.bus.regNo
  nickname := row.bus.nickname
  capacity := row.bus.capacity

def LiveTripContext.columns (row : LiveTripContext) : LiveTripColumns where
  tripId := row.trip.id
  busId := row.bus.id
  regNo := row.bus.regNo
  nickname := row.bus.nickname
  capacity := row.bus.capacity
  routeId := row.route.id
  routeName := row.route.name
  direction := row.route.direction

section
variable (fromisoformat : Text → Option Timestamp) {depth : ℕ} (now : Instant) {r : Replies}

/-- Replies that can be read are decoded, and make the view. -/
theorem decoded (capacity : ℤ) (h : Readable depth r.eta) :
    ∃ position occupied seatCapacity minutes,
      parsePosition fromisoformat (.ofHash r.pos) = .ok position ∧
      parseSeats (.ofHash r.seats) = .ok (occupied, seatCapacity) ∧
      nextStopMinutes fromisoformat depth (.ofText r.eta) now = .ok minutes ∧
      busView fromisoformat depth now capacity r = {
        lat := position.map (·.lat)
        lng := position.map (·.lng)
        heading := position.bind (·.heading)
        speedKmh := position.bind (·.speedKmh)
        fixTs := position.map (·.ts)
        fixAgeS := ageSeconds (position.map Position.receivedAt) now
        freshness := classify (ageSeconds (position.map Position.receivedAt) now)
        occupied := occupied
        capacity := some (seatCapacity.getD capacity)
        nextStopEtaMinutes := minutes } := by
  obtain ⟨position, hposition⟩ := parsePosition_ok fromisoformat r.pos
  obtain ⟨⟨occupied, seatCapacity⟩, hseats⟩ := parseSeats_ok r.seats
  obtain ⟨minutes, hminutes⟩ := (nextStopMinutes_ok_iff fromisoformat depth r.eta now).mpr h
  refine ⟨position, occupied, seatCapacity, minutes, hposition, hseats, hminutes, ?_⟩
  unfold busView
  rw [hposition, hseats, hminutes]
  rfl

theorem frameBus_eq (ref : LiveTripRef) (h : Readable depth r.eta) :
    frameBus fromisoformat depth now ref (.ofHash r.pos) (.ofHash r.seats) (.ofText r.eta) =
      .ok (ref.frame (busView fromisoformat depth now ref.capacity r),
        (busView fromisoformat depth now ref.capacity r).freshness) := by
  obtain ⟨position, occupied, seatCapacity, minutes, hposition, hseats, hminutes, hview⟩ :=
    decoded fromisoformat now ref.capacity h
  unfold frameBus
  rw [hposition, hseats, hminutes, hview]
  rfl

theorem liveFleetBus_eq (row : LiveTripColumns) (h : Readable depth r.eta) :
    liveFleetBus fromisoformat depth now row (.ofHash r.pos) (.ofHash r.seats) (.ofText r.eta) =
      .ok (row.bus (busView fromisoformat depth now row.capacity r),
        (busView fromisoformat depth now row.capacity r).freshness) := by
  obtain ⟨position, occupied, seatCapacity, minutes, hposition, hseats, hminutes, hview⟩ :=
    decoded fromisoformat now row.capacity h
  unfold liveFleetBus
  rw [hposition, hseats, hminutes, hview]
  rfl

theorem fleetBusOut_eq (row : LiveTripContext) (h : Readable depth r.eta) :
    fleetBusOut fromisoformat depth now row (.ofHash r.pos) (.ofHash r.seats) (.ofText r.eta) =
      .ok (row.busOut (busView fromisoformat depth now row.bus.capacity r),
        (busView fromisoformat depth now row.bus.capacity r).freshness) := by
  obtain ⟨position, occupied, seatCapacity, minutes, hposition, hseats, hminutes, hview⟩ :=
    decoded fromisoformat now row.bus.capacity h
  unfold fleetBusOut
  rw [hposition, hseats, hminutes, hview]
  rfl

end

/-! ## §4 A whole roster -/

/-- The counts of a picture: they add up to the number of its trips. -/
def FleetPicture.Adds {B : Type} (picture : FleetPicture B) (trips : ℕ) : Prop :=
  picture.total = trips ∧ picture.live + picture.stale + picture.lost = picture.total

theorem count_sum (tally : FleetTally) (freshness : GpsFreshness) :
    (tally.count freshness).live + (tally.count freshness).stale +
      (tally.count freshness).lost = tally.live + tally.stale + tally.lost + 1 := by
  cases freshness <;> simp only [FleetTally.count] <;> omega

theorem unpackThree_eq {results rest : List RedisValue} {index : ℕ} {rawPos rawSeats rawEta}
    (h : results.drop (index * 3) = rawPos :: rawSeats :: rawEta :: rest) :
    unpackThree results index = .ok (rawPos, rawSeats, rawEta) := by
  unfold unpackThree
  rw [h]
  rfl

section
variable {T R B : Type} {row : T → R} {replies : T → Replies} {entry : T → B × GpsFreshness}
  {body : R → RedisValue → RedisValue → RedisValue → Except PyError (B × GpsFreshness)}
  {results : List RedisValue}

/-- What the body makes of one trip and its own replies. -/
def bodyOf (row : T → R) (replies : T → Replies)
    (body : R → RedisValue → RedisValue → RedisValue → Except PyError (B × GpsFreshness)) (t : T) :
    Except PyError (B × GpsFreshness) :=
  body (row t) (.ofHash (replies t).pos) (.ofHash (replies t).seats) (.ofText (replies t).eta)

/-- At every index the next trip meets its own replies. -/
theorem enumerateRows_cons {t : T} {trips : List T} {index : ℕ} {tally : FleetTally}
    (hresults : results.drop (index * 3) = (t :: trips).flatMap fun t => (replies t).values) :
    enumerateRows body results index ((t :: trips).map row) tally = (do
      let (bus, freshness) ← bodyOf row replies body t
      let (buses, tally) ← enumerateRows body results (index + 1) (trips.map row)
        (tally.count freshness)
      .ok (bus :: buses, tally)) ∧
    results.drop ((index + 1) * 3) = trips.flatMap fun t => (replies t).values := by
  constructor
  · rw [List.map_cons, enumerateRows, unpackThree_eq hresults]
    rfl
  · rw [Nat.add_mul, ← List.drop_drop, hresults]
    rfl

theorem enumerateRows_ok {trips : List T}
    (hbody : ∀ t ∈ trips, bodyOf row replies body t = .ok (entry t)) {index : ℕ}
    {tally : FleetTally}
    (hresults : results.drop (index * 3) = trips.flatMap fun t => (replies t).values) :
    ∃ tally', enumerateRows body results index (trips.map row) tally =
        .ok (trips.map fun t => (entry t).1, tally') ∧
      tally'.live + tally'.stale + tally'.lost =
        tally.live + tally.stale + tally.lost + trips.length := by
  induction trips generalizing index tally with
  | nil => exact ⟨tally, rfl, rfl⟩
  | cons t trips ih =>
      obtain ⟨hstep, hrest⟩ := enumerateRows_cons hresults
      obtain ⟨tally', hrun, hsum⟩ := @ih (fun t' ht' => hbody t' (List.mem_cons_of_mem _ ht'))
        (index + 1) (tally.count (entry t).2) hrest
      refine ⟨tally', ?_, ?_⟩
      · rw [hstep, hbody t List.mem_cons_self]
        show (enumerateRows body results (index + 1) (trips.map row) _ >>= _) = _
        rw [hrun]
        rfl
      · rw [hsum, count_sum, List.length_cons]
        omega

/-- A roster that is gone over has met no exception. -/
theorem body_ok_of_enumerateRows {trips : List T} {index : ℕ} {tally : FleetTally}
    {drawn : List B × FleetTally}
    (hresults : results.drop (index * 3) = trips.flatMap fun t => (replies t).values)
    (h : enumerateRows body results index (trips.map row) tally = .ok drawn) :
    ∀ t ∈ trips, ∃ drawn, bodyOf row replies body t = .ok drawn := by
  induction trips generalizing index tally drawn with
  | nil => nofun
  | cons t trips ih =>
      obtain ⟨hstep, hrest⟩ := enumerateRows_cons hresults
      rw [hstep] at h
      obtain ⟨⟨bus, freshness⟩, hbody, h⟩ := bind_eq_ok.mp h
      obtain ⟨drawn', hrun, -⟩ := bind_eq_ok.mp h
      intro t' ht'
      rcases List.mem_cons.mp ht' with rfl | ht'
      · exact ⟨_, hbody⟩
      · exact ih hrest hrun t' ht'

end

/-- A running trip with the replies for it. -/
abbrev TrackedTrip := LiveTripContext × Replies

/-- What the code sees of the replies: nothing when the pipeline raised. -/
def Replies.seen (up : Bool) (r : Replies) : Replies := if up then r else ⟨none, none, none⟩

/-- How the pipeline ends: with every reply in the order of the roster, or with
an exception. -/
def executed (up : Bool) (trips : List TrackedTrip) : Option (List RedisValue) :=
  if up then some (trips.flatMap fun t => t.2.values) else none

theorem pipelineReads_executed (up : Bool) (trips : List TrackedTrip) :
    pipelineReads (executed up trips) trips.length =
      trips.flatMap fun t => (t.2.seen up).values := by
  cases up with
  | true => rfl
  | false =>
      show List.replicate (trips.length * 3) RedisValue.none = _
      induction trips with
      | nil => rfl
      | cons t trips ih =>
          rw [List.length_cons, Nat.add_mul, Nat.add_comm, List.replicate_add, ih]
          rfl

/-- What a map shows of a bus, taken out of its entry. -/
def TrackBusFrame.view (bus : TrackBusFrame) : BusView := { bus with }

def FleetBusOut.view (bus : FleetBusOut) : BusView := { bus with }

section
variable (fromisoformat : Text → Option Timestamp) (depth : ℕ) (now : Instant) (routeId : RouteId)
  (up : Bool) (trips : List TrackedTrip)

/-- The view of a trip, from its own three replies. -/
def TrackedTrip.view (t : TrackedTrip) : BusView :=
  busView fromisoformat depth now t.1.bus.capacity (t.2.seen up)

/-- The three pictures of one roster: an entry a trip, in order, from the
trip's own view; the counts add up; and where two of them show the same, they
agree. -/
structure Pictured (frame : TrackFrame) (board : LiveFleetOut) (console : FleetOut) : Prop where
  frame_buses : frame.buses =
    trips.map fun t => t.1.ref.frame (TrackedTrip.view fromisoformat depth now up t)
  board_buses : board.buses =
    trips.map fun t => t.1.columns.bus (TrackedTrip.view fromisoformat depth now up t)
  console_buses : console.buses =
    trips.map fun t => t.1.busOut (TrackedTrip.view fromisoformat depth now up t)
  frame_adds : frame.Adds trips.length
  board_adds : board.Adds trips.length
  console_adds : console.Adds trips.length
  board_agrees : board.buses.map (·.toTrackBusFrame) = frame.buses
  console_agrees : console.buses.map FleetBusOut.view = frame.buses.map TrackBusFrame.view

/-- All three return, and what they return is pictured. -/
def AllPictured : Prop :=
  ∃ frame board console,
    assembleFrame fromisoformat depth now routeId (trips.map (·.1.ref))
      (readRedis (executed up trips) (trips.map (·.1.ref))) = .ok frame ∧
    trackLiveFleet fromisoformat depth now (trips.map (·.1.columns)) (executed up trips) =
      .ok board ∧
    adminLiveFleet fromisoformat depth now (trips.map (·.1)) (executed up trips) = .ok console ∧
    Pictured fromisoformat depth now up trips frame board console

/-- An empty roster is gone over like any other. -/
theorem trackLiveFleet_eq (rows : List LiveTripColumns) (reads : Option (List RedisValue)) :
    trackLiveFleet fromisoformat depth now rows reads = (do
      let (buses, tally) ← enumerateRows (liveFleetBus fromisoformat depth now)
        (pipelineReads reads rows.length) 0 rows {}
      .ok (fleetPicture now buses tally)) := by
  unfold trackLiveFleet
  split
  · rename_i hrows
    rw [hrows]
    rfl
  · rfl

theorem adminLiveFleet_eq (rows : List LiveTripContext) (reads : Option (List RedisValue)) :
    adminLiveFleet fromisoformat depth now rows reads = (do
      let (buses, tally) ← enumerateRows (fleetBusOut fromisoformat depth now)
        (pipelineReads reads rows.length) 0 rows {}
      .ok (fleetPicture now buses tally)) := by
  unfold adminLiveFleet
  split
  · rename_i hrows
    rw [hrows]
    rfl
  · rfl

theorem readRedis_executed : readRedis (executed up trips) (trips.map (·.1.ref)) =
    trips.flatMap fun t => (t.2.seen up).values := by
  unfold readRedis
  split
  · rename_i hrefs
    rw [List.map_eq_nil_iff.mp hrefs]
    rfl
  · rw [List.length_map, pipelineReads_executed]

variable {fromisoformat depth now routeId up trips}

/-- What each of the three makes of the whole roster. -/
theorem drawn {R B : Type} {row : TrackedTrip → R} {entry : TrackedTrip → B × GpsFreshness}
    {body : R → RedisValue → RedisValue → RedisValue → Except PyError (B × GpsFreshness)}
    (hbody : ∀ t ∈ trips, bodyOf row (fun t => t.2.seen up) body t = .ok (entry t)) :
    ∃ tally, enumerateRows body (trips.flatMap fun t => (t.2.seen up).values) 0
        (trips.map row) {} = .ok (trips.map fun t => (entry t).1, tally) ∧
      (fleetPicture now (trips.map fun t => (entry t).1) tally).Adds trips.length := by
  obtain ⟨tally, hrun, hsum⟩ := @enumerateRows_ok _ _ _ row (fun t => t.2.seen up) entry body _
    trips hbody 0 {} rfl
  refine ⟨tally, hrun, List.length_map _, ?_⟩
  show tally.live + tally.stale + tally.lost = (trips.map fun t => (entry t).1).length
  rw [hsum, List.length_map]
  simp

/-- The frame was drawn, so the cached arrivals of every trip could be read. -/
theorem readable_of_assembleFrame {frame : TrackFrame}
    (h : assembleFrame fromisoformat depth now routeId (trips.map (·.1.ref))
      (readRedis (executed up trips) (trips.map (·.1.ref))) = .ok frame) :
    ∀ t ∈ trips, Readable depth (t.2.seen up).eta := by
  obtain ⟨result, hrun, -⟩ := bind_eq_ok.mp h
  intro t ht
  obtain ⟨entry, hentry⟩ := @body_ok_of_enumerateRows _ _ _ (fun t : TrackedTrip => t.1.ref)
    (fun t => t.2.seen up) _ _ trips 0 _ _ (readRedis_executed up trips) hrun t ht
  obtain ⟨position, -, hentry⟩ := bind_eq_ok.mp hentry
  obtain ⟨seats, -, hentry⟩ := bind_eq_ok.mp hentry
  obtain ⟨minutes, hminutes, -⟩ := bind_eq_ok.mp hentry
  exact (nextStopMinutes_ok_iff fromisoformat depth _ now).mp ⟨minutes, hminutes⟩

/-- The replies of every trip can be read, and the three pictures are drawn. -/
theorem allPictured_of_readable (h : ∀ t ∈ trips, Readable depth (t.2.seen up).eta) :
    AllPictured fromisoformat depth now routeId up trips := by
  obtain ⟨frameTally, hframe, hframeAdds⟩ := @drawn now up trips _ _ (fun t => t.1.ref) _
    (frameBus fromisoformat depth now) fun t ht => frameBus_eq fromisoformat now t.1.ref (h t ht)
  obtain ⟨boardTally, hboard, hboardAdds⟩ := @drawn now up trips _ _ (fun t => t.1.columns) _
    (liveFleetBus fromisoformat depth now) fun t ht =>
      liveFleetBus_eq fromisoformat now t.1.columns (h t ht)
  obtain ⟨consoleTally, hconsole, hconsoleAdds⟩ := @drawn now up trips _ _ (fun t => t.1) _
    (fleetBusOut fromisoformat depth now) fun t ht =>
      fleetBusOut_eq fromisoformat now t.1 (h t ht)
  refine ⟨⟨fleetPicture now _ frameTally, routeId⟩, fleetPicture now _ boardTally,
    fleetPicture now _ consoleTally, ?_, ?_, ?_,
    ⟨rfl, rfl, rfl, hframeAdds, hboardAdds, hconsoleAdds, ?_, ?_⟩⟩
  · rw [readRedis_executed]
    exact bind_eq_ok.mpr ⟨_, hframe, rfl⟩
  · rw [trackLiveFleet_eq, List.length_map, pipelineReads_executed]
    exact bind_eq_ok.mpr ⟨_, hboard, rfl⟩
  · rw [adminLiveFleet_eq, List.length_map, pipelineReads_executed]
    exact bind_eq_ok.mpr ⟨_, hconsole, rfl⟩
  · exact List.map_map
  · show List.map _ (List.map _ _) = List.map _ (List.map _ _)
    rw [List.map_map, List.map_map]
    rfl

/-- **One roster, three pictures.** They are drawn, and show the same, exactly
when `json.loads` reads the cached arrivals of every trip or finds that they
are not JSON. -/
theorem fleet_pictured_iff (fromisoformat : Text → Option Timestamp) (depth : ℕ) (now : Instant)
    (routeId : RouteId) (up : Bool) (trips : List TrackedTrip) :
    AllPictured fromisoformat depth now routeId up trips ↔
      ∀ t ∈ trips, Readable depth (t.2.seen up).eta := by
  constructor
  · rintro ⟨frame, board, console, hframe, -⟩
    exact readable_of_assembleFrame hframe
  · exact allPictured_of_readable

end

/-! ## §5 An integer of 4301 digits -/

/-- The cached arrivals of a trip, longer than `int` reads. -/
def longInteger : Text := List.replicate 4301 '9'

theorem not_readable_longInteger (depth : ℕ) : ¬ Readable depth (some longInteger) := by
  intro h
  refine (h longInteger rfl).1 ?_
  apply loads_longInteger depth
  · intro d hd
    have hnine : d ∈ List.replicate 4301 '9' := hd
    rw [List.eq_of_mem_replicate hnine]
    rfl
  · decide
  · rw [List.length_cons, List.length_replicate]
    decide

/-- Bus `n`, running trip `n`. -/
def runningTrip (n : ℕ) : LiveTripContext where
  trip := ⟨n, 7, n, n, 19900, some 0, none, .live⟩
  bus := { id := n, status := .active, regNo := [], nickname := none, capacity := 45 }
  route := { id := 7, isActive := true, name := [], direction := .inbound, polyline := none }
  helper := ⟨n, n, none, .approved⟩
  user := ⟨n, [], .helper, [], none, .active⟩

/-- **One such text blanks the map**: no bus is drawn, whatever is known of it. -/
theorem longInteger_blanks_fleet : ¬ ∀ (fromisoformat : Text → Option Timestamp) (depth : ℕ)
    (now : Instant) (routeId : RouteId) (up : Bool) (trips : List TrackedTrip),
    AllPictured fromisoformat depth now routeId up trips := by
  intro h
  obtain ⟨frame, board, console, hframe, -⟩ := h (fun _ => none) 1000 0 7 true
    [(runningTrip 1, ⟨none, none, none⟩), (runningTrip 2, ⟨none, none, some longInteger⟩)]
  exact not_readable_longInteger 1000
    (readable_of_assembleFrame hframe (runningTrip 2, ⟨none, none, some longInteger⟩) (by simp))

end UniTrack.FleetView
