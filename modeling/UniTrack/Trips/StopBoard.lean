import UniTrack.Models.Catalog
import UniTrack.Trips.EtaText

/-!
# The board of a stop (`stop_arrivals`, `app/api/routes/tracking.py`)

The next buses that reach one stop: it goes over the live trips whose routes
serve the stop, and picks the stop's arrival out of what the engine keeps for
each. Nobody checks it against the boards of the trips; they agree all the same.

1. Who serves a stop.
2. The board, over values and over texts.
3. The texts are those of the engine.
4. The board and the trips.
-/

namespace UniTrack

open UniTrack.Framework UniTrack.Python

/-! ## §1 Who serves a stop -/

/-- The tables the board is read from. -/
structure StopBoardDb where
  catalog : CatalogDb
  trips : Table Trip

/-- A row of `live_trips_serving_stop` (`app/repositories/fleet.py`). -/
structure ServingTrip where
  tripId : TripId
  routeId : RouteId
  busId : BusId
  routeName : Text
deriving DecidableEq

/-- The rows come in no order. -/
abbrev AnyOrder := OrderBy fun _ : ServingTrip => 0

/-- One live trip, joined to its route and to the stop's row there. -/
def servingRows (catalog : CatalogDb) (stopId : StopId) (t : Trip) : List ServingTrip :=
  (catalog.routes.rows.filter fun r => r.id == t.routeId).flatMap fun r =>
    (catalog.routeStops.rows.filter fun rs => rs.routeId == r.id && rs.stopId == stopId).map
      fun _ => ⟨t.id, t.routeId, t.busId, r.name⟩

def liveTripsServingStop (scan : AnyOrder) (db : StopBoardDb) (stopId : StopId) :
    List ServingTrip :=
  scan.sort ((db.trips.rows.filter fun t => t.status == .live).flatMap
    (servingRows db.catalog stopId))

/-! ## §2 The board, over values and over texts -/

structure BusArrivalOut extends EtaEntry where
  tripId : TripId
  routeId : RouteId
  routeName : Text
  busId : BusId
deriving DecidableEq

structure StopArrivalsOut where
  stopId : StopId
  stopName : Text
  asOf : Instant
  arrivals : List BusArrivalOut
deriving DecidableEq

/-- What the board makes of an arrival; the minutes are counted again. -/
def busArrival (now : Instant) (row : ServingTrip) (a : EtaEntry) : BusArrivalOut where
  toEtaEntry := { a with etaMinutes := minutesUntil a.eta now }
  tripId := row.tripId
  routeId := row.routeId
  routeName := row.routeName
  busId := row.busId

/-- `arrivals.sort(key=…)` and `arrivals[:limit]`. -/
def soonest (limit : ℕ) (arrivals : List BusArrivalOut) : List BusArrivalOut :=
  ((OrderBy.stable fun a : BusArrivalOut => a.eta).sort arrivals).take limit

def stopBoard (stop : Stop) (limit : ℕ) (now : Instant) (arrivals : List BusArrivalOut) :
    StopArrivalsOut where
  stopId := stop.id
  stopName := stop.name
  asOf := now
  arrivals := soonest limit arrivals

/-- The arrival that one trip offers; each trip's payload is asked for in turn. -/
def offered (s : EtaStore) (stopId : StopId) (calls : TripId → RedisCall) (now : Instant)
    (row : ServingTrip) : Option BusArrivalOut :=
  (cachedEta s row.tripId (calls row.tripId)).bind fun cached =>
    (cached.arrivals.find? fun a => a.stopId == stopId).map (busArrival now row)

/-- `stop_arrivals`, over what the engine means. -/
def stopArrivals (scan : AnyOrder) (db : StopBoardDb) (s : EtaStore) (stopId : StopId) (limit : ℕ)
    (calls : TripId → RedisCall) (now : Instant) : Reply StopArrivalsOut :=
  match db.catalog.getStop stopId with
  | none => .refused 404 "Unknown stop"
  | some stop =>
      .ok (stopBoard stop limit now
        ((liveTripsServingStop scan db stopId).filterMap (offered s stopId calls now)))

section
variable (py : Interpreter) (u : Uuids) (cal : Calendar)

/-- `for item in cached.get("arrivals", [])`. -/
def cachedItems : JsonValue → Except PyError (List JsonValue)
  | .dict items =>
      match JsonValue.lookup items "arrivals".toList with
      | none => .ok []
      | some (.list values) => .ok values
      | some (.dict entries) => .ok (entries.map fun entry => .str entry.1)
      | some (.str text) => .ok (text.map fun c => .str [c])
      | some _ => .error .typeError
  | _ => .error .attributeError

/-- One item, where it is for this stop. -/
def boardItem (stopId : StopId) (now : Instant) (row : ServingTrip) (item : JsonValue) :
    Except PyError (Option BusArrivalOut) := do
  match ← item.get "stop_id".toList with
  | .str text =>
      if text ≠ u.spell stopId then return none
      else
        let eta ← cal.readValue (← item.item "eta".toList)
        let seq ← readInt (← item.item "seq".toList)
        let basis ← readBasis (← item.item "basis".toList)
        let distanceKm ← readNumber (← item.item "distance_km".toList)
        return some (busArrival now row ⟨stopId, seq, eta, minutesUntil eta now, basis, distanceKm⟩)
  | _ => return none

/-- The first item for this stop ends the loop. -/
def firstItem (stopId : StopId) (now : Instant) (row : ServingTrip) :
    List JsonValue → Except PyError (Option BusArrivalOut)
  | [] => .ok none
  | item :: items => do
      match ← boardItem u cal stopId now row item with
      | some arrival => return some arrival
      | none => firstItem stopId now row items

def offeredText (redis : RedisTexts) (stopId : StopId) (calls : TripId → RedisCall)
    (now : Instant) (row : ServingTrip) : Except PyError (Option BusArrivalOut) := do
  match ← cachedEtaText py u redis row.tripId (calls row.tripId) with
  | none => return none
  | some cached => firstItem u cal stopId now row (← cachedItems cached)

/-- `stop_arrivals`. -/
def stopArrivalsText (scan : AnyOrder) (db : StopBoardDb) (redis : RedisTexts) (stopId : StopId)
    (limit : ℕ) (calls : TripId → RedisCall) (now : Instant) : Reply StopArrivalsOut :=
  match db.catalog.getStop stopId with
  | none => .refused 404 "Unknown stop"
  | some stop =>
      match (liveTripsServingStop scan db stopId).mapM
          (offeredText py u cal redis stopId calls now) with
      | .error _ => .crashed
      | .ok offers => .ok (stopBoard stop limit now (offers.filterMap id))

end

/-! ## §3 The texts are those of the engine -/

section
variable {py : Interpreter} {u : Uuids} {cal : Calendar} {stopId : StopId} {now : Instant}
  {row : ServingTrip}

theorem boardItem_items (a : EtaEntry) :
    boardItem u cal stopId now row (.dict (a.items u cal)) =
      .ok (if a.stopId = stopId then some (busArrival now row a) else none) := by
  have hid : (JsonValue.dict (a.items u cal)).get "stop_id".toList = .ok (.str (u.spell a.stopId)) :=
    rfl
  have heta : (JsonValue.dict (a.items u cal)).item "eta".toList =
      .ok (.str (cal.isoformat a.eta)) := rfl
  have hseq : (JsonValue.dict (a.items u cal)).item "seq".toList = .ok (.int a.seq) := rfl
  have hbasis : (JsonValue.dict (a.items u cal)).item "basis".toList = .ok (.str a.basis.text) :=
    rfl
  have hdistance : (JsonValue.dict (a.items u cal)).item "distance_km".toList =
      .ok (.float (.finite a.distanceKm)) := rfl
  unfold boardItem
  by_cases hstop : a.stopId = stopId
  · subst hstop
    simp only [hid, heta, hseq, hbasis, hdistance, bind, Except.bind, ne_eq, not_true_eq_false,
      if_false, Calendar.readValue_isoformat, readInt, readBasis_text, readNumber, if_true]
    rfl
  · have htext : u.spell a.stopId ≠ u.spell stopId := fun h => hstop (u.spell_injective h)
    simp only [hid, bind, Except.bind, ne_eq, htext, not_false_eq_true, if_true, hstop, if_false]
    rfl

theorem firstItem_items (arrivals : List EtaEntry) :
    firstItem u cal stopId now row (arrivals.map fun a => .dict (a.items u cal)) =
      .ok ((arrivals.find? fun a => a.stopId == stopId).map (busArrival now row)) := by
  induction arrivals with
  | nil => rfl
  | cons a arrivals ih =>
      rw [List.map_cons, firstItem, boardItem_items]
      by_cases hstop : a.stopId = stopId
      · rw [if_pos hstop, List.find?_cons_of_pos (by rw [beq_iff_eq]; exact hstop)]
        rfl
      · rw [if_neg hstop, List.find?_cons_of_neg (by rw [beq_iff_eq]; exact hstop)]
        exact ih

theorem cachedItems_items (payload : EtaPayload) :
    cachedItems (.dict (payload.items u cal)) =
      .ok (payload.arrivals.map fun a => .dict (a.items u cal)) := rfl

/-- The text of a payload loads as the payload's items, and a key without a
payload reads as nothing. -/
theorem offeredText_seen {redis : RedisTexts} (h : EtaWritten py u cal redis)
    (calls : TripId → RedisCall) :
    offeredText py u cal redis stopId calls now row =
      .ok (offered (etaSeen py u cal redis) stopId calls now row) := by
  unfold offeredText offered cachedEtaText cachedEta
  by_cases hheard : (calls row.tripId).outcome.heard = true
  · rw [if_pos hheard, if_pos hheard]
    rcases h.get_cases row.tripId (calls row.tripId).time with
      ⟨hnone, hseen⟩ | ⟨payload, hplain, hget, hseen⟩
    · rw [hnone, hseen]
      rfl
    · have hload := @EtaPayload.loads_toJson py u cal payload hplain
      have hfirst := @firstItem_items u cal stopId now row payload.arrivals
      obtain ⟨c, rest, hcons⟩ := @EtaPayload.toJson_cons py u cal payload
      rw [hcons] at hget hload
      rw [hget, hseen]
      simp only [Option.bind_some, RedisValue.getText, hload, Except.map, excepting, bind,
        Except.bind, cachedItems_items, hfirst]
  · rw [if_neg hheard, if_neg hheard]
    rfl

theorem stopArrivalsText_seen {redis : RedisTexts} (h : EtaWritten py u cal redis)
    (scan : AnyOrder) (db : StopBoardDb) (limit : ℕ) (calls : TripId → RedisCall) :
    stopArrivalsText py u cal scan db redis stopId limit calls now =
      stopArrivals scan db (etaSeen py u cal redis) stopId limit calls now := by
  have hrows : ∀ rows : List ServingTrip,
      rows.mapM (offeredText py u cal redis stopId calls now) =
        .ok (rows.map (offered (etaSeen py u cal redis) stopId calls now)) := by
    intro rows
    induction rows with
    | nil => rfl
    | cons row rows ih =>
        rw [List.mapM_cons, offeredText_seen h, ih]
        rfl
  unfold stopArrivalsText stopArrivals
  rw [hrows]
  dsimp only
  rw [List.filterMap_map]
  rfl

end

/-! ## §4 The board and the trips -/

/-- A live trip on a route that has the stop. -/
structure Serving (db : StopBoardDb) (stopId : StopId) (t : Trip) : Prop where
  stored : t ∈ db.trips
  live : t.status = .live
  stopped : ∃ rs ∈ db.catalog.routeStops, rs.routeId = t.routeId ∧ rs.stopId = stopId

/-- What a trip's own request tells of a stop. -/
def Tells (reply : Reply EtaPayload) (stopId : StopId) (a : EtaEntry) : Prop :=
  ∃ payload, reply = .ok payload ∧
    (payload.arrivals.find? fun a => a.stopId == stopId) = some a

/-- A board that agrees with the requests for each trip. -/
structure StopBoardOk (db : StopBoardDb) (stopId : StopId) (limit : ℕ)
    (eta : TripId → Reply EtaPayload) (board : StopArrivalsOut) : Prop where
  stop : ∃ stop ∈ db.catalog.stops, stop.id = stopId ∧ board.stopId = stop.id ∧
    board.stopName = stop.name
  /-- Soonest first. -/
  sorted : board.arrivals.Pairwise fun a b => a.eta ≤ b.eta
  short : board.arrivals.length ≤ limit
  /-- One arrival of each trip. -/
  distinct : board.arrivals.Pairwise fun a b => a.tripId ≠ b.tripId
  /-- Each is what its trip tells of the stop. -/
  told : ∀ a ∈ board.arrivals, Tells (eta a.tripId) stopId a.toEtaEntry ∧
    ∃ t, Serving db stopId t ∧ t.id = a.tripId ∧ t.routeId = a.routeId ∧ t.busId = a.busId ∧
      ∃ r ∈ db.catalog.routes, r.id = a.routeId ∧ r.name = a.routeName
  /-- A bus that is left out comes after a full board. -/
  complete : ∀ t a, Serving db stopId t → Tells (eta t.id) stopId a →
    (∃ b ∈ board.arrivals, b.tripId = t.id) ∨
      board.arrivals.length = limit ∧ ∀ b ∈ board.arrivals, b.eta ≤ a.eta

section
variable {scan : AnyOrder} {db : StopBoardDb} {s : EtaStore} {stopId : StopId} {limit : ℕ}
  {calls : TripId → RedisCall} {now : Instant}

theorem mem_servingRows {catalog : CatalogDb} {t : Trip} {row : ServingTrip} :
    row ∈ servingRows catalog stopId t ↔
      ∃ r ∈ catalog.routes, r.id = t.routeId ∧
        (∃ rs ∈ catalog.routeStops, rs.routeId = r.id ∧ rs.stopId = stopId) ∧
        row = ⟨t.id, t.routeId, t.busId, r.name⟩ := by
  unfold servingRows
  simp only [List.mem_flatMap, List.mem_map, List.mem_filter, beq_iff_eq, Bool.and_eq_true]
  constructor
  · rintro ⟨r, ⟨hr, hid⟩, rs, ⟨hrs, hroute, hstop⟩, rfl⟩
    exact ⟨r, hr, hid, ⟨rs, hrs, hroute, hstop⟩, rfl⟩
  · rintro ⟨r, hr, hid, ⟨rs, hrs, hroute, hstop⟩, rfl⟩
    exact ⟨r, ⟨hr, hid⟩, rs, ⟨hrs, hroute, hstop⟩, rfl⟩

/-- A trip is joined to one route, and the route has the stop once. -/
theorem servingRows_once (catalog : CatalogDb) (t : Trip) :
    (servingRows catalog stopId t).Pairwise fun a b => a.tripId ≠ b.tripId := by
  refine List.pairwise_flatMap.mpr ⟨fun r _ => List.pairwise_map.mpr ?_, ?_⟩
  · refine (catalog.routeStops.separate.filter _).imp_of_mem fun ha hb hclash => ?_
    simp only [List.mem_filter, Bool.and_eq_true, beq_iff_eq] at ha hb
    exact absurd (RouteStop.clash_iff.mpr
      ⟨ha.2.1.trans hb.2.1.symm, Or.inr (ha.2.2.trans hb.2.2.symm)⟩) hclash
  · refine (catalog.routes.separate.filter _).imp_of_mem fun ha hb hclash => ?_
    have hida := of_decide_eq_true (List.mem_filter.mp ha).2
    have hidb := of_decide_eq_true (List.mem_filter.mp hb).2
    exact absurd (RouteRow.clash_iff.mpr (Or.inl (hida.trans hidb.symm))) hclash

theorem mem_liveTripsServingStop {row : ServingTrip} :
    row ∈ liveTripsServingStop scan db stopId ↔
      ∃ t, Serving db stopId t ∧ ∃ r ∈ db.catalog.routes, r.id = t.routeId ∧
        row = ⟨t.id, t.routeId, t.busId, r.name⟩ := by
  unfold liveTripsServingStop
  rw [(scan.perm _).mem_iff]
  simp only [List.mem_flatMap, List.mem_filter, beq_iff_eq, mem_servingRows]
  constructor
  · rintro ⟨t, ⟨ht, hlive⟩, r, hr, hid, ⟨rs, hrs, hroute, hstop⟩, hrow⟩
    exact ⟨t, ⟨ht, hlive, rs, hrs, hroute.trans hid, hstop⟩, r, hr, hid, hrow⟩
  · rintro ⟨t, ⟨ht, hlive, rs, hrs, hroute, hstop⟩, r, hr, hid, hrow⟩
    exact ⟨t, ⟨ht, hlive⟩, r, hr, hid, ⟨rs, hrs, hroute.trans hid.symm, hstop⟩, hrow⟩

/-- Every trip that serves the stop has its row. -/
theorem Serving.row {t : Trip} (h : Serving db stopId t) :
    ∃ row ∈ liveTripsServingStop scan db stopId, row.tripId = t.id := by
  obtain ⟨rs, hrs, hroute, -⟩ := h.stopped
  obtain ⟨r, hr, hid⟩ := db.catalog.routed rs hrs
  exact ⟨_, mem_liveTripsServingStop.mpr ⟨t, h, r, hr, hid.trans hroute, rfl⟩, rfl⟩

theorem liveTripsServingStop_once :
    (liveTripsServingStop scan db stopId).Pairwise fun a b => a.tripId ≠ b.tripId := by
  refine ((scan.perm _).pairwise_iff Ne.symm).mpr (List.pairwise_flatMap.mpr
    ⟨fun t _ => servingRows_once db.catalog t, ?_⟩)
  refine (db.trips.separate.filter _).imp fun hclash x hx y hy heq => hclash ?_
  obtain ⟨r, -, -, -, rfl⟩ := mem_servingRows.mp hx
  obtain ⟨r', -, -, -, rfl⟩ := mem_servingRows.mp hy
  exact Trip.clash_iff.mpr (Or.inl heq)

theorem find?_restated (arrivals : List EtaEntry) :
    ((arrivals.map fun a => { a with etaMinutes := minutesUntil a.eta now }).find?
        fun a => a.stopId == stopId) =
      (arrivals.find? fun a => a.stopId == stopId).map
        fun a => { a with etaMinutes := minutesUntil a.eta now } := by
  rw [List.find?_map]
  rfl

/-- A trip offers what its own request tells. -/
theorem offered_eq_some {row : ServingTrip} {b : BusArrivalOut} :
    offered s stopId calls now row = some b ↔
      ∃ a, Tells (tripEta s row.tripId (calls row.tripId) now) stopId a ∧
        b = ⟨a, row.tripId, row.routeId, row.routeName, row.busId⟩ := by
  unfold offered Tells tripEta
  cases cachedEta s row.tripId (calls row.tripId) with
  | none => simp
  | some cached =>
      simp only [Option.bind_some, Option.map_eq_some_iff, Reply.ok.injEq, exists_eq_left',
        restateMinutes, find?_restated]
      constructor
      · rintro ⟨a, hfind, rfl⟩
        exact ⟨_, ⟨a, hfind, rfl⟩, rfl⟩
      · rintro ⟨-, ⟨a, hfind, rfl⟩, rfl⟩
        exact ⟨a, hfind, rfl⟩

theorem stopBoard_ok {stop : Stop} (hstop : db.catalog.getStop stopId = some stop) :
    StopBoardOk db stopId limit (fun tripId => tripEta s tripId (calls tripId) now)
      (stopBoard stop limit now
        ((liveTripsServingStop scan db stopId).filterMap (offered s stopId calls now))) where
  stop := ⟨stop, (Table.mem_of_find hstop).1, beq_iff_eq.mp (Table.mem_of_find hstop).2, rfl, rfl⟩
  sorted := ((OrderBy.stable _).sorted _).sublist (List.take_sublist _ _)
  short := List.length_take_le _ _
  distinct := by
    refine (((OrderBy.stable _).perm _).pairwise_iff Ne.symm |>.mpr ?_).sublist
      (List.take_sublist _ _)
    refine List.pairwise_filterMap.mpr (liveTripsServingStop_once.imp fun hne b hb b' hb' => ?_)
    obtain ⟨a, -, rfl⟩ := offered_eq_some.mp hb
    obtain ⟨a', -, rfl⟩ := offered_eq_some.mp hb'
    exact hne
  told b hb := by
    have hoffered := ((OrderBy.stable _).perm _).mem_iff.mp (List.mem_of_mem_take hb)
    obtain ⟨row, hrow, hb⟩ := List.mem_filterMap.mp hoffered
    obtain ⟨a, htells, rfl⟩ := offered_eq_some.mp hb
    obtain ⟨t, ht, r, hr, hid, rfl⟩ := mem_liveTripsServingStop.mp hrow
    exact ⟨htells, t, ht, rfl, rfl, rfl, r, hr, hid, rfl⟩
  complete t a ht htells := by
    obtain ⟨row, hrow, hid⟩ := @Serving.row scan db stopId t ht
    rw [← hid] at htells
    have hoffered := List.mem_filterMap.mpr ⟨row, hrow, offered_eq_some.mpr ⟨a, htells, rfl⟩⟩
    rcases (OrderBy.stable fun a : BusArrivalOut => a.eta).mem_take hoffered limit with
      hshown | hfull
    · exact Or.inl ⟨_, hshown, hid⟩
    · exact Or.inr hfull

end

/-- **The board of a stop and the boards of the trips agree**: over any run of
the engine and of what others do to Redis, whoever asks for a stop that exists
gets the arrivals that the requests for the live trips through it would tell at
the same time, at most one of each trip, soonest first; and a bus that is not
on the board comes after all that are. -/
theorem stop_board_agrees (py : Interpreter) (u : Uuids) (cal : Calendar) (globe : Globe)
    (redis : RedisTexts) (hstart : EtaWritten py u cal redis)
    (labels : List (SizedPass ⊕ ForeignWrite [.tripProgress, .tripEta])) (scan : AnyOrder)
    (db : StopBoardDb) (stopId : StopId) (limit : ℕ) (calls : TripId → RedisCall)
    (now : Instant) :
    let texts := run (engineAmong py u cal globe) redis labels
    let reply := stopArrivalsText py u cal scan db texts stopId limit calls now
    ((∀ stop ∈ db.catalog.stops, stop.id ≠ stopId) ∧ reply = .refused 404 "Unknown stop") ∨
      ∃ board, reply = .ok board ∧ StopBoardOk db stopId limit
        (fun tripId => tripEtaText py u cal texts tripId (calls tripId) now) board := by
  have hwritten : EtaWritten py u cal (run (engineAmong py u cal globe) redis labels) :=
    @run_of_step _ _ (engineAmong py u cal globe) (EtaWritten py u cal)
      (fun _ label h => engineAmong_written h label) redis hstart labels
  dsimp only
  simp only [tripEtaText_seen hwritten]
  rw [stopArrivalsText_seen hwritten]
  unfold stopArrivals
  cases hstop : db.catalog.getStop stopId with
  | none =>
      exact Or.inl ⟨fun stop hmem => beq_eq_false_iff_ne.mp (Table.find_eq_none.mp hstop stop hmem),
        rfl⟩
  | some stop => exact Or.inr ⟨_, rfl, stopBoard_ok hstop⟩

def uttara : Stop := ⟨20, "Uttara".toList, 2, 0⟩

def north : RouteRow := ⟨⟨3, true⟩, "North".toList, .outbound, none⟩

def uttaraOnNorth : RouteStop := ⟨3, 20, 2, some 30⟩

/-- The trip of `firstPass`, on a route with the one stop. -/
def firstTrip : StopBoardDb where
  catalog := {
    stops := ⟨[uttara], List.pairwise_singleton _ _⟩
    routes := ⟨[north], List.pairwise_singleton _ _⟩
    routeStops := ⟨[uttaraOnNorth], List.pairwise_singleton _ _⟩
    buses := .empty
    routed := fun _ h => ⟨north, List.mem_cons_self, (List.mem_singleton.mp h) ▸ rfl⟩
    stopped := fun _ h => ⟨uttara, List.mem_cons_self, (List.mem_singleton.mp h) ▸ rfl⟩ }
  trips := ⟨[firstPass.pass.trip], List.pairwise_singleton _ _⟩

theorem stop_board_agrees_firstPass :
    let texts := run (engineAmong plainInterpreter plainUuids plainCalendar straightRoad)
      (.empty Text RedisValue) [.inl firstPass]
    let reply := stopArrivalsText plainInterpreter plainUuids plainCalendar (OrderBy.stable _)
      firstTrip texts 20 5 (fun _ => ⟨90, .done⟩) 90
    ((∀ stop ∈ firstTrip.catalog.stops, stop.id ≠ 20) ∧ reply = .refused 404 "Unknown stop") ∨
      ∃ board, reply = .ok board ∧ StopBoardOk firstTrip 20 5
        (fun tripId => tripEtaText plainInterpreter plainUuids plainCalendar texts tripId
          ⟨90, .done⟩ 90) board :=
  stop_board_agrees plainInterpreter plainUuids plainCalendar straightRoad _
    (etaWritten_empty _ _ _) [.inl firstPass] (OrderBy.stable _) firstTrip 20 5
    (fun _ => ⟨90, .done⟩) 90

end UniTrack
