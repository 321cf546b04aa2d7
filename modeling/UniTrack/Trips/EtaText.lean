import Mathlib.Data.Rat.Encodable
import UniTrack.Core.Redis
import UniTrack.Gps.FleetMap
import UniTrack.Trips.Arrivals

/-!
# Arrivals as they are kept (`app/worker/eta_engine.py`)

The engine writes progress and arrivals as JSON; a student's request, a board
and the maps read the arrivals back, each in its own way. What they tell is what
the engine had written, whatever else happens in the same Redis.

1. Times.
2. Progress and payloads as JSON.
3. A pass over the keyspace.
4. What the engine writes can be read.
5. What is seen of a run.
6. The readers.
-/

namespace UniTrack

open UniTrack.Framework UniTrack.Python

/-! ## §1 Times -/

/-- `isoformat` of a time in UTC, and `datetime.fromisoformat`. -/
structure Calendar where
  isoformat : Instant → Text
  fromisoformat : Text → Option Timestamp
  fromisoformat_isoformat : ∀ t, fromisoformat (isoformat t) = some ⟨false, t⟩

/-- Times spelled as numbers. -/
def plainCalendar : Calendar where
  isoformat t := Nat.toDigits 10 (Encodable.encode t)
  fromisoformat text := (Encodable.decode (digitsValue text)).map fun t => ⟨false, t⟩
  fromisoformat_isoformat t := by
    rw [digitsValue_toDigits, Encodable.encodek]
    rfl

/-! ## §2 Progress and payloads as JSON -/

/-- An integer; it is never written as anything else. -/
def readInt : JsonValue → Except PyError ℤ
  | .int n => .ok n
  | _ => .error .valueError

/-- A number with decimals; it is never written as anything else. -/
def readNumber : JsonValue → Except PyError ℚ
  | .float (.finite q) => .ok q
  | _ => .error .valueError

/-- `datetime.fromisoformat(value)`. -/
def Calendar.readValue (cal : Calendar) : JsonValue → Except PyError Instant
  | .str text => (orValueError (cal.fromisoformat text)).map Timestamp.instant
  | _ => .error .typeError

def Basis.text : Basis → Text
  | .live => "live".toList
  | .scheduled => "scheduled".toList

def readBasis : JsonValue → Except PyError Basis
  | .str text =>
      orValueError ([("live".toList, Basis.live), ("scheduled".toList, .scheduled)].lookup text)
  | _ => .error .valueError

section
variable (py : Interpreter) (u : Uuids) (cal : Calendar)

/-- What `_save_progress` dumps. -/
def Progress.items (progress : Progress) : List (Text × JsonValue) :=
  [("seq".toList, .int progress.seq), ("at".toList, .str (cal.isoformat progress.reachedAt))]

def Progress.toJson (progress : Progress) : Text := dumps py.repr (.dict (progress.items cal))

/-- What `_load_progress` makes of it. -/
def Progress.fromJson (raw : Text) : Except PyError Progress := do
  let data ← loads py.depth raw
  let seq ← readInt (← data.item "seq".toList)
  let reachedAt ← cal.readValue (← data.item "at".toList)
  return ⟨seq, reachedAt⟩

def EtaEntry.items (a : EtaEntry) : List (Text × JsonValue) :=
  [("stop_id".toList, .str (u.spell a.stopId)),
    ("seq".toList, .int a.seq),
    ("eta".toList, .str (cal.isoformat a.eta)),
    ("eta_minutes".toList, .int a.etaMinutes),
    ("basis".toList, .str a.basis.text),
    ("distance_km".toList, .float (.finite a.distanceKm))]

def EtaPayload.items (payload : EtaPayload) : List (Text × JsonValue) :=
  [("trip_id".toList, .str (u.spell payload.tripId)),
    ("route_id".toList, .str (u.spell payload.routeId)),
    ("bus_id".toList, .str (u.spell payload.busId)),
    ("computed_at".toList, .str (cal.isoformat payload.computedAt)),
    ("arrivals".toList, .list (payload.arrivals.map fun a => .dict (a.items u cal)))]

/-- What `compute_for_trip` dumps. -/
def EtaPayload.toJson (payload : EtaPayload) : Text :=
  dumps py.repr (.dict (payload.items u cal))

/-- `ArrivalOut.model_validate`, of what the engine writes. -/
def EtaEntry.ofJson (value : JsonValue) : Except PyError EtaEntry := do
  let stopId ← u.readValue (← value.item "stop_id".toList)
  let seq ← readInt (← value.item "seq".toList)
  let eta ← cal.readValue (← value.item "eta".toList)
  let etaMinutes ← readInt (← value.item "eta_minutes".toList)
  let basis ← readBasis (← value.item "basis".toList)
  let distanceKm ← readNumber (← value.item "distance_km".toList)
  return ⟨stopId, seq, eta, etaMinutes, basis, distanceKm⟩

def readArrivals : JsonValue → Except PyError (List EtaEntry)
  | .list values => values.mapM (EtaEntry.ofJson u cal)
  | _ => .error .valueError

/-- `TripEtaOut.model_validate`, of what the engine writes. -/
def EtaPayload.ofJson (value : JsonValue) : Except PyError EtaPayload := do
  let tripId ← u.readValue (← value.item "trip_id".toList)
  let routeId ← u.readValue (← value.item "route_id".toList)
  let busId ← u.readValue (← value.item "bus_id".toList)
  let computedAt ← cal.readValue (← value.item "computed_at".toList)
  let arrivals ← readArrivals u cal (← value.item "arrivals".toList)
  return ⟨tripId, routeId, busId, computedAt, arrivals⟩

def EtaPayload.fromJson (raw : Text) : Except PyError EtaPayload :=
  loads py.depth raw >>= EtaPayload.ofJson u cal

end

/-- Integers short enough to be converted. -/
def Short (n : ℤ) : Prop := n.natAbs < 10 ^ maxStrDigits

/-- What can be written so that it is read back. -/
structure EtaEntry.Plain (a : EtaEntry) : Prop where
  seq : Short a.seq
  minutes : Short a.etaMinutes
  hundredths : ∃ n : ℤ, a.distanceKm = (n : ℚ) / 100

def EtaPayload.Plain (payload : EtaPayload) : Prop := ∀ a ∈ payload.arrivals, a.Plain

section
variable {py : Interpreter} {u : Uuids} {cal : Calendar}

@[simp] theorem Uuids.readValue_spell (n : ℕ) : u.readValue (.str (u.spell n)) = .ok n := by
  rw [Uuids.readValue, u.read_spell]
  rfl

@[simp] theorem Calendar.readValue_isoformat (t : Instant) :
    cal.readValue (.str (cal.isoformat t)) = .ok t := by
  rw [Calendar.readValue, cal.fromisoformat_isoformat]
  rfl

@[simp] theorem readBasis_text (basis : Basis) : readBasis (.str basis.text) = .ok basis := by
  cases basis <;> rfl

theorem progress_writable {progress : Progress} (h : Short progress.seq) (depth : ℕ) :
    Writable py.repr (depth + 1) (.dict (progress.items cal)) := by
  refine .dict fun item hitem => ?_
  unfold Progress.items at hitem
  simp only [List.mem_cons, List.not_mem_nil, or_false] at hitem
  rcases hitem with rfl | rfl
  · exact .int h
  · exact .str _

theorem entry_writable {a : EtaEntry} (h : a.Plain) (depth : ℕ) :
    Writable py.repr (depth + 1) (.dict (a.items u cal)) := by
  refine .dict fun item hitem => ?_
  unfold EtaEntry.items at hitem
  simp only [List.mem_cons, List.not_mem_nil, or_false] at hitem
  rcases hitem with rfl | rfl | rfl | rfl | rfl | rfl
  · exact .str _
  · exact .int h.seq
  · exact .str _
  · exact .int h.minutes
  · exact .str _
  · obtain ⟨n, hn⟩ := h.hundredths
    exact .float (hn ▸ py.hundredths n)

theorem payload_writable {payload : EtaPayload} (h : payload.Plain) (depth : ℕ) :
    Writable py.repr (depth + 3) (.dict (payload.items u cal)) := by
  refine .dict fun item hitem => ?_
  unfold EtaPayload.items at hitem
  simp only [List.mem_cons, List.not_mem_nil, or_false] at hitem
  rcases hitem with rfl | rfl | rfl | rfl | rfl
  · exact .str _
  · exact .str _
  · exact .str _
  · exact .str _
  · refine .list fun value hvalue => ?_
    obtain ⟨a, ha, rfl⟩ := List.mem_map.mp hvalue
    exact entry_writable (h a ha) depth

theorem Interpreter.depth_eq_add_three (py : Interpreter) : ∃ depth, py.depth = depth + 3 :=
  ⟨py.depth - 3, (Nat.sub_add_cancel py.deep).symm⟩

/-- **Progress is read back from its JSON.** -/
theorem Progress.fromJson_toJson {progress : Progress} (h : Short progress.seq) :
    Progress.fromJson py cal (progress.toJson py cal) = .ok progress := by
  obtain ⟨depth, hdepth⟩ := py.depth_eq_succ
  have hseq : (JsonValue.dict (progress.items cal)).item "seq".toList = .ok (.int progress.seq) :=
    rfl
  have hat : (JsonValue.dict (progress.items cal)).item "at".toList =
      .ok (.str (cal.isoformat progress.reachedAt)) := rfl
  unfold Progress.fromJson Progress.toJson
  rw [hdepth, loads_dumps (progress_writable h depth)]
  simp only [bind, Except.bind, hseq, hat, readInt, Calendar.readValue_isoformat]
  rfl

theorem EtaEntry.ofJson_items (a : EtaEntry) :
    EtaEntry.ofJson u cal (.dict (a.items u cal)) = .ok a := by
  have hstop : (JsonValue.dict (a.items u cal)).item "stop_id".toList =
      .ok (.str (u.spell a.stopId)) := rfl
  have hseq : (JsonValue.dict (a.items u cal)).item "seq".toList = .ok (.int a.seq) := rfl
  have heta : (JsonValue.dict (a.items u cal)).item "eta".toList =
      .ok (.str (cal.isoformat a.eta)) := rfl
  have hminutes : (JsonValue.dict (a.items u cal)).item "eta_minutes".toList =
      .ok (.int a.etaMinutes) := rfl
  have hbasis : (JsonValue.dict (a.items u cal)).item "basis".toList = .ok (.str a.basis.text) :=
    rfl
  have hkm : (JsonValue.dict (a.items u cal)).item "distance_km".toList =
      .ok (.float (.finite a.distanceKm)) := rfl
  unfold EtaEntry.ofJson
  simp only [bind, Except.bind, hstop, hseq, heta, hminutes, hbasis, hkm, readInt, readNumber,
    Uuids.readValue_spell, Calendar.readValue_isoformat, readBasis_text]
  rfl

theorem readArrivals_items (arrivals : List EtaEntry) :
    readArrivals u cal (.list (arrivals.map fun a => .dict (a.items u cal))) = .ok arrivals := by
  unfold readArrivals
  dsimp only
  induction arrivals with
  | nil => rfl
  | cons a arrivals ih =>
      rw [List.map_cons, List.mapM_cons, EtaEntry.ofJson_items, ih]
      rfl

theorem EtaPayload.ofJson_items (payload : EtaPayload) :
    EtaPayload.ofJson u cal (.dict (payload.items u cal)) = .ok payload := by
  have htrip : (JsonValue.dict (payload.items u cal)).item "trip_id".toList =
      .ok (.str (u.spell payload.tripId)) := rfl
  have hroute : (JsonValue.dict (payload.items u cal)).item "route_id".toList =
      .ok (.str (u.spell payload.routeId)) := rfl
  have hbus : (JsonValue.dict (payload.items u cal)).item "bus_id".toList =
      .ok (.str (u.spell payload.busId)) := rfl
  have hcomputed : (JsonValue.dict (payload.items u cal)).item "computed_at".toList =
      .ok (.str (cal.isoformat payload.computedAt)) := rfl
  have harrivals : (JsonValue.dict (payload.items u cal)).item "arrivals".toList =
      .ok (.list (payload.arrivals.map fun a => .dict (a.items u cal))) := rfl
  unfold EtaPayload.ofJson
  simp only [bind, Except.bind, htrip, hroute, hbus, hcomputed, harrivals, Uuids.readValue_spell,
    Calendar.readValue_isoformat, readArrivals_items]
  rfl

theorem EtaPayload.loads_toJson {payload : EtaPayload} (h : payload.Plain) :
    loads py.depth (payload.toJson py u cal) = .ok (.dict (payload.items u cal)) := by
  obtain ⟨depth, hdepth⟩ := py.depth_eq_add_three
  unfold EtaPayload.toJson
  rw [hdepth, loads_dumps (payload_writable h depth)]

/-- **A payload is read back from its JSON.** -/
theorem EtaPayload.fromJson_toJson {payload : EtaPayload} (h : payload.Plain) :
    EtaPayload.fromJson py u cal (payload.toJson py u cal) = .ok payload := by
  unfold EtaPayload.fromJson
  rw [EtaPayload.loads_toJson h]
  exact payload.ofJson_items

end

/-! ## §3 A pass over the keyspace -/

abbrev RedisTexts := KeyValues Text RedisValue

section
variable (py : Interpreter) (u : Uuids) (cal : Calendar)

/-- `trip_progress_key`. -/
def tripProgressKey (tripId : TripId) : RedisKey := ⟨.tripProgress, u.spell tripId⟩

/-- `trip_eta_key`. -/
def tripEtaKey (tripId : TripId) : RedisKey := ⟨.tripEta, u.spell tripId⟩

/-- `_load_progress`, of what `_save_progress` writes. -/
def loadProgressText (redis : RedisTexts) (tripId : TripId) (call : RedisCall) : Option Progress :=
  if call.outcome.heard then
    (redis.get call.time (tripProgressKey u tripId).text).bind fun value =>
      value.getText.bind fun raw => (Progress.fromJson py cal raw).toOption
  else none

/-- `_save_progress`; a failure is swallowed. -/
def saveProgressText (redis : RedisTexts) (tripId : TripId) (progress : Progress)
    (call : RedisCall) : RedisTexts :=
  if call.outcome.applied then
    redis.set call.time (tripProgressKey u tripId).text (.str (progress.toJson py cal)) etaTtlS
  else redis

/-- The first half of a pass. -/
def trackProgressText (globe : Globe) (redis : RedisTexts) (pass : EtaPass) :
    RedisTexts × Option Progress :=
  let fixes := recentFixes pass.search
  let progress := loadProgressText py u cal redis pass.trip.id pass.load
  if fixes = [] then (redis, progress)
  else
    match advanceProgress globe pass.points fixes progress with
    | none => (redis, none)
    | some advanced =>
        if some advanced = progress then (redis, progress)
        else (saveProgressText py u cal redis pass.trip.id advanced pass.save, some advanced)

/-- The arrivals under the trip's key; none are written when there are none. -/
def publishArrivalsText (redis : RedisTexts) (pass : EtaPass) (arrivals : List Arrival) :
    RedisTexts :=
  if arrivals ≠ [] ∧ pass.publish.outcome.applied then
    redis.set pass.publish.time (tripEtaKey u pass.trip.id).text
      (.str ((etaPayload pass arrivals).toJson py u cal)) etaTtlS
  else redis

/-- What `compute_for_trip` leaves in Redis. -/
def computeForTripText (globe : Globe) (redis : RedisTexts) (pass : EtaPass) : RedisTexts :=
  match pass.points, pass.trip.actualStart with
  | [], _ => redis
  | _, none => redis
  | points, some actualStart =>
      let fixes := recentFixes pass.search
      let position := fixes.getLast?.map Fix.point
      let speed := rollingSpeedKmh globe fixes pass.now
      let (tracked, progress) := trackProgressText py u cal globe redis pass
      match estimateArrivals globe points position progress actualStart speed pass.now with
      | .error _ => tracked
      | .ok arrivals => publishArrivalsText py u cal tracked pass arrivals

/-- A pass over stops whose seqs can be converted. -/
structure SizedPass where
  pass : EtaPass
  columns : ∀ point ∈ pass.points, Short point.seq

def engineTextStep (globe : Globe) (redis : RedisTexts) (l : SizedPass) : RedisTexts :=
  computeForTripText py u cal globe redis l.pass

/-- A command on any key that is not the engine's. -/
def redisDisturb (redis : RedisTexts) (o : ForeignWrite [.tripProgress, .tripEta]) : RedisTexts :=
  o.apply redis

def progressCodec : Codec TripId Progress Text RedisValue :=
  stringsOf u .tripProgress (Progress.toJson py cal) (Progress.fromJson py cal)

def etaCodec : Codec TripId EtaPayload Text RedisValue :=
  stringsOf u .tripEta (EtaPayload.toJson py u cal) (EtaPayload.fromJson py u cal)

/-- The progress and the payloads that can be read. -/
def etaSeen (redis : RedisTexts) : EtaStore where
  progress := (progressCodec py u cal).view redis
  eta := (etaCodec py u cal).view redis

end

/-! ## §4 What the engine writes can be read -/

theorem short_of_le {n : ℤ} (hpos : 0 ≤ n) (hle : n ≤ 180) : Short n := by
  have hpow : 180 < 10 ^ maxStrDigits :=
    Nat.lt_of_lt_of_le (show 180 < 10 ^ 3 by decide)
      (Nat.pow_le_pow_right (by decide) (by decide))
  unfold Short
  omega

section
variable {globe : Globe} {points : List RoutePoint} {position : Option Point}
  {progress : Option Progress} {actualStart now : Instant} {speedKmh : Option ℚ}

/-- The numbers of an estimate before it is pushed out. -/
theorem estimate_bounds {estimate : Arrival}
    (h : estimate ∈ estimates globe points position progress actualStart speedKmh now) :
    now ≤ estimate.eta ∧ estimate.eta ≤ now + maxHorizon ∧
      (∃ point ∈ points, point.seq = estimate.seq) ∧
      ∃ km, estimate.distanceKm = round2 km := by
  obtain ⟨index, point, hpoint, hstop⟩ := mem_estimates.mp h
  have hpoints := (mem_remaining_of_getElem? hpoint).1
  have hseq := reportStop_seq hstop
  unfold stopEstimate reportStop at hstop
  split at hstop
  · cases hstop
  · rename_i eta basis _
    obtain ⟨hsoon, hsome⟩ := Option.ite_none_left_eq_some.mp hstop
    rw [← Option.some.inj hsome] at hseq ⊢
    refine ⟨?_, sub_le_iff_le_add'.mp (not_lt.mp hsoon), ⟨point, hpoints, hseq.symm⟩, _, rfl⟩
    dsimp only
    split
    · exact le_refl _
    · rename_i hlate
      exact not_lt.mp hlate

theorem arrival_bounds {a : Arrival}
    (h : a ∈ arrivalsAhead globe points position progress actualStart speedKmh now) :
    now ≤ a.eta ∧ a.eta ≤ now + maxHorizon ∧ (∃ point ∈ points, point.seq = a.seq) ∧
      ∃ km, a.distanceKm = round2 km := by
  obtain ⟨index, hindex⟩ := List.mem_iff_getElem?.mp h
  rw [arrivalsAhead] at hindex
  obtain ⟨estimate, hestimate, hsame, hgreatest⟩ := monotonic_getElem? hindex
  obtain ⟨-, -, hpoint, hkm⟩ := estimate_bounds (List.mem_of_getElem? hestimate)
  rcases hgreatest.1 with hnone | ⟨place, -, source, hsource, heta⟩
  · cases hnone
  · obtain ⟨hnow, hsoon, -⟩ := estimate_bounds (List.mem_of_getElem? hsource)
    rw [heta] at hnow hsoon
    rw [hsame]
    exact ⟨hnow, hsoon, hpoint, hkm⟩

theorem minutes_le {eta : Instant} (hsoon : eta ≤ now + maxHorizon) :
    max (roundHalfEven ((eta - now) / 60)) 0 ≤ 180 := by
  have hhorizon : maxHorizon = 180 * 60 := by
    unfold maxHorizon
    norm_num
  have hle : (eta - now) / 60 ≤ ((180 : ℤ) : ℚ) := by
    rw [div_le_iff₀ (by norm_num)]
    push_cast
    linarith
  have hround := roundHalfEven_mono hle
  rw [roundHalfEven_intCast] at hround
  exact max_le hround (by decide)

end

section
variable {globe : Globe}

/-- **Whatever a pass estimates can be written so that it is read back.** -/
theorem etaPayload_plain (l : SizedPass) (position : Option Point) (progress : Option Progress)
    (actualStart : Instant) (speedKmh : Option ℚ) {arrivals : List Arrival}
    (h : estimateArrivals globe l.pass.points position progress actualStart speedKmh l.pass.now =
      .ok arrivals) : (etaPayload l.pass arrivals).Plain := by
  obtain ⟨-, rfl⟩ := estimateArrivals_eq_ok.mp h
  intro entry hentry
  obtain ⟨a, ha, rfl⟩ := List.mem_map.mp hentry
  obtain ⟨-, hsoon, ⟨point, hpoint, hseq⟩, km, hkm⟩ := arrival_bounds ha
  refine ⟨?_, short_of_le (le_max_right _ _) (minutes_le hsoon), roundHalfEven (km * 100), ?_⟩
  · change Short a.seq
    rw [← hseq]
    exact l.columns point hpoint
  · exact hkm

/-- What a pass saves is the seq of a stop. -/
theorem advanced_short (l : SizedPass) {progress : Option Progress} {advanced : Progress}
    (h : advanceProgress globe l.pass.points (recentFixes l.pass.search) progress = some advanced)
    (hnew : some advanced ≠ progress) : Short advanced.seq := by
  have hreached := @reached_advanceProgress globe l.pass.points (recentFixes l.pass.search) progress
  rw [h] at hreached
  rcases hreached.grounded with hsame | ⟨reached, hsome, -, fix, -, point, hpoint, -, hseq⟩
  · exact absurd hsame hnew
  · obtain rfl := Option.some.inj hsome
    exact hseq ▸ l.columns point hpoint

end

/-! ## §5 What is seen of a run -/

section
variable {py : Interpreter} {u : Uuids} {cal : Calendar} {globe : Globe}

theorem etaSeen_put_progress (redis : RedisTexts) (tripId : TripId)
    (entry : Option (Expiring RedisValue)) :
    (etaSeen py u cal (redis.put (tripProgressKey u tripId).text entry)).eta =
      (etaSeen py u cal redis).eta := by
  refine Codec.view_put_other _ (fun id h => ?_) redis entry
  have hfamily : KeyFamily.tripEta = .tripProgress :=
    congrArg RedisKey.family (RedisKey.text_injective h)
  cases hfamily

theorem etaSeen_put_eta (redis : RedisTexts) (tripId : TripId)
    (entry : Option (Expiring RedisValue)) :
    (etaSeen py u cal (redis.put (tripEtaKey u tripId).text entry)).progress =
      (etaSeen py u cal redis).progress := by
  refine Codec.view_put_other _ (fun id h => ?_) redis entry
  have hfamily : KeyFamily.tripProgress = .tripEta :=
    congrArg RedisKey.family (RedisKey.text_injective h)
  cases hfamily

theorem loadProgress_seen (redis : RedisTexts) (tripId : TripId) (call : RedisCall) :
    loadProgress (etaSeen py u cal redis) tripId call =
      loadProgressText py u cal redis tripId call := by
  unfold loadProgress loadProgressText
  rw [etaSeen, Codec.get_view]
  rfl

theorem saveProgress_seen {progress : Progress} (h : Short progress.seq) (redis : RedisTexts)
    (tripId : TripId) (call : RedisCall) :
    saveProgress (etaSeen py u cal redis) tripId progress call =
      etaSeen py u cal (saveProgressText py u cal redis tripId progress call) := by
  unfold saveProgress saveProgressText
  split
  · have hset := (progressCodec py u cal).view_set
      (stringsOf_read (Progress.fromJson_toJson h)) redis call.time tripId etaTtlS
    have hother := @etaSeen_put_progress py u cal redis tripId
      (some ⟨.str (progress.toJson py cal), call.time + etaTtlS⟩)
    exact congrArg₂ EtaStore.mk hset.symm hother.symm
  · rfl

theorem trackProgress_seen (redis : RedisTexts) (l : SizedPass) :
    trackProgress globe (etaSeen py u cal redis) l.pass =
      (etaSeen py u cal (trackProgressText py u cal globe redis l.pass).1,
        (trackProgressText py u cal globe redis l.pass).2) := by
  unfold trackProgress trackProgressText
  rw [loadProgress_seen]
  dsimp only
  by_cases hfixes : recentFixes l.pass.search = []
  · rw [if_pos hfixes, if_pos hfixes]
  · rw [if_neg hfixes, if_neg hfixes]
    cases hadvanced : advanceProgress globe l.pass.points (recentFixes l.pass.search)
      (loadProgressText py u cal redis l.pass.trip.id l.pass.load) with
    | none => rfl
    | some advanced =>
        dsimp only
        by_cases hsame : some advanced =
            loadProgressText py u cal redis l.pass.trip.id l.pass.load
        · rw [if_pos hsame, if_pos hsame]
        · rw [if_neg hsame, if_neg hsame, saveProgress_seen (advanced_short l hadvanced hsame)]

theorem publishArrivals_seen (redis : RedisTexts) (pass : EtaPass) (arrivals : List Arrival)
    (h : (etaPayload pass arrivals).Plain) :
    { etaSeen py u cal redis with
        eta := publishArrivals (etaSeen py u cal redis).eta pass arrivals } =
      etaSeen py u cal (publishArrivalsText py u cal redis pass arrivals) := by
  unfold publishArrivals publishArrivalsText
  split
  · have hset := (etaCodec py u cal).view_set
      (stringsOf_read (EtaPayload.fromJson_toJson h)) redis pass.publish.time pass.trip.id etaTtlS
    have hother := @etaSeen_put_eta py u cal redis pass.trip.id
      (some ⟨.str ((etaPayload pass arrivals).toJson py u cal), pass.publish.time + etaTtlS⟩)
    exact congrArg₂ EtaStore.mk hother.symm hset.symm
  · rfl

/-- One pass over texts does to what is seen what it does over values. -/
theorem computeForTrip_seen (redis : RedisTexts) (l : SizedPass) :
    (computeForTrip globe (etaSeen py u cal redis) l.pass).store =
      etaSeen py u cal (engineTextStep py u cal globe redis l) := by
  have htrack := @trackProgress_seen py u cal globe redis l
  unfold computeForTrip engineTextStep computeForTripText
  cases hpoints : l.pass.points with
  | nil => rfl
  | cons point points =>
      cases hstart : l.pass.trip.actualStart with
      | none => rfl
      | some actualStart =>
          dsimp only
          rw [htrack, ← hpoints]
          dsimp only
          cases hestimated : estimateArrivals globe l.pass.points
              ((recentFixes l.pass.search).getLast?.map Fix.point)
              (trackProgressText py u cal globe redis l.pass).2 actualStart
              (rollingSpeedKmh globe (recentFixes l.pass.search) l.pass.now) l.pass.now with
          | error e => rfl
          | ok arrivals =>
              exact publishArrivals_seen _ _ _ (etaPayload_plain l _ _ _ _ hestimated)

theorem redisDisturb_seen (redis : RedisTexts)
    (o : ForeignWrite [.tripProgress, .tripEta]) :
    etaSeen py u cal (redisDisturb redis o) = etaSeen py u cal redis :=
  congrArg₂ EtaStore.mk (stringsOf_foreign u List.mem_cons_self _ _ o redis)
    (stringsOf_foreign u (List.mem_cons_of_mem _ List.mem_cons_self) _ _ o redis)

/-- The engine among the others. -/
def engineAmong (py : Interpreter) (u : Uuids) (cal : Calendar) (globe : Globe) :
    RedisTexts → SizedPass ⊕ ForeignWrite [.tripProgress, .tripEta] → RedisTexts :=
  amongStep (engineTextStep py u cal globe) redisDisturb

/-- The engine over values. -/
def engineStep (globe : Globe) (s : EtaStore) (l : SizedPass) : EtaStore :=
  (computeForTrip globe s l.pass).store

theorem engine_seen_run (redis : RedisTexts)
    (labels : List (SizedPass ⊕ ForeignWrite [.tripProgress, .tripEta])) :
    etaSeen py u cal (run (engineAmong py u cal globe) redis labels) =
      run (engineStep globe) (etaSeen py u cal redis) (ownSteps labels) :=
  seen_run _ (fun redis l => (computeForTrip_seen redis l).symm) redisDisturb_seen redis labels

/-! ## §6 The readers -/

/-- Under the arrivals keys there is nothing but what the engine writes. -/
def EtaWritten (py : Interpreter) (u : Uuids) (cal : Calendar) (redis : RedisTexts) : Prop :=
  ∀ tripId e, redis (tripEtaKey u tripId).text = some e →
    ∃ payload : EtaPayload, payload.Plain ∧ e.value = .str (payload.toJson py u cal)

theorem EtaWritten.put_other {redis : RedisTexts} (h : EtaWritten py u cal redis) {key : RedisKey}
    (hkey : key.family ≠ .tripEta) (entry : Option (Expiring RedisValue)) :
    EtaWritten py u cal (redis.put key.text entry) := by
  intro tripId e he
  rw [KeyValues.put_of_ne] at he
  · exact h tripId e he
  · intro heq
    exact hkey (congrArg RedisKey.family (RedisKey.text_injective heq)).symm

theorem EtaWritten.put_payload {redis : RedisTexts} (h : EtaWritten py u cal redis)
    (tripId : TripId) {payload : EtaPayload} (hpayload : payload.Plain) (deadline : ℚ) :
    EtaWritten py u cal (redis.put (tripEtaKey u tripId).text
      (some ⟨.str (payload.toJson py u cal), deadline⟩)) := by
  intro tripId' e he
  by_cases hkey : (tripEtaKey u tripId').text = (tripEtaKey u tripId).text
  · rw [hkey, KeyValues.put_self] at he
    obtain rfl := Option.some.inj he
    exact ⟨payload, hpayload, rfl⟩
  · rw [KeyValues.put_of_ne hkey] at he
    exact h tripId' e he

theorem trackProgressText_written {redis : RedisTexts} (h : EtaWritten py u cal redis)
    (pass : EtaPass) : EtaWritten py u cal (trackProgressText py u cal globe redis pass).1 := by
  unfold trackProgressText
  dsimp only
  split
  · exact h
  · split
    · exact h
    · split
      · exact h
      · unfold saveProgressText
        split
        · have hkey : (tripProgressKey u pass.trip.id).family ≠ .tripEta := by
            rintro ⟨⟩
          exact h.put_other hkey _
        · exact h

theorem engineTextStep_written {redis : RedisTexts} (h : EtaWritten py u cal redis)
    (l : SizedPass) : EtaWritten py u cal (engineTextStep py u cal globe redis l) := by
  have htrack := @trackProgressText_written py u cal globe redis h l.pass
  unfold engineTextStep computeForTripText
  cases hpoints : l.pass.points with
  | nil => exact h
  | cons point points =>
      cases hstart : l.pass.trip.actualStart with
      | none => exact h
      | some actualStart =>
          dsimp only
          rw [← hpoints]
          split
          · exact htrack
          · rename_i arrivals hok
            unfold publishArrivalsText
            split
            · exact htrack.put_payload _ (etaPayload_plain l _ _ _ _ hok) _
            · exact htrack

theorem engineAmong_written {redis : RedisTexts} (h : EtaWritten py u cal redis)
    (label : SizedPass ⊕ ForeignWrite [.tripProgress, .tripEta]) :
    EtaWritten py u cal (engineAmong py u cal globe redis label) := by
  cases label with
  | inl l => exact engineTextStep_written h l
  | inr o =>
      refine h.put_other (fun heta => o.foreign ?_) o.entry
      rw [heta]
      exact List.mem_cons_of_mem _ List.mem_cons_self

end

section
variable (py : Interpreter) (u : Uuids) (cal : Calendar)

/-- `_cached_eta`: an error of Redis, no text and a text that is no JSON all
read as no arrivals. -/
def cachedEtaText (redis : RedisTexts) (tripId : TripId) (call : RedisCall) :
    Except PyError (Option JsonValue) :=
  if call.outcome.heard then
    match (redis.get call.time (tripEtaKey u tripId).text).bind RedisValue.getText with
    | none | some [] => .ok none
    | some raw => excepting [.valueError] none ((loads py.depth raw).map some)
  else .ok none

/-- `trip_eta`. -/
def tripEtaText (redis : RedisTexts) (tripId : TripId) (call : RedisCall) (now : Instant) :
    Reply EtaPayload :=
  match cachedEtaText py u redis tripId call with
  | .error _ => .crashed
  | .ok none => .refused 404 "No arrival estimate for this trip yet"
  | .ok (some cached) =>
      match EtaPayload.ofJson u cal cached with
      | .error _ => .crashed
      | .ok out => .ok (restateMinutes out now)

/-- The reply of the pipeline's `GET` that the maps read. -/
def etaReply (redis : RedisTexts) (tripId : TripId) (time : Instant) : FleetView.RedisValue :=
  .ofText ((redis.get time (tripEtaKey u tripId).text).bind RedisValue.getText)

end

section
variable {py : Interpreter} {u : Uuids} {cal : Calendar}

/-- Of a key that the engine writes there is nothing, or a payload. -/
theorem EtaWritten.get_cases {redis : RedisTexts} (h : EtaWritten py u cal redis)
    (tripId : TripId) (time : Instant) :
    (redis.get time (tripEtaKey u tripId).text = none ∧
      (etaSeen py u cal redis).eta.get time tripId = none) ∨
    ∃ payload : EtaPayload, payload.Plain ∧
      redis.get time (tripEtaKey u tripId).text = some (.str (payload.toJson py u cal)) ∧
      (etaSeen py u cal redis).eta.get time tripId = some payload := by
  have hview : (etaSeen py u cal redis).eta.get time tripId =
      (redis.get time (tripEtaKey u tripId).text).bind (etaCodec py u cal).read :=
    (etaCodec py u cal).get_view redis time tripId
  rw [hview]
  cases hget : redis.get time (tripEtaKey u tripId).text with
  | none => exact Or.inl ⟨rfl, rfl⟩
  | some value =>
      obtain ⟨deadline, hentry, -⟩ := KeyValues.get_eq_some.mp hget
      obtain ⟨payload, hplain, hvalue⟩ := h tripId _ hentry
      obtain rfl : value = .str (payload.toJson py u cal) := hvalue
      exact Or.inr ⟨payload, hplain, rfl,
        stringsOf_read (EtaPayload.fromJson_toJson hplain)⟩

theorem EtaPayload.toJson_cons (payload : EtaPayload) :
    ∃ c rest, payload.toJson py u cal = c :: rest := by
  unfold EtaPayload.toJson EtaPayload.items
  rw [dumps]
  exact ⟨_, _, rfl⟩

/-- A student's request over texts is the request over values. -/
theorem tripEtaText_seen {redis : RedisTexts} (h : EtaWritten py u cal redis) (tripId : TripId)
    (call : RedisCall) (now : Instant) :
    tripEtaText py u cal redis tripId call now =
      tripEta (etaSeen py u cal redis) tripId call now := by
  unfold tripEtaText tripEta cachedEtaText cachedEta
  by_cases hheard : call.outcome.heard = true
  · rw [if_pos hheard, if_pos hheard]
    rcases h.get_cases tripId call.time with ⟨hnone, hseen⟩ | ⟨payload, hplain, hget, hseen⟩
    · rw [hnone, hseen]
      rfl
    · have hload := @EtaPayload.loads_toJson py u cal payload hplain
      have hread := @EtaPayload.ofJson_items u cal payload
      obtain ⟨c, rest, hcons⟩ := @EtaPayload.toJson_cons py u cal payload
      rw [hcons] at hget hload
      rw [hget, hseen]
      simp only [Option.bind_some, RedisValue.getText, hload, Except.map, excepting, hread]
  · rw [if_neg hheard, if_neg hheard]

theorem items_get_arrivals (payload : EtaPayload) :
    (JsonValue.dict (payload.items u cal)).get "arrivals".toList =
      .ok (.list (payload.arrivals.map fun a => .dict (a.items u cal))) := rfl

theorem firstEta_items (a : EtaEntry) (rest : List JsonValue) :
    FleetView.firstEta cal.fromisoformat (.list (.dict (a.items u cal) :: rest)) =
      .ok (some ⟨false, a.eta⟩) := by
  have heta : (JsonValue.dict (a.items u cal)).item "eta".toList =
      .ok (.str (cal.isoformat a.eta)) := rfl
  unfold FleetView.firstEta
  simp only [JsonValue.first, bind, Except.bind, heta, cal.fromisoformat_isoformat, orValueError,
    Except.map, excepting]

/-- A board's minutes over texts are the minutes of the payload. -/
theorem nextStopMinutes_seen {redis : RedisTexts} (h : EtaWritten py u cal redis) (tripId : TripId)
    (time now : Instant) :
    FleetView.nextStopMinutes cal.fromisoformat py.depth (etaReply u redis tripId time) now =
      .ok (nextStopMinutes ((etaSeen py u cal redis).eta.get time tripId) now) := by
  unfold etaReply
  rcases h.get_cases tripId time with ⟨hnone, hseen⟩ | ⟨payload, hplain, hget, hseen⟩
  · rw [hnone, hseen]
    rfl
  · have hload := @EtaPayload.loads_toJson py u cal payload hplain
    have harrivals := @items_get_arrivals u cal payload
    obtain ⟨c, rest, hcons⟩ := @EtaPayload.toJson_cons py u cal payload
    rw [hcons] at hget hload
    rw [hget, hseen]
    unfold FleetView.nextStopMinutes FleetView.cachedArrivals nextStopMinutes
    simp only [Option.bind_some, RedisValue.getText, FleetView.RedisValue.ofText,
      FleetView.RedisValue.truthy, List.isEmpty_cons, Bool.not_false, Bool.true_eq_false, if_false,
      FleetView.loadsReply, hload, bind, Except.bind, harrivals, excepting]
    cases payload.arrivals with
    | nil => rfl
    | cons a arrivals =>
        have hfirst := @firstEta_items u cal a
          (arrivals.map fun a => .dict (a.items u cal))
        simp only [List.map_cons, JsonValue.truthy, List.isEmpty_cons, Bool.not_false, if_true,
          hfirst, Option.map_some, List.head?_cons]

end

/-- **What the engine wrote is what every reader tells**: in a Redis where
nobody else writes under the engine's keys, over any run of passes and of other
commands, the requests and the boards that read the texts answer what they
would over the values that the passes compute. -/
theorem eta_readers_agree (py : Interpreter) (u : Uuids) (cal : Calendar) (globe : Globe)
    (redis : RedisTexts) (hstart : EtaWritten py u cal redis)
    (labels : List (SizedPass ⊕ ForeignWrite [.tripProgress, .tripEta])) :
    let texts := run (engineAmong py u cal globe) redis labels
    let values := run (engineStep globe) (etaSeen py u cal redis) (ownSteps labels)
    (∀ tripId call now, tripEtaText py u cal texts tripId call now =
      tripEta values tripId call now) ∧
    ∀ tripId time now,
      FleetView.nextStopMinutes cal.fromisoformat py.depth (etaReply u texts tripId time) now =
        .ok (nextStopMinutes (values.eta.get time tripId) now) := by
  have hwritten : EtaWritten py u cal (run (engineAmong py u cal globe) redis labels) :=
    @run_of_step _ _ (engineAmong py u cal globe) (EtaWritten py u cal)
      (fun _ label h => engineAmong_written h label) redis hstart labels
  have hseen := @engine_seen_run py u cal globe redis labels
  dsimp only
  rw [← hseen]
  exact ⟨tripEtaText_seen hwritten, nextStopMinutes_seen hwritten⟩

/-- A Redis that was just started. -/
theorem etaWritten_empty (py : Interpreter) (u : Uuids) (cal : Calendar) :
    EtaWritten py u cal (.empty Text RedisValue) := by
  rintro tripId e ⟨⟩

theorem twoStops_short : ∀ point ∈ twoStops, Short point.seq := by
  intro point hpoint
  have hseqs : ∀ point ∈ twoStops, 0 ≤ point.seq ∧ point.seq ≤ 180 := by decide
  exact short_of_le (hseqs point hpoint).1 (hseqs point hpoint).2

/-- A bus at the start of the road with the two stops, not seen moving yet. -/
def firstPass : SizedPass where
  pass := {
    trip := {
      id := 1
      routeId := 3
      busId := 2
      helperId := 4
      serviceDate := 0
      actualStart := some 0
      actualEnd := none
      status := .live }
    points := twoStops
    search := none
    now := 60
    load := ⟨60, .done⟩
    save := ⟨60, .done⟩
    publish := ⟨60, .done⟩ }
  columns := twoStops_short

theorem eta_readers_agree_firstPass :
    let texts := run (engineAmong plainInterpreter plainUuids plainCalendar straightRoad)
      (.empty Text RedisValue) [.inl firstPass]
    let values := run (engineStep straightRoad)
      (etaSeen plainInterpreter plainUuids plainCalendar (.empty Text RedisValue)) [firstPass]
    tripEtaText plainInterpreter plainUuids plainCalendar texts 1 ⟨90, .done⟩ 90 =
        tripEta values 1 ⟨90, .done⟩ 90 ∧
      FleetView.nextStopMinutes plainCalendar.fromisoformat plainInterpreter.depth
          (etaReply plainUuids texts 1 90) 90 =
        .ok (nextStopMinutes (values.eta.get 90 1) 90) := by
  have hagree := eta_readers_agree plainInterpreter plainUuids plainCalendar straightRoad
    (.empty Text RedisValue) (etaWritten_empty _ _ _) [.inl firstPass]
  exact ⟨hagree.1 1 ⟨90, .done⟩ 90, hagree.2 1 90 90⟩

end UniTrack
