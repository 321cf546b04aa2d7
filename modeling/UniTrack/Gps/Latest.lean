import UniTrack.Gps.History
import UniTrack.Services.Ops

/-!
# How late the latest is

The map shows, of each bus, one position and one count. A batch writes the
newest of its own fixes, a report itself, over whatever is there. So the hash
is the latest that is known exactly as long as nothing arrives behind what came
before it, and a phone that was offline sends what it has queued.

§1 is a request that nothing disturbs, §2 the run, §3 what one request writes,
§4 when it is the latest, §5 every run.
-/

namespace UniTrack

open UniTrack.Framework UniTrack.Python

/-! ## §1  A request that nothing disturbs -/

/-- The pipeline, every command carried out and answered. -/
def sendAll (s : GpsStore) : GpsPhase → GpsStore × Reply GpsAccepted
  | .sending _ _ commands accepted _ => (commands.foldl execute s, .ok accepted)
  | .replied reply => (s, reply)
  | _ => (s, .crashed)

/-- `ingest_gps`, once `get_active_trip` has answered with a live trip. -/
def ingestLive (w : Spelling) (now : Instant) (caller : HelperId) (active : ActiveTrip)
    (batch : GpsBatch) (s : GpsStore) : GpsStore × Reply GpsAccepted :=
  sendAll (s.tick now) (bindBatch w (s.tick now).trips.clock caller batch (.told (some active)))

/-- Command by command it is the same. -/
theorem sendAll_run (w : Spelling) (order : LatestEnd) (s : GpsStore) (caller : HelperId)
    (batch : GpsBatch) (commands : List GpsCommand) (accepted : GpsAccepted)
    {inputs : List TripInput} (hlength : inputs.length = commands.length + 1)
    (hdone : ∀ a ∈ inputs, a.redis = .done) :
    run (fun (state : GpsStore × GpsPhase) a => gpsStep w order state.1 state.2 a)
        (s, .sending caller batch commands accepted true) inputs =
      ((sendAll s (.sending caller batch commands accepted true)).1,
        .replied (sendAll s (.sending caller batch commands accepted true)).2) := by
  induction commands generalizing s inputs with
  | nil =>
      obtain ⟨a, rfl⟩ := List.length_eq_one_iff.mp hlength
      rfl
  | cons command commands ih =>
      cases inputs with
      | nil => cases hlength
      | cons a inputs =>
          have ha := hdone a List.mem_cons_self
          have hstep : gpsStep w order s (.sending caller batch (command :: commands) accepted true)
              a = (execute s command, .sending caller batch commands accepted true) := by
            simp [gpsStep, ha, CallOutcome.applied, CallOutcome.heard]
          rw [run_cons]
          dsimp only
          rw [hstep]
          exact ih _ (Nat.succ.inj hlength) fun a ha => hdone a (List.mem_cons_of_mem _ ha)

/-! ## §2  Batches and reports, one at a time -/

/-- A timestamp that was accepted for a bus in a trip. -/
structure Reading where
  busId : BusId
  tripId : TripId
  ts : Timestamp
deriving DecidableEq

/-- The two stores, with the fixes and the reports that were accepted. -/
structure LiveBoard where
  gps : GpsStore
  seats : SeatStore
  fixes : List Reading
  counts : List Reading

inductive LiveRequest where
  | batch (now : Instant) (caller : HelperId) (active : ActiveTrip) (batch : GpsBatch)
  | report (now : Instant) (caller : HelperId) (active : Option ActiveTrip) (body : SeatReportIn)

/-- The fixes of a batch, filed under the trip that accepted it. -/
def acceptedFixes (batch : GpsBatch) (accepted : GpsAccepted) : List Reading :=
  batch.points.map fun p => ⟨accepted.busId, accepted.tripId, p.ts⟩

def acceptedCount (active : Option ActiveTrip) (out : SeatStateOut) : List Reading :=
  active.toList.map fun trip => ⟨trip.busId, out.tripId, out.reportedAt⟩

def liveStep (w : Spelling) (s : LiveBoard) : LiveRequest → LiveBoard
  | .batch now caller active batch =>
      let (gps, reply) := ingestLive w now caller active batch s.gps
      match reply with
      | .ok accepted => { s with gps := gps, fixes := s.fixes ++ acceptedFixes batch accepted }
      | _ => { s with gps := gps }
  | .report now caller active body =>
      let (seats, reply) := reportSeats w now caller active body s.seats
      match reply with
      | .ok out => { s with seats := seats, counts := s.counts ++ acceptedCount active out }
      | _ => { s with seats := seats }

/-- The hash holds the largest timestamp accepted for the bus in the trip that
the hash names. -/
def IsLatest (w : Spelling) (log : List Reading) (busId : BusId) (tripText tsText : Text) : Prop :=
  ∃ latest ∈ log, latest.busId = busId ∧ w.uuid latest.tripId = tripText ∧
    w.isoformat latest.ts = some tsText ∧
    ∀ r ∈ log, r.busId = busId → r.tripId = latest.tripId → r.ts.instant ≤ latest.ts.instant

/-- The trip and the timestamp of the hash under `bus:{id}:pos`. -/
def GpsStore.shown (s : GpsStore) (busId : BusId) : Option (Text × Text) :=
  (s.positions busId).map fun e => (e.pos.tripId, e.pos.ts)

/-- The trip and the timestamp of the hash under `bus:{id}:seats`. -/
def SeatStore.shown (s : SeatStore) (busId : BusId) : Option (Text × Text) :=
  (s.seats busId).map fun e => (e.value.tripId, e.value.ts)

/-- Every bus with something accepted has a hash, and every hash is the latest. -/
structure ShowsLatest (w : Spelling) (log : List Reading) (shown : BusId → Option (Text × Text)) :
    Prop where
  present : ∀ r ∈ log, (shown r.busId).isSome = true
  latest : ∀ busId texts, shown busId = some texts → IsLatest w log busId texts.1 texts.2

structure UpToDate (w : Spelling) (s : LiveBoard) : Prop where
  positions : ShowsLatest w s.fixes s.gps.shown
  seats : ShowsLatest w s.counts s.seats.shown

/-- Nothing accepted for the bus in the trip is later. -/
def NotBehind (log : List Reading) (busId : BusId) (tripId : TripId) (ts : Timestamp) : Prop :=
  ∀ r ∈ log, r.busId = busId → r.tripId = tripId → r.ts.instant ≤ ts.instant

/-- If the request is accepted, its newest timestamp is not behind the ones
accepted before it. -/
def ArrivesInOrder (w : Spelling) (s : LiveBoard) : LiveRequest → Prop
  | .batch now caller active batch =>
      (∃ accepted, (ingestLive w now caller active batch s.gps).2 = .ok accepted) →
        ∀ newest, newestPoint batch.points = some newest →
          NotBehind s.fixes active.busId active.tripId newest.ts
  | .report now caller active body =>
      (∃ out, (reportSeats w now caller active body s.seats).2 = .ok out) →
        ∀ trip, active = some trip →
          NotBehind s.counts trip.busId trip.tripId (body.reportedAt.getD ⟨false, now⟩)

/-- Texts tell ids apart, and instants. -/
structure Spelling.Faithful (w : Spelling) : Prop where
  uuid : Function.Injective w.uuid
  isoformat : ∀ a b text, w.isoformat a = some text → w.isoformat b = some text →
    a.instant = b.instant

/-! ## §3  What one request writes -/

theorem newest_foldlM {ps : List GpsPointIn} {p newest : GpsPointIn}
    (h : ps.foldlM (fun best q =>
      if best.ts.naive ≠ q.ts.naive then none
      else if best.ts.instant < q.ts.instant then some q
      else some best) p = some newest) :
    newest ∈ p :: ps ∧ ∀ q ∈ p :: ps, q.ts.instant ≤ newest.ts.instant := by
  induction ps generalizing p with
  | nil =>
      cases h
      exact ⟨List.mem_cons_self, fun q hq => by rw [List.mem_singleton.mp hq]⟩
  | cons q ps ih =>
      rw [List.foldlM_cons] at h
      split at h
      · cases h
      · split at h
        · rename_i hlt
          obtain ⟨hmem, hmax⟩ := ih h
          refine ⟨List.mem_cons_of_mem _ hmem, ?_⟩
          intro r hr
          rcases List.mem_cons.mp hr with rfl | hr
          · exact le_trans hlt.le (hmax q List.mem_cons_self)
          · exact hmax r hr
        · rename_i hle
          obtain ⟨hmem, hmax⟩ := ih h
          constructor
          · rcases List.mem_cons.mp hmem with rfl | hmem
            · exact List.mem_cons_self
            · exact List.mem_cons_of_mem _ (List.mem_cons_of_mem _ hmem)
          · intro r hr
            rcases List.mem_cons.mp hr with rfl | hr
            · exact hmax r List.mem_cons_self
            · rcases List.mem_cons.mp hr with rfl | hr
              · exact le_trans (not_lt.mp hle) (hmax p List.mem_cons_self)
              · exact hmax r (List.mem_cons_of_mem _ hr)

/-- The newest point is one of the batch, and none is later. -/
theorem newestPoint_spec {points : List GpsPointIn} {newest : GpsPointIn}
    (h : newestPoint points = some newest) :
    newest ∈ points ∧ ∀ q ∈ points, q.ts.instant ≤ newest.ts.instant := by
  cases points with
  | nil => cases h
  | cons p ps => exact newest_foldlM h

/-- Fixes that go to the stream leave the positions. -/
theorem execute_xadds_positions (fixes : List GpsFields) (s : GpsStore) :
    ((fixes.map GpsCommand.xadd).foldl execute s).positions = s.positions := by
  induction fixes generalizing s with
  | nil => rfl
  | cons fields fixes ih =>
      rw [List.map_cons, List.foldl_cons, ih]
      rfl

/-- `HSET` and `EXPIRE` leave the new hash, with a full minute to live. -/
theorem placed_positions (s : GpsStore) (busId : BusId) (pos : PosHash) :
    (expirePosition (setPosition s busId pos) busId).positions =
      Function.update s.positions busId (some ⟨pos, some (s.trips.clock + posTtlS)⟩) := by
  unfold expirePosition setPosition
  simp only [Function.update_self, Option.map_some, Function.update_idem]
  congr 2
  cases s.positions busId with
  | none => rfl
  | some e =>
      cases hdeadline : e.deadline with
      | none => simp [hdeadline]
      | some deadline =>
          by_cases hlive : s.trips.clock < deadline
          · simp [hdeadline, hlive]
          · simp [hdeadline, hlive]

/-- The whole pipeline of a live bus. -/
theorem pipeline_positions (s : GpsStore) (busId : BusId) (pos : PosHash) (message : Text)
    (fixes : List GpsFields) :
    ((([.hset busId pos, .expire busId, .publish message] : List GpsCommand) ++
        fixes.map GpsCommand.xadd).foldl execute s).positions =
      Function.update s.positions busId (some ⟨pos, some (s.trips.clock + posTtlS)⟩) := by
  rw [List.foldl_append, execute_xadds_positions]
  exact placed_positions s busId pos

/-- **What an accepted batch leaves**: its newest fix under the bus of the
trip, whatever was there. -/
theorem ingestLive_cases (w : Spelling) (now : Instant) (caller : HelperId) (active : ActiveTrip)
    (batch : GpsBatch) (s : GpsStore) :
    (∃ newest pos deadline, newestPoint batch.points = some newest ∧
        (ingestLive w now caller active batch s).2 =
          .ok ⟨batch.points.length, active.busId, active.tripId⟩ ∧
        (ingestLive w now caller active batch s).1.positions =
          Function.update s.positions active.busId (some ⟨pos, some deadline⟩) ∧
        pos.tripId = w.uuid active.tripId ∧ w.isoformat newest.ts = some pos.ts) ∨
      (∀ accepted, (ingestLive w now caller active batch s).2 ≠ .ok accepted) ∧
        (ingestLive w now caller active batch s).1.positions = s.positions := by
  unfold ingestLive
  simp only [bindBatch]
  split
  · exact Or.inr ⟨nofun, rfl⟩
  · unfold fileUnder
    cases hcommands : gpsCommands w (s.tick now).trips.clock caller batch true active.busId
        active.tripId with
    | none => exact Or.inr ⟨nofun, rfl⟩
    | some commands =>
        left
        unfold gpsCommands at hcommands
        simp only [Option.bind_eq_bind, Option.bind_eq_some_iff, Option.pure_def,
          Option.some.injEq, if_true] at hcommands
        obtain ⟨newest, hnewest, map, hmap, fixes, -, rfl⟩ := hcommands
        unfold placing at hmap
        simp only [Option.bind_eq_bind, Option.bind_eq_some_iff, Option.pure_def,
          Option.some.injEq] at hmap
        obtain ⟨ts, hts, ingestedAt, -, rfl⟩ := hmap
        exact ⟨newest, ⟨_, _, _, _, ts, _, ingestedAt⟩, _, hnewest, rfl,
          pipeline_positions (s.tick now) active.busId _ _ fixes, rfl, hts⟩

/-- What a batch leaves in view. -/
theorem ingestLive_shown (w : Spelling) (now : Instant) (caller : HelperId) (active : ActiveTrip)
    (batch : GpsBatch) (s : GpsStore) :
    (∃ newest tsText, newestPoint batch.points = some newest ∧
        (ingestLive w now caller active batch s).2 =
          .ok ⟨batch.points.length, active.busId, active.tripId⟩ ∧
        (ingestLive w now caller active batch s).1.shown =
          Function.update s.shown active.busId (some (w.uuid active.tripId, tsText)) ∧
        w.isoformat newest.ts = some tsText) ∨
      (∀ accepted, (ingestLive w now caller active batch s).2 ≠ .ok accepted) ∧
        (ingestLive w now caller active batch s).1.shown = s.shown := by
  rcases ingestLive_cases w now caller active batch s with
    ⟨newest, pos, deadline, hnewest, hreply, hpositions, htrip, hts⟩ | ⟨hrefused, hpositions⟩
  · refine Or.inl ⟨newest, pos.ts, hnewest, hreply, ?_, hts⟩
    funext busId
    unfold GpsStore.shown
    rw [hpositions, ← htrip]
    by_cases hbus : busId = active.busId
    · rw [hbus, Function.update_self, Function.update_self]
      rfl
    · rw [Function.update_of_ne hbus, Function.update_of_ne hbus]
  · refine Or.inr ⟨hrefused, ?_⟩
    funext busId
    unfold GpsStore.shown
    rw [hpositions]

/-- What a report leaves in view. -/
theorem reportSeats_shown (w : Spelling) (now : Instant) (helperId : HelperId)
    (active : Option ActiveTrip) (body : SeatReportIn) (s : SeatStore) :
    (∃ trip out tsText, active = some trip ∧
        (reportSeats w now helperId active body s).2 = .ok out ∧
        (reportSeats w now helperId active body s).1.shown =
          Function.update s.shown trip.busId (some (w.uuid trip.tripId, tsText)) ∧
        out.tripId = trip.tripId ∧ out.reportedAt = body.reportedAt.getD ⟨false, now⟩ ∧
        w.isoformat out.reportedAt = some tsText) ∨
      (∀ out, (reportSeats w now helperId active body s).2 ≠ .ok out) ∧
        (reportSeats w now helperId active body s).1.shown = s.shown := by
  rcases reportSeats_cases w now helperId active body s with
    ⟨trip, out, hash, hactive, hreply, -, hseats, hout, hat, htrip, hts⟩ | ⟨hrefused, hsame⟩
  · refine Or.inl ⟨trip, out, hash.ts, hactive, hreply, ?_, hout, hat, hts⟩
    funext busId
    unfold SeatStore.shown
    rw [hseats, ← htrip]
    by_cases hbus : busId = trip.busId
    · rw [hbus, KeyValues.set_self, Function.update_self]
      rfl
    · rw [KeyValues.set_of_ne hbus, Function.update_of_ne hbus]
  · exact Or.inr ⟨hrefused, by rw [hsame]⟩

/-! ## §4  When it is the latest -/

section
variable {w : Spelling} {log added : List Reading} {busId : BusId} {tripId : TripId}
  {ts : Timestamp} {tripText tsText : Text}

/-- **The newest of what is added is the latest of all** exactly when nothing
before it was later. -/
theorem isLatest_append_iff (hw : w.Faithful)
    (hadded : ∀ r ∈ added, r.busId = busId ∧ r.tripId = tripId ∧ r.ts.instant ≤ ts.instant)
    (hmem : ⟨busId, tripId, ts⟩ ∈ added) (hts : w.isoformat ts = some tsText) :
    IsLatest w (log ++ added) busId (w.uuid tripId) tsText ↔ NotBehind log busId tripId ts := by
  constructor
  · rintro ⟨latest, -, hbus, htrip, htext, hmax⟩ r hr hrbus hrtrip
    obtain rfl := hw.uuid htrip
    rw [hw.isoformat ts latest.ts tsText hts htext]
    exact hmax r (List.mem_append_left _ hr) hrbus hrtrip
  · intro hbehind
    refine ⟨_, List.mem_append_right _ hmem, rfl, rfl, hts, ?_⟩
    intro r hr hrbus hrtrip
    rcases List.mem_append.mp hr with hr | hr
    · exact hbehind r hr hrbus hrtrip
    · exact (hadded r hr).2.2

/-- What is accepted for one bus says nothing of another. -/
theorem isLatest_append_other {other : BusId} (hother : other ≠ busId)
    (hadded : ∀ r ∈ added, r.busId = busId) :
    IsLatest w (log ++ added) other tripText tsText ↔ IsLatest w log other tripText tsText := by
  have hmem : ∀ r : Reading, r.busId = other → (r ∈ log ++ added ↔ r ∈ log) := by
    intro r hr
    rw [List.mem_append, or_iff_left]
    intro hin
    exact hother (hr.symm.trans (hadded r hin))
  constructor
  · rintro ⟨latest, hin, hbus, htrip, htext, hmax⟩
    refine ⟨latest, (hmem latest hbus).mp hin, hbus, htrip, htext, ?_⟩
    intro r hr hrbus
    exact hmax r ((hmem r hrbus).mpr hr) hrbus
  · rintro ⟨latest, hin, hbus, htrip, htext, hmax⟩
    refine ⟨latest, (hmem latest hbus).mpr hin, hbus, htrip, htext, ?_⟩
    intro r hr hrbus
    exact hmax r ((hmem r hrbus).mp hr) hrbus

/-- A hash that is written over keeps all hashes the latest exactly when the
new one is not behind. -/
theorem showsLatest_update_iff (added : List Reading) {shown : BusId → Option (Text × Text)}
    (hw : w.Faithful)
    (hshown : ShowsLatest w log shown)
    (hadded : ∀ r ∈ added, r.busId = busId ∧ r.tripId = tripId ∧ r.ts.instant ≤ ts.instant)
    (hmem : ⟨busId, tripId, ts⟩ ∈ added) (hts : w.isoformat ts = some tsText) :
    ShowsLatest w (log ++ added) (Function.update shown busId (some (w.uuid tripId, tsText))) ↔
      NotBehind log busId tripId ts := by
  rw [← isLatest_append_iff hw hadded hmem hts]
  constructor
  · intro h
    exact h.latest busId _ (Function.update_self _ _ _)
  · intro hlatest
    constructor
    · intro r hr
      by_cases hbus : r.busId = busId
      · rw [hbus, Function.update_self]
        rfl
      · rw [Function.update_of_ne hbus]
        rcases List.mem_append.mp hr with hr | hr
        · exact hshown.present r hr
        · exact absurd (hadded r hr).1 hbus
    · intro other texts htexts
      by_cases hother : other = busId
      · subst hother
        rw [Function.update_self] at htexts
        cases htexts
        exact hlatest
      · rw [Function.update_of_ne hother] at htexts
        exact (isLatest_append_other hother fun r hr => (hadded r hr).1).mpr
          (hshown.latest other texts htexts)

/-- A batch keeps both views the latest exactly when it arrives in order. -/
theorem batch_upToDate_iff (hw : w.Faithful) {s : LiveBoard} (h : UpToDate w s) (now : Instant)
    (caller : HelperId) (active : ActiveTrip) (batch : GpsBatch) :
    UpToDate w (liveStep w s (.batch now caller active batch)) ↔
      ArrivesInOrder w s (.batch now caller active batch) := by
  simp only [liveStep, ArrivesInOrder]
  rcases ingestLive_shown w now caller active batch s.gps with
    ⟨newest, tsText, hnewest, hreply, hshown, hts⟩ | ⟨hrefused, hshown⟩
  · obtain ⟨hin, hmax⟩ := newestPoint_spec hnewest
    have hiff := showsLatest_update_iff
      (acceptedFixes batch ⟨batch.points.length, active.busId, active.tripId⟩) hw h.positions
      (by
        intro r hr
        obtain ⟨p, hp, rfl⟩ := List.mem_map.mp hr
        exact ⟨rfl, rfl, hmax p hp⟩)
      (List.mem_map.mpr ⟨newest, hin, rfl⟩) hts
    rw [← hshown] at hiff
    rw [hreply]
    constructor
    · intro hafter _ newest' hnewest'
      rw [hnewest] at hnewest'
      cases hnewest'
      exact hiff.mp hafter.positions
    · intro horder
      exact ⟨hiff.mpr (horder ⟨_, rfl⟩ newest hnewest), h.seats⟩
  · refine iff_of_true ?_ fun ⟨accepted, haccepted⟩ => absurd haccepted (hrefused accepted)
    have hkept := h.positions
    rw [← hshown] at hkept
    cases hreply : (ingestLive w now caller active batch s.gps).2 with
    | ok accepted => exact absurd hreply (hrefused accepted)
    | refused code detail => exact ⟨hkept, h.seats⟩
    | crashed => exact ⟨hkept, h.seats⟩

/-- So does a report. -/
theorem report_upToDate_iff (hw : w.Faithful) {s : LiveBoard} (h : UpToDate w s) (now : Instant)
    (caller : HelperId) (active : Option ActiveTrip) (body : SeatReportIn) :
    UpToDate w (liveStep w s (.report now caller active body)) ↔
      ArrivesInOrder w s (.report now caller active body) := by
  simp only [liveStep, ArrivesInOrder]
  rcases reportSeats_shown w now caller active body s.seats with
    ⟨trip, out, tsText, rfl, hreply, hshown, hout, hat, hts⟩ | ⟨hrefused, hshown⟩
  · have hiff := showsLatest_update_iff (acceptedCount (some trip) out) hw h.seats
      (by
        intro r hr
        obtain rfl := List.mem_singleton.mp hr
        exact ⟨rfl, hout, le_refl _⟩)
      (List.mem_singleton.mpr (by rw [hout])) hts
    rw [← hshown] at hiff
    rw [hreply, ← hat]
    constructor
    · intro hafter _ trip' htrip'
      cases htrip'
      exact hiff.mp hafter.seats
    · intro horder
      exact ⟨h.positions, hiff.mpr (horder ⟨_, rfl⟩ trip rfl)⟩
  · refine iff_of_true ?_ fun ⟨out, hout⟩ => absurd hout (hrefused out)
    have hkept := h.seats
    rw [← hshown] at hkept
    cases hreply : (reportSeats w now caller active body s.seats).2 with
    | ok out => exact absurd hreply (hrefused out)
    | refused code detail => exact ⟨h.positions, hkept⟩
    | crashed => exact ⟨h.positions, hkept⟩

end

/-! ## §5  Every run -/

/-- **When the latest is the latest**: in a run of requests the hashes never
fall behind what was accepted exactly when no request does. -/
theorem latest_iff_in_order (w : Spelling) (hw : w.Faithful) (s : LiveBoard) (hs : UpToDate w s)
    (requests : List LiveRequest) :
    Always (liveStep w) (UpToDate w) s requests ↔
      Throughout (liveStep w) (ArrivesInOrder w) s requests := by
  apply always_iff_throughout (fun _ => True) (D := fun _ => True)
  · intros
    trivial
  · intro s request _ _ hs
    cases request with
    | batch now caller active batch => exact batch_upToDate_iff hw hs now caller active batch
    | report now caller active body => exact report_upToDate_iff hw hs now caller active body
  · trivial
  · exact hs
  · intros
    trivial

/-! A bus whose phone was offline for half a minute. -/

def tenOClock : Instant := 1784023200
def halfMinutePast : Instant := 1784023230

/-- The spellings of the two instants. -/
def twoInstants : Spelling where
  uuid := plainSpelling.uuid
  number := plainSpelling.number
  isoformat t :=
    if t = ⟨false, tenOClock⟩ then some ("2026-07-14T10:00".toList ++ ":00+00:00".toList)
    else if t = ⟨false, halfMinutePast⟩ then some ("2026-07-14T10:00".toList ++ ":30+00:00".toList)
    else none

theorem twoInstants_faithful : twoInstants.Faithful where
  uuid := by
    intro n m h
    exact Int.ofNat.inj (decimal_injective h)
  isoformat := by
    have hne : "2026-07-14T10:00".toList ++ ":00+00:00".toList ≠
        "2026-07-14T10:00".toList ++ ":30+00:00".toList := by decide
    intro a b text ha hb
    unfold twoInstants at ha hb
    dsimp only at ha hb
    split at ha
    · rename_i heqa
      split at hb
      · rename_i heqb
        rw [heqa, heqb]
      · split at hb
        · exact absurd (Option.some.inj (ha.trans hb.symm)) hne
        · cases hb
    · split at ha
      · rename_i heqa
        split at hb
        · exact absurd (Option.some.inj (hb.trans ha.symm)) hne
        · split at hb
          · rename_i heqb
            rw [heqa, heqb]
          · cases hb
      · cases ha

/-- One fix, taken at this instant. -/
def fixTakenAt (instant : Instant) : GpsBatch where
  busId := 9
  points := [{ onTheRoad 0 with ts := ⟨false, instant⟩ }]
  size := ⟨Nat.le_refl 1, by simp⟩

/-- A board with nothing on it. -/
def blankBoard : LiveBoard where
  gps := {
    trips := {
      db := { buses := [], routes := [], trips := .empty }
      cache := .empty _ _
      clock := 0 }
    positions := fun _ => none
    channel := []
    stream := .empty _ }
  seats := { catalog := .empty, reports := [], seats := .empty _ _ }
  fixes := []
  counts := []

theorem blankBoard_upToDate (w : Spelling) : UpToDate w blankBoard :=
  ⟨⟨by rintro r ⟨⟩, by rintro busId texts ⟨⟩⟩, ⟨by rintro r ⟨⟩, by rintro busId texts ⟨⟩⟩⟩

/-- The batch of this fix, sent half a minute past by helper 1 on trip 3. -/
def sentHalfMinutePast (instant : Instant) : LiveRequest :=
  .batch halfMinutePast 1 ⟨3, 9, 5⟩ (fixTakenAt instant)

theorem latest_iff_in_order_two :
    Always (liveStep twoInstants) (UpToDate twoInstants) blankBoard
      [sentHalfMinutePast tenOClock, sentHalfMinutePast halfMinutePast] := by
  refine (latest_iff_in_order twoInstants twoInstants_faithful blankBoard (blankBoard_upToDate _)
    _).mpr ⟨?_, ?_, trivial⟩
  · rintro _ newest _ r ⟨⟩
  · have hfixes : (liveStep twoInstants blankBoard (sentHalfMinutePast tenOClock)).fixes =
        [⟨9, 3, ⟨false, tenOClock⟩⟩] := by decide +kernel
    intro _ newest hnewest r hr _ _
    rw [hfixes] at hr
    obtain rfl := List.mem_singleton.mp hr
    obtain rfl := Option.some.inj hnewest
    decide +kernel

/-- The queued fix comes after the fresh one, and takes its place. -/
theorem queued_fix_moves_back :
    ¬ ∀ (w : Spelling) (s : LiveBoard) (requests : List LiveRequest), w.Faithful → UpToDate w s →
      Always (liveStep w) (UpToDate w) s requests := by
  intro h
  obtain ⟨-, hfirst, hsecond⟩ := h twoInstants blankBoard
    [sentHalfMinutePast halfMinutePast, sentHalfMinutePast tenOClock] twoInstants_faithful
    (blankBoard_upToDate _)
  have horder := (batch_upToDate_iff twoInstants_faithful hfirst halfMinutePast 1 ⟨3, 9, 5⟩
    (fixTakenAt tenOClock)).mp hsecond
  have hfixes : (liveStep twoInstants blankBoard (sentHalfMinutePast halfMinutePast)).fixes =
      [⟨9, 3, ⟨false, halfMinutePast⟩⟩] := by decide +kernel
  have hbehind := horder ⟨⟨1, 9, 3⟩, by decide +kernel⟩ _ rfl ⟨9, 3, ⟨false, halfMinutePast⟩⟩
    (by rw [hfixes]; exact List.mem_cons_self) rfl rfl
  revert hbehind
  decide +kernel

end UniTrack
