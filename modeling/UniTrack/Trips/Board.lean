import UniTrack.Routes.Tracking
import UniTrack.Trips.Progress

/-!
# What the board still shows

A pass lists only stops ahead of the bus. What students read is the list of the
last pass that had one: a pass with nothing to list writes nothing, and what an
earlier pass wrote stays readable for half an hour.

## §1 The board
## §2 What a pass computes
## §3 One pass
## §4 Runs
-/

namespace UniTrack

open UniTrack.Framework UniTrack.Python

/-! ## §1 The board -/

/-- The store, with the end of each trip's last pass and how far that pass
found the bus to be. -/
structure EtaBoard where
  store : EtaStore
  last : TripId → Option (Instant × Int)

def boardPass (globe : Globe) (s : EtaBoard) (pass : EtaPass) : EtaBoard :=
  let result := computeForTrip globe s.store pass
  match result.handed with
  | none => ⟨result.store, s.last⟩
  | some progress => ⟨result.store,
      Function.update s.last pass.trip.id (some (pass.publish.time, reachedSeq progress))⟩

/-- From the end of a trip's last pass on, no payload read lists a stop at or
below the progress of that pass. -/
def NoServedStop (s : EtaBoard) : Prop :=
  ∀ tripId ended seq, s.last tripId = some (ended, seq) →
    ∀ call payload, ended ≤ call.time → cachedEta s.store tripId call = some payload →
      ∀ entry ∈ payload.arrivals, seq < entry.seq

/-- What students are told then lists none either. -/
theorem NoServedStop.told {s : EtaBoard} (h : NoServedStop s) {tripId : TripId}
    {ended now : Instant} {seq : Int} (hlast : s.last tripId = some (ended, seq)) {call : RedisCall}
    (hle : ended ≤ call.time) {out : EtaPayload} (hout : tripEta s.store tripId call now = .ok out) :
    ∀ entry ∈ out.arrivals, seq < entry.seq := by
  intro entry hentry
  obtain ⟨payload, hpayload, hseqs⟩ := tripEta_ok hout
  have hlisted : entry.seq ∈ payload.arrivals.map EtaEntry.seq := by
    rw [← hseqs]
    exact List.mem_map_of_mem hentry
  obtain ⟨listed, hmem, hsame⟩ := List.mem_map.mp hlisted
  rw [← hsame]
  exact h tripId ended seq hlast call payload hle hpayload listed hmem

/-- Redis carries out every command of the pass and answers it. -/
def EtaPass.RedisUp (pass : EtaPass) : Prop :=
  pass.load.outcome = .done ∧ pass.save.outcome = .done ∧ pass.publish.outcome = .done

/-- The record puts the bus at this stop or beyond, or some fix of the window
is at a stop that is. -/
def ServedBy (globe : Globe) (s : EtaStore) (pass : EtaPass) (seq : Int) : Prop :=
  seq ≤ reachedSeq (loadProgress s pass.trip.id pass.load) ∨
    ∃ passed, PassedBy globe pass.points (recentFixes pass.search) passed ∧ seq ≤ passed

/-- Where the record and the window put the bus. -/
def EtaPass.whereabouts (globe : Globe) (s : EtaStore) (pass : EtaPass) : Option Progress :=
  let progress := loadProgress s pass.trip.id pass.load
  let fixes := recentFixes pass.search
  if fixes = [] then progress else advanceProgress globe pass.points fixes progress

/-- Some stop ahead of the bus is expected within three hours, and no estimate
of the pass leads out of the calendar. -/
def ExpectedSoon (globe : Globe) (s : EtaStore) (pass : EtaPass) : Prop :=
  ∃ actualStart, pass.trip.actualStart = some actualStart ∧
    let fixes := recentFixes pass.search
    let progress := pass.whereabouts globe s
    EstimatesFit globe pass.points (fixes.getLast?.map Fix.point) progress actualStart
      (rollingSpeedKmh globe fixes pass.now) pass.now ∧
    ∃ index point, (remaining pass.points (reachedSeq progress))[index]? = some point ∧
      ∃ eta basis, expected
        (distancesAhead globe pass.points (fixes.getLast?.map Fix.point) progress)
        (measuredDelay pass.points progress actualStart) actualStart
        (rollingSpeedKmh globe fixes pass.now) pass.now index point = some (eta, basis) ∧
      eta ≤ pass.now + maxHorizon

/-- The pass has a stop to announce, or nothing readable at its end lists a stop
that the bus has served. -/
def Renewed (globe : Globe) (s : EtaBoard) (pass : EtaPass) : Prop :=
  pass.Idle ∨ ExpectedSoon globe s.store pass ∨
    ∀ payload, s.store.eta.get pass.publish.time pass.trip.id = some payload →
      ∀ entry ∈ payload.arrivals, ¬ ServedBy globe s.store pass entry.seq

/-! ## §2 What a pass computes -/

section
variable {globe : Globe} {s : EtaStore} {pass : EtaPass}

theorem trackProgress_snd : (trackProgress globe s pass).2 = pass.whereabouts globe s := by
  unfold trackProgress EtaPass.whereabouts
  dsimp only
  split
  · rfl
  · split
    · rename_i hnone
      exact hnone.symm
    · rename_i advanced hadvanced
      split
      · rename_i hsame
        exact (hadvanced.trans hsame).symm
      · exact hadvanced.symm

/-- A stop is served when it is not beyond the progress of the pass. -/
theorem servedBy_iff {seq : Int} :
    ServedBy globe s pass seq ↔ seq ≤ reachedSeq (trackProgress globe s pass).2 :=
  reached_trackProgress.le_iff.symm

theorem trackProgress_eta : (trackProgress globe s pass).1.eta = s.eta := by
  rcases @trackProgress_cases globe s pass with ⟨hstore, -⟩ | ⟨advanced, -, -, hstore⟩
  · rw [hstore]
  · rw [hstore]
    unfold saveProgress
    split <;> rfl

/-- What a pass estimates, once its trip has started. -/
def EtaPass.estimated (globe : Globe) (s : EtaStore) (pass : EtaPass) (actualStart : Instant) :
    Except Uncaught (List Arrival) :=
  let fixes := recentFixes pass.search
  estimateArrivals globe pass.points (fixes.getLast?.map Fix.point) (pass.whereabouts globe s)
    actualStart (rollingSpeedKmh globe fixes pass.now) pass.now

/-- The arrivals it has to write: none when the estimate raises. -/
def EtaPass.arrivals (globe : Globe) (s : EtaStore) (pass : EtaPass) (actualStart : Instant) :
    List Arrival :=
  (pass.estimated globe s actualStart).toOption.getD []

theorem estimated_of_arrivals {actualStart : Instant} (h : pass.arrivals globe s actualStart ≠ []) :
    pass.estimated globe s actualStart = .ok (pass.arrivals globe s actualStart) := by
  unfold EtaPass.arrivals at h ⊢
  cases hestimated : pass.estimated globe s actualStart with
  | error e =>
      rw [hestimated] at h
      exact absurd rfl h
  | ok arrivals => rfl

/-- What is written are the repaired estimates. -/
theorem arrivals_eq_ahead {actualStart : Instant} (h : pass.arrivals globe s actualStart ≠ []) :
    pass.arrivals globe s actualStart =
      arrivalsAhead globe pass.points ((recentFixes pass.search).getLast?.map Fix.point)
        (pass.whereabouts globe s) actualStart
        (rollingSpeedKmh globe (recentFixes pass.search) pass.now) pass.now :=
  (estimateArrivals_eq_ok.mp (estimated_of_arrivals h)).2.symm

theorem computeForTrip_eta {actualStart : Instant} (hpoints : pass.points ≠ [])
    (hstart : pass.trip.actualStart = some actualStart) :
    (computeForTrip globe s pass).store.eta =
      publishArrivals s.eta pass (pass.arrivals globe s actualStart) := by
  unfold computeForTrip EtaPass.arrivals EtaPass.estimated
  rw [hstart]
  split
  · rename_i hnone
    exact absurd hnone hpoints
  · rename_i hnone _
    cases hnone
  · rename_i hsome _
    cases hsome
    dsimp only
    rw [trackProgress_snd]
    split
    · rename_i hraised
      rw [hraised, trackProgress_eta]
      exact (if_neg fun h => absurd rfl h.1).symm
    · rename_i arrivals hestimated
      rw [hestimated, trackProgress_eta]
      rfl

theorem arrivals_unserved {actualStart : Instant} {arrival : Arrival}
    (h : arrival ∈ pass.arrivals globe s actualStart) : ¬ ServedBy globe s pass arrival.seq := by
  rw [servedBy_iff, trackProgress_snd, not_le]
  rw [arrivals_eq_ahead (List.ne_nil_of_mem h)] at h
  exact arrivalsAhead_beyond h

/-- There is nothing to list exactly when no stop ahead is expected soon. -/
theorem arrivals_eq_nil {actualStart : Instant} (hstart : pass.trip.actualStart = some actualStart) :
    pass.arrivals globe s actualStart = [] ↔ ¬ ExpectedSoon globe s pass := by
  constructor
  · rintro hnil ⟨actualStart', hstart', hfits, index, point, hpoint, eta, basis, hexpected, hsoon⟩
    obtain rfl := Option.some.inj (hstart.symm.trans hstart')
    have hestimated := estimateArrivals_eq_ok.mpr ⟨hfits, rfl⟩
    unfold EtaPass.arrivals EtaPass.estimated at hnil
    dsimp only at hnil
    rw [hestimated] at hnil
    have hlate := arrivalsAhead_eq_nil.mp hnil index point hpoint eta basis hexpected
    exact absurd hsoon (not_le.mpr hlate)
  · intro h
    by_contra hsome
    obtain ⟨hfits, harrivals⟩ := estimateArrivals_eq_ok.mp (estimated_of_arrivals hsome)
    rw [← harrivals] at hsome
    apply hsome
    rw [arrivalsAhead_eq_nil]
    intro index point hpoint eta basis hexpected
    by_contra hlate
    exact h ⟨actualStart, hstart, hfits, index, point, hpoint, eta, basis, hexpected,
      not_lt.mp hlate⟩

end

/-! ## §3 One pass -/

section
variable {globe : Globe} {s : EtaBoard} {pass : EtaPass}

/-- A pass that estimates nothing, or one that does, for its trip and for the others. -/
theorem boardPass_cases :
    (pass.Idle ∧ boardPass globe s pass = s) ∨
    (¬ pass.Idle ∧ (boardPass globe s pass).last = Function.update s.last pass.trip.id
      (some (pass.publish.time, reachedSeq (pass.whereabouts globe s.store)))) := by
  unfold boardPass
  dsimp only
  rcases @computeForTrip_cases globe s.store pass with ⟨hidle, hnone, hstore⟩ | ⟨hbusy, hsome, -⟩
  · rw [hnone, hstore]
    exact Or.inl ⟨hidle, rfl⟩
  · rw [hsome, trackProgress_snd]
    exact Or.inr ⟨hbusy, rfl⟩

/-- What a pass that is not idle writes, for the trip's own arrivals. -/
theorem boardPass_eta (hbusy : ¬ pass.Idle) :
    ∃ actualStart, pass.trip.actualStart = some actualStart ∧
      (boardPass globe s pass).store.eta =
        publishArrivals s.store.eta pass (pass.arrivals globe s.store actualStart) := by
  have hpoints : pass.points ≠ [] := fun h => hbusy (Or.inl h)
  have hstarted : pass.trip.actualStart ≠ none := fun h => hbusy (Or.inr h)
  obtain ⟨actualStart, hstart⟩ := Option.ne_none_iff_exists'.mp hstarted
  refine ⟨actualStart, hstart, ?_⟩
  rw [← computeForTrip_eta hpoints hstart]
  unfold boardPass
  dsimp only
  split <;> rfl

theorem publishArrivals_of_ne {eta : KeyValues TripId EtaPayload} {arrivals : List Arrival}
    {tripId : TripId} (h : tripId ≠ pass.trip.id) :
    publishArrivals eta pass arrivals tripId = eta tripId := by
  unfold publishArrivals
  split
  · exact KeyValues.set_of_ne h
  · rfl

/-- What a pass that was not idle leaves to be seen of its own trip decides. -/
theorem noServedStop_iff (hbusy : ¬ pass.Idle) (h : NoServedStop s) :
    NoServedStop (boardPass globe s pass) ↔
      ∀ t payload, pass.publish.time ≤ t →
        (boardPass globe s pass).store.eta.get t pass.trip.id = some payload →
          ∀ entry ∈ payload.arrivals, ¬ ServedBy globe s.store pass entry.seq := by
  rcases @boardPass_cases globe s pass with ⟨hidle, -⟩ | ⟨-, hlast⟩
  · exact absurd hidle hbusy
  · constructor
    · intro hafter t payload hle hread entry hentry
      have hown : (boardPass globe s pass).last pass.trip.id =
          some (pass.publish.time, reachedSeq (pass.whereabouts globe s.store)) := by
        rw [hlast, Function.update_self]
      have hlt := hafter _ _ _ hown ⟨t, .done⟩ payload hle
        (cachedEta_eq_some.mpr ⟨rfl, hread⟩) entry hentry
      rw [servedBy_iff, trackProgress_snd]
      exact not_le.mpr hlt
    · intro hown tripId ended seq htold call payload hle hread entry hentry
      obtain ⟨hheard, hread⟩ := cachedEta_eq_some.mp hread
      rw [hlast] at htold
      by_cases htrip : tripId = pass.trip.id
      · -- the pass's own trip: this is its last pass now
        subst htrip
        rw [Function.update_self] at htold
        obtain ⟨rfl, rfl⟩ := Prod.mk.inj (Option.some.inj htold)
        have hunserved := hown call.time payload hle hread entry hentry
        rw [servedBy_iff, trackProgress_snd] at hunserved
        exact not_le.mp hunserved
      · -- another trip: the pass writes under its own key only
        rw [Function.update_of_ne htrip] at htold
        obtain ⟨actualStart, -, heta⟩ := @boardPass_eta globe s pass hbusy
        unfold KeyValues.get at hread
        rw [heta, publishArrivals_of_ne htrip] at hread
        exact h _ _ _ htold call payload hle (cachedEta_eq_some.mpr ⟨hheard, hread⟩) entry hentry

/-- A pass keeps served stops off the board exactly when it renews what is there. -/
theorem noServedStop_step_iff (hredis : pass.RedisUp) (h : NoServedStop s) :
    NoServedStop (boardPass globe s pass) ↔ Renewed globe s pass := by
  by_cases hidle : pass.Idle
  · rcases @boardPass_cases globe s pass with ⟨-, hsame⟩ | ⟨hbusy, -⟩
    · rw [hsame]
      exact iff_of_true h (Or.inl hidle)
    · exact absurd hidle hbusy
  · obtain ⟨actualStart, hstart, heta⟩ := @boardPass_eta globe s pass hidle
    rw [noServedStop_iff hidle h, heta]
    unfold publishArrivals Renewed
    have happlied : pass.publish.outcome.applied = true := by rw [hredis.2.2]; rfl
    by_cases hsoon : ExpectedSoon globe s.store pass
    · have hsome : pass.arrivals globe s.store actualStart ≠ [] :=
        fun hnil => (arrivals_eq_nil hstart).mp hnil hsoon
      -- the key is overwritten, and by stops ahead of the bus only
      rw [if_pos ⟨hsome, happlied⟩]
      refine iff_of_true ?_ (Or.inr (Or.inl hsoon))
      intro t payload _ hread entry hentry
      obtain rfl := KeyValues.get_set_self hread
      obtain ⟨arrival, harrival, rfl⟩ := List.mem_map.mp hentry
      exact arrivals_unserved harrival
    · have hnil : pass.arrivals globe s.store actualStart = [] := (arrivals_eq_nil hstart).mpr hsoon
      -- nothing is written: what was readable stays so until it expires
      rw [if_neg fun hboth => hboth.1 hnil]
      constructor
      · intro hall
        exact Or.inr (Or.inr fun payload hread => hall _ payload (le_refl _) hread)
      · rintro (hbad | hbad | hleft)
        · exact absurd hbad hidle
        · exact absurd hbad hsoon
        · intro t payload hle hread
          exact hleft payload (KeyValues.get_of_le hle hread)

end

/-! ## §4 Runs -/

def emptyBoard : EtaBoard := ⟨⟨.empty TripId Progress, .empty TripId EtaPayload⟩, fun _ => none⟩

/-- **No served stop is still advertised** after any pass of any sequence of
passes, with Redis up, exactly when every pass renews what can be read. -/
theorem no_served_stop_iff_renewed (globe : Globe) (passes : List EtaPass)
    (hredis : ∀ pass ∈ passes, pass.RedisUp) :
    Always (boardPass globe) NoServedStop emptyBoard passes ↔
      Throughout (boardPass globe) (Renewed globe) emptyBoard passes := by
  refine always_iff_throughout (fun _ => True) ?_ ?_ trivial ?_ hredis
  · exact fun _ _ _ _ _ _ => trivial
  · exact fun s pass hup _ h => noServedStop_step_iff hup h
  · exact nofun

/-- The bus on its way to its last stop. -/
theorem no_served_stop_iff_renewed_underWay :
    Always (boardPass straightRoad) NoServedStop emptyBoard [passAt 15 5, passAt 16 6] ↔
      Throughout (boardPass straightRoad) (Renewed straightRoad) emptyBoard
        [passAt 15 5, passAt 16 6] := by
  refine no_served_stop_iff_renewed straightRoad _ ?_
  intro pass hpass
  rcases List.mem_cons.mp hpass with rfl | hpass
  · exact ⟨rfl, rfl, rfl⟩
  · rcases List.mem_cons.mp hpass with rfl | hpass
    · exact ⟨rfl, rfl, rfl⟩
    · cases hpass

/-- Half an hour in, the bus reaches its last stop. That pass has nothing left
to list, and the board goes on announcing the stop the bus is standing at. -/
theorem finished_route_is_still_announced :
    ¬ NoServedStop (run (boardPass straightRoad) emptyBoard [passAt 15 5, passAt 30 10]) := by
  intro h
  have hlast : (run (boardPass straightRoad) emptyBoard [passAt 15 5, passAt 30 10]).last 0 =
      some (1800, 3) := by
    decide +kernel
  have hread : (cachedEta (run (boardPass straightRoad) emptyBoard
      [passAt 15 5, passAt 30 10]).store 0 ⟨1800, .done⟩).map
        (fun payload => payload.arrivals.map EtaEntry.seq) = some [3] := by
    decide +kernel
  obtain ⟨payload, hpayload, hseqs⟩ := Option.map_eq_some_iff.mp hread
  have hentry : (3 : Int) ∈ payload.arrivals.map EtaEntry.seq := by
    rw [hseqs]
    exact List.mem_cons_self
  obtain ⟨entry, hmem, hthree⟩ := List.mem_map.mp hentry
  have hlt := h 0 1800 3 hlast ⟨1800, .done⟩ payload (le_refl _) hpayload entry hmem
  exact absurd hthree (ne_of_gt hlt)

end UniTrack
