import UniTrack.Framework.Threads
import UniTrack.Services.Trip

/-!
# A trip that has ended stays ended

Starts, ends and lookups of any helpers share one cache entry each. An end
clears the entry after its commit; a lookup that read the trip before that
commit can still write it back after the clearing, and a clearing that fails
is not tried again.

## §1 Requests and the ends they came after
## §2 Stored trips
## §3 What the cache may name
## §4 Runs
-/

namespace UniTrack

open UniTrack.Framework UniTrack.Python

/-! ## §1 Requests and the ends they came after -/

/-- The store, with the trips whose end has been committed and answered. -/
structure Observed where
  store : TripStore
  closed : List TripId

/-- A request, with the trips that were closed when it began. -/
abbrev Watched := TripPhase × List TripId

def Observed.closing (s : Observed) : TripPhase → List TripId
  | .ended trip => trip.id :: s.closed
  | _ => s.closed

def Watched.since (p : Watched) (s : Observed) : List TripId :=
  match p.1 with
  | .arrived _ => s.closed
  | _ => p.2

def observe (s : Observed) (p : Watched) (a : TripInput) : Observed × Watched :=
  ({ store := (tripAdvance s.store p.1 a).1, closed := s.closing p.1 },
    ((tripAdvance s.store p.1 a).2, p.since s))

/-- No lookup returns a trip that was closed before it began. -/
def NoEndedTrip (w : World Observed Watched) : Prop :=
  ∀ t active since, w.threads t = (.told (some active), since) → active.tripId ∉ since

/-- The step does not leave a closed trip in the cache: what it caches is not
closed yet, and an end that fails to clear the cache finds its trip not there. -/
def Timely (s : Observed) (p : TripPhase) (a : TripInput) : Prop :=
  match p with
  | .started trip => a.redis.applied = true → trip.id ∉ s.closed
  | .found _ active => a.redis.applied = true → active.tripId ∉ s.closed
  | .ended trip => a.redis.applied = false → ∀ active,
      s.store.cache.get (max s.store.clock a.now) trip.helperId = some active →
        active.tripId ≠ trip.id
  | _ => True

/-! ## §2 Stored trips -/

def Belongs (db : FleetDb) (helperId : HelperId) (id : TripId) : Prop :=
  ∃ t ∈ db.trips, t.id = id ∧ t.helperId = helperId

def Over (db : FleetDb) (id : TripId) : Prop :=
  ∃ t ∈ db.trips, t.id = id ∧ t.status = .completed

/-- Trips stay stored under their helper, and stay over. -/
structure FleetDb.Later (db db' : FleetDb) : Prop where
  belongs : ∀ helperId id, Belongs db helperId id → Belongs db' helperId id
  completed : ∀ id, Over db id → Over db' id

theorem FleetDb.Later.refl (db : FleetDb) : db.Later db := ⟨fun _ _ h => h, fun _ h => h⟩

section
variable {db db' : FleetDb}

theorem Belongs.helper_unique {helperId helperId' : HelperId} {id : TripId}
    (h : Belongs db helperId id) (h' : Belongs db helperId' id) : helperId = helperId' := by
  obtain ⟨t, ht, hid, rfl⟩ := h
  obtain ⟨t', ht', hid', rfl⟩ := h'
  rw [FleetDb.trip_ext ht ht' (hid.trans hid'.symm)]

theorem not_over_of_live {t : Trip} (ht : t ∈ db.trips) (hlive : t.status = .live) :
    ¬ Over db t.id := by
  rintro ⟨u, hu, hid, hover⟩
  rw [FleetDb.trip_ext hu ht hid, hlive] at hover
  cases hover

theorem later_insert {trip : Trip} (h : ∀ t, t ∈ db'.trips ↔ t ∈ db.trips ∨ t = trip) :
    db.Later db' where
  belongs _ _ := by
    rintro ⟨t, ht, hkeys⟩
    exact ⟨t, (h t).mpr (Or.inl ht), hkeys⟩
  completed _ := by
    rintro ⟨t, ht, hkeys⟩
    exact ⟨t, (h t).mpr (Or.inl ht), hkeys⟩

theorem later_completeTrip (tripId : TripId) (actualEnd : Instant) :
    db.Later (db.completeTrip tripId actualEnd) where
  belongs _ _ := by
    rintro ⟨t, ht, hid, hhelper⟩
    refine ⟨_, FleetDb.mem_completeTrip.mpr ⟨t, ht, rfl⟩, ?_⟩
    split
    · exact ⟨hid, hhelper⟩
    · exact ⟨hid, hhelper⟩
  completed _ := by
    rintro ⟨t, ht, hid, hover⟩
    refine ⟨_, FleetDb.mem_completeTrip.mpr ⟨t, ht, rfl⟩, ?_⟩
    split
    · exact ⟨hid, rfl⟩
    · exact ⟨hid, hover⟩

theorem over_completeTrip {helperId : HelperId} {tripId : TripId} {actualEnd : Instant}
    (h : Belongs db helperId tripId) : Over (db.completeTrip tripId actualEnd) tripId := by
  obtain ⟨t, ht, hid, -⟩ := h
  refine ⟨_, FleetDb.mem_completeTrip.mpr ⟨t, ht, rfl⟩, ?_⟩
  rw [if_pos hid]
  exact ⟨hid, rfl⟩

end

/-! ## §3 What the cache may name -/

/-- Where a request may stand: it knows only stored trips, and a trip it is
about to return was not closed when it began. -/
def PhaseOk (s : Observed) (p : Watched) : Prop :=
  p.2 ⊆ s.closed ∧
    match p.1 with
    | .started trip => Belongs s.store.db trip.helperId trip.id
    | .ending trip => Belongs s.store.db trip.helperId trip.id
    | .ended trip => Belongs s.store.db trip.helperId trip.id ∧ Over s.store.db trip.id
    | .found helperId active =>
        Belongs s.store.db helperId active.tripId ∧ active.tripId ∉ p.2
    | .told (some active) => active.tripId ∉ p.2
    | _ => True

/-- The cache names stored trips, under their helpers, and while an entry can
still be read its trip is not closed. -/
structure StoreOk (s : Observed) : Prop where
  belongs : ∀ helperId e, s.store.cache helperId = some e →
    Belongs s.store.db helperId e.value.tripId
  clean : ∀ helperId e, s.store.cache helperId = some e → s.store.clock < e.deadline →
    e.value.tripId ∉ s.closed
  completed : ∀ id ∈ s.closed, Over s.store.db id

theorem PhaseOk.mono {s s' : Observed} {p : Watched} (hdb : s.store.db.Later s'.store.db)
    (hclosed : s.closed ⊆ s'.closed) (h : PhaseOk s p) : PhaseOk s' p := by
  obtain ⟨hsince, hphase⟩ := h
  refine ⟨List.Subset.trans hsince hclosed, ?_⟩
  obtain ⟨p, since⟩ := p
  cases p with
  | arrived request => trivial
  | started trip => exact hdb.belongs _ _ hphase
  | ending trip => exact hdb.belongs _ _ hphase
  | ended trip => exact ⟨hdb.belongs _ _ hphase.1, hdb.completed _ hphase.2⟩
  | missed helperId => trivial
  | found helperId active => exact ⟨hdb.belongs _ _ hphase.1, hphase.2⟩
  | answered reply => trivial
  | told active =>
      cases active with
      | none => trivial
      | some active => exact hphase

section
variable {s : Observed} {p : Watched} {a : TripInput}

/-- An entry that could not be read earlier cannot be read later. -/
theorem StoreOk.tick (h : StoreOk s) (now : Instant) :
    StoreOk { s with store := { s.store with clock := max s.store.clock now } } where
  belongs := h.belongs
  clean helperId e he hlive :=
    h.clean helperId e he (lt_of_le_of_lt (le_max_left _ _) hlive)
  completed := h.completed

theorem StoreOk.setDb {db : FleetDb} (h : StoreOk s) (hdb : s.store.db.Later db) :
    StoreOk { s with store := { s.store with db := db } } where
  belongs helperId e he := hdb.belongs _ _ (h.belongs helperId e he)
  clean := h.clean
  completed id hid := hdb.completed id (h.completed id hid)

theorem StoreOk.of_cachedTrip {helperId : HelperId} {redis : CallOutcome} {active : ActiveTrip}
    (h : StoreOk s) (hcached : cachedTrip s.store helperId redis = some active) :
    active.tripId ∉ s.closed := by
  unfold cachedTrip at hcached
  split at hcached
  · obtain ⟨deadline, he, hlive⟩ := KeyValues.get_eq_some.mp hcached
    exact h.clean helperId _ he hlive
  · cases hcached

theorem StoreOk.cacheActive {helperId : HelperId} {active : ActiveTrip} {redis : CallOutcome}
    (h : StoreOk s) (hbelongs : Belongs s.store.db helperId active.tripId)
    (hopen : redis.applied = true → active.tripId ∉ s.closed) :
    StoreOk { s with store := cacheActive s.store helperId active redis } := by
  unfold UniTrack.cacheActive
  cases hredis : redis.applied with
  | false => exact h
  | true =>
      refine ⟨?_, ?_, h.completed⟩
      · intro k e he
        by_cases hk : k = helperId
        · subst hk
          obtain rfl := Option.some.inj ((KeyValues.set_self ..).symm.trans he)
          exact hbelongs
        · exact h.belongs k e ((KeyValues.set_of_ne hk).symm.trans he)
      · intro k e he hlive
        by_cases hk : k = helperId
        · subst hk
          obtain rfl := Option.some.inj ((KeyValues.set_self ..).symm.trans he)
          exact hopen hredis
        · exact h.clean k e ((KeyValues.set_of_ne hk).symm.trans he) hlive

/-- Closing a trip: its helper's entry is gone, or does not name it. -/
theorem StoreOk.clear {trip : Trip} {redis : CallOutcome} (h : StoreOk s)
    (hbelongs : Belongs s.store.db trip.helperId trip.id) (hover : Over s.store.db trip.id)
    (hcleared : redis.applied = false → ∀ active,
      s.store.cache.get s.store.clock trip.helperId = some active → active.tripId ≠ trip.id) :
    StoreOk ⟨clearActiveTrip s.store trip.helperId redis, trip.id :: s.closed⟩ := by
  have hother : ∀ k e, s.store.cache k = some e → k ≠ trip.helperId → e.value.tripId ≠ trip.id := by
    intro k e he hk hid
    exact hk ((hid ▸ h.belongs k e he).helper_unique hbelongs)
  have hoverAll : ∀ id ∈ trip.id :: s.closed, Over s.store.db id := by
    intro id hid
    rcases List.mem_cons.mp hid with rfl | hid
    · exact hover
    · exact h.completed id hid
  unfold clearActiveTrip
  cases hredis : redis.applied with
  | false =>
      refine ⟨h.belongs, ?_, hoverAll⟩
      intro k e he hlive hmem
      rcases List.mem_cons.mp hmem with hid | hmem
      · by_cases hk : k = trip.helperId
        · subst hk
          exact hcleared hredis e.value (KeyValues.get_of_entry he hlive) hid
        · exact hother k e he hk hid
      · exact h.clean k e he hlive hmem
  | true =>
      have hkept : ∀ k e, s.store.cache.del trip.helperId k = some e →
          k ≠ trip.helperId ∧ s.store.cache k = some e := by
        intro k e he
        by_cases hk : k = trip.helperId
        · subst hk
          cases (KeyValues.del_self ..).symm.trans he
        · exact ⟨hk, (KeyValues.del_of_ne hk).symm.trans he⟩
      refine ⟨?_, ?_, hoverAll⟩
      · intro k e he
        exact h.belongs k e (hkept k e he).2
      · intro k e he hlive hmem
        obtain ⟨hk, he'⟩ := hkept k e he
        rcases List.mem_cons.mp hmem with hid | hmem
        · exact hother k e he' hk hid
        · exact h.clean k e he' hlive hmem

/-- What one step keeps. -/
structure StepOk (s : Observed) (p : Watched) (after : Observed × Watched) : Prop where
  later : s.store.db.Later after.1.store.db
  closed : s.closed ⊆ after.1.closed
  store : StoreOk after.1
  phase : PhaseOk after.1 after.2

theorem observe_ok (h : StoreOk s) (hp : PhaseOk s p) (ha : Timely s p.1 a) :
    StepOk s p (observe s p a) := by
  obtain ⟨p, since⟩ := p
  obtain ⟨hsince, hphase⟩ := hp
  have htick := h.tick a.now
  cases p with
  | arrived request =>
      cases request with
      | start helperId busId routeId =>
          simp only [observe, tripAdvance, tripStep, Observed.closing, Watched.since]
          cases hstart : startTrip s.store.db helperId busId routeId (max s.store.clock a.now)
              a.today with
          | error reply => exact ⟨.refl _, List.Subset.refl _, htick, List.Subset.refl _, trivial⟩
          | ok result =>
              obtain ⟨db, trip⟩ := result
              obtain ⟨-, rfl, -, hmem⟩ := startTrip_ok hstart
              have hlater := later_insert hmem
              exact ⟨hlater, List.Subset.refl _, htick.setDb hlater, List.Subset.refl _,
                trip, (hmem trip).mpr (Or.inr rfl), rfl, rfl⟩
      | finish helperId =>
          simp only [observe, tripAdvance, tripStep, Observed.closing, Watched.since]
          cases hlive : s.store.db.liveTrip helperId with
          | none => exact ⟨.refl _, List.Subset.refl _, htick, List.Subset.refl _, trivial⟩
          | some trip =>
              obtain ⟨hmem, hhelper, -⟩ := FleetDb.liveTrip_mem hlive
              exact ⟨.refl _, List.Subset.refl _, htick, List.Subset.refl _,
                trip, hmem, rfl, rfl⟩
      | active helperId =>
          simp only [observe, tripAdvance, tripStep, Observed.closing, Watched.since]
          cases hcached : cachedTrip { s.store with clock := max s.store.clock a.now } helperId
              a.redis with
          | none => exact ⟨.refl _, List.Subset.refl _, htick, List.Subset.refl _, trivial⟩
          | some active =>
              have hopen : active.tripId ∉ s.closed := htick.of_cachedTrip hcached
              exact ⟨.refl _, List.Subset.refl _, htick, List.Subset.refl _, hopen⟩
  | started trip =>
      have hstore := @StoreOk.cacheActive _ trip.helperId (.fromModel trip) a.redis htick hphase ha
      refine ⟨?_, List.Subset.refl _, hstore, hsince, trivial⟩
      simp only [observe, tripAdvance, tripStep, cacheActive_db]
      exact .refl _
  | ending trip =>
      have hlater := @later_completeTrip s.store.db trip.id (max s.store.clock a.now)
      exact ⟨hlater, List.Subset.refl _, htick.setDb hlater, hsince,
        hlater.belongs _ _ hphase, over_completeTrip hphase⟩
  | ended trip =>
      have hstore := @StoreOk.clear _ trip a.redis htick hphase.1 hphase.2 ha
      refine ⟨?_, List.subset_cons_self _ _, hstore,
        List.Subset.trans hsince (List.subset_cons_self _ _), trivial⟩
      simp only [observe, tripAdvance, tripStep, clearActiveTrip_db]
      exact .refl _
  | missed helperId =>
      simp only [observe, tripAdvance, tripStep, Observed.closing, Watched.since]
      cases hlive : s.store.db.liveTrip helperId with
      | none => exact ⟨.refl _, List.Subset.refl _, htick, hsince, trivial⟩
      | some trip =>
          obtain ⟨hmem, hhelper, hstatus⟩ := FleetDb.liveTrip_mem hlive
          -- the trip is live, so it was not closed when the lookup began
          have hopen : trip.id ∉ since := fun hid =>
            not_over_of_live hmem hstatus (h.completed trip.id (hsince hid))
          exact ⟨.refl _, List.Subset.refl _, htick, hsince, ⟨trip, hmem, rfl, hhelper⟩, hopen⟩
  | found helperId active =>
      have hstore := @StoreOk.cacheActive _ helperId active a.redis htick hphase.1 ha
      refine ⟨?_, List.Subset.refl _, hstore, hsince, hphase.2⟩
      simp only [observe, tripAdvance, tripStep, cacheActive_db]
      exact .refl _
  | answered reply => exact ⟨.refl _, List.Subset.refl _, htick, hsince, trivial⟩
  | told active => exact ⟨.refl _, List.Subset.refl _, htick, hsince, hphase⟩

end

/-! ## §4 Runs -/

/-- What every state of a run satisfies. -/
structure TripsOk (w : World Observed Watched) : Prop where
  store : StoreOk w.store
  phase : ∀ t, PhaseOk w.store (w.threads t)

theorem TripsOk.step {w : World Observed Watched} {l : ℕ × TripInput} (h : TripsOk w)
    (hl : Timely w.store (w.threads l.1).1 l.2) : TripsOk (threadStep observe w l) := by
  have hstep : StepOk w.store (w.threads l.1) (observe w.store (w.threads l.1) l.2) :=
    observe_ok h.store (h.phase l.1) hl
  refine ⟨hstep.store, threads_ok_step PhaseOk h.phase ?_ ?_⟩
  · rw [threadStep_threads_self]
    exact hstep.phase
  · intro p hp
    exact hp.mono hstep.later hstep.closed

theorem TripsOk.noEndedTrip {w : World Observed Watched} (h : TripsOk w) : NoEndedTrip w := by
  intro t active since ht
  have hphase := (h.phase t).2
  rw [ht] at hphase
  exact hphase

/-- Requests that have all yet to begin, over any trips and an empty cache. -/
def tripsArrived (db : FleetDb) (now : Instant) (requests : ℕ → TripRequest) :
    World Observed Watched where
  store := ⟨⟨db, .empty HelperId ActiveTrip, now⟩, []⟩
  threads t := (.arrived (requests t), [])

/-- **An ended trip is not returned again**, by any lookup that begins after
its end was answered, in any interleaving of any requests and with any Redis
commands failing, as long as every step is timely. -/
theorem no_ended_trip_of_timely (db : FleetDb) (now : Instant) (requests : ℕ → TripRequest)
    (ls : List (ℕ × TripInput))
    (htimely : Throughout (threadStep observe)
      (fun w l => Timely w.store (w.threads l.1).1 l.2) (tripsArrived db now requests) ls) :
    Always (threadStep observe) NoEndedTrip (tripsArrived db now requests) ls := by
  have hstart : TripsOk (tripsArrived db now requests) := by
    refine ⟨⟨?_, ?_, ?_⟩, ?_⟩
    · intro helperId e he
      cases he
    · intro helperId e he
      cases he
    · intro id hid
      cases hid
    · intro t
      exact ⟨List.Subset.refl _, trivial⟩
  have hrun := always_of_throughout (fun w l (h : TripsOk w) hl => h.step hl) hstart htimely
  exact hrun.imp fun w h => h.noEndedTrip

/-- A depot with one bus, one route and a helper already under way. -/
def depot : FleetDb where
  buses := [⟨3, .active⟩]
  routes := [⟨5, true⟩]
  trips := ⟨[⟨0, 5, 3, 9, 19900, some 0, none, .live⟩], List.pairwise_singleton _ _⟩

/-- The helper's app: a lookup, the end of the trip, and a lookup after it. -/
def endingDay : ℕ → TripRequest
  | 0 => .active 9
  | 1 => .finish 9
  | _ => .active 9

def atMinute (minute : ℚ) : TripInput := ⟨60 * minute, 19900, .done⟩

/-- The lookup over before the end begins. -/
theorem no_ended_trip_of_timely_inTurn :
    Always (threadStep observe) NoEndedTrip (tripsArrived depot 0 endingDay)
      [(0, atMinute 1), (0, atMinute 1), (0, atMinute 1), (1, atMinute 2), (1, atMinute 2),
        (1, atMinute 2), (2, atMinute 3)] := by
  apply no_ended_trip_of_timely
  refine ⟨trivial, trivial, ?_, trivial, trivial, ?_, trivial, trivial⟩
  · exact fun _ => List.not_mem_nil
  · exact nofun

/-- The first lookup reads the live trip, the trip ends and its entry is
cleared, and then the lookup writes what it read: the trip is back. -/
theorem late_fill_revives_the_trip :
    ¬ NoEndedTrip (run (threadStep observe) (tripsArrived depot 0 endingDay)
      [(0, atMinute 1), (0, atMinute 1), (1, atMinute 2), (1, atMinute 2), (1, atMinute 2),
        (0, atMinute 2), (2, atMinute 3)]) := by
  intro h
  have htold : (run (threadStep observe) (tripsArrived depot 0 endingDay)
      [(0, atMinute 1), (0, atMinute 1), (1, atMinute 2), (1, atMinute 2), (1, atMinute 2),
        (0, atMinute 2), (2, atMinute 3)]).threads 2 = (.told (some ⟨0, 3, 5⟩), [0]) := by
    decide +kernel
  exact h 2 _ _ htold List.mem_cons_self

end UniTrack
