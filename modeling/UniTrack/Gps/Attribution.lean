import UniTrack.Framework.Threads
import UniTrack.Routes.Helper

/-!
# Whose positions these are

A batch is bound to a trip by a cache entry or by one of two lookups. Whatever
the cache still holds was a trip of that helper when it was written, on that
bus, and a trip never changes hands: neither a stale entry nor a failed call
lets a helper report for a bus they did not drive.

## §1 What was filed, and by whom
## §2 Trips a helper has driven
## §3 What each step knows
## §4 Runs
-/

namespace UniTrack

open UniTrack.Framework UniTrack.Python

/-! ## §1 What was filed, and by whom -/

/-- A stream entry, with the helper who was calling and the bus they named. -/
structure FiledFix where
  fields : GpsFields
  caller : HelperId
  named : BusId

/-- A position that was written, with the helper who was calling. -/
structure Placement where
  busId : BusId
  pos : PosHash
  caller : HelperId

/-- The store, with what was filed and placed so far. -/
structure GpsLedger where
  store : GpsStore
  filed : List FiledFix
  placed : List Placement

def GpsCommand.fixes (caller : HelperId) (named : BusId) : GpsCommand → List FiledFix
  | .xadd fields => [⟨fields, caller, named⟩]
  | _ => []

def GpsCommand.placements (caller : HelperId) : GpsCommand → List Placement
  | .hset busId pos => [⟨busId, pos, caller⟩]
  | _ => []

/-- What this step of a request files, if its command is carried out. -/
def GpsPhase.files (p : GpsPhase) (a : TripInput) : List FiledFix :=
  match p with
  | .sending caller batch (command :: _) _ _ =>
      if a.redis.applied then command.fixes caller batch.busId else []
  | _ => []

def GpsPhase.places (p : GpsPhase) (a : TripInput) : List Placement :=
  match p with
  | .sending caller _ (command :: _) _ _ =>
      if a.redis.applied then command.placements caller else []
  | _ => []

def ledgerAdvance (w : Spelling) (order : LatestEnd) (s : GpsLedger) (p : GpsPhase) (a : TripInput) :
    GpsLedger × GpsPhase :=
  ({ store := (gpsAdvance w order s.store p a).1
     filed := s.filed ++ p.files a
     placed := s.placed ++ p.places a },
    (gpsAdvance w order s.store p a).2)

/-- There is a trip row of this helper on this bus under this id. -/
def Driven (db : FleetDb) (helperId : HelperId) (tripId : TripId) (busId : BusId) : Prop :=
  ∃ t ∈ db.trips, t.id = tripId ∧ t.helperId = helperId ∧ t.busId = busId

/-- The entry names a trip of the calling helper on the bus they named. -/
def FiledFix.Honest (w : Spelling) (db : FleetDb) (f : FiledFix) : Prop :=
  ∃ tripId, Driven db f.caller tripId f.named ∧ f.fields.tripId = w.uuid tripId ∧
    f.fields.busId = w.uuid f.named ∧ f.fields.helperId = w.uuid f.caller

/-- The position is of a bus the calling helper has started a trip on. -/
def Placement.Honest (w : Spelling) (db : FleetDb) (placement : Placement) : Prop :=
  ∃ tripId, Driven db placement.caller tripId placement.busId ∧
    placement.pos.tripId = w.uuid tripId

/-- Everything on the stream was filed honestly, and everything under
`bus:{b}:pos` was placed there honestly. -/
structure Attributed (w : Spelling) (s : GpsLedger) : Prop where
  entries : s.store.stream.entries = s.filed.map FiledFix.fields
  filed : ∀ f ∈ s.filed, f.Honest w s.store.trips.db
  positions : ∀ busId entry, s.store.positions busId = some entry →
    ∃ placement ∈ s.placed, placement.busId = busId ∧ placement.pos = entry.pos
  placed : ∀ placement ∈ s.placed, placement.Honest w s.store.trips.db

/-! ## §2 Trips a helper has driven -/

section
variable {db db' : FleetDb} {helperId : HelperId} {tripId : TripId} {busId : BusId}

theorem Driven.insert {trip : Trip} (h : Driven db helperId tripId busId)
    (hmem : ∀ t, t ∈ db'.trips ↔ t ∈ db.trips ∨ t = trip) : Driven db' helperId tripId busId := by
  obtain ⟨t, ht, hkeys⟩ := h
  exact ⟨t, (hmem t).mpr (Or.inl ht), hkeys⟩

/-- Ending a trip leaves its helper and its bus. -/
theorem Driven.completeTrip (h : Driven db helperId tripId busId) (ended : TripId)
    (actualEnd : Instant) : Driven (db.completeTrip ended actualEnd) helperId tripId busId := by
  obtain ⟨t, ht, hkeys⟩ := h
  refine ⟨_, FleetDb.mem_completeTrip.mpr ⟨t, ht, rfl⟩, ?_⟩
  split
  · exact hkeys
  · exact hkeys

end

/-! ## §3 What each step knows -/

/-- The cache of a helper names trips they have driven, expired entries included. -/
def CacheDriven (s : TripStore) : Prop :=
  ∀ helperId e, s.cache helperId = some e → Driven s.db helperId e.value.tripId e.value.busId

/-- A start, an end or a lookup knows only trips of the helper it is for. -/
def KnowsDriven (db : FleetDb) : TripPhase → Prop
  | .started trip | .ending trip | .ended trip => Driven db trip.helperId trip.id trip.busId
  | .found helperId active => Driven db helperId active.tripId active.busId
  | _ => True

/-- A lookup of this helper. -/
def Asking (db : FleetDb) (helperId : HelperId) : TripPhase → Prop
  | .arrived (.active caller) => caller = helperId
  | .missed caller => caller = helperId
  | .found caller active => caller = helperId ∧ Driven db helperId active.tripId active.busId
  | .told none => True
  | .told (some active) => Driven db helperId active.tripId active.busId
  | _ => False

/-- The command is about this trip of the helper on this bus. -/
def GpsCommand.About (w : Spelling) (caller : HelperId) (tripId : TripId) (busId : BusId) :
    GpsCommand → Prop
  | .hset bus pos => bus = busId ∧ pos.tripId = w.uuid tripId
  | .expire bus => bus = busId
  | .publish _ => True
  | .xadd fields => fields.tripId = w.uuid tripId ∧ fields.busId = w.uuid busId ∧
      fields.helperId = w.uuid caller

/-- Where a request may stand. -/
def GpsPhaseOk (w : Spelling) (db : FleetDb) : GpsPhase → Prop
  | .trip p => KnowsDriven db p
  | .looking caller _ p => Asking db caller p
  | .sending caller batch commands _ _ => ∃ tripId, Driven db caller tripId batch.busId ∧
      ∀ command ∈ commands, command.About w caller tripId batch.busId
  | _ => True

/-- Trips stay with their helper and their bus. -/
def StaysDriven (db db' : FleetDb) : Prop :=
  ∀ helperId tripId busId, Driven db helperId tripId busId → Driven db' helperId tripId busId

section
variable {w : Spelling} {order : LatestEnd} {s : TripStore} {p : TripPhase} {a : TripInput}

theorem CacheDriven.cacheActive {helperId : HelperId} {active : ActiveTrip} {redis : CallOutcome}
    (h : CacheDriven s) (hactive : Driven s.db helperId active.tripId active.busId) :
    CacheDriven (cacheActive s helperId active redis) := by
  unfold UniTrack.cacheActive
  split
  · intro k e he
    by_cases hk : k = helperId
    · subst hk
      obtain rfl := Option.some.inj ((KeyValues.set_self ..).symm.trans he)
      exact hactive
    · exact h k e ((KeyValues.set_of_ne hk).symm.trans he)
  · exact h

theorem CacheDriven.clearActiveTrip {helperId : HelperId} {redis : CallOutcome}
    (h : CacheDriven s) : CacheDriven (clearActiveTrip s helperId redis) := by
  unfold UniTrack.clearActiveTrip
  split
  · intro k e he
    by_cases hk : k = helperId
    · subst hk
      cases (KeyValues.del_self ..).symm.trans he
    · exact h k e ((KeyValues.del_of_ne hk).symm.trans he)
  · exact h

theorem CacheDriven.cached {helperId : HelperId} {redis : CallOutcome} {active : ActiveTrip}
    (h : CacheDriven s) (hcached : cachedTrip s helperId redis = some active) :
    Driven s.db helperId active.tripId active.busId := by
  unfold cachedTrip at hcached
  split at hcached
  · obtain ⟨deadline, he, -⟩ := KeyValues.get_eq_some.mp hcached
    exact h helperId _ he
  · cases hcached

theorem driven_liveTrip {db : FleetDb} {helperId : HelperId} {trip : Trip}
    (h : db.liveTrip helperId = some trip) :
    Driven db trip.helperId trip.id trip.busId ∧ trip.helperId = helperId := by
  obtain ⟨hmem, hhelper, -⟩ := FleetDb.liveTrip_mem h
  exact ⟨⟨trip, hmem, rfl, rfl, rfl⟩, hhelper⟩

/-- What one step of a start, an end or a lookup keeps. -/
structure TripStepOk (s : TripStore) (after : TripStore × TripPhase) : Prop where
  stays : StaysDriven s.db after.1.db
  cache : CacheDriven after.1
  phase : KnowsDriven after.1.db after.2

theorem tripStep_ok (hcache : CacheDriven s) (hp : KnowsDriven s.db p) :
    TripStepOk s (tripStep s p a) := by
  have hsame : StaysDriven s.db s.db := fun _ _ _ h => h
  cases p with
  | arrived request =>
      cases request with
      | start helperId busId routeId =>
          simp only [tripStep]
          cases hstart : startTrip s.db helperId busId routeId s.clock a.today with
          | error reply => exact ⟨hsame, hcache, trivial⟩
          | ok result =>
              obtain ⟨db, trip⟩ := result
              obtain ⟨-, -, -, hmem⟩ := startTrip_ok hstart
              have hstays : StaysDriven s.db db := fun _ _ _ h => h.insert hmem
              exact ⟨hstays, fun k e he => hstays _ _ _ (hcache k e he),
                trip, (hmem trip).mpr (Or.inr rfl), rfl, rfl, rfl⟩
      | finish helperId =>
          simp only [tripStep]
          cases hlive : s.db.liveTrip helperId with
          | none => exact ⟨hsame, hcache, trivial⟩
          | some trip => exact ⟨hsame, hcache, (driven_liveTrip hlive).1⟩
      | active helperId =>
          simp only [tripStep]
          cases cachedTrip s helperId a.redis with
          | none => exact ⟨hsame, hcache, trivial⟩
          | some active => exact ⟨hsame, hcache, trivial⟩
  | started trip =>
      refine ⟨?_, hcache.cacheActive hp, trivial⟩
      simp only [tripStep]
      rw [cacheActive_db]
      exact hsame
  | ending trip =>
      have hstays : StaysDriven s.db (s.db.completeTrip trip.id s.clock) :=
        fun _ _ _ h => h.completeTrip trip.id s.clock
      exact ⟨hstays, fun k e he => hstays _ _ _ (hcache k e he), hstays _ _ _ hp⟩
  | ended trip =>
      refine ⟨?_, hcache.clearActiveTrip, trivial⟩
      simp only [tripStep]
      rw [clearActiveTrip_db]
      exact hsame
  | missed helperId =>
      simp only [tripStep]
      cases hlive : s.db.liveTrip helperId with
      | none => exact ⟨hsame, hcache, trivial⟩
      | some trip =>
          obtain ⟨hdriven, rfl⟩ := driven_liveTrip hlive
          exact ⟨hsame, hcache, hdriven⟩
  | found helperId active =>
      refine ⟨?_, hcache.cacheActive hp, trivial⟩
      simp only [tripStep]
      rw [cacheActive_db]
      exact hsame
  | answered reply => exact ⟨hsame, hcache, trivial⟩
  | told active => exact ⟨hsame, hcache, trivial⟩

theorem Asking.knows {db : FleetDb} {helperId : HelperId} (h : Asking db helperId p) :
    KnowsDriven db p := by
  cases p with
  | found caller active =>
      obtain ⟨rfl, hdriven⟩ := h
      exact hdriven
  | started trip => cases h
  | ending trip => cases h
  | ended trip => cases h
  | arrived request => trivial
  | missed caller => trivial
  | answered reply => trivial
  | told active => trivial

/-- A lookup goes on asking for its helper, and what it is told that helper has driven. -/
theorem asking_tripStep {helperId : HelperId} (hcache : CacheDriven s)
    (hp : Asking s.db helperId p) :
    Asking (tripStep s p a).1.db helperId (tripStep s p a).2 := by
  cases p with
  | arrived request =>
      cases request with
      | start caller busId routeId => cases hp
      | finish caller => cases hp
      | active caller =>
          obtain rfl : caller = helperId := hp
          simp only [tripStep]
          cases hcached : cachedTrip s caller a.redis with
          | none => exact rfl
          | some active => exact hcache.cached hcached
  | missed caller =>
      obtain rfl : caller = helperId := hp
      simp only [tripStep]
      cases hlive : s.db.liveTrip caller with
      | none => trivial
      | some trip =>
          obtain ⟨hdriven, rfl⟩ := driven_liveTrip hlive
          exact ⟨rfl, hdriven⟩
  | found caller active =>
      obtain ⟨rfl, hdriven⟩ := hp
      simp only [tripStep]
      rw [cacheActive_db]
      exact hdriven
  | told active => exact hp
  | started trip => cases hp
  | ending trip => cases hp
  | ended trip => cases hp
  | answered reply => cases hp

/-- The commands of a batch are about the trip it is filed under. -/
theorem gpsCommands_about {now : Instant} {caller : HelperId} {batch : GpsBatch} {live : Bool}
    {busId : BusId} {tripId : TripId} {commands : List GpsCommand}
    (h : gpsCommands w now caller batch live busId tripId = some commands) :
    ∀ command ∈ commands, command.About w caller tripId busId := by
  obtain ⟨newest, -, h⟩ := Option.bind_eq_some_iff.mp h
  obtain ⟨map, hmap, h⟩ := Option.bind_eq_some_iff.mp h
  obtain ⟨fixes, hfixes, h⟩ := Option.bind_eq_some_iff.mp h
  obtain rfl := Option.some.inj h
  intro command hcommand
  rcases List.mem_append.mp hcommand with hplace | hadd
  · cases live with
    | false =>
        obtain rfl := Option.some.inj hmap
        cases hplace
    | true =>
        obtain ⟨ts, -, hmap⟩ := Option.bind_eq_some_iff.mp hmap
        obtain ⟨ingestedAt, -, hmap⟩ := Option.bind_eq_some_iff.mp hmap
        obtain rfl := Option.some.inj hmap
        simp only [List.mem_cons, List.not_mem_nil, or_false] at hplace
        rcases hplace with rfl | rfl | rfl
        · exact ⟨rfl, rfl⟩
        · exact rfl
        · trivial
  · obtain ⟨fields, hmem, rfl⟩ := List.mem_map.mp hadd
    obtain ⟨point, -, hfields⟩ := exists_of_mem_mapM hfixes hmem
    obtain ⟨ts, -, hfields⟩ := Option.bind_eq_some_iff.mp hfields
    obtain rfl := Option.some.inj hfields
    exact ⟨rfl, rfl, rfl⟩

/-- A batch is filed under a trip its caller has driven, on the bus it names. -/
theorem fileUnder_ok {db : FleetDb} {now : Instant} {caller : HelperId} {batch : GpsBatch}
    {live : Bool} {tripId : TripId} (h : Driven db caller tripId batch.busId) :
    GpsPhaseOk w db (fileUnder w now caller batch live batch.busId tripId) := by
  unfold fileUnder
  split
  · trivial
  · rename_i commands hcommands
    exact ⟨tripId, h, gpsCommands_about hcommands⟩

theorem bindBatch_ok {db : FleetDb} {now : Instant} {caller : HelperId} {batch : GpsBatch}
    (h : Asking db caller p) : GpsPhaseOk w db (bindBatch w now caller batch p) := by
  unfold bindBatch
  split
  · rename_i active
    split
    · trivial
    · rename_i hbus
      rw [← not_not.mp hbus]
      exact fileUnder_ok (not_not.mp hbus ▸ h)
  · trivial
  · exact h

/-- What a step knows of the trips stays true while others go on. -/
theorem KnowsDriven.mono {db db' : FleetDb} (hdb : StaysDriven db db') (h : KnowsDriven db p) :
    KnowsDriven db' p := by
  cases p with
  | started trip => exact hdb _ _ _ h
  | ending trip => exact hdb _ _ _ h
  | ended trip => exact hdb _ _ _ h
  | found helperId active => exact hdb _ _ _ h
  | arrived request => trivial
  | missed helperId => trivial
  | answered reply => trivial
  | told active => trivial

theorem Asking.mono {db db' : FleetDb} {helperId : HelperId} (hdb : StaysDriven db db')
    (h : Asking db helperId p) : Asking db' helperId p := by
  cases p with
  | found caller active => exact ⟨h.1, hdb _ _ _ h.2⟩
  | told active =>
      cases active with
      | none => trivial
      | some active => exact hdb _ _ _ h
  | arrived request => cases request <;> exact h
  | missed caller => exact h
  | started trip => cases h
  | ending trip => cases h
  | ended trip => cases h
  | answered reply => cases h

theorem GpsPhaseOk.mono {db db' : FleetDb} {q : GpsPhase} (hdb : StaysDriven db db')
    (h : GpsPhaseOk w db q) : GpsPhaseOk w db' q := by
  cases q with
  | trip p => exact KnowsDriven.mono hdb h
  | looking caller batch p => exact Asking.mono hdb h
  | sending caller batch commands accepted heard =>
      obtain ⟨tripId, hdriven, habout⟩ := h
      exact ⟨tripId, hdb _ _ _ hdriven, habout⟩
  | unbound caller batch => trivial
  | unmatched batch => trivial
  | replied reply => trivial

section
variable {ledger : GpsLedger} {q : GpsPhase}

theorem Attributed.grow (h : Attributed w ledger) {trips : TripStore}
    (hdb : StaysDriven ledger.store.trips.db trips.db) :
    Attributed w { ledger with store := { ledger.store with trips := trips } } where
  entries := h.entries
  filed f hf := by
    obtain ⟨tripId, hdriven, hfields⟩ := h.filed f hf
    exact ⟨tripId, hdb _ _ _ hdriven, hfields⟩
  positions := h.positions
  placed placement hplaced := by
    obtain ⟨tripId, hdriven, hpos⟩ := h.placed placement hplaced
    exact ⟨tripId, hdb _ _ _ hdriven, hpos⟩

@[simp] theorem execute_trips (store : GpsStore) (command : GpsCommand) :
    (execute store command).trips = store.trips := by
  cases command <;> rfl

theorem entries_execute (store : GpsStore) (command : GpsCommand) (caller : HelperId)
    (named : BusId) : (execute store command).stream.entries =
      store.stream.entries ++ (command.fixes caller named).map FiledFix.fields := by
  cases command with
  | xadd fields => rfl
  | hset busId pos => exact (List.append_nil _).symm
  | expire busId => exact (List.append_nil _).symm
  | publish message => exact (List.append_nil _).symm

/-- Only `HSET` puts a position somewhere. -/
theorem positions_execute {store : GpsStore} {command : GpsCommand} {busId : BusId}
    {entry : PosEntry} (h : (execute store command).positions busId = some entry) :
    command = .hset busId entry.pos ∨
      ∃ kept, store.positions busId = some kept ∧ kept.pos = entry.pos := by
  cases command with
  | hset bus pos =>
      simp only [execute, setPosition, Function.update_apply] at h
      split at h
      · rename_i hbus
        obtain rfl := Option.some.inj h
        exact Or.inl (hbus ▸ rfl)
      · exact Or.inr ⟨entry, h, rfl⟩
  | expire bus =>
      simp only [execute, expirePosition, Function.update_apply] at h
      split at h
      · -- the deadline moves, the position stays
        rename_i hbus
        obtain ⟨kept, hkept, rfl⟩ := Option.map_eq_some_iff.mp h
        refine Or.inr ⟨kept, hbus ▸ hkept, ?_⟩
        split
        · rfl
        · split <;> rfl
      · exact Or.inr ⟨entry, h, rfl⟩
  | publish message => exact Or.inr ⟨entry, h, rfl⟩
  | xadd fields => exact Or.inr ⟨entry, h, rfl⟩

/-- A command about a trip of the caller files and places honestly. -/
theorem Attributed.execute {caller : HelperId} {tripId : TripId} {named : BusId}
    {command : GpsCommand} (h : Attributed w ledger)
    (hdriven : Driven ledger.store.trips.db caller tripId named)
    (habout : command.About w caller tripId named) :
    Attributed w {
      store := UniTrack.execute ledger.store command
      filed := ledger.filed ++ command.fixes caller named
      placed := ledger.placed ++ command.placements caller } := by
  refine ⟨?_, ?_, ?_, ?_⟩
  · show (UniTrack.execute ledger.store command).stream.entries = _
    rw [entries_execute _ _ caller named, h.entries, List.map_append]
  · intro f hf
    rw [execute_trips]
    rcases List.mem_append.mp hf with hold | hnew
    · exact h.filed f hold
    · cases command with
      | xadd fields =>
          obtain rfl := List.mem_singleton.mp hnew
          exact ⟨tripId, hdriven, habout⟩
      | hset busId pos => cases hnew
      | expire busId => cases hnew
      | publish message => cases hnew
  · intro busId entry hentry
    rcases positions_execute hentry with rfl | ⟨kept, hkept, hpos⟩
    · exact ⟨⟨busId, entry.pos, caller⟩, List.mem_append_right _ List.mem_cons_self, rfl, rfl⟩
    · obtain ⟨placement, hmem, hbus, hsame⟩ := h.positions busId kept hkept
      exact ⟨placement, List.mem_append_left _ hmem, hbus, hsame.trans hpos⟩
  · intro placement hplacement
    rw [execute_trips]
    rcases List.mem_append.mp hplacement with hold | hnew
    · exact h.placed placement hold
    · cases command with
      | hset busId pos =>
          obtain ⟨rfl, hpos⟩ := habout
          obtain rfl := List.mem_singleton.mp hnew
          exact ⟨tripId, hdriven, hpos⟩
      | expire busId => cases hnew
      | publish message => cases hnew
      | xadd fields => cases hnew

/-- What one step of a request keeps. -/
structure LedgerStepOk (w : Spelling) (ledger : GpsLedger) (after : GpsLedger × GpsPhase) :
    Prop where
  stays : StaysDriven ledger.store.trips.db after.1.store.trips.db
  cache : CacheDriven after.1.store.trips
  attributed : Attributed w after.1
  phase : GpsPhaseOk w after.1.store.trips.db after.2

theorem gpsStep_ok (hcache : CacheDriven ledger.store.trips) (hattr : Attributed w ledger)
    (hq : GpsPhaseOk w ledger.store.trips.db q) :
    LedgerStepOk w ledger ({
      store := (gpsStep w order ledger.store q a).1
      filed := ledger.filed ++ q.files a
      placed := ledger.placed ++ q.places a }, (gpsStep w order ledger.store q a).2) := by
  have hsame : StaysDriven ledger.store.trips.db ledger.store.trips.db := fun _ _ _ h => h
  cases q with
  | trip p =>
      have hstep : TripStepOk ledger.store.trips (tripStep ledger.store.trips p a) :=
        tripStep_ok hcache hq
      simp only [gpsStep, GpsPhase.files, GpsPhase.places, List.append_nil]
      exact ⟨hstep.stays, hstep.cache, hattr.grow hstep.stays, hstep.phase⟩
  | looking caller batch p =>
      have hstep : TripStepOk ledger.store.trips (tripStep ledger.store.trips p a) :=
        tripStep_ok hcache (Asking.knows hq)
      simp only [gpsStep, GpsPhase.files, GpsPhase.places, List.append_nil]
      exact ⟨hstep.stays, hstep.cache, hattr.grow hstep.stays,
        bindBatch_ok (asking_tripStep hcache hq)⟩
  | unbound caller batch =>
      simp only [gpsStep, GpsPhase.files, GpsPhase.places, List.append_nil]
      cases hlate : recentlyEndedTrip order ledger.store.trips.db caller batch.busId
          ledger.store.trips.clock with
      | none => exact ⟨hsame, hcache, hattr, trivial⟩
      | some late =>
          -- the late trip is looked up by helper and bus, so both are the caller's
          obtain ⟨hmem, hhelper, hbus, -⟩ := recentlyEndedTrip_mem hlate
          have hfiled : GpsPhaseOk w ledger.store.trips.db
              (fileUnder w ledger.store.trips.clock caller batch false late.busId late.id) := by
            rw [hbus]
            exact fileUnder_ok ⟨late, hmem, rfl, hhelper, hbus⟩
          exact ⟨hsame, hcache, hattr, hfiled⟩
  | unmatched batch =>
      simp only [gpsStep, GpsPhase.files, GpsPhase.places, List.append_nil]
      cases ledger.store.trips.db.getBus batch.busId with
      | none => exact ⟨hsame, hcache, hattr, trivial⟩
      | some bus => exact ⟨hsame, hcache, hattr, trivial⟩
  | sending caller batch commands accepted heard =>
      cases commands with
      | nil =>
          simp only [gpsStep, GpsPhase.files, GpsPhase.places, List.append_nil]
          exact ⟨hsame, hcache, hattr, trivial⟩
      | cons command commands =>
          obtain ⟨tripId, hdriven, habout⟩ := hq
          simp only [gpsStep, GpsPhase.files, GpsPhase.places]
          have hrest : ∀ c ∈ commands, c.About w caller tripId batch.busId :=
            fun c hc => habout c (List.mem_cons_of_mem _ hc)
          cases a.redis.applied with
          | false =>
              -- the command is lost, and the pipeline goes on with the next
              simp only [Bool.false_eq_true, if_false, List.append_nil]
              exact ⟨hsame, hcache, hattr, tripId, hdriven, hrest⟩
          | true =>
              simp only [if_true]
              refine ⟨?_, ?_, hattr.execute hdriven (habout command List.mem_cons_self), ?_⟩
              · rw [execute_trips]
                exact hsame
              · rw [execute_trips]
                exact hcache
              · rw [execute_trips]
                exact ⟨tripId, hdriven, hrest⟩
  | replied reply =>
      simp only [gpsStep, GpsPhase.files, GpsPhase.places, List.append_nil]
      exact ⟨hsame, hcache, hattr, trivial⟩

theorem ledgerAdvance_ok (hcache : CacheDriven ledger.store.trips) (hattr : Attributed w ledger)
    (hq : GpsPhaseOk w ledger.store.trips.db q) :
    LedgerStepOk w ledger (ledgerAdvance w order ledger q a) := by
  have hticked : Attributed w { ledger with store := ledger.store.tick a.now } :=
    hattr.grow fun _ _ _ h => h
  obtain ⟨hstays, hcache', hattr', hphase⟩ :=
    @gpsStep_ok w order a { ledger with store := ledger.store.tick a.now } q hcache hticked hq
  exact ⟨hstays, hcache', hattr', hphase⟩

end

end

/-! ## §4 Runs -/

/-- What a helper may ask for. -/
inductive HelperRequest where
  | trip (request : TripRequest)
  | gps (caller : HelperId) (batch : GpsBatch)

def HelperRequest.begin : HelperRequest → GpsPhase
  | .trip request => .trip (.arrived request)
  | .gps caller batch => .looking caller batch (.arrived (.active caller))

/-- Any trips, and a cache of what earlier starts and lookups left there, stale
entries included. -/
structure PastTrips where
  store : TripStore
  driven : CacheDriven store

/-- Requests that have all yet to begin, with no position stored yet. -/
def helpersArrived (past : PastTrips) (requests : ℕ → HelperRequest) :
    World GpsLedger GpsPhase where
  store := ⟨⟨past.store, fun _ => none, [], .empty GpsFields⟩, [], []⟩
  threads t := (requests t).begin

/-- What every state of a run satisfies. -/
structure GpsOk (w : Spelling) (world : World GpsLedger GpsPhase) : Prop where
  cache : CacheDriven world.store.store.trips
  attributed : Attributed w world.store
  phase : ∀ t, GpsPhaseOk w world.store.store.trips.db (world.threads t)

theorem GpsOk.step {w : Spelling} {order : LatestEnd} {world : World GpsLedger GpsPhase}
    (l : ℕ × TripInput) (h : GpsOk w world) :
    GpsOk w (threadStep (ledgerAdvance w order) world l) := by
  have hstep : LedgerStepOk w world.store
      (ledgerAdvance w order world.store (world.threads l.1) l.2) :=
    ledgerAdvance_ok h.cache h.attributed (h.phase l.1)
  refine ⟨hstep.cache, hstep.attributed, ?_⟩
  refine threads_ok_step (fun (s : GpsLedger) p => GpsPhaseOk w s.store.trips.db p) h.phase ?_ ?_
  · rw [threadStep_threads_self]
    exact hstep.phase
  · -- the others know what they knew: trips keep their helper and their bus
    intro p hp
    exact hp.mono hstep.stays

/-- **No helper reports a position for a bus they did not drive**, in any
interleaving of starts, ends and batches of any helpers, with any Redis
commands failing and whatever the caches still hold. -/
theorem positions_are_attributed (w : Spelling) (order : LatestEnd) (past : PastTrips)
    (requests : ℕ → HelperRequest) (ls : List (ℕ × TripInput)) :
    Always (threadStep (ledgerAdvance w order)) (fun world => Attributed w world.store)
      (helpersArrived past requests) ls := by
  have hstart : GpsOk w (helpersArrived past requests) := by
    refine ⟨past.driven, ⟨rfl, ?_, ?_, ?_⟩, ?_⟩
    · intro f hf
      cases hf
    · intro busId entry hentry
      cases hentry
    · intro placement hplacement
      cases hplacement
    · intro t
      show GpsPhaseOk w past.store.db (requests t).begin
      cases requests t with
      | trip request => trivial
      | gps caller batch => exact rfl
  have hrun := always_of_step (fun world l h => @GpsOk.step w order world l h) hstart ls
  exact hrun.imp fun world h => h.attributed

end UniTrack
