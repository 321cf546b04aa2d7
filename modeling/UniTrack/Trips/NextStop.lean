import UniTrack.Trips.Arrivals
import UniTrack.Trips.Board

/-!
# The first arrival and the next stop

The boards read "minutes to the next stop" off the first arrival of the cached
payload. The engine writes the arrivals in the order of the route, but leaves
out a stop it cannot give a time: the first arrival is the next stop exactly
when the next stop can be given one.

§1 is what a pass caches, §2 when the next stop can be given a time, §3 which
stop the first arrival is of, §4 a stop without a timetable.
-/

namespace UniTrack

open UniTrack.Framework UniTrack.Python

/-! ## §1  What a pass caches -/

/-- The payload that the pass writes under its trip's key, if it writes one. -/
def EtaPass.cached (globe : Globe) (s : EtaStore) (pass : EtaPass) : Option EtaPayload :=
  match pass.points, pass.trip.actualStart with
  | [], _ => none
  | _, none => none
  | _, some actualStart =>
      if pass.arrivals globe s actualStart ≠ [] ∧ pass.publish.outcome.applied then
        some (etaPayload pass (pass.arrivals globe s actualStart))
      else none

/-- The bus's next stop, by the seq: the least above the progress. -/
def IsNextStop (points : List RoutePoint) (progress : Option Progress) (seq : Int) : Prop :=
  IsLeast {seq | ∃ point ∈ points, point.seq = seq ∧ reachedSeq progress < seq} seq

/-- The payload has a first arrival, it is of the next stop, and its time is
what the boards count down to. -/
def FirstIsNext (globe : Globe) (s : EtaStore) (pass : EtaPass) (payload : EtaPayload) : Prop :=
  ∃ first, payload.arrivals.head? = some first ∧
    IsNextStop pass.points (pass.whereabouts globe s) first.seq ∧
    ∀ now, nextStopMinutes (some payload) now = some (minutesUntil first.eta now)

section
variable {globe : Globe} {s : EtaStore} {pass : EtaPass} {payload : EtaPayload}

theorem cached_busy {actualStart : Instant} (hpoints : pass.points ≠ [])
    (hstart : pass.trip.actualStart = some actualStart) :
    pass.cached globe s =
      if pass.arrivals globe s actualStart ≠ [] ∧ pass.publish.outcome.applied then
        some (etaPayload pass (pass.arrivals globe s actualStart))
      else none := by
  unfold EtaPass.cached
  cases hlist : pass.points with
  | nil => exact absurd hlist hpoints
  | cons point points =>
      rw [hstart]

theorem cached_eq_some (h : pass.cached globe s = some payload) :
    ∃ actualStart, pass.points ≠ [] ∧ pass.trip.actualStart = some actualStart ∧
      pass.arrivals globe s actualStart ≠ [] ∧ pass.publish.outcome.applied = true ∧
      payload = etaPayload pass (pass.arrivals globe s actualStart) := by
  unfold EtaPass.cached at h
  split at h
  · cases h
  · cases h
  · rename_i actualStart hstart hpoints
    obtain ⟨⟨hsome, happlied⟩, hpayload⟩ := Option.ite_none_right_eq_some.mp h
    exact ⟨actualStart, hpoints, hstart, hsome, happlied, (Option.some.inj hpayload).symm⟩

/-- A pass does what it is said to cache. -/
theorem computeForTrip_cached :
    (computeForTrip globe s pass).store.eta =
      match pass.cached globe s with
      | some payload => s.eta.set pass.publish.time pass.trip.id payload etaTtlS
      | none => s.eta := by
  by_cases hidle : pass.Idle
  · have hnone : pass.cached globe s = none := by
      cases hcached : pass.cached globe s with
      | none => rfl
      | some payload =>
          obtain ⟨actualStart, hpoints, hstart, -⟩ := cached_eq_some hcached
          rcases hidle with hnil | hunstarted
          · exact absurd hnil hpoints
          · rw [hunstarted] at hstart
            cases hstart
    rcases @computeForTrip_cases globe s pass with ⟨-, -, hstore⟩ | ⟨hbusy, -⟩
    · rw [hnone, hstore]
    · exact absurd hidle hbusy
  · have hpoints : pass.points ≠ [] := fun h => hidle (Or.inl h)
    have hstarted : pass.trip.actualStart ≠ none := fun h => hidle (Or.inr h)
    obtain ⟨actualStart, hstart⟩ := Option.ne_none_iff_exists'.mp hstarted
    rw [computeForTrip_eta hpoints hstart, cached_busy hpoints hstart, publishArrivals]
    split <;> rfl

/-! ## §2  When the next stop can be given a time -/

/-- By the speed of the bus where it has one, and by the timetable where not,
the next stop is within three hours. -/
def NextEstimable (globe : Globe) (s : EtaStore) (pass : EtaPass) : Prop :=
  ∃ actualStart next, pass.trip.actualStart = some actualStart ∧
    (remaining pass.points (reachedSeq (pass.whereabouts globe s))).head? = some next ∧
    let fixes := recentFixes pass.search
    match fixes.getLast?, rollingSpeedKmh globe fixes pass.now with
    | some newest, some speed =>
        timedeltaHours (globe.haversineKm newest.point next.point * roadFactor / speed) ≤
          maxHorizon
    | _, _ =>
        ∃ offset, next.scheduledOffsetMin = some offset ∧
          actualStart + 60 * offset +
            measuredDelay pass.points (pass.whereabouts globe s) actualStart ≤
              pass.now + maxHorizon

theorem rollingSpeedKmh_usable {fixes : List Fix} {now : Instant} {speed : ℚ}
    (h : rollingSpeedKmh globe fixes now = some speed) : minUsableKmh ≤ speed := by
  unfold rollingSpeedKmh at h
  dsimp only at h
  split at h
  · split at h
    · cases h
    · split at h
      · cases h
      · split at h
        · cases h
        · split at h
          · cases h
          · rename_i hrange
            obtain rfl := Option.some.inj h
            exact not_lt.mp fun hlow => hrange (Or.inl hlow)
  · cases h

/-- The next stop's own estimate, from what the pass reads. -/
theorem nextEstimable_iff {actualStart : Instant} {next : RoutePoint}
    (hstart : pass.trip.actualStart = some actualStart)
    (hnext : (remaining pass.points (reachedSeq (pass.whereabouts globe s))).head? = some next) :
    NextEstimable globe s pass ↔
      ∃ eta, ownEstimate globe pass.points ((recentFixes pass.search).getLast?.map Fix.point)
          (pass.whereabouts globe s) actualStart
          (rollingSpeedKmh globe (recentFixes pass.search) pass.now) pass.now 0 next = some eta ∧
        eta ≤ pass.now + maxHorizon := by
  have hfirst : ∀ position, roadKm globe position
      (remaining pass.points (reachedSeq (pass.whereabouts globe s))) 0 =
        globe.haversineKm position next.point * roadFactor := by
    intro position
    obtain ⟨rest, hrest⟩ := List.head?_eq_some_iff.mp hnext
    rw [hrest, roadKm_zero]
  have hclamp : ∀ eta : Instant, max pass.now eta ≤ pass.now + maxHorizon ↔
      eta ≤ pass.now + maxHorizon := by
    intro eta
    have hhorizon : (0 : ℚ) ≤ maxHorizon := by decide +kernel
    rw [max_le_iff, and_iff_right (le_add_of_nonneg_right hhorizon)]
  -- only this start and this stop are meant
  have honly : NextEstimable globe s pass ↔
      match (recentFixes pass.search).getLast?,
        rollingSpeedKmh globe (recentFixes pass.search) pass.now with
      | some newest, some speed =>
          timedeltaHours (globe.haversineKm newest.point next.point * roadFactor / speed) ≤
            maxHorizon
      | _, _ =>
          ∃ offset, next.scheduledOffsetMin = some offset ∧
            actualStart + 60 * offset +
              measuredDelay pass.points (pass.whereabouts globe s) actualStart ≤
                pass.now + maxHorizon := by
    constructor
    · rintro ⟨actualStart', next', hstart', hnext', h⟩
      obtain rfl := Option.some.inj (hstart.symm.trans hstart')
      obtain rfl := Option.some.inj (hnext.symm.trans hnext')
      exact h
    · exact fun h => ⟨actualStart, next, hstart, hnext, h⟩
  have htimetable : (∃ offset, next.scheduledOffsetMin = some offset ∧
        actualStart + 60 * offset +
          measuredDelay pass.points (pass.whereabouts globe s) actualStart ≤
            pass.now + maxHorizon) ↔
      ∃ eta, (next.scheduledOffsetMin.map fun offset => max pass.now
        (actualStart + 60 * offset +
          measuredDelay pass.points (pass.whereabouts globe s) actualStart)) = some eta ∧
        eta ≤ pass.now + maxHorizon := by
    cases next.scheduledOffsetMin <;> simp [hclamp]
  rw [honly]
  unfold ownEstimate
  cases (recentFixes pass.search).getLast? with
  | none => simpa [Function.comp_def] using htimetable
  | some newest =>
      cases rollingSpeedKmh globe (recentFixes pass.search) pass.now with
      | none => simpa [Function.comp_def] using htimetable
      | some speed => simp [hclamp, hfirst, speedHorizonStops]

/-! ## §3  Which stop the first arrival is of -/

theorem isNextStop_iff (hunique : (pass.points.map (·.seq)).Nodup) {progress : Option Progress}
    {next : RoutePoint} (hnext : (remaining pass.points (reachedSeq progress)).head? = some next)
    {seq : Int} : IsNextStop pass.points progress seq ↔ seq = next.seq := by
  have hsorted := remaining_sorted hunique (reachedSeq progress)
  obtain ⟨rest, hrest⟩ := List.head?_eq_some_iff.mp hnext
  rw [hrest, List.pairwise_cons] at hsorted
  have hleast : IsNextStop pass.points progress next.seq := by
    constructor
    · have hmem : next ∈ remaining pass.points (reachedSeq progress) := by
        rw [hrest]
        exact List.mem_cons_self
      obtain ⟨hpoint, hahead⟩ := mem_remaining.mp hmem
      exact ⟨next, hpoint, rfl, hahead⟩
    · rintro seq ⟨point, hpoint, rfl, hahead⟩
      have hmem : point ∈ remaining pass.points (reachedSeq progress) :=
        mem_remaining.mpr ⟨hpoint, hahead⟩
      rw [hrest] at hmem
      rcases List.mem_cons.mp hmem with rfl | hlater
      · exact le_refl _
      · exact le_of_lt (hsorted.1 point hlater)
  constructor
  · intro h
    exact h.unique hleast
  · rintro rfl
    exact hleast

/-- The first arrival is of the first stop ahead when that stop is listed at
all. -/
theorem first_seq_iff (hunique : (pass.points.map (·.seq)).Nodup) {actualStart : Instant}
    {first : Arrival} {arrivals : List Arrival}
    (harrivals : pass.arrivals globe s actualStart = first :: arrivals) {next : RoutePoint}
    (hnext : (remaining pass.points (reachedSeq (pass.whereabouts globe s))).head? = some next) :
    first.seq = next.seq ↔ ∃ a ∈ pass.arrivals globe s actualStart, a.seq = next.seq := by
  have hsome : pass.arrivals globe s actualStart ≠ [] := by
    rw [harrivals]
    exact List.cons_ne_nil _ _
  have hsorted : (pass.arrivals globe s actualStart).Pairwise fun a b => a.seq < b.seq :=
    (arrivals_eq_ahead hsome).symm ▸ arrivalsAhead_sorted hunique
  have hfirst : first ∈ pass.arrivals globe s actualStart := by
    rw [harrivals]
    exact List.mem_cons_self
  constructor
  · intro hseq
    exact ⟨first, hfirst, hseq⟩
  · rintro ⟨a, ha, hseq⟩
    obtain ⟨index, point, hpoint, hsame, -⟩ :=
      reported_stop hunique (fun _ => rollingSpeedKmh_usable) (arrivals_eq_ahead hsome ▸ hfirst)
    have hlow : next.seq ≤ first.seq := by
      have hleast := (isNextStop_iff hunique hnext).mpr rfl
      obtain ⟨hmem, hahead⟩ := mem_remaining.mp (List.mem_of_getElem? hpoint)
      rw [hsame]
      exact hleast.2 ⟨point, hmem, rfl, hahead⟩
    rw [harrivals, List.pairwise_cons] at hsorted
    rw [harrivals] at ha
    rcases List.mem_cons.mp ha with rfl | hlater
    · exact hseq
    · exact absurd (hsorted.1 a hlater) (not_lt.mpr (hseq ▸ hlow))

end

/-- **The first arrival of what a pass caches is the next stop exactly when the
next stop itself can be given a time within three hours.** -/
theorem first_arrival_is_next_iff (globe : Globe) (s : EtaStore) (pass : EtaPass)
    (hunique : (pass.points.map (·.seq)).Nodup) (payload : EtaPayload)
    (hcached : pass.cached globe s = some payload) :
    FirstIsNext globe s pass payload ↔ NextEstimable globe s pass := by
  obtain ⟨actualStart, -, hstart, hsome, -, rfl⟩ := cached_eq_some hcached
  obtain ⟨first, arrivals, harrivals⟩ := List.exists_cons_of_ne_nil hsome
  obtain ⟨next, hnext⟩ : ∃ next,
      (remaining pass.points (reachedSeq (pass.whereabouts globe s))).head? = some next := by
    have hfirst : first ∈ pass.arrivals globe s actualStart := by
      rw [harrivals]
      exact List.mem_cons_self
    obtain ⟨index, point, hpoint, -⟩ :=
      reported_stop hunique (fun _ => rollingSpeedKmh_usable) (arrivals_eq_ahead hsome ▸ hfirst)
    have hne : remaining pass.points (reachedSeq (pass.whereabouts globe s)) ≠ [] :=
      List.ne_nil_of_mem (List.mem_of_getElem? hpoint)
    exact ⟨_, List.head?_eq_some_head hne⟩
  have hplace : (remaining pass.points (reachedSeq (pass.whereabouts globe s)))[0]? =
      some next := by
    rw [← List.head?_eq_getElem?]
    exact hnext
  have hhead : (etaPayload pass (pass.arrivals globe s actualStart)).arrivals.head? =
      some (etaEntry pass.now first) := by
    rw [etaPayload, harrivals]
    rfl
  have hlisted := @reported_iff globe pass.points
    ((recentFixes pass.search).getLast?.map Fix.point) (pass.whereabouts globe s) actualStart
    pass.now (rollingSpeedKmh globe (recentFixes pass.search) pass.now) hunique
    (fun _ => rollingSpeedKmh_usable) 0 next hplace
  rw [← arrivals_eq_ahead hsome] at hlisted
  rw [nextEstimable_iff hstart hnext, ← hlisted]
  refine Iff.trans ?_ (first_seq_iff hunique harrivals hnext)
  unfold FirstIsNext
  rw [hhead]
  constructor
  · rintro ⟨entry, hentry, hleast, -⟩
    obtain rfl := Option.some.inj hentry
    exact (isNextStop_iff hunique hnext).mp hleast
  · intro hseq
    refine ⟨_, rfl, (isNextStop_iff hunique hnext).mpr hseq, ?_⟩
    intro now
    rw [nextStopMinutes, Option.bind_some, hhead, Option.map_some]

theorem remaining_of_sorted {points : List RoutePoint} {reached : Int}
    (hahead : ∀ point ∈ points, reached < point.seq)
    (hsorted : points.Pairwise fun a b => a.seq ≤ b.seq) : remaining points reached = points := by
  have hall : points.filter (fun p => reached < p.seq) = points :=
    List.filter_eq_self.mpr fun point hpoint => decide_eq_true (hahead point hpoint)
  unfold remaining OrderBy.stable
  rw [hall]
  exact List.mergeSort_of_pairwise (hsorted.imp fun h => decide_eq_true (Int.cast_le.mpr h))

/-- The bus at its start, with two stops ahead. -/
def twoAhead : EtaPass :=
  { passAt 1 0 with points := [⟨31, 1, 5, 0, some 10⟩, ⟨32, 2, 10, 0, some 15⟩] }

theorem twoAhead_listed :
    (twoAhead.arrivals straightRoad emptyBoard.store 0).map Arrival.seq = [1, 2] := by
  have hprogress : twoAhead.whereabouts straightRoad emptyBoard.store = none := by
    decide +kernel
  unfold EtaPass.arrivals EtaPass.estimated
  rw [hprogress]
  unfold estimateArrivals
  rw [show remaining twoAhead.points (reachedSeq none) = twoAhead.points from
    remaining_of_sorted (by decide) (by decide)]
  decide +kernel

theorem first_arrival_is_next_iff_twoAhead :
    FirstIsNext straightRoad emptyBoard.store twoAhead
        (etaPayload twoAhead (twoAhead.arrivals straightRoad emptyBoard.store 0)) ↔
      NextEstimable straightRoad emptyBoard.store twoAhead := by
  refine first_arrival_is_next_iff straightRoad emptyBoard.store twoAhead (by decide) _ ?_
  have hsome : twoAhead.arrivals straightRoad emptyBoard.store 0 ≠ [] := by
    intro hnil
    have hlisted := twoAhead_listed
    rw [hnil] at hlisted
    cases hlisted
  rw [@cached_busy straightRoad emptyBoard.store twoAhead 0 (by decide) rfl,
    if_pos ⟨hsome, rfl⟩]

/-! ## §4  A stop without a timetable -/

/-- The route of a pass whose next stop has no offset; a single fix gives no
speed. -/
def untimedNext : EtaPass :=
  { passAt 1 0 with points := [⟨31, 1, 5, 0, none⟩, ⟨32, 2, 10, 0, some 15⟩] }

/-- The boards count down to the second stop ahead. -/
theorem first_arrival_skips_the_next_stop :
    ¬ ∀ (globe : Globe) (s : EtaStore) (pass : EtaPass), (pass.points.map (·.seq)).Nodup →
      ∀ payload, pass.cached globe s = some payload → FirstIsNext globe s pass payload := by
  intro hclaim
  have hprogress : untimedNext.whereabouts straightRoad emptyBoard.store = none := by
    decide +kernel
  have hlisted : (untimedNext.arrivals straightRoad emptyBoard.store 0).map Arrival.seq = [2] := by
    unfold EtaPass.arrivals EtaPass.estimated
    rw [hprogress]
    unfold estimateArrivals
    rw [show remaining untimedNext.points (reachedSeq none) = untimedNext.points from
      remaining_of_sorted (by decide) (by decide)]
    decide +kernel
  have hsome : untimedNext.arrivals straightRoad emptyBoard.store 0 ≠ [] := by
    intro hnil
    rw [hnil] at hlisted
    cases hlisted
  obtain ⟨first, hfirst, hnext, -⟩ := hclaim straightRoad emptyBoard.store untimedNext (by decide) _
    ((cached_busy (by decide) rfl).trans (if_pos ⟨hsome, rfl⟩))
  have hseq : first.seq ∈ (untimedNext.arrivals straightRoad emptyBoard.store 0).map Arrival.seq := by
    obtain ⟨arrival, harrival, rfl⟩ := List.mem_map.mp (List.mem_of_mem_head? hfirst)
    exact List.mem_map_of_mem harrival
  rw [hlisted, List.mem_singleton] at hseq
  have hfar := hnext.2 ⟨⟨31, 1, 5, 0, none⟩, List.mem_cons_self, rfl, by rw [hprogress]; decide⟩
  rw [hseq] at hfar
  exact absurd hfar (by decide)

end UniTrack
