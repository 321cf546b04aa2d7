import UniTrack.Framework.Runs
import UniTrack.Worker.EtaEngine

/-!
# Progress of a trip over many passes

Within a pass progress only moves forward. Between passes it lives in a record
that expires, and only a pass that reaches a new stop writes it again: a bus
that stands between two stops for longer than the record lasts is back at the
start of its route.

## §1 The passes of a run
## §2 Records
## §3 One pass
## §4 Runs
-/

namespace UniTrack

open UniTrack.Framework UniTrack.Python

/-! ## §1 The passes of a run -/

/-- The store, with the stops handed to the estimates so far, latest first. -/
structure EtaRun where
  store : EtaStore
  handed : List (TripId × Int)

def etaPass (globe : Globe) (s : EtaRun) (pass : EtaPass) : EtaRun :=
  let result := computeForTrip globe s.store pass
  match result.handed with
  | none => ⟨result.store, s.handed⟩
  | some progress => ⟨result.store, (pass.trip.id, reachedSeq progress) :: s.handed⟩

/-- No pass hands on less than an earlier pass of its trip. -/
def NeverBack (s : EtaRun) : Prop :=
  s.handed.Pairwise fun later earlier => later.1 = earlier.1 → earlier.2 ≤ later.2

/-- What the last pass of the trip handed on. -/
def EtaRun.lastSeq (s : EtaRun) (tripId : TripId) : Int :=
  ((s.handed.find? fun entry => entry.1 == tripId).map Prod.snd).getD 0

/-- A pass that estimates anything finds the trip's record, not expired and not
behind the last pass, or the bus at a stop that is not behind it either. -/
def Remembered (globe : Globe) (s : EtaRun) (pass : EtaPass) : Prop :=
  pass.Idle ∨ s.lastSeq pass.trip.id ≤ 0 ∨
    (pass.load.outcome.heard = true ∧ ∃ record, s.store.progress pass.trip.id = some record ∧
      pass.load.time < record.deadline ∧ s.lastSeq pass.trip.id ≤ record.value.seq) ∨
    ∃ seq, PassedBy globe pass.points (recentFixes pass.search) seq ∧ s.lastSeq pass.trip.id ≤ seq

/-! ## §2 Records -/

/-- Every record is of a stop ahead of the start. -/
def RecordsAhead (s : EtaRun) : Prop :=
  ∀ tripId record, s.store.progress tripId = some record → 0 < record.value.seq

/-- The stop of a trip's record, expired or not. -/
def EtaRun.recordedSeq (s : EtaRun) (tripId : TripId) : Int :=
  ((s.store.progress tripId).map fun record => record.value.seq).getD 0

/-- The record of a trip is what its last pass handed on. -/
def RecordsLast (s : EtaRun) : Prop := ∀ tripId, s.recordedSeq tripId = s.lastSeq tripId

section
variable {globe : Globe} {s : EtaRun} {pass : EtaPass}

theorem RecordsAhead.loaded (h : RecordsAhead s) (tripId : TripId) (call : RedisCall) :
    0 ≤ reachedSeq (loadProgress s.store tripId call) := by
  cases hload : loadProgress s.store tripId call with
  | none => exact le_refl 0
  | some progress =>
      obtain ⟨-, deadline, hrecord, -⟩ := loadProgress_eq_some.mp hload
      exact le_of_lt (h tripId _ hrecord)

theorem lastSeq_cons_self (store : EtaStore) (handed : List (TripId × Int)) (tripId : TripId)
    (seq : Int) : (EtaRun.mk store ((tripId, seq) :: handed)).lastSeq tripId = seq := by
  simp [EtaRun.lastSeq]

theorem lastSeq_cons_of_ne {store : EtaStore} {handed : List (TripId × Int)}
    {tripId tripId' : TripId} {seq : Int} (h : tripId' ≠ tripId) :
    (EtaRun.mk store ((tripId', seq) :: handed)).lastSeq tripId =
      (EtaRun.mk store handed).lastSeq tripId := by
  simp [EtaRun.lastSeq, h]

/-- Over a log that never goes back, the last entry of a trip bounds them all. -/
theorem NeverBack.last_bounds (h : NeverBack s) {tripId : TripId} {seq : Int} (hseq : 0 ≤ seq) :
    (∀ entry ∈ s.handed, tripId = entry.1 → entry.2 ≤ seq) ↔ s.lastSeq tripId ≤ seq := by
  obtain ⟨store, handed⟩ := s
  induction handed with
  | nil => simp [EtaRun.lastSeq, hseq]
  | cons entry handed ih =>
      obtain ⟨hhead, htail⟩ := List.pairwise_cons.mp h
      obtain ⟨id, last⟩ := entry
      by_cases hid : id = tripId
      · subst hid
        rw [lastSeq_cons_self]
        constructor
        · intro hall
          exact hall _ List.mem_cons_self rfl
        · intro hle entry hentry hsame
          rcases List.mem_cons.mp hentry with rfl | hentry
          · exact hle
          · exact le_trans (hhead entry hentry hsame) hle
      · rw [lastSeq_cons_of_ne hid, ← ih htail, List.forall_mem_cons]
        constructor
        · rintro ⟨-, hall⟩
          exact hall
        · intro hall
          exact ⟨fun hsame => absurd hsame.symm hid, hall⟩

/-! ## §3 One pass -/

/-- What a pass that estimates nothing, or one that does, leaves behind. -/
theorem etaPass_cases :
    (pass.Idle ∧ etaPass globe s pass = s) ∨
    (¬ pass.Idle ∧
      (etaPass globe s pass).handed =
        (pass.trip.id, reachedSeq (trackProgress globe s.store pass).2) :: s.handed ∧
      (etaPass globe s pass).store.progress = (trackProgress globe s.store pass).1.progress) := by
  unfold etaPass
  dsimp only
  rcases @computeForTrip_cases globe s.store pass with ⟨hidle, hnone, hstore⟩ | ⟨hbusy, hsome, hprogress⟩
  · rw [hnone, hstore]
    exact Or.inl ⟨hidle, rfl⟩
  · rw [hsome]
    exact Or.inr ⟨hbusy, rfl, hprogress⟩

/-- The record of a trip after a pass. -/
theorem trackProgress_record (tripId : TripId) :
    (trackProgress globe s.store pass).1.progress tripId = s.store.progress tripId ∨
    (tripId = pass.trip.id ∧ pass.save.outcome.applied = true ∧
      ∃ advanced, (trackProgress globe s.store pass).2 = some advanced ∧
        reachedSeq (loadProgress s.store tripId pass.load) < advanced.seq ∧
        (trackProgress globe s.store pass).1.progress tripId =
          some ⟨advanced, pass.save.time + etaTtlS⟩) := by
  rcases @trackProgress_cases globe s.store pass with ⟨hstore, -⟩ | ⟨advanced, hsome, hlt, hstore⟩
  · rw [hstore]
    exact Or.inl rfl
  · rw [hstore]
    unfold saveProgress
    cases happlied : pass.save.outcome.applied with
    | false => exact Or.inl rfl
    | true =>
        by_cases htrip : tripId = pass.trip.id
        · subst htrip
          exact Or.inr ⟨rfl, rfl, advanced, hsome, hlt, KeyValues.set_self ..⟩
        · exact Or.inl (KeyValues.set_of_ne htrip)

theorem RecordsAhead.step (h : RecordsAhead s) : RecordsAhead (etaPass globe s pass) := by
  rcases @etaPass_cases globe s pass with ⟨-, hsame⟩ | ⟨-, -, hprogress⟩
  · rw [hsame]
    exact h
  · intro tripId record hrecord
    rw [hprogress] at hrecord
    rcases @trackProgress_record globe s pass tripId with hkept | ⟨-, -, advanced, -, hlt, hsaved⟩
    · exact h tripId record (hkept.symm.trans hrecord)
    · obtain rfl := Option.some.inj (hsaved.symm.trans hrecord)
      exact lt_of_le_of_lt (h.loaded tripId pass.load) hlt

/-- What is loaded reaches any stop short of the start, and those up to the record. -/
theorem RecordsAhead.le_loaded_iff (h : RecordsAhead s) {tripId : TripId} {call : RedisCall}
    {n : Int} : n ≤ reachedSeq (loadProgress s.store tripId call) ↔
      n ≤ 0 ∨ (call.outcome.heard = true ∧ ∃ record, s.store.progress tripId = some record ∧
        call.time < record.deadline ∧ n ≤ record.value.seq) := by
  constructor
  · intro hle
    cases hload : loadProgress s.store tripId call with
    | none =>
        rw [hload] at hle
        exact Or.inl hle
    | some progress =>
        rw [hload] at hle
        obtain ⟨hheard, deadline, hrecord, hlive⟩ := loadProgress_eq_some.mp hload
        exact Or.inr ⟨hheard, _, hrecord, hlive, hle⟩
  · rintro (hle | ⟨hheard, record, hrecord, hlive, hle⟩)
    · exact le_trans hle (h.loaded tripId call)
    · have hload : loadProgress s.store tripId call = some record.value :=
        loadProgress_eq_some.mpr ⟨hheard, record.deadline, hrecord, hlive⟩
      rw [hload]
      exact hle

/-- A pass that estimates remembers exactly when it goes on with no less than
the last one did. -/
theorem remembered_iff (hrecords : RecordsAhead s) (hbusy : ¬ pass.Idle) :
    Remembered globe s pass ↔
      s.lastSeq pass.trip.id ≤ reachedSeq (trackProgress globe s.store pass).2 := by
  rw [reached_trackProgress.le_iff, hrecords.le_loaded_iff, or_assoc]
  unfold Remembered
  exact or_iff_right hbusy

/-- A pass keeps the log from going back exactly when it remembers. -/
theorem neverBack_step_iff (hrecords : RecordsAhead s) (h : NeverBack s) :
    NeverBack (etaPass globe s pass) ↔ Remembered globe s pass := by
  rcases @etaPass_cases globe s pass with ⟨hidle, hsame⟩ | ⟨hbusy, hhanded, -⟩
  · rw [hsame]
    exact iff_of_true h (Or.inl hidle)
  · have hforward : 0 ≤ reachedSeq (trackProgress globe s.store pass).2 :=
      le_trans (hrecords.loaded _ _) reached_trackProgress.forward
    rw [remembered_iff hrecords hbusy, ← h.last_bounds hforward]
    unfold NeverBack
    rw [hhanded, List.pairwise_cons]
    exact and_iff_left h

theorem lastSeq_etaPass (hbusy : ¬ pass.Idle) (tripId : TripId) :
    (etaPass globe s pass).lastSeq tripId =
      if tripId = pass.trip.id then reachedSeq (trackProgress globe s.store pass).2
      else s.lastSeq tripId := by
  rcases @etaPass_cases globe s pass with ⟨hidle, -⟩ | ⟨-, hhanded, -⟩
  · exact absurd hidle hbusy
  · have hlast : (etaPass globe s pass).lastSeq tripId =
        (EtaRun.mk s.store ((pass.trip.id, reachedSeq (trackProgress globe s.store pass).2) ::
          s.handed)).lastSeq tripId := by
      unfold EtaRun.lastSeq
      rw [hhanded]
    rw [hlast]
    by_cases htrip : tripId = pass.trip.id
    · subst htrip
      rw [lastSeq_cons_self, if_pos rfl]
    · rw [lastSeq_cons_of_ne (Ne.symm htrip), if_neg htrip]

theorem RecordsAhead.loaded_le (h : RecordsAhead s) (tripId : TripId) (call : RedisCall) :
    reachedSeq (loadProgress s.store tripId call) ≤ s.recordedSeq tripId := by
  unfold EtaRun.recordedSeq
  cases hload : loadProgress s.store tripId call with
  | none =>
      cases hrecord : s.store.progress tripId with
      | none => exact le_refl 0
      | some record => exact le_of_lt (h tripId record hrecord)
  | some progress =>
      obtain ⟨-, deadline, hrecord, -⟩ := loadProgress_eq_some.mp hload
      rw [hrecord]
      exact le_refl _

/-- A pass that remembers, and whose save is carried out, leaves the record at
what it handed on. -/
theorem RecordsLast.step (h : RecordsLast s) (hrecords : RecordsAhead s)
    (hsave : pass.save.outcome.applied = true) (hremembered : Remembered globe s pass) :
    RecordsLast (etaPass globe s pass) := by
  rcases @etaPass_cases globe s pass with ⟨-, hsame⟩ | ⟨hbusy, -, hprogress⟩
  · rw [hsame]
    exact h
  · intro tripId
    have hlast : s.recordedSeq tripId = s.lastSeq tripId := h tripId
    have hrecorded : (etaPass globe s pass).recordedSeq tripId =
        EtaRun.recordedSeq ⟨(trackProgress globe s.store pass).1, []⟩ tripId := by
      unfold EtaRun.recordedSeq
      rw [hprogress]
    rw [hrecorded, lastSeq_etaPass hbusy]
    rcases @trackProgress_cases globe s.store pass with
      ⟨hstore, hloaded⟩ | ⟨advanced, hsome, -, hstore⟩
    · rw [hstore]
      by_cases htrip : tripId = pass.trip.id
      · subst htrip
        rw [if_pos rfl]
        -- nothing was saved: what was loaded is the record
        have hge := (remembered_iff hrecords hbusy).mp hremembered
        have hle := hrecords.loaded_le pass.trip.id pass.load
        rw [hloaded] at hge ⊢
        exact le_antisymm (hlast.le.trans hge) hle
      · rw [if_neg htrip]
        exact hlast
    · rw [hstore, hsome]
      unfold saveProgress EtaRun.recordedSeq
      rw [if_pos hsave]
      by_cases htrip : tripId = pass.trip.id
      · subst htrip
        rw [if_pos rfl]
        show ((s.store.progress.set _ _ _ _ _).map _).getD 0 = _
        rw [KeyValues.set_self]
        rfl
      · rw [if_neg htrip]
        show ((s.store.progress.set _ _ _ _ _).map _).getD 0 = _
        rw [KeyValues.set_of_ne htrip]
        exact hlast

/-! ## §4 Runs -/

/-- Passes over any trips, with nothing recorded yet. -/
def nothingRecorded : EtaRun := ⟨⟨.empty TripId Progress, .empty TripId EtaPayload⟩, []⟩

/-- **Progress never goes back** over a sequence of passes, at any times and
with any fixes, exactly when every pass still remembers how far its trip was. -/
theorem never_back_iff_remembered (globe : Globe) (passes : List EtaPass) :
    Always (etaPass globe) NeverBack nothingRecorded passes ↔
      Throughout (etaPass globe) (Remembered globe) nothingRecorded passes := by
  refine always_iff_throughout RecordsAhead (D := fun _ => True) ?_ ?_ ?_ ?_ fun _ _ => trivial
  · exact fun s pass _ hrecords _ _ => hrecords.step
  · exact fun s pass _ hrecords h => neverBack_step_iff hrecords h
  · exact nofun
  · exact List.Pairwise.nil

/-- The trip's record has not expired when the pass reads it, or there is
nothing to remember, or the bus is at a stop not behind the last pass. -/
def Unexpired (globe : Globe) (s : EtaRun) (pass : EtaPass) : Prop :=
  pass.Idle ∨ s.lastSeq pass.trip.id ≤ 0 ∨
    (pass.load.outcome.heard = true ∧ s.store.progress.live pass.load.time pass.trip.id = true) ∨
    ∃ seq, PassedBy globe pass.points (recentFixes pass.search) seq ∧ s.lastSeq pass.trip.id ≤ seq

theorem RecordsLast.remembered_iff (h : RecordsLast s) :
    Remembered globe s pass ↔ Unexpired globe s pass := by
  have hrecord : ∀ record, s.store.progress pass.trip.id = some record →
      s.lastSeq pass.trip.id ≤ record.value.seq := by
    intro record hrecord
    have hlast := h pass.trip.id
    unfold EtaRun.recordedSeq at hlast
    rw [hrecord] at hlast
    exact hlast.ge
  unfold Remembered Unexpired
  rw [KeyValues.live_iff]
  refine or_congr_right (or_congr_right (or_congr_left (and_congr_right fun _ => ?_)))
  refine exists_congr fun record => and_congr_right fun hfound => ?_
  exact and_iff_left (hrecord record hfound)

/-- While Redis carries out the saves, the record need only not have expired. -/
theorem never_back_iff_unexpired (globe : Globe) (passes : List EtaPass)
    (hsaves : ∀ pass ∈ passes, pass.save.outcome.applied = true) :
    Always (etaPass globe) NeverBack nothingRecorded passes ↔
      Throughout (etaPass globe) (Unexpired globe) nothingRecorded passes := by
  refine always_iff_throughout (fun s => RecordsAhead s ∧ RecordsLast s) ?_ ?_ ?_ ?_ hsaves
  · intro s pass hsave ⟨hrecords, hlast⟩ _ hunexpired
    exact ⟨hrecords.step, hlast.step hrecords hsave (hlast.remembered_iff.mpr hunexpired)⟩
  · intro s pass _ ⟨hrecords, hlast⟩ h
    rw [neverBack_step_iff hrecords h, hlast.remembered_iff]
  · exact ⟨nofun, fun _ => rfl⟩
  · exact List.Pairwise.nil

/-! ### Half an hour between two stops -/

/-- A road that runs straight north, in kilometres. -/
def straightRoad : Globe := ⟨fun a b => if a.lat ≤ b.lat then b.lat - a.lat else a.lat - b.lat⟩

def northbound : List RoutePoint := [⟨31, 1, 0, 0, some 0⟩, ⟨32, 2, 5, 0, some 15⟩,
  ⟨33, 3, 10, 0, some 30⟩]

/-- A pass with the bus at this kilometre. -/
def passAt (minute : ℚ) (km : ℚ) : EtaPass where
  trip := ⟨0, 5, 3, 9, 19900, some 0, none, .live⟩
  points := northbound
  search := some [⟨some km, some 0, some (60 * minute)⟩]
  now := 60 * minute
  load := ⟨60 * minute, .done⟩
  save := ⟨60 * minute, .done⟩
  publish := ⟨60 * minute, .done⟩

/-- The bus reaches the second stop and stands in traffic beyond it. The passes
in between read the record without renewing it, and after half an hour the trip
is back at its start. -/
theorem stuck_bus_is_back_at_the_start :
    ¬ NeverBack (run (etaPass straightRoad) nothingRecorded
      [passAt 15 5, passAt 30 7, passAt 44 7, passAt 45 7]) := by
  intro h
  have hhanded : (run (etaPass straightRoad) nothingRecorded
      [passAt 15 5, passAt 30 7, passAt 44 7, passAt 45 7]).handed =
        [(0, 0), (0, 2), (0, 2), (0, 2)] := by
    decide +kernel
  unfold NeverBack at h
  rw [hhanded] at h
  exact absurd h (by decide)

end

end UniTrack
