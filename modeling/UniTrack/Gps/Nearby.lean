import Mathlib.Data.Finset.Max
import UniTrack.Routes.Tracking
import UniTrack.Trips.Progress

/-!
# Which buses are nearby

The search keeps, of each bus, the last fix inside the circle, and of the buses
the `limit` last heard from there. The endpoint speaks of each bus's latest fix
and of the closest buses. The two agree while no kept bus has been heard from
outside the circle since, and no bus left out is closer than one that is kept.

§1 is what the endpoint promises, §2 when the search keeps the promise, §3 what
the search finds, §4 the two together, §5 a bus that drives on.
-/

namespace UniTrack

open UniTrack.Framework UniTrack.Python

/-! ## §1  What the endpoint promises -/

section
variable (globe : Globe) (index : Table FixDoc) (q : NearbyQuery)

/-- A most recent fix of its bus. -/
def LatestFix (d : FixDoc) : Prop :=
  d ∈ index ∧ ∀ e ∈ index, e.busId = d.busId → e.ts ≤ d.ts

/-- A most recent fix of its bus, fresh, and inside the circle. -/
def Qualifies (d : FixDoc) : Prop :=
  LatestFix index d ∧ q.cutoff ≤ d.ts ∧ q.km globe d ≤ q.radiusKm

/-- The buses whose most recent fix is fresh and inside the circle, each once
with such a fix, closest first; where they are more than `limit`, none of those
left out is closer than one of the `limit` listed. -/
structure NearbyAnswer (limit : ℕ) (buses : List NearbyBus) : Prop where
  latest : ∀ b ∈ buses, ∃ d, Qualifies globe index q d ∧ b = nearbyBus globe q d
  distinct : (buses.map NearbyBus.busId).Nodup
  closestFirst : buses.Pairwise fun a b => a.distanceKm ≤ b.distanceKm
  atMost : buses.length ≤ limit
  complete : ∀ d, Qualifies globe index q d → (∃ b ∈ buses, b.busId = d.busId) ∨
    (buses.length = limit ∧
      ∀ b ∈ buses, globe.haversineKm q.origin b.location ≤ q.km globe d)

/-! ## §2  When the search keeps the promise -/

/-- The bus's last fresh fix inside the circle; of two at one time, the
closer. -/
def LastInside (d : FixDoc) : Prop :=
  d ∈ index.rows ∧ q.matching globe d = true ∧
    ∀ e ∈ index.rows, q.matching globe e = true → e.busId = d.busId →
      q.sortKey globe d ≤ q.sortKey globe e

instance (d : FixDoc) : Decidable (LastInside globe index q d) := by
  unfold LastInside
  infer_instance

/-- How many other buses were heard from inside the circle after this fix. -/
def heardSince (d : FixDoc) : ℕ :=
  (index.rows.filter fun e => LastInside globe index q e).countP
    fun e => q.sortKey globe e < q.sortKey globe d

/-- Of the `limit` buses last heard from inside the circle, none has been heard
from outside since, and none is further away than a bus after them whose most
recent fix is inside. -/
def StillInside (limit : ℕ) : Prop :=
  (∀ d, LastInside globe index q d → heardSince globe index q d < limit → LatestFix index d) ∧
    ∀ d d', LastInside globe index q d → heardSince globe index q d < limit →
      LastInside globe index q d' → limit ≤ heardSince globe index q d' → LatestFix index d' →
        q.km globe d ≤ q.km globe d'

end

/-! ## §3  What the search finds -/

section
variable {globe : Globe} {index : Table FixDoc} {q : NearbyQuery} {limit : ℕ}

theorem sortKey_le {d e : FixDoc} (h : q.sortKey globe d ≤ q.sortKey globe e) :
    e.ts < d.ts ∨ (e.ts = d.ts ∧ q.km globe d ≤ q.km globe e) := by
  rcases Prod.Lex.toLex_le_toLex.mp h with hlt | ⟨hequal, hrest⟩
  · exact Or.inl (neg_lt_neg_iff.mp hlt)
  · refine Or.inr ⟨(neg_inj.mp hequal).symm, ?_⟩
    rcases Prod.Lex.toLex_le_toLex.mp hrest with hcloser | ⟨hsame, -⟩
    · exact le_of_lt hcloser
    · exact le_of_eq hsame

/-- The key tells the documents of an index apart. -/
theorem sortKeys_nodup : ((index.rows.filter (q.matching globe)).map (q.sortKey globe)).Nodup := by
  have hids : ((index.rows.filter (q.matching globe)).map FixDoc.docId).Nodup :=
    (docIds_nodup index).sublist (List.filter_sublist.map _)
  refine List.pairwise_map.mpr ((List.pairwise_map.mp hids).imp ?_)
  intro d e hne hsame
  exact hne (congrArg (fun k : ℚ ×ₗ ℚ ×ₗ ℕ => (ofLex (ofLex k).2).2) hsame)

/-- The search before the cut: of each bus, the last fix inside. -/
def lastInsides (globe : Globe) (index : Table FixDoc) (q : NearbyQuery) : List FixDoc :=
  collapse FixDoc.busId (sortBy (q.sortKey globe) (index.rows.filter (q.matching globe)))

theorem lastInsides_sorted :
    (lastInsides globe index q).Pairwise fun d e => q.sortKey globe d < q.sortKey globe e :=
  (sortBy_strict sortKeys_nodup).sublist (collapseFrom_sublist [] _)

theorem mem_lastInsides {d : FixDoc} :
    d ∈ lastInsides globe index q ↔ LastInside globe index q d := by
  rw [lastInsides, mem_collapse (sortBy_strict sortKeys_nodup)]
  simp only [mem_sortBy, List.mem_filter, LastInside]
  constructor
  · rintro ⟨⟨hmem, hmatching⟩, hleast⟩
    exact ⟨hmem, hmatching, fun e he hematch => hleast e ⟨he, hematch⟩⟩
  · rintro ⟨hmem, hmatching, hleast⟩
    exact ⟨⟨hmem, hmatching⟩, fun e he => hleast e he.1 he.2⟩

theorem heardSince_eq (d : FixDoc) : heardSince globe index q d =
    (lastInsides globe index q).countP fun e => q.sortKey globe e < q.sortKey globe d := by
  have hnodup : (lastInsides globe index q).Nodup :=
    lastInsides_sorted.imp fun hlt hsame => ne_of_lt hlt (congrArg (q.sortKey globe) hsame)
  have hrows : index.rows.Nodup := (docIds_nodup index).of_map _
  have hperm : (index.rows.filter fun e => LastInside globe index q e).Perm
      (lastInsides globe index q) := by
    refine (List.perm_ext_iff_of_nodup (hrows.filter _) hnodup).mpr ?_
    intro e
    rw [mem_lastInsides, List.mem_filter, decide_eq_true_eq]
    exact ⟨fun h => h.2, fun h => ⟨h.1, h⟩⟩
  exact hperm.countP_eq _

theorem mem_nearbyHits {d : FixDoc} : d ∈ nearbyHits globe index q limit ↔
    LastInside globe index q d ∧ heardSince globe index q d < limit := by
  rw [heardSince_eq, ← mem_lastInsides]
  exact mem_take_iff lastInsides_sorted

/-- Each bus has at most one hit. -/
theorem nearbyHits_bus {d e : FixDoc} (hd : LastInside globe index q d)
    (he : LastInside globe index q e) (hbus : d.busId = e.busId) : d = e := by
  have hnodup : ((lastInsides globe index q).map FixDoc.busId).Nodup := collapse_nodup _
  exact List.inj_on_of_nodup_map hnodup (mem_lastInsides.mpr hd) (mem_lastInsides.mpr he) hbus

/-- A bus with a fresh fix inside has a last one. -/
theorem exists_lastInside {d : FixDoc} (hmem : d ∈ index) (hmatching : q.matching globe d = true) :
    ∃ last, LastInside globe index q last ∧ last.busId = d.busId ∧
      q.sortKey globe last ≤ q.sortKey globe d := by
  let own := (index.rows.filter fun e => q.matching globe e && e.busId == d.busId).toFinset
  have hown : ∀ e, e ∈ own ↔ e ∈ index.rows ∧ q.matching globe e = true ∧ e.busId = d.busId := by
    intro e
    simp only [own, List.mem_toFinset, List.mem_filter, Bool.and_eq_true, beq_iff_eq]
  obtain ⟨last, hlast, hleast⟩ := Finset.exists_min_image own (q.sortKey globe)
    ⟨d, (hown d).mpr ⟨hmem, hmatching, rfl⟩⟩
  obtain ⟨hin, hinside, hbus⟩ := (hown last).mp hlast
  refine ⟨last, ⟨hin, hinside, ?_⟩, hbus, hleast d ((hown d).mpr ⟨hmem, hmatching, rfl⟩)⟩
  intro e he hematch hebus
  exact hleast e ((hown e).mpr ⟨he, hematch, hebus.trans hbus⟩)

theorem matching_iff {d : FixDoc} :
    q.matching globe d = true ↔ q.km globe d ≤ q.radiusKm ∧ q.cutoff ≤ d.ts := by
  rw [NearbyQuery.matching, Bool.and_eq_true, decide_eq_true_eq, decide_eq_true_eq]

/-- Where the latest fix of a bus qualifies, its last fix inside is as recent,
and no further away. -/
theorem Qualifies.lastInside {d : FixDoc} (h : Qualifies globe index q d) :
    ∃ last, LastInside globe index q last ∧ last.busId = d.busId ∧ LatestFix index last ∧
      q.km globe last ≤ q.km globe d := by
  obtain ⟨⟨hmem, hlatest⟩, hfresh, hinside⟩ := h
  obtain ⟨last, hlast, hbus, hle⟩ := exists_lastInside hmem (matching_iff.mpr ⟨hinside, hfresh⟩)
  have hnotlater : last.ts ≤ d.ts := hlatest last hlast.1 hbus
  rcases sortKey_le hle with hlt | ⟨hsame, hkm⟩
  · exact absurd hnotlater (not_le.mpr hlt)
  · refine ⟨last, hlast, hbus, ⟨hlast.1, ?_⟩, hkm⟩
    intro e he hebus
    rw [← hsame]
    exact hlatest e he (hebus.trans hbus)

theorem mem_nearbyBuses {b : NearbyBus} : b ∈ nearbyBuses globe index q limit ↔
    ∃ d, (LastInside globe index q d ∧ heardSince globe index q d < limit) ∧
      nearbyBus globe q d = b := by
  rw [nearbyBuses, mem_sortBy, List.mem_map]
  simp only [mem_nearbyHits]

theorem length_nearbyBuses :
    (nearbyBuses globe index q limit).length = (nearbyHits globe index q limit).length := by
  rw [nearbyBuses, sortBy, (List.perm_insertionSort _ _).length_eq, List.length_map]

/-- A bus that is cut off leaves a full list. -/
theorem full_of_cut {d : FixDoc} (hcut : limit ≤ heardSince globe index q d) :
    (nearbyBuses globe index q limit).length = limit := by
  rw [length_nearbyBuses]
  show ((lastInsides globe index q).take limit).length = limit
  rw [heardSince_eq] at hcut
  rw [List.length_take]
  exact min_eq_left (le_trans hcut List.countP_le_length)

/-! ## §4  The two together -/

/-- What is listed keeps the promise, once no bus that is kept has left. -/
theorem StillInside.answer (h : StillInside globe index q limit) :
    NearbyAnswer globe index q limit (nearbyBuses globe index q limit) := by
  obtain ⟨hlatest, hcloser⟩ := h
  refine ⟨?_, ?_, sortBy_sorted _ _, ?_, ?_⟩
  · intro b hb
    obtain ⟨d, ⟨hd, hkept⟩, rfl⟩ := mem_nearbyBuses.mp hb
    obtain ⟨hinside, hfresh⟩ := matching_iff.mp hd.2.1
    exact ⟨d, ⟨hlatest d hd hkept, hfresh, hinside⟩, rfl⟩
  · have hperm := (List.perm_insertionSort (fun a b : NearbyBus => a.distanceKm ≤ b.distanceKm)
      ((nearbyHits globe index q limit).map (nearbyBus globe q))).map NearbyBus.busId
    refine hperm.nodup_iff.mpr ?_
    rw [List.map_map]
    exact (collapse_nodup _).sublist ((List.take_sublist _ _).map _)
  · rw [length_nearbyBuses]
    exact List.length_take_le _ _
  · intro d hd
    obtain ⟨last, hlast, hbus, hlatest', hkm⟩ := hd.lastInside
    by_cases hkept : heardSince globe index q last < limit
    · exact Or.inl ⟨_, mem_nearbyBuses.mpr ⟨last, ⟨hlast, hkept⟩, rfl⟩, hbus⟩
    · -- the bus is cut off
      refine Or.inr ⟨full_of_cut (not_lt.mp hkept), ?_⟩
      intro b hb
      obtain ⟨e, ⟨he, hekept⟩, rfl⟩ := mem_nearbyBuses.mp hb
      exact le_trans (hcloser e last he hekept hlast (not_lt.mp hkept) hlatest') hkm

/-- A list that keeps the promise is of buses that are still inside. -/
theorem NearbyAnswer.stillInside
    (h : NearbyAnswer globe index q limit (nearbyBuses globe index q limit)) :
    StillInside globe index q limit := by
  constructor
  · intro d hd hkept
    obtain ⟨e, ⟨⟨-, hlatest⟩, -, -⟩, hsame⟩ :=
      h.latest _ (mem_nearbyBuses.mpr ⟨d, ⟨hd, hkept⟩, rfl⟩)
    have hbus : d.busId = e.busId := congrArg NearbyBus.busId hsame
    have hts : d.ts = e.ts := congrArg NearbyBus.ts hsame
    refine ⟨hd.1, ?_⟩
    intro e' he' hbus'
    rw [hts]
    exact hlatest e' he' (hbus'.trans hbus)
  · intro d d' hd hkept hd' hcut hlatest'
    obtain ⟨hinside, hfresh⟩ := matching_iff.mp hd'.2.1
    rcases h.complete d' ⟨hlatest', hfresh, hinside⟩ with ⟨b, hb, hbus⟩ | ⟨-, hcloser⟩
    · obtain ⟨e, ⟨he, hekept⟩, rfl⟩ := mem_nearbyBuses.mp hb
      obtain rfl : e = d' := nearbyHits_bus he hd' hbus
      exact absurd hekept (not_lt.mpr hcut)
    · exact hcloser _ (mem_nearbyBuses.mpr ⟨d, ⟨hd, hkept⟩, rfl⟩)

end

/-- **`nearby_buses` keeps its promise exactly when the buses last heard from
inside the circle are still inside**, and none that is cut off is closer. -/
theorem nearby_answer_iff (globe : Globe) (index : Table FixDoc) (q : NearbyQuery) (limit : ℕ) :
    NearbyAnswer globe index q limit (nearbyBuses globe index q limit) ↔
      StillInside globe index q limit :=
  ⟨NearbyAnswer.stillInside, StillInside.answer⟩

/-! ## §5  A bus that drives on -/

/-- One bus: a kilometre away, and ten a minute later. -/
def drivenOn : Table FixDoc where
  rows := [⟨0, 9, some 0, 0, 1, 0, none⟩, ⟨1, 9, some 0, 60, 10, 0, none⟩]
  separate := by decide

/-- Within five kilometres, in the last two minutes, at the time of the second
fix. -/
def fromHere : NearbyQuery := buildNearbyQuery ⟨0, 0⟩ 5 60

/-- The bus is reported where it was, not where it is. -/
theorem departed_bus_is_still_nearby :
    ¬ ∀ (globe : Globe) (index : Table FixDoc) (q : NearbyQuery) (limit : ℕ),
      NearbyAnswer globe index q limit (nearbyBuses globe index q limit) := by
  intro hclaim
  have hlisted : nearbyBuses straightRoad drivenOn fromHere 20 =
      [{ busId := 9, location := ⟨1, 0⟩, ts := 0, speed := none, distanceKm := 1 }] := by
    decide +kernel
  obtain ⟨d, ⟨⟨-, hlatest⟩, -, -⟩, hsame⟩ := (hclaim straightRoad drivenOn fromHere 20).latest
    { busId := 9, location := ⟨1, 0⟩, ts := 0, speed := none, distanceKm := 1 }
    (by rw [hlisted]; exact List.mem_singleton_self _)
  have hbus : 9 = d.busId := congrArg NearbyBus.busId hsame
  have hts : 0 = d.ts := congrArg NearbyBus.ts hsame
  have hlater := hlatest ⟨1, 9, some 0, 60, 10, 0, none⟩
    (Table.mem_def.mpr (by decide)) hbus
  rw [← hts] at hlater
  exact absurd hlater (by decide +kernel)

end UniTrack
