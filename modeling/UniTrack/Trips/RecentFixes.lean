import Mathlib.Data.Finset.Max
import Mathlib.Data.Prod.Lex
import UniTrack.Core.Elasticsearch
import UniTrack.Framework.Search
import UniTrack.Worker.EtaEngine

/-!
# Which fixes a pass reads (`_recent_fixes`)

The search asks for the fixes of the last few minutes, oldest first, and for no
more than `FIX_LIMIT` of them: of more, it is given the oldest. The pass takes
the last of what it is given for the newest.

§1 is the search, §2 what is taken for the newest, §3 a bus that reports every
second.
-/

namespace UniTrack

open UniTrack.Framework UniTrack.Python

/-! ## §1  The search -/

/-- `SPEED_WINDOW_S`. -/
def speedWindowS : ℚ := 5 * 60

/-- `FIX_LIMIT`. -/
def fixLimit : ℕ := 200

def inWindow (tripId : TripId) (clock : Instant) (d : FixDoc) : Bool :=
  d.tripId == some tripId && decide (clock - speedWindowS ≤ d.ts)

/-- The fixes of the trip that are no older than the window, at the clock of
the search engine. -/
def window (index : Table FixDoc) (tripId : TripId) (clock : Instant) : List FixDoc :=
  index.rows.filter (inWindow tripId clock)

/-- Oldest first. -/
def oldestFirst (d : FixDoc) : ℚ ×ₗ ℕ := toLex (d.ts, d.docId)

def searchRecent (index : Table FixDoc) (tripId : TripId) (clock : Instant) : List FixDoc :=
  hits (inWindow tripId clock) oldestFirst fixLimit index.rows

def FixDoc.hit (d : FixDoc) : FixHit := ⟨some d.lat, some d.lon, some d.ts⟩

def FixDoc.fix (d : FixDoc) : Fix := ⟨d.lat, d.lon, d.ts⟩

/-- `_recent_fixes`, when the search is answered. -/
def fixesFound (index : Table FixDoc) (tripId : TripId) (clock : Instant) : List Fix :=
  recentFixes (some ((searchRecent index tripId clock).map FixDoc.hit))

/-- The fix that `rolling_speed_kmh` judges by. -/
def judgedBy (fixes : List Fix) : Option Fix := ((OrderBy.stable Fix.ts).sort fixes).getLast?

/-! ## §2  What is taken for the newest -/

/-- A newest fix of the trip within the window. -/
def IsNewest (index : Table FixDoc) (tripId : TripId) (clock : Instant) (fix : Fix) : Prop :=
  (∃ d ∈ window index tripId clock, d.fix = fix) ∧ ∀ d ∈ window index tripId clock, d.ts ≤ fix.ts

/-- The position of the pass and its judgement of the speed are by a newest fix
in the window; without a fix there, they are by none. -/
def UsesNewest (index : Table FixDoc) (tripId : TripId) (clock : Instant) : Prop :=
  (window index tripId clock = [] → fixesFound index tripId clock = []) ∧
    (window index tripId clock ≠ [] → ∃ newest, IsNewest index tripId clock newest ∧
      (fixesFound index tripId clock).getLast? = some newest ∧
      judgedBy (fixesFound index tripId clock) = some newest)

/-- Fewer than `FIX_LIMIT` fixes of the window are older than its newest. -/
def FewOlder (index : Table FixDoc) (tripId : TripId) (clock : Instant) : Prop :=
  ∀ newest ∈ window index tripId clock, (∀ d ∈ window index tripId clock, d.ts ≤ newest.ts) →
    ((window index tripId clock).countP fun d => d.ts < newest.ts) < fixLimit

section
variable {index : Table FixDoc} {tripId : TripId} {clock : Instant}

/-- A window that the limit covers has few fixes older than its newest. -/
theorem fewOlder_of_fits (hfits : (window index tripId clock).length ≤ fixLimit) :
    FewOlder index tripId clock := by
  intro newest hnewest _
  refine lt_of_lt_of_le (lt_of_le_of_ne List.countP_le_length fun hall => ?_) hfits
  exact lt_irrefl newest.ts (of_decide_eq_true (List.countP_eq_length.mp hall newest hnewest))

theorem fixesFound_eq : fixesFound index tripId clock =
    (searchRecent index tripId clock).map FixDoc.fix := by
  unfold fixesFound recentFixes
  rw [Option.getD_some, List.filterMap_map]
  show (searchRecent index tripId clock).filterMap (some ∘ FixDoc.fix) = _
  rw [List.filterMap_eq_map]

theorem sortBy_oldestFirst (docs : List FixDoc) :
    (sortBy oldestFirst docs).Pairwise fun a b => a.ts ≤ b.ts := by
  refine (sortBy_sorted oldestFirst docs).imp ?_
  intro a b hle
  rcases Prod.Lex.toLex_le_toLex.mp hle with hlt | ⟨hequal, -⟩
  · exact le_of_lt hlt
  · exact le_of_eq hequal

/-- What the search gives is in order already. -/
theorem judgedBy_fixesFound :
    judgedBy (fixesFound index tripId clock) = (fixesFound index tripId clock).getLast? := by
  have hsorted : (fixesFound index tripId clock).Pairwise fun a b => a.ts ≤ b.ts := by
    rw [fixesFound_eq]
    refine List.pairwise_map.mpr ?_
    exact (sortBy_oldestFirst (window index tripId clock)).sublist (List.take_sublist _ _)
  unfold judgedBy OrderBy.stable
  exact congrArg List.getLast? (List.mergeSort_of_pairwise (hsorted.imp fun h => decide_eq_true h))

/-- The last of what the search gives, against a newest fix of the window. -/
theorem last_found {newest : FixDoc} (hnewest : newest ∈ window index tripId clock)
    (hlast : ∀ d ∈ window index tripId clock, d.ts ≤ newest.ts) :
    ∃ last, (fixesFound index tripId clock).getLast? = some last ∧
      (IsNewest index tripId clock last ↔
        ((window index tripId clock).countP fun d => d.ts < newest.ts) < fixLimit) := by
  let sorted := sortBy oldestFirst (window index tripId clock)
  have hmem : ∀ d, d ∈ sorted ↔ d ∈ window index tripId clock := fun d => mem_sortBy
  have htake : ∃ last, (sorted.take fixLimit).getLast? = some last ∧ last ∈ sorted ∧
      (last.ts = newest.ts ↔ (sorted.countP fun d => d.ts < newest.ts) < fixLimit) :=
    last_of_take (by decide) (sortBy_oldestFirst (window index tripId clock))
      ((hmem newest).mpr hnewest) (fun d hd => hlast d ((hmem d).mp hd))
  obtain ⟨last, hget, hin, hiff⟩ := htake
  have hcount : sorted.countP (fun d => d.ts < newest.ts) =
      (window index tripId clock).countP fun d => d.ts < newest.ts :=
    (List.perm_insertionSort _ (window index tripId clock)).countP_eq _
  refine ⟨last.fix, ?_, ?_⟩
  · rw [fixesFound_eq, List.getLast?_map]
    exact congrArg (Option.map FixDoc.fix) hget
  · rw [← hcount]
    refine Iff.trans ?_ hiff
    constructor
    · rintro ⟨-, hall⟩
      exact le_antisymm (hlast last ((hmem last).mp hin)) (hall newest hnewest)
    · intro hequal
      refine ⟨⟨last, (hmem last).mp hin, rfl⟩, ?_⟩
      intro d hd
      exact le_of_le_of_eq (hlast d hd) hequal.symm

end

/-- **The newest fix of the window is used exactly when fewer than `FIX_LIMIT`
fixes there are older.** -/
theorem newest_used_iff (index : Table FixDoc) (tripId : TripId) (clock : Instant) :
    UsesNewest index tripId clock ↔ FewOlder index tripId clock := by
  by_cases hempty : window index tripId clock = []
  · refine iff_of_true ⟨fun _ => ?_, fun h => absurd hempty h⟩ ?_
    · rw [fixesFound_eq, searchRecent, hits]
      rw [window] at hempty
      rw [hempty]
      rfl
    · intro newest hnewest
      rw [hempty] at hnewest
      exact absurd hnewest List.not_mem_nil
  · obtain ⟨first, hfirst⟩ := List.exists_mem_of_ne_nil _ hempty
    obtain ⟨newest, hnewest, hlatest⟩ := Finset.exists_max_image
      (window index tripId clock).toFinset FixDoc.ts ⟨first, List.mem_toFinset.mpr hfirst⟩
    rw [List.mem_toFinset] at hnewest
    have hall : ∀ d ∈ window index tripId clock, d.ts ≤ newest.ts :=
      fun d hd => hlatest d (List.mem_toFinset.mpr hd)
    obtain ⟨last, hget, hiff⟩ := last_found hnewest hall
    constructor
    · rintro ⟨-, huses⟩ newest' hnewest' hall'
      obtain ⟨used, hused, hposition, -⟩ := huses hempty
      obtain rfl := Option.some.inj (hget.symm.trans hposition)
      rw [le_antisymm (hall newest' hnewest') (hall' newest hnewest)]
      exact hiff.mp hused
    · intro hfew
      refine ⟨fun h => absurd h hempty, fun _ => ⟨last, ?_, hget, ?_⟩⟩
      · exact hiff.mpr (hfew newest hnewest hall)
      · rw [judgedBy_fixesFound, hget]

/-! ## §3  A bus that reports every second -/

/-- Two hundred and one fixes, one a second. -/
def everySecond : Table FixDoc where
  rows := (List.range 201).map fun n => ⟨n, 9, some 0, n, n, 0, none⟩
  separate := by
    refine List.pairwise_map.mpr (List.pairwise_lt_range.imp ?_)
    intro a b hlt hsame
    exact ne_of_lt hlt (beq_iff_eq.mp hsame)

/-- The pass takes the bus to be where it was a second before its newest fix. -/
theorem limit_hides_the_newest_fix :
    ¬ ∀ (index : Table FixDoc) (tripId : TripId) (clock : Instant),
      UsesNewest index tripId clock := by
  intro hclaim
  have hused : ((fixesFound everySecond 0 200).getLast?).map Fix.ts = some 199 := by
    decide +kernel
  have hthere : (⟨200, 9, some 0, 200, 200, 0, none⟩ : FixDoc) ∈ window everySecond 0 200 := by
    decide +kernel
  obtain ⟨newest, ⟨-, hall⟩, hposition, -⟩ :=
    (hclaim everySecond 0 200).2 (List.ne_nil_of_mem hthere)
  rw [hposition, Option.map_some, Option.some.injEq] at hused
  have hlate := hall _ hthere
  rw [hused] at hlate
  exact absurd hlate (by decide +kernel)

end UniTrack
