import UniTrack.Framework.Records
import UniTrack.Services.Eta

/-!
# The furthest stop reached, and when (`advance_progress`)

The two loops of `advance_progress` are one scan over the stops that the fixes
were at, in order of time: it ends with the furthest stop and the first fix
that was there. Hence neither the order of the stops nor that of the fixes
matters, and running it again on the same fixes changes nothing.

§1 is the scan, §2 what it ends with.
-/

namespace UniTrack

open UniTrack.Framework UniTrack.Python

section
variable {globe : Globe} {points : List RoutePoint} {fixes : List Fix}

/-! ## §1  The scan -/

/-- The stops a fix was at, with its time. -/
def hitsOf (globe : Globe) (points : List RoutePoint) (fix : Fix) : List (Option Progress) :=
  (points.filter fun point => atStop globe fix point).map fun point => some ⟨point.seq, fix.ts⟩

def allHits (globe : Globe) (points : List RoutePoint) (fixes : List Fix) : List (Option Progress) :=
  fixes.flatMap (hitsOf globe points)

def reachedTime (progress : Option Progress) : Instant := (progress.map (·.reachedAt)).getD 0

/-- Some fix was at a stop with this seq, at this time. -/
def Hit (globe : Globe) (points : List RoutePoint) (fixes : List Fix) (seq : Int)
    (ts : Instant) : Prop :=
  ∃ fix ∈ fixes, fix.ts = ts ∧ ∃ point ∈ points, atStop globe fix point ∧ point.seq = seq

theorem mem_hits {value : Option Progress} :
    value ∈ allHits globe points fixes ↔
      ∃ progress, value = some progress ∧ Hit globe points fixes progress.seq progress.reachedAt := by
  simp only [allHits, hitsOf, List.mem_flatMap, List.mem_map, List.mem_filter, decide_eq_true_eq]
  constructor
  · rintro ⟨fix, hfix, point, ⟨hpoint, hat⟩, rfl⟩
    exact ⟨_, rfl, fix, hfix, rfl, point, hpoint, hat, rfl⟩
  · rintro ⟨progress, rfl, fix, hfix, hts, point, hpoint, hat, hseq⟩
    refine ⟨fix, hfix, point, ⟨hpoint, hat⟩, ?_⟩
    rw [hts, hseq]

theorem reachStops_eq_scan (best : Option Progress) (fix : Fix) :
    reachStops globe points best fix = (hitsOf globe points fix).foldl (raise reachedSeq) best := by
  unfold reachStops hitsOf
  induction points generalizing best with
  | nil => rfl
  | cons point points ih =>
      rw [List.foldl_cons, ih]
      by_cases hat : atStop globe fix point
      · rw [List.filter_cons_of_pos (by simpa using hat), List.map_cons, List.foldl_cons]
        congr 1
        rw [reachStop, if_pos hat]
        rfl
      · rw [List.filter_cons_of_neg (by simpa using hat), reachStop, if_neg hat, ite_self]

theorem window_eq_scan (best : Option Progress) :
    fixes.foldl (reachStops globe points) best =
      (allHits globe points fixes).foldl (raise reachedSeq) best := by
  induction fixes generalizing best with
  | nil => rfl
  | cons fix fixes ih =>
      rw [List.foldl_cons, ih, reachStops_eq_scan, ← List.foldl_append]
      rfl

/-- Fixes in order of time hit stops in order of time. -/
theorem hits_sorted (hsorted : fixes.Pairwise fun a b => a.ts ≤ b.ts) :
    (allHits globe points fixes).Pairwise fun a b => reachedTime a ≤ reachedTime b := by
  refine List.pairwise_flatMap.mpr ⟨?_, hsorted.imp ?_⟩
  · intro fix _
    refine List.pairwise_map.mpr (List.pairwise_of_forall ?_)
    intro a b
    exact le_refl fix.ts
  · intro fix fix' hle a ha b hb
    obtain ⟨p, -, rfl⟩ := List.mem_map.mp ha
    obtain ⟨p', -, rfl⟩ := List.mem_map.mp hb
    exact hle

/-! ## §2  Where it ends -/

theorem mem_hits_of_perm {points' : List RoutePoint} {fixes' : List Fix}
    (hpoints : points'.Perm points) (hfixes : fixes'.Perm fixes) (value : Option Progress) :
    value ∈ allHits globe points' fixes' ↔ value ∈ allHits globe points fixes := by
  simp only [mem_hits, Hit, hpoints.mem_iff, hfixes.mem_iff]

/-- The furthest stop that some fix was at, as first reached; or the progress
there was before. -/
theorem firstHighest_advanceProgress (previous : Option Progress) :
    FirstHighest reachedSeq reachedTime (· ∈ allHits globe points fixes) previous
      (advanceProgress globe points fixes previous) := by
  have hscan : FirstHighest reachedSeq reachedTime (· ∈ allHits globe points fixes) previous
      (((OrderBy.stable Fix.ts).sort fixes).foldl (reachStops globe points) previous) := by
    have hperm := (OrderBy.stable Fix.ts).perm fixes
    rw [window_eq_scan]
    exact (firstHighest_foldl_raise (hits_sorted ((OrderBy.stable Fix.ts).sorted fixes))
      previous).congr (mem_hits_of_perm (List.Perm.refl points) hperm)
  unfold advanceProgress
  generalize ((OrderBy.stable Fix.ts).sort fixes).foldl (reachStops globe points) previous = best
    at hscan
  cases best with
  | none => exact hscan
  | some b =>
      dsimp only
      split
      · rename_i hsame
        -- as far as before is the progress there was before
        rcases hscan.grounded with hbest | ⟨hlt, -⟩
        · exact hbest ▸ hscan
        · have hequal : reachedSeq (some b) = reachedSeq previous := hsame
          exact absurd hequal.symm (ne_of_lt hlt)
      · exact hscan

theorem hits_ext {a b : Option Progress} (ha : a ∈ allHits globe points fixes)
    (hb : b ∈ allHits globe points fixes) (hseq : reachedSeq a = reachedSeq b)
    (htime : reachedTime a = reachedTime b) : a = b := by
  obtain ⟨p, rfl, -⟩ := mem_hits.mp ha
  obtain ⟨p', rfl, -⟩ := mem_hits.mp hb
  obtain ⟨seq, reachedAt⟩ := p
  obtain ⟨seq', reachedAt'⟩ := p'
  have hs : seq = seq' := hseq
  have ht : reachedAt = reachedAt' := htime
  rw [hs, ht]

theorem advanceProgress_unique {previous after : Option Progress}
    (h : FirstHighest reachedSeq reachedTime (· ∈ allHits globe points fixes) previous after) :
    advanceProgress globe points fixes previous = after :=
  (firstHighest_advanceProgress previous).unique (fun _ _ => hits_ext) h

/-- **Progress is the furthest stop passed, as first reached**: its seq is the
greatest of the previous one and those of the stops some fix was at; where that
is further than before, its time is the earliest at which a fix was there, and
otherwise it is the previous progress itself. So the order of stops and fixes
does not matter, the same fixes again change nothing, and it never goes
back. -/
theorem advanceProgress_furthest_first (globe : Globe) (points : List RoutePoint)
    (fixes : List Fix) (previous : Option Progress) :
    IsGreatest (insert (reachedSeq previous) {seq | PassedBy globe points fixes seq})
        (reachedSeq (advanceProgress globe points fixes previous)) ∧
      (reachedSeq previous < reachedSeq (advanceProgress globe points fixes previous) →
        ∃ furthest, advanceProgress globe points fixes previous = some furthest ∧
          IsLeast {ts | Hit globe points fixes furthest.seq ts} furthest.reachedAt) ∧
      (¬ reachedSeq previous < reachedSeq (advanceProgress globe points fixes previous) →
        advanceProgress globe points fixes previous = previous) ∧
      (∀ points' fixes', points'.Perm points → fixes'.Perm fixes →
        advanceProgress globe points' fixes' previous =
          advanceProgress globe points fixes previous) ∧
      advanceProgress globe points fixes (advanceProgress globe points fixes previous) =
        advanceProgress globe points fixes previous ∧
      reachedSeq previous ≤ reachedSeq (advanceProgress globe points fixes previous) := by
  have hscan : FirstHighest reachedSeq reachedTime (· ∈ allHits globe points fixes) previous
      (advanceProgress globe points fixes previous) := firstHighest_advanceProgress previous
  generalize hresult : advanceProgress globe points fixes previous = result at hscan
  refine ⟨?_, ?_, ?_, ?_, ?_, hscan.forward⟩
  · have hpassed : {seq | PassedBy globe points fixes seq} =
        {seq | ∃ value, value ∈ allHits globe points fixes ∧ reachedSeq value = seq} := by
      ext seq
      simp only [Set.mem_ofPred_eq, PassedBy, mem_hits]
      constructor
      · rintro ⟨fix, hfix, point, hpoint, hat, rfl⟩
        exact ⟨_, ⟨⟨point.seq, fix.ts⟩, rfl, fix, hfix, rfl, point, hpoint, hat, rfl⟩, rfl⟩
      · rintro ⟨value, ⟨progress, rfl, fix, hfix, -, point, hpoint, hat, hseq⟩, rfl⟩
        exact ⟨fix, hfix, point, hpoint, hat, hseq⟩
    rw [hpassed]
    exact hscan.isGreatest
  · intro hfurther
    rcases hscan.grounded with rfl | ⟨-, hvalue, hearliest⟩
    · exact absurd hfurther (lt_irrefl _)
    · obtain ⟨furthest, rfl, hhit⟩ := mem_hits.mp hvalue
      refine ⟨furthest, rfl, hhit, ?_⟩
      intro ts hts
      exact hearliest (some ⟨furthest.seq, ts⟩) (mem_hits.mpr ⟨_, rfl, hts⟩) rfl
  · intro hnot
    rcases hscan.grounded with hsame | ⟨hlt, -⟩
    · exact hsame
    · exact absurd hlt hnot
  · intro points' fixes' hpoints hfixes
    rw [← hresult]
    exact (advanceProgress_unique ((firstHighest_advanceProgress previous).congr
      (fun value => (mem_hits_of_perm hpoints hfixes value).symm)))
  · exact advanceProgress_unique hscan.again

end

end UniTrack
