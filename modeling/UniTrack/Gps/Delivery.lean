import UniTrack.Framework.Runs
import UniTrack.Worker.GpsEsIndexer

/-!
# Whether every fix is indexed

The loop reads only entries that were never handed out. What it was handed and
did not index before it stopped stays pending, and no later read asks for it.

## §1 Where a fix can be
## §2 What is handed out, and when
## §3 The loop's own invariant
## §4 Runs
-/

namespace UniTrack

open UniTrack.Framework UniTrack.Python

/-! ## §1 Where a fix can be -/

/-- The document of the entry is in Elasticsearch, under the entry's id. -/
def Stored (s : GpsPipeline) (id : ℕ) : Prop :=
  ∃ doc, docOf s.stream id = some doc ∧ doc ∈ s.index

/-- The running loop has the entry and is not done with it. -/
def InHand (s : GpsPipeline) (id : ℕ) : Prop :=
  match s.indexer with
  | .holding ids => id ∈ ids
  | .indexed ids => id ∈ ids
  | _ => False

/-- The entries that the loop receives from an `XREADGROUP` in one step. -/
def received (s : GpsPipeline) : GpsInput → List ℕ
  | .advance call =>
      if s.indexer = .reading ∧ s.stream.group.isSome ∧ call.outcome.heard then
        s.stream.unread gpsBatch
      else []
  | _ => []

/-- Some later read of the loop can still receive the entry. -/
def ComesUp (s : GpsPipeline) (id : ℕ) : Prop :=
  ∃ later l, id ∈ received (run indexerStep s later) l

/-- No accepted fix is lost: it is stored, or in hand, or still to come. -/
def NoFixLost (s : GpsPipeline) : Prop :=
  ∀ id < s.stream.entries.length, Stored s id ∨ InHand s id ∨ ComesUp s id

/-- No fix is stored twice. -/
def StoredOnce (s : GpsPipeline) : Prop := (s.index.map Prod.fst).Nodup

/-- The step ends the process while it holds a batch, or loses the reply of a
read that handed something out. -/
def Drops (s : GpsPipeline) : GpsInput → Prop
  | .stop => ∃ ids, s.indexer = .holding ids
  | .advance call =>
      match s.indexer with
      | .reading => call.outcome = .unheard ∧ s.stream.group.isSome ∧ s.stream.unread gpsBatch ≠ []
      | .holding ids =>
          match docsOf s.stream ids with
          -- an entry that is not a number ends the process
          | none => True
          | some _ => call.outcome.heard = false ∧ ∃ id ∈ ids, call.stored id = false
      | _ => False
  | _ => False

/-! ## §2 What is handed out, and when -/

section
variable {s : GpsPipeline} {l : GpsInput}

theorem handed_indexerStep_le (s : GpsPipeline) (l : GpsInput) :
    s.stream.handed ≤ (indexerStep s l).stream.handed := by
  have hensure : ∀ call, s.stream.handed = (ensureGroup s call).stream.handed := by
    intro call
    unfold ensureGroup
    dsimp only
    split
    · exact Stream.handed_createGroup.symm
    · rfl
  cases l with
  | add fields => exact le_refl _
  | start =>
      simp only [indexerStep]
      split <;> exact le_refl _
  | stop => exact le_refl _
  | advance call =>
      simp only [indexerStep]
      split
      · exact le_refl _
      · exact le_of_eq (hensure call)
      · split
        · exact le_of_eq (hensure call)
        · unfold readNew
          dsimp only
          split
          · rw [Stream.handed_readGroup]
            exact Nat.le_add_right _ _
          · exact le_refl _
      · unfold indexBatch
        split
        · exact le_refl _
        · split <;> exact le_refl _
      · unfold ackBatch
        dsimp only
        split <;> exact le_refl _

theorem handed_run_le (s : GpsPipeline) (ls : List GpsInput) :
    s.stream.handed ≤ (run indexerStep s ls).stream.handed := by
  have hstep : ∀ s' l, s.stream.handed ≤ s'.stream.handed →
      s.stream.handed ≤ (indexerStep s' l).stream.handed :=
    fun s' l h => le_trans h (handed_indexerStep_le s' l)
  exact run_of_step hstep (le_refl _) ls

theorem mem_received {id : ℕ} (h : id ∈ received s l) : s.stream.handed ≤ id := by
  cases l with
  | advance call =>
      simp only [received] at h
      split at h
      · exact (Stream.mem_unread.mp h).1
      · cases h
  | add fields => cases h
  | start => cases h
  | stop => cases h

/-- **Nothing is handed out again**: a read asks only for what no read has
returned yet. -/
theorem not_comesUp_of_handed {id : ℕ} (h : id < s.stream.handed) : ¬ ComesUp s id := by
  rintro ⟨later, l, hid⟩
  have hle := handed_run_le s later
  have hge := mem_received hid
  omega

/-- A call that succeeds. -/
def CallEnd.fine : CallEnd := ⟨.done, false, fun _ => true⟩

/-- A restart leaves the loop at its read, whatever it was doing. -/
theorem restart (s : GpsPipeline) :
    run indexerStep s [.stop, .start, .advance .fine] =
      { s with stream := s.stream.createGroup, indexer := .reading } := rfl

theorem comesUp_of_run {id : ℕ} {before : List GpsInput}
    (h : ComesUp (run indexerStep s before) id) : ComesUp s id := by
  obtain ⟨later, l, hid⟩ := h
  rw [← run_append] at hid
  exact ⟨before ++ later, l, hid⟩

/-- What was not handed out yet comes up. -/
theorem comesUp_of_not_handed {id : ℕ} (hge : s.stream.handed ≤ id)
    (hlt : id < s.stream.entries.length) : ComesUp s id := by
  induction hn : id - s.stream.handed using Nat.strong_induction_on generalizing s with
  | h n ih =>
      have hgroup : s.stream.createGroup.group.isSome = true := by
        rw [Stream.group_createGroup]
        rfl
      by_cases hnow : id < (s.stream.createGroup.readGroup gpsBatch).handed
      · refine ⟨[.stop, .start, .advance .fine], .advance .fine, ?_⟩
        rw [restart, received, if_pos ⟨rfl, hgroup, rfl⟩]
        exact Stream.mem_unread.mpr ⟨Stream.handed_createGroup.symm ▸ hge, hnow⟩
      · -- the first read hands out a full batch, and the rest of the way is shorter
        obtain ⟨handed, hsome⟩ := Option.isSome_iff_exists.mp hgroup
        have hread : run indexerStep s [.stop, .start, .advance .fine, .advance .fine] =
            readNew { s with stream := s.stream.createGroup, indexer := .reading } .fine := by
          have hsplit := run_append indexerStep s [.stop, .start, .advance .fine] [.advance .fine]
          rw [restart] at hsplit
          apply hsplit.trans
          simp only [run_cons, run_nil, indexerStep, hsome]
        have hstream : (run indexerStep s
            [.stop, .start, .advance .fine, .advance .fine]).stream =
            s.stream.createGroup.readGroup gpsBatch := by
          rw [hread]
          rfl
        apply @comesUp_of_run s id [.stop, .start, .advance .fine, .advance .fine]
        have hnear : id - (s.stream.createGroup.readGroup gpsBatch).handed < n := by
          rw [Stream.handed_readGroup, Stream.handed_createGroup, Stream.entries_createGroup] at hnow ⊢
          unfold gpsBatch at hnow ⊢
          omega
        refine ih _ hnear ?_ ?_ ?_
        · rw [hstream]
          exact Nat.le_of_not_lt hnow
        · rw [hstream]
          exact Stream.entries_createGroup.symm ▸ hlt
        · rw [hstream]

end

/-! ## §3 The loop's own invariant -/

/-- Only handed-out entries are indexed, each once and as its own document;
what the loop holds was not indexed before, what it acknowledges was. -/
structure PipelineOk (s : GpsPipeline) : Prop where
  handed_le : s.stream.handed ≤ s.stream.entries.length
  stored : ∀ d ∈ s.index, d.1 < s.stream.handed ∧ docOf s.stream d.1 = some d
  once : StoredOnce s
  hand : match s.indexer with
    | .holding ids =>
        ids ≠ [] ∧ ∀ id ∈ ids, id < s.stream.handed ∧ id ∉ s.index.map Prod.fst
    | .indexed ids => ∀ id ∈ ids, id ∈ s.index.map Prod.fst
    | _ => True

section
variable {s : GpsPipeline}

theorem PipelineOk.key_lt (h : PipelineOk s) {id : ℕ} (hid : id ∈ s.index.map Prod.fst) :
    id < s.stream.handed := by
  obtain ⟨d, hd, rfl⟩ := List.mem_map.mp hid
  exact (h.stored d hd).1

theorem PipelineOk.stored_iff (h : PipelineOk s) {id : ℕ} :
    Stored s id ↔ id ∈ s.index.map Prod.fst := by
  constructor
  · rintro ⟨d, hdoc, hd⟩
    exact List.mem_map.mpr ⟨d, hd, (docOf_eq_some.mp hdoc).1⟩
  · intro hid
    obtain ⟨d, hd, rfl⟩ := List.mem_map.mp hid
    exact ⟨d, (h.stored d hd).2, hd⟩

theorem PipelineOk.stopped (h : PipelineOk s) : PipelineOk { s with indexer := .stopped } :=
  ⟨h.handed_le, h.stored, h.once, trivial⟩

/-- With empty hands nothing but the stream and the index counts. -/
theorem PipelineOk.of_sameStream {s' : GpsPipeline} (h : PipelineOk s)
    (hentries : s'.stream.entries = s.stream.entries)
    (hhanded : s'.stream.handed = s.stream.handed) (hindex : s'.index = s.index)
    (hempty : ∀ ids, s'.indexer ≠ .holding ids ∧ s'.indexer ≠ .indexed ids) : PipelineOk s' := by
  refine ⟨?_, ?_, ?_, ?_⟩
  · rw [hhanded, hentries]
    exact h.handed_le
  · intro d hd
    rw [hindex] at hd
    rw [hhanded, docOf_congr hentries]
    exact h.stored d hd
  · unfold StoredOnce
    rw [hindex]
    exact h.once
  · cases hphase : s'.indexer with
    | holding ids => exact absurd hphase (hempty ids).1
    | indexed ids => exact absurd hphase (hempty ids).2
    | stopped => trivial
    | starting => trivial
    | reading => trivial

theorem PipelineOk.ensureGroup (h : PipelineOk s) (call : CallEnd) :
    PipelineOk (ensureGroup s call) := by
  have hentries : (UniTrack.ensureGroup s call).stream.entries = s.stream.entries := by
    unfold UniTrack.ensureGroup
    dsimp only
    split
    · exact Stream.entries_createGroup
    · rfl
  have hhanded : (UniTrack.ensureGroup s call).stream.handed = s.stream.handed := by
    unfold UniTrack.ensureGroup
    dsimp only
    split
    · exact Stream.handed_createGroup
    · rfl
  refine h.of_sameStream hentries hhanded rfl ?_
  intro ids
  unfold UniTrack.ensureGroup
  dsimp only
  constructor <;> split <;> simp

theorem PipelineOk.readNew (h : PipelineOk s) (call : CallEnd) : PipelineOk (readNew s call) := by
  have hentries : (UniTrack.readNew s call).stream.entries = s.stream.entries := by
    unfold UniTrack.readNew
    dsimp only
    split <;> rfl
  have hle : s.stream.handed ≤ (UniTrack.readNew s call).stream.handed := by
    unfold UniTrack.readNew
    dsimp only
    split
    · rw [Stream.handed_readGroup]
      exact Nat.le_add_right _ _
    · exact le_refl _
  refine ⟨?_, ?_, h.once, ?_⟩
  · rw [hentries]
    unfold UniTrack.readNew
    dsimp only
    split
    · exact Stream.handed_readGroup_le gpsBatch h.handed_le
    · exact h.handed_le
  · intro d hd
    obtain ⟨hlt, hdoc⟩ := h.stored d hd
    rw [docOf_congr hentries]
    exact ⟨lt_of_lt_of_le hlt hle, hdoc⟩
  · cases call with
    | mk outcome timeout stored =>
        cases outcome with
        | done =>
            simp only [UniTrack.readNew, CallOutcome.heard, CallOutcome.applied, if_true]
            by_cases hnone : s.stream.unread gpsBatch = []
            · rw [if_pos hnone]
              trivial
            · rw [if_neg hnone]
              refine ⟨hnone, ?_⟩
              intro id hid
              obtain ⟨hge, hlt⟩ := Stream.mem_unread.mp hid
              exact ⟨hlt, fun hmem => absurd (h.key_lt hmem) (Nat.not_lt.mpr hge)⟩
        | refused =>
            cases timeout
            · trivial
            · trivial
        | unheard =>
            cases timeout
            · trivial
            · trivial

theorem PipelineOk.indexBatch {ids : List ℕ} (h : PipelineOk s) (hphase : s.indexer = .holding ids)
    (call : CallEnd) : PipelineOk (indexBatch s ids call) := by
  have hhand := h.hand
  rw [hphase] at hhand
  unfold UniTrack.indexBatch
  cases hdocs : docsOf s.stream ids with
  | none => exact h.stopped
  | some docs =>
      have hstored : ∀ news ⊆ docs, ∀ d ∈ upserts s.index news,
          d.1 < s.stream.handed ∧ docOf s.stream d.1 = some d := by
        intro news hsub d hd
        rcases mem_of_mem_upserts hd with hd | hd
        · exact h.stored d hd
        · have hkey : d.1 ∈ ids := docsOf_keys hdocs ▸ List.mem_map_of_mem (hsub hd)
          exact ⟨(hhand.2 d.1 hkey).1, mem_docsOf hdocs (hsub hd)⟩
      dsimp only
      split
      · refine ⟨h.handed_le, hstored docs (List.Subset.refl _), nodup_keys_upserts h.once, ?_⟩
        intro id hid
        rw [← docsOf_keys hdocs] at hid
        exact mem_keys_upserts.mpr (Or.inr hid)
      · exact ⟨h.handed_le, hstored _ List.filter_sublist.subset, nodup_keys_upserts h.once, trivial⟩

theorem PipelineOk.ackBatch (h : PipelineOk s) (ids : List ℕ) (call : CallEnd) :
    PipelineOk (ackBatch s ids call) := by
  have hstream : (UniTrack.ackBatch s ids call).stream.entries = s.stream.entries ∧
      (UniTrack.ackBatch s ids call).stream.handed = s.stream.handed := by
    unfold UniTrack.ackBatch
    dsimp only
    split <;> exact ⟨rfl, rfl⟩
  refine h.of_sameStream hstream.1 hstream.2 rfl ?_
  intro ids'
  unfold UniTrack.ackBatch
  dsimp only
  constructor <;> split <;> simp

theorem PipelineOk.step (h : PipelineOk s) (l : GpsInput) : PipelineOk (indexerStep s l) := by
  cases l with
  | add fields =>
      refine ⟨?_, ?_, h.once, h.hand⟩
      · show s.stream.handed ≤ (s.stream.entries ++ [fields]).length
        rw [List.length_append]
        exact le_trans h.handed_le (Nat.le_add_right _ _)
      · intro d hd
        obtain ⟨hlt, hdoc⟩ := h.stored d hd
        exact ⟨hlt, docOf_add hdoc fields⟩
  | start =>
      simp only [indexerStep]
      split
      · exact ⟨h.handed_le, h.stored, h.once, trivial⟩
      · exact h
  | stop => exact h.stopped
  | advance call =>
      simp only [indexerStep]
      split
      · exact h
      · exact h.ensureGroup call
      · split
        · exact h.ensureGroup call
        · exact h.readNew call
      · rename_i ids hphase
        exact h.indexBatch hphase call
      · exact h.ackBatch _ call

/-! ## §4 Runs -/

/-- Whatever was handed out is indexed or in hand. -/
def Kept (s : GpsPipeline) : Prop :=
  ∀ id < s.stream.handed, id ∈ s.index.map Prod.fst ∨ InHand s id

theorem PipelineOk.noFixLost_iff (h : PipelineOk s) : NoFixLost s ↔ Kept s := by
  constructor
  · intro hlost id hid
    rcases hlost id (lt_of_lt_of_le hid h.handed_le) with hstored | hhand | hcomes
    · exact Or.inl (h.stored_iff.mp hstored)
    · exact Or.inr hhand
    · exact absurd hcomes (not_comesUp_of_handed hid)
  · intro hkept id hid
    by_cases hhanded : id < s.stream.handed
    · rcases hkept id hhanded with hstored | hhand
      · exact Or.inl (h.stored_iff.mpr hstored)
      · exact Or.inr (Or.inl hhand)
    · exact Or.inr (Or.inr (comesUp_of_not_handed (Nat.le_of_not_lt hhanded) hid))

/-- Unless the loop holds a batch that is not indexed, all is indexed. -/
theorem Kept.indexed (h : PipelineOk s) (hkept : Kept s)
    (hholds : ∀ ids, s.indexer ≠ .holding ids) :
    ∀ id < s.stream.handed, id ∈ s.index.map Prod.fst := by
  intro id hid
  have hhand := h.hand
  rcases hkept id hid with hmem | hmem
  · exact hmem
  · unfold InHand at hmem
    cases hphase : s.indexer with
    | holding ids => exact absurd hphase (hholds ids)
    | indexed ids =>
        rw [hphase] at hhand hmem
        exact hhand id hmem
    | stopped | starting | reading =>
        rw [hphase] at hmem
        exact hmem.elim

theorem kept_ensureGroup (h : PipelineOk s) (hkept : Kept s)
    (hholds : ∀ ids, s.indexer ≠ .holding ids) (call : CallEnd) : Kept (ensureGroup s call) := by
  intro id hid
  left
  apply Kept.indexed h hkept hholds
  unfold ensureGroup at hid
  dsimp only at hid
  split at hid
  · rw [Stream.handed_createGroup] at hid
    exact hid
  · exact hid

/-- A read loses what it hands out exactly when its reply is lost. -/
theorem kept_readNew (h : PipelineOk s) (hkept : Kept s) (hphase : s.indexer = .reading)
    (call : CallEnd) : Kept (readNew s call) ↔
      ¬ (call.outcome = .unheard ∧ s.stream.unread gpsBatch ≠ []) := by
  have hindexed := Kept.indexed h hkept (by rw [hphase]; nofun)
  obtain ⟨outcome, timeout, stored⟩ := call
  cases outcome with
  | done =>
      refine iff_of_true ?_ (fun h => by cases h.1)
      intro id hid
      by_cases hbefore : id < s.stream.handed
      · exact Or.inl (hindexed id hbefore)
      · -- new, so part of the batch that the loop now holds
        right
        have hmem : id ∈ s.stream.unread gpsBatch :=
          Stream.mem_unread.mpr ⟨Nat.le_of_not_lt hbefore, hid⟩
        have hsome : s.stream.unread gpsBatch ≠ [] := List.ne_nil_of_mem hmem
        simp only [InHand, readNew, CallOutcome.heard, if_true, if_neg hsome]
        exact hmem
  | refused =>
      refine iff_of_true ?_ (fun h => by cases h.1)
      intro id hid
      exact Or.inl (hindexed id hid)
  | unheard =>
      have hlost : ∀ id, ¬ InHand (readNew s ⟨.unheard, timeout, stored⟩) id := by
        intro id hid
        cases timeout
        · exact hid
        · exact hid
      constructor
      · rintro hafter ⟨-, hsome⟩
        obtain ⟨id, hid⟩ := List.exists_mem_of_ne_nil _ hsome
        obtain ⟨hge, hlt⟩ := Stream.mem_unread.mp hid
        have hmem := (hafter id hlt).resolve_right (hlost id)
        exact absurd (h.key_lt hmem) (Nat.not_lt.mpr hge)
      · intro hnone id hid
        left
        by_cases hbefore : id < s.stream.handed
        · exact hindexed id hbefore
        · have hmem : id ∈ s.stream.unread gpsBatch :=
            Stream.mem_unread.mpr ⟨Nat.le_of_not_lt hbefore, hid⟩
          exact absurd ⟨rfl, List.ne_nil_of_mem hmem⟩ hnone

/-- The loop that ends while it holds a batch loses it. -/
theorem not_kept_of_dropped {ids : List ℕ} {index : List (ℕ × GpsDoc)} (h : PipelineOk s)
    (hphase : s.indexer = .holding ids) {id : ℕ} (hid : id ∈ ids)
    (hnot : id ∉ index.map Prod.fst) :
    ¬ Kept { s with index := index, indexer := .stopped } := by
  have hhand := h.hand
  rw [hphase] at hhand
  intro hkept
  rcases hkept id (hhand.2 id hid).1 with hmem | hmem
  · exact hnot hmem
  · exact hmem

theorem kept_indexBatch {ids : List ℕ} (h : PipelineOk s) (hkept : Kept s)
    (hphase : s.indexer = .holding ids) (call : CallEnd) :
    Kept (indexBatch s ids call) ↔ ¬ Drops s (.advance call) := by
  have hhand := h.hand
  rw [hphase] at hhand
  obtain ⟨hsome, hfresh⟩ := hhand
  have hbefore : ∀ id < s.stream.handed, id ∈ s.index.map Prod.fst ∨ id ∈ ids := by
    intro id hid
    have hin := hkept id hid
    rw [InHand, hphase] at hin
    exact hin
  simp only [Drops, hphase, indexBatch]
  cases hdocs : docsOf s.stream ids with
  | none =>
      obtain ⟨id, hid⟩ := List.exists_mem_of_ne_nil _ hsome
      have hlost := not_kept_of_dropped h hphase hid (hfresh id hid).2
      exact iff_of_false hlost (fun hnot => hnot trivial)
  | some docs =>
      have hkeys := docsOf_keys hdocs
      dsimp only
      cases hheard : call.outcome.heard with
      | true =>
          rw [if_pos rfl]
          refine iff_of_true ?_ (fun hdrop => by cases hdrop.1)
          intro id hid
          left
          rw [mem_keys_upserts, hkeys]
          exact hbefore id hid
      | false =>
          rw [if_neg Bool.false_ne_true]
          constructor
          · rintro hafter ⟨-, id, hid, hunstored⟩
            refine absurd hafter (not_kept_of_dropped h hphase hid ?_)
            intro hmem
            rcases mem_keys_upserts.mp hmem with hmem | hmem
            · exact (hfresh id hid).2 hmem
            · obtain ⟨d, hd, rfl⟩ := List.mem_map.mp hmem
              rw [(List.mem_filter.mp hd).2] at hunstored
              cases hunstored
          · intro hall id hid
            left
            rw [mem_keys_upserts]
            rcases hbefore id hid with hmem | hmem
            · exact Or.inl hmem
            · right
              rw [← hkeys] at hmem
              obtain ⟨d, hd, rfl⟩ := List.mem_map.mp hmem
              refine List.mem_map.mpr ⟨d, List.mem_filter.mpr ⟨hd, ?_⟩, rfl⟩
              by_contra hnot
              exact hall ⟨rfl, d.1, hkeys ▸ List.mem_map_of_mem hd, Bool.eq_false_iff.mpr hnot⟩

theorem kept_step (h : PipelineOk s) (hkept : Kept s) (l : GpsInput) :
    Kept (indexerStep s l) ↔ ¬ Drops s l := by
  cases l with
  | add fields => exact iff_of_true hkept not_false
  | start =>
      simp only [indexerStep]
      split
      · rename_i hphase
        refine iff_of_true ?_ not_false
        exact fun id hid => Or.inl (Kept.indexed h hkept (by rw [hphase]; nofun) id hid)
      · exact iff_of_true hkept not_false
  | stop =>
      constructor
      · rintro hafter ⟨ids, hphase⟩
        have hhand := h.hand
        rw [hphase] at hhand
        obtain ⟨id, hid⟩ := List.exists_mem_of_ne_nil _ hhand.1
        exact not_kept_of_dropped h hphase hid (hhand.2 id hid).2 hafter
      · intro hnot id hid
        exact Or.inl (Kept.indexed h hkept (fun ids hphase => hnot ⟨ids, hphase⟩) id hid)
  | advance call =>
      cases hphase : s.indexer with
      | stopped =>
          simp only [indexerStep, Drops, hphase]
          exact iff_of_true hkept not_false
      | starting =>
          simp only [indexerStep, Drops, hphase]
          exact iff_of_true (kept_ensureGroup h hkept (by rw [hphase]; nofun) call) not_false
      | reading =>
          simp only [indexerStep, Drops, hphase]
          cases hgroup : s.stream.group with
          | none =>
              refine iff_of_true (kept_ensureGroup h hkept (by rw [hphase]; nofun) call) ?_
              exact fun hdrop => by cases hdrop.2.1
          | some handed =>
              rw [kept_readNew h hkept hphase]
              simp
      | holding ids =>
          have hstep : indexerStep s (.advance call) = indexBatch s ids call := by
            simp only [indexerStep, hphase]
          rw [hstep]
          exact kept_indexBatch h hkept hphase call
      | indexed ids =>
          simp only [indexerStep, Drops, hphase]
          refine iff_of_true ?_ not_false
          intro id hid
          have hhanded : (ackBatch s ids call).stream.handed = s.stream.handed := by
            unfold ackBatch
            dsimp only
            split <;> rfl
          rw [hhanded] at hid
          exact Or.inl (Kept.indexed h hkept (by rw [hphase]; nofun) id hid)

end

theorem pipelineOk_empty : PipelineOk .empty := by
  refine ⟨Nat.le_refl _, ?_, List.nodup_nil, trivial⟩
  intro d hd
  cases hd

/-- **No fix is lost, and none stored twice**, in any run of ingest and of the
indexer with its restarts, exactly when the indexer is never stopped with a
batch in hand and no reply of a read that handed something out is lost. -/
theorem no_fix_lost_iff_none_dropped (ls : List GpsInput) :
    Always indexerStep (fun s => NoFixLost s ∧ StoredOnce s) .empty ls ↔
      Throughout indexerStep (fun s l => ¬ Drops s l) .empty ls := by
  refine always_iff_throughout PipelineOk (fun s l (_ : True) h _ _ => h.step l) ?_
    pipelineOk_empty ?_ (fun _ _ => trivial)
  · intro s l _ h hP
    rw [(h.step l).noFixLost_iff, kept_step h (h.noFixLost_iff.mp hP.1) l]
    exact and_iff_left (h.step l).once
  · refine ⟨?_, List.nodup_nil⟩
    intro id hid
    cases hid

/-- A fix as the helper's phone sends it. -/
def sampleFix : GpsFields where
  busId := "bus-3".toList
  helperId := "helper-9".toList
  tripId := "trip-1".toList
  ts := "2026-03-01T08:15:00".toList
  lat := "23.7465".toList
  lng := "90.3760".toList
  speed := []
  heading := []
  accuracy := "4.5".toList

/-- The worker is restarted between the read that hands it a fix and the bulk
request: the fix is in no index, and no later read returns it. -/
theorem restart_loses_the_batch :
    ¬ NoFixLost (run indexerStep .empty
      [.start, .advance .fine, .add sampleFix, .advance .fine, .stop]) := by
  have hok : PipelineOk (run indexerStep .empty
      [.start, .advance .fine, .add sampleFix, .advance .fine, .stop]) :=
    run_of_step (fun s l h => h.step l) pipelineOk_empty _
  rw [hok.noFixLost_iff]
  intro hkept
  rcases hkept 0 (by decide) with hmem | hmem
  · exact absurd hmem List.not_mem_nil
  · exact hmem

end UniTrack
