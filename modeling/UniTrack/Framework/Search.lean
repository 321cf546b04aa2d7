import Mathlib.Data.List.Sort

/-!
# Filter, sort, collapse, take

A search engine's answer to a query: the documents that match, in the order of
a sort key, of each group the first one, and of these the first `size`. Places
in a sorted list are counts: what is below a bound comes first, so the first
`size` are those with fewer than `size` before them.
-/

namespace UniTrack.Framework

variable {α β κ : Type*} [DecidableEq β] [LinearOrder κ]

/-- `sort`. -/
def sortBy (key : α → κ) (docs : List α) : List α :=
  docs.insertionSort fun a b => key a ≤ key b

/-- `collapse`: the first of each group whose field was not seen before. -/
def collapseFrom (field : α → β) : List β → List α → List α
  | _, [] => []
  | seen, doc :: docs =>
      if field doc ∈ seen then collapseFrom field seen docs
      else doc :: collapseFrom field (field doc :: seen) docs

def collapse (field : α → β) (docs : List α) : List α := collapseFrom field [] docs

/-- The hits of a query. -/
def hits (matching : α → Bool) (key : α → κ) (size : ℕ) (docs : List α) : List α :=
  (sortBy key (docs.filter matching)).take size

/-- The hits of a query that keeps one document a group. -/
def collapsedHits (matching : α → Bool) (field : α → β) (key : α → κ) (size : ℕ)
    (docs : List α) : List α :=
  (collapse field (sortBy key (docs.filter matching))).take size

section
variable {key : α → κ} {field : α → β} {docs : List α}

/-! ## Sorting -/

theorem mem_sortBy {doc : α} : doc ∈ sortBy key docs ↔ doc ∈ docs :=
  (List.perm_insertionSort _ docs).mem_iff

theorem sortBy_sorted (key : α → κ) (docs : List α) :
    (sortBy key docs).Pairwise fun a b => key a ≤ key b := by
  have htotal : Std.Total fun a b : α => key a ≤ key b := ⟨fun a b => le_total _ _⟩
  have htrans : IsTrans α fun a b => key a ≤ key b := ⟨fun _ _ _ => le_trans⟩
  exact List.pairwise_insertionSort (fun a b : α => key a ≤ key b) docs

/-- Where the key tells the documents apart, none share a place. -/
theorem sortBy_strict (hkeys : (docs.map key).Nodup) :
    (sortBy key docs).Pairwise fun a b => key a < key b := by
  have hne : (sortBy key docs).Pairwise fun a b => key a ≠ key b := by
    have hperm : ((sortBy key docs).map key).Perm (docs.map key) :=
      (List.perm_insertionSort _ docs).map key
    exact List.pairwise_map.mp (hperm.nodup_iff.mpr hkeys)
  exact ((sortBy_sorted key docs).and hne).imp fun h => lt_of_le_of_ne h.1 h.2

/-- What is below a bound comes first. -/
theorem below_iff_place {m : κ} {i : ℕ} {doc : α}
    (hsorted : docs.Pairwise fun a b => key a ≤ key b) (h : docs[i]? = some doc) :
    key doc < m ↔ i < docs.countP fun d => key d < m := by
  induction docs generalizing i with
  | nil => cases h
  | cons first docs ih =>
      obtain ⟨hfirst, hrest⟩ := List.pairwise_cons.mp hsorted
      by_cases hlow : key first < m
      · rw [List.countP_cons_of_pos (by simpa using hlow)]
        cases i with
        | zero =>
            obtain rfl := Option.some.inj h
            exact iff_of_true hlow (Nat.succ_pos _)
        | succ i =>
            rw [Nat.succ_lt_succ_iff]
            exact ih hrest h
      · -- nothing from here on is below the bound
        have hnone : ∀ d ∈ first :: docs, ¬ key d < m := by
          intro d hd
          rcases List.mem_cons.mp hd with rfl | hd
          · exact hlow
          · exact not_lt.mpr (le_trans (not_lt.mp hlow) (hfirst d hd))
        have hcount : (first :: docs).countP (fun d => key d < m) = 0 :=
          List.countP_eq_zero.mpr fun d hd => by simpa using hnone d hd
        rw [hcount]
        exact iff_of_false (hnone doc (List.mem_of_getElem? h)) (Nat.not_lt_zero i)

/-- The first `size` are those with fewer than `size` before them. -/
theorem mem_take_iff {size : ℕ} {doc : α} (hsorted : docs.Pairwise fun a b => key a < key b) :
    doc ∈ docs.take size ↔ doc ∈ docs ∧ (docs.countP fun d => key d < key doc) < size := by
  have hle : docs.Pairwise fun a b => key a ≤ key b := hsorted.imp le_of_lt
  have hplace : ∀ {i}, docs[i]? = some doc → (docs.countP fun d => key d < key doc) = i := by
    intro i hi
    apply le_antisymm
    · exact not_lt.mp fun hlt => lt_irrefl _ ((below_iff_place hle hi).mpr hlt)
    · by_contra hlt
      have hlt := not_le.mp hlt
      obtain ⟨hlength, hdoc⟩ := List.getElem?_eq_some_iff.mp hi
      -- the document at the place that the count names is before this one
      obtain ⟨found, hfound⟩ : ∃ found, docs[docs.countP fun d => key d < key doc]? = some found :=
        ⟨_, List.getElem?_eq_getElem (lt_trans hlt hlength)⟩
      obtain ⟨hin, hthere⟩ := List.getElem?_eq_some_iff.mp hfound
      have hbefore := List.pairwise_iff_getElem.mp hsorted _ i hin hlength hlt
      rw [hdoc, hthere] at hbefore
      exact lt_irrefl _ ((below_iff_place hle hfound).mp hbefore)
  constructor
  · intro hmem
    obtain ⟨i, hi⟩ := List.mem_iff_getElem?.mp hmem
    rw [List.getElem?_take] at hi
    split at hi
    · rename_i hlt
      exact ⟨List.mem_of_getElem? hi, (hplace hi).symm ▸ hlt⟩
    · cases hi
  · rintro ⟨hmem, hlt⟩
    obtain ⟨i, hi⟩ := List.mem_iff_getElem?.mp hmem
    rw [hplace hi] at hlt
    apply List.mem_of_getElem? (i := i)
    rw [List.getElem?_take, if_pos hlt, hi]

/-- The last of the first `size` is as high as the highest exactly when fewer
than `size` are lower than that. -/
theorem last_of_take {size : ℕ} (hsize : 0 < size)
    (hsorted : docs.Pairwise fun a b => key a ≤ key b) {top : α} (htop : top ∈ docs)
    (hhighest : ∀ d ∈ docs, key d ≤ key top) :
    ∃ last, (docs.take size).getLast? = some last ∧ last ∈ docs ∧
      (key last = key top ↔ (docs.countP fun d => key d < key top) < size) := by
  have hlength : 0 < docs.length := List.length_pos_of_mem htop
  obtain ⟨last, hlast⟩ : ∃ last, docs[min size docs.length - 1]? = some last :=
    ⟨_, List.getElem?_eq_getElem (by omega)⟩
  have hmem : last ∈ docs := List.mem_of_getElem? hlast
  refine ⟨last, ?_, hmem, ?_⟩
  · rw [List.getLast?_eq_getElem?, List.length_take, List.getElem?_take, if_pos (by omega), hlast]
  · have hcount : (docs.countP fun d => key d < key top) < docs.length := by
      refine lt_of_le_of_ne List.countP_le_length fun hall => ?_
      exact lt_irrefl (key top) (of_decide_eq_true (List.countP_eq_length.mp hall top htop))
    have hplace := below_iff_place (m := key top) hsorted hlast
    constructor
    · intro hequal
      have hnot : ¬ min size docs.length - 1 < docs.countP fun d => key d < key top :=
        fun hlt => ne_of_lt (hplace.mpr hlt) hequal
      omega
    · intro hfew
      have hnot : ¬ key last < key top := fun hlt => by
        have hlow := hplace.mp hlt
        omega
      exact le_antisymm (hhighest last hmem) (not_lt.mp hnot)

/-! ## Collapsing -/

theorem collapseFrom_sublist (seen : List β) (docs : List α) :
    (collapseFrom field seen docs).Sublist docs := by
  induction docs generalizing seen with
  | nil => exact List.Sublist.refl _
  | cons doc docs ih =>
      unfold collapseFrom
      split
      · exact (ih seen).cons doc
      · exact (ih _).cons_cons doc

theorem collapseFrom_fields (seen : List β) (docs : List α) :
    ((collapseFrom field seen docs).map field).Nodup ∧
      ∀ doc ∈ collapseFrom field seen docs, field doc ∉ seen := by
  induction docs generalizing seen with
  | nil => exact ⟨List.nodup_nil, fun _ h => absurd h List.not_mem_nil⟩
  | cons doc docs ih =>
      unfold collapseFrom
      split
      · exact ih seen
      · rename_i hnew
        obtain ⟨hnodup, hunseen⟩ := ih (field doc :: seen)
        refine ⟨List.nodup_cons.mpr ⟨?_, hnodup⟩, ?_⟩
        · intro hmem
          obtain ⟨d, hd, hsame⟩ := List.mem_map.mp hmem
          exact hunseen d hd (hsame ▸ List.mem_cons_self)
        · intro d hd
          rcases List.mem_cons.mp hd with rfl | hd
          · exact hnew
          · exact fun hseen => hunseen d hd (List.mem_cons_of_mem _ hseen)

/-- No two of the kept documents are of one group. -/
theorem collapse_nodup (docs : List α) : ((collapse field docs).map field).Nodup :=
  (collapseFrom_fields [] docs).1

theorem mem_collapseFrom {seen : List β} {doc : α}
    (hsorted : docs.Pairwise fun a b => key a < key b) :
    doc ∈ collapseFrom field seen docs ↔
      field doc ∉ seen ∧ doc ∈ docs ∧ ∀ d ∈ docs, field d = field doc → key doc ≤ key d := by
  induction docs generalizing seen with
  | nil => simp [collapseFrom]
  | cons first docs ih =>
      obtain ⟨hfirst, hrest⟩ := List.pairwise_cons.mp hsorted
      unfold collapseFrom
      by_cases hseen : field first ∈ seen
      · rw [if_pos hseen, ih hrest]
        constructor
        · rintro ⟨hnew, hmem, hleast⟩
          refine ⟨hnew, List.mem_cons_of_mem _ hmem, ?_⟩
          intro d hd hsame
          rcases List.mem_cons.mp hd with rfl | hd
          · exact absurd (hsame ▸ hseen) hnew
          · exact hleast d hd hsame
        · rintro ⟨hnew, hmem, hleast⟩
          refine ⟨hnew, ?_, fun d hd => hleast d (List.mem_cons_of_mem _ hd)⟩
          rcases List.mem_cons.mp hmem with rfl | hmem
          · exact absurd hseen hnew
          · exact hmem
      · rw [if_neg hseen, List.mem_cons, ih hrest]
        constructor
        · rintro (rfl | ⟨hnew, hmem, hleast⟩)
          · refine ⟨hseen, List.mem_cons_self, ?_⟩
            intro d hd _
            rcases List.mem_cons.mp hd with rfl | hd
            · exact le_refl _
            · exact le_of_lt (hfirst d hd)
          · refine ⟨fun h => hnew (List.mem_cons_of_mem _ h), List.mem_cons_of_mem _ hmem, ?_⟩
            intro d hd hsame
            rcases List.mem_cons.mp hd with rfl | hd
            · exact absurd (hsame ▸ List.mem_cons_self) hnew
            · exact hleast d hd hsame
        · rintro ⟨hnew, hmem, hleast⟩
          rcases List.mem_cons.mp hmem with rfl | hmem
          · exact Or.inl rfl
          · refine Or.inr ⟨?_, hmem, fun d hd => hleast d (List.mem_cons_of_mem _ hd)⟩
            intro hbad
            rcases List.mem_cons.mp hbad with hsame | hbad
            · -- the first of the group would have to come after this one
              exact absurd (hleast first List.mem_cons_self hsame.symm)
                (not_le.mpr (hfirst doc hmem))
            · exact hnew hbad

/-- Of each group the first is kept: the least. -/
theorem mem_collapse {doc : α} (hsorted : docs.Pairwise fun a b => key a < key b) :
    doc ∈ collapse field docs ↔
      doc ∈ docs ∧ ∀ d ∈ docs, field d = field doc → key doc ≤ key d := by
  rw [collapse, mem_collapseFrom hsorted]
  exact and_iff_right List.not_mem_nil

end

end UniTrack.Framework
