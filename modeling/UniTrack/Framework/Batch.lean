import Mathlib.Data.List.Induction
import Mathlib.Data.List.Nodup
import Mathlib.Data.List.Perm.Subperm
import UniTrack.Framework.Table

/-!
# Serving a sorted queue in batches

A query with ORDER BY and LIMIT serves the front of a queue. These lemmas say
who is served: the elements of a part of the queue that sorts before the rest
come first, one batch shortens that part by the size of the batch, and an
element with few enough others ahead of it is in the batch.
-/

namespace UniTrack.Framework

variable {α : Type*}

/-- A downward closed part of a sorted list is an initial segment of it. -/
theorem sorted_split {r : α → α → Prop} {p : α → Bool} {l : List α} (h : l.Pairwise r)
    (hp : ∀ a ∈ l, ∀ b ∈ l, r a b → p b = true → p a = true) :
    l = l.filter p ++ l.filter (fun a => !p a) := by
  induction l with
  | nil => rfl
  | cons a l ih =>
      obtain ⟨ha, hl⟩ := List.pairwise_cons.mp h
      have ih' := ih hl fun x hx y hy =>
        hp x (List.mem_cons_of_mem _ hx) y (List.mem_cons_of_mem _ hy)
      cases hpa : p a with
      | true =>
          rw [List.filter_cons_of_pos hpa, List.filter_cons_of_neg (by simp [hpa]),
            List.cons_append, ← ih']
      | false =>
          have hrest : l.filter p = [] := by
            apply List.filter_eq_nil_iff.mpr
            intro b hb hpb
            have h' := hp a List.mem_cons_self b (List.mem_cons_of_mem _ hb) (ha b hb) hpb
            rw [hpa] at h'
            cases h'
          rw [List.filter_cons_of_neg (by simp [hpa]), List.filter_cons_of_pos (by simp [hpa]),
            hrest, List.nil_append]
          rw [hrest, List.nil_append] at ih'
          rw [← ih']

/-- Every element of a part that sorts first and fits in the batch is served. -/
theorem mem_take_of_sorted {r : α → α → Prop} {p : α → Bool} {l : List α} (h : l.Pairwise r)
    (hp : ∀ a ∈ l, ∀ b ∈ l, r a b → p b = true → p a = true) {m : Nat}
    (hm : (l.filter p).length ≤ m) {x : α} (hx : x ∈ l) (hpx : p x = true) : x ∈ l.take m := by
  rw [sorted_split h hp, List.take_append, List.take_of_length_le hm]
  exact List.mem_append_left _ (List.mem_filter.mpr ⟨hx, hpx⟩)

/-- Conversely, a batch that serves `x` serves what sorts strictly before. -/
theorem filter_length_lt_of_mem_take {r : α → α → Prop} {p : α → Bool} {l : List α}
    (h : l.Pairwise r) (hp : ∀ a ∈ l, ∀ b ∈ l, r a b → p b = true → p a = true) {m : Nat}
    {x : α} (hx : x ∈ l.take m) (hpx : p x = false) : (l.filter p).length < m := by
  by_contra hlen
  rw [sorted_split h hp, List.take_append_of_le_length (not_lt.mp hlen)] at hx
  rw [(List.mem_filter.mp (List.mem_of_mem_take hx)).2] at hpx
  cases hpx

/-- One batch shortens a part that sorts first by the size of the batch. -/
theorem length_filter_not_mem_take [DecidableEq α] {r : α → α → Prop} {p : α → Bool}
    {l : List α} (h : l.Pairwise r) (hnodup : l.Nodup)
    (hp : ∀ a ∈ l, ∀ b ∈ l, r a b → p b = true → p a = true) (m : Nat) :
    (l.filter fun a => p a && decide (a ∉ l.take m)).length = (l.filter p).length - m := by
  have hserved : ∀ a ∈ l, p a = true → (a ∈ l.take m ↔ a ∈ (l.filter p).take m) := by
    intro a ha hpa
    rw [sorted_split h hp, List.take_append, List.mem_append]
    have hrest : a ∉ (l.filter fun a => !p a).take (m - (l.filter p).length) := by
      intro hmem
      have := (List.mem_filter.mp (List.mem_of_mem_take hmem)).2
      rw [hpa] at this
      cases this
    rw [or_iff_left hrest]
    simp only [List.filter_append, List.filter_filter, Bool.and_self, Bool.and_not_self,
      List.filter_false, List.append_nil]
  have hsame : (l.filter fun a => p a && decide (a ∉ l.take m)) =
      (l.filter p).filter fun a => decide (a ∉ (l.filter p).take m) := by
    rw [List.filter_filter]
    apply List.filter_congr
    intro a ha
    cases hpa : p a with
    | false => simp
    | true => simp [hserved a ha hpa]
  have hparts : (l.filter p).Nodup := hnodup.filter _
  rw [hsame]
  generalize l.filter p = q at hparts
  have hdisjoint : ∀ a ∈ q.drop m, a ∉ q.take m := by
    intro a hdrop htake
    exact List.disjoint_take_drop hparts le_rfl htake hdrop
  have hfront : (q.take m).filter (fun a => decide (a ∉ q.take m)) = [] := by
    apply List.filter_eq_nil_iff.mpr
    intro a ha
    simp [ha]
  have hback : (q.drop m).filter (fun a => decide (a ∉ q.take m)) = q.drop m := by
    apply List.filter_eq_self.mpr
    intro a ha
    simp [hdisjoint a ha]
  have hq : q.filter (fun a => decide (a ∉ q.take m)) = q.drop m :=
    calc q.filter (fun a => decide (a ∉ q.take m))
        = (q.take m ++ q.drop m).filter (fun a => decide (a ∉ q.take m)) := by
          rw [List.take_append_drop]
      _ = q.drop m := by rw [List.filter_append, hfront, hback, List.nil_append]
  rw [hq, List.length_drop]

/-! ## A limit without an order -/

/-- What a batch leaves of a queue is shorter by the size of the batch. -/
theorem Limit.length_rest_le {n : Nat} (limit : Limit α n) {queue rest : List α}
    (hqueue : queue.Nodup) (hrest : rest.Nodup)
    (hleft : ∀ a ∈ rest, a ∈ queue ∧ a ∉ limit.take queue) :
    rest.length ≤ queue.length - n := by
  have hserved : (limit.take queue).Nodup := by
    obtain ⟨l, hperm, hsub⟩ := limit.subperm queue
    exact hperm.nodup_iff.mp (hqueue.sublist hsub)
  have hboth : (limit.take queue ++ rest).Nodup := by
    apply List.Nodup.append hserved hrest
    intro a hserved hrest
    exact (hleft a hrest).2 hserved
  have hsub : limit.take queue ++ rest ⊆ queue := by
    intro a ha
    rcases List.mem_append.mp ha with ha | ha
    · exact (limit.subperm queue).subset ha
    · exact (hleft a ha).1
  have hlen := (List.subperm_of_subset hboth hsub).length_le
  rw [List.length_append, limit.length_take] at hlen
  omega

/-! ## A sort that favours some among equals -/

/-- `a` may come before `b`: its key is smaller, or the keys are equal and it is
not the favoured `b` that has to wait. -/
def favours (key : α → ℚ) (first : α → Bool) (a b : α) : Bool :=
  decide (key a < key b) || (decide (key a = key b) && (first a || !first b))

theorem favours_iff {key : α → ℚ} {first : α → Bool} {a b : α} :
    favours key first a b = true ↔
      key a < key b ∨ key a = key b ∧ (first a = true ∨ first b = false) := by
  simp [favours]

theorem favours_trans {key : α → ℚ} {first : α → Bool} {a b c : α}
    (hab : favours key first a b = true) (hbc : favours key first b c = true) :
    favours key first a c = true := by
  rw [favours_iff] at hab hbc ⊢
  rcases hab with hab | ⟨hab, hfab⟩
  · rcases hbc with hbc | ⟨hbc, -⟩
    · exact Or.inl (lt_trans hab hbc)
    · exact Or.inl (hbc ▸ hab)
  · rcases hbc with hbc | ⟨hbc, hfbc⟩
    · exact Or.inl (hab ▸ hbc)
    · refine Or.inr ⟨hab.trans hbc, ?_⟩
      rcases hfab with hfa | hfb
      · exact Or.inl hfa
      · rcases hfbc with hfb' | hfc
        · rw [hfb] at hfb'
          cases hfb'
        · exact Or.inr hfc

theorem favours_total (key : α → ℚ) (first : α → Bool) (a b : α) :
    (favours key first a b || favours key first b a) = true := by
  rw [Bool.or_eq_true, favours_iff, favours_iff]
  rcases lt_trichotomy (key a) (key b) with h | h | h
  · exact Or.inl (Or.inl h)
  · cases ha : first a with
    | true => exact Or.inl (Or.inr ⟨h, Or.inl rfl⟩)
    | false => exact Or.inr (Or.inr ⟨h.symm, Or.inr rfl⟩)
  · exact Or.inr (Or.inl h)

theorem favours_sorted (key : α → ℚ) (first : α → Bool) (rows : List α) :
    (rows.mergeSort (favours key first)).Pairwise fun a b => favours key first a b = true := by
  apply List.pairwise_mergeSort
  · intro a b c hab hbc
    exact favours_trans hab hbc
  · exact favours_total key first

/-- The sort by `key` that puts the `first` elements first among equals. -/
def OrderBy.favouring (key : α → ℚ) (first : α → Bool) : OrderBy key where
  sort rows := rows.mergeSort (favours key first)
  perm rows := List.mergeSort_perm rows _
  sorted rows := by
    apply (favours_sorted key first rows).imp
    intro a b h
    rcases favours_iff.mp h with h | ⟨h, -⟩
    · exact le_of_lt h
    · exact le_of_eq h

/-- A favoured element is served as soon as fewer than a batch sort strictly
before it. -/
theorem mem_take_favouring [DecidableEq α] {key : α → ℚ} {rows : List α} {x : α}
    (hnodup : rows.Nodup) (hx : x ∈ rows) {m : Nat}
    (hm : (rows.filter fun y => decide (key y < key x)).length < m) :
    x ∈ ((OrderBy.favouring key fun y => decide (y = x)).sort rows).take m := by
  have hperm := (OrderBy.favouring key fun y => decide (y = x)).perm rows
  have hsorted : ((OrderBy.favouring key fun y => decide (y = x)).sort rows).Pairwise
      (fun a b => favours key (fun y => decide (y = x)) a b = true) :=
    favours_sorted key _ rows
  refine mem_take_of_sorted (p := fun y => favours key (fun y => decide (y = x)) y x) hsorted
    (fun a _ b _ hab hb => favours_trans hab hb) ?_ (hperm.mem_iff.mpr hx) ?_
  · rw [(hperm.filter _).length_eq]
    -- what may come before `x` is `x` itself and what sorts strictly before it
    have hsub : rows.filter (fun y => favours key (fun y => decide (y = x)) y x) ⊆
        x :: rows.filter (fun y => decide (key y < key x)) := by
      intro y hy
      obtain ⟨hy, hfav⟩ := List.mem_filter.mp hy
      rcases favours_iff.mp hfav with h | ⟨-, h | h⟩
      · exact List.mem_cons_of_mem _ (List.mem_filter.mpr ⟨hy, decide_eq_true h⟩)
      · exact List.mem_cons.mpr (Or.inl (of_decide_eq_true h))
      · exact absurd rfl (of_decide_eq_false h)
    have hle := (List.subperm_of_subset (hnodup.filter _) hsub).length_le
    rw [List.length_cons] at hle
    exact le_trans hle hm
  · rw [favours_iff]
    exact Or.inr ⟨rfl, Or.inl (decide_eq_true rfl)⟩

/-! ## The first of each key -/

section
variable {κ : Type*} [DecidableEq κ] {key : α → κ} {p q : κ → Bool} {rows : List α}

/-- Of the rows whose key satisfies `p`, the first with each key. -/
def firstPerKey (key : α → κ) (p : κ → Bool) (rows : List α) : List α :=
  rows.foldl (fun kept a => if p (key a) = true ∧ key a ∉ kept.map key then kept ++ [a] else kept) []

@[simp] theorem firstPerKey_nil (key : α → κ) (p : κ → Bool) : firstPerKey key p [] = [] := rfl

theorem firstPerKey_snoc (key : α → κ) (p : κ → Bool) (rows : List α) (a : α) :
    firstPerKey key p (rows ++ [a]) =
      if p (key a) = true ∧ key a ∉ (firstPerKey key p rows).map key
      then firstPerKey key p rows ++ [a] else firstPerKey key p rows :=
  List.foldl_append

theorem key_mem_firstPerKey {a : α} (ha : a ∈ rows) (hp : p (key a) = true) :
    key a ∈ (firstPerKey key p rows).map key := by
  induction rows using List.reverseRecOn with
  | nil => exact absurd ha List.not_mem_nil
  | append_singleton rows b ih =>
      have hkept : key a ∈ (firstPerKey key p rows).map key →
          key a ∈ (firstPerKey key p (rows ++ [b])).map key := by
        intro h
        rw [firstPerKey_snoc]
        split
        · rw [List.map_append]
          exact List.mem_append_left _ h
        · exact h
      rcases List.mem_append.mp ha with ha | ha
      · exact hkept (ih ha)
      · obtain rfl := List.mem_singleton.mp ha
        by_cases hold : key a ∈ (firstPerKey key p rows).map key
        · exact hkept hold
        · rw [firstPerKey_snoc, if_pos ⟨hp, hold⟩, List.map_append]
          exact List.mem_append_right _ (List.mem_singleton.mpr rfl)

/-- No key is kept twice. -/
theorem nodup_firstPerKey (key : α → κ) (p : κ → Bool) (rows : List α) :
    ((firstPerKey key p rows).map key).Nodup := by
  induction rows using List.reverseRecOn with
  | nil => exact List.nodup_nil
  | append_singleton rows a ih =>
      rw [firstPerKey_snoc]
      split
      · rename_i hnew
        rw [List.map_append]
        exact ih.append (List.nodup_singleton _) (List.disjoint_singleton.mpr hnew.2)
      · exact ih

/-- Only the keys that occur matter. -/
theorem firstPerKey_congr (h : ∀ a ∈ rows, p (key a) = q (key a)) :
    firstPerKey key p rows = firstPerKey key q rows := by
  induction rows using List.reverseRecOn with
  | nil => rfl
  | append_singleton rows a ih =>
      have ha := h a (List.mem_append_right _ (List.mem_singleton.mpr rfl))
      rw [firstPerKey_snoc, firstPerKey_snoc, ha,
        ih fun b hb => h b (List.mem_append_left _ hb)]

/-- Dropping the rows that fail `p` beforehand makes no difference. -/
theorem firstPerKey_filter (key : α → κ) (p : κ → Bool) (rows : List α) :
    firstPerKey key p (rows.filter fun a => p (key a)) = firstPerKey key p rows := by
  induction rows using List.reverseRecOn with
  | nil => rfl
  | append_singleton rows a ih =>
      rw [List.filter_append, firstPerKey_snoc]
      by_cases hp : p (key a) = true
      · have hone : [a].filter (fun a => p (key a)) = [a] := by simp [hp]
        rw [hone, firstPerKey_snoc, ih]
      · have hnone : [a].filter (fun a => p (key a)) = [] := by simp [hp]
        rw [hnone, List.append_nil, ih, if_neg fun h => hp h.1]

end

/-! ## The first of a kind -/

theorem find?_eq_none_of_perm {p : α → Bool} {xs ys : List α} (h : ys.Perm xs)
    (hnone : xs.find? p = none) : ys.find? p = none := by
  rw [List.find?_eq_none] at hnone ⊢
  exact fun a ha => hnone a (h.subset ha)

/-- What is read off the first match is the same in every order exactly when all
the matches agree on it. -/
theorem first_match_perm {β : Type*} {p : α → Bool} {read : Option α → β} {xs : List α} :
    (∀ ys : List α, ys.Perm xs → read (ys.find? p) = read (xs.find? p)) ↔
      ∀ a ∈ xs, ∀ b ∈ xs, p a = true → p b = true → read (some a) = read (some b) := by
  classical
  constructor
  · intro hsame
    have hfirst : ∀ a ∈ xs, p a = true → read (some a) = read (xs.find? p) := by
      intro a ha hpa
      -- any match can be listed first
      have hfront := hsame (a :: xs.erase a) (List.perm_cons_erase ha).symm
      rwa [List.find?_cons_of_pos hpa] at hfront
    intro a ha b hb hpa hpb
    rw [hfirst a ha hpa, hfirst b hb hpb]
  · intro hagree ys hperm
    cases hxs : xs.find? p with
    | none => rw [find?_eq_none_of_perm hperm hxs]
    | some a =>
        cases hys : ys.find? p with
        | none =>
            rw [find?_eq_none_of_perm hperm.symm hys] at hxs
            cases hxs
        | some b =>
            exact hagree b (hperm.subset (List.mem_of_find?_eq_some hys)) a
              (List.mem_of_find?_eq_some hxs) (List.find?_some hys) (List.find?_some hxs)

end UniTrack.Framework
