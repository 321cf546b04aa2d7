import Mathlib.Data.List.Basic
import Mathlib.Data.List.Pairwise
import Mathlib.Data.List.Perm.Subperm
import Mathlib.Data.Rat.Defs
import Mathlib.Algebra.Order.Ring.Rat
import Mathlib.Tactic.Common

/-!
# Tables with UNIQUE constraints

A table is a list of rows no two of which clash, where two rows clash when
some UNIQUE constraint of their schema forbids both. The constraint is part of
the type, so a table that breaks it cannot be built: an insert that would
break it fails (the database's integrity error), and an update has to show
that it leaves the constrained columns alone.

A query that leaves the order of its rows open is modelled by a value that
stands for the choice the database makes: `FirstRow` for a lookup without
ORDER BY, `OrderBy` for the ties of a sort.
-/

namespace UniTrack.Framework

/-- The UNIQUE constraints of a row type. -/
class UniqueKeys (α : Type*) where
  clash : α → α → Bool
  clash_symm : ∀ {a b}, clash a b → clash b a

open UniqueKeys

@[ext] structure Table (α : Type*) [UniqueKeys α] where
  rows : List α
  separate : rows.Pairwise fun a b => ¬ clash a b

namespace Table

variable {α : Type*} [UniqueKeys α]

instance [DecidableEq α] : DecidableEq (Table α) := fun _ _ =>
  decidable_of_iff _ Table.ext_iff.symm

instance : Membership α (Table α) := ⟨fun t a => a ∈ t.rows⟩

theorem mem_def {t : Table α} {a : α} : a ∈ t ↔ a ∈ t.rows := Iff.rfl

def empty : Table α := ⟨[], List.Pairwise.nil⟩

@[simp] theorem not_mem_empty (a : α) : a ∉ (empty : Table α) := List.not_mem_nil

/-- Two rows that clash are the same row. -/
theorem eq_of_clash {t : Table α} {a b : α} (ha : a ∈ t) (hb : b ∈ t)
    (h : clash a b) : a = b := by
  by_contra hne
  have hsymm : Std.Symm fun a b : α => ¬ clash a b :=
    ⟨fun _ _ hab hba => hab (clash_symm hba)⟩
  exact t.separate.forall ha hb hne h

/-- `INSERT`: fails when a stored row clashes with the new one. -/
def insert (t : Table α) (a : α) : Option (Table α) :=
  if h : ∀ b ∈ t.rows, ¬ clash b a then
    some ⟨t.rows ++ [a], by
      rw [List.pairwise_append]
      refine ⟨t.separate, List.pairwise_singleton _ _, ?_⟩
      intro b hb a' ha'
      rw [List.mem_singleton.mp ha']
      exact h b hb⟩
  else none

theorem insert_eq_some {t t' : Table α} {a : α} :
    t.insert a = some t' ↔ (∀ b ∈ t, ¬ clash b a) ∧ t'.rows = t.rows ++ [a] := by
  unfold insert
  split
  · rename_i h
    constructor
    · intro he
      obtain rfl := Option.some.inj he
      exact ⟨h, rfl⟩
    · rintro ⟨-, hrows⟩
      exact congrArg some (Table.ext hrows.symm)
  · rename_i h
    constructor
    · intro he
      cases he
    · rintro ⟨hfree, -⟩
      exact absurd hfree h

theorem insert_eq_none {t : Table α} {a : α} :
    t.insert a = none ↔ ∃ b ∈ t, clash b a := by
  unfold insert
  split
  · rename_i h
    simp only [reduceCtorEq, false_iff, not_exists, not_and]
    exact h
  · rename_i h
    push Not at h
    exact iff_of_true rfl h

theorem mem_of_insert {t t' : Table α} {a : α} (h : t.insert a = some t') {b : α} :
    b ∈ t' ↔ b ∈ t ∨ b = a := by
  rw [mem_def, (insert_eq_some.mp h).2, List.mem_append, List.mem_singleton]
  rfl

/-- `UPDATE`: rewrites rows in place, leaving the constrained columns alone. -/
def update (t : Table α) (f : α → α)
    (hf : ∀ a b, clash (f a) (f b) → clash a b) : Table α :=
  ⟨t.rows.map f, List.pairwise_map.mpr (t.separate.imp fun h hc => h (hf _ _ hc))⟩

@[simp] theorem mem_update {t : Table α} {f : α → α}
    {hf : ∀ a b, clash (f a) (f b) → clash a b} {a : α} :
    a ∈ t.update f hf ↔ ∃ b ∈ t, f b = a := List.mem_map

@[simp] theorem update_rows (t : Table α) (f : α → α)
    (hf : ∀ a b, clash (f a) (f b) → clash a b) :
    (t.update f hf).rows = t.rows.map f := rfl

/-- `UPDATE` of constrained columns: fails when two rows clash afterwards. -/
def rewrite (t : Table α) (f : α → α) : Option (Table α) :=
  if h : (t.rows.map f).Pairwise fun a b => ¬ clash a b then some ⟨t.rows.map f, h⟩ else none

theorem rewrite_eq_some {t t' : Table α} {f : α → α} (h : t.rewrite f = some t') :
    t'.rows = t.rows.map f := by
  unfold rewrite at h
  split at h
  · cases h
    rfl
  · cases h

/-- One row, found by a key that is itself unique, cannot be rewritten exactly
when another row clashes with what it becomes. -/
theorem rewrite_keyed_eq_none {κ : Type*} [DecidableEq κ] {key : α → κ}
    (hkey : ∀ a b : α, key a = key b → clash a b) {t : Table α} {old new : α} (hold : old ∈ t)
    (hsame : key new = key old) :
    t.rewrite (fun a => if key a = key new then new else a) = none ↔
      ∃ b ∈ t, key b ≠ key new ∧ clash b new := by
  constructor
  · intro hnone
    by_contra hfree
    push Not at hfree
    have hpairs : (t.rows.map fun a => if key a = key new then new else a).Pairwise
        fun a b => ¬ clash a b := by
      rw [List.pairwise_map]
      apply t.separate.imp_of_mem
      intro a b ha hb hab
      split <;> split
      · rename_i hka hkb
        exact absurd (hkey a b (hka.trans hkb.symm)) hab
      · rename_i hka hkb
        exact fun h => hfree b hb hkb (clash_symm h)
      · rename_i hka hkb
        exact hfree a ha hka
      · exact hab
    rw [rewrite, dif_pos hpairs] at hnone
    cases hnone
  · rintro ⟨b, hb, hne, hclash⟩
    cases ht' : t.rewrite fun a => if key a = key new then new else a with
    | none => rfl
    | some t' =>
        have hrows := rewrite_eq_some ht'
        have hb' : b ∈ t' := by
          rw [mem_def, hrows]
          exact List.mem_map.mpr ⟨b, hb, if_neg hne⟩
        have hnew : new ∈ t' := by
          rw [mem_def, hrows]
          exact List.mem_map.mpr ⟨old, hold, if_pos hsame.symm⟩
        exact absurd (congrArg key (eq_of_clash hb' hnew hclash)) hne

/-- `DELETE`. -/
def delete (t : Table α) (p : α → Bool) : Table α :=
  ⟨t.rows.filter fun a => !p a, t.separate.filter _⟩

@[simp] theorem mem_delete {t : Table α} {p : α → Bool} {a : α} :
    a ∈ t.delete p ↔ a ∈ t ∧ p a = false := by
  show a ∈ t.rows.filter (fun a => !p a) ↔ a ∈ t.rows ∧ p a = false
  rw [List.mem_filter, Bool.not_eq_true']

/-- A lookup by a unique column. -/
def find (t : Table α) (p : α → Bool) : Option α := t.rows.find? p

theorem mem_of_find {t : Table α} {p : α → Bool} {a : α}
    (h : t.find p = some a) : a ∈ t ∧ p a = true :=
  ⟨List.mem_of_find?_eq_some h, List.find?_some h⟩

theorem find_eq_none {t : Table α} {p : α → Bool} :
    t.find p = none ↔ ∀ a ∈ t, p a = false := by
  rw [find, List.find?_eq_none]
  simp only [Bool.not_eq_true]
  rfl

/-- A lookup whose predicate fixes a unique column finds the row it matches. -/
theorem find_eq_some {t : Table α} {p : α → Bool}
    (hp : ∀ a b, p a = true → p b = true → clash a b) {a : α} :
    t.find p = some a ↔ a ∈ t ∧ p a = true := by
  constructor
  · exact mem_of_find
  · rintro ⟨ha, hpa⟩
    cases hf : t.find p with
    | none => rw [find_eq_none.mp hf a ha] at hpa; cases hpa
    | some b =>
        obtain ⟨hb, hpb⟩ := mem_of_find hf
        rw [eq_of_clash hb ha (hp b a hpb hpa)]

end Table

/-- A generated primary key: one that no row carries. -/
def freshKey {α : Type*} (key : α → ℕ) (rows : List α) : ℕ :=
  rows.foldr (fun a n => max (key a + 1) n) 0

theorem lt_freshKey {α : Type*} (key : α → ℕ) {rows : List α} {a : α} (h : a ∈ rows) :
    key a < freshKey key rows := by
  induction rows with
  | nil => exact absurd h List.not_mem_nil
  | cons b rows ih =>
      unfold freshKey
      rw [List.foldr_cons]
      rcases List.mem_cons.mp h with rfl | h
      · exact lt_of_lt_of_le (Nat.lt_succ_self _) (le_max_left _ _)
      · exact lt_of_lt_of_le (ih h) (le_max_right _ _)

/-! ## Choices the database makes -/

/-- The row a lookup without ORDER BY happens to return first. -/
structure FirstRow (α : Type*) where
  first : List α → Option α
  first_mem : ∀ {rows a}, first rows = some a → a ∈ rows
  first_none : ∀ {rows}, first rows = none → rows = []

/-- The lookup that returns the oldest row. -/
def FirstRow.oldest (α : Type*) : FirstRow α where
  first := List.head?
  first_mem := List.mem_of_mem_head?
  first_none := List.head?_eq_none_iff.mp

theorem FirstRow.first_eq_none {α : Type*} (c : FirstRow α) {rows : List α} :
    c.first rows = none ↔ rows = [] := by
  constructor
  · exact c.first_none
  · rintro rfl
    cases h : c.first [] with
    | none => rfl
    | some a => exact absurd (c.first_mem h) List.not_mem_nil

/-- `LIMIT n` without ORDER BY: some `n` of the rows, or all of fewer, in some
order. -/
structure Limit (α : Type*) (n : Nat) where
  take : List α → List α
  subperm : ∀ rows, (take rows).Subperm rows
  length_take : ∀ rows, (take rows).length = min n rows.length

/-- The first `n` rows. -/
def Limit.front (α : Type*) (n : Nat) : Limit α n where
  take := List.take n
  subperm rows := (List.take_sublist n rows).subperm
  length_take _ := List.length_take

/-- `ORDER BY key`: some permutation of the rows that is sorted by `key`. -/
structure OrderBy {α : Type*} (key : α → ℚ) where
  sort : List α → List α
  perm : ∀ rows, (sort rows).Perm rows
  sorted : ∀ rows, (sort rows).Pairwise fun a b => key a ≤ key b

/-- The stable sort. -/
def OrderBy.stable {α : Type*} (key : α → ℚ) : OrderBy key where
  sort rows := rows.mergeSort fun a b => decide (key a ≤ key b)
  perm rows := List.mergeSort_perm rows _
  sorted rows := by
    have htrans : ∀ a b c : α, decide (key a ≤ key b) = true →
        decide (key b ≤ key c) = true → decide (key a ≤ key c) = true := by
      intro a b c hab hbc
      exact decide_eq_true (le_trans (of_decide_eq_true hab) (of_decide_eq_true hbc))
    have htotal : ∀ a b : α,
        (decide (key a ≤ key b) || decide (key b ≤ key a)) = true := by
      intro a b
      rcases le_total (key a) (key b) with h | h <;> simp [h]
    exact (List.pairwise_mergeSort htrans htotal rows).imp of_decide_eq_true

/-- `ORDER BY … LIMIT n`: a row that is left out comes after `n` rows that are not. -/
theorem OrderBy.mem_take {α : Type*} {key : α → ℚ} (o : OrderBy key) {rows : List α} {a : α}
    (ha : a ∈ rows) (n : ℕ) : a ∈ (o.sort rows).take n ∨
      ((o.sort rows).take n).length = n ∧ ∀ b ∈ (o.sort rows).take n, key b ≤ key a := by
  have hsplit := List.take_append_drop n (o.sort rows)
  have hmem : a ∈ (o.sort rows).take n ++ (o.sort rows).drop n :=
    hsplit.symm ▸ (o.perm rows).mem_iff.mpr ha
  rcases List.mem_append.mp hmem with htake | hdrop
  · exact Or.inl htake
  · have hlong : n < (o.sort rows).length := by
      by_contra hshort
      rw [List.drop_eq_nil_of_le (Nat.le_of_not_lt hshort)] at hdrop
      exact List.not_mem_nil hdrop
    have hsorted := o.sorted rows
    rw [← hsplit] at hsorted
    exact Or.inr ⟨List.length_take_of_le hlong.le, fun b hb =>
      (List.pairwise_append.mp hsorted).2.2 b hb a hdrop⟩

end UniTrack.Framework
