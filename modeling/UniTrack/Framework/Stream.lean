import Mathlib.Data.List.Nodup
import Mathlib.Data.List.Range
import Mathlib.Tactic.Common

/-!
# A stream with a consumer group, and documents by id

An entry of a stream is named by its position. A group is handed each entry
once: a read takes up where the last one left off, and what was handed out
stays pending until it is acknowledged. Documents are stored under an id, and
storing one again replaces it.
-/

namespace UniTrack.Framework

/-! ## Streams -/

/-- `group` is how many entries the group has been handed, if it exists. -/
structure Stream (F : Type*) where
  entries : List F
  group : Option ℕ
  pending : List ℕ

namespace Stream

variable {F : Type*}

def empty (F : Type*) : Stream F := ⟨[], none, []⟩

/-- `XADD`. -/
def add (s : Stream F) (f : F) : Stream F := { s with entries := s.entries ++ [f] }

/-- `XGROUP CREATE` from the beginning; an existing group stays as it is. -/
def createGroup (s : Stream F) : Stream F :=
  match s.group with
  | none => { s with group := some 0 }
  | some _ => s

/-- How many entries the group has been handed. -/
def handed (s : Stream F) : ℕ := s.group.getD 0

/-- The ids that a read of `count` new entries hands out. -/
def unread (s : Stream F) (count : ℕ) : List ℕ :=
  List.range' s.handed (min count (s.entries.length - s.handed))

/-- `XREADGROUP … COUNT count STREAMS … >`. -/
def readGroup (s : Stream F) (count : ℕ) : Stream F :=
  { s with
    group := some (s.handed + min count (s.entries.length - s.handed))
    pending := s.pending ++ s.unread count }

/-- `XACK`. -/
def ack (s : Stream F) (ids : List ℕ) : Stream F :=
  { s with pending := s.pending.filter (· ∉ ids) }

variable {s : Stream F}

@[simp] theorem handed_createGroup : s.createGroup.handed = s.handed := by
  unfold createGroup handed
  split
  · rename_i h
    rw [h]
    rfl
  · rfl

@[simp] theorem entries_createGroup : s.createGroup.entries = s.entries := by
  unfold createGroup
  split <;> rfl

theorem group_createGroup : s.createGroup.group = some s.handed := by
  unfold createGroup handed
  split
  · rename_i h
    rw [h]
    rfl
  · rename_i h
    rw [h]
    rfl

@[simp] theorem handed_readGroup (count : ℕ) :
    (s.readGroup count).handed = s.handed + min count (s.entries.length - s.handed) := rfl

theorem mem_unread {count id : ℕ} :
    id ∈ s.unread count ↔ s.handed ≤ id ∧ id < (s.readGroup count).handed := by
  rw [unread, List.mem_range'_1, handed_readGroup]

theorem handed_readGroup_le (count : ℕ) (h : s.handed ≤ s.entries.length) :
    (s.readGroup count).handed ≤ s.entries.length := by
  rw [handed_readGroup]
  omega

end Stream

/-- Entries made one by one, unless one of them cannot be made. -/
theorem exists_of_mem_mapM {A F : Type*} {make : A → Option F} {as : List A} {fs : List F}
    (h : as.mapM make = some fs) {f : F} (hf : f ∈ fs) : ∃ a ∈ as, make a = some f := by
  induction as generalizing fs with
  | nil =>
      obtain rfl : [] = fs := Option.some.inj h
      cases hf
  | cons a as ih =>
      rw [List.mapM_cons] at h
      obtain ⟨made, hmade, hrest⟩ := Option.bind_eq_some_iff.mp h
      obtain ⟨others, hothers, hall⟩ := Option.bind_eq_some_iff.mp hrest
      obtain rfl : made :: others = fs := Option.some.inj hall
      rcases List.mem_cons.mp hf with rfl | hf
      · exact ⟨a, List.mem_cons_self, hmade⟩
      · obtain ⟨a', ha', hmake⟩ := ih hothers hf
        exact ⟨a', List.mem_cons_of_mem a ha', hmake⟩

theorem exists_made_of_mem {A F : Type*} {make : A → Option F} {as : List A} {fs : List F}
    (h : as.mapM make = some fs) {a : A} (ha : a ∈ as) : ∃ f ∈ fs, make a = some f := by
  induction as generalizing fs with
  | nil => cases ha
  | cons first as ih =>
      rw [List.mapM_cons] at h
      obtain ⟨made, hmade, hrest⟩ := Option.bind_eq_some_iff.mp h
      obtain ⟨others, hothers, hall⟩ := Option.bind_eq_some_iff.mp hrest
      obtain rfl : made :: others = fs := Option.some.inj hall
      rcases List.mem_cons.mp ha with rfl | ha
      · exact ⟨made, List.mem_cons_self, hmade⟩
      · obtain ⟨f, hf, hmake⟩ := ih hothers ha
        exact ⟨f, List.mem_cons_of_mem made hf, hmake⟩

/-! ## Documents -/

section
variable {K V : Type*} [DecidableEq K]

/-- Stores a document under its id, in place of the one that was there. -/
def upsert (docs : List (K × V)) (doc : K × V) : List (K × V) :=
  if doc.1 ∈ docs.map Prod.fst then docs.map fun d => if d.1 = doc.1 then doc else d
  else docs ++ [doc]

/-- Stores documents one after the other. -/
def upserts (docs news : List (K × V)) : List (K × V) := news.foldl upsert docs

theorem keys_upsert (docs : List (K × V)) (doc : K × V) :
    (upsert docs doc).map Prod.fst =
      if doc.1 ∈ docs.map Prod.fst then docs.map Prod.fst else docs.map Prod.fst ++ [doc.1] := by
  unfold upsert
  split
  · rw [List.map_map]
    apply List.map_congr_left
    intro d _
    rw [Function.comp_apply]
    split
    · rename_i h
      exact h.symm
    · rfl
  · rw [List.map_append]
    rfl

theorem mem_keys_upserts {docs news : List (K × V)} {k : K} :
    k ∈ (upserts docs news).map Prod.fst ↔ k ∈ docs.map Prod.fst ∨ k ∈ news.map Prod.fst := by
  induction news generalizing docs with
  | nil => simp [upserts]
  | cons doc news ih =>
      have hstep : upserts docs (doc :: news) = upserts (upsert docs doc) news := rfl
      rw [hstep, ih, keys_upsert, List.map_cons, List.mem_cons]
      split
      · rename_i hmem
        constructor
        · rintro (h | h)
          · exact Or.inl h
          · exact Or.inr (Or.inr h)
        · rintro (h | rfl | h)
          · exact Or.inl h
          · exact Or.inl hmem
          · exact Or.inr h
      · rw [List.mem_append, List.mem_singleton, or_assoc]

/-- No id is stored twice. -/
theorem nodup_keys_upserts {docs news : List (K × V)} (h : (docs.map Prod.fst).Nodup) :
    ((upserts docs news).map Prod.fst).Nodup := by
  induction news generalizing docs with
  | nil => exact h
  | cons doc news ih =>
      apply ih
      rw [keys_upsert]
      split
      · exact h
      · rename_i hnew
        exact List.nodup_append.mpr ⟨h, List.nodup_singleton _, fun a ha b hb hab =>
          hnew (List.mem_singleton.mp hb ▸ hab ▸ ha)⟩

/-- Whatever is stored was stored before or is new. -/
theorem mem_of_mem_upserts {docs news : List (K × V)} {d : K × V} (h : d ∈ upserts docs news) :
    d ∈ docs ∨ d ∈ news := by
  induction news generalizing docs with
  | nil => exact Or.inl h
  | cons doc news ih =>
      rcases ih h with h | h
      · unfold upsert at h
        split at h
        · obtain ⟨d', hd', rfl⟩ := List.mem_map.mp h
          split
          · exact Or.inr List.mem_cons_self
          · exact Or.inl hd'
        · rcases List.mem_append.mp h with h | h
          · exact Or.inl h
          · exact Or.inr (List.mem_singleton.mp h ▸ List.mem_cons_self)
      · exact Or.inr (List.mem_cons_of_mem _ h)

end

end UniTrack.Framework
