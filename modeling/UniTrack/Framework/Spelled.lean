import UniTrack.Framework.Expiry
import UniTrack.Framework.Threads

/-!
# Values kept as text in a shared store

A program keeps its values in a store of texts that others use too: under keys
of its own, spelled so that they can be read back. What it sees of the store is
then a store of values, and what the others do to theirs is not seen.

1. The store of values behind a store of texts.
2. A program among writes of others.
-/

namespace UniTrack.Framework

namespace KeyValues

variable {K V : Type*} [DecidableEq K]

/-- Whatever a command leaves under a key. -/
def put (kv : KeyValues K V) (k : K) (entry : Option (Expiring V)) : KeyValues K V :=
  Function.update kv k entry

theorem put_self (kv : KeyValues K V) (k : K) (entry : Option (Expiring V)) :
    kv.put k entry k = entry := Function.update_self ..

theorem put_of_ne {kv : KeyValues K V} {k k' : K} {entry : Option (Expiring V)} (h : k' ≠ k) :
    kv.put k entry k' = kv k' := Function.update_of_ne h ..

theorem set_eq_put (kv : KeyValues K V) (now : ℚ) (k : K) (v : V) (ttl : ℚ) :
    kv.set now k v ttl = kv.put k (some ⟨v, now + ttl⟩) := rfl

end KeyValues

/-! ## §1 The store of values behind a store of texts -/

/-- The key of each value, how a value is spelled, and how a spelling is read. -/
structure Codec (K V T X : Type*) where
  key : K → T
  write : V → X
  read : X → Option V
  key_injective : Function.Injective key

namespace Codec

variable {K V T X : Type*} (f : Codec K V T X)

/-- What is spelled under the keys; a text that cannot be read is no entry. -/
def view (store : KeyValues T X) : KeyValues K V := fun k =>
  (store (f.key k)).bind fun e => (f.read e.value).map fun v => ⟨v, e.deadline⟩

theorem get_view (store : KeyValues T X) (now : ℚ) (k : K) :
    (f.view store).get now k = (store.get now (f.key k)).bind f.read := by
  unfold KeyValues.get view
  cases store (f.key k) with
  | none => rfl
  | some e =>
      cases hread : f.read e.value with
      | none =>
          by_cases hlive : now < e.deadline <;>
            simp only [Option.bind_some, hread, hlive, Option.map_none, Option.bind_none, if_true,
              if_false]
      | some v =>
          by_cases hlive : now < e.deadline <;>
            simp only [Option.bind_some, hread, hlive, Option.map_some, Option.bind_none, if_true,
              if_false]

variable [DecidableEq T]

/-- Another key is not seen. -/
theorem view_put_other {t : T} (h : ∀ k, f.key k ≠ t) (store : KeyValues T X)
    (entry : Option (Expiring X)) : f.view (store.put t entry) = f.view store := by
  funext k
  rw [view, KeyValues.put_of_ne (h k)]
  rfl

variable [DecidableEq K]

theorem view_put (store : KeyValues T X) (k : K) (entry : Option (Expiring X)) :
    f.view (store.put (f.key k) entry) = (f.view store).put k
      (entry.bind fun e => (f.read e.value).map fun v => ⟨v, e.deadline⟩) := by
  funext k'
  by_cases hk : k' = k
  · subst hk
    rw [KeyValues.put_self, view, KeyValues.put_self]
  · rw [KeyValues.put_of_ne hk, view, KeyValues.put_of_ne (f.key_injective.ne hk)]
    rfl

/-- A value is stored as what it is spelled. -/
theorem view_set {v : V} (h : f.read (f.write v) = some v) (store : KeyValues T X) (now : ℚ) (k : K)
    (ttl : ℚ) :
    f.view (store.set now (f.key k) (f.write v) ttl) = (f.view store).set now k v ttl := by
  rw [KeyValues.set_eq_put, view_put, Option.bind_some, h]
  rfl

theorem view_del (store : KeyValues T X) (k : K) :
    f.view (store.del (f.key k)) = (f.view store).del k :=
  f.view_put store k none

end Codec

/-! ## §2 A program among writes of others -/

section
variable {S S' P A L O : Type*}

/-- The program takes a step, or somebody else does. -/
def amongStep (step : S → L → S) (other : S → O → S) (s : S) : L ⊕ O → S
  | .inl l => step s l
  | .inr o => other s o

/-- The steps of the program itself. -/
def ownSteps (labels : List (L ⊕ O)) : List L := labels.filterMap Sum.getLeft?

/-- **What the program sees, runs**: where each step does to what is seen what
the step over values does, and nobody else changes what is seen, a run among
others is the run of the program's own steps over values. -/
theorem seen_run {step : S → L → S} {step' : S' → L → S'} {other : S → O → S} (see : S → S')
    (hstep : ∀ s l, see (step s l) = step' (see s) l) (hother : ∀ s o, see (other s o) = see s)
    (s : S) (labels : List (L ⊕ O)) :
    see (run (amongStep step other) s labels) = run step' (see s) (ownSteps labels) := by
  induction labels generalizing s with
  | nil => rfl
  | cons label labels ih =>
      rw [run_cons, ih]
      cases label with
      | inl l =>
          rw [amongStep, hstep]
          rfl
      | inr o =>
          rw [amongStep, hother]
          rfl

/-- The same threads over what they see of the store. -/
def World.seen (see : S → S') (w : World S P) : World S' P where
  store := see w.store
  threads := w.threads

/-- Somebody else writes to the store of the threads. -/
def World.disturb (other : S → O → S) (w : World S P) (o : O) : World S P :=
  { w with store := other w.store o }

/-- Threads over a store of texts run as the threads over values. -/
theorem threads_seen_run {advance : S → P → A → S × P} {advance' : S' → P → A → S' × P}
    {other : S → O → S} (see : S → S')
    (hstep : ∀ s p a, advance' (see s) p a = (see (advance s p a).1, (advance s p a).2))
    (hother : ∀ s o, see (other s o) = see s) (w : World S P) (labels : List ((ℕ × A) ⊕ O)) :
    (run (amongStep (threadStep advance) (World.disturb other)) w labels).seen see =
      run (threadStep advance') (w.seen see) (ownSteps labels) := by
  refine seen_run (World.seen see) (fun w l => ?_) (fun w o => ?_) w labels
  · ext t
    · rw [threadStep_store]
      exact (congrArg Prod.fst (hstep w.store (w.threads l.1) l.2)).symm
    · by_cases ht : t = l.1
      · rw [ht, threadStep_threads_self]
        exact (threadStep_threads_self w l).trans
          (congrArg Prod.snd (hstep w.store (w.threads l.1) l.2)).symm
      · rw [threadStep_threads_of_ne ht]
        exact threadStep_threads_of_ne ht
  · exact congrArg (fun s => (⟨s, w.threads⟩ : World S' P)) (hother w.store o)

end

end UniTrack.Framework
