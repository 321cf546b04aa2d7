import Mathlib.Algebra.Order.Ring.Rat
import Mathlib.Logic.Function.Basic
import Mathlib.Tactic.Common

/-!
# Keys that expire

A key-value store whose entries each carry a deadline. Nothing happens at the
deadline: an entry past it is simply no longer read, so expiry can fall
between any two steps of a run without being a step itself.
-/

namespace UniTrack.Framework

/-- A stored value and the instant at which it is gone. -/
structure Expiring (V : Type*) where
  value : V
  deadline : ℚ

/-- The entries of a store, expired ones included. -/
def KeyValues (K V : Type*) := K → Option (Expiring V)

namespace KeyValues

variable {K V : Type*}

def empty (K V : Type*) : KeyValues K V := fun _ => none

/-- `GET`. -/
def get (kv : KeyValues K V) (now : ℚ) (k : K) : Option V :=
  (kv k).bind fun e => if now < e.deadline then some e.value else none

/-- `EXISTS`. -/
def live (kv : KeyValues K V) (now : ℚ) (k : K) : Bool := (kv.get now k).isSome

theorem get_eq_some {kv : KeyValues K V} {now : ℚ} {k : K} {v : V} :
    kv.get now k = some v ↔ ∃ deadline, kv k = some ⟨v, deadline⟩ ∧ now < deadline := by
  unfold get
  cases kv k with
  | none => simp
  | some e =>
      obtain ⟨value, deadline⟩ := e
      by_cases hlive : now < deadline
      · simp [hlive, eq_comm]
      · simp only [Option.bind_some, if_neg hlive, Option.some.injEq, Expiring.mk.injEq, false_iff,
          not_exists, not_and, reduceCtorEq]
        rintro _ ⟨-, rfl⟩
        exact hlive

theorem get_of_entry {kv : KeyValues K V} {now : ℚ} {k : K} {e : Expiring V}
    (he : kv k = some e) (hlive : now < e.deadline) : kv.get now k = some e.value :=
  get_eq_some.mpr ⟨e.deadline, he, hlive⟩

/-- What is read later was there before. -/
theorem get_of_le {kv : KeyValues K V} {now now' : ℚ} {k : K} {v : V} (hle : now ≤ now')
    (h : kv.get now' k = some v) : kv.get now k = some v := by
  obtain ⟨deadline, he, hlive⟩ := get_eq_some.mp h
  exact get_eq_some.mpr ⟨deadline, he, lt_of_le_of_lt hle hlive⟩

theorem live_iff {kv : KeyValues K V} {now : ℚ} {k : K} :
    kv.live now k = true ↔ ∃ e, kv k = some e ∧ now < e.deadline := by
  rw [live, Option.isSome_iff_exists]
  constructor
  · rintro ⟨v, hv⟩
    obtain ⟨deadline, he, hlive⟩ := get_eq_some.mp hv
    exact ⟨_, he, hlive⟩
  · rintro ⟨e, he, hlive⟩
    exact ⟨e.value, get_of_entry he hlive⟩

variable [DecidableEq K]

/-- `SET … EX ttl`. -/
def set (kv : KeyValues K V) (now : ℚ) (k : K) (v : V) (ttl : ℚ) : KeyValues K V :=
  Function.update kv k (some ⟨v, now + ttl⟩)

/-- `SET … NX EX ttl`, and whether it set the key. -/
def setNx (kv : KeyValues K V) (now : ℚ) (k : K) (v : V) (ttl : ℚ) : KeyValues K V × Bool :=
  if kv.live now k then (kv, false) else (kv.set now k v ttl, true)

/-- `DEL`. -/
def del (kv : KeyValues K V) (k : K) : KeyValues K V := Function.update kv k none

@[simp] theorem set_self (kv : KeyValues K V) (now : ℚ) (k : K) (v : V) (ttl : ℚ) :
    kv.set now k v ttl k = some ⟨v, now + ttl⟩ := Function.update_self ..

@[simp] theorem del_self (kv : KeyValues K V) (k : K) : kv.del k k = none :=
  Function.update_self ..

theorem set_of_ne {kv : KeyValues K V} {now : ℚ} {k k' : K} {v : V} {ttl : ℚ} (h : k' ≠ k) :
    kv.set now k v ttl k' = kv k' := Function.update_of_ne h ..

theorem get_set_self {kv : KeyValues K V} {now now' : ℚ} {k : K} {v v' : V} {ttl : ℚ}
    (h : (kv.set now k v ttl).get now' k = some v') : v' = v := by
  obtain ⟨deadline, he, -⟩ := get_eq_some.mp h
  exact congrArg Expiring.value (Option.some.inj (he.symm.trans (set_self kv now k v ttl)))

theorem get_set_of_ne {kv : KeyValues K V} {now now' : ℚ} {k k' : K} {v : V} {ttl : ℚ}
    (h : k' ≠ k) : (kv.set now k v ttl).get now' k' = kv.get now' k' := by
  unfold get
  rw [set_of_ne h]

theorem get_del_self (kv : KeyValues K V) (now : ℚ) (k : K) : (kv.del k).get now k = none := by
  unfold get
  rw [del_self]
  rfl

theorem del_of_ne {kv : KeyValues K V} {k k' : K} (h : k' ≠ k) : kv.del k k' = kv k' :=
  Function.update_of_ne h ..

theorem get_del_of_ne {kv : KeyValues K V} {now : ℚ} {k k' : K} (h : k' ≠ k) :
    (kv.del k).get now k' = kv.get now k' := by
  unfold get
  rw [del_of_ne h]

end KeyValues

/-- How a command to the store ends: done and answered, never carried out, or
carried out with the answer lost. The last two look the same to the caller. -/
inductive CallOutcome where
  | done
  | refused
  | unheard
deriving DecidableEq

def CallOutcome.applied : CallOutcome → Bool
  | .refused => false
  | _ => true

def CallOutcome.heard : CallOutcome → Bool
  | .done => true
  | _ => false

end UniTrack.Framework
