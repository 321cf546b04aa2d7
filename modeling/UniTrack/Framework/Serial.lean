import Mathlib.Data.List.Perm.Basic
import UniTrack.Framework.Runs

/-!
# Serial executions

A transaction is given by its effect: which states it can lead to from the one
it finds. Concurrent transactions are serializable when what they leave is
what some order of them leaves, each one finding the state that the one before
it left. A machine that journals its transactions as they end is serializable
as long as each ends with the effect that it has at that moment.
-/

namespace UniTrack.Framework

variable {S T : Type*}

/-- The transactions, one after the other, lead from `s` to `s'`. -/
def Serially (effect : T → S → S → Prop) : S → List T → S → Prop
  | s, [], s' => s' = s
  | s, tx :: txs, s' => ∃ mid, effect tx s mid ∧ Serially effect mid txs s'

/-- Shared data, and the transactions that have ended. -/
structure Journal (S T : Type*) where
  data : S
  ended : List T

/-- Some order of the ended transactions leads from `start` to the data. -/
def Serializable (effect : T → S → S → Prop) (start : S) (j : Journal S T) : Prop :=
  ∃ order : List T, order.Perm j.ended ∧ Serially effect start order j.data

/-- Either nothing ended and nothing changed, or one transaction ended with
the effect that it has on the data it found. -/
def Journal.Advances (effect : T → S → S → Prop) (j j' : Journal S T) : Prop :=
  j' = j ∨ ∃ tx, effect tx j.data j'.data ∧ j'.ended = j.ended ++ [tx]

section
variable {effect : T → S → S → Prop}

theorem Journal.Advances.stay (j : Journal S T) : j.Advances effect j := Or.inl rfl

theorem serially_snoc {s mid s' : S} {txs : List T} {tx : T} (h : Serially effect s txs mid)
    (hlast : effect tx mid s') : Serially effect s (txs ++ [tx]) s' := by
  induction txs generalizing s with
  | nil =>
      obtain rfl : mid = s := h
      exact ⟨s', hlast, rfl⟩
  | cons first txs ih =>
      obtain ⟨next, hfirst, hrest⟩ := h
      exact ⟨next, hfirst, ih hrest⟩

/-- What each transaction keeps, a serial execution keeps. -/
theorem Serially.inv {Inv : S → Prop} (hstep : ∀ tx s s', Inv s → effect tx s s' → Inv s')
    {s s' : S} {txs : List T} (h : Serially effect s txs s') (hs : Inv s) : Inv s' := by
  induction txs generalizing s with
  | nil =>
      obtain rfl : s' = s := h
      exact hs
  | cons first txs ih =>
      obtain ⟨next, hfirst, hrest⟩ := h
      exact ih hrest (hstep first s next hs hfirst)

theorem serializable_start (start : S) :
    Serializable effect start { data := start, ended := ([] : List T) } :=
  ⟨[], List.Perm.refl [], rfl⟩

/-- **Ending in order**: a machine whose transactions end with the effect they
have at that moment stays serializable. -/
theorem Serializable.advance {start : S} {j j' : Journal S T}
    (h : Serializable effect start j) (hstep : j.Advances effect j') :
    Serializable effect start j' := by
  rcases hstep with rfl | ⟨tx, heffect, hended⟩
  · exact h
  · obtain ⟨order, hperm, hserial⟩ := h
    refine ⟨order ++ [tx], ?_, serially_snoc hserial heffect⟩
    rw [hended]
    exact hperm.append_right [tx]

/-- What holds of the start and is kept by each transaction holds of the data
of a serializable journal. -/
theorem Serializable.inv {Inv : S → Prop} (hstep : ∀ tx s s', Inv s → effect tx s s' → Inv s')
    {start : S} {j : Journal S T} (h : Serializable effect start j) (hstart : Inv start) :
    Inv j.data := by
  obtain ⟨order, -, hserial⟩ := h
  exact hserial.inv hstep hstart

end

end UniTrack.Framework
