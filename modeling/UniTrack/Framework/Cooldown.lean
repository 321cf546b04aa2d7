import UniTrack.Framework.Expiry
import Mathlib.Tactic.Linarith
import Mathlib.Tactic.Ring

/-!
# Cooldowns

A key that is only ever set where it is not there keeps apart those who set it:
between two of them lies the lifetime of the key.
-/

namespace UniTrack.Framework

/-- Instants in order, each at least this far from the one before. -/
def Spaced (gap : ℚ) (times : List ℚ) : Prop := times.Pairwise fun t t' => t + gap ≤ t'

/-- So many of them take so long. -/
theorem Spaced.length_le {gap t stop : ℚ} {times : List ℚ} (h : Spaced gap (t :: times))
    (hstop : ∀ t' ∈ t :: times, t' ≤ stop) : t + times.length * gap ≤ stop := by
  induction times generalizing t with
  | nil => simpa using hstop t List.mem_cons_self
  | cons t' times ih =>
      obtain ⟨hnext, hrest⟩ := List.pairwise_cons.mp h
      have hgap : t + gap ≤ t' := hnext t' List.mem_cons_self
      have hlate := ih hrest fun u hu => hstop u (List.mem_cons_of_mem t hu)
      rw [List.length_cons]
      push_cast
      linarith

section
variable {K V : Type*} {kv : KeyValues K V} {k : K} {gap now : ℚ} {times : List ℚ}

/-- As long as one of these claims lasts, the key is there. -/
def Cooling (kv : KeyValues K V) (k : K) (gap now : ℚ) (times : List ℚ) : Prop :=
  ∀ t ∈ times, ∀ later, now ≤ later → later < t + gap → kv.live later k = true

theorem Cooling.nil (kv : KeyValues K V) (k : K) (gap now : ℚ) : Cooling kv k gap now [] :=
  fun _ ht => absurd ht List.not_mem_nil

theorem Cooling.mono {now' : ℚ} (h : Cooling kv k gap now times) (hle : now ≤ now') :
    Cooling kv k gap now' times :=
  fun t ht later hlater => h t ht later (le_trans hle hlater)

/-- Only the entry of the key matters. -/
theorem Cooling.congr {kv' : KeyValues K V} (h : Cooling kv k gap now times) (hk : kv' k = kv k) :
    Cooling kv' k gap now times := by
  intro t ht later hlater hlive
  have hsame : kv'.live later k = kv.live later k := by
    unfold KeyValues.live KeyValues.get
    rw [hk]
  rw [hsame]
  exact h t ht later hlater hlive

/-- Whoever wins the key comes after every claim has lapsed. -/
theorem Cooling.lapsed (h : Cooling kv k gap now times) (hwon : ¬ kv.live now k = true) :
    ∀ t ∈ times, t + gap ≤ now := by
  intro t ht
  by_contra hearly
  exact hwon (h t ht now le_rfl (not_le.mp hearly))

variable [DecidableEq K]

theorem setNx_of_live {v : V} {ttl : ℚ} (h : kv.live now k = true) :
    kv.setNx now k v ttl = (kv, false) := by
  unfold KeyValues.setNx
  rw [if_pos h]

theorem setNx_of_not_live {v : V} {ttl : ℚ} (h : ¬ kv.live now k = true) :
    kv.setNx now k v ttl = (kv.set now k v ttl, true) := by
  unfold KeyValues.setNx
  rw [if_neg h]

/-- A `SET NX` of the key leaves the claims standing, its own included if it is
counted. -/
theorem Cooling.setNx (h : Cooling kv k gap now times) (v : V) :
    Cooling (kv.setNx now k v gap).1 k gap now times ∧
      ((kv.setNx now k v gap).2 = true →
        Cooling (kv.setNx now k v gap).1 k gap now (times ++ [now])) := by
  by_cases hlive : kv.live now k = true
  · rw [setNx_of_live hlive]
    refine ⟨h, ?_⟩
    rintro ⟨⟩
  · rw [setNx_of_not_live hlive]
    have hself : ∀ later, now ≤ later → later < now + gap →
        (kv.set now k v gap).live later k = true :=
      fun later _ hlater => KeyValues.live_iff.mpr ⟨_, KeyValues.set_self .., hlater⟩
    have hold : Cooling (kv.set now k v gap) k gap now times := by
      intro t ht later hlater hearly
      have hlapsed := h.lapsed hlive t ht
      exact absurd (lt_of_lt_of_le hearly hlapsed) (not_lt.mpr hlater)
    refine ⟨hold, fun _ t ht => ?_⟩
    rcases List.mem_append.mp ht with ht | ht
    · exact hold t ht
    · rw [List.mem_singleton.mp ht]
      exact hself

/-- A claim that is won is far enough from those before. -/
theorem Spaced.claim (hspaced : Spaced gap times) (h : Cooling kv k gap now times) {v : V}
    (hwon : (kv.setNx now k v gap).2 = true) : Spaced gap (times ++ [now]) := by
  have hlive : ¬ kv.live now k = true := by
    intro hlive
    rw [setNx_of_live hlive] at hwon
    cases hwon
  refine List.pairwise_append.mpr ⟨hspaced, List.pairwise_singleton _ _, ?_⟩
  intro t ht t' ht'
  rw [List.mem_singleton.mp ht']
  exact h.lapsed hlive t ht

end

end UniTrack.Framework
