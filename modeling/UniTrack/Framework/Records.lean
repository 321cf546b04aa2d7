import Mathlib.Order.Bounds.Basic
import Mathlib.Data.List.Pairwise
import Mathlib.Data.List.Perm.Basic

/-!
# The first of the highest

A scan keeps the best value it has met and replaces it only by a strictly
higher one. Over values that come in order of time it ends with the highest of
them all, and, among those as high, with one that came first. What a scan ends
with is a matter of which values there are, not of the order they come in.
-/

namespace UniTrack.Framework

variable {β κ τ : Type*} [LinearOrder κ] [PartialOrder τ]

/-- One value of the scan. -/
def raise (height : β → κ) (best value : β) : β :=
  if height value ≤ height best then best else value

/-- The highest of a starting value and some others: the starting value itself
where none is higher, and else the earliest of the highest. -/
structure FirstHighest (height : β → κ) (time : β → τ) (values : β → Prop)
    (before after : β) : Prop where
  covers : ∀ value, values value → height value ≤ height after
  grounded : after = before ∨ height before < height after ∧ values after ∧
    ∀ value, values value → height value = height after → time after ≤ time value

section
variable {height : β → κ} {time : β → τ} {values : β → Prop} {before after : β}

namespace FirstHighest

theorem forward (h : FirstHighest height time values before after) :
    height before ≤ height after := by
  rcases h.grounded with rfl | ⟨hlt, -⟩
  · exact le_refl _
  · exact le_of_lt hlt

theorem isGreatest (h : FirstHighest height time values before after) :
    IsGreatest (insert (height before) {k | ∃ value, values value ∧ height value = k})
      (height after) := by
  constructor
  · rcases h.grounded with rfl | ⟨-, hvalue, -⟩
    · exact Set.mem_insert _ _
    · exact Set.mem_insert_of_mem _ ⟨after, hvalue, rfl⟩
  · rintro k (rfl | ⟨value, hvalue, rfl⟩)
    · exact h.forward
    · exact h.covers value hvalue

/-- Where height and time tell values apart, there is only one. -/
theorem unique (hext : ∀ a b, values a → values b → height a = height b → time a = time b → a = b)
    {after' : β} (h : FirstHighest height time values before after)
    (h' : FirstHighest height time values before after') : after = after' := by
  have hheight : height after = height after' :=
    h.isGreatest.unique h'.isGreatest
  rcases h.grounded with rfl | ⟨hlt, hvalue, hfirst⟩
  · rcases h'.grounded with rfl | ⟨hlt', -, -⟩
    · rfl
    · exact absurd hheight (ne_of_lt hlt')
  · rcases h'.grounded with rfl | ⟨-, hvalue', hfirst'⟩
    · exact absurd hheight.symm (ne_of_lt hlt)
    · exact hext after after' hvalue hvalue' hheight
        (le_antisymm (hfirst _ hvalue' hheight.symm) (hfirst' _ hvalue hheight))

theorem congr {values' : β → Prop} (h : FirstHighest height time values before after)
    (hvalues : ∀ value, values value ↔ values' value) :
    FirstHighest height time values' before after := by
  have hsame : values = values' := funext fun value => propext (hvalues value)
  exact hsame ▸ h

/-- Scanning the same values again finds nothing higher. -/
theorem again (h : FirstHighest height time values before after) :
    FirstHighest height time values after after :=
  ⟨h.covers, Or.inl rfl⟩

end FirstHighest

/-- **The scan**, over values in order of time. -/
theorem firstHighest_foldl_raise {events : List β}
    (hsorted : events.Pairwise fun a b => time a ≤ time b) (before : β) :
    FirstHighest height time (· ∈ events) before (events.foldl (raise height) before) := by
  induction events generalizing before with
  | nil => exact ⟨fun value h => absurd h List.not_mem_nil, Or.inl rfl⟩
  | cons event events ih =>
      obtain ⟨hfirst, hrest⟩ := List.pairwise_cons.mp hsorted
      rw [List.foldl_cons]
      by_cases hlow : height event ≤ height before
      · -- the first value changes nothing, and is covered from the start
        have hscan := ih hrest before
        rw [raise, if_pos hlow]
        refine ⟨?_, ?_⟩
        · intro value hvalue
          rcases List.mem_cons.mp hvalue with rfl | hvalue
          · exact le_trans hlow hscan.forward
          · exact hscan.covers value hvalue
        · rcases hscan.grounded with hsame | ⟨hlt, hvalue, hearliest⟩
          · exact Or.inl hsame
          · refine Or.inr ⟨hlt, List.mem_cons_of_mem _ hvalue, ?_⟩
            intro value hvalue' hheight
            rcases List.mem_cons.mp hvalue' with rfl | hvalue'
            · exact absurd (le_trans (ge_of_eq hheight) hlow) (not_le.mpr hlt)
            · exact hearliest value hvalue' hheight
      · have hscan := ih hrest event
        have hhigh : height before < height event := lt_of_not_ge hlow
        rw [raise, if_neg hlow]
        refine ⟨?_, Or.inr ?_⟩
        · intro value hvalue
          rcases List.mem_cons.mp hvalue with rfl | hvalue
          · exact hscan.forward
          · exact hscan.covers value hvalue
        · rcases hscan.grounded with hsame | ⟨hlt, hvalue, hearliest⟩
          · -- nothing later is higher, and nothing is earlier
            rw [hsame]
            refine ⟨hhigh, List.mem_cons_self, ?_⟩
            intro value hvalue _
            rcases List.mem_cons.mp hvalue with rfl | hvalue
            · exact le_refl _
            · exact hfirst value hvalue
          · refine ⟨lt_trans hhigh hlt, List.mem_cons_of_mem _ hvalue, ?_⟩
            intro value hvalue' hheight
            rcases List.mem_cons.mp hvalue' with rfl | hvalue'
            · exact absurd hheight (ne_of_lt hlt)
            · exact hearliest value hvalue' hheight

end

end UniTrack.Framework
