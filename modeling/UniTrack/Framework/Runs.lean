import Mathlib.Data.List.Basic
import Mathlib.Tactic.Common

/-!
# Runs of a total machine

A machine is a total step function; everything a step may depend on besides
the state (the caller's input, the clock, the answer of an outside service,
the choice of the next thread) is carried by its label. A run is then a list
of labels, and quantifying over runs quantifies over every environment and
every interleaving. A label that is not enabled leaves the state unchanged.
-/

namespace UniTrack.Framework

variable {S L : Type*}

/-- The state a run ends in. -/
def run (step : S → L → S) (s : S) (ls : List L) : S := ls.foldl step s

@[simp] theorem run_nil (step : S → L → S) (s : S) : run step s [] = s := rfl

@[simp] theorem run_cons (step : S → L → S) (s : S) (l : L) (ls : List L) :
    run step s (l :: ls) = run step (step s l) ls := rfl

theorem run_append (step : S → L → S) (s : S) (ls ls' : List L) :
    run step s (ls ++ ls') = run step (run step s ls) ls' :=
  List.foldl_append

/-- `P` holds of every state the run passes through, both ends included. -/
def Always (step : S → L → S) (P : S → Prop) : S → List L → Prop
  | s, [] => P s
  | s, l :: ls => P s ∧ Always step P (step s l) ls

/-- Every step of the run is taken from a state, and with a label, that
satisfy `C`. -/
def Throughout (step : S → L → S) (C : S → L → Prop) : S → List L → Prop
  | _, [] => True
  | s, l :: ls => C s l ∧ Throughout step C (step s l) ls

instance throughoutDecidable (step : S → L → S) (C : S → L → Prop) [∀ s, DecidablePred (C s)] :
    ∀ s ls, Decidable (Throughout step C s ls)
  | _, [] => inferInstanceAs (Decidable True)
  | s, l :: ls =>
      have := throughoutDecidable step C (step s l) ls
      inferInstanceAs (Decidable (C s l ∧ Throughout step C (step s l) ls))

section
variable {step : S → L → S}

/-- `Always`, read as a statement about the reached states. -/
theorem always_iff {P : S → Prop} {s : S} {ls : List L} :
    Always step P s ls ↔ ∀ pre post, ls = pre ++ post → P (run step s pre) := by
  induction ls generalizing s with
  | nil =>
      constructor
      · intro h pre post hsplit
        obtain ⟨rfl, rfl⟩ := List.append_eq_nil_iff.mp hsplit.symm
        exact h
      · intro h
        exact h [] [] rfl
  | cons l ls ih =>
      constructor
      · rintro ⟨hs, hrest⟩ pre post hsplit
        cases pre with
        | nil => exact hs
        | cons l' pre =>
            obtain ⟨rfl, rfl⟩ := List.cons.inj hsplit
            exact ih.mp hrest pre post rfl
      · intro h
        refine ⟨h [] (l :: ls) rfl, ih.mpr ?_⟩
        intro pre post hsplit
        exact h (l :: pre) post (by rw [hsplit]; rfl)

/-- `Throughout`, read as a statement about the reached states. -/
theorem throughout_iff {C : S → L → Prop} {s : S} {ls : List L} :
    Throughout step C s ls ↔
      ∀ pre l post, ls = pre ++ l :: post → C (run step s pre) l := by
  induction ls generalizing s with
  | nil => simp [Throughout]
  | cons l ls ih =>
      constructor
      · rintro ⟨hs, hrest⟩ pre l' post hsplit
        cases pre with
        | nil =>
            obtain ⟨rfl, -⟩ := List.cons.inj hsplit
            exact hs
        | cons _ pre =>
            obtain ⟨rfl, rfl⟩ := List.cons.inj hsplit
            exact ih.mp hrest pre l' post rfl
      · intro h
        refine ⟨h [] l ls rfl, ih.mpr ?_⟩
        intro pre l' post hsplit
        exact h (l :: pre) l' post (by rw [hsplit]; rfl)

theorem Always.final {P : S → Prop} {s : S} {ls : List L}
    (h : Always step P s ls) : P (run step s ls) :=
  always_iff.mp h ls [] (List.append_nil ls).symm

theorem Always.start {P : S → Prop} {s : S} {ls : List L}
    (h : Always step P s ls) : P s :=
  always_iff.mp h [] ls rfl

theorem Always.imp {P Q : S → Prop} (hPQ : ∀ s, P s → Q s) {s : S}
    {ls : List L} (h : Always step P s ls) : Always step Q s ls :=
  always_iff.mpr fun pre post hsplit => hPQ _ (always_iff.mp h pre post hsplit)

/-- What every label satisfies joins the condition of the steps. -/
theorem Throughout.and_mem {C : S → L → Prop} {D : L → Prop} {s : S} {ls : List L}
    (h : Throughout step C s ls) (hD : ∀ l ∈ ls, D l) :
    Throughout step (fun s l => C s l ∧ D l) s ls := by
  rw [throughout_iff] at h ⊢
  intro pre l post hsplit
  refine ⟨h pre l post hsplit, hD l ?_⟩
  rw [hsplit]
  exact List.mem_append_right pre List.mem_cons_self

theorem throughout_append {C : S → L → Prop} {s : S} {ls ls' : List L} :
    Throughout step C s (ls ++ ls') ↔
      Throughout step C s ls ∧ Throughout step C (run step s ls) ls' := by
  induction ls generalizing s with
  | nil => simp [Throughout]
  | cons l ls ih => simp only [List.cons_append, Throughout, ih, run_cons, and_assoc]

/-- The run passes through this state. -/
def Passes (step : S → L → S) (s : S) (ls : List L) (s' : S) : Prop :=
  ∃ pre post, ls = pre ++ post ∧ run step s pre = s'

/-- Where a step is taken, and where it leads to, the run passes through. -/
theorem Throughout.passes {C : S → L → Prop} {s : S} {ls : List L} (h : Throughout step C s ls) :
    Throughout step
      (fun s' l => C s' l ∧ Passes step s ls s' ∧ Passes step s ls (step s' l)) s ls := by
  rw [throughout_iff] at h ⊢
  intro pre l post hsplit
  refine ⟨h pre l post hsplit, ⟨pre, l :: post, hsplit, rfl⟩, pre ++ [l], post, ?_,
    run_append step s pre [l]⟩
  rw [hsplit, List.append_assoc]
  rfl

/-- An invariant that every step allowed by `C` keeps holds along every run
whose steps are all allowed by `C`. -/
theorem always_of_throughout {Inv : S → Prop} {C : S → L → Prop}
    (hstep : ∀ s l, Inv s → C s l → Inv (step s l)) {s : S} {ls : List L}
    (hs : Inv s) (hC : Throughout step C s ls) : Always step Inv s ls := by
  induction ls generalizing s with
  | nil => exact hs
  | cons l ls ih => exact ⟨hs, ih (hstep s l hs hC.1) hC.2⟩

/-- An invariant that every step keeps holds along every run. -/
theorem always_of_step {Inv : S → Prop} (hstep : ∀ s l, Inv s → Inv (step s l))
    {s : S} (hs : Inv s) (ls : List L) : Always step Inv s ls := by
  induction ls generalizing s with
  | nil => exact hs
  | cons l ls ih => exact ⟨hs, ih (hstep s l hs)⟩

theorem run_of_step {Inv : S → Prop} (hstep : ∀ s l, Inv s → Inv (step s l))
    {s : S} (hs : Inv s) (ls : List L) : Inv (run step s ls) :=
  (always_of_step hstep hs ls).final

/-- An invariant may speak of what the run passes through. -/
theorem run_of_passing {Inv : S → Prop} {s : S} {ls : List L}
    (hstep : ∀ s' l, Passes step s ls s' → Passes step s ls (step s' l) → Inv s' →
      Inv (step s' l)) (hs : Inv s) : Inv (run step s ls) := by
  have hfree : Throughout step (fun _ _ => True) s ls :=
    throughout_iff.mpr fun _ _ _ _ => trivial
  exact (always_of_throughout (fun s' l h hl => hstep s' l hl.2.1 hl.2.2 h) hs hfree.passes).final

/-- **Exact step condition**: if, wherever the invariant and the property
hold, a step with an admissible label keeps the property exactly when it meets
the condition, then a run has the property in every state it passes through
exactly when each of its steps meets the condition. -/
theorem always_iff_throughout (Inv : S → Prop) {P : S → Prop} {C : S → L → Prop}
    {D : L → Prop}
    (hinv : ∀ s l, D l → Inv s → P s → C s l → Inv (step s l))
    (hexact : ∀ s l, D l → Inv s → P s → (P (step s l) ↔ C s l)) {s : S}
    (hs : Inv s) (hP : P s) {ls : List L} (hD : ∀ l ∈ ls, D l) :
    Always step P s ls ↔ Throughout step C s ls := by
  induction ls generalizing s with
  | nil => exact iff_of_true hP trivial
  | cons l ls ih =>
      have hl : D l := hD l List.mem_cons_self
      have hls : ∀ l' ∈ ls, D l' := fun l' h => hD l' (List.mem_cons_of_mem _ h)
      constructor
      · rintro ⟨-, hrest⟩
        have hC : C s l := (hexact s l hl hs hP).mp hrest.start
        exact ⟨hC, (ih (hinv s l hl hs hP hC) hrest.start hls).mp hrest⟩
      · rintro ⟨hC, hrest⟩
        have hP' : P (step s l) := (hexact s l hl hs hP).mpr hC
        exact ⟨hP, (ih (hinv s l hl hs hP hC) hP' hls).mpr hrest⟩

end

/-! ## Positions in a list -/

/-- A statement about every position of a list, its part before and its part
after, is one about the head and one about every position of the tail. -/
theorem forall_split_cons {P : List L → L → List L → Prop} {l : L} {ls : List L} :
    (∀ before x after, l :: ls = before ++ x :: after → P before x after) ↔
      P [] l ls ∧ ∀ before x after, ls = before ++ x :: after → P (l :: before) x after := by
  constructor
  · intro h
    refine ⟨h [] l ls rfl, ?_⟩
    rintro before x after rfl
    exact h (l :: before) x after rfl
  · rintro ⟨hhead, htail⟩ before x after hsplit
    cases before with
    | nil =>
        obtain ⟨rfl, rfl⟩ := List.cons.inj hsplit
        exact hhead
    | cons l' before =>
        obtain ⟨rfl, hrest⟩ := List.cons.inj hsplit
        exact htail before x after hrest

theorem exists_split_cons {P : List L → L → List L → Prop} {l : L} {ls : List L} :
    (∃ before x after, l :: ls = before ++ x :: after ∧ P before x after) ↔
      P [] l ls ∨ ∃ before x after, ls = before ++ x :: after ∧ P (l :: before) x after := by
  constructor
  · rintro ⟨before, x, after, hsplit, hP⟩
    cases before with
    | nil =>
        obtain ⟨rfl, rfl⟩ := List.cons.inj hsplit
        exact Or.inl hP
    | cons l' before =>
        obtain ⟨rfl, hrest⟩ := List.cons.inj hsplit
        exact Or.inr ⟨before, x, after, hrest, hP⟩
  · rintro (hhead | ⟨before, x, after, rfl, hP⟩)
    · exact ⟨[], l, ls, rfl, hhead⟩
    · exact ⟨l :: before, x, after, rfl, hP⟩

/-! ## Fallible runs -/

/-- A fallible run that succeeds took its first step, and then the rest. -/
theorem foldlM_cons_ok {ε S L : Type*} {f : S → L → Except ε S} {s t : S} {l : L} {ls : List L} :
    (l :: ls).foldlM f s = .ok t ↔ ∃ u, f s l = .ok u ∧ ls.foldlM f u = .ok t := by
  rw [List.foldlM_cons]
  cases f s l with
  | error e => exact iff_of_false nofun nofun
  | ok u =>
      constructor
      · intro h
        exact ⟨u, rfl, h⟩
      · rintro ⟨u', hu', h⟩
        cases hu'
        exact h

/-- Steps that keep two states related keep two fallible runs related, where both
succeed. -/
theorem foldlM_abreast {ε S T L : Type*} {R : S → T → Prop} {f : S → L → Except ε S}
    {g : T → L → Except ε T} {ls : List L}
    (hstep : ∀ l ∈ ls, ∀ s t, R s t → ∀ s' t', f s l = .ok s' → g t l = .ok t' → R s' t')
    {s s' : S} {t t' : T} (h : R s t) (hf : ls.foldlM f s = .ok s')
    (hg : ls.foldlM g t = .ok t') : R s' t' := by
  induction ls generalizing s t with
  | nil =>
      cases hf
      cases hg
      exact h
  | cons l ls ih =>
      obtain ⟨u, hfirst, hrest⟩ := foldlM_cons_ok.mp hf
      obtain ⟨v, hfirst', hrest'⟩ := foldlM_cons_ok.mp hg
      have hnext := hstep l List.mem_cons_self s t h u v hfirst hfirst'
      exact ih (fun l' hl' => hstep l' (List.mem_cons_of_mem _ hl')) hnext hrest hrest'

end UniTrack.Framework
