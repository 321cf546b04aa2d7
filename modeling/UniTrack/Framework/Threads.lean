import Mathlib.Logic.Function.Basic
import UniTrack.Framework.Runs

/-!
# Threads over a shared store

Any number of threads, each at a point of its own program, take steps on a
shared store in any order. A program is given by one function: what one step
of a thread does to the store and where it leaves the thread. A thread run on
its own is the sequential program.
-/

namespace UniTrack.Framework

/-- A shared store, and where each thread stands. -/
@[ext] structure World (S P : Type*) where
  store : S
  threads : ℕ → P

variable {S P A : Type*}

/-- One thread takes one step. -/
def threadStep (advance : S → P → A → S × P) (w : World S P) (l : ℕ × A) : World S P where
  store := (advance w.store (w.threads l.1) l.2).1
  threads := Function.update w.threads l.1 (advance w.store (w.threads l.1) l.2).2

section
variable {advance : S → P → A → S × P}

@[simp] theorem threadStep_store (w : World S P) (l : ℕ × A) :
    (threadStep advance w l).store = (advance w.store (w.threads l.1) l.2).1 := rfl

@[simp] theorem threadStep_threads_self (w : World S P) (l : ℕ × A) :
    (threadStep advance w l).threads l.1 = (advance w.store (w.threads l.1) l.2).2 :=
  Function.update_self ..

theorem threadStep_threads_of_ne {w : World S P} {l : ℕ × A} {t : ℕ} (h : t ≠ l.1) :
    (threadStep advance w l).threads t = w.threads t :=
  Function.update_of_ne h ..

/-- A thread that takes no step stays where it is. -/
theorem run_threads_of_ne {w : World S P} {ls : List (ℕ × A)} {t : ℕ} (h : ∀ l ∈ ls, t ≠ l.1) :
    (run (threadStep advance) w ls).threads t = w.threads t := by
  induction ls generalizing w with
  | nil => rfl
  | cons l ls ih =>
      rw [run_cons, ih fun l' hl' => h l' (List.mem_cons_of_mem l hl')]
      exact threadStep_threads_of_ne (h l List.mem_cons_self)

/-- What holds of every thread still does after a step that establishes it for
the thread that moved and does not disturb it for the others. -/
theorem threads_ok_step (ok : S → P → Prop) {w : World S P} {l : ℕ × A}
    (h : ∀ t, ok w.store (w.threads t))
    (hself : ok (threadStep advance w l).store ((threadStep advance w l).threads l.1))
    (hothers : ∀ p, ok w.store p → ok (threadStep advance w l).store p) :
    ∀ t, ok (threadStep advance w l).store ((threadStep advance w l).threads t) := by
  intro t
  by_cases ht : t = l.1
  · rw [ht]
    exact hself
  · rw [threadStep_threads_of_ne ht]
    exact hothers _ (h t)

/-- The same where every thread has a property of its own. -/
theorem threads_each_step (ok : ℕ → P → Prop) {w : World S P} {l : ℕ × A}
    (h : ∀ t, ok t (w.threads t))
    (hself : ok l.1 ((threadStep advance w l).threads l.1)) :
    ∀ t, ok t ((threadStep advance w l).threads t) := by
  intro t
  by_cases ht : t = l.1
  · rw [ht]
    exact hself
  · rw [threadStep_threads_of_ne ht]
    exact h t

/-- Where at most one thread has come past some point, a step leaves at most
one there when it takes a thread past it only while nobody else is. -/
theorem threads_unique_step (past : P → Prop) {w : World S P} {l : ℕ × A}
    (h : ∀ t t', past (w.threads t) → past (w.threads t') → t = t')
    (hself : past ((threadStep advance w l).threads l.1) →
      past (w.threads l.1) ∨ ∀ t, ¬ past (w.threads t)) :
    ∀ t t', past ((threadStep advance w l).threads t) →
      past ((threadStep advance w l).threads t') → t = t' := by
  have hother : past ((threadStep advance w l).threads l.1) → ∀ t, t ≠ l.1 →
      ¬ past (w.threads t) := by
    intro hpast t ht hpt
    rcases hself hpast with hbefore | hnone
    · exact ht (h t l.1 hpt hbefore)
    · exact hnone t hpt
  intro t t' ht ht'
  by_cases hl : t = l.1
  · subst hl
    by_contra hne
    have hne' : t' ≠ l.1 := fun h => hne h.symm
    rw [threadStep_threads_of_ne hne'] at ht'
    exact hother ht t' hne' ht'
  · rw [threadStep_threads_of_ne hl] at ht
    by_cases hl' : t' = l.1
    · subst hl'
      exact absurd ht (hother ht' t hl)
    · rw [threadStep_threads_of_ne hl'] at ht'
      exact h t t' ht ht'

/-- A thread on its own. -/
def solo (advance : S → P → A → S × P) (s : S) (p : P) (actions : List A) : S × P :=
  actions.foldl (fun sp action => advance sp.1 sp.2 action) (s, p)

@[simp] theorem solo_nil (s : S) (p : P) : solo advance s p [] = (s, p) := rfl

@[simp] theorem solo_cons (s : S) (p : P) (action : A) (actions : List A) :
    solo advance s p (action :: actions) =
      solo advance (advance s p action).1 (advance s p action).2 actions := rfl

/-- While nobody else moves, a thread runs as it does on its own. -/
theorem run_solo (t : ℕ) (actions : List A) (w : World S P) :
    run (threadStep advance) w (actions.map (Prod.mk t)) =
      { store := (solo advance w.store (w.threads t) actions).1
        threads := Function.update w.threads t (solo advance w.store (w.threads t) actions).2 } := by
  induction actions generalizing w with
  | nil =>
      simp only [List.map_nil, run_nil, solo_nil, Function.update_eq_self]
  | cons action actions ih =>
      have hself : (threadStep advance w (t, action)).threads t =
          (advance w.store (w.threads t) action).2 := threadStep_threads_self w (t, action)
      rw [List.map_cons, run_cons, ih, hself, threadStep_store, solo_cons]
      congr 1
      exact Function.update_idem ..

/-- A thread that ends where it began leaves only its effect on the store. -/
theorem run_solo_of_return {t : ℕ} {actions : List A} {w : World S P}
    (h : (solo advance w.store (w.threads t) actions).2 = w.threads t) :
    run (threadStep advance) w (actions.map (Prod.mk t)) =
      { w with store := (solo advance w.store (w.threads t) actions).1 } := by
  rw [run_solo, h, Function.update_eq_self]

/-! ## What a thread answers -/

variable {R : Type*} {say : S → P → A → Option R}

/-- What thread `t` answers along a run, where `say` is the answer a step of
it gives, if any. -/
def replies (advance : S → P → A → S × P) (say : S → P → A → Option R) (t : ℕ) :
    World S P → List (ℕ × A) → List R
  | _, [] => []
  | w, l :: ls =>
      (if l.1 = t then (say w.store (w.threads t) l.2).toList else []) ++
        replies advance say t (threadStep advance w l) ls

theorem replies_cons_self (w : World S P) (t : ℕ) (action : A) (ls : List (ℕ × A)) :
    replies advance say t w ((t, action) :: ls) =
      (say w.store (w.threads t) action).toList ++
        replies advance say t (threadStep advance w (t, action)) ls := by
  rw [replies, if_pos rfl]

theorem replies_cons_of_ne {w : World S P} {t : ℕ} {l : ℕ × A} (h : l.1 ≠ t)
    (ls : List (ℕ × A)) :
    replies advance say t w (l :: ls) =
      replies advance say t (threadStep advance w l) ls := by
  rw [replies, if_neg h, List.nil_append]

/-- What a thread answers on its own. -/
def soloReplies (advance : S → P → A → S × P) (say : S → P → A → Option R) :
    S → P → List A → List R
  | _, _, [] => []
  | s, p, action :: actions =>
      (say s p action).toList ++
        soloReplies advance say (advance s p action).1 (advance s p action).2 actions

/-- While nobody else moves, a thread answers as it does on its own. -/
theorem replies_solo (t : ℕ) (actions : List A) (w : World S P) :
    replies advance say t w (actions.map (Prod.mk t)) =
      soloReplies advance say w.store (w.threads t) actions := by
  induction actions generalizing w with
  | nil => rfl
  | cons action actions ih =>
      have hself : (threadStep advance w (t, action)).threads t =
          (advance w.store (w.threads t) action).2 := threadStep_threads_self w (t, action)
      rw [List.map_cons, replies_cons_self, ih, hself, threadStep_store, soloReplies]

end

end UniTrack.Framework
