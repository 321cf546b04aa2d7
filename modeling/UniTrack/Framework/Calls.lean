import Mathlib.Logic.Function.Basic
import UniTrack.Framework.Runs

/-!
# Programs that call out and may raise

A program returns, raises, or calls out and goes on with how the call ended:
with an answer or with an exception. `catching` is `try … except`. How calls
end comes from outside, so what a program survives is a statement about every
way they can.

A job goes round forever; several of them gathered stand and fall together.
-/

namespace UniTrack.Framework

inductive Prog (E : Type) {C : Type} (A : C → Type) (α : Type) where
  | ret (a : α)
  | raise (e : E)
  | call (c : C) (next : Except E (A c) → Prog E A α)

namespace Prog

variable {E C : Type} {A : C → Type} {α β : Type}

def bind : Prog E A α → (α → Prog E A β) → Prog E A β
  | .ret a, f => f a
  | .raise e, _ => .raise e
  | .call c next, f => .call c fun r => (next r).bind f

instance : Monad (Prog E A) where
  pure := .ret
  bind := bind

/-- A call whose exception goes on to the caller. -/
def ask (c : C) : Prog E A (A c) :=
  .call c fun
    | .ok a => .ret a
    | .error e => .raise e

/-- `try p except …`: the handler says what follows an exception that it
catches. What a handler raises itself is not caught again. -/
def catching (handler : E → Option (Prog E A α)) : Prog E A α → Prog E A α
  | .ret a => .ret a
  | .raise e => (handler e).getD (.raise e)
  | .call c next => .call c fun r => (next r).catching handler

@[simp] theorem ret_bind (a : α) (f : α → Prog E A β) : (ret a : Prog E A α) >>= f = f a := rfl

@[simp] theorem raise_bind (e : E) (f : α → Prog E A β) :
    (raise e : Prog E A α) >>= f = raise e := rfl

@[simp] theorem call_bind (c : C) (next : Except E (A c) → Prog E A α) (f : α → Prog E A β) :
    call c next >>= f = call c fun r => next r >>= f := rfl

theorem bind_assoc {γ : Type} (p : Prog E A α) (f : α → Prog E A β) (g : β → Prog E A γ) :
    p >>= f >>= g = p >>= fun a => f a >>= g := by
  induction p with
  | ret a => rfl
  | raise e => rfl
  | call c next ih => exact congrArg (call c) (funext ih)

/-- The next step is the exception. -/
def Raises (p : Prog E A α) : Prop := ∃ e, p = raise e

/-- **What a program survives**: as long as every call ends in one of these
ways it does not raise, and it raises at the first that does not. -/
def Survives (absorbed : ∀ c, Except E (A c) → Prop) : Prog E A α → Prop
  | .ret _ => True
  | .raise _ => False
  | .call c next => ∀ r, (absorbed c r → (next r).Survives absorbed) ∧
      (¬ absorbed c r → (next r).Raises)

section
variable {absorbed : ∀ c, Except E (A c) → Prop}

theorem Survives.bind {p : Prog E A α} {f : α → Prog E A β} (hp : p.Survives absorbed)
    (hf : ∀ a, (f a).Survives absorbed) : (p >>= f).Survives absorbed := by
  induction p with
  | ret a => exact hf a
  | raise e => exact hp.elim
  | call c next ih =>
      intro r
      refine ⟨fun hr => ih r ((hp r).1 hr), ?_⟩
      intro hr
      obtain ⟨e, he⟩ := (hp r).2 hr
      refine ⟨e, ?_⟩
      show next r >>= f = raise e
      rw [he, raise_bind]

/-- A bare call survives its answers. -/
theorem survives_ask {c : C} (h : ∀ r, absorbed c r ↔ ∃ a, r = .ok a) :
    (ask c : Prog E A (A c)).Survives absorbed := by
  intro r
  cases r with
  | ok a => exact ⟨fun _ => trivial, fun hr => absurd ((h _).mpr ⟨a, rfl⟩) hr⟩
  | error e =>
      refine ⟨fun hr => ?_, fun _ => ⟨e, rfl⟩⟩
      obtain ⟨a, ha⟩ := (h _).mp hr
      cases ha

/-- **A handler that catches everything** makes any program survive anything. -/
theorem survives_catching (p : Prog E A α) {handler : E → Option (Prog E A α)}
    (hall : ∀ e, ∃ q, handler e = some q ∧ q.Survives fun _ _ => True) :
    (p.catching handler).Survives fun _ _ => True := by
  induction p with
  | ret a => trivial
  | raise e =>
      obtain ⟨q, hq, hsurvives⟩ := hall e
      unfold catching
      rw [hq]
      exact hsurvives
  | call c next ih => exact fun r => ⟨fun _ => ih r, fun hr => absurd trivial hr⟩

end

/-! ### Answered at once -/

/-- How the program ends when every call ends the way it is told to. -/
def answered (answer : ∀ c, Except E (A c)) : Prog E A α → Except E α
  | .ret a => .ok a
  | .raise e => .error e
  | .call c next => (next (answer c)).answered answer

theorem ok_bind (a : α) (f : α → Except E β) : Except.ok a >>= f = f a := rfl

section
variable {answer : ∀ c, Except E (A c)}

@[simp] theorem answered_pure (a : α) : (pure a : Prog E A α).answered answer = .ok a := rfl

@[simp] theorem answered_bind (p : Prog E A α) (f : α → Prog E A β) :
    (p >>= f).answered answer = p.answered answer >>= fun a => (f a).answered answer := by
  induction p with
  | ret a => rfl
  | raise e => rfl
  | call c next ih => exact ih (answer c)

@[simp] theorem answered_ask (c : C) : (ask c : Prog E A (A c)).answered answer = answer c := by
  show answered answer (match answer c with | .ok a => .ret a | .error e => .raise e) = answer c
  cases answer c <;> rfl

/-- What is raised goes to the handler. -/
theorem answered_catching (p : Prog E A α) (handler : E → Option (Prog E A α)) :
    (p.catching handler).answered answer =
      match p.answered answer with
      | .ok a => .ok a
      | .error e => ((handler e).getD (.raise e)).answered answer := by
  induction p with
  | ret a => rfl
  | raise e => rfl
  | call c next ih => exact ih (answer c)

theorem answered_foldlM (f : β → α → Prog E A β) (xs : List α) (b : β) :
    (xs.foldlM f b).answered answer = xs.foldlM (fun b a => (f b a).answered answer) b := by
  induction xs generalizing b with
  | nil => rfl
  | cons x xs ih =>
      rw [List.foldlM_cons, List.foldlM_cons, answered_bind]
      exact congrArg _ (funext ih)

end

end Prog

/-! ## Jobs that go round -/

/-- What is left of this round, or the exception that ended the job. -/
inductive Job (E : Type) {C : Type} (A : C → Type) where
  | running (rest : Prog E A Unit)
  | raised (e : E)

namespace Job

variable {E C : Type} {A : C → Type}

/-- A round that is over is followed by the next. -/
def resume (round : Prog E A Unit) : Prog E A Unit → Job E A
  | .ret _ => .running round
  | .raise e => .raised e
  | .call c next => .running (.call c next)

/-- The pending call ends. -/
def step (round : Prog E A Unit) (answer : ∀ c, Except E (A c)) : Job E A → Job E A
  | .running (.call c next) => resume round (next (answer c))
  | .running p => resume round p
  | .raised e => .raised e

/-- The pending call ends in one of these ways. -/
def Absorbs (absorbed : ∀ c, Except E (A c) → Prop) (answer : ∀ c, Except E (A c)) :
    Job E A → Prop
  | .running (.call c _) => absorbed c (answer c)
  | _ => True

/-- The rest of the round survives these. -/
def Survives (absorbed : ∀ c, Except E (A c) → Prop) : Job E A → Prop
  | .running p => p.Survives absorbed
  | .raised _ => False

section
variable {absorbed : ∀ c, Except E (A c) → Prop} {round p : Prog E A Unit}
  {answer : ∀ c, Except E (A c)} {job : Job E A}

theorem resume_survives (hround : round.Survives absorbed) (hp : p.Survives absorbed) :
    (resume round p).Survives absorbed := by
  cases p with
  | ret a => exact hround
  | raise e => exact hp.elim
  | call c next => exact hp

/-- One step: the job goes on, ready for the next, or it ends. -/
theorem step_survives (hround : round.Survives absorbed) (hjob : job.Survives absorbed)
    (h : job.Absorbs absorbed answer) : (job.step round answer).Survives absorbed := by
  cases job with
  | raised e => exact hjob.elim
  | running p =>
      cases p with
      | ret a => exact hround
      | raise e => exact hjob.elim
      | call c next => exact resume_survives hround ((hjob (answer c)).1 h)

theorem step_raises (hjob : job.Survives absorbed) (h : ¬ job.Absorbs absorbed answer) :
    ∃ e, job.step round answer = .raised e := by
  cases job with
  | raised e => exact hjob.elim
  | running p =>
      cases p with
      | ret a => exact absurd trivial h
      | raise e => exact hjob.elim
      | call c next =>
          obtain ⟨e, he⟩ := (hjob (answer c)).2 h
          refine ⟨e, ?_⟩
          show resume round (next (answer c)) = .raised e
          rw [he]
          rfl

end

end Job

/-! ## Jobs gathered -/

/-- `asyncio.gather`: the first exception ends all of them. -/
inductive Gathered (J E : Type) {C : Type} (A : C → Type) where
  | together (jobs : J → Job E A)
  | failed (e : E)

namespace Gathered

variable {J E C : Type} {A : C → Type}

/-- Every job runs. -/
def Running (g : Gathered J E A) : Prop := ∃ jobs, g = .together jobs

/-- The call that ends is one that its job absorbs. -/
def Absorbed (absorbed : J → ∀ c, Except E (A c) → Prop) :
    Gathered J E A → J × (∀ c, Except E (A c)) → Prop
  | .together jobs, (j, answer) => (jobs j).Absorbs (absorbed j) answer
  | .failed _, _ => True

def Survives (absorbed : J → ∀ c, Except E (A c) → Prop) : Gathered J E A → Prop
  | .together jobs => ∀ j, (jobs j).Survives (absorbed j)
  | .failed _ => False

theorem running_of_survives {absorbed : J → ∀ c, Except E (A c) → Prop} {g : Gathered J E A}
    (hg : g.Survives absorbed) : g.Running := by
  cases g with
  | failed e => exact hg.elim
  | together jobs => exact ⟨jobs, rfl⟩

variable [DecidableEq J]

/-- The pending call of one job ends. -/
def step (round : J → Prog E A Unit) : Gathered J E A → J × (∀ c, Except E (A c)) →
    Gathered J E A
  | .together jobs, (j, answer) =>
      match (jobs j).step (round j) answer with
      | .raised e => .failed e
      | job => .together (Function.update jobs j job)
  | .failed e, _ => .failed e

section
variable {absorbed : J → ∀ c, Except E (A c) → Prop} {round : J → Prog E A Unit}
  {g : Gathered J E A} {l : J × (∀ c, Except E (A c))}

theorem step_survives (hround : ∀ j, (round j).Survives (absorbed j))
    (hg : g.Survives absorbed) (h : g.Absorbed absorbed l) :
    (g.step round l).Survives absorbed := by
  cases g with
  | failed e => exact hg.elim
  | together jobs =>
      obtain ⟨j, answer⟩ := l
      have hjob := Job.step_survives (hround j) (hg j) h
      unfold step
      dsimp only
      cases hstep : (jobs j).step (round j) answer with
      | raised e =>
          rw [hstep] at hjob
          exact hjob.elim
      | running p =>
          rw [hstep] at hjob
          intro k
          by_cases hk : k = j
          · rw [hk, Function.update_self]
            exact hjob
          · rw [Function.update_of_ne hk]
            exact hg k

theorem step_running_iff (hround : ∀ j, (round j).Survives (absorbed j))
    (hg : g.Survives absorbed) : (g.step round l).Running ↔ g.Absorbed absorbed l := by
  constructor
  · intro hrunning
    by_contra habsorbed
    cases g with
    | failed e => exact hg
    | together jobs =>
        obtain ⟨j, answer⟩ := l
        obtain ⟨e, he⟩ : ∃ e, (jobs j).step (round j) answer = .raised e :=
          Job.step_raises (hg j) habsorbed
        unfold step at hrunning
        dsimp only at hrunning
        rw [he] at hrunning
        obtain ⟨jobs', hjobs'⟩ := hrunning
        cases hjobs'
  · intro habsorbed
    exact running_of_survives (step_survives hround hg habsorbed)

/-- **Gathered jobs all run on** exactly as long as each call that ends is one
that its job absorbs. -/
theorem running_iff (hround : ∀ j, (round j).Survives (absorbed j)) (hg : g.Survives absorbed)
    (ls : List (J × (∀ c, Except E (A c)))) :
    Always (step round) Running g ls ↔ Throughout (step round) (Absorbed absorbed) g ls := by
  apply always_iff_throughout (Survives absorbed) (D := fun _ => True)
  · intro g l _ hg _ habsorbed
    exact step_survives hround hg habsorbed
  · intro g l _ hg _
    exact step_running_iff hround hg
  · exact hg
  · exact running_of_survives hg
  · intros
    trivial

end

end Gathered

end UniTrack.Framework
