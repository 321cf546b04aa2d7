import Mathlib.Data.List.Basic
import Mathlib.Tactic.Common

/-!
# Sessions that note what they touch

A session stages changes, sends them to a store inside a transaction, and ends
the transaction with all of them or with none. Of every change that is sent it
notes a key. Where a change is only ever read under its key, what the noted keys
leave out is as it was.
-/

namespace UniTrack.Framework

/-- What is staged, what the open transaction has sent, and the keys noted. -/
structure Session (O K : Type*) where
  staged : List O
  flushed : List O
  touched : List K
deriving DecidableEq

namespace Session

variable {O K D V : Type*}

def fresh (O K : Type*) : Session O K := ⟨[], [], []⟩

def stage (s : Session O K) (o : O) : Session O K := { s with staged := s.staged ++ [o] }

/-- What was noted stays noted. -/
def rollback (s : Session O K) : Session O K := { s with staged := [], flushed := [] }

section
variable (send : D → O → Option D) (name : O → K)

/-- Sends what is staged. A change that is refused, or a change to something else
that is (`obstructed`), ends the transaction, and nothing is noted. -/
def flush (obstructed : Bool) (d : D) (s : Session O K) : Session O K :=
  if obstructed = true then s.rollback
  else match (s.flushed ++ s.staged).foldlM send d with
    | none => s.rollback
    | some _ => ⟨[], s.flushed ++ s.staged, s.touched ++ s.staged.map name⟩

/-- Sends what is staged, and makes all that was sent visible to everybody. -/
def commit (obstructed : Bool) (d : D) (s : Session O K) : D × Session O K :=
  let sent := s.flush send name obstructed d
  ((sent.flushed.foldlM send d).getD d, sent.rollback)

end

variable {send : D → O → Option D} {name : O → K} {s : Session O K} {d : D}

theorem flush_cases (obstructed : Bool) :
    s.flush send name obstructed d = s.rollback ∨
      s.flush send name obstructed d =
        ⟨[], s.flushed ++ s.staged, s.touched ++ s.staged.map name⟩ := by
  unfold flush
  split
  · exact Or.inl rfl
  · split
    · exact Or.inl rfl
    · exact Or.inr rfl

theorem touched_flush (obstructed : Bool) :
    s.touched ⊆ (s.flush send name obstructed d).touched := by
  rcases @flush_cases _ _ _ send name s d obstructed with h | h
  · rw [h]
    exact List.Subset.refl _
  · rw [h]
    exact List.subset_append_left _ _

theorem touched_commit (obstructed : Bool) :
    s.touched ⊆ (s.commit send name obstructed d).2.touched :=
  s.touched_flush obstructed

/-- Everything sent is noted, and every change is fair. -/
structure Recorded (name : O → K) (Fair : O → Prop) (s : Session O K) : Prop where
  noted : ∀ o ∈ s.flushed, name o ∈ s.touched
  fair : ∀ o ∈ s.flushed ++ s.staged, Fair o

section
variable {Fair : O → Prop}

theorem recorded_fresh : (fresh O K).Recorded name Fair where
  noted _ h := absurd h List.not_mem_nil
  fair _ h := absurd h List.not_mem_nil

theorem Recorded.rollback (_ : s.Recorded name Fair) : s.rollback.Recorded name Fair where
  noted _ h := absurd h List.not_mem_nil
  fair _ h := absurd h List.not_mem_nil

theorem Recorded.stage (h : s.Recorded name Fair) {o : O} (ho : Fair o) :
    (s.stage o).Recorded name Fair where
  noted := h.noted
  fair o' ho' := by
    have hsplit : o' ∈ (s.flushed ++ s.staged) ++ [o] := by
      rw [List.append_assoc]
      exact ho'
    rcases List.mem_append.mp hsplit with hold | hnew
    · exact h.fair o' hold
    · obtain rfl := List.mem_singleton.mp hnew
      exact ho

theorem Recorded.flush (h : s.Recorded name Fair) (obstructed : Bool) :
    (s.flush send name obstructed d).Recorded name Fair := by
  rcases @flush_cases _ _ _ send name s d obstructed with hs | hs
  · rw [hs]
    exact h.rollback
  · rw [hs]
    refine ⟨fun o ho => ?_, fun o ho => h.fair o (by rwa [List.append_nil] at ho)⟩
    rcases List.mem_append.mp ho with hsent | hstaged
    · exact List.mem_append_left _ (h.noted o hsent)
    · exact List.mem_append_right _ (List.mem_map_of_mem hstaged)

end

/-- A fair change to a good store is read under its key only. -/
structure ReadByName (send : D → O → Option D) (name : O → K) (read : D → K → V)
    (Good : D → Prop) (Fair : O → Prop) : Prop where
  good : ∀ {d d' : D} {o : O}, Good d → Fair o → send d o = some d' → Good d'
  read : ∀ {d d' : D} {o : O}, Good d → Fair o → send d o = some d' →
    ∀ k, k ≠ name o → read d' k = read d k

section
variable {read : D → K → V} {Good : D → Prop} {Fair : O → Prop}

theorem ReadByName.foldlM (h : ReadByName send name read Good Fair) {changes : List O} {d d' : D}
    (hgood : Good d) (hfair : ∀ o ∈ changes, Fair o) (hsent : changes.foldlM send d = some d') :
    Good d' ∧ ∀ k, (∀ o ∈ changes, k ≠ name o) → read d' k = read d k := by
  induction changes generalizing d with
  | nil =>
      obtain rfl := Option.some.inj hsent
      exact ⟨hgood, fun _ _ => rfl⟩
  | cons o changes ih =>
      rw [List.foldlM_cons] at hsent
      obtain ⟨next, hnext, hrest⟩ := Option.bind_eq_some_iff.mp hsent
      have ho := hfair o List.mem_cons_self
      obtain ⟨hgood', hread⟩ := ih (h.good hgood ho hnext)
        (fun o' ho' => hfair o' (List.mem_cons_of_mem _ ho')) hrest
      refine ⟨hgood', fun k hk => ?_⟩
      rw [hread k fun o' ho' => hk o' (List.mem_cons_of_mem _ ho')]
      exact h.read hgood ho hnext k (hk o List.mem_cons_self)

/-- **What a commit changes is noted**: under every other key the store reads as
before. -/
theorem ReadByName.commit (h : ReadByName send name read Good Fair) (hgood : Good d)
    (hs : s.Recorded name Fair) (obstructed : Bool) :
    Good (s.commit send name obstructed d).1 ∧
      ∀ k, k ∉ (s.commit send name obstructed d).2.touched →
        read (s.commit send name obstructed d).1 k = read d k := by
  have hsent := @Recorded.flush _ _ _ send name s d _ hs obstructed
  unfold Session.commit
  dsimp only
  cases hd : (s.flush send name obstructed d).flushed.foldlM send d with
  | none => exact ⟨hgood, fun _ _ => rfl⟩
  | some d' =>
      obtain ⟨hgood', hread⟩ := h.foldlM hgood
        (fun o ho => hsent.fair o (List.mem_append_left _ ho)) hd
      refine ⟨hgood', fun k hk => hread k fun o ho hname => hk ?_⟩
      rw [hname]
      exact hsent.noted o ho

end

end Session

end UniTrack.Framework
