import UniTrack.Framework.Runs

/-!
# Keys and what is made with them

Parties hold keys, pass them on and sign messages with the keys that they hold.
A key that is given to one party only, who never passes it on, signs nothing
but that party's messages.
-/

namespace UniTrack.Framework

/-- A message was signed, by this party and with this key. -/
structure Signing (P K M : Type*) where
  party : P
  key : K
  message : M
deriving DecidableEq

/-- Who holds which keys, and all that was ever signed. -/
structure Keyring (P K M : Type*) where
  held : List (P × K) := []
  signed : List (Signing P K M) := []

/-- What parties do with keys. -/
inductive KeyEvent (P K M : Type*) where
  /-- the party comes by the key without any other party -/
  | obtain (party : P) (key : K)
  | pass (giver taker : P) (key : K)
  | sign (party : P) (key : K) (message : M)

variable {P K M : Type*}

/-- The key is used for the party, whether it holds it or not. -/
def Keyring.signFor (r : Keyring P K M) (party : P) (key : K) (message : M) : Keyring P K M :=
  { r with signed := r.signed ++ [⟨party, key, message⟩] }

def Keyring.give (r : Keyring P K M) (party : P) (key : K) : Keyring P K M :=
  { r with held := r.held ++ [(party, key)] }

section
variable [DecidableEq P] [DecidableEq K]

/-- Nobody passes on a key, or signs with one, that they do not hold. -/
def Keyring.step (r : Keyring P K M) : KeyEvent P K M → Keyring P K M
  | .obtain party key => r.give party key
  | .pass giver taker key => if (giver, key) ∈ r.held then r.give taker key else r
  | .sign party key message => if (party, key) ∈ r.held then r.signFor party key message else r

end

/-- The key is in nobody else's hands, and never was. -/
structure Keyring.Keeps (r : Keyring P K M) (owner : P) (key : K) : Prop where
  held : ∀ e ∈ r.held, e.2 = key → e.1 = owner
  signed : ∀ s ∈ r.signed, s.key = key → s.party = owner

section
variable {r : Keyring P K M} {owner party : P} {key key' : K} {message : M}

/-- A key that nobody has seen is anybody's to keep. -/
theorem Keyring.keeps_of_unseen (hheld : ∀ e ∈ r.held, e.2 ≠ key)
    (hsigned : ∀ s ∈ r.signed, s.key ≠ key) : r.Keeps owner key where
  held e he hkey := absurd hkey (hheld e he)
  signed s hs hkey := absurd hkey (hsigned s hs)

theorem Keyring.Keeps.give (h : r.Keeps owner key) (hgive : key' = key → party = owner) :
    (r.give party key').Keeps owner key where
  held e he hkey := by
    rcases List.mem_append.mp he with he | he
    · exact h.held e he hkey
    · rw [List.mem_singleton.mp he] at hkey ⊢
      exact hgive hkey
  signed := h.signed

theorem Keyring.Keeps.signFor (h : r.Keeps owner key) (hsign : key' = key → party = owner) :
    (r.signFor party key' message).Keeps owner key where
  held := h.held
  signed s hs hkey := by
    rcases List.mem_append.mp hs with hs | hs
    · exact h.signed s hs hkey
    · rw [List.mem_singleton.mp hs] at hkey ⊢
      exact hsign hkey

/-- A party that is given other keys comes no nearer to this one. -/
theorem Keyring.Keeps.foldl_give {keys : List K} (h : r.Keeps owner key) (hother : key ∉ keys) :
    (keys.foldl (fun ring shown => ring.give party shown) r).Keeps owner key := by
  induction keys generalizing r with
  | nil => exact h
  | cons shown keys ih =>
      have hfirst : key ≠ shown := List.ne_of_not_mem_cons hother
      have hgiven : (r.give party shown).Keeps owner key :=
        h.give fun hkey => absurd hkey.symm hfirst
      exact ih hgiven (List.not_mem_of_not_mem_cons hother)

theorem Keyring.signed_foldl_give (keys : List K) :
    (keys.foldl (fun ring shown => ring.give party shown) r).signed = r.signed := by
  induction keys generalizing r with
  | nil => rfl
  | cons shown keys ih => exact ih

theorem Keyring.signed_signFor {s : Signing P K M} (h : s ∈ r.signed) :
    s ∈ (r.signFor party key message).signed := List.mem_append_left _ h

variable [DecidableEq P] [DecidableEq K]

/-- What was signed stays signed. -/
theorem Keyring.signed_step {s : Signing P K M} (h : s ∈ r.signed) (event : KeyEvent P K M) :
    s ∈ (r.step event).signed := by
  cases event with
  | obtain party key => exact h
  | pass giver taker key =>
      simp only [Keyring.step]
      split
      · exact h
      · exact h
  | sign party key message =>
      simp only [Keyring.step]
      split
      · exact Keyring.signed_signFor h
      · exact h

/-- **A key stays with its owner** as long as nobody hits upon it by chance and
the owner does not pass it on. -/
theorem Keyring.Keeps.step (h : r.Keeps owner key) {event : KeyEvent P K M}
    (hchance : ∀ party, event ≠ .obtain party key)
    (hpass : ∀ taker, event ≠ .pass owner taker key) : (r.step event).Keeps owner key := by
  cases event with
  | obtain party key' =>
      refine h.give fun hkey => ?_
      subst hkey
      exact absurd rfl (hchance party)
  | pass giver taker key' =>
      simp only [Keyring.step]
      split
      · rename_i hheld
        refine h.give fun hkey => ?_
        subst hkey
        have howner : giver = owner := h.held _ hheld rfl
        subst howner
        exact absurd rfl (hpass taker)
      · exact h
  | sign party key' message =>
      simp only [Keyring.step]
      split
      · rename_i hheld
        refine h.signFor fun hkey => ?_
        subst hkey
        exact h.held _ hheld rfl
      · exact h

end

end UniTrack.Framework
