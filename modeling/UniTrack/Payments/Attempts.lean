import UniTrack.Framework.Batch
import UniTrack.Payments.LatePass

/-!
# One payment, several attempts

The gateway lists the attempts at a transaction in no promised order. A pass
judges an order by the first element of the list that its search stops at. So
the order of the list decides what becomes of it when two of these would be
judged differently, and only then.

## §1 An order and its attempts
## §2 One turn
## §3 A whole pass
## §4 The same in every order
## §5 A wrong payment listed first
-/

namespace UniTrack

open UniTrack.Framework UniTrack.Python UniTrack.Sslcommerz

/-! ## §1 An order and its attempts -/

/-- What the pass looks for: a success that carries a `val_id`. -/
def Usable (attempt : Validation) : Prop := stopsAt (some attempt) = true

instance (attempt : Validation) : Decidable (Usable attempt) := by
  unfold Usable
  infer_instance

/-- Settling the order by the element raises: it is no object, its amount does
not convert, the columns do not hold its record, or the ticket that it pays for
has no end. -/
def Raises (db : Db) (now : Instant) (order : Order) : Element → Prop
  | none => True
  | some attempt =>
      (amountMatches attempt order.amountPaisa order.currency).toOption = none ∨
        ¬ RecordFits attempt ∨
          GoodPayment attempt order.amountPaisa order.currency ∧ ¬ Issuable db now order

instance (db : Db) (now : Instant) (order : Order) (element : Element) :
    Decidable (Raises db now order element) :=
  match element with
  | none => .isTrue trivial
  | some attempt => inferInstanceAs (Decidable
      ((amountMatches attempt order.amountPaisa order.currency).toOption = none ∨
        ¬ RecordFits attempt ∨
          GoodPayment attempt order.amountPaisa order.currency ∧ ¬ Issuable db now order))

/-- Both raise, or neither does: then both are, or neither is, for the order's
money, and if they are, both are or neither is flagged. -/
def Agree (db : Db) (now : Instant) (order : Order) (a b : Element) : Prop :=
  (Raises db now order a ↔ Raises db now order b) ∧
    (¬ Raises db now order a → ∀ v ∈ a, ∀ w ∈ b,
      amountMatches v order.amountPaisa order.currency =
          amountMatches w order.amountPaisa order.currency ∧
        (amountMatches v order.amountPaisa order.currency = .ok true →
          riskFlagged v = riskFlagged w))

instance (db : Db) (now : Instant) (order : Order) (a b : Element) :
    Decidable (Agree db now order a b) := by
  unfold Agree
  infer_instance

/-- The elements that a search can stop at agree, and no good one among them
raises. -/
def Concordant (db : Db) (now : Instant) (order : Order) (attempts : List Element) : Prop :=
  (∀ a ∈ attempts, ∀ b ∈ attempts, stopsAt a = true → stopsAt b = true →
      Agree db now order a b) ∧
    ∀ a ∈ attempts, stopsAt a = true → ∀ v ∈ a,
      GoodPayment v order.amountPaisa order.currency → ¬ Raises db now order a

instance (db : Db) (now : Instant) (order : Order) (attempts : List Element) :
    Decidable (Concordant db now order attempts) := by
  unfold Concordant
  infer_instance

/-- The order's status, and whether a ticket is issued for it, when its turn in
a pass is over and sent; `none` is an exception. -/
def handled (db : Db) (env : PassEnv) (order : Order) (attempts : List Element) :
    Option (OrderStatus × Bool) :=
  match reconcileOrder db env.now (env.keys order.tranId) {} order (.ok attempts) with
  | .error _ => none
  | .ok pass =>
      match db.flush pass.toUnitOfWork with
      | .error _ => none
      | .ok _ =>
          some ((pass.writes.map fun w => w.2.status).getLast?.getD order.status,
            !pass.grants.isEmpty)

/-- The order in which the attempts are listed does not matter, and a good one
among them pays. -/
structure OrderFree (db : Db) (env : PassEnv) (order : Order) (attempts : List Element) :
    Prop where
  same : ∀ attempts' : List Element, attempts'.Perm attempts →
    handled db env order attempts' = handled db env order attempts
  paid : ∀ a, some a ∈ attempts → Usable a → GoodPayment a order.amountPaisa order.currency →
    handled db env order attempts = some (.paid, true)

section
variable {db : Db} {env : PassEnv} {now : Instant} {keys : KeyPair} {order order' : Order}
  {attempt : Validation} {attempts : List Element} {pending : UnitOfWork}
  {grants : List TicketGrant} {outcome : Outcome}

/-! ## §2 One turn -/

theorem paymentSucceeded_of_stopsAt (h : stopsAt (some attempt) = true) :
    paymentSucceeded attempt = true :=
  (Bool.and_eq_true_iff.mp h).1

/-- What was decided and can be sent does not raise. -/
theorem not_raises_of_ok (hfits : RowFits order.toOrderProgress)
    (hsucceeded : paymentSucceeded attempt = true)
    (happly : applyValidation db pending now keys order attempt = .ok (order', grants, outcome))
    (hsendable : SendableUpdate order order') : ¬ Raises db now order (some attempt) := by
  rintro (hamount | hrecord | ⟨hgood, hissue⟩)
  · cases hmatch : amountMatches attempt order.amountPaisa order.currency with
    | error e =>
        rw [applyValidation_of_unconvertible hsucceeded hmatch] at happly
        cases happly
    | ok matched =>
        rw [hmatch] at hamount
        cases hamount
  · exact hrecord ((sendableRecord_iff hfits).mp ((applyValidation_sendable happly).mp hsendable))
  · exact hissue (of_applyValidation_good hgood happly).2.2

theorem recordFits_of_not_raises (h : ¬ Raises db now order (some attempt)) :
    RecordFits attempt :=
  not_not.mp fun hrecord => h (Or.inr (Or.inl hrecord))

/-- What does not raise is decided. -/
theorem applyValidation_of_not_raises (keys : KeyPair) (hfits : RowFits order.toOrderProgress)
    (h : ¬ Raises db now order (some attempt)) (hpending : ∃ db', db.flush pending = .ok db') :
    ∃ result, applyValidation db pending now keys order attempt = .ok result := by
  have hrecord : SendableRecord order attempt :=
    (sendableRecord_iff hfits).mpr (recordFits_of_not_raises h)
  refine applyValidation_ok keys hpending hrecord ?_ ?_
  · intro e he
    exact h (Or.inl (by rw [he]; rfl))
  · intro hgood
    exact not_not.mp fun hissue => h (Or.inr (Or.inr ⟨hgood, hissue⟩))

/-- What becomes of an order by an attempt that does not raise. -/
def verdict (order : Order) (attempt : Validation) : OrderStatus × Bool :=
  if amountMatches attempt order.amountPaisa order.currency = .ok true then
    if riskFlagged attempt = true then (.pending, false) else (.paid, true)
  else (.failed, false)

/-- What becomes of an order by the element that the search stops at. -/
def judged (db : Db) (now : Instant) (order : Order) :
    Option Element → Option (OrderStatus × Bool)
  | none => some (if abandonable now order then (abandon order).status else order.status, false)
  | some none => none
  | some (some attempt) =>
      if Raises db now order (some attempt) then none else some (verdict order attempt)

/-- A decision about a success is the verdict. -/
theorem applyValidation_verdict (hsucceeded : paymentSucceeded attempt = true)
    (happly : applyValidation db pending now keys order attempt = .ok (order', grants, outcome)) :
    (order'.status, !grants.isEmpty) = verdict order attempt := by
  obtain ⟨-, -, hcase⟩ := applyValidation_cases happly
  unfold verdict
  rcases hcase with ⟨hrefused, hstatus, rfl, -⟩ | ⟨hstatus, rfl, -, hrisk, hamount⟩ |
    ⟨⟨-, hamount, hrisk⟩, hstatus, -, grant, rfl, -⟩
  · rcases hrefused with hfailed | hamount
    · rw [hsucceeded] at hfailed
      cases hfailed
    · rw [hstatus, hamount]
      rfl
  · rw [hstatus, if_pos hamount, if_pos hrisk]
    rfl
  · rw [hstatus, if_pos hamount, hrisk]
    rfl

/-- The flush of one decision of an unpaid order. -/
theorem flush_decision (hledger : Ledger db) (horder : order ∈ db.orders)
    (hunpaid : order.status ≠ .paid)
    (happly : applyValidation db pending now keys order attempt = .ok (order', grants, outcome))
    (hsendable : SendableUpdate order order') :
    ∃ db', db.flush ⟨[(order, order')], grants⟩ = .ok db' := by
  obtain ⟨hterms, -, hcase⟩ := applyValidation_cases happly
  have hbalanced : Balanced [(order, order')] grants := by
    rcases hcase with ⟨-, hstatus, rfl, -⟩ | ⟨hstatus, rfl, -, -⟩ |
      ⟨-, hstatus, -, grant, rfl, hgrant⟩
    · exact balanced_write hterms (by simp [hstatus])
    · exact balanced_write hterms (by simp [hstatus])
    · exact balanced_pay hterms hunpaid hstatus hgrant
  obtain ⟨db', hflush, -⟩ := hledger.commit hbalanced (List.forall_mem_singleton.mpr hsendable)
    (List.forall_mem_singleton.mpr ⟨horder, hunpaid⟩)
  exact ⟨db', hflush⟩

/-- **One turn** looks at the element that the search stops at, and at nothing
else. -/
theorem handled_eq (hledger : Ledger db) (horder : order ∈ db.orders)
    (hunpaid : order.status ≠ .paid) (attempts : List Element) :
    handled db env order attempts = judged db env.now order (attempts.find? stopsAt) := by
  have hfits := hledger.fits order horder
  unfold handled reconcileOrder
  simp only [successfulElement_eq]
  cases hfind : attempts.find? stopsAt with
  | none =>
      by_cases hage : abandonable env.now order
      · have hflush : ∃ db', db.flush { writes := [(order, abandon order)] } = .ok db' :=
          Db.flush_goes_through.mpr ⟨List.forall_mem_singleton.mpr (sendableUpdate_abandon order),
            db, rfl⟩
        obtain ⟨db', hflush⟩ := hflush
        simp [judged, hage, hflush]
      · simp [judged, hage]
  | some element =>
      cases element with
      | none => rfl
      | some attempt =>
          have hsucceeded : paymentSucceeded attempt = true :=
            paymentSucceeded_of_stopsAt (List.find?_some hfind)
          simp only [judged]
          cases happly : applyValidation db {} env.now (env.keys order.tranId) order attempt with
          | error e =>
              -- nothing is pending, so the exception is the attempt's own
              have hraises : Raises db env.now order (some attempt) := by
                by_contra hnot
                obtain ⟨result, hok⟩ := applyValidation_of_not_raises
                  (env.keys order.tranId) hfits hnot ⟨db, db.flush_nothing⟩
                rw [hok] at happly
                cases happly
              rw [if_pos hraises]
          | ok result =>
              obtain ⟨order', grants, outcome⟩ := result
              by_cases hsendable : SendableUpdate order order'
              · obtain ⟨db', hflush⟩ := flush_decision hledger horder hunpaid happly hsendable
                simp only [List.nil_append, hflush]
                rw [if_neg (not_raises_of_ok hfits hsucceeded happly hsendable),
                  ← applyValidation_verdict hsucceeded happly]
                rfl
              · have hflush : db.flush ⟨[(order, order')], grants⟩ = .error .data :=
                  if_pos fun h => hsendable (h _ (List.mem_singleton_self _))
                have hraises : Raises db env.now order (some attempt) := by
                  refine Or.inr (Or.inl fun hrecord => hsendable ?_)
                  exact (applyValidation_sendable happly).mpr ((sendableRecord_iff hfits).mpr hrecord)
                simp only [List.nil_append, hflush]
                rw [if_pos hraises]

/-- What does not raise converts. -/
theorem amountMatches_of_not_raises (h : ¬ Raises db now order (some attempt)) :
    ∃ matched, amountMatches attempt order.amountPaisa order.currency = .ok matched := by
  cases hmatch : amountMatches attempt order.amountPaisa order.currency with
  | error e => exact absurd (Or.inl (by rw [hmatch]; rfl)) h
  | ok matched => exact ⟨matched, rfl⟩

/-- Two attempts that do not raise have one verdict exactly when the checks agree
on them. -/
theorem verdict_eq_iff {a b : Validation} (ha : ¬ Raises db now order (some a))
    (hb : ¬ Raises db now order (some b)) : verdict order a = verdict order b ↔
      amountMatches a order.amountPaisa order.currency =
          amountMatches b order.amountPaisa order.currency ∧
        (amountMatches a order.amountPaisa order.currency = .ok true →
          riskFlagged a = riskFlagged b) := by
  obtain ⟨matched, hmatched⟩ := amountMatches_of_not_raises ha
  obtain ⟨matched', hmatched'⟩ := amountMatches_of_not_raises hb
  unfold verdict
  rw [hmatched, hmatched']
  cases matched <;> cases matched' <;> cases riskFlagged a <;> cases riskFlagged b <;> simp

/-- Two elements have the same outcome exactly when they agree. -/
theorem judged_eq_iff {a b : Element} :
    judged db now order (some a) = judged db now order (some b) ↔ Agree db now order a b := by
  have hraises : ∀ element, judged db now order (some element) = none ↔
      Raises db now order element := by
    intro element
    cases element with
    | none => exact iff_of_true rfl trivial
    | some attempt => simp [judged]
  by_cases ha : Raises db now order a
  · rw [(hraises a).mpr ha, eq_comm, hraises b, Agree]
    simp [ha]
  · by_cases hb : Raises db now order b
    · rw [(hraises b).mpr hb, hraises a, Agree]
      simp [ha, hb]
    · cases a with
      | none => exact absurd trivial ha
      | some v =>
          cases b with
          | none => exact absurd trivial hb
          | some w =>
              simp only [judged, ha, hb, if_false, Option.some.injEq, verdict_eq_iff ha hb,
                Agree, not_false_eq_true, true_and, forall_const, Option.mem_def, forall_eq']

/-- **One turn**: it is free of the order of the attempts exactly when those
that the search can stop at agree, and no good one raises. -/
theorem orderFree_iff (hledger : Ledger db) (horder : order ∈ db.orders)
    (hunpaid : order.status ≠ .paid) :
    OrderFree db env order attempts ↔ Concordant db env.now order attempts := by
  have hsame : (∀ attempts' : List Element, attempts'.Perm attempts →
      handled db env order attempts' = handled db env order attempts) ↔
        ∀ a ∈ attempts, ∀ b ∈ attempts, stopsAt a = true → stopsAt b = true →
          Agree db env.now order a b := by
    simp only [handled_eq hledger horder hunpaid, ← judged_eq_iff]
    exact first_match_perm
  have hfirst : ∀ element ∈ attempts, stopsAt element = true →
      (∀ a ∈ attempts, ∀ b ∈ attempts, stopsAt a = true → stopsAt b = true →
        Agree db env.now order a b) →
      handled db env order attempts = judged db env.now order (some element) := by
    intro element hmem hstops hagree
    rw [handled_eq hledger horder hunpaid]
    cases hfind : attempts.find? stopsAt with
    | none => exact absurd hstops (List.find?_eq_none.mp hfind element hmem)
    | some first =>
        exact judged_eq_iff.mpr (hagree first (List.mem_of_find?_eq_some hfind) element hmem
          (List.find?_some hfind) hstops)
  constructor
  · intro hfree
    have hagree := hsame.mp hfree.same
    refine ⟨hagree, ?_⟩
    rintro (_ | attempt) hmem hstops v ⟨⟩ hgood hraises
    have hpaid := hfree.paid attempt hmem hstops hgood
    rw [hfirst _ hmem hstops hagree, judged, if_pos hraises] at hpaid
    cases hpaid
  · rintro ⟨hagree, hquiet⟩
    refine ⟨hsame.mpr hagree, ?_⟩
    intro attempt hmem husable hgood
    rw [hfirst _ hmem husable hagree, judged, if_neg (hquiet _ hmem husable attempt rfl hgood),
      verdict, if_pos hgood.2.1, hgood.2.2]
    rfl

/-! ## §3 A whole pass -/

/-- The gateway's answer about an order, and the same answer in another order.
The attempts are concordant. -/
inductive Reordered (db : Db) (now : Instant) (order : Order) :
    Except Failure (List Element) → Except Failure (List Element) → Prop where
  | unreachable (e e' : GatewayError) :
      Reordered db now order (.error (.gateway e)) (.error (.gateway e'))
  | raising (e e' : Uncaught) :
      Reordered db now order (.error (.uncaught e)) (.error (.uncaught e'))
  | listed {attempts attempts' : List Element} (hperm : attempts'.Perm attempts)
      (hconcordant : Concordant db now order attempts) :
      Reordered db now order (.ok attempts) (.ok attempts')

/-- Two updates of one order to the same status. -/
def SameWrite (w w' : Order × Order) : Prop := w'.1 = w.1 ∧ w'.2.status = w.2.status

/-- Two sessions that differ at most in the responses they store. -/
structure Alike (pass pass' : Pass) : Prop where
  writes : List.Forall₂ SameWrite pass.writes pass'.writes
  grants : pass'.grants = pass.grants
  tally : pass'.tally = pass.tally

/-- What two passes leave: the same tally or no tally, the same statuses and the
same tickets. -/
structure SamePass (one other : Db × Except Uncaught Tally) : Prop where
  result : other.2.toOption = one.2.toOption
  statuses : other.1.orders.rows.map (fun o => (o.id, o.status)) =
    one.1.orders.rows.map fun o => (o.id, o.status)
  tickets : other.1.tickets = one.1.tickets

/-- **What ends a pass** at an order whose attempts are listed. -/
theorem endsPass_iff (env : PassEnv)
    (hanswer : env.gateway.queryByTranId order.tranId = .ok attempts) :
    EndsPass env db order ↔
      ∃ element, attempts.find? stopsAt = some element ∧ Raises db env.now order element := by
  have hfound : ∀ attempt, Found env order attempt ↔
      attempts.find? stopsAt = some (some attempt) := by
    intro attempt
    unfold Found
    simp only [hanswer, Except.ok.injEq, exists_eq_left', successfulElement_eq]
    cases attempts.find? stopsAt with
    | none => simp
    | some element => cases element <;> simp
  constructor
  · intro hends
    cases hends with
    | unanswered hanswer' =>
        rw [hanswer] at hanswer'
        cases hanswer'
    | malformed hanswer' hraises =>
        obtain rfl := Except.ok.inj (hanswer.symm.trans hanswer')
        rw [successfulElement_eq] at hraises
        split at hraises
        · cases hraises
        · rename_i hfind
          exact ⟨none, hfind, trivial⟩
        · cases hraises
    | unconvertible h hamount =>
        exact ⟨_, (hfound _).mp h, Or.inl (by rw [hamount]; rfl)⟩
    | unrecordable h hrecord => exact ⟨_, (hfound _).mp h, Or.inr (Or.inl hrecord)⟩
    | endless h hgood hissue => exact ⟨_, (hfound _).mp h, Or.inr (Or.inr ⟨hgood, hissue⟩)⟩
  · rintro ⟨_ | attempt, hfind, hraises⟩
    · exact .malformed hanswer (by rw [successfulElement_eq, hfind])
    · have h := (hfound attempt).mpr hfind
      rcases hraises with hamount | hrecord | ⟨hgood, hissue⟩
      · cases hmatch : amountMatches attempt order.amountPaisa order.currency with
        | error e => exact .unconvertible h hmatch
        | ok matched =>
            rw [hmatch] at hamount
            cases hamount
      · exact .unrecordable h hrecord
      · exact .endless h hgood hissue

/-- Concordant attempts have a first one that the search stops at in both orders,
and the two agree, or in neither. -/
theorem Concordant.firsts {attempts' : List Element} (h : Concordant db now order attempts)
    (hperm : attempts'.Perm attempts) :
    attempts.find? stopsAt = none ∧ attempts'.find? stopsAt = none ∨
      ∃ a b, attempts.find? stopsAt = some a ∧ attempts'.find? stopsAt = some b ∧
        stopsAt a = true ∧ stopsAt b = true ∧ Agree db now order a b := by
  cases hfind : attempts.find? stopsAt with
  | none => exact Or.inl ⟨rfl, find?_eq_none_of_perm hperm hfind⟩
  | some a =>
      cases hfind' : attempts'.find? stopsAt with
      | none =>
          rw [find?_eq_none_of_perm hperm.symm hfind'] at hfind
          cases hfind
      | some b =>
          -- the first of the one list is somewhere in the other
          have ha : stopsAt a = true := List.find?_some hfind
          have hb : stopsAt b = true := List.find?_some hfind'
          have hmem := hperm.subset (List.mem_of_find?_eq_some hfind')
          exact Or.inr ⟨a, b, rfl, rfl, ha, hb,
            h.1 a (List.mem_of_find?_eq_some hfind) b hmem ha hb⟩

/-- Either order of the attempts ends the pass, or neither does. -/
theorem Reordered.endsPass_iff {gateway : Gateway}
    (h : Reordered db env.now order (env.gateway.queryByTranId order.tranId)
      (gateway.queryByTranId order.tranId)) :
    EndsPass { env with gateway := gateway } db order ↔ EndsPass env db order := by
  generalize hanswer : env.gateway.queryByTranId order.tranId = answer at h
  generalize hanswer' : gateway.queryByTranId order.tranId = answer' at h
  have hunreachable : ∀ (env' : PassEnv) (e : GatewayError),
      env'.gateway.queryByTranId order.tranId = .error (.gateway e) → ¬ EndsPass env' db order := by
    intro env' e herror hends
    cases hends with
    | unanswered hother | malformed hother _ =>
        rw [herror] at hother
        cases hother
    | unconvertible hfound _ | unrecordable hfound _ | endless hfound _ _ =>
        obtain ⟨elements, hother, -⟩ := hfound
        rw [herror] at hother
        cases hother
  cases h with
  | unreachable e e' =>
      exact iff_of_false (hunreachable _ e' hanswer') (hunreachable _ e hanswer)
  | raising e e' => exact iff_of_true (.unanswered hanswer') (.unanswered hanswer)
  | listed hperm hconcordant =>
      rw [UniTrack.endsPass_iff env hanswer,
        UniTrack.endsPass_iff { env with gateway := gateway } hanswer']
      rcases hconcordant.firsts hperm with ⟨hnone, hnone'⟩ | ⟨a, b, hfind, hfind', -, -, hagree⟩
      · simp [hnone, hnone']
      · simp [hfind, hfind', hagree.1]

/-- Attempts that the checks agree on settle an order alike. -/
theorem applyValidation_alike {a b : Validation} {pending' : UnitOfWork}
    {one other : Order × List TicketGrant × Outcome}
    (ha : paymentSucceeded a = true) (hb : paymentSucceeded b = true)
    (hamounts : amountMatches a order.amountPaisa order.currency =
      amountMatches b order.amountPaisa order.currency)
    (hrisks : amountMatches a order.amountPaisa order.currency = .ok true →
      riskFlagged a = riskFlagged b)
    (h : applyValidation db pending now keys order a = .ok one)
    (h' : applyValidation db pending' now keys order b = .ok other) :
    other.1.status = one.1.status ∧ other.2 = one.2 := by
  rw [applyValidation_of_succeeded ha] at h
  rw [applyValidation_of_succeeded hb, ← hamounts] at h'
  cases hamount : amountMatches a order.amountPaisa order.currency with
  | error e =>
      rw [hamount] at h
      cases h
  | ok matched =>
      rw [hamount] at h h'
      cases matched with
      | false =>
          cases h
          cases h'
          exact ⟨rfl, rfl⟩
      | true =>
          rw [← hrisks hamount] at h'
          cases hrisk : riskFlagged a with
          | true =>
              rw [hrisk] at h h'
              cases h
              cases h'
              exact ⟨rfl, rfl⟩
          | false =>
              -- the ticket is of the order's terms, whatever the record
              rw [hrisk] at h h'
              obtain ⟨grant, hgrant, rfl⟩ := map_eq_ok.mp h
              obtain ⟨grant', hgrant', rfl⟩ := map_eq_ok.mp h'
              obtain ⟨-, product, ⟨hproduct, -⟩, rfl⟩ := issueTicket_eq_ok.mp hgrant
              obtain ⟨-, product', ⟨hproduct', -⟩, rfl⟩ := issueTicket_eq_ok.mp hgrant'
              obtain rfl := Option.some.inj (hproduct.symm.trans hproduct')
              exact ⟨rfl, rfl⟩

theorem Alike.write {pass pass' : Pass} (h : Alike pass pass') {w w' : Order × Order}
    (hw : SameWrite w w') {grants : List TicketGrant} {tally : Tally} {asked asked' : List Text} :
    Alike ⟨⟨pass.writes ++ [w], pass.grants ++ grants⟩, tally, asked⟩
      ⟨⟨pass'.writes ++ [w'], pass'.grants ++ grants⟩, tally, asked'⟩ where
  writes := List.rel_append h.writes (.cons hw .nil)
  grants := congrArg (· ++ grants) h.grants
  tally := rfl

/-- **One turn of two passes**, whose answers differ in their order. -/
theorem reconcileOrder_alike {pass pass' next next' : Pass} (halike : Alike pass pass')
    {answer answer' : Except Failure (List Element)}
    (hanswer : Reordered db now order answer answer')
    (hquiet : ∀ attempts, answer = .ok attempts → ∀ element,
      attempts.find? stopsAt = some element → ¬ Raises db now order element)
    (h : reconcileOrder db now keys pass order answer = .ok next)
    (h' : reconcileOrder db now keys pass' order answer' = .ok next') : Alike next next' := by
  cases hanswer with
  | unreachable e e' =>
      cases h
      cases h'
      exact ⟨halike.writes, halike.grants, by simp only [halike.tally]⟩
  | raising e e' => cases h
  | listed hperm hconcordant =>
      unfold reconcileOrder at h h'
      simp only [successfulElement_eq] at h h'
      rcases hconcordant.firsts hperm with ⟨hnone, hnone'⟩ |
        ⟨a, b, hfind, hfind', hstops, hstops', hagree⟩
      · simp only [hnone, hnone', halike.tally] at h h'
        by_cases hage : abandonable now order
        · simp only [hage, if_true] at h h'
          cases h
          cases h'
          exact ⟨List.rel_append halike.writes (.cons ⟨rfl, rfl⟩ .nil), halike.grants, rfl⟩
        · simp only [hage, if_false] at h h'
          cases h
          cases h'
          exact ⟨halike.writes, halike.grants, rfl⟩
      · have ha := hquiet _ rfl a hfind
        have hb := mt hagree.1.mpr ha
        cases a with
        | none => exact absurd trivial ha
        | some v =>
            cases b with
            | none => exact absurd trivial hb
            | some w =>
                -- the checks are the same on both, the records need not be
                obtain ⟨hamounts, hrisks⟩ := hagree.2 ha v rfl w rfl
                simp only [hfind, hfind', halike.tally] at h h'
                split at h
                · cases h
                · rename_i order' grants outcome happly
                  split at h'
                  · cases h'
                  · rename_i order'' grants' outcome' happly'
                    obtain ⟨hstatus, hrest⟩ := applyValidation_alike
                      (paymentSucceeded_of_stopsAt hstops) (paymentSucceeded_of_stopsAt hstops')
                      hamounts hrisks happly happly'
                    cases hrest
                    cases h
                    cases h'
                    have hsame : SameWrite (order, order') (order, order'') := ⟨rfl, hstatus⟩
                    exact halike.write hsame

/-- **A whole batch of two passes**, both of them through. -/
theorem reconcileBatch_alike {gateway : Gateway} {orders : List Order} {pass pass' : Pass}
    (hanswers : ∀ o ∈ orders, Reordered db env.now o (env.gateway.queryByTranId o.tranId)
      (gateway.queryByTranId o.tranId))
    (hfine : ∀ o ∈ orders, ¬ EndsPass env db o)
    (h : reconcileBatch db env orders = .ok pass)
    (h' : reconcileBatch db { env with gateway := gateway } orders = .ok pass') :
    Alike pass pass' := by
  refine foldlM_abreast ?_ (⟨.nil, rfl, rfl⟩ : Alike {} {}) h h'
  intro o ho current current' halike next next' hturn hturn'
  refine reconcileOrder_alike halike (hanswers o ho) ?_ hturn hturn'
  intro attempts hanswer element hfind hraises
  exact hfine o ho ((endsPass_iff env hanswer).mpr ⟨element, hfind, hraises⟩)

/-- What a row becomes by two lists of like updates. -/
theorem rewritten_alike {ws ws' : List (Order × Order)} (h : List.Forall₂ SameWrite ws ws')
    {row row' : Order} (hid : row'.id = row.id) (hstatus : row'.status = row.status) :
    (Order.rewritten ws' row').id = (Order.rewritten ws row).id ∧
      (Order.rewritten ws' row').status = (Order.rewritten ws row).status := by
  induction h generalizing row row' with
  | nil => exact ⟨hid, hstatus⟩
  | @cons w w' ws ws' hw hws ih =>
      obtain ⟨hread, hheld⟩ := hw
      rw [Order.rewritten_cons, Order.rewritten_cons, hid, hread]
      apply ih
      · split
        · exact hid
        · exact hid
      · split
        · rw [Order.patched_status, Order.patched_status, hheld, hstatus]
        · exact hstatus

/-- Like updates leave the same orders with the same statuses. -/
theorem writeOrders_alike {ws ws' : List (Order × Order)} (h : List.Forall₂ SameWrite ws ws')
    (db : Db) : (db.writeOrders ws').orders.rows.map (fun o => (o.id, o.status)) =
      (db.writeOrders ws).orders.rows.map fun o => (o.id, o.status) := by
  rw [Db.writeOrders_rows, Db.writeOrders_rows, List.map_map, List.map_map]
  apply List.map_congr_left
  intro row _
  obtain ⟨hid, hstatus⟩ := rewritten_alike h (@rfl _ row.id) (@rfl _ row.status)
  exact Prod.ext hid hstatus

theorem flush_alike {pass pass' : Pass} (h : Alike pass pass') {db' db'' : Db}
    (hflush : db.flush pass.toUnitOfWork = .ok db')
    (hflush' : db.flush pass'.toUnitOfWork = .ok db'') :
    SamePass (db', .ok pass.tally) (db'', .ok pass'.tally) := by
  have hcommit : ∀ work : UnitOfWork, ∀ after, db.flush work = .ok after →
      ∃ inserted, db.insertTickets work.grants = some inserted ∧
        after = { inserted with orders := (db.writeOrders work.writes).orders } := by
    intro work after hafter
    have hcommitted := (Db.flush_eq_ok.mp hafter).2
    obtain ⟨orders, horders⟩ := db.writeOrders_frame work.writes
    rw [Db.commitOrders, horders, Db.insertTickets_orders] at hcommitted
    obtain ⟨inserted, hinserted, rfl⟩ := Option.map_eq_some_iff.mp hcommitted
    exact ⟨inserted, hinserted, by rw [horders]⟩
  obtain ⟨inserted, hinserted, rfl⟩ := hcommit _ _ hflush
  obtain ⟨inserted', hinserted', rfl⟩ := hcommit _ _ hflush'
  rw [h.grants] at hinserted'
  obtain rfl := Option.some.inj (hinserted.symm.trans hinserted')
  exact ⟨congrArg (fun tally => some tally) h.tally, writeOrders_alike h.writes db, rfl⟩

/-- An order that something is against ends a pass on its own with an exception. -/
theorem reconcileOnce_of_endsPass (env : PassEnv) (hledger : Ledger db)
    (horder : order ∈ passBatch db env)
    (hends : EndsPass env db order) : ∃ e, reconcileOnce env db = (db, .error e) := by
  unfold reconcileOnce
  cases hbatch : reconcileBatch db env (passBatch db env) with
  | error e => exact ⟨e, rfl⟩
  | ok pass =>
      -- what the loop lets through is refused when it is sent
      have hunsendable : ¬ pass.Sendable := by
        intro hsendable
        exact none_endsPass (rowFits_of_mem_passBatch hledger) (fun _ => rfl) hbatch hsendable
          order horder hends
      have hflush : db.flush pass.toUnitOfWork = .error .data := if_pos hunsendable
      rw [commitPass, hflush]
      exact ⟨.dataError, rfl⟩

/-- Without one, it commits what it decided. -/
theorem reconcileOnce_of_clear (env : PassEnv) (hledger : Ledger db)
    (hfine : ∀ o ∈ passBatch db env, ¬ EndsPass env db o) :
    ∃ pass db', reconcileBatch db env (passBatch db env) = .ok pass ∧
      db.flush pass.toUnitOfWork = .ok db' ∧ reconcileOnce env db = (db', .ok pass.tally) := by
  have hfree : ∀ o ∈ passBatch db env, ∀ t ∈ db.tickets, t.orderId ≠ o.id := by
    intro o ho
    exact (Since.refl hledger).free (mem_of_mem_passBatch ho).1 (not_settled_of_mem_passBatch ho)
  obtain ⟨pass, hbatch, hsendable⟩ := batchDuring_ok (fun _ => db)
    (rowFits_of_mem_passBatch hledger) (fun _ => rfl) (passBatch_ids_nodup db env) .start hfine
    fun o ho _ _ => hfree o ho
  obtain ⟨db', hflush, -⟩ := hledger.turns (batchDuring_decides hbatch) hsendable
  refine ⟨pass, db', hbatch, hflush, ?_⟩
  rw [reconcileOnce, reconcileBatch_eq, hbatch, commitPass, hflush]

/-- **A whole pass**, with every list of attempts in another order. -/
theorem reconcileOnce_same (hledger : Ledger db) {gateway : Gateway}
    (h : ∀ order ∈ passBatch db env, Reordered db env.now order
      (env.gateway.queryByTranId order.tranId) (gateway.queryByTranId order.tranId)) :
    SamePass (reconcileOnce env db) (reconcileOnce { env with gateway := gateway } db) := by
  -- both raise, or both commit
  by_cases hends : ∃ order ∈ passBatch db env, EndsPass env db order
  · obtain ⟨order, horder, hends⟩ := hends
    obtain ⟨e, he⟩ := reconcileOnce_of_endsPass env hledger horder hends
    obtain ⟨e', he'⟩ := reconcileOnce_of_endsPass { env with gateway := gateway } hledger horder
      ((h order horder).endsPass_iff.mpr hends)
    rw [he, he']
    exact ⟨rfl, rfl, rfl⟩
  · push Not at hends
    obtain ⟨pass, db', hbatch, hflush, hpass⟩ := reconcileOnce_of_clear env hledger hends
    obtain ⟨pass', db'', hbatch', hflush', hpass'⟩ :=
      reconcileOnce_of_clear { env with gateway := gateway } hledger
        fun o ho => mt (h o ho).endsPass_iff.mp (hends o ho)
    rw [hpass, hpass']
    exact flush_alike (reconcileBatch_alike h hends hbatch hbatch') hflush hflush'

/-- A pass that goes through pays every order with a good attempt, where its
attempts are concordant. -/
theorem reconcileOnce_pays (hledger : Ledger db) {tally : Tally}
    (hthrough : (reconcileOnce env db).2 = .ok tally) (horder : order ∈ passBatch db env)
    (hanswer : env.gateway.queryByTranId order.tranId = .ok attempts)
    (hconcordant : Concordant db env.now order attempts) (hattempt : some attempt ∈ attempts)
    (husable : Usable attempt) (hgood : GoodPayment attempt order.amountPaisa order.currency) :
    Settled (reconcileOnce env db).1 order ∧ (reconcileOnce env db).1.HasTicket order := by
  have hfine : ∀ o ∈ passBatch db env, ¬ EndsPass env db o := by
    intro o ho hends
    obtain ⟨e, he⟩ := reconcileOnce_of_endsPass env hledger ho hends
    rw [he] at hthrough
    cases hthrough
  have hpaid : PaidAtGateway env order := by
    have hquiet := hconcordant.2 _ hattempt husable attempt rfl hgood
    cases hfind : attempts.find? stopsAt with
    | none => exact absurd husable (List.find?_eq_none.mp hfind _ hattempt)
    | some first =>
        have hstops : stopsAt first = true := List.find?_some hfind
        have hagree := hconcordant.1 _ hattempt first (List.mem_of_find?_eq_some hfind) husable
          hstops
        cases first with
        | none => exact absurd (hagree.1.mpr trivial) hquiet
        | some v =>
            obtain ⟨hamounts, hrisks⟩ := hagree.2 hquiet attempt rfl v rfl
            refine ⟨v, ⟨attempts, hanswer, by rw [successfulElement_eq, hfind]⟩, ?_⟩
            exact ⟨paymentSucceeded_of_stopsAt hstops, hamounts ▸ hgood.2.1,
              hrisks hgood.2.1 ▸ hgood.2.2⟩
  have hsince := Since.refl hledger
  rw [← latePass_self]
  exact latePass_of_clear hledger hsince (fun _ => rfl) (fun _ _ h => h) (fun _ => hsince)
    (fun o ho => ⟨hfine o ho, fun _ => not_settled_of_mem_passBatch ho⟩) order horder
    (not_settled_of_mem_passBatch horder) hpaid

end

/-! ## §4 The same in every order -/

/-- **When the order of the attempts does not matter.** Over every reachable
shop: the status of an unpaid order and its ticket come out the same for every
order of its attempts, and a good attempt pays it wherever it is listed, exactly
when the elements that the search can stop at are judged alike and no good one
raises. Where they are, listing all of them in another order leaves a whole pass
as it is, and a pass that goes through pays every order that has a good attempt. -/
theorem attempts_in_any_order (products : List TicketProduct) (users : List User)
    (events : List MoneyEvent) (env : PassEnv) :
    let db := (run moneyStep (Money.opening products users) events).db
    (∀ order ∈ db.orders, order.status ≠ .paid → ∀ attempts,
      OrderFree db env order attempts ↔ Concordant db env.now order attempts) ∧
    (∀ gateway : Gateway, (∀ order ∈ passBatch db env,
        Reordered db env.now order (env.gateway.queryByTranId order.tranId)
          (gateway.queryByTranId order.tranId)) →
      SamePass (reconcileOnce env db) (reconcileOnce { env with gateway := gateway } db)) ∧
    (∀ tally, (reconcileOnce env db).2 = .ok tally →
      ∀ order ∈ passBatch db env, ∀ attempts,
      env.gateway.queryByTranId order.tranId = .ok attempts →
      Concordant db env.now order attempts →
      ∀ attempt, some attempt ∈ attempts → Usable attempt →
      GoodPayment attempt order.amountPaisa order.currency →
        Settled (reconcileOnce env db).1 order ∧ (reconcileOnce env db).1.HasTicket order) := by
  intro db
  have hledger : Ledger db := ledger_money products users events
  refine ⟨?_, ?_, ?_⟩
  · intro order horder hunpaid attempts
    exact orderFree_iff hledger horder hunpaid
  · intro gateway hanswers
    exact reconcileOnce_same hledger hanswers
  · intro tally hthrough order horder attempts hanswer hconcordant attempt hattempt husable hgood
    exact reconcileOnce_pays hledger hthrough horder hanswer hconcordant hattempt husable hgood

/-! ## §5 A wrong payment listed first -/

/-- One taka instead of a hundred, paid for the first order. -/
def shortPayment : Validation :=
  { firstPayment with
    amount := some (.str "1.00".toList)
    valId := some (.str "V0".toList) }

/-- A card that was declined. -/
def declinedAttempt : Validation where
  status := some (.str "FAILED".toList)
  amount := some (.str "100.00".toList)
  currency := some (.str "BDT".toList)
  valId := some (.str [])
  tranId := some (.str "UT-1".toList)

def oneBought : List MoneyEvent := [.call (buy "UT-1" "first")]

/-- A gateway that lists these attempts at the first transaction. -/
def attemptsGateway (attempts : List Element) : Gateway :=
  { oneGateway with
    queryByTranId := fun tranId => .ok (if tranId = "UT-1".toList then attempts else []) }

def attemptsPass (attempts : List Element) : PassEnv :=
  { twoPaidPass with gateway := attemptsGateway attempts }

/-- The card first, and the wallet that worked. -/
def cardFirst : List Element := [some declinedAttempt, some firstPayment]

def walletFirst : List Element := [some firstPayment, some declinedAttempt]

/-- The declined card may be listed before or after the wallet that worked. -/
theorem attempts_in_any_order_declined :
    SamePass
      (reconcileOnce (attemptsPass cardFirst)
        (run moneyStep (Money.opening [singleRide] [riderUser]) oneBought).db)
      (reconcileOnce (attemptsPass walletFirst)
        (run moneyStep (Money.opening [singleRide] [riderUser]) oneBought).db) ∧
    ∃ order ∈ (run moneyStep (Money.opening [singleRide] [riderUser]) oneBought).db.orders,
      OrderFree (run moneyStep (Money.opening [singleRide] [riderUser]) oneBought).db
        (attemptsPass cardFirst) order cardFirst ∧
      Settled (reconcileOnce (attemptsPass cardFirst)
        (run moneyStep (Money.opening [singleRide] [riderUser]) oneBought).db).1 order := by
  obtain ⟨hfree, hsame, hpays⟩ := attempts_in_any_order [singleRide] [riderUser] oneBought
    (attemptsPass cardFirst)
  have hbatch : ∀ order ∈ passBatch
      (run moneyStep (Money.opening [singleRide] [riderUser]) oneBought).db
      (attemptsPass cardFirst), order.tranId = "UT-1".toList ∧
        Concordant (run moneyStep (Money.opening [singleRide] [riderUser]) oneBought).db
          (attemptsPass cardFirst).now order cardFirst ∧
        GoodPayment firstPayment order.amountPaisa order.currency := by
    decide +kernel
  have hlisted : ∀ order ∈ passBatch
      (run moneyStep (Money.opening [singleRide] [riderUser]) oneBought).db
      (attemptsPass cardFirst), ∀ attempts,
        (attemptsGateway attempts).queryByTranId order.tranId = .ok attempts := by
    intro order horder attempts
    exact congrArg Except.ok (if_pos (hbatch order horder).1)
  constructor
  · apply hsame (attemptsGateway walletFirst)
    intro order horder
    rw [hlisted order horder, show (attemptsPass cardFirst).gateway = attemptsGateway cardFirst
      from rfl, hlisted order horder]
    exact .listed (List.Perm.swap ..) (hbatch order horder).2.1
  · have hone : ∃ order, order ∈ passBatch
        (run moneyStep (Money.opening [singleRide] [riderUser]) oneBought).db
        (attemptsPass cardFirst) :=
      List.exists_mem_of_length_pos (by decide +kernel)
    obtain ⟨order, horder⟩ := hone
    obtain ⟨-, hconcordant, hgood⟩ := hbatch order horder
    have hmem := (mem_of_mem_passBatch horder).1
    refine ⟨order, hmem, ?_, ?_⟩
    · exact (hfree order hmem (unpaid_of_mem_passBatch horder) cardFirst).mpr hconcordant
    · exact (hpays ⟨1, 1, 0, 0, 0⟩ (by decide +kernel) order horder _ (hlisted order horder _)
        hconcordant firstPayment (by decide) (by decide) hgood).1

/-- The short payment is listed first: the order fails, though the right one is
there as well. -/
theorem short_payment_hides_the_good :
    ¬ ∀ (products : List TicketProduct) (users : List User) (events : List MoneyEvent)
      (env : PassEnv),
      ∀ order ∈ passBatch (run moneyStep (Money.opening products users) events).db env,
      ∀ attempts,
        OrderFree (run moneyStep (Money.opening products users) events).db env order attempts := by
  intro hclaim
  have hshort : ∃ order ∈ passBatch (run moneyStep (Money.opening [singleRide] [riderUser])
      oneBought).db twoPaidPass,
      GoodPayment firstPayment order.amountPaisa order.currency ∧
        handled (run moneyStep (Money.opening [singleRide] [riderUser]) oneBought).db twoPaidPass
          order [some shortPayment, some firstPayment] = some (.failed, false) := by
    decide +kernel
  obtain ⟨order, horder, hgood, hfailed⟩ := hshort
  have hfree := hclaim [singleRide] [riderUser] oneBought twoPaidPass order horder
    [some shortPayment, some firstPayment]
  have hpaid := hfree.paid firstPayment (by simp) (by decide) hgood
  rw [hfailed] at hpaid
  cases hpaid

end UniTrack
