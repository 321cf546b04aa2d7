import UniTrack.Payments.Interleaving

/-!
# Losing the race for an idempotency key

Two purchases with one key may both find it unused. One inserts its order; the
other is refused by the UNIQUE constraint, rolls back and looks up the winner.
The rollback has expired the student it was asked by, so it raises where the
same request, started only then, is answered. A checkout is for an order of its
student all the same.

§1 is what a purchase answers, and that alone it answers as `create_order`
does. §2 compares losing with coming late. §3 is whose order a checkout is for,
in every interleaving. §4 is a double tap.
-/

namespace UniTrack

open UniTrack.Framework UniTrack.Python UniTrack.Sslcommerz

/-! ## §1  What a purchase answers -/

/-- The answer that is settled when the gateway has answered `create_session`.
A checkout is sent once its commit is through. -/
def sessionReply (db : Db) (student : Student) (order : Order) (gateway : Gateway) :
    CheckoutResult :=
  match checkoutRequest db order student with
  | none => .refused 409 "Order references missing records"
  | some request =>
      match gateway.createSession request with
      | .error (.uncaught e) => .crashed e
      | .error (.gateway _) => .refused 502 "Payment gateway unavailable, try again"
      | .ok checkoutUrl => .checkout (checkoutOut (markPending order) checkoutUrl)

/-- What a purchase answers in one step, if it is done there. -/
def purchaseReply (db : Db) : ShopPhase → ShopAction → Option CheckoutResult
  | .idle, .create student payload =>
      match createRead db student payload with
      | .refuse statusCode detail => some (.refused statusCode detail)
      | _ => none
  | .refresh _ id, .read =>
      match db.orders.find fun o => o.id == id with
      | some _ => none
      | none => some (.crashed .invalidRequest)
  | .reread _ key, .read =>
      match db.orderByIdempotencyKey key with
      | some _ => some (.crashed .missingGreenlet)
      | none => some (.crashed .attributeError)
  | .session student order, .answer gateway _ _ =>
      some (sessionReply db student order gateway)
  | _, _ => none

def purchaseReplies : ℕ → Shop → List (ℕ × ShopAction) → List CheckoutResult :=
  replies shopAdvance purchaseReply

theorem openCheckout_snd (gateway : Gateway) (db : Db) (order : Order) (student : Student) :
    (openCheckout gateway db order student).2 = sessionReply db student order gateway := by
  unfold openCheckout sessionReply
  cases checkoutRequest db order student with
  | none => rfl
  | some request =>
      dsimp only
      cases gateway.createSession request with
      | error e => cases e <;> rfl
      | ok checkoutUrl => rfl

theorem purchaseReply_commit (db : Db) (phase : ShopPhase) :
    purchaseReply db phase .commit = none := by
  cases phase <;> rfl

/-- A purchase answers once, before it commits. -/
theorem session_replies (db : Db) (student : Student) (order : Order) (gateway : Gateway)
    (now : Instant) (keys : KeyPair) :
    soloReplies shopAdvance purchaseReply db (.session student order)
        [.answer gateway now keys, .commit] =
      [(openCheckout gateway db order student).2] := by
  rw [openCheckout_snd, soloReplies, soloReplies, soloReplies, purchaseReply_commit]
  rfl

/-- **Undisturbed, a purchase answers what `create_order` returns.** -/
theorem create_alone_replies (w : Shop) (t : ℕ) (hidle : w.threads t = .idle)
    (gateway : Gateway) (tranId : Text) (createdAt : Instant) (student : Student)
    (payload : OrderCreate) (now : Instant) (keys : KeyPair) :
    purchaseReplies t w ([.create student payload, .insert tranId createdAt, .read,
        .answer gateway now keys, .commit].map (Prod.mk t)) =
      [(createOrder gateway tranId createdAt student payload w.store).2] := by
  rw [purchaseReplies, replies_solo, hidle, soloReplies]
  generalize w.store = db
  simp only [purchaseReply, shopAdvance, shopStart, createOrder]
  cases createRead db student payload with
  | refuse statusCode detail => rfl
  | reopen existing => exact session_replies db student existing gateway now keys
  | insert product =>
      rw [soloReplies]
      simp only [purchaseReply, shopAdvance]
      cases hins : db.insertOrder (newOrder db student payload product tranId createdAt) with
      | some db' =>
          simp only
          rw [soloReplies]
          simp only [purchaseReply, shopAdvance, find_inserted hins]
          exact session_replies db' student _ gateway now keys
      | none =>
          simp only
          rw [soloReplies]
          simp only [purchaseReply, shopAdvance]
          cases db.orderByIdempotencyKey payload.idempotencyKey <;> rfl

/-! ## §2  Losing the race, or coming late -/

/-- The same execution, not begun. -/
def Shop.notBegun (w : Shop) (t : ℕ) : Shop :=
  { w with threads := Function.update w.threads t .idle }

/-- A request that lost the race for its key answers, whatever happens from
here on, as the same request would that only starts now. -/
def AnsweredAsLate (w : Shop) (step : ℕ × ShopAction) : Prop :=
  ∀ student payload, w.threads step.1 = .reread student payload.idempotencyKey →
    step.2 = .read →
    ∀ rest, purchaseReplies step.1 w (step :: rest) =
      purchaseReplies step.1 (w.notBegun step.1) ((step.1, .create student payload) :: rest)

/-- A request whose insert was refused goes on to look up who holds its key. -/
def LosesRace (w : Shop) (step : ℕ × ShopAction) : Prop :=
  ∃ student key, w.threads step.1 = .reread student key ∧ step.2 = .read

/-- The insert of a new order is refused. -/
def InsertRefused (w : Shop) (step : ℕ × ShopAction) : Prop :=
  ∃ student payload product tranId createdAt,
    w.threads step.1 = .insert student payload product ∧ step.2 = .insert tranId createdAt ∧
      w.store.insertOrder (newOrder w.store student payload product tranId createdAt) = none

section
variable {w : Shop} {t : ℕ} {student : Student} {key : Text} {payload : OrderCreate}

theorem purchaseReply_reread (db : Db) (student : Student) (key : Text) :
    ∃ e, purchaseReply db (.reread student key) .read = some (.crashed e) := by
  simp only [purchaseReply]
  cases db.orderByIdempotencyKey key with
  | none => exact ⟨_, rfl⟩
  | some winner => exact ⟨_, rfl⟩

/-- Whoever loses the race is answered with an exception. -/
theorem loser_crashes (hlost : w.threads t = .reread student key) (rest : List (ℕ × ShopAction)) :
    ∃ e, (purchaseReplies t w ((t, .read) :: rest)).head? = some (.crashed e) := by
  obtain ⟨e, hreply⟩ := purchaseReply_reread w.store student key
  refine ⟨e, ?_⟩
  rw [purchaseReplies, replies_cons_self, hlost, hreply]
  rfl

theorem purchaseReply_create (db : Db) (student : Student) (payload : OrderCreate) :
    purchaseReply db .idle (.create student payload) = none ∨ ∃ statusCode detail,
      purchaseReply db .idle (.create student payload) = some (.refused statusCode detail) := by
  simp only [purchaseReply]
  cases createRead db student payload with
  | refuse statusCode detail => exact Or.inr ⟨statusCode, detail, rfl⟩
  | reopen existing => exact Or.inl rfl
  | insert product => exact Or.inl rfl

/-- Whoever comes late is refused, or waits for what comes next. -/
theorem late_waits_or_refused (w : Shop) (t : ℕ) (student : Student) (payload : OrderCreate) :
    purchaseReplies t (w.notBegun t) [(t, .create student payload)] = [] ∨
      ∃ statusCode detail, purchaseReplies t (w.notBegun t) [(t, .create student payload)] =
        [.refused statusCode detail] := by
  have hidle : (w.notBegun t).threads t = .idle := Function.update_self ..
  rw [purchaseReplies, replies_cons_self, hidle]
  rcases purchaseReply_create (w.notBegun t).store student payload with
    hwaits | ⟨statusCode, detail, hrefused⟩
  · rw [hwaits]
    exact Or.inl rfl
  · rw [hrefused]
    exact Or.inr ⟨statusCode, detail, rfl⟩

end

/-- Nobody who loses the race is answered as one who comes late. -/
theorem answeredAsLate_iff (w : Shop) (step : ℕ × ShopAction) :
    AnsweredAsLate w step ↔ ¬ LosesRace w step := by
  obtain ⟨t, action⟩ := step
  constructor
  · rintro hlate ⟨student, key, hlost, haction⟩
    dsimp only at hlost haction
    subst haction
    let payload : OrderCreate := { productId := 0, idempotencyKey := key }
    obtain ⟨e, hcrash⟩ := loser_crashes hlost []
    rw [hlate student payload hlost rfl []] at hcrash
    rcases late_waits_or_refused w t student payload with hwaits | ⟨statusCode, detail, hrefused⟩
    · rw [hwaits] at hcrash
      cases hcrash
    · rw [hrefused] at hcrash
      cases hcrash
  · intro hnot student payload hlost haction
    exact absurd ⟨student, payload.idempotencyKey, hlost, haction⟩ hnot

/-- Only a refused insert leads to the lookup. -/
theorem not_reread_shopTurn {w : Shop} {step : ℕ × ShopAction}
    (hnone : ∀ t student key, w.threads t ≠ .reread student key)
    (haccepted : ¬ InsertRefused w step) :
    ∀ t student key, (shopTurn w step).threads t ≠ .reread student key := by
  intro t student key hlost
  by_cases ht : t = step.1
  · subst ht
    rw [shopTurn, threadStep_threads_self] at hlost
    unfold shopAdvance at hlost
    split at hlost
    · unfold shopStart at hlost
      split at hlost
      · split at hlost <;> cases hlost
      · split at hlost <;> cases hlost
      · cases hlost
      · cases hlost
    · rename_i student' payload product tranId createdAt hphase haction
      cases hins : w.store.insertOrder
          (newOrder w.store student' payload product tranId createdAt) with
      | some db' =>
          simp only [hins] at hlost
          cases hlost
      | none => exact haccepted ⟨_, _, _, _, _, hphase, haction, hins⟩
    · split at hlost <;> cases hlost
    · cases hlost
    · unfold sessionAnswered at hlost
      dsimp only at hlost
      split at hlost
      · cases hlost
      · split at hlost <;> cases hlost
    · unfold validationAnswered at hlost
      dsimp only at hlost
      split at hlost
      · cases hlost
      · split at hlost <;> cases hlost
    · unfold queryAnswered at hlost
      dsimp only at hlost
      split at hlost <;> cases hlost
    · cases hlost
    · cases hlost
    · exact hnone _ _ _ hlost
  · rw [shopTurn, threadStep_threads_of_ne ht] at hlost
    exact hnone t student key hlost

/-- While every insert is accepted, nobody loses the race. -/
theorem no_race_of_accepted {w : Shop} {steps : List (ℕ × ShopAction)}
    (hnone : ∀ t student key, w.threads t ≠ .reread student key)
    (haccepted : Throughout shopTurn (fun w step => ¬ InsertRefused w step) w steps) :
    Throughout shopTurn (fun w step => ¬ LosesRace w step) w steps := by
  have halways : Always shopTurn (fun w => ∀ t student key, w.threads t ≠ .reread student key)
      w steps :=
    always_of_throughout (fun _ _ hnone h => not_reread_shopTurn hnone h) hnone haccepted
  refine throughout_iff.mpr fun pre step post hsplit => ?_
  rintro ⟨student, key, hlost, -⟩
  exact always_iff.mp halways pre (step :: post) hsplit _ _ _ hlost

/-! ## §3  Whose order a checkout is for -/

/-- The checkout a purchase answers with is for an order of its student, and
was read as not paid. -/
def ChecksOutOwnUnpaid (w : Shop) (step : ℕ × ShopAction) : Prop :=
  ∀ out, purchaseReply w.store (w.threads step.1) step.2 = some (.checkout out) →
    ∃ student order, w.threads step.1 = .session student order ∧
      out = checkoutOut (markPending order) out.checkoutUrl ∧
      order.studentId = student.id ∧ order.status ≠ .paid ∧
      ∃ row ∈ w.store.orders, row.toOrderTerms = order.toOrderTerms

/-- Nobody pays a new order before the request that inserted it has read it
back. -/
def StillUnpaid (w : Shop) (step : ℕ × ShopAction) : Prop :=
  ∀ student id order, w.threads step.1 = .refresh student id → step.2 = .read →
    (w.store.orders.find fun o => o.id == id) = some order → order.status ≠ .paid

def OneOrderPerKey (db : Db) : Prop :=
  ∀ o ∈ db.orders, ∀ o' ∈ db.orders, o.idempotencyKey = o'.idempotencyKey → o = o'

/-- The `idempotency_key` column is UNIQUE. -/
theorem oneOrderPerKey (db : Db) : OneOrderPerKey db := by
  intro o ho o' ho' hkey
  exact db.orders.eq_of_clash ho ho' (Order.clash_iff.mpr (Or.inl (Or.inr hkey)))

/-- An execution that opens a checkout does so for an unpaid order of its
student; one that is about to read back its new order will find its own. -/
def ShopPhase.Own (db : Db) : ShopPhase → Prop
  | .refresh student id => ∃ terms, db.HasTerms terms ∧ terms.id = id ∧
      terms.studentId = student.id
  | .session student order =>
      order.studentId = student.id ∧ order.status ≠ .paid ∧ db.HasTerms order.toOrderTerms
  | _ => True

theorem ShopPhase.Own.mono {db db' : Db}
    (hkept : ∀ terms, db.HasTerms terms → db'.HasTerms terms) {phase : ShopPhase}
    (h : phase.Own db) : phase.Own db' := by
  cases phase with
  | refresh student id =>
      obtain ⟨terms, hterms, hid, hstudent⟩ := h
      exact ⟨terms, hkept _ hterms, hid, hstudent⟩
  | session student order => exact ⟨h.1, h.2.1, hkept _ h.2.2⟩
  | idle | insert | reread | validation | loop | commit => trivial

/-- Only a purchase that finds an order opens a checkout at once. -/
theorem own_shopStart (db : Db) (action : ShopAction) : (shopStart db action).Own db := by
  cases action with
  | create student payload =>
      simp only [shopStart]
      cases hread : createRead db student payload with
      | refuse | insert => trivial
      | reopen existing =>
          obtain ⟨hmem, -, hstudent, hunpaid⟩ := createRead_reopen hread
          exact ⟨hstudent, hunpaid, existing, hmem, rfl⟩
  | report fields =>
      simp only [shopStart]
      cases settleRead db fields <;> trivial
  | reconcile | insert | read | answer | commit => trivial

/-- **One step**: a purchase only has to be granted that the new order it reads
back is unpaid. -/
theorem own_shopAdvance {db : Db} {phase : ShopPhase} {action : ShopAction}
    (hown : phase.Own db)
    (hunpaid : ∀ student id order, phase = .refresh student id → action = .read →
      (db.orders.find fun o => o.id == id) = some order → order.status ≠ .paid) :
    (shopAdvance db phase action).2.Own (shopAdvance db phase action).1 := by
  unfold shopAdvance
  split
  · exact own_shopStart db _
  · rename_i student payload product tranId createdAt
    cases hins : db.insertOrder (newOrder db student payload product tranId createdAt) with
    | some db' =>
        simp only [hins]
        obtain ⟨orders, horders, rfl⟩ := Db.insertOrder_eq_some hins
        exact ⟨_, ⟨_, (Table.mem_of_insert horders).mpr (Or.inr rfl), rfl⟩, rfl, rfl⟩
    | none =>
        simp only [hins]
        trivial
  · rename_i student id
    split
    · rename_i order hfind
      obtain ⟨terms, ⟨row, hrow, rfl⟩, rfl, hstudent⟩ := hown
      obtain ⟨hmem, hid⟩ := Table.mem_of_find hfind
      obtain rfl : order = row := Db.order_ext hmem hrow (beq_iff_eq.mp hid)
      exact ⟨hstudent, hunpaid student _ order rfl rfl hfind, order, hmem, rfl⟩
    · trivial
  · trivial
  · rename_i student order gateway now keys
    show (sessionAnswered db student order gateway).Own db
    unfold sessionAnswered
    split
    · trivial
    · split <;> trivial
  · rename_i order valId gateway now keys
    show (validationAnswered db order valId gateway now keys).Own db
    unfold validationAnswered
    split
    · trivial
    · split <;> trivial
  · rename_i now order left pass gateway now' keys
    show (queryAnswered db now order left pass gateway keys).Own db
    unfold queryAnswered
    split <;> trivial
  · trivial
  · trivial
  · exact hown

/-- Every execution is about an order of its own student. -/
def EveryoneOwn (w : Shop) : Prop := ∀ t, (w.threads t).Own w.store

theorem EveryoneOwn.turn {w : Shop} {step : ℕ × ShopAction} (hown : EveryoneOwn w)
    (hunpaid : StillUnpaid w step) :
    EveryoneOwn (shopTurn w step) := by
  refine threads_ok_step (fun db phase => ShopPhase.Own db phase) hown ?_ ?_
  · rw [threadStep_threads_self]
    exact own_shopAdvance (hown step.1) hunpaid
  · intro phase hphase
    exact hphase.mono fun terms =>
      (shopAdvance_effect w.store (w.threads step.1) step.2).terms_kept

/-- Only the gateway's answer makes a checkout. -/
theorem purchaseReply_checkout {db : Db} {phase : ShopPhase} {action : ShopAction}
    {out : CheckoutOut} (h : purchaseReply db phase action = some (.checkout out)) :
    ∃ student order, phase = .session student order ∧
      out = checkoutOut (markPending order) out.checkoutUrl := by
  unfold purchaseReply at h
  split at h
  · split at h <;> cases h
  · split at h <;> cases h
  · split at h <;> cases h
  · rename_i student order gateway now keys
    refine ⟨student, order, rfl, ?_⟩
    unfold sessionReply at h
    split at h
    · cases h
    · split at h
      · cases h
      · cases h
      · obtain rfl := CheckoutResult.checkout.inj (Option.some.inj h)
        rfl
  · cases h

theorem EveryoneOwn.checksOut {w : Shop} (hown : EveryoneOwn w) (step : ℕ × ShopAction) :
    ChecksOutOwnUnpaid w step := by
  intro out hreply
  obtain ⟨student, order, hphase, hout⟩ := purchaseReply_checkout hreply
  have hsession := hown step.1
  rw [hphase] at hsession
  obtain ⟨hstudent, hunpaid, hterms⟩ := hsession
  exact ⟨student, order, hphase, hout, hstudent, hunpaid, hterms⟩

/-- Both requests of the student find the key unused; the order of the first is
stored. -/
def doubleTap : List (ℕ × ShopAction) :=
  [(0, .create rider { productId := 1, idempotencyKey := "first".toList }),
    (1, .create rider { productId := 1, idempotencyKey := "first".toList }),
    (0, .insert "UT-1".toList 0), (1, .insert "UT-2".toList 0)]

/-- The second request goes on undisturbed. -/
def secondGoesOn : List (ℕ × ShopAction) := [(1, .answer oneGateway 0 riderKeys), (1, .commit)]

end UniTrack
