import UniTrack.Payments.Interleaving
import UniTrack.Repositories.Commerce

/-!
# Told that the payment went through

The browser that comes back from the gateway is told how the payment ended, and
so is the gateway that reports it. Whoever is told that it went through can
count on the ticket: it is in the wallet of the student who placed the order,
whatever else the shop has done meanwhile and whatever it does afterwards.
-/

namespace UniTrack

open UniTrack.Framework UniTrack.Python UniTrack.Sslcommerz

/-! ## §1  Executions that answer -/

/-- What `_settle` answers once it has committed. -/
inductive Verdict where
  | closed (order : Order)
  | judged (order order' : Order) (grants : List TicketGrant) (outcome : Outcome)

def Verdict.answer (db : Db) : Verdict → SettleResult
  | .closed order => .settled order order.status.value
  | .judged order order' grants outcome => (settleCommit db order order' grants outcome).2

/-- An execution, and its verdict if it is a report about to commit. -/
structure Execution where
  phase : ShopPhase := .idle
  verdict : Option Verdict := none

/-- The verdict that a step comes to. -/
def verdictOf (db : Db) : ShopPhase → ShopAction → Option Verdict
  | .idle, .report fields =>
      match settleRead db fields with
      | .close _ closed => some (.closed closed)
      | _ => none
  | .validation order valId, .answer gateway now keys =>
      match gateway.validate valId with
      | .error _ => none
      | .ok validation =>
          match settleValidated db now keys order valId validation with
          | .error _ => none
          | .ok (order', grants, outcome) => some (.judged order order' grants outcome)
  | _, _ => none

/-- A verdict stands until the commit. -/
def standing (old new : Option Verdict) : ShopPhase → Option Verdict
  | .commit _ => new.or old
  | _ => none

def tellAdvance (db : Db) (e : Execution) (action : ShopAction) : Db × Execution :=
  let moved := shopAdvance db e.phase action
  (moved.1, ⟨moved.2, standing e.verdict (verdictOf db e.phase action) moved.2⟩)

/-- What `_settle` answers in this step, if the step is its last. -/
def told (db : Db) (e : Execution) (action : ShopAction) : Option SettleResult :=
  match e.phase, action with
  | .idle, .report fields =>
      match settleRead db fields with
      | .refuse statusCode detail => some (.refused statusCode detail)
      | .alreadyPaid order => some (.settled order "paid")
      | _ => none
  | .validation order valId, .answer gateway now keys =>
      match gateway.validate valId with
      | .error (.uncaught error) => some (.crashed error)
      | .error (.gateway _) =>
          some (.refused 502 "Could not confirm payment, check your wallet later")
      | .ok validation =>
          match settleValidated db now keys order valId validation with
          | .error error => some (.crashed error)
          | .ok _ => none
  | .commit _, .commit => e.verdict.map (Verdict.answer db)
  | _, _ => none

abbrev Till := World Db Execution

def tellTurn : Till → ℕ × ShopAction → Till := threadStep tellAdvance

def Till.opening (products : List TicketProduct) (users : List User) : Till where
  store := Db.opening products users
  threads _ := {}

/-- The answer that a step of the shop gives. -/
def Till.told (w : Till) (turn : ℕ × ShopAction) : Option SettleResult :=
  UniTrack.told w.store (w.threads turn.1) turn.2

/-- **Undisturbed, a report is `_settle`**: it leaves the database as `_settle`
does, and answers what `_settle` answers. -/
theorem report_alone (db : Db) (gateway : Gateway) (now : Instant) (keys : KeyPair)
    (fields : Form) :
    solo tellAdvance db {} [.report fields, .answer gateway now keys, .commit] =
        ((settle gateway now keys fields db).1, {}) ∧
      soloReplies tellAdvance told db {} [.report fields, .answer gateway now keys, .commit] =
        [(settle gateway now keys fields db).2] := by
  simp only [solo_cons, solo_nil, soloReplies, tellAdvance, shopAdvance, shopStart, settle, told,
    verdictOf]
  cases hread : settleRead db fields with
  | refuse statusCode detail => exact ⟨rfl, rfl⟩
  | alreadyPaid order => exact ⟨rfl, rfl⟩
  | close order closed =>
      obtain ⟨-, status, -, rfl⟩ := settleRead_close hread
      have hflush := db.flush_status order status
      refine ⟨?_, rfl⟩
      show (db.flushed { writes := [(order, { order with status := status })] }, _) = _
      rw [Db.flushed_of_ok hflush]
      rfl
  | validate order valId =>
      simp only [validationAnswered]
      cases gateway.validate valId with
      | error e => cases e <;> exact ⟨rfl, rfl⟩
      | ok validation =>
          simp only
          cases settleValidated db now keys order valId validation with
          | error e => exact ⟨rfl, rfl⟩
          | ok result =>
              obtain ⟨order', grants, outcome⟩ := result
              simp only [settleCommit_fst]
              exact ⟨rfl, rfl⟩

/-! ## §2  Whom a ticket is owed to -/

/-- The ticket is for this order: its student, its product. -/
def TicketGrant.IsFor (grant : TicketGrant) (terms : OrderTerms) : Prop :=
  grant.orderId = terms.id ∧ grant.studentId = terms.studentId ∧
    grant.productId = terms.productId

/-- The ticket is for a stored order. -/
def Db.Owes (db : Db) (grant : TicketGrant) : Prop :=
  ∃ terms, db.HasTerms terms ∧ grant.IsFor terms

theorem Db.hasTerms_of_mem {db : Db} {order : Order} (h : order ∈ db.orders) :
    db.HasTerms order.toOrderTerms := ⟨order, h, rfl⟩

/-- Terms with one id are the same terms. -/
theorem Db.HasTerms.unique {db : Db} {terms terms' : OrderTerms} (h : db.HasTerms terms)
    (h' : db.HasTerms terms') (hid : terms.id = terms'.id) : terms = terms' := by
  obtain ⟨row, hrow, rfl⟩ := h
  obtain ⟨row', hrow', rfl⟩ := h'
  rw [Db.order_ext hrow hrow' hid]

theorem issueTicket_isFor {db : Db} {pending : UnitOfWork} {now : Instant} {keys : KeyPair}
    {order : Order} {grant : TicketGrant}
    (h : issueTicket db pending now keys order = .ok grant) : grant.IsFor order.toOrderTerms := by
  obtain ⟨-, product, ⟨hproduct, -⟩, rfl⟩ := issueTicket_eq_ok.mp h
  have hid : product.id = order.productId := beq_iff_eq.mp
    (List.find?_some (p := fun p : TicketProduct => p.id == order.productId) hproduct)
  exact ⟨rfl, rfl, hid⟩

theorem applyValidation_isFor {db : Db} {pending : UnitOfWork} {now : Instant} {keys : KeyPair}
    {order order' : Order} {validation : Validation} {grants : List TicketGrant}
    {outcome : Outcome}
    (h : applyValidation db pending now keys order validation = .ok (order', grants, outcome)) :
    ∀ grant ∈ grants, grant.IsFor order.toOrderTerms := by
  simp only [applyValidation] at h
  split at h
  · cases h
    exact fun _ hgrant => absurd hgrant List.not_mem_nil
  · split at h
    · cases h
    · cases h
      exact fun _ hgrant => absurd hgrant List.not_mem_nil
    · split at h
      · cases h
        exact fun _ hgrant => absurd hgrant List.not_mem_nil
      · split at h
        · cases h
        · rename_i grant hgrant
          cases h
          intro g hg
          rw [List.mem_singleton.mp hg]
          exact issueTicket_isFor hgrant

theorem reconcileOrder_isFor {db : Db} {now : Instant} {keys : KeyPair} {pass pass' : Pass}
    {order : Order} {answer : Except Failure (List Element)}
    (h : reconcileOrder db now keys pass order answer = .ok pass') :
    ∀ grant ∈ pass'.grants, grant ∈ pass.grants ∨ grant.IsFor order.toOrderTerms := by
  unfold reconcileOrder at h
  dsimp only at h
  split at h
  · cases h
  · cases h
    exact fun _ hgrant => Or.inl hgrant
  · split at h
    · cases h
    · split at h
      · cases h
        exact fun _ hgrant => Or.inl hgrant
      · cases h
        exact fun _ hgrant => Or.inl hgrant
    · split at h
      · cases h
      · rename_i happly
        cases h
        intro grant hgrant
        exact (List.mem_append.mp hgrant).imp_right (applyValidation_isFor happly grant)

/-- The orders that an execution may still settle are stored, and the tickets
it is going to insert are owed. -/
def ShopPhase.Owing (db : Db) : ShopPhase → Prop
  | .validation order _ => db.HasTerms order.toOrderTerms
  | .loop _ left pass =>
      (∀ o ∈ left, db.HasTerms o.toOrderTerms) ∧ ∀ grant ∈ pass.grants, db.Owes grant
  | .commit work => ∀ grant ∈ work.grants, db.Owes grant
  | _ => True

theorem Db.Owes.mono {db db' : Db} (hkept : ∀ terms, db.HasTerms terms → db'.HasTerms terms)
    {grant : TicketGrant} (h : db.Owes grant) : db'.Owes grant := by
  obtain ⟨terms, hterms, hfor⟩ := h
  exact ⟨terms, hkept terms hterms, hfor⟩

theorem ShopPhase.Owing.mono {db db' : Db}
    (hkept : ∀ terms, db.HasTerms terms → db'.HasTerms terms) {phase : ShopPhase}
    (h : phase.Owing db) : phase.Owing db' := by
  cases phase with
  | idle | insert | refresh | reread | session => trivial
  | validation order valId => exact hkept _ h
  | loop now left pass =>
      exact ⟨fun o ho => hkept _ (h.1 o ho), fun grant hgrant => (h.2 grant hgrant).mono hkept⟩
  | commit work => exact fun grant hgrant => (h grant hgrant).mono hkept

theorem ShopPhase.Owing.pending {db : Db} {phase : ShopPhase} (h : phase.Owing db)
    {work : UnitOfWork} (hpending : phase.pending = some work) :
    ∀ grant ∈ work.grants, db.Owes grant := by
  unfold ShopPhase.pending at hpending
  split at hpending
  · cases hpending
    exact h.2
  · cases hpending
    exact h
  · cases hpending

theorem shopStart_owing (db : Db) (action : ShopAction) : (shopStart db action).Owing db := by
  unfold shopStart
  split
  · split <;> trivial
  · split
    · trivial
    · trivial
    · exact fun _ hgrant => absurd hgrant List.not_mem_nil
    · rename_i order valId hread
      exact Db.hasTerms_of_mem (settleRead_validate hread).1.1
  · refine ⟨fun o ho => Db.hasTerms_of_mem (mem_of_mem_unsettled ho).1, ?_⟩
    exact fun _ hgrant => absurd hgrant List.not_mem_nil
  · trivial

theorem shopAdvance_owing {db : Db} {phase : ShopPhase} (h : phase.Owing db)
    (action : ShopAction) :
    (shopAdvance db phase action).2.Owing (shopAdvance db phase action).1 := by
  unfold shopAdvance
  split
  · exact shopStart_owing db _
  · rename_i student payload product tranId createdAt
    cases hins : db.insertOrder (newOrder db student payload product tranId createdAt) with
    | some db' =>
        simp only [hins]
        trivial
    | none =>
        simp only [hins]
        trivial
  · split <;> trivial
  · trivial
  · unfold sessionAnswered
    split
    · trivial
    · split
      · trivial
      · exact fun _ hgrant => absurd hgrant List.not_mem_nil
  · rename_i order valId gateway now keys
    unfold validationAnswered
    split
    · trivial
    · split
      · trivial
      · rename_i happly
        exact fun grant hgrant => ⟨_, h, applyValidation_isFor happly grant hgrant⟩
  · rename_i now order left pass gateway now' keys
    unfold queryAnswered
    split
    · trivial
    · rename_i pass' hturn
      refine ⟨fun o ho => h.1 o (List.mem_cons_of_mem _ ho), fun grant hgrant => ?_⟩
      rcases reconcileOrder_isFor hturn grant hgrant with hgrant | hfor
      · exact h.2 grant hgrant
      · exact ⟨_, h.1 order List.mem_cons_self, hfor⟩
  · trivial
  · trivial
  · exact h

/-! ## §3  What an answer rests on -/

/-- The verdict is about what the execution is going to commit. -/
def Verdict.Stands (db : Db) (phase : ShopPhase) : Verdict → Prop
  | .closed order => (∃ read, phase = .commit { writes := [(read, order)] }) ∧
      db.HasTerms order.toOrderTerms ∧ (order.status = .failed ∨ order.status = .cancelled)
  | .judged order order' grants outcome =>
      phase = .commit { writes := [(order, order')], grants := grants } ∧
      db.HasTerms order.toOrderTerms ∧ order'.toOrderTerms = order.toOrderTerms ∧
      (grants = [] ∧ outcome ≠ .paid ∨
        outcome = .paid ∧ ∃ grant, grants = [grant] ∧ grant.orderId = order.id)

def Execution.Ok (db : Db) (e : Execution) : Prop :=
  e.phase.Ok db ∧ e.phase.Owing db ∧ ∀ v, e.verdict = some v → v.Stands db e.phase

/-- A paid order has its ticket, and a ticket is for a stored order. -/
structure TillOk (w : Till) : Prop where
  threads : ∀ i, (w.threads i).Ok w.store
  ticketed : ∀ o ∈ w.store.orders, o.status = .paid → w.store.HasTicket o
  owed : ∀ t ∈ w.store.tickets, w.store.Owes t.toTicketGrant

theorem Verdict.Stands.commits {db : Db} {phase : ShopPhase} {v : Verdict}
    (h : v.Stands db phase) : ∃ work, phase = .commit work := by
  cases v with
  | closed order =>
      obtain ⟨⟨read, hphase⟩, -⟩ := h
      exact ⟨_, hphase⟩
  | judged order order' grants outcome => exact ⟨_, h.1⟩

theorem Verdict.Stands.mono {db db' : Db}
    (hkept : ∀ terms, db.HasTerms terms → db'.HasTerms terms) {phase : ShopPhase} {v : Verdict}
    (h : v.Stands db phase) : v.Stands db' phase := by
  cases v with
  | closed order => exact ⟨h.1, hkept _ h.2.1, h.2.2⟩
  | judged order order' grants outcome => exact ⟨h.1, hkept _ h.2.1, h.2.2⟩

theorem Execution.Ok.mono {db db' : Db}
    (hkept : ∀ terms, db.HasTerms terms → db'.HasTerms terms) {e : Execution} (h : e.Ok db) :
    e.Ok db' := by
  refine ⟨h.1.mono fun id hid => ?_, h.2.1.mono hkept, fun v hv => (h.2.2 v hv).mono hkept⟩
  obtain ⟨terms, hterms, hid⟩ := rowExists_iff.mp hid
  exact rowExists_iff.mpr ⟨terms, hkept terms hterms, hid⟩

/-- A verdict is right when it is come to. -/
theorem verdictOf_stands {db : Db} {phase : ShopPhase} {action : ShopAction} {v : Verdict}
    (h : phase.Owing db) (hv : verdictOf db phase action = some v) :
    v.Stands (shopAdvance db phase action).1 (shopAdvance db phase action).2 := by
  unfold verdictOf at hv
  split at hv
  · rename_i fields
    split at hv
    · rename_i order closed hread
      cases hv
      obtain ⟨hreported, status, hstatus, rfl⟩ := settleRead_close hread
      simp only [shopAdvance, shopStart, hread]
      refine ⟨⟨order, rfl⟩, ⟨order, hreported.1, rfl⟩, ?_⟩
      exact closingStatus_cases hstatus
    · cases hv
  · rename_i order valId gateway now keys
    split at hv
    · cases hv
    · rename_i validation hvalidation
      split at hv
      · cases hv
      · rename_i order' grants outcome happly
        cases hv
        simp only [shopAdvance, validationAnswered, hvalidation, happly]
        obtain ⟨hterms, -, hcase⟩ := applyValidation_cases happly
        refine ⟨rfl, h, hterms, ?_⟩
        rcases hcase with ⟨-, -, hgrants, houtcome⟩ | ⟨-, hgrants, houtcome, -⟩ |
          ⟨-, -, houtcome, hgrant⟩
        · refine Or.inl ⟨hgrants, fun hpaid => ?_⟩
          rw [hpaid] at houtcome
          rcases houtcome with h | h <;> cases h
        · refine Or.inl ⟨hgrants, fun hpaid => ?_⟩
          rw [hpaid] at houtcome
          cases houtcome
        · exact Or.inr ⟨houtcome, hgrant⟩
  · cases hv

/-- An execution about to commit waits for the commit. -/
theorem shopAdvance_waiting (db : Db) (work : UnitOfWork) (action : ShopAction) :
    (shopAdvance db (.commit work) action).2 = .idle ∨
      shopAdvance db (.commit work) action = (db, .commit work) := by
  cases action with
  | commit => exact Or.inl rfl
  | create | report | reconcile | insert | read | answer => exact Or.inr rfl

theorem standing_eq_some {old new : Option Verdict} {phase : ShopPhase} {v : Verdict}
    (h : standing old new phase = some v) : phase ≠ .idle ∧ (new = some v ∨ old = some v) := by
  unfold standing at h
  split at h
  · refine ⟨fun hidle => ?_, (Option.or_eq_some_iff.mp h).imp_right And.right⟩
    cases hidle
  · cases h

theorem tellAdvance_ok {db : Db} {e : Execution} (h : e.Ok db) (action : ShopAction) :
    (tellAdvance db e action).2.Ok (tellAdvance db e action).1 := by
  refine ⟨shopAdvance_ok h.1 action, shopAdvance_owing h.2.1 action, fun v hv => ?_⟩
  obtain ⟨hbusy, hnew | hold⟩ := standing_eq_some hv
  · exact verdictOf_stands h.2.1 hnew
  · have hstands := h.2.2 v hold
    obtain ⟨work, hphase⟩ := hstands.commits
    rw [hphase] at hbusy hstands
    have hstay := (shopAdvance_waiting db work action).resolve_left hbusy
    unfold tellAdvance
    rw [hphase, hstay]
    exact hstands

/-- A status turns paid only together with a ticket. -/
theorem AdvanceEffect.ticketed {db db' : Db} {phase : ShopPhase} {action : ShopAction}
    (he : AdvanceEffect db phase action db') (hok : phase.Ok db)
    (h : ∀ o ∈ db.orders, o.status = .paid → db.HasTicket o) :
    ∀ o ∈ db'.orders, o.status = .paid → db'.HasTicket o := by
  have hkept := he.tickets_kept
  cases he with
  | unchanged => exact h
  | inserted hins =>
      obtain ⟨orders, horders, rfl⟩ := Db.insertOrder_eq_some hins
      intro o ho hpaid
      rcases (Table.mem_of_insert horders).mp ho with ho | rfl
      · exact h o ho hpaid
      · cases hpaid
  | committed _ hpending hflush =>
      obtain ⟨hbalanced, -⟩ := hok.pending hpending
      obtain ⟨⟨tickets, rfl⟩, -, hticket⟩ :=
        Db.insertTickets_eq_some (Db.flush_eq_ok.mp hflush).2
      have hold : ∀ row ∈ db.orders, row.status = .paid → ∃ t ∈ tickets, t.orderId = row.id := by
        intro row hrow hpaid
        obtain ⟨t, ht, hid⟩ := h row hrow hpaid
        exact ⟨t, hkept t ht, hid⟩
      intro o ho hpaid
      rcases (Db.mem_writeOrders hbalanced.once).mp ho with
        ⟨w, hw, row, hrow, hid, rfl⟩ | ⟨ho, -⟩
      · rcases Order.patched_status_cases w.1 w.2 row with ⟨hstatus, -⟩ | ⟨hstatus, -⟩
        · exact hold row hrow (hstatus ▸ hpaid)
        · obtain ⟨grant, hgrant, hgid⟩ :=
            (hbalanced.grant_iff w.1.id).mpr ⟨w, hw, rfl, hstatus ▸ hpaid⟩
          exact (hticket row.id).mpr (Or.inr ⟨grant, hgrant, hgid.trans hid.symm⟩)
      · exact hold o ho hpaid

theorem AdvanceEffect.owed {db db' : Db} {phase : ShopPhase} {action : ShopAction}
    (he : AdvanceEffect db phase action db') (howing : phase.Owing db)
    (h : ∀ t ∈ db.tickets, db.Owes t.toTicketGrant) :
    ∀ t ∈ db'.tickets, db'.Owes t.toTicketGrant := by
  have hkept : ∀ terms, db.HasTerms terms → db'.HasTerms terms := fun _ => he.terms_kept
  cases he with
  | unchanged => exact h
  | inserted hins =>
      obtain ⟨orders, -, rfl⟩ := Db.insertOrder_eq_some hins
      exact fun t ht => (h t ht).mono hkept
  | committed _ hpending hflush =>
      intro t ht
      rcases Db.mem_of_insertTickets (Db.flush_eq_ok.mp hflush).2 ht with ht | hgrant
      · rw [Db.writeOrders_tickets] at ht
        exact (h t ht).mono hkept
      · exact (howing.pending hpending _ hgrant).mono hkept

theorem tellTurn_effect (w : Till) (turn : ℕ × ShopAction) :
    AdvanceEffect w.store (w.threads turn.1).phase turn.2 (tellTurn w turn).store :=
  shopAdvance_effect w.store (w.threads turn.1).phase turn.2

theorem TillOk.turn {w : Till} (h : TillOk w) (turn : ℕ × ShopAction) :
    TillOk (tellTurn w turn) := by
  have he := tellTurn_effect w turn
  refine ⟨?_, he.ticketed (h.threads turn.1).1 h.ticketed,
    he.owed (h.threads turn.1).2.1 h.owed⟩
  refine threads_ok_step (fun db e => Execution.Ok db e) h.threads ?_ ?_
  · rw [threadStep_threads_self]
    exact tellAdvance_ok (h.threads turn.1) turn.2
  · exact fun e he' => he'.mono fun _ => he.terms_kept

theorem tillOk_opening (products : List TicketProduct) (users : List User) :
    TillOk (Till.opening products users) where
  threads _ := ⟨trivial, trivial, fun _ hv => by cases hv⟩
  ticketed o ho := absurd ho (Table.not_mem_empty o)
  owed t ht := absurd ht (Table.not_mem_empty t)

/-! ## §4  Answers -/

/-- The order of an answer is stored, and an answer that calls it paid leaves
it with a ticket. -/
def AnswerHolds (db : Db) (order : Order) (outcome : String) : Prop :=
  db.HasTerms order.toOrderTerms ∧ (outcome = "paid" → db.HasTicket order)

/-- All the ways a payment ends. -/
def settleOutcomes : List String :=
  ["paid", "failed", "cancelled", "amount_mismatch", "under_review"]

theorem Outcome.eq_paid {outcome : Outcome} (h : outcome.value = "paid") : outcome = .paid := by
  revert h
  cases outcome <;> decide

/-- A report that is answered has committed what it says. -/
theorem settleCommit_holds {db : Db} {order order' result : Order} {grants : List TicketGrant}
    {outcome : Outcome} {said : String} {phase : ShopPhase}
    (h : (Verdict.judged order order' grants outcome).Stands db phase)
    (hsaid : (settleCommit db order order' grants outcome).2 = .settled result said) :
    result.toOrderTerms = order.toOrderTerms ∧ said ∈ settleOutcomes ∧
      (said = "paid" → ∃ t ∈ (settleCommit db order order' grants outcome).1.tickets,
        t.orderId = order.id) := by
  obtain ⟨-, -, hterms, hgrants⟩ := h
  unfold settleCommit at hsaid ⊢
  cases hflush : db.flush { writes := [(order, order')], grants := grants } with
  | error e =>
      simp only [hflush] at hsaid
      split at hsaid
      · cases hsaid
      · cases e <;> cases hsaid
  | ok db' =>
      simp only [hflush] at hsaid ⊢
      split at hsaid
      · cases hsaid
      · rename_i hmatch
        cases hsaid
        rw [if_neg hmatch]
        refine ⟨hterms, by cases outcome <;> decide, fun hpaid => ?_⟩
        rcases hgrants with ⟨rfl, hunpaid⟩ | ⟨-, grant, rfl, hgrant⟩
        · exact absurd (Outcome.eq_paid hpaid) hunpaid
        · obtain ⟨-, -, hticket⟩ := Db.insertTickets_eq_some (Db.flush_eq_ok.mp hflush).2
          exact (hticket order.id).mpr (Or.inr ⟨grant, List.mem_cons_self, hgrant⟩)

/-- **An answer holds when it is given.** -/
theorem answerHolds_of_told {w : Till} (h : TillOk w) {turn : ℕ × ShopAction} {order : Order}
    {outcome : String} (htold : w.told turn = some (.settled order outcome)) :
    outcome ∈ settleOutcomes ∧ AnswerHolds (tellTurn w turn).store order outcome := by
  have heffect := tellTurn_effect w turn
  obtain ⟨i, action⟩ := turn
  obtain ⟨-, -, hstands⟩ := h.threads i
  have hstep : (tellTurn w (i, action)).store =
      (shopAdvance w.store (w.threads i).phase action).1 := rfl
  unfold Till.told UniTrack.told at htold
  dsimp only at htold
  split at htold
  · -- the order was paid before
    rename_i fields hphase
    split at htold
    · cases htold
    · rename_i order hread
      cases htold
      obtain ⟨hmem, hpaid⟩ := settleRead_alreadyPaid hread
      have hterms := heffect.terms_kept (Db.hasTerms_of_mem hmem)
      obtain ⟨t, ht, hid⟩ := h.ticketed order hmem hpaid
      exact ⟨by decide, hterms, fun _ => ⟨t, heffect.tickets_kept t ht, hid⟩⟩
    · cases htold
  · split at htold
    · cases htold
    · cases htold
    · split at htold <;> cases htold
  · rename_i work hphase
    obtain ⟨v, hv, hanswer⟩ := Option.map_eq_some_iff.mp htold
    have hv' := hstands v hv
    cases v with
    | closed closed =>
        cases hanswer
        obtain ⟨-, hterms, hstatus⟩ := hv'
        have hterms' := heffect.terms_kept hterms
        rcases hstatus with hstatus | hstatus
        · rw [hstatus]
          exact ⟨by decide, hterms', fun hpaid => absurd hpaid (by decide)⟩
        · rw [hstatus]
          exact ⟨by decide, hterms', fun hpaid => absurd hpaid (by decide)⟩
    | judged read order' grants' verdict =>
        have hsaid := settleCommit_holds hv' hanswer
        obtain ⟨hphase', hterms, -⟩ := hv'
        obtain ⟨hresult, houtcome, hticket⟩ := hsaid
        have hstore : (tellTurn w (i, .commit)).store =
            (settleCommit w.store read order' grants' verdict).1 := by
          rw [settleCommit_fst, hstep, hphase']
          rfl
        have hterms' := heffect.terms_kept hterms
        rw [hstore] at hterms' ⊢
        refine ⟨houtcome, hresult ▸ hterms', fun hpaid => ?_⟩
        obtain ⟨t, ht, hid⟩ := hticket hpaid
        exact ⟨t, ht, hid.trans (congrArg OrderTerms.id hresult).symm⟩
  · cases htold

/-- Nothing takes back what an answer rests on. -/
theorem AnswerHolds.turn {w : Till} {order : Order} {outcome : String}
    (h : AnswerHolds w.store order outcome) (turn : ℕ × ShopAction) :
    AnswerHolds (tellTurn w turn).store order outcome := by
  have heffect := tellTurn_effect w turn
  refine ⟨heffect.terms_kept h.1, fun hpaid => ?_⟩
  obtain ⟨t, ht, hid⟩ := h.2 hpaid
  exact ⟨t, heffect.tickets_kept t ht, hid⟩

/-- The ticket of an order is its student's, and for its product. -/
theorem TillOk.isFor {w : Till} (h : TillOk w) {order : Order}
    (horder : w.store.HasTerms order.toOrderTerms) {t : Ticket} (ht : t ∈ w.store.tickets)
    (hid : t.orderId = order.id) : t.IsFor order.toOrderTerms := by
  obtain ⟨terms, hterms, hfor⟩ := h.owed t ht
  have hsame := hterms.unique horder (hfor.1.symm.trans hid)
  exact hsame ▸ hfor

/-! ## §5  What the browser and the gateway are told -/

/-- The order that the page the browser comes to calls paid. -/
def ReturnReply.paidOrder : ReturnReply → Option Text
  | .redirect target =>
      if queryParameter target "status".toList = some "paid".toList then
        queryParameter target "order".toList
      else none
  | .plain orderId status => if status = "paid" then some orderId else none
  | .refused .. => none
  | .crashed _ => none

/-- A page reads the order and the outcome that it was sent. -/
theorem finish_paidOrder {u : Uuids} (hspell : ∀ id, ∀ c ∈ u.spell id, alwaysSafe c = true)
    {checkoutReturnUrl : Text} (hplain : '#' ∉ checkoutReturnUrl ∧ '?' ∉ checkoutReturnUrl)
    (order : Order) {outcome : String} (houtcome : outcome ∈ settleOutcomes) :
    (finish u checkoutReturnUrl order outcome).paidOrder =
      if outcome = "paid" then some (u.spell order.id) else none := by
  unfold finish
  split
  · have hnames : ("order".toList.all alwaysSafe && "status".toList.all alwaysSafe) = true := by
      decide
    have houtcomes : settleOutcomes.all (fun o => o.toList.all alwaysSafe && o.toList != []) =
        true := by decide
    have hvalue := List.all_eq_true.mp houtcomes outcome houtcome
    rw [Bool.and_eq_true, bne_iff_ne] at hvalue
    rw [Bool.and_eq_true] at hnames
    have hsafe : SafeFields [("order".toList, u.spell order.id),
        ("status".toList, outcome.toList)] := by
      intro field hfield
      simp only [List.mem_cons, List.not_mem_nil, or_false] at hfield
      rcases hfield with rfl | rfl
      · exact ⟨List.all_eq_true.mp hnames.1, hspell order.id, u.spell_ne_nil order.id⟩
      · exact ⟨List.all_eq_true.mp hnames.2, List.all_eq_true.mp hvalue.1, hvalue.2⟩
    have htarget : rstripSlash checkoutReturnUrl ++ "?order=".toList ++ u.spell order.id ++
        "&status=".toList ++ outcome.toList = rstripSlash checkoutReturnUrl ++
          '?' :: pasted [("order".toList, u.spell order.id),
            ("status".toList, outcome.toList)] := by
      simp only [pasted, join, List.map_cons, List.map_nil, List.intercalate_cons_cons,
        List.intercalate_singleton, List.append_assoc]
      rfl
    have hread := queryParameter_pasted hsafe
      (fun h => hplain.1 (mem_of_mem_rstripSlash h))
      (fun h => hplain.2 (mem_of_mem_rstripSlash h)) (List.cons_ne_nil _ _)
    have hstatus : List.lookup "status".toList [("order".toList, u.spell order.id),
        ("status".toList, outcome.toList)] = some outcome.toList := rfl
    have horder : List.lookup "order".toList [("order".toList, u.spell order.id),
        ("status".toList, outcome.toList)] = some (u.spell order.id) := rfl
    unfold ReturnReply.paidOrder
    rw [htarget]
    dsimp only
    rw [hread, hread, hstatus, horder]
    simp only [Option.some.injEq, String.toList_inj]
  · rfl

/-- **Who is told that it is paid has the ticket.** Whatever purchases, reports
and passes the shop runs at the same time: when `_settle` answers that an order
is paid, the page that the browser is sent to and the answer to the gateway say
so of this order, they say so of no other outcome, and the ticket of the order
is in the wallet of its student from then on. -/
theorem told_paid_is_in_the_wallet (products : List TicketProduct) (users : List User)
    {u : Uuids} (hspell : ∀ id, ∀ c ∈ u.spell id, alwaysSafe c = true)
    (checkoutReturnUrl : Text) (hplain : '#' ∉ checkoutReturnUrl ∧ '?' ∉ checkoutReturnUrl)
    (before : List (ℕ × ShopAction)) (turn : ℕ × ShopAction) {order : Order} {outcome : String}
    (htold : (run tellTurn (Till.opening products users) before).told turn =
      some (.settled order outcome)) :
    (handleReturn u checkoutReturnUrl (.settled order outcome)).paidOrder =
        (if outcome = "paid" then some (u.spell order.id) else none) ∧
      paymentIpn (.settled order outcome) = .received outcome ∧
        ∀ after db, db = (run tellTurn (Till.opening products users)
            (before ++ turn :: after)).store →
          (∀ newest, ∃ o ∈ ordersForStudent newest db order.studentId,
              o.toOrderTerms = order.toOrderTerms) ∧
            (outcome = "paid" → ∀ createdAt newest,
              ∃ t ∈ ticketsForStudent createdAt newest db order.studentId,
                t.orderId = order.id ∧ t.productId = order.productId) := by
  have hok : ∀ turns, TillOk (run tellTurn (Till.opening products users) turns) :=
    run_of_step (fun _ turn h => h.turn turn) (tillOk_opening products users)
  obtain ⟨houtcome, hholds⟩ := answerHolds_of_told (hok before) htold
  refine ⟨finish_paidOrder hspell hplain order houtcome, rfl, ?_⟩
  rintro after db rfl
  have hrun : run tellTurn (Till.opening products users) (before ++ turn :: after) =
      run tellTurn (tellTurn (run tellTurn (Till.opening products users) before) turn) after := by
    rw [run_append, run_cons]
  have hlater : AnswerHolds
      (run tellTurn (Till.opening products users) (before ++ turn :: after)).store
      order outcome := by
    have hkept : ∀ w turn, AnswerHolds (World.store w) order outcome →
        AnswerHolds (tellTurn w turn).store order outcome := fun _ turn h => h.turn turn
    rw [hrun]
    exact run_of_step hkept hholds after
  constructor
  · obtain ⟨row, hrow, hterms⟩ := hlater.1
    exact fun newest => ⟨row, mem_ordersForStudent.mpr
      ⟨hrow, congrArg OrderTerms.studentId hterms⟩, hterms⟩
  · intro hpaid createdAt newest
    obtain ⟨t, ht, hid⟩ := hlater.2 hpaid
    obtain ⟨-, hstudent, hproduct⟩ := (hok _).isFor hlater.1 ht hid
    exact ⟨t, mem_ticketsForStudent.mpr ⟨ht, hstudent⟩, hid, hproduct⟩

/-- The IPN is answered; the failure report it raced then overwrites the status
of the order. -/
def paidReport : List (ℕ × ShopAction) :=
  [(0, .create rider { productId := 1, idempotencyKey := "first".toList }),
    (0, .insert "UT-1".toList 0), (0, .read), (0, .answer oneGateway 0 riderKeys), (0, .commit),
    (1, .report { tranId := some "UT-1".toList, status := some "FAILED".toList, valId := none }),
    (2, .report { tranId := some "UT-1".toList, status := some "VALID".toList,
                  valId := some "V1".toList }),
    (2, .answer oneGateway 60 riderKeys)]

theorem plainUuids_safe : ∀ id, ∀ c ∈ plainUuids.spell id, alwaysSafe c = true := by
  intro id c hc
  have hdigit : isDigit c = true := isDigit_of_mem_toDigits hc
  unfold alwaysSafe
  rw [hdigit]
  rfl

/-- The order as the IPN leaves it. -/
def riderOrder : Order where
  id := 0
  studentId := 1
  productId := 1
  amountPaisa := 10000
  currency := "BDT".toList
  idempotencyKey := "first".toList
  tranId := "UT-1".toList
  createdAt := 0
  status := .paid
  gatewayValId := .str "V1".toList
  rawPayload := some firstPayment
  paidAt := some 60

theorem told_paid_is_in_the_wallet_overwritten :
    let db := (run tellTurn (Till.opening [singleRide] [riderUser])
      (paidReport ++ (2, .commit) :: [(1, .commit)])).store
    (∃ t ∈ ticketsForStudent (fun _ => 0) (.stable _) db riderOrder.studentId,
        t.orderId = riderOrder.id ∧ t.productId = riderOrder.productId) ∧
      ∃ o ∈ db.orders.rows, o.id = riderOrder.id ∧ o.status = .failed := by
  have htold : (run tellTurn (Till.opening [singleRide] [riderUser]) paidReport).told
      (2, .commit) = some (.settled riderOrder "paid") := by
    decide +kernel
  have hwallet := (told_paid_is_in_the_wallet [singleRide] [riderUser] plainUuids_safe
    "https://app.example.edu/paid/".toList (by decide) paidReport (2, .commit) htold).2.2
      [(1, .commit)] _ rfl
  exact ⟨hwallet.2 rfl _ _, by decide +kernel⟩

end UniTrack
