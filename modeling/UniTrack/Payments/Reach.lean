import UniTrack.Payments.OwnPayment
import UniTrack.Payments.Pass

/-!
# Whether the reconciler can still find the money

An order with money behind it should be paid, or stay where the reconciler's
filter looks. The filter reads an empty `raw_payload` as "nobody has checked";
this module says which steps leave money behind an order that has been closed
on a checked response, and shows that without such steps no money is ever lost
sight of.
-/

namespace UniTrack

open UniTrack.Framework UniTrack.Python UniTrack.Sslcommerz

/-! ## §1  The shop and the gateway's books -/

/-- A payment as the gateway holds it: what a validation of its `val_id`
answers, and what a query of its transaction lists. -/
structure Payment where
  tranId : Text
  valId : Text
  validation : Validation
  element : Validation
deriving DecidableEq

structure Money where
  db : Db
  payments : List Payment
deriving DecidableEq

def Money.opening (products : List TicketProduct) (users : List User) : Money where
  db := Db.opening products users
  payments := []

/-- A shop call, a reconciler pass, or a change in what the gateway holds. -/
inductive MoneyEvent where
  | call (call : ShopCall)
  | pass (env : PassEnv)
  | gateway (payments : List Payment)

def moneyStep (w : Money) : MoneyEvent → Money
  | .call call => { w with db := shopStep w.db call }
  | .pass env => { w with db := (reconcileOnce env w.db).1 }
  | .gateway payments => { w with payments := payments }

/-- The gateway answers from what it holds. A `val_id` it does not know, or
whose payment has not gone through, is not a success. -/
structure AnswersFrom (payments : List Payment) (gateway : Gateway) : Prop where
  validate : ∀ valId record, gateway.validate valId = .ok record →
    (∃ p ∈ payments, p.valId = valId ∧ p.validation = record) ∨
      paymentSucceeded record = false
  query : ∀ tranId elements, gateway.queryByTranId tranId = .ok elements →
    ∀ e, e ∈ elements ↔ ∃ p ∈ payments, p.tranId = tranId ∧ some p.element = e

def Answered (w : Money) : MoneyEvent → Prop
  | .call call => AnswersFrom w.payments call.gateway
  | .pass env => AnswersFrom w.payments env.gateway
  | .gateway _ => True

/-! ## §2  Money behind an order -/

/-- The payment was made for the order's transaction, and is good for it. -/
def Payment.pays (p : Payment) (o : Order) : Prop :=
  p.tranId = o.tranId ∧ GoodPayment p.validation o.amountPaisa o.currency ∧
    GoodPayment p.element o.amountPaisa o.currency ∧ (get p.element.valId).truthy = true

def Backed (payments : List Payment) (o : Order) : Prop := ∃ p ∈ payments, p.pays o

/-- **Money is never out of reach**: an order with money behind it is paid and
has its ticket, or, once past the grace period, matches the filter. -/
def WithinReach (w : Money) : Prop :=
  ∀ o ∈ w.db.orders, Backed w.payments o →
    (o.status = .paid ∧ w.db.HasTicket o) ∨
      ∀ now, o.createdAt < now - graceS → o.selected (now - graceS) = true

/-- The order is settled, or the reconciler has not given up on it. -/
def Order.open (o : Order) : Prop := o.status = .paid ∨ o.unconfirmed = true

theorem withinReach_iff {w : Money} (h : Ledger w.db) :
    WithinReach w ↔ ∀ o ∈ w.db.orders, Backed w.payments o → o.open := by
  refine forall₂_congr fun o ho => imp_congr_right fun _ => or_congr ?_ ?_
  · rw [← h.paid_iff o ho, and_self]
  · constructor
    · intro hsel
      have hlate : o.createdAt < (o.createdAt + graceS + 1) - graceS := by
        rw [show (o.createdAt + graceS + 1) - graceS = o.createdAt + 1 by ring]
        exact lt_add_one o.createdAt
      exact Order.unconfirmed_of_selected (hsel _ hlate)
    · intro hun now hlate
      simp [Order.selected, hun, hlate]

theorem Order.open_of_terms {payments : List Payment} {o o' : Order}
    (hterms : o'.toOrderTerms = o.toOrderTerms) (hbacked : Backed payments o') :
    Backed payments o := by
  obtain ⟨p, hp, htran, hval, helem, hid⟩ := hbacked
  have htran' : o'.tranId = o.tranId := congrArg OrderTerms.tranId hterms
  have hamount : o'.amountPaisa = o.amountPaisa := congrArg OrderTerms.amountPaisa hterms
  have hcurrency : o'.currency = o.currency := congrArg OrderTerms.currency hterms
  rw [hamount, hcurrency] at hval helem
  exact ⟨p, hp, htran.trans htran', hval, helem, hid⟩

/-- The step leaves money behind an order that is closed on a checked
response: a refused validation of an order with money behind it, an unchecked
closing of one that has been checked before, or money that comes in for one
that is closed already. -/
def LosesSight (w : Money) : MoneyEvent → Prop
  | .call (.create ..) => False
  | .call (.report gateway _ _ fields) => ∃ o, Reported w.db fields o ∧ Backed w.payments o ∧
      ((closingStatus fields ≠ none ∧ o.rawPayload ≠ none) ∨
        ∃ validation, Validated gateway fields w.db o validation ∧ RefusedPayment validation o)
  | .pass env => ∃ o ∈ passBatch w.db env, Backed w.payments o ∧
      ∃ element, Found env o element ∧ RefusedPayment element o
  | .gateway payments => ∃ o ∈ w.db.orders, Backed payments o ∧ ¬ o.open

/-! ## §3  One step -/

/-- Rewriting one order keeps the rest open; so does leaving it open itself. -/
theorem open_writeOrder {db : Db} {payments : List Payment} {old new : Order}
    (hopen : ∀ o ∈ db.orders, Backed payments o → o.open) (hold : old ∈ db.orders)
    (hterms : new.toOrderTerms = old.toOrderTerms)
    (hnew : Backed payments old → new.open) :
    ∀ o ∈ (db.writeOrder old new).orders, Backed payments o → o.open := by
  intro o ho hbacked
  rcases (Db.mem_writeOrder_current hold hterms).mp ho with rfl | ⟨ho, -⟩
  · exact hnew (Order.open_of_terms hterms hbacked)
  · exact hopen o ho hbacked

theorem Order.open_of_pending {o : Order} (h : o.status = .pending) : o.open :=
  Or.inr (by simp [Order.unconfirmed, h])

theorem Order.open_of_unchecked {o : Order} (hstatus : o.status = .failed ∨ o.status = .cancelled)
    (hpayload : o.rawPayload = none) : o.open :=
  Or.inr (by rcases hstatus with h | h <;> simp [Order.unconfirmed, h, hpayload])

theorem open_create {db db' : Db} {payments : List Payment} {tranId : Text}
    {createdAt : Instant} {student : Student} {payload : OrderCreate}
    (hopen : ∀ o ∈ db.orders, Backed payments o → o.open)
    (he : CreateEffect tranId createdAt student payload db db') :
    ∀ o ∈ db'.orders, Backed payments o → o.open := by
  have hinserted : ∀ {order : Order} {db' : Db}, order.status = .initiated →
      db.insertOrder order = some db' → ∀ o ∈ db'.orders, Backed payments o → o.open := by
    intro order db' hinit hins o ho hbacked
    obtain ⟨orders, horders, rfl⟩ := Db.insertOrder_eq_some hins
    rcases (Table.mem_of_insert horders).mp ho with ho | rfl
    · exact hopen o ho hbacked
    · exact Or.inr (by simp [Order.unconfirmed, hinit])
  cases he with
  | unchanged => exact hopen
  | reopened hread =>
      exact open_writeOrder hopen (createRead_reopen hread).1 (by rfl)
        fun _ => Order.open_of_pending rfl
  | inserted hread hins => exact hinserted (by rfl) hins
  | opened hread hins =>
      refine open_writeOrder (hinserted (by rfl) hins) ?_ (by rfl)
        fun _ => Order.open_of_pending rfl
      obtain ⟨orders, horders, rfl⟩ := Db.insertOrder_eq_some hins
      exact (Table.mem_of_insert horders).mpr (Or.inr rfl)

theorem open_settle {w : Money} {gateway : Gateway} {now : Instant} {keys : KeyPair}
    {fields : Form} {db' : Db} (hopen : ∀ o ∈ w.db.orders, Backed w.payments o → o.open)
    (hkept : ¬ LosesSight w (.call (.report gateway now keys fields)))
    (he : SettleEffect gateway fields w.db db') :
    ∀ o ∈ db'.orders, Backed w.payments o → o.open := by
  cases he with
  | unchanged => exact hopen
  | @closed order status hreport hstatus =>
      refine open_writeOrder hopen hreport.1 (by rfl) fun hbacked => ?_
      apply Order.open_of_unchecked (closingStatus_cases hstatus)
      by_contra hchecked
      exact hkept ⟨order, hreport, hbacked, Or.inl ⟨by simp [hstatus], hchecked⟩⟩
  | @refused order order' validation hvalid hterms hpayload _ hrefused hstatus =>
      refine open_writeOrder hopen hvalid.1.1 hterms fun hbacked => ?_
      exact absurd ⟨order, hvalid.1, hbacked, Or.inr ⟨validation, hvalid, hrefused⟩⟩ hkept
  | held hvalid hterms _ _ _ hstatus =>
      exact open_writeOrder hopen hvalid.1.1 hterms fun _ => Order.open_of_pending hstatus
  | paid hvalid hterms _ _ _ hstatus _ hins =>
      obtain ⟨-, tickets, rfl, -⟩ := Db.insertTicket_eq_some hins
      exact open_writeOrder hopen hvalid.1.1 hterms fun _ => Or.inl hstatus

/-- A pass never abandons an order with money behind it: the gateway lists the
money. -/
theorem not_silent_of_backed {payments : List Payment} {env : PassEnv} {o : Order}
    (hanswers : AnswersFrom payments env.gateway) (hbacked : Backed payments o) :
    ¬ Silent env o := by
  rintro ⟨elements, hquery, hnone⟩
  obtain ⟨p, hp, htran, -, hgood, hval⟩ := hbacked
  have hmem : some p.element ∈ elements :=
    (hanswers.query o.tranId elements hquery (some p.element)).mpr ⟨p, hp, htran, rfl⟩
  have hno := successfulElement_eq_none.mp hnone (some p.element) hmem
  rw [stopsAt, hgood.1, hval] at hno
  cases hno

/-- A turn that does not refuse money leaves an order with money behind it
open. -/
theorem open_turn {payments : List Payment} {env : PassEnv} {order : Order}
    {writes : List (Order × Order)} {grants : List TicketGrant}
    (hanswers : AnswersFrom payments env.gateway) (hturn : Turn env order writes grants)
    (hkept : Backed payments order →
      ∀ element, Found env order element → ¬ RefusedPayment element order)
    {w : Order × Order} (hw : w ∈ writes) (hbacked : Backed payments w.2) : w.2.open := by
  cases hturn with
  | idle => exact absurd hw List.not_mem_nil
  | abandoned hsilent =>
      obtain rfl := List.mem_singleton.mp hw
      exact absurd hsilent (not_silent_of_backed hanswers
        (Order.open_of_terms (abandon_toOrderTerms order) hbacked))
  | refused hfound hterms _ hrefused =>
      obtain rfl := List.mem_singleton.mp hw
      exact absurd hrefused (hkept (Order.open_of_terms hterms hbacked) _ hfound)
  | held _ _ _ _ hstatus =>
      obtain rfl := List.mem_singleton.mp hw
      exact Order.open_of_pending hstatus
  | paid _ _ _ _ hstatus =>
      obtain rfl := List.mem_singleton.mp hw
      exact Or.inl hstatus

theorem open_pass {w : Money} {env : PassEnv} {db' : Db} (hledger : Ledger w.db)
    (hopen : ∀ o ∈ w.db.orders, Backed w.payments o → o.open)
    (hanswers : AnswersFrom w.payments env.gateway) (hkept : ¬ LosesSight w (.pass env))
    (he : PassEffect env w.db db') : ∀ o ∈ db'.orders, Backed w.payments o → o.open := by
  cases he with
  | unchanged => exact hopen
  | committed hturns hflush =>
      obtain ⟨db'', hflush', -, hmem⟩ := hledger.turns hturns (Db.flush_eq_ok.mp hflush).1
      obtain rfl := Except.ok.inj (hflush.symm.trans hflush')
      intro o ho hbacked
      rcases (hmem o).mp ho with ⟨write, hw, rfl⟩ | ⟨ho, -⟩
      · obtain ⟨hbatch, writes', grants', hturn, hw'⟩ := hturns.turn_of_write hw
        refine open_turn hanswers hturn (fun hback element hfound hrefused => ?_) hw' hbacked
        exact hkept ⟨write.1, hbatch, hback, element, hfound, hrefused⟩
      · exact hopen o ho hbacked

theorem Ledger.moneyStep {w : Money} (h : Ledger w.db) (event : MoneyEvent) :
    Ledger (moneyStep w event).db := by
  cases event with
  | call call => exact h.shopStep call
  | pass env => exact h.pass (reconcileOnce_effect env w.db)
  | gateway payments => exact h

/-- A step that does not lose sight of money keeps it within reach. -/
theorem withinReach_moneyStep {w : Money} {event : MoneyEvent} (hledger : Ledger w.db)
    (hreach : WithinReach w) (hanswers : Answered w event) (hkept : ¬ LosesSight w event) :
    WithinReach (moneyStep w event) := by
  have hopen := (withinReach_iff hledger).mp hreach
  apply (withinReach_iff (hledger.moneyStep event)).mpr
  cases event with
  | call call =>
      cases call with
      | create gateway tranId createdAt student payload =>
          exact open_create hopen (createOrder_effect gateway tranId createdAt student payload w.db)
      | report gateway now keys fields =>
          exact open_settle (w := w) hopen hkept (settle_effect gateway now keys fields w.db)
  | pass env =>
      exact open_pass (w := w) hledger hopen hanswers hkept (reconcileOnce_effect env w.db)
  | gateway payments =>
      intro o ho hbacked
      by_contra hclosed
      exact hkept ⟨o, ho, hbacked, hclosed⟩

/-! ## §4  Every run -/

/-- **Money stays within reach in every run that never loses sight of it**,
over purchases, reports with arbitrary fields, reconciler passes and whatever
the gateway comes to hold. -/
theorem money_stays_within_reach (products : List TicketProduct) (users : List User)
    (events : List MoneyEvent)
    (hanswers : Throughout moneyStep Answered (Money.opening products users) events)
    (hkept : Throughout moneyStep (fun w event => ¬ LosesSight w event)
      (Money.opening products users) events) :
    Always moneyStep WithinReach (Money.opening products users) events := by
  have hboth : Throughout moneyStep (fun w event => Answered w event ∧ ¬ LosesSight w event)
      (Money.opening products users) events :=
    throughout_iff.mpr fun pre event post hsplit =>
      ⟨throughout_iff.mp hanswers pre event post hsplit,
        throughout_iff.mp hkept pre event post hsplit⟩
  have hinv : Always moneyStep (fun w => Ledger w.db ∧ WithinReach w)
      (Money.opening products users) events := by
    refine always_of_throughout ?_ ⟨ledger_opening products users, ?_⟩ hboth
    · rintro w event ⟨hledger, hreach⟩ ⟨hanswer, hno⟩
      exact ⟨hledger.moneyStep event, withinReach_moneyStep hledger hreach hanswer hno⟩
    · intro o ho
      exact absurd ho (Table.not_mem_empty o)
  exact hinv.imp fun _ h => h.2

/-! ## §5  A forged report before the payment -/

/-- A gateway that answers from a list of payments. -/
def bookGateway (payments : List Payment) : Gateway where
  createSession _ := .ok "https://pay".toList
  validate valId :=
    match payments.find? fun p => p.valId == valId with
    | some p => .ok p.validation
    | none => .ok { status := some (.str "INVALID_TRANSACTION".toList) }
  queryByTranId tranId :=
    .ok ((payments.filter fun p => p.tranId == tranId).map fun p => some p.element)

theorem bookGateway_answersFrom (payments : List Payment) :
    AnswersFrom payments (bookGateway payments) where
  validate := by
    intro valId record h
    simp only [bookGateway] at h
    split at h
    · rename_i p hfind
      cases h
      have hval : p.valId = valId := by simpa using List.find?_some hfind
      exact Or.inl ⟨p, List.mem_of_find?_eq_some hfind, hval, rfl⟩
    · cases h
      exact Or.inr (by decide)
  query := by
    intro tranId elements h e
    cases h
    simp [List.mem_map, List.mem_filter, and_assoc]

def heldPayment : Payment where
  tranId := "UT-1".toList
  valId := "V1".toList
  validation := firstPayment
  element := firstPayment

/-- A purchase while the gateway holds these payments. -/
def buyAt (payments : List Payment) : MoneyEvent :=
  .call (.create (bookGateway payments) "UT-1".toList 0 rider
    { productId := 1, idempotencyKey := "first".toList })

def forgedReport : MoneyEvent :=
  .call (.report (bookGateway []) 60 riderKeys
    { tranId := some "UT-1".toList, status := none, valId := some "junk".toList })

def laterPass (payments : List Payment) : MoneyEvent :=
  .pass { gateway := bookGateway payments, orderBy := .stable _, now := 3600,
          keys := fun _ => riderKeys }

/-- A report that reached nobody: the reconciler finds the money. -/
theorem money_stays_within_reach_late :
    Always moneyStep WithinReach (Money.opening [singleRide] [riderUser])
      [buyAt [], .gateway [heldPayment], laterPass [heldPayment]] := by
  have hnew : ∀ o ∈ (moneyStep (Money.opening [singleRide] [riderUser]) (buyAt [])).db.orders,
      o.status = .pending := by
    have h : ∀ o ∈ (moneyStep (Money.opening [singleRide] [riderUser])
      (buyAt [])).db.orders.rows, o.status = .pending := by decide +kernel
    exact h
  refine money_stays_within_reach [singleRide] [riderUser] _
    ⟨bookGateway_answersFrom [], trivial, bookGateway_answersFrom [heldPayment], trivial⟩
    ⟨id, ?_, ?_, trivial⟩
  · rintro ⟨o, ho, -, hclosed⟩
    exact hclosed (Order.open_of_pending (hnew o ho))
  · rintro ⟨o, -, ⟨p, hp, hpays⟩, element, ⟨elements, hquery, hfound⟩, hrefused⟩
    obtain rfl := List.mem_singleton.mp hp
    cases hquery
    have hmem : some element ∈
        ([heldPayment].filter fun p => p.tranId == o.tranId).map fun p => some p.element :=
      (of_successfulElement hfound).1
    have helement : element = firstPayment := by
      obtain ⟨p, hp, hsame⟩ := List.mem_map.mp hmem
      rw [List.mem_singleton.mp (List.mem_of_mem_filter hp)] at hsame
      exact (Option.some.inj hsame).symm
    subst helement
    obtain ⟨hsucceeded, hamount, -⟩ := hpays.2.1
    rcases hrefused with h | h
    · exact absurd (hsucceeded.symm.trans h) (by simp)
    · exact absurd (hamount.symm.trans h) (by simp)

/-- Anyone can close a fresh order by presenting a `val_id` that means nothing;
the money paid for it afterwards is out of the reconciler's reach. -/
theorem forged_report_hides_the_money :
    ¬ ∀ (products : List TicketProduct) (users : List User) (events : List MoneyEvent),
      Throughout moneyStep Answered (Money.opening products users) events →
      Always moneyStep WithinReach (Money.opening products users) events := by
  intro hclaim
  have hreach := (hclaim [singleRide] [riderUser]
    [buyAt [], forgedReport, .gateway [heldPayment]]
    ⟨bookGateway_answersFrom [], bookGateway_answersFrom [], trivial, trivial⟩).final
  have hclosed : ∃ o ∈ (run moneyStep (Money.opening [singleRide] [riderUser])
      [buyAt [], forgedReport, .gateway [heldPayment]]).db.orders.rows,
      o.status = .failed ∧ o.selected 1 = false ∧ o.createdAt < 1 ∧
        heldPayment.tranId = o.tranId ∧
        GoodPayment firstPayment o.amountPaisa o.currency := by
    decide +kernel
  obtain ⟨o, ho, hfailed, hunseen, hlate, htran, hgood⟩ := hclosed
  have hone : (graceS + 1) - graceS = 1 := by ring
  rcases hreach o ho ⟨heldPayment, List.mem_singleton_self _, htran, hgood, hgood, by decide⟩ with
    ⟨hpaid, -⟩ | hselected
  · rw [hfailed] at hpaid
    cases hpaid
  · have hseen := hselected (graceS + 1) (by rw [hone]; exact hlate)
    rw [hone, hunseen] at hseen
    cases hseen

end UniTrack
