import UniTrack.Payments.Reach

/-!
# The order of the reports does not matter

An unpaid order is reported on any number of times: by the student's browser,
by the gateway, by anyone who posts a form. Reports overwrite each other's
statuses, but paid is never overwritten, and whether a report pays depends on
nothing an earlier one has written. So the outcome depends on which reports
there are, and not on their order or number. A good report pays unless
something is in its way: its record does not fit the columns, or the validity
of the product leads out of the calendar.
-/

namespace UniTrack

open UniTrack.Framework UniTrack.Python UniTrack.Sslcommerz

/-! ## §1  Reports of one order -/

/-- One return or IPN, with the answers the gateway gives while it is handled. -/
structure Report where
  gateway : Gateway
  now : Instant
  keys : KeyPair
  fields : Form

def handleReport (db : Db) (r : Report) : Db := (settle r.gateway r.now r.keys r.fields db).1

def Report.Names (r : Report) (o : Order) : Prop := r.fields.tranId = some o.tranId

/-- The report is not a closing one, it carries a `val_id`, and the record that
the gateway answers is a successful payment of the order's money, unflagged. -/
def Report.Good (r : Report) (o : Order) : Prop :=
  closingStatus r.fields = none ∧ ∃ valId record, r.fields.valId = some valId ∧ valId ≠ [] ∧
    r.gateway.validate valId = .ok record ∧ GoodPayment record o.amountPaisa o.currency

/-- The report is good, and nothing is in the way of its payment. -/
def Report.Pays (r : Report) (db : Db) (o : Order) : Prop :=
  closingStatus r.fields = none ∧ ∃ valId record, r.fields.valId = some valId ∧ valId ≠ [] ∧
    r.gateway.validate valId = .ok record ∧ GoodPayment record o.amountPaisa o.currency ∧
      Settleable db r.now o (record.setdefaultValId valId)

/-- The order is paid and has exactly one ticket. -/
def PaidOnce (db : Db) (o : Order) : Prop :=
  (∃ row ∈ db.orders, row.id = o.id ∧ row.status = .paid) ∧
    ∃! t, t ∈ db.tickets ∧ t.orderId = o.id

/-- The order is not paid and has no ticket. -/
def LeftUnpaid (db : Db) (o : Order) : Prop :=
  (∃ row ∈ db.orders, row.id = o.id ∧ row.status ≠ .paid) ∧
    ∀ t ∈ db.tickets, t.orderId ≠ o.id

section
variable {db db' : Db} {gateway : Gateway} {fields : Form} {r : Report} {o o' : Order}

/-! ## §2  One report -/

theorem Report.Pays.good (h : r.Pays db o) : r.Good o := by
  obtain ⟨hopen, valId, record, hval, hne, hrecord, hpayment, -⟩ := h
  exact ⟨hopen, valId, record, hval, hne, hrecord, hpayment⟩

/-- Whether a report pays is a matter of the terms of the order and of the
catalogue. -/
theorem Report.Pays.of_terms (hproducts : db'.products = db.products)
    (hterms : o'.toOrderTerms = o.toOrderTerms) : r.Pays db' o' ↔ r.Pays db o := by
  have hamount : o'.amountPaisa = o.amountPaisa := congrArg OrderTerms.amountPaisa hterms
  have hcurrency : o'.currency = o.currency := congrArg OrderTerms.currency hterms
  have hproduct : o'.productId = o.productId := congrArg OrderTerms.productId hterms
  unfold Report.Pays
  simp only [hamount, hcurrency, Settleable.of_terms hproducts hproduct]

theorem row_writeOrder (ho : o ∈ db.orders) (old new : Order) :
    ∃ row ∈ (db.writeOrder old new).orders, row.toOrderTerms = o.toOrderTerms := by
  refine ⟨_, Db.mem_writeOrder.mpr ⟨o, ho, rfl⟩, ?_⟩
  split
  · exact Order.patched_toOrderTerms old new o
  · rfl

/-- No report removes an order or changes what was agreed to. -/
theorem SettleEffect.row (he : SettleEffect gateway fields db db') (ho : o ∈ db.orders) :
    ∃ row ∈ db'.orders, row.toOrderTerms = o.toOrderTerms := by
  cases he with
  | unchanged => exact ⟨o, ho, rfl⟩
  | closed => exact row_writeOrder ho _ _
  | refused => exact row_writeOrder ho _ _
  | held => exact row_writeOrder ho _ _
  | paid _ _ _ _ _ _ _ hins =>
      obtain ⟨-, tickets, rfl, -⟩ := Db.insertTicket_eq_some hins
      exact row_writeOrder ho _ _

/-- No report removes a ticket. -/
theorem SettleEffect.tickets (he : SettleEffect gateway fields db db') :
    ∀ t ∈ db.tickets, t ∈ db'.tickets := by
  cases he with
  | unchanged | closed | refused | held => exact fun _ ht => ht
  | paid _ _ _ _ _ _ _ hins =>
      obtain ⟨-, tickets, rfl, hmem⟩ := Db.insertTicket_eq_some hins
      exact fun t ht => (hmem t).mpr (Or.inl ht)

theorem tickets_reports (reports : List Report) :
    ∀ t ∈ db.tickets, t ∈ (run handleReport db reports).tickets := by
  induction reports generalizing db with
  | nil => exact fun _ ht => ht
  | cons r reports ih =>
      have he := settle_effect r.gateway r.now r.keys r.fields db
      exact fun t ht => ih t (he.tickets t ht)

/-- A paid order is left alone. -/
theorem handleReport_of_paid (ho : o ∈ db.orders) (hnames : r.Names o) (htran : o.tranId ≠ [])
    (hpaid : o.status = .paid) : handleReport db r = db := by
  have hfound : db.orderByTranId o.tranId = some o := Db.orderByTranId_eq_some.mpr ⟨ho, rfl⟩
  have hread : settleRead db r.fields = .alreadyPaid o := by
    unfold settleRead
    have hfield : r.fields.tranId.getD [] = o.tranId := by
      rw [hnames]
      rfl
    simp only [hfield, if_neg htran, hfound, hpaid, if_true]
  unfold handleReport settle
  rw [hread]

/-- What a paying report validates is a good payment of the order, with nothing
in its way. -/
theorem Report.Pays.validated (hpays : r.Pays db o) (hreport : Reported db r.fields o) :
    ∃ validation, Validated r.gateway r.fields db o validation ∧
      GoodPayment validation o.amountPaisa o.currency ∧ Settleable db r.now o validation := by
  obtain ⟨hopen, valId, record, hval, hne, hrecord, hpayment, hsettleable⟩ := hpays
  exact ⟨record.setdefaultValId valId, ⟨hreport, hopen, valId, record, hval, hne, hrecord, rfl⟩,
    hpayment, hsettleable⟩

/-- Conversely, such a payment came with a paying report. -/
theorem Validated.pays {validation : Validation}
    (hvalid : Validated r.gateway r.fields db o validation)
    (hpayment : GoodPayment validation o.amountPaisa o.currency)
    (hsettleable : Settleable db r.now o validation) : r.Pays db o := by
  obtain ⟨-, hopen, valId, record, hval, hne, hrecord, rfl⟩ := hvalid
  exact ⟨hopen, valId, record, hval, hne, hrecord, hpayment, hsettleable⟩

/-- **One report**: the order is paid afterwards if it was before, or if the
report pays. -/
theorem handleReport_paid (hledger : Ledger db) (ho : o ∈ db.orders) (hnames : r.Names o)
    (htran : o.tranId ≠ []) : ∃ row ∈ (handleReport db r).orders,
      row.toOrderTerms = o.toOrderTerms ∧
        (row.status = .paid ↔ o.status = .paid ∨ r.Pays db o) := by
  by_cases hpaid : o.status = .paid
  · rw [handleReport_of_paid ho hnames htran hpaid]
    exact ⟨o, ho, rfl, by simp [hpaid]⟩
  · have hreport : Reported db r.fields o := ⟨ho, hnames, htran, hpaid⟩
    by_cases hpays : r.Pays db o
    · obtain ⟨validation, hvalid, hpayment, hsettleable⟩ := hpays.validated hreport
      obtain ⟨grant, -, hins⟩ := settle_of_good hledger hvalid hpayment hsettleable r.keys
      have hmem : markPaid (recordValidation o validation) r.now ∈ (handleReport db r).orders := by
        obtain ⟨-, tickets, hdb, -⟩ := Db.insertTicket_eq_some hins
        unfold handleReport
        rw [hdb]
        exact (Db.mem_writeOrder_current ho (by rfl)).mpr (Or.inl rfl)
      exact ⟨_, hmem, rfl, iff_of_true rfl (Or.inr hpays)⟩
    · have he := settle_effect r.gateway r.now r.keys r.fields db
      obtain ⟨row, hrow, hterms⟩ := he.row ho
      refine ⟨row, hrow, hterms, iff_of_false ?_ ?_⟩
      · intro hrowpaid
        rcases settle_paid_origin hledger hrow hrowpaid with hold |
          ⟨order, validation, hvalid, hpayment, hsettleable, hsame, -⟩
        · have hid : row.id = o.id := congrArg OrderTerms.id hterms
          exact hpaid (Db.order_ext hold ho hid ▸ hrowpaid)
        · exact hpays ((Report.Pays.of_terms rfl (hsame.symm.trans hterms)).mp
            (hvalid.pays hpayment hsettleable))
      · rintro (h | h)
        · exact hpaid h
        · exact hpays h

theorem ledger_handleReport (h : Ledger db) (r : Report) : Ledger (handleReport db r) :=
  h.settle (settle_effect r.gateway r.now r.keys r.fields db)

/-! ## §3  Any number of reports -/

theorem handleReports_paid {reports : List Report} (hledger : Ledger db) (ho : o ∈ db.orders)
    (hnames : ∀ r ∈ reports, r.Names o) (htran : o.tranId ≠ []) :
    Ledger (run handleReport db reports) ∧ ∃ row ∈ (run handleReport db reports).orders,
      row.id = o.id ∧ (row.status = .paid ↔ o.status = .paid ∨ ∃ r ∈ reports, r.Pays db o) := by
  induction reports generalizing db o with
  | nil => exact ⟨hledger, o, ho, rfl, by simp⟩
  | cons r reports ih =>
      obtain ⟨row, hrow, hterms, hstep⟩ :=
        handleReport_paid hledger ho (hnames r List.mem_cons_self) htran
      have htran' : row.tranId = o.tranId := congrArg OrderTerms.tranId hterms
      have hid : row.id = o.id := congrArg OrderTerms.id hterms
      have hrest : ∀ r' ∈ reports, r'.Names row := by
        intro r' hr'
        unfold Report.Names
        rw [htran']
        exact hnames r' (List.mem_cons_of_mem _ hr')
      obtain ⟨hledger', last, hlast, hlastid, hrun⟩ :=
        ih (ledger_handleReport hledger r) hrow hrest (htran' ▸ htran)
      refine ⟨hledger', last, hlast, hlastid.trans hid, ?_⟩
      have hproducts : (handleReport db r).products = db.products :=
        (settle_effect r.gateway r.now r.keys r.fields db).products
      have hpays : (∃ r' ∈ reports, r'.Pays (handleReport db r) row) ↔
          ∃ r' ∈ reports, r'.Pays db o := by
        apply exists_congr
        intro r'
        rw [Report.Pays.of_terms hproducts hterms]
      rw [hrun, hstep, hpays]
      simp only [List.mem_cons, exists_eq_or_imp, or_assoc]

/-- In a ledger, a paid order has exactly one ticket. -/
theorem Ledger.paidOnce_iff (h : Ledger db) (hrow : o' ∈ db.orders) (hid : o'.id = o.id) :
    PaidOnce db o ↔ o'.status = .paid := by
  constructor
  · rintro ⟨⟨row, hmem, hrowid, hpaid⟩, -⟩
    rwa [Db.order_ext hrow hmem (hid.trans hrowid.symm)]
  · intro hpaid
    obtain ⟨t, ht, hto⟩ := (h.paid_iff o' hrow).mp hpaid
    refine ⟨⟨o', hrow, hid, hpaid⟩, t, ⟨ht, hto.trans hid⟩, ?_⟩
    rintro t' ⟨ht', hto'⟩
    exact Db.ticket_unique ht' ht (hto'.trans (hto.trans hid).symm)

theorem Ledger.leftUnpaid_iff (h : Ledger db) (hrow : o' ∈ db.orders) (hid : o'.id = o.id) :
    LeftUnpaid db o ↔ o'.status ≠ .paid := by
  constructor
  · rintro ⟨⟨row, hmem, hrowid, hunpaid⟩, -⟩
    rwa [Db.order_ext hrow hmem (hid.trans hrowid.symm)]
  · intro hunpaid
    refine ⟨⟨o', hrow, hid, hunpaid⟩, ?_⟩
    intro t ht hto
    exact hunpaid ((h.paid_iff o' hrow).mpr ⟨t, ht, hto.trans hid.symm⟩)

end

theorem ledger_money (products : List TicketProduct) (users : List User)
    (events : List MoneyEvent) :
    Ledger (run moneyStep (Money.opening products users) events).db := by
  have h : Ledger (Money.opening products users).db := ledger_opening products users
  generalize Money.opening products users = w at h
  induction events generalizing w with
  | nil => exact h
  | cons event events ih => exact ih (moneyStep w event) (h.moneyStep event)

/-- The reports of an order that is not paid yet. -/
structure UnpaidReports (db : Db) (o : Order) (reports : List Report) : Prop where
  stored : o ∈ db.orders
  unpaid : o.status ≠ .paid
  /-- `create_order` generates it as `UT-…`. -/
  generated : o.tranId ≠ []
  names : ∀ r ∈ reports, r.Names o

/-- What reports should make of an unpaid order: a good one pays it, once, and
nothing else does; so any other list of the same reports, in any order and
number, ends the same. -/
structure SettledByGood (db : Db) (o : Order) (reports : List Report) : Prop where
  paid : PaidOnce (run handleReport db reports) o ↔ ∃ r ∈ reports, r.Good o
  unpaid : LeftUnpaid (run handleReport db reports) o ↔ ¬ ∃ r ∈ reports, r.Good o
  unordered : ∀ reports', (∀ r, r ∈ reports' ↔ r ∈ reports) →
    (PaidOnce (run handleReport db reports') o ↔ PaidOnce (run handleReport db reports) o) ∧
      (LeftUnpaid (run handleReport db reports') o ↔ LeftUnpaid (run handleReport db reports) o)

/-- **Reports settle an order by what they are, not by their order**: after
any list of reports, handled one at a time, an unpaid order of any reachable
shop is paid with exactly one ticket if some report pays, and is unpaid without
a ticket otherwise; the good reports decide exactly when one of them, if there
is any, has nothing in its way. -/
theorem reports_settle_iff (products : List TicketProduct) (users : List User)
    (events : List MoneyEvent) (o : Order) (reports : List Report)
    (h : UnpaidReports (run moneyStep (Money.opening products users) events).db o reports) :
    (SettledByGood (run moneyStep (Money.opening products users) events).db o reports ↔
        ((∃ r ∈ reports, r.Good o) → ∃ r ∈ reports,
          r.Pays (run moneyStep (Money.opening products users) events).db o)) ∧
      ∀ reports', (∀ r, r ∈ reports' ↔ r ∈ reports) →
        (PaidOnce (run handleReport (run moneyStep (Money.opening products users) events).db
          reports') o ↔ ∃ r ∈ reports,
            r.Pays (run moneyStep (Money.opening products users) events).db o) ∧
        (LeftUnpaid (run handleReport (run moneyStep (Money.opening products users) events).db
          reports') o ↔ ¬ ∃ r ∈ reports,
            r.Pays (run moneyStep (Money.opening products users) events).db o) := by
  have hledger := ledger_money products users events
  generalize (run moneyStep (Money.opening products users) events).db = db at *
  obtain ⟨hstored, hunpaid, hgenerated, hnames⟩ := h
  have hboth : ∀ reports', (∀ r, r ∈ reports' ↔ r ∈ reports) →
      (PaidOnce (run handleReport db reports') o ↔ ∃ r ∈ reports, r.Pays db o) ∧
        (LeftUnpaid (run handleReport db reports') o ↔ ¬ ∃ r ∈ reports, r.Pays db o) := by
    intro reports' hsame
    obtain ⟨hafter, row, hrow, hid, hpaid⟩ :=
      handleReports_paid hledger hstored (fun r hr => hnames r ((hsame r).mp hr)) hgenerated
    simp only [or_iff_right hunpaid, hsame] at hpaid
    rw [hafter.paidOnce_iff hrow hid, hafter.leftUnpaid_iff hrow hid, ← hpaid]
    exact ⟨Iff.rfl, Iff.rfl⟩
  refine ⟨?_, hboth⟩
  obtain ⟨hpaid, hleft⟩ := hboth reports fun _ => Iff.rfl
  constructor
  · intro hsettled hgood
    exact hpaid.mp (hsettled.paid.mpr hgood)
  · intro hthrough
    have hsame : (∃ r ∈ reports, r.Pays db o) ↔ ∃ r ∈ reports, r.Good o :=
      ⟨fun ⟨r, hr, hpays⟩ => ⟨r, hr, hpays.good⟩, hthrough⟩
    refine ⟨hpaid.trans hsame, hleft.trans (not_congr hsame), fun reports' hreports => ?_⟩
    obtain ⟨hpaid', hleft'⟩ := hboth reports' hreports
    exact ⟨hpaid'.trans hpaid.symm, hleft'.trans hleft.symm⟩

/-! ## §4  A failure reported before the payment -/

/-- The order of the student who buys `UT-1`. -/
def boughtOrder : Order where
  id := 0
  studentId := 1
  productId := 1
  amountPaisa := singleRide.pricePaisa
  currency := "BDT".toList
  idempotencyKey := "first".toList
  tranId := "UT-1".toList
  createdAt := 0
  status := .pending

def reportOf (status : String) (valId : Option String) : Report where
  gateway := oneGateway
  now := 60
  keys := riderKeys
  fields := { tranId := some "UT-1".toList, status := some status.toList,
              valId := valId.map String.toList }

/-- A declined attempt, the payment, and the same report again. -/
def threeReports : List Report :=
  [reportOf "failed" none, reportOf "VALID" (some "V1"), reportOf "VALID" (some "V1")]

theorem unpaidReports_of_bought (product : TicketProduct) (reports : List Report)
    (hstored : boughtOrder ∈ (run moneyStep (Money.opening [product] [riderUser])
      [.call (buy "UT-1" "first")]).db.orders.rows)
    (hnames : ∀ r ∈ reports, r.fields.tranId = some "UT-1".toList) :
    UnpaidReports (run moneyStep (Money.opening [product] [riderUser])
      [.call (buy "UT-1" "first")]).db boughtOrder reports :=
  ⟨Table.mem_def.mpr hstored, by decide, by decide, hnames⟩

theorem reports_settle_iff_threeReports :
    PaidOnce (run handleReport (run moneyStep (Money.opening [singleRide] [riderUser])
      [.call (buy "UT-1" "first")]).db threeReports) boughtOrder := by
  have hreports := unpaidReports_of_bought singleRide threeReports
    (by decide +kernel) (by
      intro r hr
      simp only [threeReports, List.mem_cons, List.not_mem_nil, or_false] at hr
      rcases hr with rfl | rfl | rfl <;> rfl)
  have hpays : (reportOf "VALID" (some "V1")).Pays
      (run moneyStep (Money.opening [singleRide] [riderUser]) [.call (buy "UT-1" "first")]).db
      boughtOrder := by
    refine ⟨by decide, "V1".toList, firstPayment, rfl, by decide, by decide, by decide +kernel,
      by decide +kernel, singleRide, by decide +kernel, by decide +kernel⟩
  obtain ⟨hiff, -⟩ := reports_settle_iff [singleRide] [riderUser] [.call (buy "UT-1" "first")]
    boughtOrder threeReports hreports
  have hmem : reportOf "VALID" (some "V1") ∈ threeReports := by simp [threeReports]
  exact (hiff.mpr fun _ => ⟨_, hmem, hpays⟩).paid.mpr ⟨_, hmem, hpays.good⟩

/-- The catalogue takes any number of days from one on. -/
def lifelongRide : TicketProduct := { singleRide with validityDays := 3000000 }

/-- The ticket would end after the year 9999: the one good report leaves the
order unpaid. -/
theorem good_report_leaves_unpaid :
    ¬ ∀ (products : List TicketProduct) (users : List User) (events : List MoneyEvent)
      (o : Order) (reports : List Report),
      UnpaidReports (run moneyStep (Money.opening products users) events).db o reports →
      SettledByGood (run moneyStep (Money.opening products users) events).db o reports := by
  intro hclaim
  have hreports := unpaidReports_of_bought lifelongRide [reportOf "VALID" (some "V1")]
    (by decide +kernel) (by
      intro r hr
      obtain rfl := List.mem_singleton.mp hr
      rfl)
  have hsettled := hclaim [lifelongRide] [riderUser] [.call (buy "UT-1" "first")] boughtOrder _
    hreports
  obtain ⟨⟨row, hrow, -, hpaid⟩, -⟩ := hsettled.paid.mpr ⟨reportOf "VALID" (some "V1"),
    List.mem_singleton_self _, by decide, "V1".toList, firstPayment, rfl, by decide, by decide,
    by decide +kernel⟩
  have hunpaid : ∀ row ∈ (run handleReport (run moneyStep (Money.opening [lifelongRide]
      [riderUser]) [.call (buy "UT-1" "first")]).db [reportOf "VALID" (some "V1")]).orders.rows,
      row.status ≠ .paid := by
    decide +kernel
  exact hunpaid row (Table.mem_def.mp hrow) hpaid

end UniTrack
