import UniTrack.Boarding.Fares
import UniTrack.Routes.AdminCatalog

/-!
# Boarding off the route

A product may be scoped to a route; its tickets are then meant for the trips
of that route. The scope is on the product, the route on the trip, and the
helper's device says which trip it was. `redeem` looks at neither scope nor
route.

§1 is the run, §2 the boardings a batch records, §3 when they are all within
scope, §4 a ticket of one route on a trip of another.
-/

namespace UniTrack

open UniTrack.Framework UniTrack.Python

/-! ## §1  Syncs and edits, one at a time -/

inductive DepotEvent where
  | sync (helperId : HelperId) (items : List SyncItem)
  | create (body : ProductCreate)
  | update (productId : ProductId) (body : ProductUpdate)

/-- The route that the ticket's product is scoped to. -/
def Depot.scopeOf (d : Depot) (id : TicketId) : Option RouteId :=
  (d.shop.getTicket id).bind fun ticket =>
    (d.shop.getProduct ticket.productId).bind (·.routeScope)

/-- The route that the trip runs. -/
def Depot.routeOf (d : Depot) (id : TripId) : Option RouteId :=
  (d.fleet.trips.find fun t => t.id == id).map (·.routeId)

/-- The ticket is good on every route, or the trip runs its route. -/
def Depot.WithinScope (d : Depot) (ticket : TicketId) (trip : TripId) : Prop :=
  d.scopeOf ticket = none ∨ d.scopeOf ticket = d.routeOf trip

instance (d : Depot) (ticket : TicketId) (trip : TripId) : Decidable (d.WithinScope ticket trip) := by
  unfold Depot.WithinScope
  infer_instance

section
variable {platform : Platform} {helperId : HelperId} {item : SyncItem} {db db' : Db}
  {items : List SyncItem} {row : Redemption}

theorem syncedDb_frame (platform : Platform) (helperId : HelperId) (item : SyncItem) (db : Db) :
    (syncedDb platform helperId item db).trips = db.trips ∧
      (syncedDb platform helperId item db).products = db.products := by
  rcases syncedDb_cases platform helperId item db with hsame |
    ⟨ticket, payload, flag, ticket', db₁, -, -, hins, hdb⟩
  · rw [hsame]
    exact ⟨rfl, rfl⟩
  · obtain ⟨-, -, redemptions, -, rfl⟩ := Db.insertRedemption_ok.mp hins
    rw [hdb]
    exact ⟨rfl, rfl⟩

/-- A request touches neither the timetable nor the catalogue. -/
theorem syncRedemptions_frame (platform : Platform) (helperId : HelperId) (items : List SyncItem)
    (db : Db) :
    (syncRedemptions platform helperId items db).1.trips = db.trips ∧
      (syncRedemptions platform helperId items db).1.products = db.products := by
  apply syncRedemptions_preserves (P := fun reached => reached.trips = db.trips ∧
    reached.products = db.products) _ ⟨rfl, rfl⟩
  rintro item - reached ⟨htrips, hproducts⟩
  obtain ⟨hsame, hsame'⟩ := syncedDb_frame platform helperId item reached
  exact ⟨hsame.trans htrips, hsame'.trans hproducts⟩

end

/-- `sync_redemptions` in the depot. -/
def Depot.sync (platform : Platform) (helperId : HelperId) (items : List SyncItem) (d : Depot) :
    Depot where
  shop := (syncRedemptions platform helperId items d.shop).1
  fleet := d.fleet
  trips := (syncRedemptions_frame platform helperId items d.shop).1.trans d.trips
  products := by
    rw [(syncRedemptions_frame platform helperId items d.shop).2]
    exact d.products
  sold := by
    intro t' ht'
    obtain ⟨t, ht, hprogress⟩ := (progress_sync platform helperId items d.shop).origin t' ht'
    rw [(syncRedemptions_frame platform helperId items d.shop).2,
      Ticket.productId_of_issued hprogress.issued]
    exact d.sold t ht

def depotStep (platform : Platform) (d : Depot) : DepotEvent → Depot
  | .sync helperId items => d.sync platform helperId items
  | .create body => (createProduct body d).1
  | .update productId body => (updateProduct productId body d).1

/-! ## §2  What a batch records -/

/-- The item is the first boarding of its code, and there is nothing that
`redeem` or the database has against it. -/
structure FirstBoarding (platform : Platform) (helperId : HelperId) (db : Db) (item : SyncItem)
    (ticket : Ticket) (payload : QrPayload) : Prop where
  verified : Verified platform db item ticket payload
  unseen : ∀ r ∈ db.redemptions, r.nonce ≠ payload.nonce
  covered : RidesCover ticket payload
  storable : (item.row helperId ticket payload).Storable
  referring : (item.row helperId ticket payload).Referring db

section
variable {platform : Platform} {helperId : HelperId} {item : SyncItem} {db db' : Db}
  {items : List SyncItem} {row : Redemption} {ticket : Ticket} {payload : QrPayload}

/-- A first boarding is recorded. -/
theorem FirstBoarding.recorded (h : FirstBoarding platform helperId db item ticket payload) :
    ∃ db' r, syncItem platform helperId item db = some (db', r) ∧
      item.row helperId ticket payload ∈ db'.redemptions := by
  have hsighting : item.sighting db payload = none :=
    item.first.first_eq_none.mpr (sightings_eq_nil.mpr h.unseen)
  have hfresh : redeemSighting ticket payload (item.scan helperId) item.now
      (item.sighting db payload) =
        .ok (.fresh (item.row helperId ticket payload) ticket (deduct ticket payload)) := by
    rw [hsighting]
    simp only [redeemSighting, checkRides_ok.mpr h.covered]
    rfl
  have hunreported : db.Unreported item.deviceId payload.nonce :=
    fun r hr hkeys => h.unseen r hr hkeys.2
  obtain ⟨db₁, hins⟩ := Db.insertRedemption_taken.mpr ⟨h.storable, h.referring, hunreported⟩
  refine ⟨_, _, syncItem_recorded h.verified hfresh hins, ?_⟩
  obtain ⟨-, -, redemptions, hinsert, rfl⟩ := Db.insertRedemption_ok.mp hins
  exact (Table.mem_of_insert hinsert).mpr (Or.inr rfl)

/-- The row that a turn adds with the flag `ok` is that of a first boarding. -/
theorem ok_row_syncItem {r : RedemptionResultOut}
    (h : syncItem platform helperId item db = some (db', r)) :
    row ∈ db'.redemptions ∧ row ∉ db.redemptions ∧ row.flag = .ok ↔
      ∃ ticket payload, FirstBoarding platform helperId db item ticket payload ∧
        row = item.row helperId ticket payload := by
  constructor
  · rintro ⟨hrow, hnew, hok⟩
    have houtcome := syncItem_outcome platform helperId item db
    rw [h] at houtcome
    cases houtcome with
    | rejected => exact absurd hrow hnew
    | again hverified hseen hown => exact absurd hrow hnew
    | refused hverified hsighting hrefused => exact absurd hrow hnew
    | recorded hverified hsighting hins =>
        obtain ⟨flag, rfl, hsighted⟩ := sighted_of_fresh hsighting
        obtain ⟨hstorable, hreferring, redemptions, hinsert, rfl⟩ := Db.insertRedemption_ok.mp hins
        rcases (Table.mem_of_insert hinsert).mp hrow with hold | rfl
        · exact absurd hold hnew
        · rcases hsighted with ⟨rfl, hunseen, hcover, -⟩ | ⟨rfl, -, -⟩
          · exact ⟨_, _, ⟨hverified, hunseen, hcover, hstorable, hreferring⟩, rfl⟩
          · cases hok
  · rintro ⟨ticket, payload, hfirst, rfl⟩
    obtain ⟨db₁, r₁, hitem, hrow⟩ := hfirst.recorded
    obtain ⟨rfl, -⟩ := Prod.mk.inj (Option.some.inj (hitem.symm.trans h))
    exact ⟨hrow, fun hold => hfirst.unseen _ hold rfl, rfl⟩

/-- The items are all answered, and leave the database like this. -/
def AnsweredTo (platform : Platform) (helperId : HelperId) (items : List SyncItem)
    (db reached : Db) : Prop :=
  ∃ answers, syncRedemptions platform helperId items db = (reached, some answers)

theorem answeredTo_nil {reached : Db} : AnsweredTo platform helperId [] db reached ↔ db = reached := by
  constructor
  · rintro ⟨answers, h⟩
    exact congrArg Prod.fst h
  · rintro rfl
    exact ⟨[], rfl⟩

theorem answeredTo_cons {reached : Db} {r : RedemptionResultOut}
    (h : syncItem platform helperId item db = some (db', r)) :
    AnsweredTo platform helperId (item :: items) db reached ↔
      AnsweredTo platform helperId items db' reached := by
  constructor
  · rintro ⟨answers, hall⟩
    obtain ⟨db₁, r₁, rest, hitem, hrest, -⟩ := syncRedemptions_cons_answered hall
    obtain ⟨rfl, -⟩ := Prod.mk.inj (Option.some.inj (hitem.symm.trans h))
    exact ⟨rest, hrest⟩
  · rintro ⟨rest, hrest⟩
    refine ⟨r :: rest, ?_⟩
    rw [syncRedemptions_cons_some h, hrest]
    rfl

/-- **The rows that a batch adds with the flag `ok` are those of the items that
are first boardings when their turn comes.** -/
theorem ok_row_syncRedemptions (items : List SyncItem) (db : Db) :
    row ∈ (syncRedemptions platform helperId items db).1.redemptions ∧ row ∉ db.redemptions ∧
        row.flag = .ok ↔
      ∃ before item after, items = before ++ item :: after ∧
        ∃ reached, AnsweredTo platform helperId before db reached ∧
          ∃ ticket payload, FirstBoarding platform helperId reached item ticket payload ∧
            row = item.row helperId ticket payload := by
  induction items generalizing db with
  | nil =>
      apply iff_of_false
      · rintro ⟨hrow, hnew, -⟩
        exact hnew hrow
      · rintro ⟨before, item, after, hsplit, -⟩
        cases before <;> cases hsplit
  | cons item items ih =>
      rw [exists_split_cons]
      cases hitem : syncItem platform helperId item db with
      | none =>
          -- the request ends here
          apply iff_of_false
          · rw [syncRedemptions_cons_none hitem]
            rintro ⟨hrow, hnew, -⟩
            exact hnew hrow
          · rintro (⟨reached, hbefore, ticket, payload, hfirst, -⟩ |
              ⟨before, item', after, -, reached, ⟨answers, hbefore⟩, -⟩)
            · obtain rfl := answeredTo_nil.mp hbefore
              obtain ⟨db₁, r₁, hrecorded, -⟩ := hfirst.recorded
              rw [hitem] at hrecorded
              cases hrecorded
            · rw [syncRedemptions_cons_none hitem] at hbefore
              cases hbefore
      | some turn =>
          obtain ⟨db₁, r⟩ := turn
          have hlater := syncRedemptions_keeps platform helperId items db₁ row
          have hsplit : row ∈ (syncRedemptions platform helperId (item :: items) db).1.redemptions ∧
              row ∉ db.redemptions ∧ row.flag = .ok ↔
            (row ∈ db₁.redemptions ∧ row ∉ db.redemptions ∧ row.flag = .ok) ∨
              (row ∈ (syncRedemptions platform helperId items db₁).1.redemptions ∧
                row ∉ db₁.redemptions ∧ row.flag = .ok) := by
            rw [syncRedemptions_cons_some hitem]
            have hkept := syncItem_keeps hitem row
            tauto
          rw [hsplit, ok_row_syncItem hitem, ih db₁]
          simp only [answeredTo_nil, answeredTo_cons hitem, exists_eq_left']

end

/-! ## §3  Within scope -/

/-- Every boarding that the event records with the flag `ok` and a trip is on a
trip its ticket is good for. -/
def RecordsWithinScope (platform : Platform) (d : Depot) : DepotEvent → Prop
  | .sync helperId items => ∀ row ∈ (d.sync platform helperId items).shop.redemptions,
      row ∉ d.shop.redemptions → row.flag = .ok → ∀ trip, row.tripId = some trip →
        (d.sync platform helperId items).WithinScope row.ticketId trip
  | .create _ => True
  | .update _ _ => True

/-- No item of the batch asks, when its turn comes, for the first boarding of a
ticket on a trip that the ticket is not good for. -/
def AsksWithinScope (platform : Platform) (d : Depot) : DepotEvent → Prop
  | .sync helperId items => ∀ before item after, items = before ++ item :: after →
      ∀ reached, AnsweredTo platform helperId before d.shop reached →
        ∀ ticket payload, FirstBoarding platform helperId reached item ticket payload →
          ∀ trip, item.tripId = some trip → d.WithinScope ticket.id trip
  | .create _ => True
  | .update _ _ => True

section
variable {platform : Platform} {d : Depot}

/-- A sync moves no ticket to another product. -/
theorem scopeOf_sync (helperId : HelperId) (items : List SyncItem) (id : TicketId) :
    (d.sync platform helperId items).scopeOf id = d.scopeOf id := by
  have hprogress := progress_sync platform helperId items d.shop
  have hproducts : ∀ productId, (d.sync platform helperId items).shop.getProduct productId =
      d.shop.getProduct productId := by
    intro productId
    unfold Db.getProduct
    rw [show (d.sync platform helperId items).shop.products = d.shop.products from
      (syncRedemptions_frame platform helperId items d.shop).2]
  unfold Depot.scopeOf
  cases hget : d.shop.getTicket id with
  | some ticket =>
      obtain ⟨hmem, hid⟩ := Db.getTicket_eq_some.mp hget
      obtain ⟨ticket', hmem', hticket, -⟩ := hprogress.tickets ticket hmem
      have hget' : (d.sync platform helperId items).shop.getTicket id = some ticket' :=
        Db.getTicket_eq_some.mpr ⟨hmem', hticket.id_eq.trans hid⟩
      rw [hget', Option.bind_some, Option.bind_some, hproducts,
        Ticket.productId_of_issued hticket.issued]
  | none =>
      cases hget' : (d.sync platform helperId items).shop.getTicket id with
      | none => rfl
      | some ticket' =>
          obtain ⟨hmem', hid'⟩ := Db.getTicket_eq_some.mp hget'
          obtain ⟨ticket, hmem, hticket⟩ := hprogress.origin ticket' hmem'
          have hfound := Db.getTicket_eq_some.mpr ⟨hmem, hticket.id_eq.symm.trans hid'⟩
          rw [hget] at hfound
          cases hfound

theorem withinScope_sync (helperId : HelperId) (items : List SyncItem) {ticket : TicketId}
    {trip : TripId} : (d.sync platform helperId items).WithinScope ticket trip ↔
      d.WithinScope ticket trip := by
  unfold Depot.WithinScope
  rw [scopeOf_sync]
  rfl

theorem recordsWithinScope_iff (event : DepotEvent) :
    RecordsWithinScope platform d event ↔ AsksWithinScope platform d event := by
  cases event with
  | sync helperId items =>
      constructor
      · intro h before item after hsplit reached hbefore ticket payload hfirst trip htrip
        obtain ⟨hrow, hnew, hok⟩ := (ok_row_syncRedemptions items d.shop).mpr
          ⟨before, item, after, hsplit, reached, hbefore, ticket, payload, hfirst, rfl⟩
        exact (withinScope_sync helperId items).mp (h _ hrow hnew hok trip htrip)
      · intro h row hrow hnew hok trip htrip
        obtain ⟨before, item, after, hsplit, reached, hbefore, ticket, payload, hfirst, rfl⟩ :=
          (ok_row_syncRedemptions items d.shop).mp ⟨hrow, hnew, hok⟩
        exact (withinScope_sync helperId items).mpr
          (h before item after hsplit reached hbefore ticket payload hfirst trip htrip)
  | create body => exact Iff.rfl
  | update productId body => exact Iff.rfl

end

/-- Ten rides on route 7. -/
def routeSevenPass : TicketProduct where
  id := 1
  type := .bulk
  name := "Route 7".toList
  pricePaisa := 20000
  rideCount := some 10
  validityDays := 30
  routeScope := some 7
  active := true

/-- Trip 3 is a bus of route 8. -/
def routeEightTrip : Trip where
  id := 3
  routeId := 8
  busId := 1
  helperId := doorHelper
  serviceDate := 0
  actualStart := none
  actualEnd := none
  status := .live

def twoRoutes : Depot where
  shop :=
    { Db.opening [routeSevenPass] [] with
      tickets := ⟨[doorTicket 1 firstTicketKey], by decide⟩
      trips := [3]
      helpers := [doorHelper] }
  fleet := ⟨[], [⟨7, true⟩, ⟨8, true⟩], ⟨[routeEightTrip], by decide⟩⟩
  trips := rfl
  products := by decide
  sold := by
    intro t ht
    obtain rfl := List.mem_singleton.mp ht
    decide

end UniTrack
