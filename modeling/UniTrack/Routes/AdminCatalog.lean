import UniTrack.Models.Fleet
import UniTrack.Models.UnitOfWork
import UniTrack.Routes.Auth

/-!
# What is for sale (`app/api/routes/admin_catalog.py`)

`create_product` and `update_product`. The router guard has already made sure
that the caller is an admin.
-/

namespace UniTrack

open UniTrack.Framework UniTrack.Python

/-- The tickets and the fleet are tables of one database: every trip that a
boarding may name is a trip of the fleet, an id names one product, and what was
sold is still in the catalogue. -/
structure Depot where
  shop : Db
  fleet : FleetDb
  trips : shop.trips = fleet.trips.rows.map (·.id)
  products : (shop.products.map (·.id)).Nodup
  sold : ∀ t ∈ shop.tickets, t.productId ∈ shop.products.map (·.id)

structure ProductCreate where
  type : ProductType
  name : Text
  pricePaisa : Int
  rideCount : Option Int := none
  validityDays : Int := 30
  routeScope : Option RouteId := none
  active : Bool := true
  nameLength : 1 ≤ name.length ∧ name.length ≤ 120
  price : 0 ≤ pricePaisa
  rides : ∀ n, rideCount = some n → 1 ≤ n
  validity : 1 ≤ validityDays

/-- The fields that the body sets. A field that is set may be null. -/
structure ProductUpdate where
  name : Option (Option Text) := none
  pricePaisa : Option (Option Int) := none
  rideCount : Option (Option Int) := none
  validityDays : Option (Option Int) := none
  routeScope : Option (Option RouteId) := none
  active : Option (Option Bool) := none
  nameLength : ∀ text, name = some (some text) → 1 ≤ text.length ∧ text.length ≤ 120
  price : ∀ n, pricePaisa = some (some n) → 0 ≤ n
  rides : ∀ n, rideCount = some (some n) → 1 ≤ n
  validity : ∀ n, validityDays = some (some n) → 1 ≤ n

/-- Every value fits its column. -/
def TicketProduct.Storable (p : TicketProduct) : Prop :=
  nul ∉ p.name ∧ p.pricePaisa < int4End ∧ (∀ n ∈ p.rideCount, n < int4End) ∧
    p.validityDays < int4End

instance TicketProduct.decidableStorable (p : TicketProduct) : Decidable p.Storable := by
  unfold TicketProduct.Storable
  infer_instance

/-- `route_scope` names no route. -/
def unknownScope (fleet : FleetDb) (scope : Option RouteId) : Bool :=
  scope.any fun route => (fleet.getRoute route).isNone

def newProduct (db : Db) (body : ProductCreate) : TicketProduct where
  id := freshKey (·.id) db.products
  type := body.type
  name := body.name
  pricePaisa := body.pricePaisa
  rideCount := body.rideCount
  validityDays := body.validityDays
  routeScope := body.routeScope
  active := body.active

/-- The product with the fields that are set; `none` when a column that takes
no null was set to it. -/
def editProduct (product : TicketProduct) (body : ProductUpdate) : Option TicketProduct := do
  let name ← body.name.getD (some product.name)
  let pricePaisa ← body.pricePaisa.getD (some product.pricePaisa)
  let validityDays ← body.validityDays.getD (some product.validityDays)
  let active ← body.active.getD (some product.active)
  return { product with
    name := name
    pricePaisa := pricePaisa
    rideCount := body.rideCount.getD product.rideCount
    validityDays := validityDays
    routeScope := body.routeScope.getD product.routeScope
    active := active }

/-- `UPDATE ticket_products SET … WHERE id = product.id`. -/
def written (product : TicketProduct) (products : List TicketProduct) : List TicketProduct :=
  products.map fun p => if p.id = product.id then product else p

theorem written_ids (product : TicketProduct) (products : List TicketProduct) :
    (written product products).map (·.id) = products.map (·.id) := by
  rw [written, List.map_map]
  apply List.map_congr_left
  intro p _
  show (if p.id = product.id then product else p).id = p.id
  split
  · rename_i hid
    exact hid.symm
  · rfl

namespace Depot

/-- `INSERT INTO ticket_products`. -/
def insertProduct (d : Depot) (product : TicketProduct)
    (hnew : product.id ∉ d.shop.products.map (·.id)) : Depot where
  shop := { d.shop with products := d.shop.products ++ [product] }
  fleet := d.fleet
  trips := d.trips
  products := by
    rw [List.map_append, List.nodup_append]
    refine ⟨d.products, List.pairwise_singleton _ _, ?_⟩
    rintro id hid id' hid' rfl
    obtain rfl := List.mem_singleton.mp hid'
    exact hnew hid
  sold := by
    intro t ht
    rw [List.map_append]
    exact List.mem_append_left _ (d.sold t ht)

def writeProduct (d : Depot) (product : TicketProduct) : Depot where
  shop := { d.shop with products := written product d.shop.products }
  fleet := d.fleet
  trips := d.trips
  products := by
    rw [written_ids]
    exact d.products
  sold := by
    rw [written_ids]
    exact d.sold

end Depot

theorem newProduct_fresh (db : Db) (body : ProductCreate) :
    (newProduct db body).id ∉ db.products.map (·.id) := by
  rintro hid
  obtain ⟨p, hp, hsame⟩ := List.mem_map.mp hid
  have hlt := lt_freshKey (fun p : TicketProduct => p.id) hp
  rw [show p.id = freshKey (fun p : TicketProduct => p.id) db.products from hsame] at hlt
  exact lt_irrefl _ hlt

/-- `create_product`. -/
def createProduct (body : ProductCreate) (d : Depot) : Depot × Reply TicketProduct :=
  if unknownScope d.fleet body.routeScope then (d, .refused 404 "Unknown route for route_scope")
  else
    let product := newProduct d.shop body
    if product.Storable then
      (d.insertProduct product (newProduct_fresh d.shop body), .ok product)
    else (d, .crashed)

/-- `update_product`. A null in a column that takes none, or a value that does
not fit, fails the commit. -/
def updateProduct (productId : ProductId) (body : ProductUpdate) (d : Depot) :
    Depot × Reply TicketProduct :=
  match d.shop.getProduct productId with
  | none => (d, .refused 404 "Unknown product")
  | some product =>
      if unknownScope d.fleet body.routeScope.join then
        (d, .refused 404 "Unknown route for route_scope")
      else match editProduct product body with
        | none => (d, .crashed)
        | some edited =>
            if edited.Storable then (d.writeProduct edited, .ok edited) else (d, .crashed)

end UniTrack
