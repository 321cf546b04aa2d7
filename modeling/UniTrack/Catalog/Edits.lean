import UniTrack.Routes.AdminCatalog
import UniTrack.Routes.Catalog

/-!
# Edits that say what they did

Four handlers take a partial edit: every field that is set is assigned to the
row, null or not, and the row is committed. A null belongs in some columns; in
the others the database refuses it, and so it does a value that does not fit.

§1 is what an edit should do, §2 the rows edits make, §3 the statements they
become, §4 each handler, §5 all four.
-/

namespace UniTrack

open UniTrack.Framework UniTrack.Python

/-! ## §1  An edit that is answered -/

/-- A field that is set takes the value that is sent; any other stays. -/
def SentTo {α : Type} (field : Option (Option α)) (old new : Option α) : Prop :=
  new = field.getD old

def ProductUpdate.Applied (body : ProductUpdate) (old new : TicketProduct) : Prop :=
  (new.id = old.id ∧ new.type = old.type) ∧
    SentTo body.name (some old.name) (some new.name) ∧
    SentTo body.pricePaisa (some old.pricePaisa) (some new.pricePaisa) ∧
    SentTo body.rideCount old.rideCount new.rideCount ∧
    SentTo body.validityDays (some old.validityDays) (some new.validityDays) ∧
    SentTo body.routeScope old.routeScope new.routeScope ∧
    SentTo body.active (some old.active) (some new.active)

def StopUpdate.Applied (body : StopUpdate) (old new : Stop) : Prop :=
  new.id = old.id ∧ SentTo body.name (some old.name) (some new.name) ∧
    SentTo body.lat (some old.lat) (some new.lat) ∧ SentTo body.lng (some old.lng) (some new.lng)

def RouteUpdate.Applied (body : RouteUpdate) (old new : RouteRow) : Prop :=
  new.id = old.id ∧ SentTo body.name (some old.name) (some new.name) ∧
    SentTo body.direction (some old.direction) (some new.direction) ∧
    SentTo body.polyline old.polyline new.polyline ∧
    SentTo body.isActive (some old.isActive) (some new.isActive)

def BusUpdate.Applied (body : BusUpdate) (old new : BusRow) : Prop :=
  new.id = old.id ∧ SentTo body.regNo (some old.regNo) (some new.regNo) ∧
    SentTo body.nickname old.nickname new.nickname ∧
    SentTo body.capacity (some old.capacity) (some new.capacity) ∧
    SentTo body.status (some old.status) (some new.status)

/-- The edit is committed as it was sent, or refused with a 4xx whose detail is
true of it, and then nothing has changed. -/
inductive EditMet {S Row Out : Type} (applied : Row → Prop) (stored : Row → S → Prop)
    (shown : Row → Out) (faulty : String → Prop) (before : S) : S × Reply Out → Prop
  | committed (new : Row) (after : S) (happlied : applied new) (hstored : stored new after) :
      EditMet applied stored shown faulty before (after, .ok (shown new))
  | refused (code : ℕ) (detail : String) (hcode : 400 ≤ code ∧ code < 500)
      (hfault : faulty detail) :
      EditMet applied stored shown faulty before (before, .refused code detail)

/-- The one fault `update_product` names. -/
def ProductUpdate.Faulty (d : Depot) (body : ProductUpdate) (detail : String) : Prop :=
  detail = "Unknown route for route_scope" ∧
    ∃ scope, body.routeScope = some (some scope) ∧ d.fleet.getRoute scope = none

/-- Another route has the name and the direction that the edit gives. -/
def RouteUpdate.Faulty (db : CatalogDb) (old : RouteRow) (body : RouteUpdate) (detail : String) :
    Prop :=
  detail = "Another route already has that name and direction" ∧
    ∃ new, body.Applied old new ∧ ∃ other ∈ db.routes, other.id ≠ old.id ∧
      other.name = new.name ∧ other.direction = new.direction

/-- Another bus has the registration that the edit gives. -/
def BusUpdate.Faulty (db : CatalogDb) (old : BusRow) (body : BusUpdate) (detail : String) : Prop :=
  detail = "Another bus already has that registration" ∧
    ∃ new, body.Applied old new ∧ ∃ other ∈ db.buses, other.id ≠ old.id ∧ other.regNo = new.regNo

def ProductEditMet (d : Depot) (product : TicketProduct) (body : ProductUpdate) : Prop :=
  EditMet (body.Applied product) (fun new d' => d' = d.writeProduct new) id (body.Faulty d) d
    (updateProduct product.id body d)

/-- The row stands in the place of the old one, in a table that is otherwise
the same, with every other table. -/
def StopStored (db : CatalogDb) (new : Stop) (db' : CatalogDb) : Prop :=
  db'.stops.rows = (db.stops.rows.map fun s => if s.id = new.id then new else s) ∧
    db'.routes = db.routes ∧ db'.routeStops = db.routeStops ∧ db'.buses = db.buses

def RouteStored (db : CatalogDb) (new : RouteRow) (db' : CatalogDb) : Prop :=
  db'.routes.rows = (db.routes.rows.map fun r => if r.id = new.id then new else r) ∧
    db'.stops = db.stops ∧ db'.routeStops = db.routeStops ∧ db'.buses = db.buses

def BusStored (db : CatalogDb) (new : BusRow) (db' : CatalogDb) : Prop :=
  db'.buses.rows = (db.buses.rows.map fun b => if b.id = new.id then new else b) ∧
    db'.stops = db.stops ∧ db'.routes = db.routes ∧ db'.routeStops = db.routeStops

/-- `update_stop` names no fault of a body. -/
def StopEditMet (db : CatalogDb) (stop : Stop) (body : StopUpdate) : Prop :=
  EditMet (body.Applied stop) (StopStored db) id (fun _ => False) db (updateStop stop.id body db)

def RouteEditMet (db : CatalogDb) (route : RouteRow) (body : RouteUpdate) : Prop :=
  EditMet (body.Applied route) (RouteStored db) routeOut (body.Faulty db route) db
    (updateRoute route.id body db)

def BusEditMet (db : CatalogDb) (bus : BusRow) (body : BusUpdate) : Prop :=
  EditMet (body.Applied bus) (BusStored db) id (body.Faulty db bus) db (updateBus bus.id body db)

/-! ## §2  The rows edits make -/

/-- No column that takes no null is set to it. -/
def ProductUpdate.NoNull (body : ProductUpdate) : Prop :=
  body.name ≠ some none ∧ body.pricePaisa ≠ some none ∧ body.validityDays ≠ some none ∧
    body.active ≠ some none

def StopUpdate.NoNull (body : StopUpdate) : Prop :=
  body.name ≠ some none ∧ body.lat ≠ some none ∧ body.lng ≠ some none

def RouteUpdate.NoNull (body : RouteUpdate) : Prop :=
  body.name ≠ some none ∧ body.direction ≠ some none ∧ body.isActive ≠ some none

def BusUpdate.NoNull (body : BusUpdate) : Prop :=
  body.regNo ≠ some none ∧ body.capacity ≠ some none ∧ body.status ≠ some none

instance ProductUpdate.decidableNoNull (body : ProductUpdate) : Decidable body.NoNull :=
  inferInstanceAs (Decidable (_ ∧ _))

instance StopUpdate.decidableNoNull (body : StopUpdate) : Decidable body.NoNull :=
  inferInstanceAs (Decidable (_ ∧ _))

instance RouteUpdate.decidableNoNull (body : RouteUpdate) : Decidable body.NoNull :=
  inferInstanceAs (Decidable (_ ∧ _))

instance BusUpdate.decidableNoNull (body : BusUpdate) : Decidable body.NoNull :=
  inferInstanceAs (Decidable (_ ∧ _))

/-- A column keeps a value unless it is set to null. -/
theorem column_some_iff {α : Type} {field : Option (Option α)} (old : α) :
    (∃ new, field.getD (some old) = some new) ↔ field ≠ some none := by
  cases field with
  | none => simp
  | some value => cases value <;> simp

theorem editProduct_eq_some {old new : TicketProduct} {body : ProductUpdate} :
    editProduct old body = some new ↔ body.Applied old new := by
  unfold editProduct ProductUpdate.Applied SentTo
  simp only [Option.bind_eq_bind, Option.bind_eq_some_iff, Option.pure_def, Option.some.injEq]
  constructor
  · rintro ⟨name, hname, price, hprice, days, hdays, active, hactive, rfl⟩
    exact ⟨⟨rfl, rfl⟩, hname.symm, hprice.symm, rfl, hdays.symm, rfl, hactive.symm⟩
  · rintro ⟨⟨hid, htype⟩, hname, hprice, hrides, hdays, hscope, hactive⟩
    refine ⟨_, hname.symm, _, hprice.symm, _, hdays.symm, _, hactive.symm, ?_⟩
    cases new
    simp_all

theorem editStop_eq_some {old new : Stop} {body : StopUpdate} :
    editStop old body = some new ↔ body.Applied old new := by
  unfold editStop StopUpdate.Applied SentTo
  simp only [Option.bind_eq_bind, Option.bind_eq_some_iff, Option.pure_def, Option.some.injEq]
  constructor
  · rintro ⟨name, hname, lat, hlat, lng, hlng, rfl⟩
    exact ⟨rfl, hname.symm, hlat.symm, hlng.symm⟩
  · rintro ⟨hid, hname, hlat, hlng⟩
    refine ⟨_, hname.symm, _, hlat.symm, _, hlng.symm, ?_⟩
    cases new
    simp_all

theorem editRoute_eq_some {old new : RouteRow} {body : RouteUpdate} :
    editRoute old body = some new ↔ body.Applied old new := by
  unfold editRoute RouteUpdate.Applied SentTo
  simp only [Option.bind_eq_bind, Option.bind_eq_some_iff, Option.pure_def, Option.some.injEq]
  constructor
  · rintro ⟨name, hname, direction, hdirection, active, hactive, rfl⟩
    exact ⟨rfl, hname.symm, hdirection.symm, rfl, hactive.symm⟩
  · rintro ⟨hid, hname, hdirection, hline, hactive⟩
    refine ⟨_, hname.symm, _, hdirection.symm, _, hactive.symm, ?_⟩
    obtain ⟨⟨id, active⟩, name, direction, line⟩ := new
    simp_all

theorem editBus_eq_some {old new : BusRow} {body : BusUpdate} :
    editBus old body = some new ↔ body.Applied old new := by
  unfold editBus BusUpdate.Applied SentTo
  simp only [Option.bind_eq_bind, Option.bind_eq_some_iff, Option.pure_def, Option.some.injEq]
  constructor
  · rintro ⟨regNo, hregNo, capacity, hcapacity, status, hstatus, rfl⟩
    exact ⟨rfl, hregNo.symm, rfl, hcapacity.symm, hstatus.symm⟩
  · rintro ⟨hid, hregNo, hnickname, hcapacity, hstatus⟩
    refine ⟨_, hregNo.symm, _, hcapacity.symm, _, hstatus.symm, ?_⟩
    obtain ⟨⟨id, status⟩, regNo, nickname, capacity⟩ := new
    simp_all

theorem editProduct_isSome (old : TicketProduct) {body : ProductUpdate} :
    (editProduct old body).isSome ↔ body.NoNull := by
  unfold editProduct ProductUpdate.NoNull
  simp only [Option.isSome_iff_exists, Option.bind_eq_bind, Option.bind_eq_some_iff,
    Option.pure_def, Option.some.injEq]
  rw [← column_some_iff old.name, ← column_some_iff old.pricePaisa,
    ← column_some_iff old.validityDays, ← column_some_iff old.active]
  constructor
  · rintro ⟨new, name, hname, price, hprice, days, hdays, active, hactive, -⟩
    exact ⟨⟨name, hname⟩, ⟨price, hprice⟩, ⟨days, hdays⟩, active, hactive⟩
  · rintro ⟨⟨name, hname⟩, ⟨price, hprice⟩, ⟨days, hdays⟩, active, hactive⟩
    exact ⟨_, name, hname, price, hprice, days, hdays, active, hactive, rfl⟩

theorem editStop_isSome (old : Stop) {body : StopUpdate} :
    (editStop old body).isSome ↔ body.NoNull := by
  unfold editStop StopUpdate.NoNull
  simp only [Option.isSome_iff_exists, Option.bind_eq_bind, Option.bind_eq_some_iff,
    Option.pure_def, Option.some.injEq]
  rw [← column_some_iff old.name, ← column_some_iff old.lat, ← column_some_iff old.lng]
  constructor
  · rintro ⟨new, name, hname, lat, hlat, lng, hlng, -⟩
    exact ⟨⟨name, hname⟩, ⟨lat, hlat⟩, lng, hlng⟩
  · rintro ⟨⟨name, hname⟩, ⟨lat, hlat⟩, lng, hlng⟩
    exact ⟨_, name, hname, lat, hlat, lng, hlng, rfl⟩

theorem editRoute_isSome (old : RouteRow) {body : RouteUpdate} :
    (editRoute old body).isSome ↔ body.NoNull := by
  unfold editRoute RouteUpdate.NoNull
  simp only [Option.isSome_iff_exists, Option.bind_eq_bind, Option.bind_eq_some_iff,
    Option.pure_def, Option.some.injEq]
  rw [← column_some_iff old.name, ← column_some_iff old.direction,
    ← column_some_iff old.isActive]
  constructor
  · rintro ⟨new, name, hname, direction, hdirection, active, hactive, -⟩
    exact ⟨⟨name, hname⟩, ⟨direction, hdirection⟩, active, hactive⟩
  · rintro ⟨⟨name, hname⟩, ⟨direction, hdirection⟩, active, hactive⟩
    exact ⟨_, name, hname, direction, hdirection, active, hactive, rfl⟩

theorem editBus_isSome (old : BusRow) {body : BusUpdate} :
    (editBus old body).isSome ↔ body.NoNull := by
  unfold editBus BusUpdate.NoNull
  simp only [Option.isSome_iff_exists, Option.bind_eq_bind, Option.bind_eq_some_iff,
    Option.pure_def, Option.some.injEq]
  rw [← column_some_iff old.regNo, ← column_some_iff old.capacity,
    ← column_some_iff old.status]
  constructor
  · rintro ⟨new, regNo, hregNo, capacity, hcapacity, status, hstatus, -⟩
    exact ⟨⟨regNo, hregNo⟩, ⟨capacity, hcapacity⟩, status, hstatus⟩
  · rintro ⟨⟨regNo, hregNo⟩, ⟨capacity, hcapacity⟩, status, hstatus⟩
    exact ⟨_, regNo, hregNo, capacity, hcapacity, status, hstatus, rfl⟩

/-! ## §3  The statements they become -/

section
variable {db : CatalogDb}

/-- An edit of a stop cannot collide with another stop. -/
theorem writeStop_stored {old new : Stop} (hold : old ∈ db.stops) (hid : new.id = old.id) :
    ∃ db', db.writeStop new = .ok db' ∧ StopStored db new db' := by
  have hkey : ∀ a b : Stop, a.id = b.id → UniqueKeys.clash a b := fun a b => Stop.clash_iff.mpr
  unfold CatalogDb.writeStop
  split
  · rename_i hnone
    obtain ⟨other, -, hne, hclash⟩ := (Table.rewrite_keyed_eq_none hkey hold hid).mp hnone
    exact absurd (Stop.clash_iff.mp hclash) hne
  · rename_i stops hre
    exact ⟨_, rfl, Table.rewrite_eq_some hre, rfl, rfl, rfl⟩

/-- An edit of a route is refused exactly when it takes another route's name
and direction. -/
theorem writeRoute_cases {old new : RouteRow} (hold : old ∈ db.routes) (hid : new.id = old.id) :
    (∃ db', db.writeRoute new = .ok db' ∧ RouteStored db new db') ∨
      (db.writeRoute new = .error .integrity ∧
        ∃ other ∈ db.routes, other.id ≠ old.id ∧ other.name = new.name ∧
          other.direction = new.direction) := by
  have hkey : ∀ a b : RouteRow, a.id = b.id → UniqueKeys.clash a b :=
    fun a b h => RouteRow.clash_iff.mpr (Or.inl h)
  unfold CatalogDb.writeRoute
  split
  · rename_i hnone
    obtain ⟨other, hother, hne, hclash⟩ := (Table.rewrite_keyed_eq_none hkey hold hid).mp hnone
    have htaken := (RouteRow.clash_iff.mp hclash).resolve_left hne
    exact Or.inr ⟨rfl, other, hother, hid ▸ hne, htaken⟩
  · rename_i routes hre
    exact Or.inl ⟨_, rfl, Table.rewrite_eq_some hre, rfl, rfl, rfl⟩

/-- An edit of a bus is refused exactly when it takes another bus's
registration. -/
theorem writeBus_cases {old new : BusRow} (hold : old ∈ db.buses) (hid : new.id = old.id) :
    (∃ db', db.writeBus new = .ok db' ∧ BusStored db new db') ∨
      (db.writeBus new = .error .integrity ∧
        ∃ other ∈ db.buses, other.id ≠ old.id ∧ other.regNo = new.regNo) := by
  have hkey : ∀ a b : BusRow, a.id = b.id → UniqueKeys.clash a b :=
    fun a b h => BusRow.clash_iff.mpr (Or.inl h)
  unfold CatalogDb.writeBus
  split
  · rename_i hnone
    obtain ⟨other, hother, hne, hclash⟩ := (Table.rewrite_keyed_eq_none hkey hold hid).mp hnone
    have htaken := (BusRow.clash_iff.mp hclash).resolve_left hne
    exact Or.inr ⟨rfl, other, hother, hid ▸ hne, htaken⟩
  · rename_i buses hre
    exact Or.inl ⟨_, rfl, Table.rewrite_eq_some hre, rfl, rfl, rfl⟩

theorem commitEdit_cases {Row : Type} (fits : Bool) (edited : Option Row)
    (write : Row → Except DbError CatalogDb) :
    (fits = false ∧ commitEdit fits edited write = .error .data) ∨
      (fits = true ∧ edited = none ∧ commitEdit fits edited write = .error .integrity) ∨
        (fits = true ∧ ∃ row, edited = some row ∧
          commitEdit fits edited write = (write row).map fun db => (db, row)) := by
  unfold commitEdit
  cases fits with
  | false => exact Or.inl ⟨rfl, rfl⟩
  | true =>
      cases edited with
      | none => exact Or.inr (Or.inl ⟨rfl, rfl, rfl⟩)
      | some row => exact Or.inr (Or.inr ⟨rfl, row, rfl, rfl⟩)

end

/-! ## §4  Each handler -/

section
variable {S Row Out : Type} {applied : Row → Prop} {stored : Row → S → Prop} {shown : Row → Out}
  {faulty : String → Prop} {before after : S}

theorem EditMet.not_crashed : ¬ EditMet applied stored shown faulty before (after, .crashed) := by
  rintro ⟨⟩

theorem EditMet.of_refused {code : ℕ} {detail : String}
    (h : EditMet applied stored shown faulty before (after, .refused code detail)) :
    faulty detail := by
  cases h with
  | refused code detail hcode hfault => exact hfault

end

section
variable {db : CatalogDb}

theorem stopEditMet_iff {stop : Stop} {body : StopUpdate} (hstop : stop ∈ db.stops) :
    StopEditMet db stop body ↔ body.NoNull ∧ body.Storable := by
  have hfound : db.getStop stop.id = some stop := CatalogDb.getStop_eq_some.mpr ⟨hstop, rfl⟩
  unfold StopEditMet updateStop
  rw [hfound]
  dsimp only
  rcases commitEdit_cases body.Storable (editStop stop body) db.writeStop with
    ⟨hfits, hcommit⟩ | ⟨-, hnull, hcommit⟩ | ⟨hfits, new, hnew, hcommit⟩
  · rw [hcommit]
    exact iff_of_false EditMet.not_crashed fun h => of_decide_eq_false hfits h.2
  · rw [hcommit]
    refine iff_of_false EditMet.not_crashed fun h => ?_
    exact Option.not_isSome_iff_eq_none.mpr hnull ((editStop_isSome stop).mpr h.1)
  · have happlied := editStop_eq_some.mp hnew
    obtain ⟨db', hwrite, hstored⟩ := writeStop_stored hstop happlied.1
    rw [hcommit, hwrite]
    exact iff_of_true (EditMet.committed new db' happlied hstored)
      ⟨(editStop_isSome stop).mp (Option.isSome_of_eq_some hnew), of_decide_eq_true hfits⟩

theorem routeEditMet_iff {route : RouteRow} {body : RouteUpdate} (hroute : route ∈ db.routes) :
    RouteEditMet db route body ↔ body.NoNull ∧ body.Storable := by
  have hfound : db.getRoute route.id = some route := CatalogDb.getRoute_eq_some.mpr ⟨hroute, rfl⟩
  unfold RouteEditMet updateRoute
  rw [hfound]
  dsimp only
  rcases commitEdit_cases body.Storable (editRoute route body) db.writeRoute with
    ⟨hfits, hcommit⟩ | ⟨-, hnull, hcommit⟩ | ⟨hfits, new, hnew, hcommit⟩
  · rw [hcommit]
    exact iff_of_false EditMet.not_crashed fun h => of_decide_eq_false hfits h.2
  · -- the detail speaks of a row that the edit cannot make
    rw [hcommit]
    refine iff_of_false ?_ ?_
    · intro hmet
      obtain ⟨-, new, hnew, -⟩ := hmet.of_refused
      rw [editRoute_eq_some.mpr hnew] at hnull
      cases hnull
    · intro h
      exact Option.not_isSome_iff_eq_none.mpr hnull ((editRoute_isSome route).mpr h.1)
  · have happlied := editRoute_eq_some.mp hnew
    have hsound : body.NoNull ∧ body.Storable :=
      ⟨(editRoute_isSome route).mp (Option.isSome_of_eq_some hnew), of_decide_eq_true hfits⟩
    rcases writeRoute_cases hroute happlied.1 with ⟨db', hwrite, hstored⟩ |
      ⟨hwrite, other, hother, hne, hname, hdirection⟩
    · rw [hcommit, hwrite]
      exact iff_of_true (EditMet.committed new db' happlied hstored) hsound
    · rw [hcommit, hwrite]
      exact iff_of_true (EditMet.refused 409 _ (by decide)
        ⟨rfl, new, happlied, other, hother, hne, hname, hdirection⟩) hsound

theorem busEditMet_iff {bus : BusRow} {body : BusUpdate} (hbus : bus ∈ db.buses) :
    BusEditMet db bus body ↔ body.NoNull ∧ body.Storable := by
  have hfound : db.getBus bus.id = some bus := CatalogDb.getBus_eq_some.mpr ⟨hbus, rfl⟩
  unfold BusEditMet updateBus
  rw [hfound]
  dsimp only
  rcases commitEdit_cases body.Storable (editBus bus body) db.writeBus with
    ⟨hfits, hcommit⟩ | ⟨-, hnull, hcommit⟩ | ⟨hfits, new, hnew, hcommit⟩
  · rw [hcommit]
    exact iff_of_false EditMet.not_crashed fun h => of_decide_eq_false hfits h.2
  · rw [hcommit]
    refine iff_of_false ?_ ?_
    · intro hmet
      obtain ⟨-, new, hnew, -⟩ := hmet.of_refused
      rw [editBus_eq_some.mpr hnew] at hnull
      cases hnull
    · intro h
      exact Option.not_isSome_iff_eq_none.mpr hnull ((editBus_isSome bus).mpr h.1)
  · have happlied := editBus_eq_some.mp hnew
    have hsound : body.NoNull ∧ body.Storable :=
      ⟨(editBus_isSome bus).mp (Option.isSome_of_eq_some hnew), of_decide_eq_true hfits⟩
    rcases writeBus_cases hbus happlied.1 with ⟨db', hwrite, hstored⟩ |
      ⟨hwrite, other, hother, hne, hregNo⟩
    · rw [hcommit, hwrite]
      exact iff_of_true (EditMet.committed new db' happlied hstored) hsound
    · rw [hcommit, hwrite]
      exact iff_of_true (EditMet.refused 409 _ (by decide)
        ⟨rfl, new, happlied, other, hother, hne, hregNo⟩) hsound

end

/-- The route scope is unknown, or no column that takes no null is set to it
and the edited row fits. -/
def ProductUpdate.Sound (d : Depot) (product : TicketProduct) (body : ProductUpdate) : Prop :=
  (∃ scope, body.routeScope = some (some scope) ∧ d.fleet.getRoute scope = none) ∨
    (body.NoNull ∧ ∀ new, body.Applied product new → new.Storable)

theorem unknownScope_iff {fleet : FleetDb} {field : Option (Option RouteId)} :
    unknownScope fleet field.join = true ↔
      ∃ scope, field = some (some scope) ∧ fleet.getRoute scope = none := by
  unfold unknownScope
  rw [Option.any_eq_true]
  simp only [Option.join_eq_some_iff, Option.isNone_iff_eq_none]

theorem getProduct_stored {d : Depot} {product : TicketProduct}
    (h : product ∈ d.shop.products) : d.shop.getProduct product.id = some product := by
  unfold Db.getProduct
  cases hfound : d.shop.products.find? (fun p => p.id == product.id) with
  | none =>
      have hmissing := List.find?_eq_none.mp hfound product h
      simp at hmissing
  | some p =>
      have hid := List.find?_some hfound
      rw [beq_iff_eq] at hid
      have hmem := List.mem_of_find?_eq_some hfound
      rw [List.inj_on_of_nodup_map d.products hmem h hid]

theorem productEditMet_iff {d : Depot} {product : TicketProduct} {body : ProductUpdate}
    (hproduct : product ∈ d.shop.products) :
    ProductEditMet d product body ↔ body.Sound d product := by
  unfold ProductEditMet updateProduct ProductUpdate.Sound
  rw [getProduct_stored hproduct]
  dsimp only
  by_cases hscope : unknownScope d.fleet body.routeScope.join = true
  · rw [if_pos hscope]
    have hunknown := unknownScope_iff.mp hscope
    exact iff_of_true (EditMet.refused 404 _ (by decide) ⟨rfl, hunknown⟩) (Or.inl hunknown)
  · rw [if_neg hscope, or_iff_right fun h => hscope (unknownScope_iff.mpr h)]
    cases hedited : editProduct product body with
    | none =>
        refine iff_of_false EditMet.not_crashed fun h => ?_
        exact Option.not_isSome_iff_eq_none.mpr hedited ((editProduct_isSome product).mpr h.1)
    | some new =>
        have happlied := editProduct_eq_some.mp hedited
        dsimp only
        by_cases hfits : new.Storable
        · rw [if_pos hfits]
          refine iff_of_true (EditMet.committed new _ happlied rfl)
            ⟨(editProduct_isSome product).mp (Option.isSome_of_eq_some hedited), ?_⟩
          intro new' happlied'
          rw [editProduct_eq_some.mpr happlied'] at hedited
          cases hedited
          exact hfits
        · rw [if_neg hfits]
          exact iff_of_false EditMet.not_crashed fun h => hfits (h.2 new happlied)

/-! ## §5  All four -/

/-- **When an edit is answered**: exactly when it sets no column to a null that
the column does not take, and sends nothing that does not fit; an unknown route
scope is named in any case. -/
theorem edits_met_iff (d : Depot) (db : CatalogDb) :
    (∀ (product : TicketProduct) (body : ProductUpdate), product ∈ d.shop.products →
        (ProductEditMet d product body ↔ body.Sound d product)) ∧
      (∀ (stop : Stop) (body : StopUpdate), stop ∈ db.stops →
        (StopEditMet db stop body ↔ body.NoNull ∧ body.Storable)) ∧
      (∀ (route : RouteRow) (body : RouteUpdate), route ∈ db.routes →
        (RouteEditMet db route body ↔ body.NoNull ∧ body.Storable)) ∧
      ∀ (bus : BusRow) (body : BusUpdate), bus ∈ db.buses →
        (BusEditMet db bus body ↔ body.NoNull ∧ body.Storable) :=
  ⟨fun _ _ hproduct => productEditMet_iff hproduct, fun _ _ hstop => stopEditMet_iff hstop,
    fun _ _ hroute => routeEditMet_iff hroute, fun _ _ hbus => busEditMet_iff hbus⟩

/-! One row of each kind, and a body for each. -/

def campusGate : Stop where
  id := 1
  name := "Campus gate".toList
  lat := 23
  lng := 90

def shuttle : RouteRow where
  id := 1
  isActive := true
  name := "Shuttle".toList
  direction := .inbound
  polyline := none

def busSeven : BusRow where
  id := 7
  status := .active
  regNo := "DHK-7".toList
  nickname := none
  capacity := 40

def monthPass : TicketProduct where
  id := 1
  type := .package
  name := "Month".toList
  pricePaisa := 50000
  rideCount := none
  validityDays := 30
  routeScope := none
  active := true

def oneOfEach : CatalogDb where
  stops := ⟨[campusGate], List.pairwise_singleton _ _⟩
  routes := ⟨[shuttle], List.pairwise_singleton _ _⟩
  routeStops := .empty
  buses := ⟨[busSeven], List.pairwise_singleton _ _⟩
  routed rs h := absurd h (Table.not_mem_empty rs)
  stopped rs h := absurd h (Table.not_mem_empty rs)

def onePass : Depot where
  shop := .opening [monthPass] []
  fleet := { buses := [], routes := [], trips := .empty }
  trips := rfl
  products := List.nodup_singleton _
  sold t h := absurd h (Table.not_mem_empty t)

/-- `{"name": null}`. -/
def nameless : StopUpdate where
  name := some none
  nameLength := by rintro _ ⟨⟩
  latRange := by rintro _ ⟨⟩
  lngRange := by rintro _ ⟨⟩

/-- `{"is_active": null}`. -/
def undecided : RouteUpdate where
  isActive := some none
  nameLength := by rintro _ ⟨⟩

/-- `{"capacity": null}`. -/
def sizeless : BusUpdate where
  capacity := some none
  regNoLength := by rintro _ ⟨⟩
  nicknameLength := by rintro _ ⟨⟩
  capacityRange := by rintro _ ⟨⟩

/-- `{"price_paisa": 2147483648}`. -/
def priceless : ProductUpdate where
  pricePaisa := some (some 2147483648)
  nameLength := by rintro _ ⟨⟩
  price := by
    rintro n ⟨⟩
    decide
  rides := by rintro _ ⟨⟩
  validity := by rintro _ ⟨⟩

/-- A null crashes `update_stop`, and makes `update_route` and `update_bus`
speak of a duplicate where there is one row; a price past the column's width
crashes `update_product`. -/
theorem edits_unmet :
    ((updateStop 1 nameless oneOfEach).2 = .crashed ∧
        ¬ StopEditMet oneOfEach campusGate nameless) ∧
      ((updateRoute 1 undecided oneOfEach).2 =
          .refused 409 "Another route already has that name and direction" ∧
        ¬ RouteEditMet oneOfEach shuttle undecided) ∧
      ((updateBus 7 sizeless oneOfEach).2 =
          .refused 409 "Another bus already has that registration" ∧
        ¬ BusEditMet oneOfEach busSeven sizeless) ∧
      (updateProduct 1 priceless onePass).2 = .crashed ∧
        ¬ ProductEditMet onePass monthPass priceless := by
  refine ⟨⟨by decide, ?_⟩, ⟨by decide, ?_⟩, ⟨by decide, ?_⟩, by decide, ?_⟩
  · intro hmet
    exact ((stopEditMet_iff List.mem_cons_self).mp hmet).1.1 rfl
  · intro hmet
    exact ((routeEditMet_iff List.mem_cons_self).mp hmet).1.2.2 rfl
  · intro hmet
    exact ((busEditMet_iff List.mem_cons_self).mp hmet).1.2.1 rfl
  · intro hmet
    rcases (productEditMet_iff List.mem_cons_self).mp hmet with ⟨scope, hscope, -⟩ | ⟨-, hfits⟩
    · cases hscope
    · have happlied : priceless.Applied monthPass _ := editProduct_eq_some.mp rfl
      exact absurd (hfits _ happlied) (by decide)

def renamed : StopUpdate where
  name := some (some "Main gate".toList)
  nameLength := by
    rintro text ⟨⟩
    decide
  latRange := by rintro _ ⟨⟩
  lngRange := by rintro _ ⟨⟩

def retired : RouteUpdate where
  isActive := some (some false)
  nameLength := by rintro _ ⟨⟩

def repainted : BusUpdate where
  nickname := some none
  regNoLength := by rintro _ ⟨⟩
  nicknameLength := by rintro _ ⟨⟩
  capacityRange := by rintro _ ⟨⟩

/-- The price that does not fit is not answered; an edit of each other kind is,
one of them with a null. -/
theorem edits_met_oneOfEach :
    ¬ ProductEditMet onePass monthPass priceless ∧ StopEditMet oneOfEach campusGate renamed ∧
      RouteEditMet oneOfEach shuttle retired ∧ BusEditMet oneOfEach busSeven repainted := by
  obtain ⟨hproduct, hstop, hroute, hbus⟩ := edits_met_iff onePass oneOfEach
  refine ⟨?_, (hstop _ _ List.mem_cons_self).mpr (by decide),
    (hroute _ _ List.mem_cons_self).mpr (by decide), (hbus _ _ List.mem_cons_self).mpr (by decide)⟩
  intro hmet
  rcases (hproduct _ _ List.mem_cons_self).mp hmet with ⟨scope, hscope, -⟩ | ⟨-, hfits⟩
  · cases hscope
  · have happlied : priceless.Applied monthPass _ := editProduct_eq_some.mp rfl
    exact absurd (hfits _ happlied) (by decide)

end UniTrack
