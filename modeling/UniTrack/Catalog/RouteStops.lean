import Mathlib.Data.List.Dedup
import UniTrack.Routes.Catalog

/-!
# The stops of a route, whatever operators ask for

The rows of a route are only ever written by `replace_route_stops`, which
numbers a submitted list by position. So they carry 1..n, whichever stops and
routes come and go meanwhile.

§1 is the run, §2 what is promised of the state and of each request, §3 what a
replacement leaves, §4 which requests are turned away, §5 every run.
-/

namespace UniTrack

open UniTrack.Framework UniTrack.Python

/-! ## §1  Requests, one at a time -/

inductive CatalogRequest where
  | createStop (id : StopId) (body : StopCreate)
  | deleteStop (stopId : StopId)
  | createRoute (id : RouteId) (body : RouteCreate)
  | replaceRouteStops (routeId : RouteId) (body : RouteStopsReplace)

def catalogStep (db : CatalogDb) : CatalogRequest → CatalogDb
  | .createStop id body => (createStop id body db).1
  | .deleteStop stopId => (deleteStop stopId db).1
  | .createRoute id body => (createRoute id body db).1
  | .replaceRouteStops routeId body => (replaceRouteStops routeId body db).1

/-! ## §2  What is promised -/

/-- The rows carry the numbers 1..n. -/
def Numbered (rows : List RouteStop) : Prop :=
  rows.map (·.seq) = (List.range' 1 rows.length).map fun n : ℕ => (n : Int)

/-- A state of the catalogue: every route's stops are numbered. -/
structure Catalog extends CatalogDb where
  numbered : ∀ routeId, Numbered (toCatalogDb.stopsOf routeId)

instance Catalog.inhabited : Inhabited Catalog :=
  ⟨{ toCatalogDb := .empty, numbered := fun _ => rfl }⟩

/-- Every route visits distinct stops, which exist, in places 1..n. -/
structure CatalogDb.WellPlaced (db : CatalogDb) : Prop where
  numbered : ∀ routeId, Numbered (db.stopsOf routeId)
  distinct : ∀ routeId, ((db.stopsOf routeId).map (·.stopId)).Nodup
  existing : ∀ routeId, ∀ rs ∈ db.stopsOf routeId, ∃ s ∈ db.stops, s.id = rs.stopId

/-- The route is unknown, a stop is listed twice, or a stop is unknown. -/
def Unplaceable (db : CatalogDb) (routeId : RouteId) (body : RouteStopsReplace) : Prop :=
  (∀ r ∈ db.routes, r.id ≠ routeId) ∨ ¬ (body.stops.map (·.stopId)).Nodup ∨
    ∃ item ∈ body.stops, ∀ s ∈ db.stops, s.id ≠ item.stopId

/-- The stop is unknown, or a route visits it. -/
def Undeletable (db : CatalogDb) (stopId : StopId) : Prop :=
  (∀ s ∈ db.stops, s.id ≠ stopId) ∨ ∃ rs ∈ db.routeStops, rs.stopId = stopId

/-- A replacement that succeeds reads back as submitted and touches no other
route; one that does not leaves everything as it was. -/
structure ReplaceMet (db : CatalogDb) (routeId : RouteId) (body : RouteStopsReplace) : Prop where
  refused : Unplaceable db routeId body →
    ∃ code detail, (replaceRouteStops routeId body db).2 = .refused code detail
  accepted : ¬ Unplaceable db routeId body →
    (∀ item ∈ body.stops, ∀ n ∈ item.scheduledOffsetMin, n < int4End) →
      ∃ detail, (replaceRouteStops routeId body db).2 = .ok detail
  rejected : (∀ detail, (replaceRouteStops routeId body db).2 ≠ .ok detail) →
    (replaceRouteStops routeId body db).1 = db
  readBack : ∀ detail, (replaceRouteStops routeId body db).2 = .ok detail →
    routeDetail (replaceRouteStops routeId body db).1 routeId = .ok detail ∧
      detail.stops.map (fun out => (out.stop.id, out.scheduledOffsetMin)) =
        body.stops.map fun item => (item.stopId, item.scheduledOffsetMin)
  others : ∀ detail, (replaceRouteStops routeId body db).2 = .ok detail →
    (db.SameButPlaces (replaceRouteStops routeId body db).1) ∧
      ∀ other ≠ routeId, (replaceRouteStops routeId body db).1.stopsOf other = db.stopsOf other

/-- A stop that no route visits goes; any other stays, with all the rest. -/
structure DeleteMet (db : CatalogDb) (stopId : StopId) : Prop where
  refused : Undeletable db stopId → ∃ code detail, (deleteStop stopId db).2 = .refused code detail
  accepted : ¬ Undeletable db stopId → (deleteStop stopId db).2 = .ok ()
  rejected : (deleteStop stopId db).2 ≠ .ok () → (deleteStop stopId db).1 = db
  deleted : (deleteStop stopId db).2 = .ok () →
    ∀ s, s ∈ (deleteStop stopId db).1.stops ↔ s ∈ db.stops ∧ s.id ≠ stopId

def RequestMet (db : CatalogDb) : CatalogRequest → Prop
  | .replaceRouteStops routeId body => ReplaceMet db routeId body
  | .deleteStop stopId => DeleteMet db stopId
  | .createStop _ _ => True
  | .createRoute _ _ => True

/-! ## §3  What a replacement leaves -/

section
variable {db db' : CatalogDb} {routeId : RouteId} {items : List RouteStopIn} {start : ℕ}

theorem placedStops_cons (routeId : RouteId) (item : RouteStopIn) (items : List RouteStopIn)
    (start : ℕ) :
    placedStops routeId (item :: items) start =
      { routeId := routeId, stopId := item.stopId, seq := start,
        scheduledOffsetMin := item.scheduledOffsetMin } ::
          placedStops routeId items (start + 1) := rfl

@[simp] theorem placedStops_length (routeId : RouteId) (items : List RouteStopIn) (start : ℕ) :
    (placedStops routeId items start).length = items.length := by
  simp [placedStops]

/-- Each row is of the route, and holds an item of the list at its place. -/
theorem mem_placedStops {rs : RouteStop} (h : rs ∈ placedStops routeId items start) :
    rs.routeId = routeId ∧ (start : Int) ≤ rs.seq ∧ rs.seq < start + items.length ∧
      ∃ item ∈ items, rs.stopId = item.stopId ∧
        rs.scheduledOffsetMin = item.scheduledOffsetMin := by
  induction items generalizing start with
  | nil => cases h
  | cons item items ih =>
      rw [placedStops_cons] at h
      rcases List.mem_cons.mp h with rfl | h
      · refine ⟨rfl, le_refl _, ?_, item, List.mem_cons_self, rfl, rfl⟩
        simp only [List.length_cons]
        omega
      · obtain ⟨hroute, hlow, hhigh, found, hfound, hsame⟩ := ih h
        refine ⟨hroute, by omega, ?_, found, List.mem_cons_of_mem _ hfound, hsame⟩
        rw [List.length_cons]
        omega

theorem placedStops_content (routeId : RouteId) (items : List RouteStopIn) (start : ℕ) :
    (placedStops routeId items start).map (fun rs => (rs.stopId, rs.scheduledOffsetMin)) =
      items.map fun item => (item.stopId, item.scheduledOffsetMin) := by
  induction items generalizing start with
  | nil => rfl
  | cons item items ih =>
      rw [placedStops_cons, List.map_cons, List.map_cons, ih]

theorem placedStops_seqs (routeId : RouteId) (items : List RouteStopIn) (start : ℕ) :
    (placedStops routeId items start).map (·.seq) =
      (List.range' start items.length).map fun n : ℕ => (n : Int) := by
  induction items generalizing start with
  | nil => rfl
  | cons item items ih =>
      rw [placedStops_cons, List.map_cons, ih, List.length_cons, List.range'_succ, List.map_cons]

/-- Later in the list is further along the route. -/
theorem placedStops_sorted (routeId : RouteId) (items : List RouteStopIn) (start : ℕ) :
    (placedStops routeId items start).Pairwise fun a b => a.seq < b.seq := by
  rw [← List.pairwise_map (f := RouteStop.seq), placedStops_seqs, List.pairwise_map]
  exact (List.pairwise_lt_range').imp fun h => by exact_mod_cast h

theorem placedStops_apart (routeId : RouteId) (start : ℕ)
    (hnodup : (items.map (·.stopId)).Nodup) :
    (placedStops routeId items start).Pairwise fun a b => ¬ UniqueKeys.clash a b := by
  have hstops : (placedStops routeId items start).Pairwise fun a b => a.stopId ≠ b.stopId := by
    have hcontent := congrArg (List.map Prod.fst) (placedStops_content routeId items start)
    rw [List.map_map, List.map_map] at hcontent
    apply List.pairwise_map.mp
    exact hcontent ▸ hnodup
  refine ((placedStops_sorted routeId items start).and hstops).imp ?_
  rintro a b ⟨hseq, hstop⟩ hclash
  rcases (RouteStop.clash_iff.mp hclash).2 with h | h
  · exact absurd h (ne_of_lt hseq)
  · exact hstop h

/-- The new rows come back in the order of their places. -/
theorem stopsOf_replaced
    (hrows : db'.routeStops.rows =
      (db.clearRouteStops routeId).routeStops.rows ++ placedStops routeId items start) :
    db'.stopsOf routeId = placedStops routeId items start := by
  have hold : (db.clearRouteStops routeId).routeStops.rows.filter
      (fun rs => rs.routeId == routeId) = [] := by
    rw [CatalogDb.clearRouteStops_rows, List.filter_filter, List.filter_eq_nil_iff]
    simp
  have hnew : (placedStops routeId items start).filter (fun rs => rs.routeId == routeId) =
      placedStops routeId items start := by
    rw [List.filter_eq_self]
    intro rs hrs
    exact beq_iff_eq.mpr (mem_placedStops hrs).1
  unfold CatalogDb.stopsOf sortBy
  rw [hrows, List.filter_append, hold, hnew, List.nil_append]
  exact ((placedStops_sorted routeId items start).imp le_of_lt).insertionSort_eq

theorem stopsOf_other {other : RouteId} (hother : other ≠ routeId)
    (hrows : db'.routeStops.rows =
      (db.clearRouteStops routeId).routeStops.rows ++ placedStops routeId items start) :
    db'.stopsOf other = db.stopsOf other := by
  apply CatalogDb.stopsOf_congr
  have hnew : (placedStops routeId items start).filter (fun rs => rs.routeId == other) = [] := by
    rw [List.filter_eq_nil_iff]
    intro rs hrs
    rw [(mem_placedStops hrs).1, beq_iff_eq]
    exact hother.symm
  rw [hrows, List.filter_append, hnew, List.append_nil, CatalogDb.clearRouteStops_rows,
    List.filter_filter]
  apply List.filter_congr
  intro rs _
  by_cases h : rs.routeId = other
  · simp [h, hother]
  · simp [h]

end

/-! ## §4  Which requests are turned away -/

section
variable {db db' : CatalogDb} {routeId : RouteId} {body : RouteStopsReplace} {stopId : StopId}

theorem dedup_length_eq {ids : List StopId} : ids.dedup.length = ids.length ↔ ids.Nodup := by
  constructor
  · intro h
    exact List.dedup_eq_self.mp ((List.dedup_sublist ids).eq_of_length h)
  · intro h
    rw [List.dedup_eq_self.mpr h]

/-- Some submitted stop is not among the known ones. -/
theorem missing_iff :
    (body.stops.map (·.stopId)).filter
        (fun id => id ∉ db.existingStopIds (body.stops.map (·.stopId))) ≠ [] ↔
      ∃ item ∈ body.stops, ∀ s ∈ db.stops, s.id ≠ item.stopId := by
  rw [ne_eq, List.filter_eq_nil_iff]
  push Not
  constructor
  · rintro ⟨id, hid, hmissing⟩
    obtain ⟨item, hitem, rfl⟩ := List.mem_map.mp hid
    refine ⟨item, hitem, ?_⟩
    intro s hs hsame
    rw [decide_eq_true_eq, CatalogDb.mem_existingStopIds] at hmissing
    exact hmissing ⟨⟨s, hs, hsame⟩, hid⟩
  · rintro ⟨item, hitem, hnone⟩
    have hid := List.mem_map_of_mem (f := RouteStopIn.stopId) hitem
    refine ⟨item.stopId, hid, ?_⟩
    rw [decide_eq_true_eq, CatalogDb.mem_existingStopIds]
    rintro ⟨⟨s, hs, hsame⟩, -⟩
    exact hnone s hs hsame

/-- **What a replacement does**: it is turned away, its values do not fit, or
the new rows stand where the old ones stood. -/
theorem replaceRouteStops_cases (routeId : RouteId) (body : RouteStopsReplace) (db : CatalogDb) :
    (Unplaceable db routeId body ∧
        ∃ code detail, replaceRouteStops routeId body db = (db, .refused code detail)) ∨
      (¬ Unplaceable db routeId body ∧
        ((replaceRouteStops routeId body db = (db, .crashed) ∧
            ∃ error, (placedStops routeId body.stops 1).foldlM CatalogDb.insertRouteStop
              (db.clearRouteStops routeId) = .error error) ∨
          ∃ db', (placedStops routeId body.stops 1).foldlM CatalogDb.insertRouteStop
              (db.clearRouteStops routeId) = .ok db' ∧
            replaceRouteStops routeId body db = (db', routeDetail db' routeId))) := by
  unfold replaceRouteStops
  dsimp only
  cases hroute : db.getRoute routeId with
  | none => exact Or.inl ⟨Or.inl (CatalogDb.getRoute_eq_none.mp hroute), 404, _, rfl⟩
  | some route =>
      obtain ⟨hmem, hid⟩ := CatalogDb.getRoute_eq_some.mp hroute
      dsimp only
      by_cases hrepeated : (body.stops.map (·.stopId)).Nodup
      · rw [if_neg (not_not.mpr (dedup_length_eq.mpr hrepeated))]
        by_cases hmissing : ∃ item ∈ body.stops, ∀ s ∈ db.stops, s.id ≠ item.stopId
        · rw [if_pos (missing_iff.mpr hmissing)]
          exact Or.inl ⟨Or.inr (Or.inr hmissing), 404, _, rfl⟩
        · rw [if_neg (mt missing_iff.mp hmissing)]
          refine Or.inr ⟨?_, ?_⟩
          · rintro (hunknown | hagain | hnone)
            · exact hunknown route hmem hid
            · exact hagain hrepeated
            · exact hmissing hnone
          · cases hfold : (placedStops routeId body.stops 1).foldlM CatalogDb.insertRouteStop
                (db.clearRouteStops routeId) with
            | error error => exact Or.inl ⟨rfl, error, rfl⟩
            | ok db' => exact Or.inr ⟨db', rfl, rfl⟩
      · rw [if_pos (mt dedup_length_eq.mp hrepeated)]
        exact Or.inl ⟨Or.inr (Or.inl hrepeated), 400, _, rfl⟩

/-- A row whose stop exists can be shown. -/
theorem routeStopOut_some {rs : RouteStop} (h : ∃ s ∈ db.stops, s.id = rs.stopId) :
    ∃ out, routeStopOut db rs = some out ∧ out.stop.id = rs.stopId ∧
      out.scheduledOffsetMin = rs.scheduledOffsetMin := by
  obtain ⟨s, hs, hid⟩ := h
  have hfound : db.getStop rs.stopId = some s := CatalogDb.getStop_eq_some.mpr ⟨hs, hid⟩
  exact ⟨_, by rw [routeStopOut, hfound, Option.map_some], hid, rfl⟩

theorem routeStopOuts_some {rows : List RouteStop}
    (h : ∀ rs ∈ rows, ∃ s ∈ db.stops, s.id = rs.stopId) :
    ∃ outs, rows.mapM (routeStopOut db) = some outs ∧
      outs.map (fun out => (out.stop.id, out.scheduledOffsetMin)) =
        rows.map fun rs => (rs.stopId, rs.scheduledOffsetMin) := by
  induction rows with
  | nil => exact ⟨[], rfl, rfl⟩
  | cons rs rows ih =>
      obtain ⟨out, hout, hstop, hoffset⟩ := routeStopOut_some (h rs List.mem_cons_self)
      obtain ⟨outs, houts, hcontent⟩ := ih fun rs hrs => h rs (List.mem_cons_of_mem _ hrs)
      refine ⟨out :: outs, ?_, ?_⟩
      · rw [List.mapM_cons, hout, houts]
        rfl
      · rw [List.map_cons, List.map_cons, hcontent, hstop, hoffset]

/-- A known route can always be shown, with its stops in their order. -/
theorem routeDetail_ok (hroute : ∃ r ∈ db.routes, r.id = routeId) :
    ∃ detail, routeDetail db routeId = .ok detail ∧
      detail.stops.map (fun out => (out.stop.id, out.scheduledOffsetMin)) =
        (db.stopsOf routeId).map fun rs => (rs.stopId, rs.scheduledOffsetMin) := by
  obtain ⟨route, hmem, hid⟩ := hroute
  have hfound : db.getRoute routeId = some route := CatalogDb.getRoute_eq_some.mpr ⟨hmem, hid⟩
  obtain ⟨outs, houts, hcontent⟩ := @routeStopOuts_some db (db.stopsOf routeId)
    fun rs hrs => db.stopped rs (CatalogDb.mem_stopsOf.mp hrs).1
  have hdetail : routeDetail db routeId =
      .ok { toRouteOut := routeOut route, polyline := route.polyline, stops := outs } := by
    unfold routeDetail
    rw [hfound]
    dsimp only
    rw [houts]
  exact ⟨_, hdetail, hcontent⟩

/-- What the rows of a replacement that went through leave. -/
theorem replaced_spec
    (hfold : (placedStops routeId body.stops 1).foldlM CatalogDb.insertRouteStop
      (db.clearRouteStops routeId) = .ok db') :
    db'.stopsOf routeId = placedStops routeId body.stops 1 ∧ db.SameButPlaces db' ∧
      ∀ other ≠ routeId, db'.stopsOf other = db.stopsOf other := by
  obtain ⟨hrows, hsame⟩ := CatalogDb.insertRouteStops_ok hfold
  exact ⟨stopsOf_replaced hrows, hsame, fun other hother => stopsOf_other hother hrows⟩

/-- Nothing but an offset that does not fit stops a replacement that was not
turned away. -/
theorem replaceRouteStops_taken (hplaceable : ¬ Unplaceable db routeId body)
    (hoffsets : ∀ item ∈ body.stops, ∀ n ∈ item.scheduledOffsetMin, n < int4End) :
    ∃ db', (placedStops routeId body.stops 1).foldlM CatalogDb.insertRouteStop
      (db.clearRouteStops routeId) = .ok db' := by
  unfold Unplaceable at hplaceable
  push Not at hplaceable
  obtain ⟨⟨route, hroute, hid⟩, hnodup, hknown⟩ := hplaceable
  apply CatalogDb.insertRouteStops_taken
  · intro rs hrs
    obtain ⟨hrouteId, -, hhigh, item, hitem, hstop, hoffset⟩ := mem_placedStops hrs
    refine ⟨⟨?_, ?_⟩, ⟨route, hroute, hid.trans hrouteId.symm⟩, ?_⟩
    · have hlength := body.length.2
      unfold int4End
      omega
    · rw [hoffset]
      exact hoffsets item hitem
    · rw [hstop]
      exact hknown item hitem
  · intro rs hrs row hrow hclash
    have hcleared := (Table.mem_delete.mp hrow).2
    rw [beq_eq_false_iff_ne] at hcleared
    exact hcleared ((RouteStop.clash_iff.mp hclash).1.trans (mem_placedStops hrs).1)
  · exact placedStops_apart routeId 1 hnodup

/-- **What a deletion does**: it is turned away, or the stop goes. -/
theorem deleteStop_cases (stopId : StopId) (db : CatalogDb) :
    (Undeletable db stopId ∧ ∃ code detail, deleteStop stopId db = (db, .refused code detail)) ∨
      (¬ Undeletable db stopId ∧
        ∃ db', db.deleteStop stopId = .ok db' ∧ deleteStop stopId db = (db', .ok ())) := by
  unfold deleteStop
  dsimp only
  cases hstop : db.getStop stopId with
  | none => exact Or.inl ⟨Or.inl (CatalogDb.getStop_eq_none.mp hstop), 404, _, rfl⟩
  | some stop =>
      obtain ⟨hmem, hid⟩ := CatalogDb.getStop_eq_some.mp hstop
      dsimp only
      by_cases hfree : ∀ rs ∈ db.routeStops, rs.stopId ≠ stopId
      · rw [if_neg (not_not.mpr (CatalogDb.routesUsingStop_eq_zero.mpr hfree))]
        refine Or.inr ⟨?_, ?_⟩
        · rintro (hunknown | ⟨rs, hrs, hsame⟩)
          · exact hunknown stop hmem hid
          · exact hfree rs hrs hsame
        · obtain ⟨db', hdeleted⟩ := CatalogDb.deleteStop_taken hfree
          rw [hdeleted]
          exact ⟨db', rfl, rfl⟩
      · rw [if_pos (mt CatalogDb.routesUsingStop_eq_zero.mp hfree)]
        push Not at hfree
        exact Or.inl ⟨Or.inr hfree, 409, _, rfl⟩

end

/-! ## §5  Every run -/

section
variable {db : CatalogDb} {routeId : RouteId} {body : RouteStopsReplace}

/-- A replacement that does not succeed changes nothing. -/
theorem ReplaceMet.of_failed
    (hrefused : Unplaceable db routeId body →
      ∃ code detail, (replaceRouteStops routeId body db).2 = .refused code detail)
    (haccepted : Unplaceable db routeId body ∨
      ¬ ∀ item ∈ body.stops, ∀ n ∈ item.scheduledOffsetMin, n < int4End)
    (hfailed : ∀ detail, (replaceRouteStops routeId body db).2 ≠ .ok detail)
    (hsame : (replaceRouteStops routeId body db).1 = db) : ReplaceMet db routeId body where
  refused := hrefused
  accepted hplaceable hoffsets :=
    absurd hoffsets (haccepted.resolve_left hplaceable)
  rejected _ := hsame
  readBack detail hok := absurd hok (hfailed detail)
  others detail hok := absurd hok (hfailed detail)

theorem replaceMet (db : CatalogDb) (routeId : RouteId) (body : RouteStopsReplace) :
    ReplaceMet db routeId body := by
  rcases replaceRouteStops_cases routeId body db with ⟨hrefused, code, detail, hreply⟩ |
    ⟨hplaceable, ⟨hreply, error, hfailed⟩ | ⟨db', hfold, hreply⟩⟩
  · apply ReplaceMet.of_failed (fun _ => ⟨code, detail, by rw [hreply]⟩) (Or.inl hrefused)
    · rw [hreply]
      rintro out ⟨⟩
    · rw [hreply]
  · apply ReplaceMet.of_failed fun hrefused => absurd hrefused hplaceable
    · right
      intro hoffsets
      obtain ⟨db', hfold⟩ := replaceRouteStops_taken hplaceable hoffsets
      rw [hfold] at hfailed
      cases hfailed
    · rw [hreply]
      rintro out ⟨⟩
    · rw [hreply]
  · obtain ⟨hplaced, hsame, hothers⟩ := replaced_spec hfold
    have hroute : ∃ r ∈ db'.routes, r.id = routeId := by
      rw [hsame.2.1]
      by_contra hnone
      push Not at hnone
      exact hplaceable (Or.inl hnone)
    obtain ⟨shown, hshown, hcontent⟩ := routeDetail_ok hroute
    constructor
    · exact fun hrefused => absurd hrefused hplaceable
    · exact fun _ _ => ⟨shown, by rw [hreply, hshown]⟩
    · intro hfailed
      rw [hreply] at hfailed
      exact absurd hshown (hfailed shown)
    · intro detail hok
      rw [hreply] at hok ⊢
      have hdetail : detail = shown := Reply.ok.inj (hok.symm.trans hshown)
      rw [hdetail]
      refine ⟨hshown, hcontent.trans ?_⟩
      rw [hplaced, placedStops_content]
    · intro detail _
      rw [hreply]
      exact ⟨hsame, hothers⟩

theorem deleteMet (db : CatalogDb) (stopId : StopId) : DeleteMet db stopId := by
  rcases deleteStop_cases stopId db with ⟨hrefused, code, detail, hreply⟩ |
    ⟨hdeletable, db', hdeleted, hreply⟩
  · constructor
    · exact fun _ => ⟨code, detail, by rw [hreply]⟩
    · exact fun hdeletable => absurd hrefused hdeletable
    · exact fun _ => by rw [hreply]
    · intro hok
      rw [hreply] at hok
      cases hok
  · constructor
    · exact fun hrefused => absurd hrefused hdeletable
    · exact fun _ => by rw [hreply]
    · intro hfailed
      rw [hreply] at hfailed
      exact absurd rfl hfailed
    · intro _ s
      rw [hreply]
      exact (CatalogDb.deleteStop_ok hdeleted).1 s

theorem requestMet (db : CatalogDb) (request : CatalogRequest) : RequestMet db request := by
  cases request with
  | createStop id body => trivial
  | deleteStop stopId => exact deleteMet db stopId
  | createRoute id body => trivial
  | replaceRouteStops routeId body => exact replaceMet db routeId body

/-- The stops of each route after a request: those of before, or, for the
route that was replaced, a list numbered from 1. -/
theorem catalogStep_stopsOf (db : CatalogDb) (request : CatalogRequest) (routeId : RouteId) :
    (catalogStep db request).stopsOf routeId = db.stopsOf routeId ∨
      ∃ items, (catalogStep db request).stopsOf routeId = placedStops routeId items 1 := by
  cases request with
  | createStop id body =>
      left
      simp only [catalogStep, createStop]
      split
      · rfl
      · rename_i db' hins
        exact CatalogDb.stopsOf_congr (by rw [(CatalogDb.insertStop_ok hins).2])
  | deleteStop stopId =>
      left
      rcases deleteStop_cases stopId db with ⟨-, code, detail, hreply⟩ | ⟨-, db', hdel, hreply⟩
      · rw [catalogStep, hreply]
      · rw [catalogStep, hreply]
        exact CatalogDb.stopsOf_congr (by rw [(CatalogDb.deleteStop_ok hdel).2])
  | createRoute id body =>
      left
      simp only [catalogStep, createRoute]
      split
      · rename_i db' hins
        exact CatalogDb.stopsOf_congr (by rw [(CatalogDb.insertRoute_ok hins).2])
      · rfl
      · rfl
  | replaceRouteStops replaced body =>
      rcases replaceRouteStops_cases replaced body db with ⟨-, code, detail, hreply⟩ |
        ⟨-, ⟨hreply, -⟩ | ⟨db', hfold, hreply⟩⟩
      · left
        rw [catalogStep, hreply]
      · left
        rw [catalogStep, hreply]
      · obtain ⟨hplaced, -, hothers⟩ := replaced_spec hfold
        rw [catalogStep, hreply]
        by_cases hroute : routeId = replaced
        · right
          rw [hroute]
          exact ⟨body.stops, hplaced⟩
        · left
          exact hothers routeId hroute

theorem numbered_placedStops (routeId : RouteId) (items : List RouteStopIn) :
    Numbered (placedStops routeId items 1) := by
  unfold Numbered
  rw [placedStops_seqs, placedStops_length]

theorem catalogStep_numbered (request : CatalogRequest)
    (h : ∀ routeId, Numbered (db.stopsOf routeId)) (routeId : RouteId) :
    Numbered ((catalogStep db request).stopsOf routeId) := by
  rcases catalogStep_stopsOf db request routeId with hsame | ⟨items, hplaced⟩
  · rw [hsame]
    exact h routeId
  · rw [hplaced]
    exact numbered_placedStops routeId items

/-- What the database itself enforces, with the numbering. -/
theorem CatalogDb.wellPlaced (h : ∀ routeId, Numbered (db.stopsOf routeId)) : db.WellPlaced where
  numbered := h
  distinct := db.stopsOf_nodup
  existing _ rs hrs := db.stopped rs (CatalogDb.mem_stopsOf.mp hrs).1

end

/-- **Routes stay in order**: from every state of the catalogue, whatever is
asked, each route's stops are distinct stops that exist, numbered 1..n, and
every replacement and every deletion does all it says or nothing. -/
theorem routeStops_wellPlaced (catalog : Catalog) (requests : List CatalogRequest) :
    Always catalogStep CatalogDb.WellPlaced catalog.toCatalogDb requests ∧
      Throughout catalogStep RequestMet catalog.toCatalogDb requests := by
  constructor
  · have hnumbered : Always catalogStep (fun db => ∀ routeId, Numbered (db.stopsOf routeId))
        catalog.toCatalogDb requests := by
      apply always_of_step _ catalog.numbered
      intro db request h
      exact catalogStep_numbered request h
    exact hnumbered.imp fun _ h => CatalogDb.wellPlaced h
  · rw [throughout_iff]
    intro before request _ _
    exact requestMet _ request

end UniTrack
