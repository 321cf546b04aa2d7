import UniTrack.Repositories.Users

/-!
# Lists of tickets and orders (`app/repositories/commerce.py`)

`active_manifest`, the helper's offline list, joins three tables: tickets,
students and users. A student's own lists are read from one table each.
-/

namespace UniTrack

open UniTrack.Framework UniTrack.Python

/-- A row of the manifest. -/
structure ManifestRow where
  ticketId : TicketId
  qrPublicKey : Text
  ridesRemaining : Option Int
  validTo : Instant
  status : TicketStatus
  name : Text
  studentIdNo : Text
deriving DecidableEq

/-- The student's row, and the account it belongs to. -/
def AccountsDb.owner (accounts : AccountsDb) (studentId : StudentId) :
    Option (StudentProfile × Account) := do
  let student ← accounts.students.find fun s => s.id == studentId
  let user ← accounts.get student.userId
  return (student, user)

/-- A ticket joined with its student and the student's account. -/
def manifestRow (accounts : AccountsDb) (ticket : Ticket) : Option ManifestRow :=
  (accounts.owner ticket.studentId).map fun owner => {
    ticketId := ticket.id
    qrPublicKey := ticket.qrPublicKey
    ridesRemaining := ticket.ridesRemaining
    validTo := ticket.validTo
    status := ticket.status
    name := owner.2.name
    studentIdNo := owner.1.studentIdNo }

/-- The tickets that are active and in date. -/
def inDateActive (db : Db) (now : Instant) : List Ticket :=
  db.tickets.rows.filter fun t => t.status == .active && decide (now ≤ t.validTo)

/-- `active_manifest`; `order` also settles ties. -/
def activeManifest (order : OrderBy ManifestRow.validTo) (accounts : AccountsDb) (db : Db)
    (now : Instant) (limit : Nat) : List ManifestRow :=
  (order.sort ((inDateActive db now).filterMap (manifestRow accounts))).take limit

section
variable {accounts : AccountsDb} {db : Db} {now : Instant} {ticket : Ticket}

theorem mem_inDateActive :
    ticket ∈ inDateActive db now ↔
      ticket ∈ db.tickets ∧ ticket.status = .active ∧ now ≤ ticket.validTo := by
  rw [inDateActive, List.mem_filter, Bool.and_eq_true, beq_iff_eq, decide_eq_true_eq]
  rfl

theorem manifestRow_eq_some {row : ManifestRow} (h : manifestRow accounts ticket = some row) :
    row.ticketId = ticket.id := by
  obtain ⟨owner, -, rfl⟩ := Option.map_eq_some_iff.mp h
  rfl

/-- While everything fits, the manifest lists what is active and in date. -/
theorem mem_activeManifest {order : OrderBy ManifestRow.validTo} {limit : Nat}
    (hfits : (inDateActive db now).length ≤ limit) {row : ManifestRow} :
    row ∈ activeManifest order accounts db now limit ↔
      ∃ ticket ∈ inDateActive db now, manifestRow accounts ticket = some row := by
  have hperm := order.perm ((inDateActive db now).filterMap (manifestRow accounts))
  have hlength : (order.sort ((inDateActive db now).filterMap (manifestRow accounts))).length ≤
      limit := by
    rw [hperm.length_eq]
    exact le_trans (List.length_filterMap_le _ _) hfits
  rw [activeManifest, List.take_of_length_le hlength, hperm.mem_iff, List.mem_filterMap]

end

/-! ## A student's own -/

/-- `orders_for_student`, newest first. -/
def ordersForStudent (newest : OrderBy fun o : Order => -o.createdAt) (db : Db)
    (studentId : StudentId) : List Order :=
  newest.sort (db.orders.rows.filter fun o => o.studentId == studentId)

/-- `tickets_for_student`, newest first. The column that sorts them is read
nowhere else. -/
def ticketsForStudent (createdAt : Ticket → Instant)
    (newest : OrderBy fun t : Ticket => -createdAt t) (db : Db) (studentId : StudentId) :
    List Ticket :=
  newest.sort (db.tickets.rows.filter fun t => t.studentId == studentId)

theorem mem_ordersForStudent {newest : OrderBy fun o : Order => -o.createdAt} {db : Db}
    {studentId : StudentId} {o : Order} :
    o ∈ ordersForStudent newest db studentId ↔ o ∈ db.orders ∧ o.studentId = studentId := by
  rw [ordersForStudent, (newest.perm _).mem_iff, List.mem_filter, beq_iff_eq]
  rfl

theorem mem_ticketsForStudent {createdAt : Ticket → Instant}
    {newest : OrderBy fun t : Ticket => -createdAt t} {db : Db} {studentId : StudentId}
    {t : Ticket} :
    t ∈ ticketsForStudent createdAt newest db studentId ↔
      t ∈ db.tickets ∧ t.studentId = studentId := by
  rw [ticketsForStudent, (newest.perm _).mem_iff, List.mem_filter, beq_iff_eq]
  rfl

end UniTrack
