import UniTrack.Models.UnitOfWork

/-!
# Users, students, helpers (`app/repositories/users.py`)

The three identity tables with their UNIQUE constraints, the lookups the
routes make, and what their commits write.
-/

namespace UniTrack

open UniTrack.Framework UniTrack.Python

/-! ## Rows -/

/-- A row of `users`, with its password. -/
structure Account extends User where
  passwordHash : Text
deriving DecidableEq

/-- A row of `students`, with what registration collects. -/
structure StudentProfile extends Student where
  studentIdNo : Text
  department : Option Text
  batch : Option Text
deriving DecidableEq

/-- Primary key and `email` are each unique. -/
instance : UniqueKeys Account where
  clash a b := a.id == b.id || a.email == b.email
  clash_symm := by
    intro a b h
    simp only [Bool.or_eq_true, beq_iff_eq] at h ⊢
    exact h.imp Eq.symm Eq.symm

/-- Primary key, `user_id` and `student_id_no` are each unique. -/
instance : UniqueKeys StudentProfile where
  clash a b := a.id == b.id || a.userId == b.userId || a.studentIdNo == b.studentIdNo
  clash_symm := by
    intro a b h
    simp only [Bool.or_eq_true, beq_iff_eq] at h ⊢
    exact h.imp (Or.imp Eq.symm Eq.symm) Eq.symm

/-- Primary key and `user_id` are each unique. -/
instance : UniqueKeys Helper where
  clash a b := a.id == b.id || a.userId == b.userId
  clash_symm := by
    intro a b h
    simp only [Bool.or_eq_true, beq_iff_eq] at h ⊢
    exact h.imp Eq.symm Eq.symm

theorem Account.clash_iff {a b : Account} :
    UniqueKeys.clash a b = true ↔ a.id = b.id ∨ a.email = b.email := by
  simp [UniqueKeys.clash]

theorem Helper.clash_iff {a b : Helper} :
    UniqueKeys.clash a b = true ↔ a.id = b.id ∨ a.userId = b.userId := by
  simp [UniqueKeys.clash]

structure AccountsDb where
  users : Table Account
  students : Table StudentProfile
  helpers : Table Helper
deriving DecidableEq

namespace AccountsDb

/-! ## Lookups -/

def get (db : AccountsDb) (userId : UserId) : Option Account :=
  db.users.find fun u => u.id == userId

/-- Addresses are stored and looked up in lower case; `email` is already so. -/
def byEmail (db : AccountsDb) (email : Text) : Option Account :=
  db.users.find fun u => u.email == email

def studentIdTaken (db : AccountsDb) (studentIdNo : Text) : Bool :=
  (db.students.find fun s => s.studentIdNo == studentIdNo).isSome

def getHelper (db : AccountsDb) (helperId : HelperId) : Option Helper :=
  db.helpers.find fun h => h.id == helperId

def helperByUserId (db : AccountsDb) (userId : UserId) : Option Helper :=
  db.helpers.find fun h => h.userId == userId

variable {db : AccountsDb}

theorem get_eq_some {userId : UserId} {u : Account} :
    db.get userId = some u ↔ u ∈ db.users ∧ u.id = userId := by
  have h := db.users.find_eq_some (p := fun u => u.id == userId)
    (fun a b ha hb => Account.clash_iff.mpr (Or.inl (by
      rw [beq_iff_eq] at ha hb
      rw [ha, hb]))) (a := u)
  rw [get, h, beq_iff_eq]

theorem getHelper_eq_some {helperId : HelperId} {h : Helper} :
    db.getHelper helperId = some h ↔ h ∈ db.helpers ∧ h.id = helperId := by
  have hfind := db.helpers.find_eq_some (p := fun h => h.id == helperId)
    (fun a b ha hb => Helper.clash_iff.mpr (Or.inl (by
      rw [beq_iff_eq] at ha hb
      rw [ha, hb]))) (a := h)
  rw [getHelper, hfind, beq_iff_eq]

theorem helperByUserId_eq_some {userId : UserId} {h : Helper} :
    db.helperByUserId userId = some h ↔ h ∈ db.helpers ∧ h.userId = userId := by
  have hfind := db.helpers.find_eq_some (p := fun h => h.userId == userId)
    (fun a b ha hb => Helper.clash_iff.mpr (Or.inr (by
      rw [beq_iff_eq] at ha hb
      rw [ha, hb]))) (a := h)
  rw [helperByUserId, hfind, beq_iff_eq]

theorem helperByUserId_eq_none {userId : UserId} :
    db.helperByUserId userId = none ↔ ∀ h ∈ db.helpers, h.userId ≠ userId := by
  rw [helperByUserId, Table.find_eq_none]
  simp only [beq_eq_false_iff_ne]

/-- A user id names one account. -/
theorem user_ext {a b : Account} (ha : a ∈ db.users) (hb : b ∈ db.users)
    (h : a.id = b.id) : a = b :=
  db.users.eq_of_clash ha hb (Account.clash_iff.mpr (Or.inl h))

/-- A user has one helper row. -/
theorem helper_ext {g h : Helper} (hg : g ∈ db.helpers) (hh : h ∈ db.helpers)
    (huser : g.userId = h.userId) : g = h :=
  db.helpers.eq_of_clash hg hh (Helper.clash_iff.mpr (Or.inr huser))

/-! ## Updates -/

/-- `UPDATE users SET status = … WHERE id = …`. -/
def setStatus (db : AccountsDb) (userId : UserId) (status : UserStatus) : AccountsDb :=
  { db with
    users := db.users.update
      (fun u => if u.id = userId then { u with status := status } else u)
      (by
        intro a b h
        rw [Account.clash_iff] at h ⊢
        split at h <;> split at h <;> exact h) }

/-- `UPDATE users SET password_hash = … WHERE id = …`. -/
def setPassword (db : AccountsDb) (userId : UserId) (passwordHash : Text) : AccountsDb :=
  { db with
    users := db.users.update
      (fun u => if u.id = userId then { u with passwordHash := passwordHash } else u)
      (by
        intro a b h
        rw [Account.clash_iff] at h ⊢
        split at h <;> split at h <;> exact h) }

/-- `UPDATE helpers SET status = …, approved_by = … WHERE id = …`. -/
def setHelper (db : AccountsDb) (helperId : HelperId) (status : HelperStatus)
    (approvedBy : Option UserId) : AccountsDb :=
  { db with
    helpers := db.helpers.update
      (fun h => if h.id = helperId then { h with status := status, approvedBy := approvedBy } else h)
      (by
        intro a b h
        rw [Helper.clash_iff] at h ⊢
        split at h <;> split at h <;> exact h) }

@[simp] theorem mem_setStatus {userId : UserId} {status : UserStatus} {u : Account} :
    u ∈ (db.setStatus userId status).users ↔
      ∃ v ∈ db.users, (if v.id = userId then { v with status := status } else v) = u := by
  rw [setStatus, Table.mem_update]

@[simp] theorem mem_setHelper {helperId : HelperId} {status : HelperStatus}
    {approvedBy : Option UserId} {h : Helper} :
    h ∈ (db.setHelper helperId status approvedBy).helpers ↔
      ∃ g ∈ db.helpers, (if g.id = helperId then
        { g with status := status, approvedBy := approvedBy } else g) = h := by
  rw [setHelper, Table.mem_update]

/-! ## Inserts -/

def freshUserId (db : AccountsDb) : UserId := freshKey (·.id) db.users.rows
def freshStudentId (db : AccountsDb) : StudentId := freshKey (·.id) db.students.rows
def freshHelperId (db : AccountsDb) : HelperId := freshKey (·.id) db.helpers.rows

/-- The value fits a `String(width)` column. -/
def Fits (width : Nat) (text : Text) : Prop := text.length ≤ width ∧ nul ∉ text

instance (width : Nat) (text : Text) : Decidable (Fits width text) := by
  unfold Fits
  infer_instance

def emailWidth : Nat := 255
def passwordHashWidth : Nat := 255
def nameWidth : Nat := 120
def phoneWidth : Nat := 32
def studentIdNoWidth : Nat := 64
def departmentWidth : Nat := 120
def batchWidth : Nat := 32

def AccountFits (u : Account) : Prop :=
  Fits emailWidth u.email ∧ Fits passwordHashWidth u.passwordHash ∧ Fits nameWidth u.name ∧
    ∀ phone ∈ u.phone, Fits phoneWidth phone

def ProfileFits (s : StudentProfile) : Prop :=
  Fits studentIdNoWidth s.studentIdNo ∧ (∀ d ∈ s.department, Fits departmentWidth d) ∧
    ∀ b ∈ s.batch, Fits batchWidth b

instance (u : Account) : Decidable (AccountFits u) := by
  unfold AccountFits
  infer_instance

instance (s : StudentProfile) : Decidable (ProfileFits s) := by
  unfold ProfileFits
  infer_instance

def insertUser (db : AccountsDb) (u : Account) : Except DbError AccountsDb :=
  if ¬ AccountFits u then .error .data
  else match db.users.insert u with
    | none => .error .integrity
    | some users => .ok { db with users := users }

/-- A new user with its student row, in one commit. -/
def addStudent (db : AccountsDb) (u : Account) (s : StudentProfile) : Except DbError AccountsDb :=
  match db.insertUser u with
  | .error e => .error e
  | .ok db' =>
      if ¬ ProfileFits s then .error .data
      else match db'.students.insert s with
        | none => .error .integrity
        | some students => .ok { db' with students := students }

/-- A new user with its helper row, in one commit. -/
def addHelper (db : AccountsDb) (u : Account) (h : Helper) : Except DbError AccountsDb :=
  match db.insertUser u with
  | .error e => .error e
  | .ok db' =>
      match db'.helpers.insert h with
      | none => .error .integrity
      | some helpers => .ok { db' with helpers := helpers }

theorem insertUser_ok {db' : AccountsDb} {u : Account} (h : db.insertUser u = .ok db') :
    (∀ v, v ∈ db'.users ↔ v ∈ db.users ∨ v = u) ∧ db'.helpers = db.helpers := by
  unfold insertUser at h
  split at h
  · cases h
  · split at h
    · cases h
    · rename_i users hins
      cases h
      exact ⟨fun v => Table.mem_of_insert hins, rfl⟩

theorem addStudent_ok {db' : AccountsDb} {u : Account} {s : StudentProfile}
    (h : db.addStudent u s = .ok db') :
    (∀ v, v ∈ db'.users ↔ v ∈ db.users ∨ v = u) ∧ db'.helpers = db.helpers := by
  unfold addStudent at h
  split at h
  · cases h
  · rename_i hins
    obtain ⟨husers, hhelpers⟩ := insertUser_ok hins
    split at h
    · cases h
    · split at h
      · cases h
      · cases h
        exact ⟨husers, hhelpers⟩

theorem addHelper_ok {db' : AccountsDb} {u : Account} {g : Helper}
    (h : db.addHelper u g = .ok db') :
    (∀ v, v ∈ db'.users ↔ v ∈ db.users ∨ v = u) ∧
      ∀ k, k ∈ db'.helpers ↔ k ∈ db.helpers ∨ k = g := by
  unfold addHelper at h
  split at h
  · cases h
  · rename_i hins
    obtain ⟨husers, hhelpers⟩ := insertUser_ok hins
    split at h
    · cases h
    · rename_i helpers hg
      cases h
      rw [hhelpers] at hg
      exact ⟨husers, fun k => Table.mem_of_insert hg⟩

end AccountsDb

end UniTrack
