import UniTrack.Core.Security
import UniTrack.Repositories.Users

/-!
# Signing up (`app/api/routes/auth.py`)

`register_student`, `register_helper` and `verify_email`. The hash that argon2
made of the password comes with the request: its salt is drawn at random.
-/

namespace UniTrack

open UniTrack.Framework UniTrack.Python

/-- How a request ends; `crashed` is an unhandled exception. -/
inductive Reply (α : Type) where
  | ok (body : α)
  | refused (statusCode : Nat) (detail : String)
  | crashed
deriving DecidableEq

/-- The body of a request that succeeded. -/
def Reply.body? {α : Type} : Reply α → Option α
  | .ok body => some body
  | _ => none

/-- What the account routes take from libraries and from the settings. -/
structure Identity extends Jwt where
  /-- `str.lower`, over all of Unicode -/
  lower : Text → Text
  studentEmailDomains : List Text

/-- The schema bounds the name and the student number and leaves the other
lengths to the columns. -/
structure StudentRegister where
  email : Text
  name : Text
  studentIdNo : Text
  department : Option Text
  batch : Option Text
  phone : Option Text
  namePresent : 1 ≤ name.length ∧ name.length ≤ 120
  numberPresent : 1 ≤ studentIdNo.length ∧ studentIdNo.length ≤ 64

structure HelperRegister where
  email : Text
  name : Text
  phone : Option Text
  namePresent : 1 ≤ name.length ∧ name.length ≤ 120

structure UserOut where
  id : UserId
  email : Text
  name : Text
  role : UserRole
  status : UserStatus
deriving DecidableEq

def userOut (u : Account) : UserOut where
  id := u.id
  email := u.email
  name := u.name
  role := u.role
  status := u.status

/-- `email.rsplit("@", 1)[-1].lower()`. -/
def emailDomain (identity : Identity) (email : Text) : Text :=
  identity.lower (email.reverse.takeWhile (· ≠ '@')).reverse

def newStudentUser (identity : Identity) (db : AccountsDb) (payload : StudentRegister)
    (passwordHash : Text) : Account where
  id := db.freshUserId
  email := identity.lower payload.email
  role := .student
  name := payload.name
  phone := payload.phone
  status := .pendingEmail
  passwordHash := passwordHash

def newStudentProfile (db : AccountsDb) (payload : StudentRegister) : StudentProfile where
  id := db.freshStudentId
  userId := db.freshUserId
  studentIdNo := payload.studentIdNo
  department := payload.department
  batch := payload.batch

def registerStudent (identity : Identity) (payload : StudentRegister) (passwordHash : Text)
    (db : AccountsDb) : AccountsDb × Reply UserOut :=
  if emailDomain identity payload.email ∉ identity.studentEmailDomains then
    (db, .refused 403 "Email domain not allowed for student registration")
  else if (db.byEmail (identity.lower payload.email)).isSome then
    (db, .refused 409 "Email already registered")
  else if db.studentIdTaken payload.studentIdNo then
    (db, .refused 409 "That student ID is already registered")
  else
    let user := newStudentUser identity db payload passwordHash
    match db.addStudent user (newStudentProfile db payload) with
    | .ok db' => (db', .ok (userOut user))
    | .error .integrity => (db, .refused 409 "That email or student ID is already registered")
    | .error .data => (db, .crashed)

/-- Pending until an admin approves. -/
def newHelperUser (identity : Identity) (db : AccountsDb) (payload : HelperRegister)
    (passwordHash : Text) : Account where
  id := db.freshUserId
  email := identity.lower payload.email
  role := .helper
  name := payload.name
  phone := payload.phone
  status := .pendingApproval
  passwordHash := passwordHash

def newHelper (db : AccountsDb) : Helper where
  id := db.freshHelperId
  userId := db.freshUserId
  approvedBy := none
  status := .pending

def registerHelper (identity : Identity) (payload : HelperRegister) (passwordHash : Text)
    (db : AccountsDb) : AccountsDb × Reply UserOut :=
  if (db.byEmail (identity.lower payload.email)).isSome then
    (db, .refused 409 "Email already registered")
  else
    let user := newHelperUser identity db payload passwordHash
    match db.addHelper user (newHelper db) with
    | .ok db' => (db', .ok (userOut user))
    | .error .integrity => (db, .refused 409 "Email already registered")
    | .error .data => (db, .crashed)

def verifyEmail (jwt : Jwt) (now : Instant) (token : Text) (db : AccountsDb) :
    AccountsDb × Reply UserOut :=
  match readToken jwt now token .emailVerify with
  | none => (db, .refused 400 "Invalid or expired token")
  | some (_, userId) =>
      match db.get userId with
      | none => (db, .refused 404 "User not found")
      | some user =>
          if user.status = .pendingEmail then
            (db.setStatus userId .active, .ok { userOut user with status := .active })
          else (db, .ok (userOut user))

/-! ## What each request writes -/

section
variable {identity : Identity} {jwt : Jwt} {db : AccountsDb}

theorem registerStudent_cases (payload : StudentRegister) (passwordHash : Text) :
    (registerStudent identity payload passwordHash db).1 = db ∨
      db.addStudent (newStudentUser identity db payload passwordHash)
        (newStudentProfile db payload) =
        .ok (registerStudent identity payload passwordHash db).1 := by
  unfold registerStudent
  split
  · exact Or.inl rfl
  · split
    · exact Or.inl rfl
    · split
      · exact Or.inl rfl
      · dsimp only
        split
        · rename_i hadd
          exact Or.inr hadd
        · exact Or.inl rfl
        · exact Or.inl rfl

theorem registerHelper_cases (payload : HelperRegister) (passwordHash : Text) :
    (registerHelper identity payload passwordHash db).1 = db ∨
      db.addHelper (newHelperUser identity db payload passwordHash) (newHelper db) =
        .ok (registerHelper identity payload passwordHash db).1 := by
  unfold registerHelper
  split
  · exact Or.inl rfl
  · dsimp only
    split
    · rename_i hadd
      exact Or.inr hadd
    · exact Or.inl rfl
    · exact Or.inl rfl

/-- A token is consumed for the account it names, whether or not that account
was waiting for it. -/
theorem verifyEmail_cases (now : Instant) (token : Text) :
    ((verifyEmail jwt now token db).1 = db ∧ (verifyEmail jwt now token db).2.body? = none) ∨
      ∃ u ∈ db.users, ∃ out, (verifyEmail jwt now token db).2.body? = some out ∧ out.id = u.id ∧
        ((verifyEmail jwt now token db).1 = db ∨
          (verifyEmail jwt now token db).1 = db.setStatus u.id .active) := by
  unfold verifyEmail
  split
  · exact Or.inl ⟨rfl, rfl⟩
  · split
    · exact Or.inl ⟨rfl, rfl⟩
    · rename_i u hu
      obtain ⟨hmem, rfl⟩ := AccountsDb.get_eq_some.mp hu
      right
      split
      · exact ⟨u, hmem, _, rfl, rfl, Or.inr rfl⟩
      · exact ⟨u, hmem, _, rfl, rfl, Or.inl rfl⟩

end

end UniTrack
