import UniTrack.Routes.Auth

/-!
# Moderating accounts (`app/api/routes/admin.py`)

`approve_helper`, `suspend_user` and `reinstate_user`. The router guard has
already made sure that the caller is an admin, and passes on who it is.
-/

namespace UniTrack

open UniTrack.Framework UniTrack.Python

structure HelperOut where
  helperId : HelperId
  userId : UserId
  name : Text
  email : Text
  phone : Option Text
  helperStatus : HelperStatus
  userStatus : UserStatus
  approvedBy : Option UserId
deriving DecidableEq

def toOut (user : Account) (helper : Helper) : HelperOut where
  helperId := helper.id
  userId := user.id
  name := user.name
  email := user.email
  phone := user.phone
  helperStatus := helper.status
  userStatus := user.status
  approvedBy := helper.approvedBy

structure UserStatusOut where
  userId : UserId
  userStatus : UserStatus
  helperStatus : Option HelperStatus
deriving DecidableEq

def UserStatus.value : UserStatus → String
  | .pendingEmail => "pending_email"
  | .active => "active"
  | .pendingApproval => "pending_approval"
  | .suspended => "suspended"

def approveHelper (admin : UserId) (helperId : HelperId) (db : AccountsDb) :
    AccountsDb × Reply HelperOut :=
  match db.getHelper helperId with
  | none => (db, .refused 404 "Unknown helper")
  | some helper =>
      if helper.status = .approved then (db, .refused 409 "Helper is already approved")
      else match db.get helper.userId with
        | none => (db, .refused 404 "Helper has no user row")
        | some user =>
            ((db.setHelper helperId .approved (some admin)).setStatus helper.userId .active,
              .ok (toOut { user with status := .active }
                { helper with status := .approved, approvedBy := some admin }))

def suspendUser (admin userId : UserId) (db : AccountsDb) : AccountsDb × Reply Unit :=
  if userId = admin then (db, .refused 400 "Cannot suspend yourself")
  else match db.get userId with
    | none => (db, .refused 404 "Unknown user")
    | some _ =>
        let db' := db.setStatus userId .suspended
        match db.helperByUserId userId with
        | none => (db', .ok ())
        | some helper => (db'.setHelper helper.id .suspended helper.approvedBy, .ok ())

def reinstateUser (userId : UserId) (db : AccountsDb) : AccountsDb × Reply UserStatusOut :=
  match db.get userId with
  | none => (db, .refused 404 "Unknown user")
  | some user =>
      if user.status ≠ .suspended then
        (db, .refused 409 s!"Account is {user.status.value}, not suspended")
      else
        let db' := db.setStatus userId .active
        match db.helperByUserId userId with
        | none => (db', .ok ⟨userId, .active, none⟩)
        | some helper =>
            (db'.setHelper helper.id .approved helper.approvedBy,
              .ok ⟨userId, .active, some .approved⟩)

/-! ## What each request writes -/

section
variable {db : AccountsDb}

theorem approveHelper_cases (admin : UserId) (helperId : HelperId) :
    ((approveHelper admin helperId db).1 = db ∧
        (approveHelper admin helperId db).2.body? = none) ∨
      ∃ h ∈ db.helpers, h.id = helperId ∧ ∃ out,
        (approveHelper admin helperId db).2.body? = some out ∧ out.helperId = helperId ∧
        (approveHelper admin helperId db).1 =
          (db.setHelper helperId .approved (some admin)).setStatus h.userId .active := by
  unfold approveHelper
  split
  · exact Or.inl ⟨rfl, rfl⟩
  · rename_i h hh
    obtain ⟨hmem, hid⟩ := AccountsDb.getHelper_eq_some.mp hh
    split
    · exact Or.inl ⟨rfl, rfl⟩
    · split
      · exact Or.inl ⟨rfl, rfl⟩
      · exact Or.inr ⟨h, hmem, hid, _, rfl, hid, rfl⟩

theorem suspendUser_cases (admin userId : UserId) :
    (suspendUser admin userId db).1 = db ∨
      (suspendUser admin userId db).1 = db.setStatus userId .suspended ∨
      ∃ h ∈ db.helpers, h.userId = userId ∧ (suspendUser admin userId db).1 =
        (db.setStatus userId .suspended).setHelper h.id .suspended h.approvedBy := by
  unfold suspendUser
  split
  · exact Or.inl rfl
  · split
    · exact Or.inl rfl
    · right
      dsimp only
      split
      · exact Or.inl rfl
      · rename_i h hh
        obtain ⟨hmem, huser⟩ := AccountsDb.helperByUserId_eq_some.mp hh
        exact Or.inr ⟨h, hmem, huser, rfl⟩

/-- Only a suspended account is touched, and its helper row with it. -/
theorem reinstateUser_cases (userId : UserId) :
    ((∀ u ∈ db.users, u.id = userId → u.status ≠ .suspended) ∧
        (reinstateUser userId db).1 = db) ∨
      ∃ u ∈ db.users, u.id = userId ∧ u.status = .suspended ∧
        (((∀ h ∈ db.helpers, h.userId ≠ userId) ∧
            (reinstateUser userId db).1 = db.setStatus userId .active) ∨
          ∃ h ∈ db.helpers, h.userId = userId ∧ (reinstateUser userId db).1 =
            (db.setStatus userId .active).setHelper h.id .approved h.approvedBy) := by
  unfold reinstateUser
  split
  · rename_i hnone
    left
    refine ⟨?_, rfl⟩
    intro u hu hid
    have hsome : db.get userId = some u := AccountsDb.get_eq_some.mpr ⟨hu, hid⟩
    rw [hnone] at hsome
    cases hsome
  · rename_i user huser
    obtain ⟨hmem, hid⟩ := AccountsDb.get_eq_some.mp huser
    split
    · rename_i hstatus
      left
      refine ⟨?_, rfl⟩
      intro u hu huid
      rw [AccountsDb.user_ext hu hmem (huid.trans hid.symm)]
      exact hstatus
    · rename_i hstatus
      refine Or.inr ⟨user, hmem, hid, not_not.mp hstatus, ?_⟩
      dsimp only
      split
      · rename_i hnone
        exact Or.inl ⟨AccountsDb.helperByUserId_eq_none.mp hnone, rfl⟩
      · rename_i h hh
        obtain ⟨hhmem, huserId⟩ := AccountsDb.helperByUserId_eq_some.mp hh
        exact Or.inr ⟨h, hhmem, huserId, rfl⟩

end

end UniTrack
