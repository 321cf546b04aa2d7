import UniTrack.Python.Text

/-!
# Accounts (`app/models/user.py`)

Primary keys are uuids in the program and numbers here: only their equality
is ever used.
-/

namespace UniTrack

open UniTrack.Python

abbrev UserId := Nat
abbrev StudentId := Nat
abbrev HelperId := Nat

inductive UserRole where
  | student
  | helper
  | admin
deriving DecidableEq

inductive UserStatus where
  | pendingEmail
  | active
  | pendingApproval
  | suspended
deriving DecidableEq

inductive HelperStatus where
  | pending
  | approved
  | suspended
deriving DecidableEq

structure User where
  id : UserId
  email : Text
  role : UserRole
  name : Text
  phone : Option Text
  status : UserStatus
deriving DecidableEq

structure Student where
  id : StudentId
  userId : UserId
deriving DecidableEq

structure Helper where
  id : HelperId
  userId : UserId
  approvedBy : Option UserId
  status : HelperStatus
deriving DecidableEq

end UniTrack
