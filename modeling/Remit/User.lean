import Remit.Refusal

/-!
# Users

The user on whose behalf the service acts, with the permissions that the identity provider granted.
Reading an entity takes its own permission or one of those that cover everything.
-/

namespace Remit

/-- A self-service user. -/
structure User where
  id : Int
  permissions : List String := []
  deriving DecidableEq, Repr, Inhabited

namespace User

/-- The permissions that cover every entity. -/
def allFunctions : List String := ["ALL_FUNCTIONS", "ALL_FUNCTIONS_READ"]

/-- Whether the user may read an entity. -/
def canRead (u : User) (entity : String) : Bool :=
  u.permissions.any allFunctions.contains || u.permissions.contains ("READ_" ++ entity)

/-- Refuses a user who may not read an entity. -/
def checkRead (u : User) (entity : String) : Except Refusal Unit :=
  if u.canRead entity then .ok () else .error (.noReadPermission u.id entity)

end User

end Remit
