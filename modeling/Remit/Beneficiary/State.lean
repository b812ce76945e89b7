/-!
# The life of a beneficiary

A beneficiary is active from the moment it is added until it is deactivated. It is never removed and
never becomes active again.
-/

namespace Remit

/-- Whether a beneficiary can still be used. -/
inductive BeneficiaryState where
  | active
  | deactivated
  deriving DecidableEq, Repr, Inhabited

namespace BeneficiaryState

/-- The name of a state. -/
def name : BeneficiaryState → String
  | active => "ACTIVE"
  | deactivated => "DEACTIVATED"

/-- The state that a flag stands for. -/
def ofFlag (b : Bool) : BeneficiaryState := if b then active else deactivated

/-- Whether the state is the active one. -/
def isActive (s : BeneficiaryState) : Bool := s == active

/-- A state is active exactly if the flag that it was made from is set. -/
@[simp] theorem isActive_ofFlag (b : Bool) : (ofFlag b).isActive = b := by cases b <;> rfl

end BeneficiaryState

end Remit
