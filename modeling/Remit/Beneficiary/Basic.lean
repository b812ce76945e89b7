import Remit.Account.Handle
import Remit.Value.Equality

/-!
# Beneficiaries

A `Beneficiary` is a user's saved link to a receiving account. It stands for the account handle that
a transfer may go to (`Beneficiary.handle`), and an update of it touches only its name and its
transfer limit: `Beneficiary.changes` are the supplied fields that differ from the record.
-/

namespace Remit

/-- A field of an update: left alone, or given a value. -/
inductive Supplied (α : Type) where
  | absent
  | given (a : α)
  deriving DecidableEq, Repr, Inhabited

/-- A validated request for a new beneficiary; its account is not resolved yet. The codes are taken
over as they came. -/
structure NewBeneficiary where
  userId : Int
  name : String
  accountName : String
  accountNumber : String
  accountType : AccountType
  institutionName : String
  institutionCode : Value := .null
  currencyCode : Value := .null
  transferLimit : Option Int := none
  accountId : Option Int := none
  clientId : Option Int := none
  officeId : Option Int := none
  deriving Inhabited

/-- A user's saved link to a receiving account. -/
structure Beneficiary where
  id : Int
  userId : Int
  name : String
  accountName : String
  accountNumber : String
  accountType : AccountType
  institutionName : String
  accountId : Option Int := none
  clientId : Option Int := none
  officeId : Option Int := none
  institutionCode : Option String := none
  currencyCode : Option String := none
  transferLimit : Option Int := none
  state : BeneficiaryState := .active
  deriving DecidableEq, Repr, Inhabited

namespace Beneficiary

/-- Whether the beneficiary can still be used. -/
def isActive (b : Beneficiary) : Bool := b.state.isActive

/-- Whether the beneficiary belongs to a user. -/
def ownedBy (b : Beneficiary) (user : Int) : Bool := b.userId == user

/-- The destination that the beneficiary stands for. -/
def handle (b : Beneficiary) : AccountHandle where
  accountId := b.accountId
  accountType := b.accountType.number
  clientId := b.clientId
  officeId := b.officeId
  accountNumber := some b.accountNumber
  clientName := some b.accountName

/-- One field of an update: nothing if it is absent or equal to the stored value. -/
def change (name : String) (supplied : Supplied Value) (stored : Value) :
    Except Decimal.Signal Fields :=
  match supplied with
  | .absent => .ok []
  | .given v => do if ← v.equal? stored then .ok [] else .ok [(name, v)]

/-- The supplied fields whose value differs from the record. -/
def changes (b : Beneficiary) (name transferLimit : Supplied Value) :
    Except Decimal.Signal Fields := do
  let renamed ← change "name" name (.text b.name)
  let limited ← change "transferLimit" transferLimit (.ofInt? b.transferLimit)
  return renamed ++ limited

end Beneficiary

end Remit
