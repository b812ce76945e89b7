import Remit.Account.Handle
import Remit.Date
import Remit.Decimal.Basic
import Remit.Transfer.Kind

/-!
# Transfers

What a transfer is at each stage: the checked fields of a request (`TransferInput`), and the fully
resolved `Instruction` that may be executed. `LimitSettings` is the configuration of the daily
ceiling at one moment, and a `Template` lists the accounts to choose from.
-/

namespace Remit

/-- The checked fields of a transfer request. -/
structure TransferInput where
  toAccountNumber : String
  amount : Decimal.Representable
  description : String
  day : Date
  deriving DecidableEq, Repr, Inhabited

/-- A fully resolved transfer; it no longer depends on how it was requested. -/
structure Instruction where
  fromOfficeId : Option Int
  fromClientId : Option Int
  fromAccountId : Option Int
  fromAccountType : Int
  toOfficeId : Option Int
  toClientId : Option Int
  toAccountId : Option Int
  toAccountType : Int
  amount : Decimal.Representable
  day : Date
  description : String
  deriving DecidableEq, Repr, Inhabited

/-- The transfer of checked fields from one account to another. -/
def Instruction.between (source destination : AccountHandle) (input : TransferInput) :
    Instruction where
  fromOfficeId := source.officeId
  fromClientId := source.clientId
  fromAccountId := source.accountId
  fromAccountType := source.accountType
  toOfficeId := destination.officeId
  toClientId := destination.clientId
  toAccountId := destination.accountId
  toAccountType := destination.accountType
  amount := input.amount
  day := input.day
  description := input.description

/-- The configuration of the daily ceiling for transfers to third parties. -/
structure LimitSettings where
  enabled : Bool := false
  cap : Option Int := none
  deriving DecidableEq, Repr, Inhabited

/-- The accounts a user may transfer from and to. -/
structure Template where
  fromAccounts : List AccountHandle
  toAccounts : List AccountHandle
  deriving DecidableEq, Repr, Inhabited

end Remit
