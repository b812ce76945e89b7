import Remit.Decimal.Printer
import Remit.Transfer.Basic
import Remit.Value.Basic

/-!
# The payload of an execution request

What the execution subsystem is told about a transfer (`Instruction.payload`): the two accounts as
they are, the amount in plain notation, the day in words, and the formats that day and amount are
written in.
-/

namespace Remit

/-- What the execution subsystem is told about a transfer. -/
structure Payload where
  fromOfficeId : Option Int
  fromClientId : Option Int
  fromAccountType : Int
  fromAccountId : Option Int
  toOfficeId : Option Int
  toClientId : Option Int
  toAccountType : Int
  toAccountId : Option Int
  amount : String
  day : String
  description : String
  deriving DecidableEq, Repr

/-- The payload of an instruction. -/
def Instruction.payload (i : Instruction) : Payload where
  fromOfficeId := i.fromOfficeId
  fromClientId := i.fromClientId
  fromAccountType := i.fromAccountType
  fromAccountId := i.fromAccountId
  toOfficeId := i.toOfficeId
  toClientId := i.toClientId
  toAccountType := i.toAccountType
  toAccountId := i.toAccountId
  amount := i.amount.val.plain
  day := i.day.inWords
  description := i.description

namespace Payload

/-- How the day of a payload is written. -/
def dateFormat : String := "dd MMMM yyyy"

/-- The language of the month's name. -/
def locale : String := "en"

/-- The payload as the body of a request. -/
def toValue (p : Payload) : Value :=
  .object [
    ("fromOfficeId", .ofInt? p.fromOfficeId),
    ("fromClientId", .ofInt? p.fromClientId),
    ("fromAccountType", .int p.fromAccountType),
    ("fromAccountId", .ofInt? p.fromAccountId),
    ("toOfficeId", .ofInt? p.toOfficeId),
    ("toClientId", .ofInt? p.toClientId),
    ("toAccountType", .int p.toAccountType),
    ("toAccountId", .ofInt? p.toAccountId),
    ("transferAmount", .text p.amount),
    ("transferDate", .text p.day),
    ("transferDescription", .text p.description),
    ("dateFormat", .text dateFormat),
    ("locale", .text locale)]

end Payload

end Remit
