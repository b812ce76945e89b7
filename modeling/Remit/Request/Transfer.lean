import Remit.Request.Beneficiary
import Remit.Transfer.Basic

/-!
# Transfer requests

Reading the parameters of a transfer request (`Request.transferInput`). The account number is taken
without the blanks around it, the description as it is, and the transfer is booked on the given day.
-/

namespace Remit.Request

/-- The resource that transfer errors name. -/
def transferResource : String := "accounttransfer"

/-- The parameters of a transfer request. -/
def transferParameters : List String :=
  ["locale", "toAccountNumber", "transferAmount", "transferDescription"]

/-- The amount of a checked parameter. -/
def amountOf (c : Check) : Decimal.Representable :=
  match c.value with
  | .decimal d => d
  | _ => .zero

/-- Reads a transfer request that is booked on a day. -/
def transferInput (fields : Fields) (day : Date) : Except Fault TransferInput := do
  let check := parameter transferResource fields
  let amount ← check "transferAmount" [.notNull, .amount, .positiveAmount]
  let description ← check "transferDescription" (textRules 200)
  let number ← check "toAccountNumber" (textRules 22)
  refuseErrors (unsupportedErrors fields transferParameters ++
    Check.errors [amount, description, number])
  return {
    toAccountNumber := Text.strip (textOf number)
    amount := amountOf amount
    description := textOf description
    day }

end Remit.Request
