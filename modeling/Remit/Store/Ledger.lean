import Remit.Double.Reader
import Remit.Store.Bank
import Remit.Value.Amount

/-!
# The ledger

What left an account on a day (`Bank.total`): the transfers of that day that were not reversed and
went from a client to another client, each counted once. A total of whole amounts is a whole number;
as soon as one amount is a double, the total is the double nearest to the exact sum.

The sum is that of the database where the partial sums of whole amounts stay within the width of a
column, in whatever order they are taken, and no amount is a double. Elsewhere it is idealized: the
database refuses whole amounts whose partial sums leave 64 bits, adds doubles one by one with a
rounding at each step, and keeps infinities. What is shown of totals supposes whole amounts whose
sums fit.
-/

namespace Remit

-- Powers are those of the core library, whatever else is imported.
attribute [local instance (high)] instPowNat

namespace LedgerAmount

/-- The amount as a ledger keeps it: a double without decimal places is a whole number. -/
def ofDouble (d : Double) : Option LedgerAmount :=
  match d with
  | .nan => none
  | .infinite _ => some (.real d)
  | .finite .. =>
    if d.toDecimal.isWhole && fitsColumn d.toDecimal.truncate then
      some (.whole d.toDecimal.truncate)
    else some (.real d)

/-- The amount that a value of a ledger row stands for. -/
def ofValue : Value → Option LedgerAmount
  | .int i => some (.whole i)
  | .bool b => some (.whole (if b then 1 else 0))
  | .double d => ofDouble d
  | .text s => (Double.read? s).bind ofDouble
  | _ => none

/-- Whether the amount is a whole number by kind. -/
def isWhole : LedgerAmount → Bool
  | whole _ => true
  | real _ => false

/-- The amount in units of the smallest double. Infinities count as nothing, where the database
would keep them. -/
def units : LedgerAmount → Int
  | whole i => i * 2 ^ (1074 : Nat)
  | real (.finite n m e) => Text.signed n (m * 2 ^ (e + 1074).toNat)
  | real _ => 0

/-- The sum of amounts, exact for whole ones and rounded once as soon as there is a double. It never
fails, where the database refuses whole amounts whose partial sums do not fit a column. -/
def sum (amounts : List LedgerAmount) : Value :=
  let units := (amounts.map units).foldr (· + ·) 0
  if amounts.all isWhole then .int (units / 2 ^ (1074 : Nat))
  else .double (.nearest (units < 0) units.natAbs (2 ^ (1074 : Nat)))

end LedgerAmount

namespace Bank

/-- The account that a transfer was taken from, among the accounts of a kind. Every kind but loans
counts as savings. -/
def sourceOf (d : TransferDetail) (type : Int) : Option Int :=
  if type = AccountType.loan.number then d.fromLoanId else d.fromSavingsId

/-- Whether a transfer is between different clients, both of whom are known. -/
def isThirdParty (d : TransferDetail) : Bool :=
  d.fromClientId.isSome && d.toClientId.isSome && d.fromClientId != d.toClientId

/-- Whether a transaction took an amount from an account to a third party on a day, told by the
details of the transfer. -/
def counts (account : Option Int) (type : Int) (day : Date) (t : Transaction) (d : TransferDetail) :
    Bool :=
  !t.isReversed && t.day == some day.iso && t.detailId == some d.id && isThirdParty d &&
    account.isSome && sourceOf d type == account

/-- The amounts that were taken from an account to third parties on a day. -/
def amounts (b : Bank) (account : Option Int) (type : Int) (day : Date) : List LedgerAmount :=
  (byId (·.id) b.transactions).flatMap fun t =>
    (b.details.filter (counts account type day t)).flatMap fun _ => t.amount.toList

/-- The total that was taken from an account to third parties on a day. -/
def total (b : Bank) (account : Option Int) (type : Int) (day : Date) :
    Except Breakdown Decimal.Representable := do
  let _ ← account.mapM column
  (LedgerAmount.sum (b.amounts account type day)).toDecimal

end Bank

end Remit
