import Remit.Account.Handle
import Remit.Institution

/-!
# The bank's tables

The tables of offices, clients, accounts and executed transfers belong to the banking system; they
are only read here. `Bank.ownedAccounts` lists the active accounts of the clients that a user is
mapped to, one entry for each way to reach an account, and `Bank.findSavings` finds the open savings
account of a number. The order of the rows in a table does not matter: where several rows fit, the
one with the lowest id is taken.
-/

namespace Remit

-- Powers are those of the core library, whatever else is imported.
attribute [local instance (high)] instPowNat

/-- An office of the bank. -/
structure Office where
  id : Int
  name : Option String
  deriving DecidableEq, Repr, Inhabited

/-- A client of the bank. -/
structure Client where
  id : Int
  officeId : Option Int
  displayName : Option String
  deriving DecidableEq, Repr, Inhabited

/-- A self-service user acts for a client. -/
structure ClientMapping where
  id : Int
  userId : Option Int
  clientId : Option Int
  deriving DecidableEq, Repr, Inhabited

/-- A savings or loan account. -/
structure AccountRow where
  id : Int
  number : Option String
  clientId : Option Int
  status : Option Int
  deriving DecidableEq, Repr, Inhabited

/-- The parties of an executed transfer. -/
structure TransferDetail where
  id : Int
  fromClientId : Option Int
  toClientId : Option Int
  fromSavingsId : Option Int
  fromLoanId : Option Int
  deriving DecidableEq, Repr, Inhabited

/-- An amount of the ledger. -/
inductive LedgerAmount where
  | whole (i : Int)
  | real (d : Double)
  deriving DecidableEq, Repr, Inhabited

/-- One executed transfer of an amount on a day. -/
structure Transaction where
  id : Int
  detailId : Option Int
  amount : Option LedgerAmount
  day : Option String
  isReversed : Bool
  deriving DecidableEq, Repr, Inhabited

/-- The tables of the banking system. -/
structure Bank where
  offices : List Office := []
  clients : List Client := []
  mappings : List ClientMapping := []
  savings : List AccountRow := []
  loans : List AccountRow := []
  details : List TransferDetail := []
  transactions : List Transaction := []
  deriving Inhabited

/-- Rows in increasing order of a number. -/
def byId {α : Type} (id : α → Int) (rows : List α) : List α := rows.mergeSort fun a b => id a ≤ id b

/-- Whether a number fits into a column of whole numbers. -/
def fitsColumn (i : Int) : Bool := -(2 ^ (63 : Nat) : Int) ≤ i && i < (2 ^ (63 : Nat) : Int)

/-- A number that is compared with a column. -/
def column (i : Int) : Except Breakdown Int :=
  if fitsColumn i then .ok i else .error .integerTooWide

namespace Bank

/-- The status of an account in use. -/
def activeStatus : Int := 300

/-- The status of a closed account. -/
def closedStatus : Int := 600

/-- The active accounts of a table that a user's clients hold, with their clients and offices. -/
def ownedOf (b : Bank) (type : AccountType) (accounts : List AccountRow) (user : Int) :
    List AccountHandle :=
  ((byId (·.id) accounts).filter (·.status == some activeStatus)).flatMap fun a =>
    (b.clients.filter fun c => a.clientId == some c.id).flatMap fun c =>
      (b.offices.filter fun o => c.officeId == some o.id).flatMap fun o =>
        (b.mappings.filter fun m => m.userId == some user && m.clientId == some c.id).map fun _ =>
          { accountId := some a.id, accountType := type.number, clientId := some c.id,
            officeId := some o.id, accountNumber := a.number, clientName := c.displayName,
            officeName := o.name }

/-- The active accounts that a user may use, one entry for each mapping that leads to an account. -/
def ownedAccounts (b : Bank) (user : Int) : Except Breakdown (List AccountHandle) := do
  let user ← column user
  return b.ownedOf .savings b.savings user ++ b.ownedOf .loan b.loans user

/-- A savings account with its client, if the client exists. -/
def savingsRecord (b : Bank) (number : String) (a : AccountRow) : SavingsRecord :=
  match b.clients.find? fun c => a.clientId == some c.id with
  | some c => ⟨a.id, number, some c.id, c.officeId⟩
  | none => ⟨a.id, number, none, none⟩

/-- The savings account of a number that is not closed. Without a status an account does not count
as open. -/
def findSavings (b : Bank) (number : String) : Option SavingsRecord :=
  let found := (byId (·.id) b.savings).filter fun a =>
    a.number == some number && a.status.isSome && a.status != some closedStatus
  found.head?.map (b.savingsRecord number)

end Bank

end Remit
