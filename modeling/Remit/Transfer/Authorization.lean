import Remit.Registry
import Remit.Request.Transfer
import Remit.Transfer.Limit
import Remit.Transfer.Template

/-!
# Authorizing a transfer

`authorize` decides one transfer in a fixed order: the fields of the request, the single source
account, the destination of the requested number, both ends against the accounts that the user may
use now, and for a third party the two ceilings. What it needs to know it asks of `Facts`, whose
answers are read when they are asked for and need not fit together. The journal shows the questions
in order, and one log record for each decision about an account or a ceiling.

`Facts.ofStore` answers from a store.
-/

namespace Remit

/-- What authorization asks about one user. -/
structure Facts where
  source : Except Fault AccountHandle
  selfAccounts : Except Fault (List AccountHandle)
  candidates : TransferType → Except Fault (List AccountHandle)
  destinations : TransferType → Except Fault (List AccountHandle)
  /-- The strictest limit stored for an account. -/
  transferLimit : Option Int → Int → Except Fault (Option Int)
  /-- The total that was taken from an account on a day, as the ledger gives it. -/
  total : Option Int → Int → Date → Except Fault Value

/-- The answers of a store. -/
def Facts.ofStore (s : Store) (user : User) : Facts where
  source := Template.sourceAccount s user
  selfAccounts := (Template.selfAccounts s user).mapError .breakdown
  candidates type := (Template.candidates s user type).mapError .breakdown
  destinations type := (Template.destinations s user type).mapError .breakdown
  transferLimit account type := (s.transferLimit user.id account type).mapError .breakdown
  total account type day := ((s.bank.total account type day).map Value.decimal).mapError .breakdown

namespace Authorization

/-- The text of an optional account number in a message. -/
def shownId (id : Option Int) : String := Refusal.shown (.ofInt? id)

/-- Why a destination of an unknown number is refused. -/
def notFoundReason : String := "toAccount not found among the accounts available for this transfer"

/-- Why a destination without an account of this system is refused. -/
def externalReason : String := "toAccount is not internal, external accounts not implemented yet"

/-- Warns in the technical log and refuses. -/
def reject {α : Type} (warning : String) (r : Refusal) : Act α := do
  Act.log .app .warning warning
  Act.refuse r

/-- The first resolved candidate with the requested number. -/
def selectDestination (candidates : List AccountHandle) (number : String) : Act AccountHandle :=
  let matching := candidates.filter (·.accountNumber == some number)
  match matching.find? (·.isResolved) with
  | some h => pure h
  | none =>
    if matching.isEmpty then
      reject s!"Rejected transfer to unknown account {number}" (.invalidDestination notFoundReason)
    else
      reject s!"Rejected transfer to external account {number}" (.invalidDestination externalReason)

/-- Checks both ends against the accounts that the user may use, and against each other. -/
def checkMembership (facts : Facts) (user : User) (type : TransferType)
    (source destination : AccountHandle) : Act Unit := do
  let selfAccounts ← Act.lift facts.selfAccounts
  Act.call (.destinations type)
  let destinations ← Act.lift (facts.destinations type)
  if !source.isIn selfAccounts then
    reject s!"Source account {shownId source.accountId} is not owned by user {user.id}"
      .invalidSource
  else if !destination.isIn destinations then
    reject
      s!"Destination account {shownId destination.accountId} is not available to user {user.id}"
      (.invalidDestination none)
  else if source.same destination then Act.refuse .sameAccount
  else return ()

/-- Applies the ceiling of the beneficiary account. -/
def checkBeneficiaryLimit (facts : Facts) (destination : AccountHandle) (amount : Decimal) :
    Act Unit := do
  Act.call (.transferLimit destination.accountId destination.accountType)
  let limit ← Act.lift (facts.transferLimit destination.accountId destination.accountType)
  let limit := Registry.effectiveLimit limit
  if ← Act.liftBreakdown ((exceedsBeneficiaryLimit amount limit).mapError .ofSignal) then
    reject
      (s!"Amount {amount.scientific} exceeds beneficiary limit {shownId limit} " ++
        s!"for account {shownId destination.accountId}")
      (.aboveBeneficiaryLimit limit)

/-- Applies the daily ceiling of the source account, if there is one. -/
def checkDailyLimit (facts : Facts) (settings : LimitSettings) (source : AccountHandle)
    (input : TransferInput) : Act Unit := do
  if settings.enabled then
    Act.call (.total source.accountId source.accountType input.day)
    let total ← Act.lift (facts.total source.accountId source.accountType input.day)
    let consumed ← Act.liftBreakdown total.toDecimal
    if ← Act.liftBreakdown
        ((exceedsDailyLimit input.amount (some consumed) settings).mapError .ofSignal) then
      reject
        (s!"Daily limit {shownId settings.cap} reached for account {shownId source.accountId}: " ++
          s!"consumed {consumed.val.scientific}, requested {input.amount.val.scientific}")
        (.aboveDailyLimit source.accountId source.accountType (some input.day))

/-- Applies the ceilings for transfers to third parties. -/
def checkLimits (facts : Facts) (settings : LimitSettings) (type : TransferType)
    (source destination : AccountHandle) (input : TransferInput) : Act Unit :=
  match type with
  | .self => return ()
  | .tpt => do
    checkBeneficiaryLimit facts destination input.amount
    checkDailyLimit facts settings source input

end Authorization

open Authorization in
/-- Decides the transfer that a user requests on a day. -/
def authorize (facts : Facts) (user : User) (type : TransferType) (fields : Fields) (day : Date)
    (settings : LimitSettings) : Act Instruction := do
  let input ← Act.lift (Request.transferInput fields day)
  let source ← Act.lift facts.source
  Act.call (.destinationCandidates type)
  let candidates ← Act.lift (facts.candidates type)
  let destination ← selectDestination candidates input.toAccountNumber
  checkMembership facts user type source destination
  checkLimits facts settings type source destination input
  Act.log .app .info
    (s!"Authorized {type.name} transfer of {input.amount.val.scientific} " ++
      s!"from account {shownId source.accountId} to account {shownId destination.accountId} " ++
      s!"for user {user.id}")
  return .between source destination input

end Remit
