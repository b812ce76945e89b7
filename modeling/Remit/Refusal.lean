import Remit.Transfer.Kind
import Remit.Value.Text

/-!
# Refusals

A `Refusal` is an answer of the service that denies a request, given by its cause. Its stable
`code`, its `message`, the request `field` it belongs to and the `details` that a caller can act on
are read off the cause.
-/

namespace Remit

/-- One rejected field of a request. -/
structure ParameterError where
  field : Option String
  code : String
  message : String
  deriving DecidableEq, Repr, Inhabited

/-- The families of refusals that a caller may handle as one. -/
inductive Family where
  | service
  /-- The user may not move funds this way. -/
  | authorization
  /-- The amount breaks a ceiling. -/
  | limit
  /-- The store rejected a write. -/
  | integrity
  /-- There is no such record for this user. -/
  | notFound
  deriving DecidableEq, Repr

/-- The cause of a refusal. -/
inductive Refusal where
  /-- A refusal of a family with words of its own. -/
  | general (family : Family) (message : String) (code field : Option String)
  /-- Fields of the request are missing, unknown or out of range. -/
  | invalidRequest (errors : List ParameterError)
  | invalidSource
  | invalidDestination (reason : Option String)
  | sameAccount
  /-- The user does not own exactly one account. -/
  | ownedAccounts (count : Int)
  | noOwnedAccount
  | multipleOwnedAccounts (count : Int)
  | noReadPermission (user : Int) (entity : String)
  | aboveBeneficiaryLimit (limit : Option Int)
  | aboveDailyLimit (account : Option Int) (type : Int) (day : Option Date)
  | duplicateName (name : Value)
  | brokenIntegrity
  /-- The account of a beneficiary is unknown or not supported. -/
  | invalidAccount (number typeCode : String) (reason : Option String)
  | unknownBeneficiary (id : Value)
  /-- The execution subsystem refused a transfer, or could not be reached if there is no status. -/
  | notExecuted (status : Option Int) (body : String)
  deriving Inhabited

namespace Refusal

/-- The text of a value in a message. -/
def shown (v : Value) : String := v.display?.getD ""

/-- An optional text, or another if it is missing or empty. -/
def orElse (s : Option String) (other : String) : String :=
  match s with
  | some s => if s = "" then other else s
  | none => other

/-- The summary of rejected fields, in their order. -/
def summary (errors : List ParameterError) : String :=
  "; ".intercalate (errors.map fun e => orElse e.field "request" ++ ": " ++ e.message)

/-- The stable code of a refusal. -/
def code : Refusal → String
  | general _ _ code _ => code.getD "error.msg.transfer.service"
  | invalidRequest _ => "validation.msg.validation.errors.exist"
  | invalidSource => "invalid.from.account.details"
  | invalidDestination _ => "invalid.to.account.details"
  | sameAccount => "same.from.to.account.details"
  | ownedAccounts _ | noOwnedAccount | multipleOwnedAccounts _ => "error.msg.account.not.found"
  | noReadPermission .. => "error.msg.no.read.permission"
  | aboveBeneficiaryLimit _ => "error.msg.beneficiary.transfer.limit.exceeded"
  | aboveDailyLimit .. => "error.msg.daily.tpt.amount.limit.exceeded"
  | duplicateName _ => "error.msg.beneficiary.duplicate.name"
  | brokenIntegrity => "error.msg.beneficiary.unknown.data.integrity.issue"
  | invalidAccount .. => "error.msg.beneficiary.account.information.invalid"
  | unknownBeneficiary _ => "error.msg.beneficiary.id.invalid"
  | notExecuted .. => "error.msg.transfer.execution.failed"

/-- The message about a count of owned accounts other than one. -/
def countMessage (count : Int) : String := s!"User should have only one account, has: {count}"

/-- The message of a refusal. -/
def message : Refusal → String
  | general _ message _ _ => message
  | invalidRequest errors => "Validation errors exist: " ++ summary errors
  | invalidSource => "Source account details doesn't match with valid user account details."
  | invalidDestination reason =>
    orElse reason "Destination account details doesn't match with valid user account details."
  | sameAccount => "Source and Destination account details are same."
  | ownedAccounts count | multipleOwnedAccounts count => countMessage count
  | noOwnedAccount => countMessage 0
  | noReadPermission user entity => s!"User {user} has no permission to read {entity}"
  | aboveBeneficiaryLimit _ => "Transfer amount exceeds the beneficiary transfer limit"
  | aboveDailyLimit account type day =>
    s!"Daily third party transfer limit exceeded for account {shown (.ofInt? account)} " ++
      s!"of type {type}" ++
      match day with
      | some day => " on " ++ day.iso
      | none => ""
  | duplicateName name => s!"Beneficiary with name `{shown name}` already exists"
  | brokenIntegrity => "Unknown data integrity issue with resource."
  | invalidAccount number typeCode reason =>
    orElse reason s!"Invalid account details: {number} ({typeCode})"
  | unknownBeneficiary id => s!"Beneficiary with identifier {shown id} does not exist"
  | notExecuted status body =>
    s!"Transfer execution failed with status {shown (.ofInt? status)}: {body}"

/-- The field of the request that a refusal belongs to. -/
def field : Refusal → Option String
  | general _ _ _ field => field
  | invalidSource => some "fromAccount"
  | invalidDestination _ => some "toAccount"
  | aboveBeneficiaryLimit _ | aboveDailyLimit .. => some "transferAmount"
  | duplicateName _ => some "name"
  | invalidAccount .. => some "accountNumber"
  | unknownBeneficiary _ => some "id"
  | invalidRequest _ | sameAccount | ownedAccounts _ | noOwnedAccount | multipleOwnedAccounts _
  | noReadPermission .. | brokenIntegrity | notExecuted .. => none

/-- A rejected field as a value. -/
def errorValue (e : ParameterError) : Value :=
  .object [("field", .ofText? e.field), ("code", .text e.code), ("message", .text e.message)]

/-- What a caller can act on. -/
def details : Refusal → Fields
  | invalidRequest errors => [("errors", .list (errors.map errorValue))]
  | ownedAccounts count | multipleOwnedAccounts count => [("count", .int count)]
  | noOwnedAccount => [("count", .int 0)]
  | aboveBeneficiaryLimit limit => [("limit", .ofInt? limit)]
  | aboveDailyLimit account type day =>
    [("account_id", .ofInt? account), ("account_type", .int type),
      ("transfer_date", (day.map Value.date).getD .null)]
  | duplicateName name => [("name", name)]
  | invalidAccount number typeCode _ =>
    [("account_number", .text number), ("account_type_code", .text typeCode)]
  | unknownBeneficiary id => [("beneficiary_id", id)]
  | notExecuted status body => [("status_code", .ofInt? status), ("body", .text body)]
  | general .. | invalidSource | invalidDestination _ | sameAccount | noReadPermission ..
  | brokenIntegrity => []

/-- The family of a refusal. -/
def family : Refusal → Family
  | general family .. => family
  | invalidSource | invalidDestination _ | sameAccount | ownedAccounts _ | noOwnedAccount
  | multipleOwnedAccounts _ | noReadPermission .. => .authorization
  | aboveBeneficiaryLimit _ | aboveDailyLimit .. => .limit
  | duplicateName _ | brokenIntegrity => .integrity
  | unknownBeneficiary _ => .notFound
  | invalidRequest _ | invalidAccount .. | notExecuted .. => .service

end Refusal

end Remit
