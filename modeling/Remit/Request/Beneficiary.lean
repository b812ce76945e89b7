import Remit.Beneficiary.Basic
import Remit.Request.Check

/-!
# Beneficiary requests

Reading the parameters of a request to add a beneficiary (`Request.newBeneficiary`) and of a request
to change one (`Request.beneficiaryUpdate`). All parameters are checked, and every error is reported
at once; only a request without errors is read. In an update an absent parameter leaves its field
alone, and a null transfer limit clears it.
-/

namespace Remit.Request

/-- The resource that beneficiary errors name. -/
def beneficiaryResource : String := "beneficiaryrb"

/-- The parameters of a request to add a beneficiary. -/
def newBeneficiaryParameters : List String :=
  ["locale", "name", "accountName", "accountNumber", "accountType", "institutionName",
    "institutionCode", "currencyCode", "transferLimit"]

/-- The parameters of a request to change a beneficiary. -/
def beneficiaryUpdateParameters : List String := ["name", "transferLimit"]

/-- The rules of a text of limited length. -/
def textRules (limit : Int) : List Rule := [.notBlank, .maxLength limit]

/-- The rules of the kind of an account. -/
def accountTypeRules : List Rule :=
  [.notNull, .integer, .oneOf (AccountType.all.map (.int ·.number))]

/-- The account kind whose number equals a value. -/
def accountTypeOf (v : Value) : Except Breakdown AccountType := do
  match ← (AccountType.all.findM? fun t => v.equal? (.int t.number)).mapError .ofSignal with
  | some t => return t
  | none => throw .unknownAccountType

/-- The rules of a transfer limit. -/
def transferLimitRules : List Rule := [.ignoreIfNull, .integer, .greaterThanZero]

/-- Refuses a request with errors. -/
def refuseErrors (errors : List ParameterError) : Except Fault Unit :=
  if errors.isEmpty then .ok () else .error (.refusal (.invalidRequest errors))

/-- Checks one parameter by its rules; an absent one counts as null. -/
def parameter (resource : String) (fields : Fields) (name : String) (rules : List Rule) :
    Except Fault Check :=
  (Check.run resource rules { name, value := fields.get name }).mapError .breakdown

/-- The text of a checked parameter. -/
def textOf (c : Check) : String := c.value.text?.getD ""

/-- The whole number of a checked parameter. -/
def intOf? (c : Check) : Option Int :=
  match c.value with
  | .int i => some i
  | _ => none

/-- Reads a request to add a beneficiary of a user. -/
def newBeneficiary (user : Int) (fields : Fields) : Except Fault NewBeneficiary := do
  let check := parameter beneficiaryResource fields
  let name ← check "name" (textRules 50)
  let accountName ← check "accountName" (textRules 50)
  let institutionName ← check "institutionName" (textRules 50)
  let accountNumber ← check "accountNumber" (textRules 20)
  let accountType ← check "accountType" accountTypeRules
  let transferLimit ← check "transferLimit" transferLimitRules
  refuseErrors (unsupportedErrors fields newBeneficiaryParameters ++
    Check.errors [name, accountName, institutionName, accountNumber, accountType, transferLimit])
  let type ← (accountTypeOf accountType.value).mapError .breakdown
  return {
    userId := user
    name := textOf name
    accountName := textOf accountName
    accountNumber := textOf accountNumber
    accountType := type
    institutionName := textOf institutionName
    institutionCode := fields.get "institutionCode"
    currencyCode := fields.get "currencyCode"
    transferLimit := intOf? transferLimit }

/-- The supplied fields of an update. -/
structure BeneficiaryUpdate where
  name : Supplied String := .absent
  transferLimit : Supplied (Option Int) := .absent
  deriving DecidableEq, Repr, Inhabited

/-- Checks a parameter if the request has it. -/
def optionalParameter (resource : String) (fields : Fields) (name : String) (rules : List Rule) :
    Except Fault (Option Check) :=
  if fields.has name then some <$> parameter resource fields name rules else .ok none

/-- The field of an update that a checked parameter supplies. -/
def supplied {α : Type} (read : Check → α) : Option Check → Supplied α
  | some c => .given (read c)
  | none => .absent

/-- Reads a request to change a beneficiary. -/
def beneficiaryUpdate (fields : Fields) : Except Fault BeneficiaryUpdate := do
  let check := optionalParameter beneficiaryResource fields
  let name ← check "name" (textRules 50)
  let transferLimit ← check "transferLimit" transferLimitRules
  refuseErrors (unsupportedErrors fields beneficiaryUpdateParameters ++
    Check.errors (name.toList ++ transferLimit.toList))
  return { name := supplied textOf name, transferLimit := supplied intOf? transferLimit }

end Remit.Request
