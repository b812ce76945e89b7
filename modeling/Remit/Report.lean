import Remit.Json.Encoder
import Remit.Registry
import Remit.Settings
import Remit.Transfer.Template

/-!
# Domain records as values

The records of the domain as values with named fields, for answers and for JSON output. The names of
the fields are those under which the records are exchanged.
-/

namespace Remit

/-- A handle with all its fields. -/
def AccountHandle.toValue (h : AccountHandle) : Value :=
  .record "AccountHandle" [
    ("account_id", .ofInt? h.accountId),
    ("account_type", .int h.accountType),
    ("client_id", .ofInt? h.clientId),
    ("office_id", .ofInt? h.officeId),
    ("account_number", .ofText? h.accountNumber),
    ("client_name", .ofText? h.clientName),
    ("office_name", .ofText? h.officeName)]

/-- A set of accounts, in order. -/
def AccountHandle.setValue (hs : List AccountHandle) : Value := .set ((sorted hs).map toValue)

/-- A beneficiary with all its fields. -/
def Beneficiary.toValue (b : Beneficiary) : Value :=
  .record "Beneficiary" [
    ("id", .int b.id),
    ("app_user_id", .int b.userId),
    ("name", .text b.name),
    ("account_name", .text b.accountName),
    ("account_number", .text b.accountNumber),
    ("account_type", .accountType b.accountType),
    ("institution_name", .text b.institutionName),
    ("account_id", .ofInt? b.accountId),
    ("client_id", .ofInt? b.clientId),
    ("office_id", .ofInt? b.officeId),
    ("institution_code", .ofText? b.institutionCode),
    ("currency_code", .ofText? b.currencyCode),
    ("transfer_limit", .ofInt? b.transferLimit),
    ("state", .state b.state)]

/-- A new beneficiary with all its fields. -/
def NewBeneficiary.toValue (b : NewBeneficiary) : Value :=
  .record "NewBeneficiary" [
    ("app_user_id", .int b.userId),
    ("name", .text b.name),
    ("account_name", .text b.accountName),
    ("account_number", .text b.accountNumber),
    ("account_type", .accountType b.accountType),
    ("institution_name", .text b.institutionName),
    ("institution_code", b.institutionCode),
    ("currency_code", b.currencyCode),
    ("transfer_limit", .ofInt? b.transferLimit),
    ("account_id", .ofInt? b.accountId),
    ("client_id", .ofInt? b.clientId),
    ("office_id", .ofInt? b.officeId)]

/-- A supplied field, or the mark of one that is left alone. -/
def Supplied.toValue {α : Type} (f : α → Value) : Supplied α → Value
  | .given a => f a
  | .absent => .unset

/-- The fields of an update. -/
def Request.BeneficiaryUpdate.toValue (u : Request.BeneficiaryUpdate) : Value :=
  .object [
    ("name", u.name.toValue .text),
    ("transfer_limit", u.transferLimit.toValue .ofInt?)]

/-- The checked fields of a transfer. -/
def TransferInput.toValue (i : TransferInput) : Value :=
  .record "TransferInput" [
    ("to_account_number", .text i.toAccountNumber),
    ("amount", .decimal i.amount),
    ("description", .text i.description),
    ("transfer_date", .date i.day)]

/-- An instruction with all its fields. -/
def Instruction.toValue (i : Instruction) : Value :=
  .record "Instruction" [
    ("from_office_id", .ofInt? i.fromOfficeId),
    ("from_client_id", .ofInt? i.fromClientId),
    ("from_account_id", .ofInt? i.fromAccountId),
    ("from_account_type", .int i.fromAccountType),
    ("to_office_id", .ofInt? i.toOfficeId),
    ("to_client_id", .ofInt? i.toClientId),
    ("to_account_id", .ofInt? i.toAccountId),
    ("to_account_type", .int i.toAccountType),
    ("amount", .decimal i.amount),
    ("transfer_date", .date i.day),
    ("description", .text i.description)]

/-- The two sides of a template. -/
def Template.toValue (t : Template) : Value :=
  .record "Template" [
    ("from_accounts", .set (t.fromAccounts.map AccountHandle.toValue)),
    ("to_accounts", .set (t.toAccounts.map AccountHandle.toValue))]

/-- A savings account as it was found. -/
def SavingsRecord.toValue (r : SavingsRecord) : Value :=
  .record "SavingsRecord" [
    ("account_id", .int r.accountId),
    ("account_number", .text r.accountNumber),
    ("client_id", .ofInt? r.clientId),
    ("office_id", .ofInt? r.officeId)]

/-- The settings. -/
def Settings.toValue (s : Settings) : Value :=
  .record "Settings" [
    ("daily_limit_enabled", .bool s.dailyLimitEnabled),
    ("daily_limit_amount", .ofInt? s.dailyLimitAmount),
    ("execution_url", .text s.executionUrl),
    ("execution_timeout", .double s.executionTimeout)]

/-- The breakdown of a value that has no JSON text. -/
def Unwritable.breakdown : Unwritable → Breakdown
  | .kind name => .unwritable name
  | .tooLong => .numberTooLong

/-- The JSON text of a value that must have one. -/
def Value.jsonText (v : Value) : Except Breakdown String :=
  v.prepared.encode.mapError (·.breakdown)

end Remit
