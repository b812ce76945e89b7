import Remit.Store.Ledger
import Remit.Store.Write

/-!
# Rows of the store from outside

Rows come from outside as named cells. `Store.put` puts rows into the table of a name: a row takes
the place of the row with its id, and a beneficiary also that of an active one of the same user and
name. What is missing in a row is empty. `BeneficiaryRow.toValue` shows all cells of a beneficiary.
-/

namespace Remit

namespace Row

/-- A whole number of a row. -/
def int? (fs : Fields) (name : String) : Option Int := ((Cell.int (fs.get name)).toOption).join

/-- A text of a row. -/
def text? (fs : Fields) (name : String) : Option String := ((Cell.text (fs.get name)).toOption).join

/-- The id of a row. -/
def id (fs : Fields) : Int := (int? fs "id").getD 0

/-- A flag of a row; one means true. -/
def flag (fs : Fields) (name : String) : Bool := int? fs name == some 1

end Row

/-- The office of a row. -/
def Office.ofFields (fs : Fields) : Office := ⟨Row.id fs, Row.text? fs "name"⟩

/-- The client of a row. -/
def Client.ofFields (fs : Fields) : Client :=
  ⟨Row.id fs, Row.int? fs "office_id", Row.text? fs "display_name"⟩

/-- The mapping of a row. -/
def ClientMapping.ofFields (fs : Fields) : ClientMapping :=
  ⟨Row.id fs, Row.int? fs "appuser_id", Row.int? fs "client_id"⟩

/-- The account of a row with its status in the column `status`. -/
def AccountRow.ofFields (status : String) (fs : Fields) : AccountRow :=
  ⟨Row.id fs, Row.text? fs "account_no", Row.int? fs "client_id", Row.int? fs status⟩

/-- The details of a row. -/
def TransferDetail.ofFields (fs : Fields) : TransferDetail :=
  ⟨Row.id fs, Row.int? fs "from_client_id", Row.int? fs "to_client_id",
    Row.int? fs "from_savings_account_id", Row.int? fs "from_loan_account_id"⟩

/-- The transaction of a row; one without a flag counts as reversed. -/
def Transaction.ofFields (fs : Fields) : Transaction :=
  ⟨Row.id fs, Row.int? fs "account_transfer_details_id", LedgerAmount.ofValue (fs.get "amount"),
    Row.text? fs "transaction_date", Row.int? fs "is_reversed" != some 0⟩

/-- The beneficiary of a row. -/
def BeneficiaryRow.ofFields (fs : Fields) : BeneficiaryRow where
  id := Row.id fs
  userId := (Row.int? fs "app_user_id").getD 0
  name := (Row.text? fs "name").getD ""
  accountName := (Row.text? fs "account_name").getD ""
  institutionName := (Row.text? fs "institution_name").getD ""
  institutionCode := Row.text? fs "institution_code"
  currencyCode := Row.text? fs "currency_code"
  accountNumber := (Row.text? fs "account_number").getD ""
  accountId := Row.int? fs "account_id"
  clientId := Row.int? fs "client_id"
  officeId := Row.int? fs "office_id"
  accountType := (Row.int? fs "account_type").getD 0
  transferLimit := Row.int? fs "transfer_limit"
  isActive := Row.flag fs "is_active"

/-- All cells of a beneficiary. -/
def BeneficiaryRow.toValue (r : BeneficiaryRow) : Value :=
  .object [
    ("id", .int r.id),
    ("app_user_id", .int r.userId),
    ("name", .text r.name),
    ("account_name", .text r.accountName),
    ("institution_name", .text r.institutionName),
    ("institution_code", .ofText? r.institutionCode),
    ("currency_code", .ofText? r.currencyCode),
    ("account_number", .text r.accountNumber),
    ("account_id", .ofInt? r.accountId),
    ("client_id", .ofInt? r.clientId),
    ("office_id", .ofInt? r.officeId),
    ("account_type", .int r.accountType),
    ("transfer_limit", .ofInt? r.transferLimit),
    ("is_active", .int (if r.isActive then 1 else 0))]

/-- Rows with another one, which takes the place of the row with its id. -/
def putById {α : Type} (id : α → Int) (rows : List α) (row : α) : List α :=
  rows.filter (fun r => id r != id row) ++ [row]

/-- Whether two rows are active and have one user and one name. -/
def BeneficiaryRow.clashes (r r' : BeneficiaryRow) : Bool :=
  r.isActive && r'.isActive && r.userId == r'.userId && r.name == r'.name

namespace Store

/-- Puts one row into the table of a name. -/
def putRow (s : Store) (table : String) (fs : Fields) : Store :=
  let b := s.bank
  match table with
  | "m_office" => { s with bank := { b with offices := putById (·.id) b.offices (.ofFields fs) } }
  | "m_client" => { s with bank := { b with clients := putById (·.id) b.clients (.ofFields fs) } }
  | "m_selfservice_user_client_mapping" =>
    { s with bank := { b with mappings := putById (·.id) b.mappings (.ofFields fs) } }
  | "m_savings_account" =>
    { s with bank := { b with savings := putById (·.id) b.savings (.ofFields "status_enum" fs) } }
  | "m_loan" =>
    { s with bank := { b with loans := putById (·.id) b.loans (.ofFields "loan_status_id" fs) } }
  | "m_account_transfer_details" =>
    { s with bank := { b with details := putById (·.id) b.details (.ofFields fs) } }
  | "m_account_transfer_transaction" =>
    { s with bank := { b with transactions := putById (·.id) b.transactions (.ofFields fs) } }
  | "m_selfservice_beneficiaries_tpt" =>
    let r := BeneficiaryRow.ofFields fs
    { s with beneficiaries := putById (·.id) (s.beneficiaries.filter fun r' => !r.clashes r') r }
  | _ => s

/-- Puts rows into the table of a name. -/
def put (s : Store) (table : String) (rows : List Fields) : Store :=
  rows.foldl (fun s fs => s.putRow table fs) s

/-- The fields of each row in a list of rows. -/
def rowsOf : Value → List Fields
  | .list vs => vs.filterMap fun
    | .object fs => some fs
    | _ => none
  | _ => []

/-- The store with the rows of an object that maps names of tables to lists of rows. -/
def ofTables (tables : Fields) : Store :=
  tables.foldl (fun s t => s.put t.1 (rowsOf t.2)) {}

/-- All beneficiaries in the order of their ids. -/
def rows (s : Store) : List BeneficiaryRow := byId (·.id) s.beneficiaries

end Store

end Remit
