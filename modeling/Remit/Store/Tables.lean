import Remit.Store.Snapshot

/-!
# The store as tables

`Store.tables` is the inverse view of `Store.ofTables`: an object that maps the name of each table
to the list of its rows, each with a cell for every column. A store is kept between two runs of the
program in this form.
-/

namespace Remit

/-- The cells of an office. -/
def Office.toValue (o : Office) : Value := .object [("id", .int o.id), ("name", .ofText? o.name)]

/-- The cells of a client. -/
def Client.toValue (c : Client) : Value :=
  .object [("id", .int c.id), ("office_id", .ofInt? c.officeId),
    ("display_name", .ofText? c.displayName)]

/-- The cells of a mapping. -/
def ClientMapping.toValue (m : ClientMapping) : Value :=
  .object [("id", .int m.id), ("appuser_id", .ofInt? m.userId), ("client_id", .ofInt? m.clientId)]

/-- The cells of an account, its status in the column `status`. -/
def AccountRow.toValue (status : String) (a : AccountRow) : Value :=
  .object [("id", .int a.id), ("account_no", .ofText? a.number), ("client_id", .ofInt? a.clientId),
    (status, .ofInt? a.status)]

/-- The cells of the parties of a transfer. -/
def TransferDetail.toValue (d : TransferDetail) : Value :=
  .object [("id", .int d.id), ("from_client_id", .ofInt? d.fromClientId),
    ("to_client_id", .ofInt? d.toClientId), ("from_savings_account_id", .ofInt? d.fromSavingsId),
    ("from_loan_account_id", .ofInt? d.fromLoanId)]

/-- The cell of an amount. -/
def LedgerAmount.toValue : LedgerAmount → Value
  | whole i => .int i
  | real d => .double d

/-- The cells of a transaction. -/
def Transaction.toValue (t : Transaction) : Value :=
  .object [("id", .int t.id), ("account_transfer_details_id", .ofInt? t.detailId),
    ("amount", (t.amount.map LedgerAmount.toValue).getD .null),
    ("transaction_date", .ofText? t.day),
    ("is_reversed", .int (if t.isReversed then 1 else 0))]

/-- All tables of a store. -/
def Store.tables (s : Store) : Fields := [
  ("m_office", .list (s.bank.offices.map Office.toValue)),
  ("m_client", .list (s.bank.clients.map Client.toValue)),
  ("m_selfservice_user_client_mapping", .list (s.bank.mappings.map ClientMapping.toValue)),
  ("m_savings_account", .list (s.bank.savings.map (AccountRow.toValue "status_enum"))),
  ("m_loan", .list (s.bank.loans.map (AccountRow.toValue "loan_status_id"))),
  ("m_account_transfer_details", .list (s.bank.details.map TransferDetail.toValue)),
  ("m_account_transfer_transaction", .list (s.bank.transactions.map Transaction.toValue)),
  ("m_selfservice_beneficiaries_tpt", .list (s.beneficiaries.map BeneficiaryRow.toValue))]

end Remit
