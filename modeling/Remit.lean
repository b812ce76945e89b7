import Remit.CommandLine.Transfers
import Remit.Log.Session
import Remit.Main
import Remit.Proofs.Adding
import Remit.Proofs.Changing
import Remit.Proofs.Columns
import Remit.Proofs.CommandLine.Beneficiaries
import Remit.Proofs.Concurrency.Ownership
import Remit.Proofs.Concurrency.Updates
import Remit.Proofs.Decimal.Plain
import Remit.Proofs.Decimal.Rounding
import Remit.Proofs.Decimal.Sum
import Remit.Proofs.Decimal.Value
import Remit.Proofs.Effect
import Remit.Proofs.Execution.Address
import Remit.Proofs.Execution.Answer
import Remit.Proofs.Execution.Payload
import Remit.Proofs.Isolation
import Remit.Proofs.Journal
import Remit.Proofs.Json.Encoding
import Remit.Proofs.Log.Files
import Remit.Proofs.Operation
import Remit.Proofs.Registry
import Remit.Proofs.Request.Course
import Remit.Proofs.Request.Reading
import Remit.Proofs.Request.Transfer
import Remit.Proofs.Store.Agreement
import Remit.Proofs.Store.Change
import Remit.Proofs.Store.History
import Remit.Proofs.Store.Ledger
import Remit.Proofs.Store.Overlay
import Remit.Proofs.Store.Provenance
import Remit.Proofs.Store.Rows
import Remit.Proofs.Store.Write
import Remit.Proofs.Transfer.Accounts
import Remit.Proofs.Transfer.Added
import Remit.Proofs.Transfer.Authorization
import Remit.Proofs.Transfer.Ceiling
import Remit.Proofs.Transfer.Counting
import Remit.Proofs.Transfer.Easing
import Remit.Proofs.Transfer.Internal
import Remit.Proofs.Transfer.OwnAccount
import Remit.Proofs.Transfer.SameAccount
import Remit.Proofs.Transfer.Submission
import Remit.Proofs.Transfer.ThirdParty
import Remit.Proofs.Transfer.Warnings
import Remit.Proofs.Usage
import Remit.Store.Tables
