import Remit.Request.Beneficiary
import Remit.Store.Ledger
import Remit.Store.Write
import Remit.User

/-!
# The beneficiary registry

A user's view of the own beneficiaries: adding, changing, deactivating and listing them. A new
beneficiary is checked and resolved before it is stored. A change or a deactivation concerns an
active record of the user; a record that is missing, inactive or another user's is not found
(`ownedActive`). Every change is noted in the usage log, after it was written.
-/

namespace Remit.Registry

/-- Names the entity whose listing takes a permission. -/
def entity : String := "SSBENEFICIARYTPT"

/-- The lookup of open savings accounts in a store. -/
def savingsLookup (s : Store) : SavingsLookup := fun number => .ok (s.bank.findSavings number)

/-- Adds a beneficiary and returns its id. -/
def add (user : User) (fields : Fields) : Update Int := do
  let requested ← Update.ofAct (.lift (Request.newBeneficiary user.id fields))
  let resolved ← fun s => (.lift (Resolvers.default.resolve (savingsLookup s) requested), s)
  let id ← Store.insert resolved.draft
  Act.log .usage .info s!"User {user.id} added beneficiary {id} ({resolved.name})"
  return id

/-- The active beneficiary of an id, if it is the user's. -/
def ownedActive (user : User) (id : Int) : Update Beneficiary := do
  match ← Update.read (·.findActive id) with
  | some b =>
    if b.isActive && b.ownedBy user.id then return b
    Act.refuse (.unknownBeneficiary (.int id))
  | none => Act.refuse (.unknownBeneficiary (.int id))

/-- The requested fields that differ from a beneficiary. -/
def requestedChanges (b : Beneficiary) (u : Request.BeneficiaryUpdate) : Except Breakdown Fields :=
  let name := match u.name with
    | .absent => .absent
    | .given s => .given (.text s)
  let transferLimit := match u.transferLimit with
    | .absent => .absent
    | .given limit => .given (.ofInt? limit)
  (b.changes name transferLimit).mapError .ofSignal

/-- The names of changed fields in a message. -/
def changedNames (changes : Fields) : String :=
  Text.listed (changes.sorted.map fun f => Text.quote f.1)

/-- Changes the name or the limit of a beneficiary and returns what changed. -/
def update (user : User) (id : Int) (fields : Fields) : Update Fields := do
  let requested ← Update.ofAct (.lift (Request.beneficiaryUpdate fields))
  let b ← ownedActive user id
  let changes ← Update.ofAct (.liftBreakdown (requestedChanges b requested))
  if changes.isEmpty then
    Act.log .app .info s!"No changes requested for beneficiary {id}"
  else
    Store.saveChanges id changes
    Act.log .usage .info s!"User {user.id} updated beneficiary {id}: {changedNames changes}"
  return changes

/-- Ends the use of a beneficiary. -/
def deactivate (user : User) (id : Int) : Update Int := do
  let _ ← ownedActive user id
  Store.deactivate id
  Act.log .usage .info s!"User {user.id} deactivated beneficiary {id}"
  return id

/-- The user's active beneficiaries. -/
def listActive (s : Store) (user : User) : Except Fault (List Beneficiary) :=
  (s.listActive user.id).mapError .breakdown

/-- The user's active beneficiaries, for a user who may read them. -/
def retrieveAll (s : Store) (user : User) : Except Fault (List Beneficiary) := do
  (user.checkRead entity).mapError .refusal
  listActive s user

/-- A limit that counts: a positive one. -/
def effectiveLimit : Option Int → Option Int
  | some limit => if limit ≤ 0 then none else some limit
  | none => none

/-- The ceiling for transfers of a user to a beneficiary account. -/
def transferLimit (s : Store) (user : User) (account : Option Int) (type : Int) :
    Except Breakdown (Option Int) :=
  effectiveLimit <$> s.transferLimit user.id account type

/-- An account kind as a choice for a form. -/
def accountTypeOption (t : AccountType) : Value :=
  .object [("id", .int t.number), ("code", .text t.code), ("value", .text t.display)]

/-- The choices for a form that adds a beneficiary. -/
def template : Value :=
  .object [("accountTypeOptions", .list (AccountType.all.map accountTypeOption))]

end Remit.Registry
