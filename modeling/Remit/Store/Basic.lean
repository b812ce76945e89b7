import Remit.Store.Bank

/-!
# The store

The store holds the table of beneficiaries next to the bank's tables. Its questions see active rows
only: a beneficiary by its id (`Store.findActive`), the beneficiaries of a user in the order of
their ids (`Store.listActive`), and the strictest positive limit of a user on an account
(`Store.transferLimit`).

`Update` is the type of what changes the store: an act that starts from a store and leaves one, also
when it ends with a fault. What was written before a fault stays written.
-/

namespace Remit

/-- A row of the table of beneficiaries. -/
structure BeneficiaryRow where
  id : Int
  userId : Int
  name : String
  accountName : String
  institutionName : String
  institutionCode : Option String := none
  currencyCode : Option String := none
  accountNumber : String
  accountId : Option Int := none
  clientId : Option Int := none
  officeId : Option Int := none
  accountType : Int
  transferLimit : Option Int := none
  isActive : Bool := true
  deriving DecidableEq, Repr, Inhabited

/-- The tables of the service and of the bank. -/
structure Store where
  beneficiaries : List BeneficiaryRow := []
  bank : Bank := {}
  deriving Inhabited

namespace BeneficiaryRow

/-- The beneficiary of a row; the number of its account kind must be one. -/
def toBeneficiary (r : BeneficiaryRow) : Except Breakdown Beneficiary :=
  match AccountType.ofNumber? r.accountType with
  | none => .error .unknownAccountType
  | some type =>
    .ok {
      id := r.id
      userId := r.userId
      name := r.name
      accountName := r.accountName
      accountNumber := r.accountNumber
      accountType := type
      institutionName := r.institutionName
      accountId := r.accountId
      clientId := r.clientId
      officeId := r.officeId
      institutionCode := r.institutionCode
      currencyCode := r.currencyCode
      transferLimit := r.transferLimit
      state := .ofFlag r.isActive }

/-- Whether a row is an active one of a user. -/
def isActiveOf (user : Int) (r : BeneficiaryRow) : Bool := r.isActive && r.userId == user

end BeneficiaryRow

namespace Store

/-- The active beneficiary of an id. -/
def findActive (s : Store) (id : Int) : Except Breakdown (Option Beneficiary) := do
  let id ← column id
  (s.beneficiaries.find? fun r => r.id == id && r.isActive).mapM (·.toBeneficiary)

/-- The active beneficiaries of a user in the order of their ids. -/
def listActive (s : Store) (user : Int) : Except Breakdown (List Beneficiary) := do
  let user ← column user
  (byId (·.id) (s.beneficiaries.filter (·.isActiveOf user))).mapM (·.toBeneficiary)

/-- The positive limits of a user's active beneficiaries on an account. -/
def limitsOn (s : Store) (user : Int) (account : Option Int) (type : Int) : List Int :=
  (s.beneficiaries.filter fun r =>
    r.isActiveOf user && account.isSome && r.accountId == account && r.accountType == type)
    |>.filterMap (·.transferLimit) |>.filter (0 < ·)

/-- The strictest positive limit of a user's active beneficiaries on an account. -/
def transferLimit (s : Store) (user : Int) (account : Option Int) (type : Int) :
    Except Breakdown (Option Int) := do
  let user ← column user
  let _ ← account.mapM column
  let type ← column type
  return (s.limitsOn user account type).min?

end Store

/-- A change of the store: an act, and the store it leaves. -/
def Update (α : Type) : Type := Store → Act α × Store

namespace Update

variable {α β : Type}

/-- An act that leaves the store as it is. -/
def ofAct (a : Act α) : Update α := fun s => (a, s)

/-- Reads the store. -/
def read (f : Store → Except Breakdown α) : Update α := fun s => (.liftBreakdown (f s), s)

/-- Runs a change and then another on its result; a fault ends both. -/
def andThen (u : Update α) (f : α → Update β) : Update β := fun s =>
  match u s with
  | (⟨es, .ok x⟩, s) =>
    let (a, s) := f x s
    (⟨es ++ a.events, a.outcome⟩, s)
  | (⟨es, .error e⟩, s) => (⟨es, .error e⟩, s)

/-- Runs a change, and an act if it ends with a refusal. -/
def rescue (u : Update α) (f : Refusal → Act α) : Update α := fun s =>
  let (a, s) := u s
  (a.rescue f, s)

instance : Monad Update where
  pure x := ofAct (pure x)
  bind := andThen

instance : MonadLift Act Update := ⟨ofAct⟩

end Update

end Remit
