import Remit.Beneficiary.Basic
import Remit.Journal

/-!
# Institutions

The institution that holds a beneficiary's account is this one or another, told apart by its exact
name (`InstitutionKind.ofName`). Only savings accounts held here can be resolved (`resolveLocal`):
the account of that number gives the new beneficiary its account, client and office. Everything else
is refused.
-/

namespace Remit

/-- Where an account is held. -/
inductive InstitutionKind where
  | local
  | external
  deriving DecidableEq, Repr, Inhabited

namespace InstitutionKind

/-- The name of a kind. -/
def name : InstitutionKind → String
  | .local => "LOCAL"
  | .external => "EXTERNAL"

/-- The kind of the institution with a name; only one name is that of this institution. -/
def ofName (s : String) : InstitutionKind := if s = "LOCAL" then .local else .external

end InstitutionKind

/-- A savings account as it is found by its number; the client is missing if its row is. -/
structure SavingsRecord where
  accountId : Int
  accountNumber : String
  clientId : Option Int
  officeId : Option Int
  deriving DecidableEq, Repr, Inhabited

/-- A way to find the open savings account of a number. -/
abbrev SavingsLookup := String → Except Breakdown (Option SavingsRecord)

namespace NewBeneficiary

/-- The refusal of an account that cannot be resolved yet. -/
def unsupported (b : NewBeneficiary) : Refusal :=
  .invalidAccount b.accountNumber b.accountType.code (some "Account information not yet supported")

/-- The new beneficiary with the identity of an account filled in. -/
def withAccount (b : NewBeneficiary) (account client : Int) (office : Option Int) :
    NewBeneficiary :=
  { b with accountId := some account, clientId := some client, officeId := office }

/-- Resolves an account held here. The lookup is asked only for a savings account. -/
def resolveLocal (lookup : SavingsLookup) (b : NewBeneficiary) : Except Fault NewBeneficiary :=
  match b.accountType with
  | .loan => .error (.refusal b.unsupported)
  | .savings =>
    match lookup b.accountNumber with
    | .error e => .error (.breakdown e)
    | .ok (some ⟨account, _, some client, office⟩) => .ok (b.withAccount account client office)
    | .ok _ => .error (.refusal (.invalidAccount b.accountNumber b.accountType.code none))

/-- The numbers that `resolveLocal` looks up. -/
def lookups (b : NewBeneficiary) : List String :=
  match b.accountType with
  | .loan => []
  | .savings => [b.accountNumber]

end NewBeneficiary

/-- The resolver in charge of each kind of institution: itself the resolver of some kind, or
none. -/
abbrev Resolvers := InstitutionKind → Option InstitutionKind

namespace Resolvers

/-- Each kind of institution has its own resolver. -/
def default : Resolvers := some

/-- Resolves the account of a new beneficiary with the resolver in charge. -/
def resolve (rs : Resolvers) (lookup : SavingsLookup) (b : NewBeneficiary) :
    Except Fault NewBeneficiary :=
  match rs (.ofName b.institutionName) with
  | some .local => b.resolveLocal lookup
  | some .external | none => .error (.refusal b.unsupported)

/-- The numbers that `resolve` looks up. -/
def lookups (rs : Resolvers) (b : NewBeneficiary) : List String :=
  match rs (.ofName b.institutionName) with
  | some .local => b.lookups
  | some .external | none => []

end Resolvers

end Remit
