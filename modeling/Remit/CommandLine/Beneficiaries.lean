import Remit.CommandLine.Invocation
import Remit.CommandLine.Output

/-!
# The command line for beneficiaries

Commands that list, add, change and deactivate the beneficiaries of a user (`BeneficiaryCommand`).
An option that is not given is no parameter of the request, and `--clear-limit` removes the limit
whatever else says about it. `Beneficiaries.run` reads a command line and runs its command against a
store.
-/

namespace Remit.CommandLine

/-- The options of the command that adds a beneficiary. -/
structure AddOptions where
  name : Option String := none
  accountName : Option String := none
  accountNumber : Option String := none
  accountType : Option Int := none
  institutionName : Option String := none
  institutionCode : Option String := none
  currencyCode : Option String := none
  transferLimit : Option String := none
  deriving DecidableEq, Repr, Inhabited

/-- The options of the command that changes a beneficiary. -/
structure UpdateOptions where
  id : Option Int := none
  name : Option String := none
  transferLimit : Option String := none
  clearLimit : Bool := false
  deriving DecidableEq, Repr, Inhabited

/-- What to do with the beneficiaries of a user. -/
inductive BeneficiaryCommand where
  | list
  | template
  | add (options : AddOptions)
  | update (id : Int) (options : UpdateOptions)
  | delete (id : Int)
  deriving DecidableEq, Repr

/-- A parameter of a request, if it is given. -/
def given {α : Type} (name : String) (value : α → Value) : Option α → Fields
  | some a => [(name, value a)]
  | none => []

namespace AddOptions

/-- The parameters of the request: the options that are given. -/
def fields (o : AddOptions) : Fields :=
  given "name" .text o.name ++
  given "accountName" .text o.accountName ++
  given "accountNumber" .text o.accountNumber ++
  given "accountType" .int o.accountType ++
  given "institutionName" .text o.institutionName ++
  given "institutionCode" .text o.institutionCode ++
  given "currencyCode" .text o.currencyCode ++
  given "transferLimit" .text o.transferLimit

/-- Whether every required option is given. -/
def isComplete (o : AddOptions) : Bool :=
  o.name.isSome && o.accountName.isSome && o.accountNumber.isSome && o.accountType.isSome &&
    o.institutionName.isSome

/-- The command line behind the name of the command. -/
def grammar : Grammar AddOptions BeneficiaryCommand where
  start := {}
  switches := [
    .text "--name" fun s o => { o with name := some s },
    .text "--account-name" fun s o => { o with accountName := some s },
    .text "--account-number" fun s o => { o with accountNumber := some s },
    .reading "--account-type" Text.readInt? fun i o => { o with accountType := some i },
    .text "--institution-name" fun s o => { o with institutionName := some s },
    .text "--institution-code" fun s o => { o with institutionCode := some s },
    .text "--currency-code" fun s o => { o with currencyCode := some s },
    .text "--transfer-limit" fun s o => { o with transferLimit := some s }]
  finish o := if o.isComplete then some (.add o) else none

end AddOptions

namespace UpdateOptions

/-- The parameters of the request: the options that are given. -/
def fields (o : UpdateOptions) : Fields :=
  given "name" .text o.name ++
    if o.clearLimit then [("transferLimit", .null)] else given "transferLimit" .text o.transferLimit

/-- The command line behind the name of the command. -/
def grammar : Grammar UpdateOptions BeneficiaryCommand where
  start := {}
  switches := [
    .text "--name" fun s o => { o with name := some s },
    .text "--transfer-limit" fun s o => { o with transferLimit := some s },
    .mark "--clear-limit" fun o => { o with clearLimit := true }]
  operands := [.reading Text.readInt? fun i o => { o with id := some i }]
  finish o := o.id.map (.update · o)

end UpdateOptions

namespace Beneficiaries

/-- The command line behind the name of the command that deactivates a beneficiary. -/
def deleteGrammar : Grammar (Option Int) BeneficiaryCommand where
  start := none
  operands := [.reading Text.readInt? fun i _ => some i]
  finish := Option.map .delete

/-- The command line. -/
def grammar : Grammar (Arguments BeneficiaryCommand) (Invocation BeneficiaryCommand) :=
  Arguments.grammar [] [
    ("list", (alone .list).read),
    ("template", (alone .template).read),
    ("add", AddOptions.grammar.read),
    ("update", UpdateOptions.grammar.read),
    ("delete", deleteGrammar.read)]

/-- Runs a command of a user. -/
def perform (user : User) : BeneficiaryCommand → Update Output
  | .list => do
    let s ← Update.read .ok
    let bs ← Update.ofAct (.lift (Registry.retrieveAll s user))
    Update.ofAct (.liftBreakdown (Output.json (.list (bs.map Beneficiary.toValue))))
  | .template => Update.ofAct (.liftBreakdown (Output.json Registry.template))
  | .add options => do
    let id ← Registry.add user options.fields
    return .line s!"Added beneficiary {id}."
  | .update id options => do
    let changes ← Registry.update user id options.fields
    let text ← Update.ofAct (.liftBreakdown (Value.object changes).jsonText)
    return .line s!"Updated beneficiary {id}: {text}"
  | .delete id => do
    let _ ← Registry.deactivate user id
    return .line s!"Deactivated beneficiary {id}."

/-- Runs a command line, if there is a command in it. -/
def run (line : List String) : Except Stop (Update Output) :=
  (grammar.read line).map fun i => reported (perform i.user i.command)

end Beneficiaries

end Remit.CommandLine
