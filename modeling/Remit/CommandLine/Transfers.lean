import Remit.CommandLine.Invocation
import Remit.CommandLine.Output
import Remit.Transfer.Submission

/-!
# The command line for transfers

Commands that show the accounts of a user, decide a transfer, or decide and submit it
(`TransferCommand`). `Transfers.run` reads a command line and runs its command with the day, the
environment and the answer that the execution subsystem would give.
-/

namespace Remit.CommandLine

/-- The options of a command about one transfer. -/
structure TransferOptions where
  toAccountNumber : Option String := none
  amount : Option String := none
  description : Option String := none
  deriving DecidableEq, Repr, Inhabited

/-- What to do for a user. -/
inductive TransferCommand where
  | template
  | authorize (options : TransferOptions)
  | create (options : TransferOptions)
  deriving DecidableEq, Repr

namespace TransferOptions

/-- The parameters of the request. -/
def fields (o : TransferOptions) : Fields := [
  ("toAccountNumber", .ofText? o.toAccountNumber),
  ("transferAmount", .ofText? o.amount),
  ("transferDescription", .ofText? o.description)]

/-- Whether every option is given; all are required. -/
def isComplete (o : TransferOptions) : Bool :=
  o.toAccountNumber.isSome && o.amount.isSome && o.description.isSome

/-- The command line behind the name of a command. -/
def grammar (command : TransferOptions → TransferCommand) :
    Grammar TransferOptions TransferCommand where
  start := {}
  switches := [
    .text "--to-account-number" fun s o => { o with toAccountNumber := some s },
    .text "--amount" fun s o => { o with amount := some s },
    .text "--description" fun s o => { o with description := some s }]
  finish o := if o.isComplete then some (command o) else none

end TransferOptions

namespace Transfers

/-- The command line. -/
def grammar : Grammar (Arguments TransferCommand) (Invocation TransferCommand) :=
  Arguments.grammar [Arguments.typeSwitch] [
    ("template", (alone .template).read),
    ("authorize", (TransferOptions.grammar .authorize).read),
    ("create", (TransferOptions.grammar .create).read)]

/-- What a command runs with. -/
structure Setting where
  day : Date
  env : Environment
  /-- What the execution subsystem answers to a request. -/
  answer : Execution.Answer

/-- Runs a command of a user. -/
def perform (w : Setting) (user : User) (type : TransferType) (command : TransferCommand) :
    Update Output := fun s =>
  let facts := Facts.ofStore s user
  let act : Act Value := match command with
    | .template => .liftBreakdown (Template.toValue <$> Template.ofStore s user type)
    | .authorize options =>
      Instruction.toValue <$>
        Submission.authorize facts user (.text type.name) options.fields w.day w.env
    | .create options =>
      Submission.create facts user (.text type.name) options.fields w.day w.env w.answer
  (act >>= fun v => .liftBreakdown (Output.json v), s)

/-- Runs a command line, if there is a command in it. -/
def run (w : Setting) (line : List String) : Except Stop (Update Output) :=
  (grammar.read line).map fun i => reported (perform w i.user i.type i.command)

end Transfers

end Remit.CommandLine
