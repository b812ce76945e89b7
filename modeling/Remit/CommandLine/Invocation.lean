import Remit.CommandLine.Reader
import Remit.Text.Integer
import Remit.User

/-!
# Invocations

An `Invocation` is a command on behalf of a user. The id of the user must be given, the permissions
may be, and both stand in front of the command. `userSwitches` and `Arguments` are shared by all
command lines.
-/

namespace Remit.CommandLine

/-- A command on behalf of a user, of the kind that the program was told. -/
structure Invocation (κ : Type) where
  user : User
  /-- The kind of transfers that the command is about. -/
  type : TransferType := .self
  command : κ

/-- What was read in front of a command, and the command. -/
structure Arguments (κ : Type) where
  userId : Option Int := none
  permissions : List String := []
  type : TransferType := .self
  command : Option κ := none

namespace Arguments

variable {κ : Type}

/-- The switches for the user: the id, and each permission on its own. -/
def userSwitches : List (Switch (Arguments κ)) := [
  .reading "--user-id" Text.readInt? fun id a => { a with userId := some id },
  .text "--permission" fun p a => { a with permissions := a.permissions ++ [p] }]

/-- The switch for the kind of transfers, by its exact name. -/
def typeSwitch : Switch (Arguments κ) :=
  .reading "--type" TransferType.ofName? fun t a => { a with type := t }

/-- The invocation of complete arguments. -/
def invocation? (a : Arguments κ) : Option (Invocation κ) := do
  return ⟨⟨← a.userId, a.permissions⟩, a.type, ← a.command⟩

/-- The command line of several commands, each with a reader for the rest of the line. -/
def grammar (switches : List (Switch (Arguments κ)))
    (readers : List (String × (List String → Except Stop κ))) :
    Grammar (Arguments κ) (Invocation κ) where
  start := {}
  switches := userSwitches ++ switches
  operands := [.commands readers fun c a => { a with command := some c }]
  finish := invocation?

end Arguments

/-- A command without switches of its own. -/
def alone {κ : Type} (c : κ) : Grammar Unit κ := { start := (), finish := fun _ => some c }

end Remit.CommandLine
