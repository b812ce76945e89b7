/-!
# Grammars of command lines

A `Grammar` says which switches and operands a command line may have, and what they mean: each of
them changes a record of what was read so far, and `Grammar.finish` turns that record into the
result. A switch that takes a value rejects what it cannot read. An operand stands without a switch;
a command is an operand that takes the rest of the line. Every grammar has the switch `helpSwitch`.
-/

namespace Remit.CommandLine

/-- Why a command line leads to no command. -/
inductive Stop where
  /-- Help was asked for. -/
  | help
  /-- The line does not fit the grammar. -/
  | usage
  deriving DecidableEq, Repr

/-- The exit status of a program that runs no command. -/
def Stop.status : Stop → Nat
  | help => 0
  | usage => 2

/-- What a switch means. -/
inductive Effect (α : Type) where
  | help
  /-- Stands alone. -/
  | mark (set : α → α)
  /-- Takes a value. -/
  | take (set : String → α → Option α)

/-- A switch, under all its names. -/
structure Switch (α : Type) where
  names : List String
  effect : Effect α

/-- What stands on a command line without a switch. -/
inductive Operand (α : Type) where
  | single (set : String → α → Option α)
  /-- A command with the rest of the line. -/
  | command (set : String → List String → α → Except Stop α)

/-- The switches and operands of a command line. All operands must be given. -/
structure Grammar (α β : Type) where
  /-- What is known before anything is read. -/
  start : α
  switches : List (Switch α) := []
  operands : List (Operand α) := []
  /-- The result, if nothing that is required is missing. -/
  finish : α → Option β

/-- The switch that asks for help. -/
def helpSwitch {α : Type} : Switch α := ⟨["-h", "--help"], .help⟩

namespace Switch

variable {α : Type}

/-- A switch that takes a text. -/
def text (name : String) (set : String → α → α) : Switch α :=
  ⟨[name], .take fun s a => some (set s a)⟩

/-- A switch that takes what `read` reads. -/
def reading {γ : Type} (name : String) (read : String → Option γ) (set : γ → α → α) : Switch α :=
  ⟨[name], .take fun s a => (read s).map fun c => set c a⟩

/-- A switch that stands alone. -/
def mark (name : String) (set : α → α) : Switch α := ⟨[name], .mark set⟩

end Switch

/-- An operand that `read` reads. -/
def Operand.reading {α γ : Type} (read : String → Option γ) (set : γ → α → α) : Operand α :=
  .single fun s a => (read s).map fun c => set c a

/-- One of several commands, each with a reader for the rest of the line. -/
def Operand.commands {α κ : Type} (readers : List (String × (List String → Except Stop κ)))
    (set : κ → α → α) : Operand α :=
  .command fun name rest a =>
    match readers.lookup name with
    | some read => (read rest).map fun c => set c a
    | none => .error .usage

namespace Grammar

variable {α β : Type}

/-- The names of all switches, with the switches. -/
def named (g : Grammar α β) : List (String × Switch α) :=
  (helpSwitch :: g.switches).flatMap fun s => s.names.map (·, s)

/-- The switch of a name. -/
def switch? (g : Grammar α β) (name : String) : Option (Switch α) := g.named.lookup name

end Grammar

end Remit.CommandLine
