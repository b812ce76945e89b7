import Remit.CommandLine.Word

/-!
# Reading a command line

`Grammar.read` reads the words of a command line from left to right. An operand goes to the first
place that is still open, and a switch takes its value from what is attached to it or from the next
word, which must be plain. Short switches may be written in one word (`Cluster`); such a word is
taken as a whole. The line fits the grammar if no word is left over, all operands are given and the
result is complete. The first cause to stop is the one that counts.
-/

namespace Remit.CommandLine

/-- What the switches in one word do. -/
structure Cluster (α : Type) where
  /-- The effects, in order. -/
  steps : List (α → Except Stop α) := []
  /-- The last effect, if it takes the next word as its value. -/
  pending : Option (String → α → Option α) := none
  /-- Whether a part of the word means nothing. -/
  leftOver : Bool := false

namespace Cluster

variable {α : Type}

/-- A value given to a switch. -/
def give (set : String → α → Option α) (value : String) (a : α) : Except Stop α :=
  match set value a with
  | some a => .ok a
  | none => .error .usage

/-- A switch without an attached value. -/
def ofEffect : Effect α → Cluster α
  | .help => { steps := [fun _ => .error .help] }
  | .mark set => { steps := [fun a => .ok (set a)] }
  | .take set => { pending := some set }

/-- A switch in front of others. -/
def cons (e : Effect α) (c : Cluster α) : Cluster α :=
  { c with steps := (ofEffect e).steps ++ c.steps }

/-- The effects in order, but for one that is pending. -/
def run (c : Cluster α) (a : α) : Except Stop α := c.steps.foldlM (fun a step => step a) a

end Cluster

/-- Whether a switch's name is short: one dash and a character. -/
def isShort (name : String) : Bool := name.toList[1]? != some '-'

namespace Grammar

variable {α β : Type}

/-- The switches in a word whose first one has a value attached. Behind a short switch that takes no
value, further short switches may be attached. -/
def cluster (g : Grammar α β) (e : Effect α) (short marked : Bool) :
    List Char → Except Stop (Cluster α)
  | [] =>
    match e with
    | .take set => .ok { steps := [Cluster.give set ""] }
    | _ => .error .usage
  | c :: cs =>
    match e with
    | .take set => .ok { steps := [Cluster.give set (String.ofList (c :: cs))] }
    | e =>
      if !short || marked || c = '-' then .error .usage
      else
        match g.switch? (String.ofList ['-', c]) with
        | none => .ok { Cluster.ofEffect e with leftOver := true }
        | some s =>
          match cs with
          | [] => .ok ((Cluster.ofEffect s.effect).cons e)
          | '=' :: cs => (g.cluster s.effect true true cs).map (·.cons e)
          | c :: cs => (g.cluster s.effect true false (c :: cs)).map (·.cons e)

/-- The switches in a word. -/
def clusterOf (g : Grammar α β) (s : Switch α) (name : String) :
    Option Attached → Except Stop (Cluster α)
  | none => .ok (.ofEffect s.effect)
  | some a => g.cluster s.effect (isShort name) a.marked a.text

end Grammar

/-- How far a command line was read. -/
structure Progress (α : Type) where
  value : α
  /-- The operands that are still open. -/
  operands : List (Operand α)
  /-- Whether a word was left over. -/
  leftOver : Bool := false
  /-- Whether the word before was an operand, which also takes a divider behind it. -/
  afterOperand : Bool := false

namespace Progress

variable {α : Type}

/-- Goes on with another value. -/
def proceed (p : Progress α) (value : α) : Progress α := { p with value, afterOperand := false }

/-- Leaves a word over. -/
def skip (p : Progress α) : Progress α := { p with leftOver := true, afterOperand := false }

/-- Gives a value to the first open operand, which the operands `rest` follow. -/
def fill (p : Progress α) (set : String → α → Option α) (rest : List (Operand α)) (s : String)
    (afterOperand : Bool) : Except Stop (Progress α) :=
  (Cluster.give set s p.value).map fun value =>
    { p with value, operands := rest, afterOperand }

end Progress

namespace Grammar

variable {α β : Type}

/-- Reads sorted words. -/
def consume (g : Grammar α β) :
    List (String × Word α) → Progress α → Except Stop (Progress α)
  | [], p => .ok p
  | (s, .plain) :: rest, p =>
    match p.operands with
    | .single set :: later => do g.consume rest (← p.fill set later s true)
    | .command set :: later =>
      (set s (rest.map (·.1)) p.value).map fun value => { p with value, operands := later }
    | [] => g.consume rest p.skip
  | (_, .divider) :: rest, p =>
    if p.afterOperand then g.consume rest { p with afterOperand := false }
    else
      match p.operands, rest with
      | .single set :: later, (s, .plain) :: rest => do g.consume rest (← p.fill set later s false)
      | .command _ :: _, (_, .plain) :: _ => .error .usage
      | _, rest => g.consume rest p.skip
  | (_, .unknown) :: rest, p => g.consume rest p.skip
  | (_, .switch s name attached) :: rest, p =>
    match g.clusterOf s name attached with
    | .error e => .error e
    | .ok c =>
      let p := if c.leftOver then p.skip else p
      match c.pending, rest with
      | none, rest => do g.consume rest (p.proceed (← c.run p.value))
      | some set, (value, .plain) :: rest => do
        g.consume rest (p.proceed (← Cluster.give set value (← c.run p.value)))
      | some _, _ => .error .usage

/-- Reads a command line. -/
def read (g : Grammar α β) (line : List String) : Except Stop β :=
  match g.words? line with
  | none => .error .usage
  | some ws => do
    let p ← g.consume ws { value := g.start, operands := g.operands }
    if p.leftOver || !p.operands.isEmpty then .error .usage
    else
      match g.finish p.value with
      | some b => .ok b
      | none => .error .usage

end Grammar

end Remit.CommandLine
