import Remit.CommandLine.Grammar
import Remit.Text.Digit

/-!
# The words of a command line

Before a command line is read, each of its words is sorted (`Grammar.words?`): a switch, an operand,
or the divider `--`, behind which all words are operands. A switch may be shortened to the front of
its name, and its value may be attached, with an equals sign to a long name and directly to a short
one. A word that could be several switches spoils the line.
-/

namespace Remit.CommandLine

/-- A value that is attached to a switch. -/
structure Attached where
  /-- Whether an equals sign stands in front of it. -/
  marked : Bool
  text : List Char
  deriving DecidableEq, Repr

/-- What a word of a command line is. -/
inductive Word (α : Type) where
  /-- An operand, or the value of a switch. -/
  | plain
  /-- The mark that only operands follow. -/
  | divider
  | switch (s : Switch α) (name : String) (attached : Option Attached)
  /-- It looks like a switch, but there is none of this name. -/
  | unknown

/-- Whether a word is a negative number, which is no switch. -/
def isNegativeNumber : List Char → Bool
  | '-' :: cs =>
    let cs := if cs.getLast? = some '\n' then cs.dropLast else cs
    match cs.dropWhile Text.isDigit with
    | [] => !cs.isEmpty
    | '.' :: ds => !ds.isEmpty && ds.all Text.isDigit
    | _ => false
  | _ => false

/-- A word in front of its first equals sign, and what follows the sign. -/
def splitAtEquals? (cs : List Char) : Option (List Char × List Char) :=
  match cs.dropWhile (· != '=') with
  | [] => none
  | _ :: value => some (cs.takeWhile (· != '='), value)

namespace Grammar

variable {α β : Type}

/-- The switch whose whole name stands in front of an equals sign. -/
def assignment? (g : Grammar α β) (cs : List Char) : Option (Word α) := do
  let (name, value) ← splitAtEquals? cs
  let s ← g.switch? (String.ofList name)
  return .switch s (String.ofList name) (some ⟨true, value⟩)

/-- The switches that a word with two dashes may shorten. -/
def longReadings (g : Grammar α β) (cs : List Char) : List (Word α) :=
  let (front, attached) : List Char × Option Attached := match splitAtEquals? cs with
    | some (front, value) => (front, some ⟨true, value⟩)
    | none => (cs, none)
  g.named.filterMap fun (name, s) =>
    if front.isPrefixOf name.toList then some (.switch s name attached) else none

/-- The switches that a word with one dash may stand for: a short one with something attached, or
one whose name it shortens. -/
def shortReadings (g : Grammar α β) (cs : List Char) : List (Word α) :=
  g.named.filterMap fun (name, s) =>
    if name.toList = cs.take 2 then some (.switch s name (some ⟨false, cs.drop 2⟩))
    else if cs.isPrefixOf name.toList then some (.switch s name none)
    else none

/-- The readings of a word that is no whole name of a switch. -/
def readings (g : Grammar α β) : List Char → List (Word α)
  | '-' :: '-' :: cs => g.longReadings ('-' :: '-' :: cs)
  | cs => g.shortReadings cs

/-- Sorts a word in front of the divider; none if it could be several switches. -/
def word? (g : Grammar α β) (s : String) : Option (Word α) :=
  match s.toList with
  | '-' :: c :: cs =>
    match g.switch? s with
    | some sw => some (.switch sw s none)
    | none =>
      match g.assignment? ('-' :: c :: cs) with
      | some w => some w
      | none =>
        match g.readings ('-' :: c :: cs) with
        | [w] => some w
        | [] =>
          some (if isNegativeNumber ('-' :: c :: cs) || (c :: cs).contains ' ' then .plain
            else .unknown)
        | _ => none
  | _ => some .plain

/-- Sorts the words of a command line; none if one of them could be several switches. -/
def words? (g : Grammar α β) : List String → Option (List (String × Word α))
  | [] => some []
  | s :: rest =>
    if s = "--" then some ((s, .divider) :: rest.map (·, .plain))
    else do return (s, ← g.word? s) :: (← g.words? rest)

/-- Sorting keeps the words. -/
theorem map_fst_of_words? {g : Grammar α β} {line : List String} {ws : List (String × Word α)}
    (h : g.words? line = some ws) : ws.map (·.1) = line := by
  induction line generalizing ws with
  | nil => simp [words?] at h; simp [← h]
  | cons s rest ih =>
    simp only [words?] at h
    split at h
    · obtain rfl := Option.some.inj h
      simp [Function.comp_def]
    · cases hw : g.word? s with
      | none => simp [hw] at h
      | some w =>
        cases hr : g.words? rest with
        | none => simp [hw, hr] at h
        | some ws' =>
          simp [hw, hr] at h
          simp [← h, ih hr]

end Grammar

end Remit.CommandLine
