import Remit.Journal
import Remit.Log.Template

/-!
# Entries of a log and their layout

An `Entry` is what is known of a log record when it is written. Its message is a template with
values for the placeholders; without values it is taken as it is (`Message.write?`). A `Layout` puts
the parts of an entry into a line, and an entry that reports a failure names it after the line
(`Layout.write?`).
-/

namespace Remit.Log

/-- A message, with values for its placeholders. -/
structure Message where
  text : String
  arguments : List Value := []
  deriving Inhabited

/-- The text of a message. A single object gives its values by name. -/
def Message.write? (m : Message) : Option String :=
  match m.arguments with
  | [] => some m.text
  | [.object (f :: fs)] => (Template.read? m.text.toList).bind (Template.fillNamed? (f :: fs))
  | vs => (Template.read? m.text.toList).bind (Template.fill? vs)

/-- What is known of a log record when it is written. -/
structure Entry where
  /-- The time in words. -/
  time : String
  severity : Severity
  logger : String
  message : Message
  /-- The failure that the entry reports. -/
  failure : Option String := none

/-- The failure of an entry that reports one while none is being handled. -/
def noFailure : String := "NoneType: None"

/-- How the parts of an entry are put into a line. -/
structure Layout where
  template : Template
  deriving DecidableEq, Repr

namespace Layout

/-- A part of an entry in a layout. -/
def part (name : String) : Piece := .placeholder { name := some name, kind := 's' }

/-- The bar between two parts. -/
def bar : Template := " | ".toList.map .literal

/-- The message alone. -/
def bare : Layout := ⟨[part "message"]⟩

/-- Time, severity, logger and message with bars between them. -/
def standard : Layout :=
  ⟨part "asctime" :: bar ++ part "levelname" :: bar ++ part "name" :: bar ++ [part "message"]⟩

/-- The layout that a text describes; the empty text means the message alone. -/
def ofText? (s : String) : Option Layout :=
  if s = "" then some bare else (Template.read? s.toList).map Layout.mk

/-- The parts of an entry with a message, by the names that layouts use. -/
def parts (e : Entry) (message : String) : Fields :=
  [("asctime", .text e.time), ("levelname", .text e.severity.name),
    ("levelno", .int e.severity.rank), ("name", .text e.logger), ("message", .text message)]

/-- A line, and a failure on a line of its own. -/
def withFailure (line : String) : Option String → String
  | none => line
  | some f => if line.toList.getLast? = some '\n' then line ++ f else line ++ "\n" ++ f

/-- An entry as it is written, if its message and the layout fit their values. -/
def write? (l : Layout) (e : Entry) : Option String := do
  let message ← e.message.write?
  let line ← l.template.fillNamed? (parts e message)
  return withFailure line e.failure ++ "\n"

/-- An entry in the standard layout: its parts in order, with bars between them. -/
theorem standard_write? {e : Entry} {message : String} (h : e.message.write? = some message) :
    standard.write? e =
      some (withFailure
        (e.time ++ " | " ++ e.severity.name ++ " | " ++ e.logger ++ " | " ++ message)
        e.failure ++ "\n") := by
  have hbar (vs : List Value) (t : Template) :
      Template.fillWith? (parts e message) vs (bar ++ t) =
        (Template.fillWith? (parts e message) vs t).map fun r => (" | " ++ r.1, r.2) :=
    Template.fillWith?_literals ..
  have hline : standard.template.fillNamed? (parts e message) =
      some (e.time ++ " | " ++ e.severity.name ++ " | " ++ e.logger ++ " | " ++ message) := by
    simp only [Template.fillNamed?, standard, part, List.cons_append, List.append_assoc]
    rw [Template.fillWith?_text "asctime" e.time rfl, hbar,
      Template.fillWith?_text "levelname" e.severity.name rfl, hbar,
      Template.fillWith?_text "name" e.logger rfl, hbar,
      Template.fillWith?_text "message" message rfl]
    simp [Template.fillWith?, String.append_assoc]
  rw [write?, h, Option.bind_eq_bind, Option.bind_some, hline]
  rfl

end Layout

end Remit.Log
