import Remit.Report

/-!
# Output of a command

A command ends with an exit status and with texts for the two output streams. A command that
succeeds prints one line (`Output.line`). One that is refused prints the refusal to the error
stream, with a line for each rejected field, and logs it (`reported`).
-/

namespace Remit.CommandLine

/-- How a command ends. -/
structure Output where
  status : Nat := 0
  out : String := ""
  err : String := ""
  deriving DecidableEq, Repr, Inhabited

/-- A command that succeeds with a line of output. -/
def Output.line (s : String) : Output := { out := s ++ "\n" }

/-- A command that succeeds with a value, printed as JSON. -/
def Output.json (v : Value) : Except Breakdown Output := Output.line <$> v.jsonText

/-- The line of a rejected field below that of its refusal. -/
def errorLine (e : ParameterError) : String :=
  "  " ++ Refusal.orElse e.field "-" ++ s!": {e.code}: {e.message}\n"

/-- The line of a refusal: its code and its message. -/
def refusalLine (r : Refusal) : String := s!"{r.code}: {r.message}"

/-- The text of a refusal on the error stream. -/
def refusalText (r : Refusal) : String :=
  refusalLine r ++ "\n" ++
    match r with
    | .invalidRequest errors => String.join (errors.map errorLine)
    | _ => ""

/-- Logs a refusal and ends the command. -/
def report (r : Refusal) : Act Output := do
  Act.log .app .warning (refusalLine r)
  return { status := 1, err := refusalText r }

/-- A command whose refusals are reported. -/
def reported (u : Update Output) : Update Output := u.rescue report

end Remit.CommandLine
