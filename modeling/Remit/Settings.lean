import Remit.Double.Reader
import Remit.Journal
import Remit.Transfer.Basic

/-!
# Settings

The settings are variables of an `Environment`, read whenever they are needed and never kept. A
number that cannot be read is ignored with a warning (`Settings.read`), and a blank one counts as
missing. A missing required variable breaks down (`Environment.require`).
-/

namespace Remit

/-- The variables that are set. -/
abbrev Environment := List (String × String)

namespace Environment

/-- The value of a variable. -/
def get? (env : Environment) (name : String) : Option String := env.lookup name

/-- The value of a variable that must be set and not be empty. -/
def require (env : Environment) (name : String) : Except Breakdown String :=
  match env.get? name with
  | some v => if v = "" then .error (.missingSetting name) else .ok v
  | none => .error (.missingSetting name)

end Environment

/-- The settings of the ceilings and of the execution subsystem. -/
structure Settings where
  dailyLimitEnabled : Bool := false
  dailyLimitAmount : Option Int := none
  executionUrl : String := "http://localhost:8443/v1"
  /-- How long to wait for the execution subsystem, in seconds. -/
  executionTimeout : Double := .ofInt 30
  deriving DecidableEq, Repr, Inhabited

namespace Settings

/-- Whether a text says yes, up to letter case and the blanks around it. -/
def isYes (s : String) : Bool :=
  ["1", "true", "yes", "on"].contains (String.ofList ((Text.trim s.toList).map Char.toLower))

/-- A number that may be missing. What is no number is ignored with a warning. -/
def readNumber {α : Type} (read : String → Option α) (warning : String) (raw : Option String) :
    Act (Option α) :=
  match raw with
  | none => return none
  | some raw =>
    if Text.isBlankText raw then return none
    else
      match read (Text.strip raw) with
      | some a => return some a
      | none => do
        Act.log .app .warning (warning ++ raw)
        return none

/-- Reads the settings. -/
def read (env : Environment) : Act Settings := do
  let enabled := isYes ((env.get? "DAILY_TPT_LIMIT_ENABLED").getD "false")
  let amount ← readNumber Text.readInt? "Ignoring non-integer DAILY_TPT_LIMIT value: "
    (env.get? "DAILY_TPT_LIMIT")
  let defaults : Settings := {}
  let url := (env.get? "TRANSFER_EXECUTION_URL").getD defaults.executionUrl
  let timeout ← readNumber Double.read? "Ignoring invalid TRANSFER_EXECUTION_TIMEOUT: "
    (env.get? "TRANSFER_EXECUTION_TIMEOUT")
  return {
    dailyLimitEnabled := enabled
    dailyLimitAmount := amount
    executionUrl := Text.stripEnd '/' url
    executionTimeout := timeout.getD defaults.executionTimeout }

/-- The configuration of the daily ceiling. Each part is read on its own, so that a warning appears
for each. -/
def limits (env : Environment) : Act LimitSettings := do
  let enabled ← read env
  let cap ← read env
  return { enabled := enabled.dailyLimitEnabled, cap := cap.dailyLimitAmount }

end Settings

end Remit
