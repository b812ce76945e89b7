import Remit.CommandLine.Beneficiaries
import Remit.CommandLine.Transfers
import Remit.Log.Session
import Remit.Store.Tables

/-!
# The program

`remit beneficiaries …` and `remit transfers …` run the two command lines on a store that is kept in
a file of tables. The file is named by the variable `STORE_FILE`, the day by `BUSINESS_DATE`. Log
entries go to the log files and to the console, and the store is written back when a command is
done. The program has no connection to the execution subsystem, so that every submission ends as one
that could not be sent.
-/

namespace Remit

/-- The variables that the settings are read from. -/
def settingNames : List String :=
  ["DAILY_TPT_LIMIT_ENABLED", "DAILY_TPT_LIMIT", "TRANSFER_EXECUTION_URL",
    "TRANSFER_EXECUTION_TIMEOUT"]

/-- The variables of a list that are set. -/
def readEnvironment (names : List String) : IO Environment := do
  let found ← names.mapM fun name => do return (← IO.getEnv name).map (name, ·)
  return found.filterMap id

/-- The value of a variable that must be set. -/
def requireVariable (name : String) : IO String := do
  match ← IO.getEnv name with
  | some value => return value
  | none => throw (IO.userError s!"Missing environment variable: {name}")

/-- Appends the lines of a book to its files and prints those for the console. -/
def writeBook (b : Log.Book) : IO Unit := do
  for path in b.paths do
    IO.FS.createDirAll ("/".intercalate (path.splitOn "/").dropLast)
    IO.FS.withFile path .append fun file => file.putStr (b.content path)
  IO.eprint b.console

/-- Runs a command on the store of a file and returns the exit status. -/
def runOn (file : String) (day : Date) (command : Update CommandLine.Output) : IO UInt32 := do
  let some (.object tables) := Json.read? (← IO.FS.readFile file)
    | throw (IO.userError s!"No tables in {file}")
  let (act, store) := command (.ofTables tables)
  writeBook (.ofRecords day day.iso act.logs)
  match (Value.object store.tables).json with
  | .ok text => IO.FS.writeFile file text
  | .error _ => throw (IO.userError s!"The store cannot be written to {file}")
  match act.outcome with
  | .ok output =>
    IO.print output.out
    IO.eprint output.err
    return output.status.toUInt32
  | .error _ =>
    IO.eprintln "The command broke down."
    return 1

/-- The command of a command line, if there is one in it. -/
def commandOf (day : Date) (env : Environment) :
    List String → Except CommandLine.Stop (Update CommandLine.Output)
  | "beneficiaries" :: line => CommandLine.Beneficiaries.run line
  | "transfers" :: line => CommandLine.Transfers.run ⟨day, env, .failure "no connection"⟩ line
  | _ => .error .usage

end Remit

/-- Runs one command and returns its exit status. -/
def main (line : List String) : IO UInt32 := do
  let date ← Remit.requireVariable "BUSINESS_DATE"
  let some day := Remit.Date.ofIso? date
    | throw (IO.userError s!"No date: {date}")
  match Remit.commandOf day (← Remit.readEnvironment Remit.settingNames) line with
  | .ok command => Remit.runOn (← Remit.requireVariable "STORE_FILE") day command
  | .error stop => return stop.status.toUInt32
