import Remit.Log.Layout

/-!
# The book of a program's logs

A `Book` holds the loggers that are set up and every line they wrote, in order. A logger is set up
once: the name of one that exists gives it back as it is (`Book.configure`). A record is taken if it
matters enough to the logger, whose level may come from the logger around it (`Book.level`), and
then goes to each outlet of the logger, and on to the loggers around it as long as they propagate
(`audience`). An outlet takes the records that matter enough to it (`Outlet.lines`). The contents of
a file and of the console are views of the lines (`Book.content`, `Book.console`).
-/

namespace Remit.Log

/-- How a logger is set up. -/
structure Setup where
  name : String := "app"
  /-- The folder of the log file, below that of all logs. -/
  folder : String := "app"
  /-- What the name of the log file says after the day. -/
  title : String := "app_logs"
  /-- Whether entries also go to the console. -/
  console : Bool := true
  /-- The least rank of a record that the logger takes; with zero the logger around it decides. -/
  level : Int := Severity.info.rank
  layout : Layout := .standard
  /-- The least rank of a record that the outlets of the logger take. -/
  threshold : Int := Severity.info.rank
  deriving DecidableEq, Repr

/-- Where lines are written to. -/
inductive Target where
  | file (path : String)
  | console
  deriving DecidableEq, Repr

/-- The path of a file. -/
def Target.path? : Target → Option String
  | file path => some path
  | console => none

/-- What a logger writes through. -/
structure Outlet where
  target : Target
  layout : Layout
  /-- The least rank of a record that the outlet takes. -/
  threshold : Int
  deriving DecidableEq, Repr

/-- A logger that is set up. -/
structure Logger where
  name : String
  level : Int
  outlets : List Outlet
  /-- Whether records also go to the outlets of the logger around this one. -/
  propagates : Bool
  deriving DecidableEq, Repr

/-- A line that was written. -/
structure Line where
  target : Target
  text : String
  deriving DecidableEq, Repr

/-- The loggers that are set up, and what they wrote. -/
structure Book where
  loggers : List Logger := []
  lines : List Line := []
  deriving DecidableEq, Repr, Inhabited

/-! ## Names and files -/

/-- The name of the logger around all others. -/
def rootName : String := "root"

/-- The name that a logger goes by; without one it is the logger around all others. -/
def loggerName (name : String) : String := if name = "" then rootName else name

/-- The names of the loggers around one, the nearest first: what stands in front of the dots of its
name, which is given backwards. Of two dots in a row only the last counts. -/
def enclosingNames : List Char → List String
  | [] => []
  | '.' :: [] => []
  | '.' :: c :: cs => String.ofList (c :: cs).reverse :: enclosingNames cs
  | _ :: cs => enclosingNames cs

/-- The parts of a path with those left out that lead nowhere, and those that are left again. -/
def pathParts (path : String) : List String :=
  ((path.toList.splitOn '/').map String.ofList).foldl (fun parts part =>
    if part = "" ∨ part = "." then parts
    else if part = ".." then parts.dropLast
    else parts ++ [part]) []

/-- The file that a logger writes to when it is set up on a day. -/
def Setup.file (s : Setup) (day : Date) : String :=
  "/".intercalate (pathParts ("logs/" ++ s.folder) ++ [day.stamp ++ "_" ++ s.title ++ ".log"])

/-- An outlet of a logger that is set up. -/
def Setup.outlet (s : Setup) (target : Target) : Outlet := ⟨target, s.layout, s.threshold⟩

/-- The logger that a setup describes on a day. It has a file of its own and so does not propagate.
-/
def Setup.logger (s : Setup) (day : Date) : Logger where
  name := loggerName s.name
  level := s.level
  outlets := s.outlet (.file (s.file day)) :: if s.console then [s.outlet .console] else []
  propagates := false

/-! ## Writing -/

/-- The lines that an entry puts into an outlet. -/
def Outlet.lines (o : Outlet) (e : Entry) : List Line :=
  if o.threshold ≤ e.severity.rank then (o.layout.write? e).toList.map (⟨o.target, ·⟩) else []

/-- The loggers that a record reaches, of a logger and those around it: up to the first that does
not propagate. -/
def audience : List Logger → List Logger
  | [] => []
  | l :: ls => l :: if l.propagates then audience ls else []

namespace Book

/-- The logger of a name. -/
def find? (b : Book) (name : String) : Option Logger := b.loggers.find? (·.name == name)

/-- Sets a logger up, unless there is one of its name. -/
def configure (b : Book) (s : Setup) (day : Date) : Book :=
  if (b.find? (loggerName s.name)).isSome then b
  else { b with loggers := b.loggers ++ [s.logger day] }

/-- The loggers between a logger and the one around all others, the nearest first. -/
def between (b : Book) (l : Logger) : List Logger :=
  (enclosingNames l.name.toList.reverse).filterMap b.find?

/-- The loggers around a logger, the nearest first. -/
def around (b : Book) (l : Logger) : List Logger :=
  if l.name = rootName then [] else b.between l ++ (b.find? rootName).toList

/-- The levels that decide for a logger, the nearest first. -/
def levels (b : Book) (l : Logger) : List Int :=
  let root := ((b.find? rootName).map (·.level)).getD Severity.warning.rank
  l.level :: (b.between l).map (·.level) ++ [root]

/-- The least rank of a record that a logger takes: the nearest level that is not zero. -/
def level (b : Book) (l : Logger) : Int := ((b.levels l).find? (· != 0)).getD 0

/-- The lines that an entry of a logger adds: those of all outlets that it reaches. -/
def newLines (b : Book) (l : Logger) (e : Entry) : List Line :=
  if b.level l ≤ e.severity.rank then
    (audience (l :: b.around l)).flatMap fun l => l.outlets.flatMap (·.lines e)
  else []

/-- The lines that an entry adds: those of the logger that it names. -/
def added (b : Book) (e : Entry) : List Line :=
  match b.find? e.logger with
  | some l => b.newLines l e
  | none => []

/-- Writes an entry. -/
def emit (b : Book) (e : Entry) : Book := { b with lines := b.lines ++ b.added e }

/-- The paths of the log files. -/
def paths (b : Book) : List String :=
  (b.loggers.flatMap fun l => l.outlets.filterMap (·.target.path?)).eraseDups

/-- The text that lines put somewhere. -/
def textIn (target : Target) (lines : List Line) : String :=
  String.join ((lines.filter (·.target == target)).map (·.text))

/-- The content of a log file. -/
def content (b : Book) (path : String) : String := textIn (.file path) b.lines

/-- What was written to the console. -/
def console (b : Book) : String := textIn .console b.lines

/-! ## Setting up and writing -/

/-- A name that has a logger keeps it. -/
theorem configure_of_isSome {b : Book} {s : Setup}
    (h : (b.find? (loggerName s.name)).isSome = true) (day : Date) : b.configure s day = b := by
  simp [configure, h]

/-- A logger is set up under its name, and no other name gets one. -/
theorem find?_configure (b : Book) (s : Setup) (day : Date) (name : String) :
    (b.configure s day).find? name =
      (b.find? name).or (if loggerName s.name = name then some (s.logger day) else none) := by
  unfold configure
  split
  · next h =>
    split
    · next hname =>
      subst hname
      obtain ⟨l, hl⟩ := Option.isSome_iff_exists.1 h
      rw [hl, Option.some_or]
    · rw [Option.or_none]
  · by_cases hname : loggerName s.name = name <;>
      simp [find?, List.find?_append, Setup.logger, hname]

/-- Setting up a logger writes nothing. -/
@[simp] theorem lines_configure (b : Book) (s : Setup) (day : Date) :
    (b.configure s day).lines = b.lines := by
  unfold configure; split <;> rfl

/-- An entry adds its lines behind those that were written. -/
@[simp] theorem lines_emit (b : Book) (e : Entry) : (b.emit e).lines = b.lines ++ b.added e := rfl

/-- An entry adds its lines at the end of the files, and nothing else. -/
theorem content_emit (b : Book) (e : Entry) (path : String) :
    (b.emit e).content path = b.content path ++ textIn (.file path) (b.added e) := by
  simp [content, textIn]

end Book

end Remit.Log
