import Remit.Log.Book

/-!
# A session with logs

A session is a run of actions on one book, each on a day at a time: setting up a logger, asking for
one of the service's shared logs or for the common log, or writing through what was opened before.
Whatever an action opens keeps its place in the session (`Session.opened`). The common log is the
one that was asked for first, whatever later requests ask for. Two openings are the same if they
give the same logger, the same shared log or the common log (`Session.first`). The journal of an act
is written to the shared logs by `Book.ofRecords`.
-/

namespace Remit.Log

/-- The shared logs of the service, each opened once. -/
inductive Shared where
  /-- Technical records. -/
  | app
  /-- The record of what users did, which does not appear on the console. -/
  | usage
  deriving DecidableEq, Repr

/-- How a shared log is set up. -/
def Shared.setup : Shared → Setup
  | app => {}
  | usage => { name := "usage", folder := "usage", title := "usage_logs", console := false }

/-- The shared log that the records of a channel go to. -/
def Shared.ofChannel : Channel → Shared
  | .app => app
  | .usage => usage

/-- The book of the records of an act: each record sets up its log and is written to it. -/
def Book.ofRecords (day : Date) (time : String) (records : List LogRecord) : Book :=
  records.foldl (fun b r =>
    (b.configure (Shared.ofChannel r.channel).setup day).emit
      { time, severity := r.severity, logger := r.channel.name, message := ⟨r.message, []⟩ }) {}

/-- What a request for the common log asks for; all else is as in the technical log. -/
structure Common where
  name : String := "app"
  folder : String := "app"
  title : String := "app_logs"
  console : Bool := true
  deriving DecidableEq, Repr, Inhabited

/-- How the common log is set up. -/
def Common.setup (c : Common) : Setup := { c with }

/-- What an action opened. -/
inductive Opened where
  | logger (name : String)
  | shared (s : Shared)
  /-- The common log, with the name of its logger. -/
  | common (name : String)
  deriving DecidableEq, Repr

/-- The name of the logger that writes for what was opened. -/
def Opened.name : Opened → String
  | logger name | common name => name
  | shared s => loggerName s.setup.name

/-- Whether the common log was opened. -/
def Opened.isCommon : Opened → Bool
  | common _ => true
  | _ => false

/-- What a step of a session does. -/
inductive Action where
  /-- Sets up a logger. -/
  | configure (s : Setup)
  /-- Opens a shared log. -/
  | share (s : Shared)
  /-- Opens the common log. -/
  | join (c : Common)
  /-- Writes a record through what was opened at a place. -/
  | emit (place : Nat) (severity : Severity) (message : Message) (failure : Option String)

/-- A step of a session, with the day and the time at which it is taken. -/
structure Step where
  day : Date
  time : String
  action : Action

/-- A book with what was opened, in order. -/
structure Session where
  book : Book := {}
  opened : List Opened := []
  deriving DecidableEq, Repr, Inhabited

namespace Session

/-- Sets up a logger and keeps what that opens. -/
def openAs (s : Session) (setup : Setup) (o : Opened) (day : Date) : Session :=
  ⟨s.book.configure setup day, s.opened ++ [o]⟩

/-- Takes a step. -/
def step (s : Session) (a : Step) : Session :=
  match a.action with
  | .configure setup => s.openAs setup (.logger (loggerName setup.name)) a.day
  | .share shared => s.openAs shared.setup (.shared shared) a.day
  | .join c =>
    match s.opened.find? Opened.isCommon with
    | some o => { s with opened := s.opened ++ [o] }
    | none => s.openAs c.setup (.common (loggerName c.name)) a.day
  | .emit place severity message failure =>
    match s.opened[place]? with
    | some o =>
      let e : Entry := { time := a.time, severity, logger := o.name, message, failure }
      { s with book := s.book.emit e }
    | none => s

/-- The session of a list of steps. -/
def run (steps : List Step) : Session := steps.foldl step {}

/-- The first place where something was opened. -/
def first (s : Session) (o : Opened) : Nat := s.opened.idxOf o

/-- The last step of a session is taken from the session before it. -/
theorem run_concat (steps : List Step) (a : Step) : run (steps ++ [a]) = (run steps).step a := by
  simp [run]

end Session

end Remit.Log
