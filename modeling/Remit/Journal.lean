import Remit.Refusal

/-!
# Acts and their journal

An `Act` is the run of one use case: an outcome, which is a result or a `Fault`, and the journal of
the events on the way to it, in order. Events are log records, questions that a decision asks, and
requests sent to the execution subsystem. A fault ends an act but leaves what happened before it in
the journal.

A `Fault` is a refusal of the service or a `Breakdown`, a failure outside that family which no part
of the service handles.
-/

namespace Remit

/-- A failure that is not an answer of the service. -/
inductive Breakdown where
  /-- A decimal operation has no defined result. -/
  | undefinedNumber
  /-- A decimal result is too large. -/
  | numberTooLarge
  /-- Values of different kinds were compared by order. -/
  | unordered
  /-- Something other than a text was used as one. -/
  | notText
  /-- No account kind has this number. -/
  | unknownAccountType
  /-- A whole number has too many digits for a text. -/
  | numberTooLong
  /-- A whole number does not fit into a column of the store. -/
  | integerTooWide
  /-- A value of this kind cannot be put into the store. -/
  | unstorable
  /-- The answer of the execution subsystem is not what it claims to be. -/
  | malformedAnswer
  /-- The address of the execution subsystem is not one. -/
  | malformedAddress
  /-- A required setting is missing. -/
  | missingSetting (name : String)
  /-- A value of the named kind cannot be written as JSON. -/
  | unwritable (kind : String)
  deriving DecidableEq, Repr

/-- Why an act has no result. -/
inductive Fault where
  | refusal (r : Refusal)
  | breakdown (b : Breakdown)
  deriving Inhabited

/-- The breakdown that a signal of decimal arithmetic leads to. -/
def Breakdown.ofSignal : Decimal.Signal → Breakdown
  | .undefined => .undefinedNumber
  | .overflow => .numberTooLarge

/-- The two logs: technical records, and the record of what users did. -/
inductive Channel where
  | app
  | usage
  deriving DecidableEq, Repr

/-- The name of a log. -/
def Channel.name : Channel → String
  | app => "app"
  | usage => "usage"

/-- How much a log record matters. -/
inductive Severity where
  | debug | info | warning | error | critical
  deriving DecidableEq, Repr

namespace Severity

/-- The name of a severity. -/
def name : Severity → String
  | debug => "DEBUG"
  | info => "INFO"
  | warning => "WARNING"
  | error => "ERROR"
  | critical => "CRITICAL"

/-- The rank of a severity; a larger one matters more. -/
def rank : Severity → Int
  | debug => 10
  | info => 20
  | warning => 30
  | error => 40
  | critical => 50

end Severity

/-- One record of a log. -/
structure LogRecord where
  channel : Channel
  severity : Severity
  message : String
  deriving DecidableEq, Repr

/-- A question that the authorization of a transfer asks, on behalf of a user. -/
inductive Call where
  | destinationCandidates (type : TransferType)
  | destinations (type : TransferType)
  | transferLimit (account : Option Int) (type : Int)
  | total (account : Option Int) (type : Int) (day : Date)
  deriving DecidableEq, Repr

/-- A request that was posted to the execution subsystem, with its body as JSON. -/
structure SentRequest where
  url : String
  timeout : Double
  body : Value
  deriving Inhabited

/-- Something that happened in an act. -/
inductive Event where
  | log (r : LogRecord)
  | call (c : Call)
  | sent (r : SentRequest)

/-- The run of a use case. -/
structure Act (α : Type) where
  events : List Event
  outcome : Except Fault α

namespace Act

variable {α β : Type}

/-- The act of one event. -/
def record (e : Event) : Act Unit := ⟨[e], .ok ()⟩

/-- Writes a log record. -/
def log (channel : Channel) (severity : Severity) (message : String) : Act Unit :=
  record (.log ⟨channel, severity, message⟩)

/-- Notes a question. -/
def call (c : Call) : Act Unit := record (.call c)

/-- An act without events. -/
def lift (x : Except Fault α) : Act α := ⟨[], x⟩

/-- An act without events that may break down. -/
def liftBreakdown (x : Except Breakdown α) : Act α := lift (x.mapError .breakdown)

/-- Ends with a refusal. -/
def refuse (r : Refusal) : Act α := ⟨[], .error (.refusal r)⟩

/-- Ends with a breakdown. -/
def breakDown (b : Breakdown) : Act α := ⟨[], .error (.breakdown b)⟩

/-- Runs an act and then another on its result; a fault ends both. -/
def andThen (a : Act α) (f : α → Act β) : Act β :=
  match a.outcome with
  | .ok x => ⟨a.events ++ (f x).events, (f x).outcome⟩
  | .error e => ⟨a.events, .error e⟩

instance : Monad Act where
  pure x := ⟨[], .ok x⟩
  bind := andThen

/-- Runs an act, and another one if it ends with a refusal. A breakdown is not rescued. -/
def rescue (a : Act α) (f : Refusal → Act α) : Act α :=
  match a.outcome with
  | .error (.refusal r) => ⟨a.events ++ (f r).events, (f r).outcome⟩
  | _ => a

/-- The log records of a journal. -/
def logs (a : Act α) : List LogRecord :=
  a.events.filterMap fun
    | .log r => some r
    | _ => none

/-- The questions of a journal. -/
def calls (a : Act α) : List Call :=
  a.events.filterMap fun
    | .call c => some c
    | _ => none

/-- The sent requests of a journal. -/
def sent (a : Act α) : List SentRequest :=
  a.events.filterMap fun
    | .sent r => some r
    | _ => none

end Act

end Remit
