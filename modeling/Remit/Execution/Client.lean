import Remit.Execution.Address
import Remit.Json.Reader
import Remit.Journal

/-!
# Executing a transfer

`Execution.execute` sends one request to the execution subsystem and reads its answer. A failure to
reach it and an answer with the status of an error refuse the transfer and are logged; every other
answer must be JSON, whatever its status.
-/

namespace Remit.Execution

/-- What comes back for a request. -/
inductive Answer where
  | response (status : Int) (body : String)
  /-- The subsystem could not be reached, or the exchange failed. -/
  | failure (message : String)
  /-- The address was found to be none. -/
  | invalidAddress
  deriving DecidableEq, Repr, Inhabited

/-- The path that transfers are sent to. -/
def path : String := "accounttransfers"

/-- Whether a status is that of an error. -/
def isError (status : Int) : Bool := 400 ≤ status && status ≤ 599

/-- The value that the body of an answer holds. -/
def decode (body : String) : Except Breakdown Value :=
  match Json.read? body with
  | none => .error .malformedAnswer
  | some v => if v.quoted?.isSome then .ok v else .error .numberTooLong

/-- What an answer means. -/
def readAnswer : Answer → Act Value
  | .invalidAddress => Act.breakDown .malformedAddress
  | .failure message => do
    Act.log .app .error s!"Transfer execution request failed: {message}"
    Act.refuse (.notExecuted none message)
  | .response status body =>
    if isError status then do
      Act.log .app .error s!"Transfer execution rejected with status {status}"
      Act.refuse (.notExecuted status body)
    else Act.liftBreakdown (decode body)

/-- Sends a body to the subsystem at a base address and reads the answer to it. -/
def execute (base : String) (timeout : Double) (body : Value) (answer : Answer) : Act Value := do
  Act.record (.sent ⟨Address.below base path, timeout, body⟩)
  readAnswer answer

end Remit.Execution
