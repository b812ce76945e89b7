import Remit.Execution.Client
import Remit.Execution.Payload
import Remit.Settings
import Remit.Transfer.Authorization

/-!
# Submitting a transfer

The two use cases of a transfer request: `Submission.authorize` decides it, and `Submission.create`
decides it and hands the instruction over to the execution subsystem. Both read the settings from
the environment: once for the subsystem, before anything else, and then for the daily ceiling.
Nothing is sent unless the transfer is authorized.
-/

namespace Remit

/-- The kind of transfer that a value of a request names. What counts as false names none. -/
def TransferType.ofValue (v : Value) : Except Breakdown TransferType :=
  if !v.isTruthy then .ok .self
  else
    match v with
    | .bytes _ => .ok .self
    | v =>
      match v.text? with
      | some s => .ok (.ofText s)
      | none => .error .notText

namespace Submission

/-- Decides a transfer with the daily ceiling that the environment configures now. -/
def authorizeNow (facts : Facts) (user : User) (type : Value) (fields : Fields) (day : Date)
    (env : Environment) : Act Instruction := do
  let limits ← Settings.limits env
  let type ← Act.liftBreakdown (TransferType.ofValue type)
  Remit.authorize facts user type fields day limits

/-- Decides a transfer without submitting it. -/
def authorize (facts : Facts) (user : User) (type : Value) (fields : Fields) (day : Date)
    (env : Environment) : Act Instruction := do
  let _ ← Settings.read env
  authorizeNow facts user type fields day env

/-- Decides a transfer, submits it and returns what the execution subsystem answers. -/
def create (facts : Facts) (user : User) (type : Value) (fields : Fields) (day : Date)
    (env : Environment) (answer : Execution.Answer) : Act Value := do
  let settings ← Settings.read env
  let i ← authorizeNow facts user type fields day env
  let result ← Execution.execute settings.executionUrl settings.executionTimeout i.payload.toValue
    answer
  Act.log .usage .info
    (s!"User {user.id} submitted transfer of {i.amount.val.scientific} " ++
      s!"from account {Authorization.shownId i.fromAccountId} " ++
      s!"to account {Authorization.shownId i.toAccountId}")
  return result

end Submission

end Remit
