import Remit.Value.Amount
import Remit.Value.Equality

/-!
# Checking request parameters

A parameter is checked by a list of rules in order (`Check.run`). A rule looks at the value and
gives a `Verdict`: it keeps the value, replaces it by what it stands for, or rejects it. The first
rejection is reported and ends the check, as does a null value where null is allowed; later rules
change nothing then. Errors of several parameters are collected in the order of the parameters
(`Check.errors`).
-/

namespace Remit

/-- A requirement on the value of a parameter. -/
inductive Rule where
  /-- A null value is accepted as it is. -/
  | ignoreIfNull
  | notNull
  /-- A text that does not hold blanks only. -/
  | notBlank
  /-- A text of at most this many characters. -/
  | maxLength (limit : Int)
  | oneOf (allowed : List Value)
  /-- A whole number, in any notation. -/
  | integer
  | greaterThanZero
  /-- An amount, in any notation. -/
  | amount
  | positiveAmount
  deriving Inhabited

/-- What a rule finds. -/
inductive Verdict where
  | keep
  | become (v : Value)
  /-- The end of the error code, and the message. -/
  | reject (suffix message : String)
  deriving Inhabited

/-- Whether a value that must be a number is zero or less. A double that is no number is not. -/
def Value.atMostZero (v : Value) : Except Breakdown Bool :=
  match v with
  | .double .nan => .ok false
  | v =>
    match v.number? with
    | some d => (d.le? .zero).mapError .ofSignal
    | none => .error .unordered

namespace Rule

/-- The rejection of a missing value. -/
def mandatory (name : String) : Verdict :=
  .reject "cannot.be.blank" s!"The parameter `{name}` is mandatory."

/-- The rejection of a number that is not positive. -/
def notPositive (name : String) : Verdict :=
  .reject "not.greater.than.zero" s!"The parameter `{name}` must be greater than 0."

/-- The verdict of a rule on the value of a parameter. Only the rules that ask for a value reject
null. -/
def judge (name : String) : Rule → Value → Except Breakdown Verdict
  | ignoreIfNull, _ => .ok .keep
  | notNull, v => .ok (if v.isNull then mandatory name else .keep)
  | notBlank, v =>
    match v.text? with
    | some s => .ok (if Text.isBlankText s then mandatory name else .keep)
    | none => .ok (mandatory name)
  | _, .null => .ok .keep
  | maxLength limit, v =>
    match v.display? with
    | none => .error .numberTooLong
    | some s =>
      .ok (if (s.length : Int) ≤ limit then .keep
        else .reject "exceeds.max.length" s!"The parameter `{name}` exceeds max length of {limit}.")
  | oneOf allowed, v => do
    if ← (v.elem? allowed).mapError .ofSignal then return .keep
    match (Value.list allowed).display? with
    | none => .error .numberTooLong
    | some s =>
      return .reject "is.not.one.of.expected.enumerations"
        s!"The parameter `{name}` must be one of {s}."
  | integer, v =>
    match v.amount?.filter (·.val.isWhole) with
    | some d => .ok (.become (.int d.val.truncate))
    | none =>
      .ok (.reject "not.a.valid.integer" s!"The parameter `{name}` must be a whole number.")
  | greaterThanZero, v => do return if ← v.atMostZero then notPositive name else .keep
  | amount, v =>
    match v.amount? with
    | some d => .ok (.become (.decimal d))
    | none =>
      .ok (.reject "invalid.decimal.format" s!"The parameter `{name}` is not a valid amount.")
  | positiveAmount, .decimal d => do
    return if ← (d.val.le? .zero).mapError .ofSignal then notPositive name else .keep
  | positiveAmount, _ => .ok (notPositive name)

end Rule

/-- A parameter that is being checked. -/
structure Check where
  name : String
  value : Value
  /-- Whether a null value was accepted. -/
  skipped : Bool := false
  error : Option ParameterError := none
  deriving Inhabited

namespace Check

/-- Whether later rules no longer matter. -/
def isDone (c : Check) : Bool := c.skipped || c.error.isSome

/-- The error of a parameter of a resource. -/
def errorOf (resource name suffix message : String) : ParameterError :=
  ⟨some name, s!"validation.msg.{resource}.{name}.{suffix}", message⟩

/-- Applies a verdict to a parameter. -/
def settle (resource : String) (c : Check) : Verdict → Check
  | .keep => c
  | .become v => { c with value := v }
  | .reject suffix message => { c with error := some (errorOf resource c.name suffix message) }

/-- Applies a rule, unless the check is done. -/
def apply (resource : String) (c : Check) (r : Rule) : Except Breakdown Check :=
  if c.isDone then .ok c
  else
    match r, c.value with
    | .ignoreIfNull, .null => .ok { c with skipped := true }
    | r, v => (r.judge c.name v).map (c.settle resource)

/-- Applies rules in order. -/
def run (resource : String) (rules : List Rule) (c : Check) : Except Breakdown Check :=
  rules.foldlM (apply resource) c

/-- The errors of checked parameters, in their order. -/
def errors (cs : List Check) : List ParameterError := cs.filterMap (·.error)

/-- The first rule is applied, and then the others. -/
theorem run_cons (resource : String) (r : Rule) (rules : List Rule) (c : Check) :
    run resource (r :: rules) c = (apply resource c r).bind (run resource rules) := rfl

/-- A check that is done stays as it is. -/
theorem apply_of_isDone {resource : String} {c : Check} (h : c.isDone = true) (r : Rule) :
    apply resource c r = .ok c := by
  simp [apply, h]

/-- No rule changes a check that is done. -/
theorem run_of_isDone {resource : String} {c : Check} (h : c.isDone = true) (rules : List Rule) :
    run resource rules c = .ok c := by
  induction rules with
  | nil => rfl
  | cons r rules ih => rw [run_cons, apply_of_isDone h]; exact ih

end Check

/-- The errors of the parameters that are not supported, in increasing order of their names. -/
def unsupportedErrors (fields : Fields) (supported : List String) : List ParameterError :=
  (fields.map (·.1)).eraseDups.filter (fun k => !supported.contains k) |>.mergeSort (· ≤ ·)
    |>.map fun k => ⟨some k, "unsupported.parameter", s!"The parameter `{k}` is not supported."⟩

end Remit
