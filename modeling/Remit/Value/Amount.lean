import Remit.Decimal.Reader
import Remit.Double.Printer
import Remit.Journal

/-!
# Values as amounts

How a value becomes a decimal, which is a representable one. A request's amount (`Value.amount?`)
must be a finite number or its text, and truth values are none. A number of another system is taken
over as it is (`Value.toDecimal`): null is zero, infinities and undefined results are kept, and what
is no number breaks down. A double stands for the decimal of its shortest text.
-/

namespace Remit.Value

/-- The decimal of a value that has digits of its own, of a text, a number of any kind but a truth
value. -/
def written? : Value → Option Decimal.Representable
  | .text s => Decimal.read? s
  | .int i => if h : Text.IsShort i then some (.ofInt i h) else none
  | .double d => Decimal.read? d.text
  | .decimal d => some d
  | _ => none

/-- The amount that a value of a request stands for. -/
def amount? (v : Value) : Option Decimal.Representable := v.written?.filter (·.val.isFinite)

/-- The decimal that a number of another system stands for. -/
def toDecimal (v : Value) : Except Breakdown Decimal.Representable :=
  match v, v.written? with
  | .null, _ => .ok .zero
  | _, some d => .ok d
  | v, none => .error (if v.display?.isSome then .undefinedNumber else .numberTooLong)

end Remit.Value
