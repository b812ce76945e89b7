import Remit.Account.Kind
import Remit.Beneficiary.State
import Remit.Date
import Remit.Double.Basic
import Remit.Transfer.Kind

/-!
# Values

What a request, a stored cell or a decoded answer may hold before anything is known about it. A
`Value` is a scalar, a collection, or a record of named fields; numbers come as whole numbers,
doubles and decimals, and are compared by what they stand for (`Value.number?`).
-/

namespace Remit

/-- A value of any kind. -/
inductive Value where
  | null
  | bool (b : Bool)
  | int (i : Int)
  | double (d : Double)
  | text (s : String)
  | decimal (d : Decimal.Representable)
  | date (d : Date)
  | bytes (b : List UInt8)
  | accountType (t : AccountType)
  | state (s : BeneficiaryState)
  | transferType (t : TransferType)
  /-- Marks a field that a request leaves alone. -/
  | unset
  | list (items : List Value)
  /-- Distinct values in the order in which they are listed. -/
  | set (items : List Value)
  | object (fields : List (String × Value))
  /-- The fields of a named type, in their order of declaration. -/
  | record (type : String) (fields : List (String × Value))
  deriving Inhabited

/-- Named values; the first entry of a name counts. -/
abbrev Fields := List (String × Value)

namespace Fields

/-- The value of a name, null if there is none. -/
def get (fs : Fields) (name : String) : Value := (fs.lookup name).getD .null

/-- Whether a name has a value. -/
def has (fs : Fields) (name : String) : Bool := (fs.lookup name).isSome

/-- Gives a name a value. A name that has one already keeps its place. -/
def put (fs : Fields) (name : String) (v : Value) : Fields :=
  match fs with
  | [] => [(name, v)]
  | (k, w) :: fs => if k = name then (k, v) :: fs else (k, w) :: put fs name v

/-- The fields in increasing order of their names. -/
def sorted (fs : Fields) : Fields := fs.mergeSort fun a b => a.1 ≤ b.1

end Fields

namespace Value

/-- The number that a value counts as: truth values count as one and zero, account kinds as their
numbers. -/
def number? : Value → Option Decimal
  | .bool b => some (.ofInt (if b then 1 else 0))
  | .int i => some (.ofInt i)
  | .double d => some d.toDecimal
  | .decimal d => some d
  | .accountType t => some (.ofInt t.number)
  | _ => none

/-- The text of a value that is one. -/
def text? : Value → Option String
  | .text s => some s
  | .state s => some s.name
  | .transferType t => some t.name
  | _ => none

/-- Whether a value counts as true: it is not null, false, zero or empty. -/
def isTruthy : Value → Bool
  | .null | .unset => false
  | .bool b => b
  | .int i => i != 0
  | .double d => !d.isZero
  | .text s => s != ""
  | .decimal ⟨.finite _ c _, _⟩ => c != 0
  | .decimal _ | .date _ | .accountType _ | .state _ | .transferType _ | .record .. => true
  | .bytes b => !b.isEmpty
  | .list vs | .set vs => !vs.isEmpty
  | .object fs => !fs.isEmpty

/-- The value of an optional whole number. -/
def ofInt? : Option Int → Value
  | some i => .int i
  | none => .null

/-- The value of an optional text. -/
def ofText? : Option String → Value
  | some s => .text s
  | none => .null

/-- Whether a value is null. -/
def isNull : Value → Bool
  | .null => true
  | _ => false

end Value

end Remit
