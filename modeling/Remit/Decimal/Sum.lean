import Remit.Decimal.Order
import Remit.Decimal.Rounding

/-!
# Adding decimals

Sums are rounded to `precision` significant digits, a half going to the even neighbour
(`Decimal.sum`). Two operands far apart are not brought to a common exponent in full: an operand
that lies below every digit that rounding looks at counts as one unit just below them (`remainder`),
which rounds the same way.
-/

namespace Remit.Decimal

-- Powers are those of the core library, whatever else is imported.
attribute [local instance (high)] instPowNat

/-- The count of significant digits that a sum keeps. -/
def precision : Nat := 28

/-- The largest exponent of the first digit of a sum. -/
def maxSumExponent : Int := 999999

/-- `c · 10 ^ e` rounded to `precision` digits. -/
def rounded (c : Nat) (e : Int) : Nat × Int :=
  let k := Text.digitCount c - precision
  let q := roundDiv c (10 ^ k)
  if q = 10 ^ precision then (10 ^ (precision - 1), e + k + 1) else (q, e + k)

/-- A rounded sum, or the signal that it is too large. -/
def settle (negative : Bool) (c : Nat) (e : Int) : Except Signal Decimal :=
  let (c, e) := rounded c e
  if c ≠ 0 ∧ maxSumExponent < adjusted c e then .error .overflow
  else .ok (.finite negative c e)

/-- What is added to `c · 10 ^ e` in place of a smaller operand `c' · 10 ^ e'`: the operand itself
or, if it lies below every digit that rounding looks at, one unit of the place under those
digits. -/
def remainder (c : Nat) (e : Int) (c' : Nat) (e' : Int) : Nat × Int :=
  let floor := e + min (-1) ((Text.digitCount c : Int) - precision - 2)
  if adjusted c' e' < floor then (1, floor) else (c', e')

/-- The sum of two finite decimals that are not zero, the first of which has the larger exponent. -/
def addAligned (n : Bool) (c : Nat) (e : Int) (n' : Bool) (c' : Nat) (e' : Int) :
    Except Signal Decimal :=
  let (c', e') := remainder c e c' e'
  let s := Text.signed n (scaled c e (min e e')) + Text.signed n' (scaled c' e' (min e e'))
  settle (s < 0) s.natAbs (min e e')

/-- The rounded sum of two finite decimals. -/
def sumFinite (n : Bool) (c : Nat) (e : Int) (n' : Bool) (c' : Nat) (e' : Int) :
    Except Signal Decimal :=
  if c = 0 ∧ c' = 0 then .ok (.finite (n && n') 0 (min e e'))
  else if c = 0 then settle n' c' e'
  else if c' = 0 then settle n c e
  else if e' ≤ e then addAligned n c e n' c' e'
  else addAligned n' c' e' n c e

/-- The rounded sum of two decimals. An undefined operand makes the sum undefined, a signaling one
is refused, and infinities of opposite sign have no sum. -/
def sum (a b : Decimal) : Except Signal Decimal :=
  if a.isSignaling || b.isSignaling then .error .undefined
  else
    match a, b with
    | .nan n s p, _ => .ok (.nan n s p)
    | _, .nan n s p => .ok (.nan n s p)
    | .infinite n, .infinite n' => if n = n' then .ok (.infinite n) else .error .undefined
    | .infinite n, .finite .. => .ok (.infinite n)
    | .finite .., .infinite n => .ok (.infinite n)
    | .finite n c e, .finite n' c' e' => sumFinite n c e n' c' e'

end Remit.Decimal
