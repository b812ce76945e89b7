import Remit.Decimal.Order
import Remit.Decimal.Rounding

/-!
# Double-precision numbers

A `Double` is a double-precision number taken apart: a sign, a significand below `2 ^ 53` and a
power of two, an infinity, or no number. `Double.nearest` finds the double nearest to a fraction, a
tie going to the even significand, in exact arithmetic. Every finite double is a decimal
(`Double.toDecimal`), so that doubles are compared as decimals are.
-/

namespace Remit

-- Powers are those of the core library, whatever else is imported.
attribute [local instance (high)] instPowNat

/-- A double-precision number. -/
inductive Double where
  /-- The number `± significand · 2 ^ exponent`. -/
  | finite (negative : Bool) (significand : Nat) (exponent : Int)
  /-- An infinity. -/
  | infinite (negative : Bool)
  /-- No number. -/
  | nan
  deriving DecidableEq, Repr, Inhabited

namespace Double

/-- The exponent of the smallest double. -/
def minExponent : Int := -1074

/-- The largest exponent of a double. -/
def maxExponent : Int := 971

/-- The count of binary digits of a significand. -/
def width : Nat := 53

/-- Zero with a sign. -/
def zero (negative : Bool) : Double := .finite negative 0 minExponent

/-- The fraction `num / den` in units of `2 ^ e`, as a fraction. -/
def inUnits (num den : Nat) (e : Int) : Nat × Nat := (num * 2 ^ (-e).toNat, den * 2 ^ e.toNat)

/-- The exponent of the last binary digit that a double near `num / den` keeps. -/
def unitExponent (num den : Nat) : Int :=
  let e : Int := (Nat.log2 num : Int) - Nat.log2 den - width
  let (n, d) := inUnits num den e
  max minExponent (if n / d < 2 ^ width then e else e + 1)

/-- The double nearest to the fraction `num / den`, with a sign. -/
def nearest (negative : Bool) (num den : Nat) : Double :=
  if num = 0 then zero negative
  else
    let e := unitExponent num den
    let (n, d) := inUnits num den e
    let q := roundDiv n d
    let (q, e) := if q = 2 ^ width then (2 ^ (width - 1), e + 1) else (q, e)
    if maxExponent < e then .infinite negative else .finite negative q e

/-- The double nearest to `± c · 10 ^ e`. Powers of ten far outside the range of doubles are not
formed. -/
def ofScientific (negative : Bool) (c : Nat) (e : Int) : Double :=
  if c = 0 then zero negative
  else if 310 < Decimal.adjusted c e then .infinite negative
  else if Decimal.adjusted c e < -330 then zero negative
  else nearest negative (c * 10 ^ e.toNat) (10 ^ (-e).toNat)

/-- The double as a decimal, exactly. -/
def toDecimal : Double → Decimal
  | .finite n m e =>
    if 0 ≤ e then .finite n (m * 2 ^ e.toNat) 0 else .finite n (m * 5 ^ (-e).toNat) e
  | .infinite n => .infinite n
  | .nan => .nan false false 0

/-- Whether a double is zero, of either sign. -/
def isZero : Double → Bool
  | .finite _ m _ => m == 0
  | _ => false

/-- The double nearest to a whole number. -/
def ofInt (i : Int) : Double := nearest (i < 0) i.natAbs 1

end Double

end Remit
