import Remit.Decimal.Basic

/-!
# Printing decimals

Two printed forms. The scientific form (`Decimal.scientific`) shows coefficient and exponent: it
writes a power of ten when the exponent is positive or the first digit stands more than six places
behind the point, so it tells apart any two decimals. The plain form (`Decimal.plain`) never writes
a power of ten, and keeps the zeros at the end of the coefficient.
-/

namespace Remit.Decimal

/-- The digits of a number, at least one. -/
def digits (n : Nat) : List Char := Nat.toDigits 10 n

/-- Digits with a point before the last `k` of them; zeros are put in front so that a digit stands
before the point. -/
def pointed (ds : List Char) (k : Nat) : List Char :=
  if k = 0 then ds
  else
    let ds := List.replicate (k + 1 - ds.length) '0' ++ ds
    ds.take (ds.length - k) ++ '.' :: ds.drop (ds.length - k)

/-- A digit, and the others after a point if there are any. -/
def mantissa : List Char → List Char
  | d :: d' :: ds => d :: '.' :: d' :: ds
  | ds => ds

/-- A power of ten with its sign. -/
def power (e : Int) : List Char :=
  'E' :: (if e < 0 then '-' else '+') :: digits e.natAbs

/-- The minus sign of a negative decimal. -/
def minus (negative : Bool) : List Char := if negative then ['-'] else []

/-- The names of the infinities and of the undefined results. -/
def named : Decimal → List Char
  | .finite .. => []
  | .infinite _ => "Infinity".toList
  | .nan _ signaling payload =>
    (if signaling then "sNaN" else "NaN").toList ++ (if payload = 0 then [] else digits payload)

/-- Whether the scientific form of `c · 10 ^ e` writes no power of ten. -/
def isPositional (c : Nat) (e : Int) : Bool := e ≤ 0 && -6 ≤ adjusted c e

/-- The characters of the scientific form. -/
def scientificChars : Decimal → List Char
  | .finite n c e =>
    minus n ++
      if isPositional c e then pointed (digits c) (-e).toNat
      else mantissa (digits c) ++ power (adjusted c e)
  | d@(.infinite n) => minus n ++ named d
  | d@(.nan n _ _) => minus n ++ named d

/-- The scientific form of a decimal. -/
def scientific (d : Decimal) : String := String.ofList d.scientificChars

/-- The characters of the plain form. -/
def plainChars : Decimal → List Char
  | .finite n c e =>
    minus n ++
      if e ≤ 0 then pointed (digits c) (-e).toNat
      else if c = 0 then ['0']
      else digits c ++ List.replicate e.toNat '0'
  | d@(.infinite n) => minus n ++ named d
  | d@(.nan n _ _) => minus n ++ named d

/-- The plain form of a decimal. -/
def plain (d : Decimal) : String := String.ofList d.plainChars

end Remit.Decimal
