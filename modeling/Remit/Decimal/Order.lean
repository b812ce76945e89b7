import Remit.Decimal.Basic

/-!
# Comparing decimals

Decimals are compared by value, exactly (`Decimal.compare?`). The first digits decide unless they
stand at the same power of ten; then the coefficients are compared in a common unit, so that no
power of ten larger than the written digits is ever formed. An undefined result has no place in the
order, and a signaling one may not even be tested for equality (`Decimal.equal?`).
-/

namespace Remit.Decimal

-- Powers are those of the core library, whatever else is imported.
attribute [local instance (high)] instPowNat

/-- Compares `c · 10 ^ e` with `c' · 10 ^ e'`. -/
def compareMagnitude (c : Nat) (e : Int) (c' : Nat) (e' : Int) : Ordering :=
  if c = 0 ∨ c' = 0 then compare c c'
  else
    match compare (adjusted c e) (adjusted c' e') with
    | .eq => compare (scaled c e (min e e')) (scaled c' e' (min e e'))
    | o => o

/-- Compares two finite decimals by sign, then by magnitude. Zeros of either sign are equal. -/
def compareFinite (n : Bool) (c : Nat) (e : Int) (n' : Bool) (c' : Nat) (e' : Int) : Ordering :=
  if c = 0 ∧ c' = 0 then .eq
  else
    match n && c != 0, n' && c' != 0 with
    | false, true => .gt
    | true, false => .lt
    | false, false => compareMagnitude c e c' e'
    | true, true => compareMagnitude c' e' c e

/-- The sign of an infinity as an order against every finite decimal. -/
def infiniteOrder (negative : Bool) : Ordering := if negative then .lt else .gt

/-- Compares two decimals by value; undefined results are not ordered. -/
def compare? : Decimal → Decimal → Option Ordering
  | .finite n c e, .finite n' c' e' => some (compareFinite n c e n' c' e')
  | .infinite n, .finite .. => some (infiniteOrder n)
  | .finite .., .infinite n => some (infiniteOrder n).swap
  | .infinite n, .infinite n' =>
    some (if n = n' then .eq else infiniteOrder n)
  | .nan .., _ | _, .nan .. => none

/-- `a < b`, or the signal that one of them is undefined. -/
def lt? (a b : Decimal) : Except Signal Bool :=
  match compare? a b with
  | some o => .ok (o == .lt)
  | none => .error .undefined

/-- `a ≤ b`, or the signal that one of them is undefined. -/
def le? (a b : Decimal) : Except Signal Bool :=
  match compare? a b with
  | some o => .ok (o != .gt)
  | none => .error .undefined

/-- Whether a decimal is a signaling undefined result. -/
def isSignaling : Decimal → Bool
  | .nan _ signaling _ => signaling
  | _ => false

/-- Whether two decimals have one value; an undefined result equals nothing. -/
def equal? (a b : Decimal) : Except Signal Bool :=
  if a.isSignaling || b.isSignaling then .error .undefined
  else .ok (compare? a b == some .eq)

/-- Whether a decimal is a whole number. -/
def isWhole : Decimal → Bool
  | .finite _ c e => 0 ≤ e || c = 0 || (-e < Text.digitCount c && c % 10 ^ (-e).toNat == 0)
  | _ => false

/-- The whole number that a finite decimal is, rounded toward zero. -/
def truncate : Decimal → Int
  | .finite n c e =>
    Text.signed n
      (if 0 ≤ e then c * 10 ^ e.toNat
        else if -e < Text.digitCount c then c / 10 ^ (-e).toNat else 0)
  | _ => 0

end Remit.Decimal
