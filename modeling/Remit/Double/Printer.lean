import Remit.Double.Basic
import Remit.Decimal.Printer

/-!
# The shortest text of a double

A double is printed with the fewest digits that read back as the same double, and among those with
the digits nearest to it (`Double.shortest`). On the grid of decimals with a given count of digits
only the two neighbours of the double need a test, since every decimal that reads back lies around
it. `Double.text` places the point: positionally while the first digit stands for a power of ten
from `-4` to `15`, and with a power of ten otherwise.
-/

namespace Remit.Double

-- Powers are those of the core library, whatever else is imported.
attribute [local instance (high)] instPowNat

/-- The power of ten of the first digit of the positive fraction `num / den`. -/
def firstPlace (num den : Nat) : Int :=
  if den ≤ num then Text.digitCount (num / den) - 1
  else
    let k := Text.digitCount den - Text.digitCount num
    if den ≤ num * 10 ^ k then -(k : Int) else -(k : Int) - 1

/-- The neighbours of `num / den` on the grid of multiples of `10 ^ e`, nearer one first; a tie puts
the even one first. -/
def neighbours (num den : Nat) (e : Int) : List Nat :=
  let n := num * 10 ^ (-e).toNat
  let d := den * 10 ^ e.toNat
  let q := n / d
  if roundDiv n d = q then [q, q + 1] else [q + 1, q]

/-- The decimals of `k` digits next to a positive double that read back as it, nearer one first. -/
def candidates (m : Nat) (q : Int) (k : Nat) : List (Nat × Int) :=
  let num := m * 2 ^ q.toNat
  let den := 2 ^ (-q).toNat
  let e := firstPlace num den - k + 1
  ((neighbours num den e).filter fun c => ofScientific false c e == .finite false m q).map (·, e)

/-- The digits and the exponent of the shortest decimal that reads back as the positive double `m ·
2 ^ q`. Seventeen digits always suffice. -/
def shortest (m : Nat) (q : Int) : Nat × Int :=
  ((List.range 17).findSome? fun k => (candidates m q (k + 1)).head?).getD (m, 0)

/-- The digits of a number without the zeros at its end. -/
def significant (c : Nat) : List Char :=
  ((Decimal.digits c).reverse.dropWhile (· == '0')).reverse

/-- A positive decimal with its digits and the power of ten of the first of them, positionally and
with at least one digit after the point. -/
def positional (ds : List Char) (place : Int) : List Char :=
  if place < 0 then '0' :: '.' :: (List.replicate (-place - 1).toNat '0' ++ ds)
  else
    let k := place.toNat + 1
    let ds := ds ++ List.replicate (k - ds.length) '0'
    ds.take k ++ '.' :: (if ds.length ≤ k then ['0'] else ds.drop k)

/-- A power of ten with its sign and at least two digits. -/
def exponentText (place : Int) : List Char :=
  let ds := Decimal.digits place.natAbs
  'e' :: (if place < 0 then '-' else '+') :: (List.replicate (2 - ds.length) '0' ++ ds)

/-- The text of a positive decimal `c · 10 ^ e`. -/
def decimalText (c : Nat) (e : Int) : List Char :=
  let place := Decimal.adjusted c e
  let ds := significant c
  if -4 ≤ place ∧ place < 16 then positional ds place
  else Decimal.mantissa ds ++ exponentText place

/-- The names of the doubles that are not finite. -/
structure Names where
  /-- The infinities, without a sign. -/
  infinity : String
  /-- No number. -/
  nan : String

/-- The text of a double, for a choice of names. -/
def textWith (names : Names) : Double → String
  | .nan => names.nan
  | .infinite n => String.ofList (Decimal.minus n) ++ names.infinity
  | .finite n m q =>
    let (c, e) := shortest m q
    String.ofList (Decimal.minus n ++ if m = 0 then ['0', '.', '0'] else decimalText c e)

/-- The text of a double. -/
def text : Double → String := textWith ⟨"inf", "nan"⟩

/-! ## A fixed count of digits -/

/-- The text of a double with at most fifteen significant digits and at least one place. A power of
ten is written from the fifteenth place before the point on and from the fifth after it. -/
def fifteenDigits : Double → String
  | .nan => ""
  | .infinite n => String.ofList (Decimal.minus n) ++ "Inf"
  | .finite n m q =>
    let num := m * 2 ^ q.toNat
    let den := 2 ^ (-q).toNat
    let e := firstPlace num den - 14
    let c := roundDiv (num * 10 ^ (-e).toNat) (den * 10 ^ e.toNat)
    let place := Decimal.adjusted c e
    let ds := significant c
    String.ofList (Decimal.minus n ++
      if m = 0 then ['0', '.', '0']
      else if -4 ≤ place ∧ place ≤ 14 then positional ds place
      else
        (match ds with
          | [d] => [d, '.', '0']
          | _ => Decimal.mantissa ds) ++ exponentText place)

end Remit.Double
