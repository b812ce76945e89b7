import Remit.Double.Basic
import Remit.Decimal.Reader

/-!
# Reading doubles

`Double.read?` reads the double nearest to a decimal numeral. Blanks may stand around it and single
underscores between two of its digits; the digits may be those of any script. Infinities and the
value that is no number are read by name.
-/

namespace Remit.Double

open Remit.Text

/-- A numeral without its sign, up to the end of the text. -/
def readFinite? (negative : Bool) (cs : List Char) : Option Double :=
  let (whole, cs) := takeDigits cs
  let (fraction, cs) := Decimal.takeFraction cs
  if whole.isEmpty && fraction.isEmpty then none
  else do
    let e ← Decimal.readExponent? cs
    some (ofScientific negative (ofDigits (whole ++ fraction)) (e - fraction.length))

/-- An infinity, or no number, by name; letter case does not matter. -/
def readNamed? (negative : Bool) (cs : List Char) : Option Double :=
  match cs.map Char.toLower with
  | ['i', 'n', 'f'] => some (.infinite negative)
  | ['i', 'n', 'f', 'i', 'n', 'i', 't', 'y'] => some (.infinite negative)
  | ['n', 'a', 'n'] => some .nan
  | _ => none

/-- The double that a text stands for. -/
def read? (s : String) : Option Double :=
  let (negative, cs) := takeSign (trimNumeral s)
  readFinite? negative (ungroup cs) <|> readNamed? negative cs

end Remit.Double
