import Remit.Decimal.Basic

/-!
# Reading decimals

`Decimal.read?` reads a decimal exactly as written. Blanks around the text and underscores anywhere
in it are dropped first. What is left is a sign, digits with at most one point and an optional power
of ten, or the name of an infinity or of an undefined result. What is read is representable:
exponents beyond the range of decimals (`inRange`) make a text no decimal.
-/

namespace Remit.Decimal

open Remit.Text

/-- An optional power of ten up to the end of the text: nothing, or a letter `e`, a sign and
digits. -/
def readExponent? : List Char → Option Int
  | [] => some 0
  | c :: cs =>
    if c = 'e' ∨ c = 'E' then
      let (negative, cs) := takeSign cs
      match takeDigits cs with
      | ([], _) => none
      | (ds, []) => some (signed negative (ofDigits ds))
      | _ => none
    else none

/-- The digits after a point, if there is one, and the rest. -/
def takeFraction : List Char → List Nat × List Char
  | '.' :: cs => takeDigits cs
  | cs => ([], cs)

/-- A number without its sign, up to the end of the text. -/
def readFinite? (negative : Bool) (cs : List Char) : Option Representable :=
  let (whole, cs) := takeDigits cs
  let (fraction, cs) := takeFraction cs
  if whole.isEmpty && fraction.isEmpty then none
  else do
    let e ← readExponent? cs
    let c := ofDigits (whole ++ fraction)
    let e := e - fraction.length
    if h : inRange c e = true then some ⟨.finite negative c e, h⟩ else none

/-- An undefined result after its name: the digits of its payload up to the end of the text. -/
def readPayload? (negative signaling : Bool) (cs : List Char) : Option Representable :=
  match takeDigits cs with
  | (ds, []) => some ⟨.nan negative signaling (ofDigits ds), trivial⟩
  | _ => none

/-- An infinity or an undefined result without its sign; letter case does not matter. -/
def readNamed? (negative : Bool) (cs : List Char) : Option Representable :=
  match cs.map Char.toLower with
  | ['i', 'n', 'f'] => some ⟨.infinite negative, trivial⟩
  | ['i', 'n', 'f', 'i', 'n', 'i', 't', 'y'] => some ⟨.infinite negative, trivial⟩
  | 'n' :: 'a' :: 'n' :: ds => readPayload? negative false ds
  | 's' :: 'n' :: 'a' :: 'n' :: ds => readPayload? negative true ds
  | _ => none

/-- The decimal that a text stands for. -/
def read? (s : String) : Option Representable :=
  let (negative, cs) := takeSign ((trim s.toList).filter (· != '_'))
  readFinite? negative cs <|> readNamed? negative cs

end Remit.Decimal
