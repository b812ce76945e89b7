import Remit.Text.Blank
import Remit.Text.Digit

/-!
# Whole numbers as text

A whole number is written as an optional sign and digits of any script, with single underscores
allowed between two digits and blanks allowed around it (`readInt?`). Two limits are shared by
reading and writing: a number of more than `maxDigits` digits (`IsShort`) has no text (`intText?`)
and no text of more digits is read.
-/

namespace Remit.Text

/-- The largest count of digits that a whole number may have in a text. -/
def maxDigits : Nat := 4300

/-- The count of decimal digits of a number; zero has one digit. -/
def digitCount (n : Nat) : Nat := (Nat.toDigits 10 n).length

/-- A whole number is short enough to be written and read. -/
def IsShort (i : Int) : Prop := digitCount i.natAbs ≤ maxDigits

instance (i : Int) : Decidable (IsShort i) :=
  inferInstanceAs (Decidable (digitCount i.natAbs ≤ maxDigits))

/-- The text of a whole number, `none` if it is not short. -/
def intText? (i : Int) : Option String := if IsShort i then some (toString i) else none

/-- An optional sign: whether it is a minus, and the rest. -/
def takeSign : List Char → Bool × List Char
  | '-' :: cs => (true, cs)
  | '+' :: cs => (false, cs)
  | cs => (false, cs)

/-- The values of the digits at the front of a text, and the rest. -/
def takeDigits : List Char → List Nat × List Char
  | [] => ([], [])
  | c :: cs =>
    match digitValue? c with
    | some d => ((takeDigits cs).map (d :: ·) id)
    | none => ([], c :: cs)

/-- A numeral without the single underscores that stand between two of its digits. -/
def ungroup : List Char → List Char
  | a :: '_' :: b :: cs =>
    if isDigit a && isDigit b then a :: ungroup (b :: cs) else a :: ungroup ('_' :: b :: cs)
  | a :: cs => a :: ungroup cs
  | [] => []

/-- The characters of a numeral without the blanks around it. The information separators are no
blanks here. -/
def trimNumeral (s : String) : List Char :=
  trimBy (fun c => isBlank c && !isSeparator c) s.toList

/-- The sign of a number applied to its magnitude. -/
def signed (negative : Bool) (n : Nat) : Int := if negative then -(n : Int) else n

/-- The whole number that a text stands for. -/
def readInt? (s : String) : Option Int :=
  let (negative, cs) := takeSign (trimNumeral s)
  match takeDigits (ungroup cs) with
  | (ds, []) =>
    if ds.isEmpty || maxDigits < ds.length then none else some (signed negative (ofDigits ds))
  | _ => none

end Remit.Text
