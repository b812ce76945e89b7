import Remit.Text.Integer

/-!
# Business dates

A `Date` is a day of the calendar. It is exchanged as year, month and day with dashes (`Date.iso`,
`Date.ofIso?`) and shown to the execution subsystem in words (`Date.inWords`).
-/

namespace Remit

/-- The months of the year. -/
inductive Month where
  | january | february | march | april | may | june
  | july | august | september | october | november | december
  deriving DecidableEq, Repr, Inhabited

namespace Month

/-- The months in order. -/
def all : List Month :=
  [january, february, march, april, may, june, july, august, september, october, november, december]

/-- The English name of a month. -/
def name : Month → String
  | january => "January"
  | february => "February"
  | march => "March"
  | april => "April"
  | may => "May"
  | june => "June"
  | july => "July"
  | august => "August"
  | september => "September"
  | october => "October"
  | november => "November"
  | december => "December"

/-- The number of a month, from one to twelve. -/
def number : Month → Nat
  | january => 1
  | february => 2
  | march => 3
  | april => 4
  | may => 5
  | june => 6
  | july => 7
  | august => 8
  | september => 9
  | october => 10
  | november => 11
  | december => 12

/-- The month of a number. -/
def ofNumber? (n : Nat) : Option Month := all.find? fun m => m.number == n

end Month

/-- A day of the calendar. -/
structure Date where
  year : Nat
  month : Month
  day : Nat
  deriving DecidableEq, Repr, Inhabited

namespace Date

/-- A number with zeros in front up to `width` digits. -/
def padded (width n : Nat) : String :=
  let ds := Nat.toDigits 10 n
  String.ofList (List.replicate (width - ds.length) '0' ++ ds)

/-- The date with dashes between year, month and day. -/
def iso (d : Date) : String :=
  padded 4 d.year ++ "-" ++ padded 2 d.month.number ++ "-" ++ padded 2 d.day

/-- The date without separators, as it stands in a file name. -/
def stamp (d : Date) : String :=
  padded 4 d.year ++ padded 2 d.month.number ++ padded 2 d.day

/-- The date in words: the day, the name of the month and the year, with no zeros in front. -/
def inWords (d : Date) : String := s!"{d.day} {d.month.name} {d.year}"

/-- A number of exactly `width` digits. -/
def readNumber? (width : Nat) (cs : List Char) : Option Nat :=
  if cs.length = width && cs.all Char.isDigit then
    some (Text.ofDigits (cs.map fun c => c.toNat - 48))
  else none

/-- The date that a text with dashes stands for. -/
def ofIso? (s : String) : Option Date := do
  let cs := s.toList
  let year ← readNumber? 4 (cs.take 4)
  let month ← readNumber? 2 ((cs.drop 5).take 2)
  let day ← readNumber? 2 (cs.drop 8)
  let month ← Month.ofNumber? month
  if cs[4]? = some '-' ∧ cs[7]? = some '-' then some ⟨year, month, day⟩ else none

end Date

end Remit
