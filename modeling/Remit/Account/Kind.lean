/-!
# Kinds of accounts

An account is a loan or a savings account. Each kind has a number, under which it is stored and
requested, a code for messages, and a display name.
-/

namespace Remit

/-- The kind of an account. -/
inductive AccountType where
  | loan
  | savings
  deriving DecidableEq, Repr, Inhabited

namespace AccountType

/-- The kinds in the order of their numbers. -/
def all : List AccountType := [loan, savings]

/-- The number of a kind. -/
def number : AccountType → Int
  | loan => 1
  | savings => 2

/-- The kind of a number. -/
def ofNumber? (n : Int) : Option AccountType := all.find? fun t => t.number == n

/-- The name of a kind in lower case. -/
def label : AccountType → String
  | loan => "loan"
  | savings => "savings"

/-- The code of a kind in messages. -/
def code (t : AccountType) : String := "accountType." ++ t.label

/-- The name of a kind for display. -/
def display : AccountType → String
  | loan => "Loan"
  | savings => "Savings"

/-- A kind is found by its number … -/
@[simp] theorem ofNumber?_number (t : AccountType) : ofNumber? t.number = some t := by
  cases t <;> rfl

/-- … and by no other. -/
theorem ofNumber?_eq_some_iff {n : Int} {t : AccountType} :
    ofNumber? n = some t ↔ t.number = n := by
  constructor
  · intro h
    simpa using List.find?_some h
  · rintro rfl
    exact ofNumber?_number t

end AccountType

end Remit
