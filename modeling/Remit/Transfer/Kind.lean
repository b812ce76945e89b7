import Remit.Text.Blank

/-!
# Kinds of transfers

A transfer goes to the user's own account or to a third party. A request names the kind in words;
everything that does not name a third party means the own account.
-/

namespace Remit

/-- The path of a transfer. -/
inductive TransferType where
  /-- Between the user's own accounts. -/
  | self
  /-- To a third party. -/
  | tpt
  deriving DecidableEq, Repr, Inhabited

namespace TransferType

/-- The name of a kind. -/
def name : TransferType → String
  | self => "self"
  | tpt => "tpt"

/-- All kinds. -/
def all : List TransferType := [self, tpt]

/-- The kind of a name. -/
def ofName? (s : String) : Option TransferType := all.find? (·.name == s)

/-- The kind that a text names, up to letter case and the blanks around it. -/
def ofText (s : String) : TransferType :=
  if (Text.trim s.toList).map Char.toLower = ['t', 'p', 't'] then tpt else self

end TransferType

end Remit
