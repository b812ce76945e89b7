import Remit.Decimal.Printer
import Remit.Double.Printer
import Remit.Text.Quoted
import Remit.Value.Basic

/-!
# Values in messages

How a value reads inside a message. A text stands for itself (`Value.display?`), but inside a
collection it is quoted (`Value.quoted?`). A value that holds a whole number of more digits than a
text may have has no text at all.
-/

namespace Remit.Value

open Remit.Text

/-- Texts with a separator between them and a text on either side. -/
def enclosed (left right : String) (items : List String) : String :=
  left ++ ", ".intercalate items ++ right

/-- A byte as it stands in a row of bytes. -/
def quoteByte (b : UInt8) : List Char :=
  if 0x20 ≤ b.toNat ∧ b.toNat < 0x7F then quoteChar '\'' (Char.ofNat b.toNat)
  else if b = 9 ∨ b = 10 ∨ b = 13 then quoteChar '\'' (Char.ofNat b.toNat)
  else '\\' :: 'x' :: hex 2 b.toNat

mutual

/-- A value as a member of a list. -/
def quoted? : Value → Option String
  | .null => some "None"
  | .bool b => some (if b then "True" else "False")
  | .int i => intText? i
  | .double d => some d.text
  | .text s => some (quote s)
  | .decimal d => some ("Decimal(" ++ quote d.val.scientific ++ ")")
  | .date d => some (enclosed "datetime.date(" ")"
      [toString d.year, toString d.month.number, toString d.day])
  | .bytes b => some ("b'" ++ String.ofList (b.flatMap quoteByte) ++ "'")
  | .accountType t => some s!"<AccountType.{t.label.toUpper}: {t.number}>"
  | .state s => some ("<BeneficiaryState." ++ s.name ++ ": " ++ quote s.name ++ ">")
  | .transferType t => some ("<TransferType." ++ t.name.toUpper ++ ": " ++ quote t.name ++ ">")
  | .unset => some "UNSET"
  | .list vs => (quotedItems? vs).map (enclosed "[" "]")
  | .set vs => (quotedItems? vs).map fun items =>
      if items.isEmpty then "frozenset()" else enclosed "frozenset(\x7b" "\x7d)" items
  | .object fs => (quotedFields? (fun k => quote k ++ ": ") fs).map (enclosed "\x7b" "\x7d")
  | .record type fs => (quotedFields? (· ++ "=") fs).map (enclosed (type ++ "(") ")")

/-- The members of a list. -/
def quotedItems? : List Value → Option (List String)
  | [] => some []
  | v :: vs => do some ((← quoted? v) :: (← quotedItems? vs))

/-- The fields of an object or a record, each after its name. -/
def quotedFields? (name : String → String) : Fields → Option (List String)
  | [] => some []
  | (k, v) :: fs => do some ((name k ++ (← quoted? v)) :: (← quotedFields? name fs))

end

/-- A value on its own in a message. -/
def display? : Value → Option String
  | .text s => some s
  | .decimal d => some d.val.scientific
  | .date d => some d.iso
  | .accountType t => some ("AccountType." ++ t.label.toUpper)
  | .state s => some ("BeneficiaryState." ++ s.name)
  | .transferType t => some ("TransferType." ++ t.name.toUpper)
  | v => v.quoted?

end Remit.Value
