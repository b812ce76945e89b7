import Remit.Decimal.Printer
import Remit.Double.Printer
import Remit.Text.Quoted
import Remit.Value.Basic

/-!
# Values as JSON

`Value.json` writes a value as JSON in ASCII: the members of an object in increasing order of their
names, a decimal as the text of its plain form, a date as text, an account kind as its number, a set
as an array, and a record as the object of its fields. Bytes and the mark of an absent field cannot
be written (`Unwritable`).
-/

namespace Remit

/-- Why a value has no JSON text. -/
inductive Unwritable where
  /-- A value of the named kind cannot be written. -/
  | kind (name : String)
  /-- A whole number has too many digits. -/
  | tooLong
  deriving DecidableEq, Repr

namespace Json

open Remit.Text

/-- A code point as one escape, or as the escapes of two surrogates. -/
def escapePoint (n : Nat) : List Char :=
  if n < 0x10000 then '\\' :: 'u' :: hex 4 n
  else
    '\\' :: 'u' :: hex 4 (0xD800 + (n - 0x10000) / 0x400) ++
      '\\' :: 'u' :: hex 4 (0xDC00 + (n - 0x10000) % 0x400)

/-- A character inside a JSON string. -/
def escapeChar (c : Char) : List Char :=
  if c = '"' then ['\\', '"']
  else if c = '\\' then ['\\', '\\']
  else if c = '\n' then ['\\', 'n']
  else if c = '\r' then ['\\', 'r']
  else if c = '\t' then ['\\', 't']
  else if c = '\x0C' then ['\\', 'f']
  else if c = '\x08' then ['\\', 'b']
  else if 0x20 ≤ c.toNat ∧ c.toNat < 0x7F then [c]
  else escapePoint c.toNat

/-- A text as a JSON string. -/
def string (s : String) : String := String.ofList ('"' :: s.toList.flatMap escapeChar ++ ['"'])

/-- A whole number as JSON. -/
def int (i : Int) : Except Unwritable String :=
  match intText? i with
  | some s => .ok s
  | none => .error .tooLong

/-- A double as JSON. -/
def double : Double → String := Double.textWith ⟨"Infinity", "NaN"⟩

/-- An array of written members. -/
def array (items : List String) : String := "[" ++ ", ".intercalate items ++ "]"

/-- An object of written members, in increasing order of their names; the first of them that cannot
be written decides. -/
def object (members : List (String × Except Unwritable String)) : Except Unwritable String := do
  let members ← (members.mergeSort fun a b => a.1 ≤ b.1).mapM fun m =>
    m.2.map fun v => string m.1 ++ ": " ++ v
  return "\x7b" ++ ", ".intercalate members ++ "\x7d"

end Json

namespace Value

mutual

/-- A value as JSON. -/
def json : Value → Except Unwritable String
  | .null => .ok "null"
  | .bool b => .ok (if b then "true" else "false")
  | .int i => Json.int i
  | .double d => .ok (Json.double d)
  | .text s => .ok (Json.string s)
  | .decimal d => .ok (Json.string d.val.plain)
  | .date d => .ok (Json.string d.iso)
  | .accountType t => Json.int t.number
  | .state s => .ok (Json.string s.name)
  | .transferType t => .ok (Json.string t.name)
  | .bytes _ => .error (.kind "bytes")
  | .unset => .error (.kind "_Unset")
  | .list vs | .set vs => do return Json.array (← jsonItems vs)
  | .object fs | .record _ fs => Json.object (jsonFields fs)

/-- The members of a list as JSON. -/
def jsonItems : List Value → Except Unwritable (List String)
  | [] => .ok []
  | v :: vs => do return (← json v) :: (← jsonItems vs)

/-- The fields of an object, each as JSON. -/
def jsonFields : Fields → List (String × Except Unwritable String)
  | [] => []
  | (k, v) :: fs => (k, json v) :: jsonFields fs

end

end Value

end Remit
