import Remit.Double.Basic
import Remit.Text.Integer
import Remit.Value.Basic

/-!
# Reading JSON

`Json.read?` reads a JSON text as a `Value`. Numbers without a point and an exponent are whole
numbers of any size, all others doubles; the names of the doubles that are not finite are numbers as
well. The last member of a name counts. A byte order mark in front is skipped. Arrays and objects
may be nested to any depth.

Each step of the reader returns what it read and the rest of the text. Arrays and objects are read
with fuel, one unit for each value begun or continued; a text has fewer of those than characters, so
that the fuel of `read?` never runs out.
-/

namespace Remit.Json

/-- Whether a character may stand between two tokens. -/
def isSpace (c : Char) : Bool := c = ' ' || c = '\t' || c = '\n' || c = '\r'

/-- The text after the spaces at its front. -/
def skipSpace (cs : List Char) : List Char := cs.dropWhile isSpace

/-- The text after a word at its front. -/
def expect? (word : List Char) (cs : List Char) : Option (List Char) :=
  if word.isPrefixOf cs then some (cs.drop word.length) else none

/-- The value of a hexadecimal digit. -/
def hexDigit? (c : Char) : Option Nat :=
  if c.isDigit then some (c.toNat - 48)
  else if 'a' ≤ c ∧ c ≤ 'f' then some (c.toNat - 87)
  else if 'A' ≤ c ∧ c ≤ 'F' then some (c.toNat - 55)
  else none

/-- Four hexadecimal digits. -/
def hex4? : List Char → Option (Nat × List Char)
  | a :: b :: c :: d :: cs => do
    let front := (← hexDigit? a) * 16 + (← hexDigit? b)
    let back := (← hexDigit? c) * 16 + (← hexDigit? d)
    some (front * 256 + back, cs)
  | _ => none

/-- The character of an escape of one letter. -/
def letterEscape? : Char → Option Char
  | '"' => some '"'
  | '\\' => some '\\'
  | '/' => some '/'
  | 'b' => some '\x08'
  | 'f' => some '\x0C'
  | 'n' => some '\n'
  | 'r' => some '\r'
  | 't' => some '\t'
  | _ => none

/-- The character after a `\u`: four hexadecimal digits, or two surrogates with the second escaped
too. A surrogate without its partner becomes the replacement character. -/
def escape? (cs : List Char) : Option (Char × List Char) := do
  let (n, cs) ← hex4? cs
  if 0xD800 ≤ n ∧ n < 0xDC00 then
    match cs with
    | '\\' :: 'u' :: rest =>
      match hex4? rest with
      | some (m, rest) =>
        if 0xDC00 ≤ m ∧ m < 0xE000 then
          some (Char.ofNat (0x10000 + (n - 0xD800) * 0x400 + (m - 0xDC00)), rest)
        else some ('\uFFFD', cs)
      | none => some ('\uFFFD', cs)
    | _ => some ('\uFFFD', cs)
  else if 0xDC00 ≤ n ∧ n < 0xE000 then some ('\uFFFD', cs)
  else some (Char.ofNat n, cs)

/-- The characters of a string up to its closing quote, after its opening one. -/
def chars? : Nat → List Char → Option (List Char × List Char)
  | 0, _ => none
  | _, [] => none
  | fuel + 1, c :: cs =>
    if c = '"' then some ([], cs)
    else if c.toNat < 0x20 then none
    else if c = '\\' then
      match cs with
      | [] => none
      | 'u' :: cs => do
        let (c, cs) ← escape? cs
        let (s, cs) ← chars? fuel cs
        some (c :: s, cs)
      | l :: cs => do
        let c ← letterEscape? l
        let (s, cs) ← chars? fuel cs
        some (c :: s, cs)
    else do
      let (s, cs) ← chars? fuel cs
      some (c :: s, cs)

/-- A string after its opening quote. -/
def string? (cs : List Char) : Option (String × List Char) :=
  (chars? (cs.length + 1) cs).map fun r => (String.ofList r.1, r.2)

/-- The digits at the front of a text, and the rest. -/
def digits (cs : List Char) : List Nat × List Char :=
  ((cs.takeWhile Char.isDigit).map fun c => c.toNat - 48, cs.dropWhile Char.isDigit)

/-- A point and the digits after it, if there are any; otherwise nothing is taken. -/
def fraction (cs : List Char) : List Nat × List Char :=
  match cs with
  | '.' :: rest => if (digits rest).1.isEmpty then ([], cs) else digits rest
  | _ => ([], cs)

/-- A power of ten, if there is one; otherwise nothing is taken. -/
def exponent (cs : List Char) : Option Int × List Char :=
  match cs with
  | c :: rest =>
    if c = 'e' ∨ c = 'E' then
      let (negative, rest) := Text.takeSign rest
      let (ds, rest) := digits rest
      if ds.isEmpty then (none, cs) else (some (Text.signed negative (Text.ofDigits ds)), rest)
    else (none, cs)
  | [] => (none, cs)

/-- A number after its sign. -/
def number? (negative : Bool) (cs : List Char) : Option (Value × List Char) :=
  let (whole, cs) := match cs with
    | '0' :: cs => ([0], cs)
    | cs => digits cs
  if whole.isEmpty then none
  else
    let (fractional, cs) := fraction cs
    let (e, cs) := exponent cs
    match fractional, e with
    | [], none => some (.int (Text.signed negative (Text.ofDigits whole)), cs)
    | _, _ =>
      some (.double (.ofScientific negative (Text.ofDigits (whole ++ fractional))
        (e.getD 0 - fractional.length)), cs)

/-- A value that is neither an array nor an object. -/
def scalar? (cs : List Char) : Option (Value × List Char) :=
  match cs with
  | '"' :: cs => (string? cs).map fun r => (.text r.1, r.2)
  | '-' :: 'I' :: cs => (expect? "nfinity".toList cs).map (.double (.infinite true), ·)
  | '-' :: cs => number? true cs
  | 'I' :: cs => (expect? "nfinity".toList cs).map (.double (.infinite false), ·)
  | 'N' :: cs => (expect? "aN".toList cs).map (.double .nan, ·)
  | 'n' :: cs => (expect? "ull".toList cs).map (.null, ·)
  | 't' :: cs => (expect? "rue".toList cs).map (.bool true, ·)
  | 'f' :: cs => (expect? "alse".toList cs).map (.bool false, ·)
  | cs => number? false cs

mutual

/-- A value at the front of a text. -/
def value? : Nat → List Char → Option (Value × List Char)
  | 0, _ => none
  | fuel + 1, cs =>
    match cs with
    | '[' :: cs =>
      match skipSpace cs with
      | ']' :: cs => some (.list [], cs)
      | cs => (items? fuel cs).map fun r => (.list r.1, r.2)
    | '\x7b' :: cs =>
      match skipSpace cs with
      | '\x7d' :: cs => some (.object [], cs)
      | cs => (members? fuel [] cs).map fun r => (.object r.1, r.2)
    | cs => scalar? cs

/-- The members of an array, at least one, up to its closing bracket. -/
def items? : Nat → List Char → Option (List Value × List Char)
  | 0, _ => none
  | fuel + 1, cs => do
    let (v, cs) ← value? fuel cs
    match skipSpace cs with
    | ']' :: cs => some ([v], cs)
    | ',' :: cs =>
      let (vs, cs) ← items? fuel (skipSpace cs)
      some (v :: vs, cs)
    | _ => none

/-- The members of an object, at least one, up to its closing brace, added to those read before. -/
def members? : Nat → Fields → List Char → Option (Fields × List Char)
  | 0, _, _ => none
  | fuel + 1, fs, cs =>
    match cs with
    | '"' :: cs => do
      let (k, cs) ← string? cs
      match skipSpace cs with
      | ':' :: cs =>
        let (v, cs) ← value? fuel (skipSpace cs)
        match skipSpace cs with
        | '\x7d' :: cs => some (fs.put k v, cs)
        | ',' :: cs => members? fuel (fs.put k v) (skipSpace cs)
        | _ => none
      | _ => none
    | _ => none

end

/-- A text without a byte order mark in front. -/
def skipMark : List Char → List Char
  | '\uFEFF' :: cs => cs
  | cs => cs

/-- The value that a JSON text stands for. -/
def read? (s : String) : Option Value :=
  let cs := skipMark s.toList
  match value? (2 * cs.length + 2) (skipSpace cs) with
  | some (v, cs) => if (skipSpace cs).isEmpty then some v else none
  | none => none

end Remit.Json
