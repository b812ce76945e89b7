import Remit.Value.Text

/-!
# Templates with placeholders

A template is a text with placeholders that values are put into. A placeholder starts with a percent
sign and ends with a letter that says how its value is written; a name in parentheses, the
alignment, a width and a precision may stand between them (`Placeholder.read?`). Two percent signs
stand for one. Values are given by name or in their order (`Template.fillNamed?`, `Template.fill?`),
and a template that does not fit its values has no text.
-/

namespace Remit.Log

-- Powers are those of the core library, whatever else is imported.
attribute [local instance (high)] instPowNat

/-- How a value is put into a template. -/
structure Placeholder where
  /-- The name of the value, if values are given by name. -/
  name : Option String := none
  /-- The marks for alignment and sign. -/
  marks : List Char := []
  width : Nat := 0
  precision : Option Nat := none
  /-- The letter that says how the value is written. -/
  kind : Char
  deriving DecidableEq, Repr

/-- A part of a template. -/
inductive Piece where
  | literal (c : Char)
  | placeholder (p : Placeholder)
  deriving DecidableEq, Repr

/-- A text with placeholders. -/
abbrev Template := List Piece

namespace Placeholder

/-- Whether a character is a mark for alignment or sign. -/
def isMark (c : Char) : Bool := ['#', '0', '-', ' ', '+'].contains c

/-- The characters of a name in parentheses, without them. -/
def readName : List Char → Option (List Char)
  | '(' :: cs => if cs.contains ')' then some (cs.takeWhile (· != ')')) else none
  | _ => none

/-- The number at the front of a text. -/
def readNumber (cs : List Char) : List Char × Nat :=
  let ds := cs.takeWhile Char.isDigit
  (ds, Text.ofDigits (ds.map fun c => c.toNat - 48))

/-- Reads what follows the percent sign of a placeholder, and counts its characters. -/
def read? (cs : List Char) : Option (Placeholder × Nat) := do
  let name := readName cs
  let size := (name.map (·.length + 2)).getD 0
  let marks := (cs.drop size).takeWhile isMark
  let size := size + marks.length
  let (ds, width) := readNumber (cs.drop size)
  let size := size + ds.length
  let (size, precision) := match cs.drop size with
    | '.' :: rest =>
      let (ds, n) := readNumber rest
      (size + 1 + ds.length, some n)
    | _ => (size, none)
  let kind ← cs[size]?
  return ({ name := name.map String.ofList, marks, width, precision, kind }, size + 1)

/-- A text of at least `width` characters: what stands in front, the blanks or zeros, and the
text. -/
def pad (p : Placeholder) (front text : List Char) (zeros : Bool) : String :=
  let gap := p.width - (front.length + text.length)
  String.ofList <|
    if p.marks.contains '-' then front ++ text ++ List.replicate gap ' '
    else if zeros && p.marks.contains '0' then front ++ List.replicate gap '0' ++ text
    else List.replicate gap ' ' ++ front ++ text

/-- A text, cut to the precision. -/
def writeText (p : Placeholder) (s : String) : String :=
  p.pad [] ((p.precision.map fun n => s.toList.take n).getD s.toList) false

/-- The sign of a number. -/
def sign (p : Placeholder) (negative : Bool) : List Char :=
  if negative then ['-']
  else if p.marks.contains '+' then ['+']
  else if p.marks.contains ' ' then [' ']
  else []

/-- A whole number in a base, with at least as many digits as the precision asks for. -/
def writeNumber (p : Placeholder) (base : Nat) (lead : List Char) (i : Int) : String :=
  let ds := Nat.toDigits base i.natAbs
  let ds := List.replicate (p.precision.getD 0 - ds.length) '0' ++ ds
  let lead := if p.marks.contains '#' then lead else []
  p.pad (p.sign (i < 0) ++ lead) ds true

/-- A finite number with a fixed count of digits after the point, rounded to the nearest. -/
def writeFixed (p : Placeholder) (d : Decimal) : Option String :=
  match d with
  | .finite negative c e =>
    let places := p.precision.getD 6
    let e := e + places
    let n := if 0 ≤ e then c * 10 ^ e.toNat else roundDiv c (10 ^ (-e).toNat)
    let ds := Nat.toDigits 10 n
    let ds := List.replicate (places + 1 - ds.length) '0' ++ ds
    let whole := ds.take (ds.length - places)
    let text :=
      if places = 0 && !p.marks.contains '#' then whole
      else whole ++ '.' :: ds.drop (ds.length - places)
    some (p.pad (p.sign negative) text true)
  | _ => none

/-- The whole part of a value that counts as a number. -/
def whole? (v : Value) : Option Int :=
  match v.number? with
  | some d => if d.isFinite then some d.truncate else none
  | none => none

/-- The whole number that a value is. -/
def int? : Value → Option Int
  | .bool b => some (if b then 1 else 0)
  | .int i => some i
  | .accountType t => some t.number
  | _ => none

/-- The double nearest to a value that counts as a number. -/
def double? (v : Value) : Option Double :=
  match v with
  | .double d => some d
  | v => v.number?.bind fun
    | .finite negative c e => some (.ofScientific negative c e)
    | _ => none

/-- Writes a value as a placeholder says. -/
def write? (p : Placeholder) (v : Value) : Option String :=
  match p.kind with
  | 's' => v.display?.map p.writeText
  | 'r' => v.quoted?.map p.writeText
  | 'd' | 'i' | 'u' => (whole? v).map (p.writeNumber 10 [])
  | 'x' => (int? v).map (p.writeNumber 16 ['0', 'x'])
  | 'o' => (int? v).map (p.writeNumber 8 ['0', 'o'])
  | 'f' | 'F' => (double? v).bind fun d => p.writeFixed d.toDecimal
  | _ => none

end Placeholder

namespace Template

/-- Reads a template. -/
def read? (cs : List Char) : Option Template :=
  match cs with
  | [] => some []
  | '%' :: '%' :: rest => (read? rest).map (.literal '%' :: ·)
  | '%' :: rest =>
    match Placeholder.read? rest with
    | none => none
    | some (p, size) => (read? (rest.drop size)).map (.placeholder p :: ·)
  | c :: rest => (read? rest).map (.literal c :: ·)
termination_by cs.length
decreasing_by all_goals grind

/-- Fills a template and gives the values that are left: a placeholder takes the value of its name,
or the next of the ordered values if it has no name. Behind a name no ordered values are taken. -/
def fillWith? (named : Fields) : List Value → Template → Option (String × List Value)
  | vs, [] => some ("", vs)
  | vs, .literal c :: t => (fillWith? named vs t).map fun r => (String.singleton c ++ r.1, r.2)
  | vs, .placeholder p :: t =>
    match p.name, vs with
    | some name, _ => do
      let text ← p.write? (← named.lookup name)
      let (rest, vs) ← fillWith? named [] t
      return (text ++ rest, vs)
    | none, [] => none
    | none, v :: vs => do
      let text ← p.write? v
      let (rest, vs) ← fillWith? named vs t
      return (text ++ rest, vs)

/-- Characters are written as they are. -/
theorem fillWith?_literals (named : Fields) (vs : List Value) (cs : List Char) (t : Template) :
    fillWith? named vs (cs.map .literal ++ t) =
      (fillWith? named vs t).map fun r => (String.ofList cs ++ r.1, r.2) := by
  induction cs with
  | nil => simp
  | cons c cs ih =>
    simp only [List.map_cons, List.cons_append, fillWith?, ih, Option.map_map]
    congr 1
    funext r
    simp [String.ext_iff]

/-- A placeholder for the text of a name is filled with it. -/
theorem fillWith?_text {named : Fields} (name text : String)
    (h : named.lookup name = some (.text text)) (vs : List Value) (t : Template) :
    fillWith? named vs (.placeholder { name := some name, kind := 's' } :: t) =
      (fillWith? named [] t).map fun r => (text ++ r.1, r.2) := by
  have hwrite : ({ name := some name, kind := 's' } : Placeholder).write? (.text text) =
      some text := by
    simp [Placeholder.write?, Value.display?, Placeholder.writeText, Placeholder.pad]
  simp only [fillWith?, h, Option.bind_eq_bind, Option.bind_some, hwrite]
  cases fillWith? named [] t <;> rfl

/-- Fills a template with values by name. A placeholder without a name takes all of them, but only
one may. -/
def fillNamed? (fields : Fields) (t : Template) : Option String :=
  (fillWith? fields [.object fields] t).map (·.1)

/-- Fills a template with values in their order. Each value has one placeholder. -/
def fill? (vs : List Value) (t : Template) : Option String :=
  match fillWith? [] vs t with
  | some (text, []) => some text
  | _ => none

end Template

end Remit.Log
