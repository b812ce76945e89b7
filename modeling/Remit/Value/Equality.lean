import Remit.Value.Basic

/-!
# Equality of values

Two values are equal when they stand for the same thing: numbers of any kind by value, texts and
dates by content, collections member by member. Comparing a signaling undefined number with a number
is refused (`Decimal.Signal`).
-/

namespace Remit

/-- The fields of an account handle that are there for display only. -/
def displayFields : List String := ["account_number", "client_name", "office_name"]

/-- The fields that identify a record: all but those that a handle has for display. -/
def Fields.identity (type : String) (fs : Fields) : Fields :=
  if type = "AccountHandle" then fs.filter fun f => !displayFields.contains f.1 else fs

namespace Value

/-- Equality of two values neither of which is a collection or a record. -/
def equalScalar? (a b : Value) : Except Decimal.Signal Bool :=
  match a.number?, b.number? with
  | some x, some y => x.equal? y
  | _, _ =>
    match a.text?, b.text? with
    | some s, some t => .ok (s == t)
    | _, _ =>
      match a, b with
      | .null, .null | .unset, .unset => .ok true
      | .date d, .date d' => .ok (d == d')
      | .bytes x, .bytes y => .ok (x == y)
      | _, _ => .ok false

mutual

/-- Whether two values are equal. -/
def equal? : Value → Value → Except Decimal.Signal Bool
  | .list vs, .list ws => if vs.length = ws.length then equalItems? vs ws else .ok false
  | .set vs, .set ws => if vs.length = ws.length then subset? vs ws else .ok false
  | .object fs, .object gs => if fs.length = gs.length then equalFields? fs gs else .ok false
  | .record t fs, .record t' gs =>
    if t = t' then equalRecords? t fs gs else .ok false
  | a, b => equalScalar? a b

/-- Whether two lists have equal members at equal places. -/
def equalItems? : List Value → List Value → Except Decimal.Signal Bool
  | v :: vs, w :: ws => do if ← equal? v w then equalItems? vs ws else .ok false
  | [], [] => .ok true
  | _, _ => .ok false

/-- Whether every member of a list equals one of another. -/
def subset? : List Value → List Value → Except Decimal.Signal Bool
  | v :: vs, ws => do if ← ws.anyM (equal? v ·) then subset? vs ws else .ok false
  | [], _ => .ok true

/-- Whether every field of one list has an equal field of that name in another. -/
def equalFields? : Fields → Fields → Except Decimal.Signal Bool
  | (k, v) :: fs, gs =>
    match gs.lookup k with
    | some w => do if ← equal? v w then equalFields? fs gs else .ok false
    | none => .ok false
  | [], _ => .ok true

/-- Whether the identifying fields of two records of a type are equal. -/
def equalRecords? (type : String) : Fields → Fields → Except Decimal.Signal Bool
  | (k, v) :: fs, gs => do
    let same ← match (Fields.identity type gs).lookup k with
      | some w => equal? v w
      | none => .ok true
    if same then equalRecords? type fs gs else .ok false
  | [], _ => .ok true

end

/-- Whether a value equals one of a list; the list is searched from the front. Only equality counts,
so that a quiet NaN is in no list. -/
def elem? (v : Value) (vs : List Value) : Except Decimal.Signal Bool := vs.anyM (equal? · v)

end Value

end Remit
