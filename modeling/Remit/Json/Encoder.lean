import Remit.Json.Printer

/-!
# The encoder

`Value.encode` writes the values that JSON has a form for, and replaces every other value by one
that it writes instead (`Value.substitute`). A record is replaced by the object of its fields, and
so are the records inside it, but for those that stand in sets (`Value.flattened`); the encoder
comes to those later. A record that is written on its own, or stands in a list that is, is replaced
before the encoder sees it (`Value.prepared`).
-/

namespace Remit.Value

mutual

/-- A value with the records in it as objects. The members of a set are left as they are. -/
def flattened : Value → Value
  | .record _ fs | .object fs => .object (flattenedFields fs)
  | .list vs => .list (flattenedItems vs)
  | v => v

/-- The members of a list with the records in them as objects. -/
def flattenedItems : List Value → List Value
  | [] => []
  | v :: vs => flattened v :: flattenedItems vs

/-- Fields with the records in them as objects. -/
def flattenedFields : Fields → Fields
  | [] => []
  | (k, v) :: fs => (k, flattened v) :: flattenedFields fs

end

/-- Whether a value is a record. -/
def isRecord : Value → Bool
  | .record .. => true
  | _ => false

/-- A value as the encoder gets it: a record as an object, and the records of a list so. -/
def prepared : Value → Value
  | .record type fs => flattened (.record type fs)
  | .list vs => .list (vs.map fun v => if v.isRecord then v.flattened else v)
  | v => v

/-- What is written instead of a value that the encoder has no form for. -/
def substitute : Value → Except Unwritable Value
  | .accountType t => .ok (.int t.number)
  | .state s => .ok (.text s.name)
  | .transferType t => .ok (.text t.name)
  | .decimal d => .ok (.text d.val.plain)
  | .date d => .ok (.text d.iso)
  | .set vs => .ok (.list vs)
  | .record type fs => .ok (flattened (.record type fs))
  | .null => .error (.kind "NoneType")
  | .bool _ => .error (.kind "bool")
  | .int _ => .error (.kind "int")
  | .double _ => .error (.kind "float")
  | .text _ => .error (.kind "str")
  | .bytes _ => .error (.kind "bytes")
  | .unset => .error (.kind "_Unset")
  | .list _ => .error (.kind "list")
  | .object _ => .error (.kind "dict")

/-! ## The weight of a value -/

mutual

/-- The weight of a value. What is written instead of a value weighs less. -/
def weight : Value → Nat
  | .list vs => 1 + weightItems vs
  | .object fs => 1 + weightFields fs
  | .set vs => 2 + weightItems vs
  | .record _ fs => 2 + weightFields fs
  | .decimal _ | .date _ | .accountType _ | .state _ | .transferType _ => 2
  | _ => 1

/-- The weight of the members of a list. -/
def weightItems : List Value → Nat
  | [] => 0
  | v :: vs => weight v + weightItems vs

/-- The weight of fields. -/
def weightFields : Fields → Nat
  | [] => 0
  | (_, v) :: fs => weight v + weightFields fs

end

/-- A member of a list weighs no more than the members together. -/
theorem weight_le_of_mem {v : Value} {vs : List Value} (h : v ∈ vs) :
    v.weight ≤ weightItems vs := by
  induction h with
  | head vs => exact Nat.le_add_right _ _
  | tail w _ ih => exact Nat.le_trans ih (Nat.le_add_left _ _)

/-- A field of an object weighs no more than the fields together. -/
theorem weight_le_of_mem_fields {k : String} {v : Value} {fs : Fields} (h : (k, v) ∈ fs) :
    v.weight ≤ weightFields fs := by
  induction h with
  | head fs => exact Nat.le_add_right _ _
  | tail f _ ih => exact Nat.le_trans ih (Nat.le_add_left _ _)

mutual

/-- An object weighs less than a record. -/
theorem weight_flattened_le (v : Value) : v.flattened.weight ≤ v.weight := by
  cases v with
  | list vs =>
    simp only [flattened, weight]
    exact Nat.add_le_add_left (weightItems_flattened_le vs) 1
  | object fs =>
    simp only [flattened, weight]
    exact Nat.add_le_add_left (weightFields_flattened_le fs) 1
  | record type fs =>
    simp only [flattened, weight]
    exact Nat.add_le_add (by decide) (weightFields_flattened_le fs)
  | _ => exact Nat.le_refl _

/-- Members do not get heavier by replacing records in them … -/
theorem weightItems_flattened_le : (vs : List Value) →
    weightItems (flattenedItems vs) ≤ weightItems vs
  | [] => Nat.le_refl _
  | v :: vs => Nat.add_le_add (weight_flattened_le v) (weightItems_flattened_le vs)

/-- … and neither do fields. -/
theorem weightFields_flattened_le : (fs : Fields) →
    weightFields (flattenedFields fs) ≤ weightFields fs
  | [] => Nat.le_refl _
  | (_, v) :: fs => Nat.add_le_add (weight_flattened_le v) (weightFields_flattened_le fs)

end

/-- What is written instead of a value weighs less. -/
theorem weight_substitute_lt {v w : Value} (h : v.substitute = .ok w) : w.weight < v.weight := by
  cases v with
  | set vs =>
    cases h
    simp [weight]
  | record type fs =>
    cases h
    have := weightFields_flattened_le fs
    simp only [flattened, weight]
    omega
  | _ => cases h <;> exact Nat.lt_succ_self 1

/-! ## Writing -/

/-- A value as the encoder writes it. -/
def encode : Value → Except Unwritable String
  | .null => .ok "null"
  | .bool b => .ok (if b then "true" else "false")
  | .int i => Json.int i
  | .double d => .ok (Json.double d)
  | .text s => .ok (Json.string s)
  | .accountType t => Json.int t.number
  | .state s => .ok (Json.string s.name)
  | .transferType t => .ok (Json.string t.name)
  | .list vs => do return Json.array (← vs.attach.mapM fun ⟨v, _⟩ => encode v)
  | .object fs => Json.object (fs.attach.map fun ⟨(k, v), _⟩ => (k, encode v))
  | v =>
    match _ : v.substitute with
    | .error e => .error e
    | .ok w => encode w
termination_by v => v.weight
decreasing_by
  · next h =>
    simp only [weight]
    have := weight_le_of_mem h
    omega
  · next h =>
    simp only [weight]
    have := weight_le_of_mem_fields h
    omega
  · next h => exact weight_substitute_lt h

end Remit.Value
