import Remit.Value.Basic

/-!
# What occurs in a value

A value occurs in another one as the whole of it, or in a member of a collection or a field at any
depth (`Value.Occurs`). What holds of everything that occurs in a value (`Value.All`) holds of the
value and of all that occurs in its members (`Value.all_list` and so on). A property of values is
proved by `Value.induction`, from the members of a collection to the collection.
-/

namespace Remit.Value

/-- A value occurs in another one, at any depth. -/
inductive Occurs (u : Value) : Value → Prop where
  | whole : Occurs u u
  | item {v : Value} {vs : List Value} : v ∈ vs → Occurs u v → Occurs u (.list vs)
  | member {v : Value} {vs : List Value} : v ∈ vs → Occurs u v → Occurs u (.set vs)
  | field {k : String} {v : Value} {fs : Fields} :
      (k, v) ∈ fs → Occurs u v → Occurs u (.object fs)
  | recordField {type k : String} {v : Value} {fs : Fields} :
      (k, v) ∈ fs → Occurs u v → Occurs u (.record type fs)

/-- Everything that occurs in a value has a property. -/
def All (p : Value → Prop) (v : Value) : Prop := ∀ u, u.Occurs v → p u

/-- Whether a value has neither members nor fields. -/
def IsScalar : Value → Prop
  | .list _ | .set _ | .object _ | .record .. => False
  | _ => True

variable {p : Value → Prop} {v : Value} {vs : List Value} {fs : Fields} {type : String}

/-- What holds of all that occurs in a value holds of the value. -/
theorem All.whole (h : v.All p) : p v := h v .whole

/-- What occurs in a list is the list and what occurs in its members. -/
theorem all_list : (list vs).All p ↔ p (list vs) ∧ ∀ v ∈ vs, v.All p := by
  constructor
  · exact fun h => ⟨h.whole, fun v hv u hu => h u (.item hv hu)⟩
  · rintro ⟨hp, h⟩ u hu
    cases hu with
    | whole => exact hp
    | item hv hu => exact h _ hv u hu

/-- What occurs in a set is the set and what occurs in its members. -/
theorem all_set : (set vs).All p ↔ p (set vs) ∧ ∀ v ∈ vs, v.All p := by
  constructor
  · exact fun h => ⟨h.whole, fun v hv u hu => h u (.member hv hu)⟩
  · rintro ⟨hp, h⟩ u hu
    cases hu with
    | whole => exact hp
    | member hv hu => exact h _ hv u hu

/-- What occurs in an object is the object and what occurs in its fields. -/
theorem all_object : (object fs).All p ↔ p (object fs) ∧ ∀ k v, (k, v) ∈ fs → v.All p := by
  constructor
  · exact fun h => ⟨h.whole, fun k v hv u hu => h u (.field hv hu)⟩
  · rintro ⟨hp, h⟩ u hu
    cases hu with
    | whole => exact hp
    | field hv hu => exact h _ _ hv u hu

/-- What occurs in a record is the record and what occurs in its fields. -/
theorem all_record :
    (record type fs).All p ↔ p (record type fs) ∧ ∀ k v, (k, v) ∈ fs → v.All p := by
  constructor
  · exact fun h => ⟨h.whole, fun k v hv u hu => h u (.recordField hv hu)⟩
  · rintro ⟨hp, h⟩ u hu
    cases hu with
    | whole => exact hp
    | recordField hv hu => exact h _ _ hv u hu

/-- Nothing else occurs in a scalar. -/
theorem all_of_isScalar (h : v.IsScalar) (hp : p v) : v.All p := by
  intro u hu
  cases hu with
  | whole => exact hp
  | item | member | field | recordField => cases h

/-- A property of all values, from the members of a collection to the collection. -/
@[elab_as_elim]
theorem induction (scalar : ∀ v : Value, v.IsScalar → p v)
    (list : ∀ vs : List Value, (∀ v ∈ vs, p v) → p (.list vs))
    (set : ∀ vs : List Value, (∀ v ∈ vs, p v) → p (.set vs))
    (object : ∀ fs : Fields, (∀ k v, (k, v) ∈ fs → p v) → p (.object fs))
    (record : ∀ (type : String) (fs : Fields), (∀ k v, (k, v) ∈ fs → p v) → p (.record type fs))
    (v : Value) : p v := by
  cases v with
  | list vs => exact list vs fun v hv => induction scalar list set object record v
  | set vs => exact set vs fun v hv => induction scalar list set object record v
  | object fs => exact object fs fun k v hv => induction scalar list set object record v
  | record type fs =>
    exact record type fs fun k v hv => induction scalar list set object record v
  | _ => exact scalar _ trivial
termination_by sizeOf v
decreasing_by
  all_goals
    have := List.sizeOf_lt_of_mem hv
    simp_all
    omega

end Remit.Value
