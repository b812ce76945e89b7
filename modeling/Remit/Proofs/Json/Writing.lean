import Remit.Proofs.Lists
import Remit.Proofs.Value.Parts
import Remit.Report

/-!
# Writing values as JSON

The encoder meets records in three places: in front of it, inside what stands in front of it, and
behind it as substitutes. All of them are written alike, so that the text of a value is its JSON
form (`encode_eq_json`, `jsonText_eq`), and that of the plain value that it stands for (`erase`,
`json_erase`). A value is written unless something that occurs in it cannot be (`written_json`), and
the order of the fields of objects does not matter (`Reordered.json_eq`).
-/

namespace Remit

namespace Value

variable {v w : Value} {vs : List Value} {fs : Fields} {type : String}

/-- The members of a list are written one by one … -/
theorem jsonItems_eq (vs : List Value) : jsonItems vs = vs.mapM json := by
  induction vs with
  | nil => rfl
  | cons v vs ih => rw [jsonItems, List.mapM_cons, ih]

/-- … and so are the fields of an object. -/
theorem jsonFields_eq (fs : Fields) : jsonFields fs = fs.map fun f => (f.1, f.2.json) := by
  induction fs with
  | nil => rfl
  | cons f fs ih => rw [jsonFields, List.map_cons, ih]

/-- A list is written as the list of its members. -/
theorem json_list (vs : List Value) : (list vs).json = Json.array <$> vs.mapM json := by
  rw [json, jsonItems_eq]
  rfl

/-- An object is written by its fields. -/
theorem json_object (fs : Fields) :
    (object fs).json = Json.object (fs.map fun f => (f.1, f.2.json)) := by
  rw [json, jsonFields_eq]

/-- A record is written as the object of its fields. -/
theorem json_record (type : String) (fs : Fields) : (record type fs).json = (object fs).json := by
  rw [json, json]

/-- A set is written as a list, in the order in which its members are listed. -/
theorem json_set (vs : List Value) : (set vs).json = (list vs).json := by
  rw [json, json]

/-- The text of a list has those of its members between brackets. -/
theorem exists_of_json_list {s : String} (h : (list vs).json = .ok s) :
    ∃ ss, List.Forall₂ (fun v t => v.json = .ok t) vs ss ∧ s = Json.array ss := by
  rw [json_list] at h
  cases hss : vs.mapM json with
  | error e =>
    rw [hss] at h
    cases h
  | ok ss =>
    rw [hss] at h
    cases h
    exact ⟨ss, forall₂_of_mapM hss, rfl⟩

/-- The text of an object has its fields in increasing order of their names between braces. -/
theorem exists_of_json_object {s : String} (h : (object fs).json = .ok s) :
    ∃ ss, List.Forall₂ (fun (f : String × Value) m =>
        ∃ t, f.2.json = .ok t ∧ m = Json.string f.1 ++ ": " ++ t) fs.sorted ss ∧
      s = "\x7b" ++ ", ".intercalate ss ++ "\x7d" := by
  have hsorted : ((fs.map fun f => (f.1, f.2.json)).mergeSort fun a b => a.1 ≤ b.1) =
      fs.sorted.map fun f => (f.1, f.2.json) :=
    (List.map_mergeSort (f := fun f : String × Value => (f.1, f.2.json)) fun _ _ _ _ => rfl).symm
  rw [json_object, Json.object, hsorted, List.mapM_map] at h
  obtain ⟨ss, hss, h⟩ := bind_eq_ok.1 h
  cases h
  refine ⟨ss, (forall₂_of_mapM hss).imp fun f m hm => ?_, rfl⟩
  cases hf : f.2.json with
  | error e =>
    simp only [Function.comp_apply, hf] at hm
    cases hm
  | ok t =>
    simp only [Function.comp_apply, hf] at hm
    cases hm
    exact ⟨t, rfl, rfl⟩

/-! ## The encoder -/

/-- Records inside a list are replaced member by member … -/
theorem flattenedItems_eq (vs : List Value) : flattenedItems vs = vs.map flattened := by
  induction vs with
  | nil => rfl
  | cons v vs ih => rw [flattenedItems, List.map_cons, ih]

/-- … and those inside an object field by field. -/
theorem flattenedFields_eq (fs : Fields) :
    flattenedFields fs = fs.map fun f => (f.1, f.2.flattened) := by
  induction fs with
  | nil => rfl
  | cons f fs ih => rw [flattenedFields, List.map_cons, ih]

/-- Replacing records by objects beforehand changes nothing of what is written. -/
theorem json_flattened (v : Value) : v.flattened.json = v.json := by
  induction v using Value.induction with
  | scalar v hv => cases v <;> first | rfl | cases hv
  | list vs ih =>
    rw [flattened, flattenedItems_eq, json_list, json_list, List.mapM_map]
    exact congrArg _ (mapM_congr ih)
  | set vs ih => rfl
  | object fs ih =>
    rw [flattened, flattenedFields_eq, json_object, json_object, List.map_map]
    exact congrArg _ (List.map_congr_left fun f hf => Prod.ext rfl (ih f.1 f.2 hf))
  | record type fs ih =>
    rw [flattened, flattenedFields_eq, json_record, json_object, json_object, List.map_map]
    exact congrArg _ (List.map_congr_left fun f hf => Prod.ext rfl (ih f.1 f.2 hf))

/-- What is done to a value before it is encoded changes nothing of what is written. -/
theorem json_prepared (v : Value) : v.prepared.json = v.json := by
  cases v with
  | record type fs => exact json_flattened (record type fs)
  | list vs =>
    rw [prepared, json_list, json_list, List.mapM_map]
    refine congrArg _ (mapM_congr fun v _ => ?_)
    simp only [Function.comp_apply]
    split
    · exact json_flattened v
    · rfl
  | _ => rfl

/-- The encoder takes a list member by member … -/
theorem encode_list (vs : List Value) : (list vs).encode = Json.array <$> vs.mapM encode := by
  rw [encode]
  simp

/-- … and an object field by field. -/
theorem encode_object (fs : Fields) :
    (object fs).encode = Json.object (fs.map fun f => (f.1, f.2.encode)) := by
  rw [encode]
  exact congrArg _ (List.attach_map_val (f := fun f : String × Value => (f.1, f.2.encode)))

/-- Whether the encoder has no form for a value. -/
def NeedsSubstitute : Value → Prop
  | .decimal _ | .date _ | .set _ | .record .. | .bytes _ | .unset => True
  | _ => False

/-- A value that the encoder does not know is encoded by its substitute. -/
theorem encode_of_needsSubstitute (v : Value) (h : v.NeedsSubstitute) :
    v.encode = v.substitute >>= encode := by
  rw [encode]
  · split <;> simp_all [bind, Except.bind]
  all_goals
    intros
    simp_all [NeedsSubstitute]

/-- The encoder writes a value as what it is replaced by, member by member. -/
theorem encode_eq_json (v : Value) : v.encode = v.json := by
  -- A substitute is no part of the value, so the induction is on the weight as the recursion is.
  have ih (w : Value) (h : w.weight < v.weight) : w.encode = w.json := encode_eq_json w
  cases v with
  | list vs =>
    rw [encode_list, json_list, mapM_congr fun v hv => ih v ?_]
    have := weight_le_of_mem hv
    rw [weight]
    omega
  | object fs =>
    rw [encode_object, json_object]
    refine congrArg _ (List.map_congr_left fun f hf => Prod.ext rfl (ih f.2 ?_))
    have := weight_le_of_mem_fields hf
    rw [weight]
    omega
  | set vs =>
    rw [encode_of_needsSubstitute (set vs) trivial]
    exact (ih (list vs) (weight_substitute_lt rfl)).trans (json_set vs).symm
  | record type fs =>
    rw [encode_of_needsSubstitute (record type fs) trivial]
    exact (ih _ (weight_substitute_lt rfl)).trans (json_flattened _)
  | decimal d =>
    rw [encode_of_needsSubstitute (decimal d) trivial]
    exact ih (text d.val.plain) (weight_substitute_lt rfl)
  | date d =>
    rw [encode_of_needsSubstitute (date d) trivial]
    exact ih (text d.iso) (weight_substitute_lt rfl)
  | bytes | unset => exact encode_of_needsSubstitute _ trivial
  | _ => simp only [encode, json]
termination_by v.weight

/-- The text of a value is its JSON form, however it is prepared. -/
theorem jsonText_eq (v : Value) : v.jsonText = v.json.mapError (·.breakdown) := by
  rw [jsonText, encode_eq_json, json_prepared]

/-! ## What a value is written as -/

mutual

/-- A value as what it is written as: an object, a list, a text or a number. -/
def erase : Value → Value
  | .record _ fs | .object fs => .object (eraseFields fs)
  | .list vs | .set vs => .list (eraseItems vs)
  | .decimal d => .text d.val.plain
  | .date d => .text d.iso
  | .accountType t => .int t.number
  | .state s => .text s.name
  | .transferType t => .text t.name
  | v => v

/-- The members of a list as what they are written as. -/
def eraseItems : List Value → List Value
  | [] => []
  | v :: vs => erase v :: eraseItems vs

/-- Fields as what they are written as. -/
def eraseFields : Fields → Fields
  | [] => []
  | (k, v) :: fs => (k, erase v) :: eraseFields fs

end

/-- The members of a list are erased one by one … -/
theorem eraseItems_eq (vs : List Value) : eraseItems vs = vs.map erase := by
  induction vs with
  | nil => rfl
  | cons v vs ih => rw [eraseItems, List.map_cons, ih]

/-- … and so are the fields of an object. -/
theorem eraseFields_eq (fs : Fields) : eraseFields fs = fs.map fun f => (f.1, f.2.erase) := by
  induction fs with
  | nil => rfl
  | cons f fs ih => rw [eraseFields, List.map_cons, ih]

/-- A value is written as what is left of it without the kinds that JSON does not have. -/
theorem json_erase (v : Value) : v.erase.json = v.json := by
  have hlist {vs : List Value} (ih : ∀ v ∈ vs, v.erase.json = v.json) :
      (list (eraseItems vs)).json = (list vs).json := by
    rw [eraseItems_eq, json_list, json_list, List.mapM_map]
    exact congrArg _ (mapM_congr ih)
  have hobject {fs : Fields} (ih : ∀ k v, (k, v) ∈ fs → v.erase.json = v.json) :
      (object (eraseFields fs)).json = (object fs).json := by
    rw [eraseFields_eq, json_object, json_object, List.map_map]
    exact congrArg _ (List.map_congr_left fun f hf => Prod.ext rfl (ih f.1 f.2 hf))
  induction v using Value.induction with
  | scalar v hv => cases v <;> first | rfl | cases hv
  | list vs ih => exact hlist ih
  | set vs ih => exact (hlist ih).trans (json_set vs).symm
  | object fs ih => exact hobject ih
  | record type fs ih => exact (hobject ih).trans (json_record type fs).symm

/-! ## What can be written -/

/-- Why a value cannot be written, if nothing that occurs in it is the reason. -/
def unwritable? : Value → Option Unwritable
  | .bytes _ => some (.kind "bytes")
  | .unset => some (.kind "_Unset")
  | .int i => if Text.IsShort i then none else some .tooLong
  | _ => none

/-- Nothing that occurs in a value stands in the way of writing it. -/
def Writable (v : Value) : Prop := v.All (·.unwritable? = none)

/-- An object is written if all its members are, and otherwise one of them is the reason. -/
theorem object_cases (members : List (String × Except Unwritable String)) :
    ((∀ m ∈ members, ∃ s, m.2 = .ok s) ∧ ∃ s, Json.object members = .ok s) ∨
      ∃ m ∈ members, ∃ e, m.2 = .error e ∧ Json.object members = .error e := by
  unfold Json.object
  rcases mapM_cases (fun m : String × Except Unwritable String =>
      m.2.map fun v => Json.string m.1 ++ ": " ++ v)
    (members.mergeSort fun a b => a.1 ≤ b.1) with ⟨hall, ys, hys⟩ | ⟨m, hm, e, he, herror⟩
  · refine .inl ⟨fun m hm => ?_, _, by rw [hys]; rfl⟩
    obtain ⟨y, hy⟩ := hall m (List.mem_mergeSort.2 hm)
    cases hm' : m.2 with
    | ok s => exact ⟨s, rfl⟩
    | error e =>
      rw [hm'] at hy
      cases hy
  · refine .inr ⟨m, List.mem_mergeSort.1 hm, e, ?_, by rw [herror]; rfl⟩
    cases hm' : m.2 with
    | ok s =>
      rw [hm'] at he
      cases he
    | error e' =>
      rw [hm'] at he
      exact he

/-- What becomes of a value: it is written if everything that occurs in it can be, and otherwise
something that occurs in it is the reason. -/
inductive Written (v : Value) : Except Unwritable String → Prop where
  | whole {s : String} : v.Writable → Written v (.ok s)
  | stopped {u : Value} {e : Unwritable} : u.Occurs v → u.unwritable? = some e →
      Written v (.error e)

/-- A value that was written can be written. -/
theorem Written.writable {s : String} (h : v.Written (.ok s)) : v.Writable := by
  cases h
  assumption

/-- A value that was not written has the reason in it. -/
theorem Written.exists_occurs {e : Unwritable} (h : v.Written (.error e)) :
    ∃ u : Value, u.Occurs v ∧ u.unwritable? = some e := by
  cases h with
  | stopped hu he => exact ⟨_, hu, he⟩

/-- What becomes of a list is what becomes of its members. -/
theorem written_items (ih : ∀ v ∈ vs, v.Written v.json) :
    (∃ s, (list vs).json = .ok s ∧ ∀ v ∈ vs, v.Writable) ∨
      ∃ v ∈ vs, ∃ (u : Value) (e : Unwritable), u.Occurs v ∧ u.unwritable? = some e ∧
        (list vs).json = .error e := by
  rw [json_list]
  rcases mapM_cases json vs with ⟨hall, ys, hys⟩ | ⟨v, hv, e, he, herror⟩
  · refine .inl ⟨_, by rw [hys]; rfl, fun v hv => ?_⟩
    obtain ⟨s, hs⟩ := hall v hv
    exact (hs ▸ ih v hv : v.Written (.ok s)).writable
  · obtain ⟨u, hu, hreason⟩ := (he ▸ ih v hv : v.Written (.error e)).exists_occurs
    exact .inr ⟨v, hv, u, e, hu, hreason, by rw [herror]; rfl⟩

/-- What becomes of an object is what becomes of its fields. -/
theorem written_fields (ih : ∀ k v, (k, v) ∈ fs → v.Written v.json) :
    (∃ s, (object fs).json = .ok s ∧ ∀ k v, (k, v) ∈ fs → v.Writable) ∨
      ∃ k v, (k, v) ∈ fs ∧ ∃ (u : Value) (e : Unwritable), u.Occurs v ∧ u.unwritable? = some e ∧
        (object fs).json = .error e := by
  rw [json_object]
  rcases object_cases (fs.map fun f => (f.1, f.2.json)) with ⟨hall, s, hs⟩ | ⟨m, hm, e, he, herror⟩
  · refine .inl ⟨s, hs, fun k v hf => ?_⟩
    obtain ⟨s, hs⟩ := hall (k, v.json) (List.mem_map.2 ⟨(k, v), hf, rfl⟩)
    exact (hs ▸ ih k v hf : v.Written (.ok s)).writable
  · obtain ⟨⟨k, v⟩, hf, rfl⟩ := List.mem_map.1 hm
    obtain ⟨u, hu, hreason⟩ := (he ▸ ih k v hf : v.Written (.error e)).exists_occurs
    exact .inr ⟨k, v, hf, u, e, hu, hreason, herror⟩

/-- Writing a value succeeds if all that occurs in it can be written, and ends with the reason why
something cannot be otherwise. -/
theorem written_json (v : Value) : v.Written v.json := by
  induction v using Value.induction with
  | scalar v hv =>
    cases v with
    | int i =>
      by_cases hi : Text.IsShort i
      · rw [json, Json.int, Text.intText?, if_pos hi]
        exact .whole (all_of_isScalar hv (if_pos hi))
      · rw [json, Json.int, Text.intText?, if_neg hi]
        exact .stopped .whole (if_neg hi)
    | accountType t =>
      cases t <;> exact .whole (all_of_isScalar hv rfl)
    | bytes b => exact .stopped .whole rfl
    | unset => exact .stopped .whole rfl
    | list | set | object | record => cases hv
    | _ => exact .whole (all_of_isScalar hv rfl)
  | list vs ih =>
    rcases written_items ih with ⟨s, hs, hall⟩ | ⟨v, hv, u, e, hu, hreason, he⟩
    · exact hs ▸ .whole (all_list.2 ⟨rfl, hall⟩)
    · exact he ▸ .stopped (.item hv hu) hreason
  | set vs ih =>
    rw [json_set]
    rcases written_items ih with ⟨s, hs, hall⟩ | ⟨v, hv, u, e, hu, hreason, he⟩
    · exact hs ▸ .whole (all_set.2 ⟨rfl, hall⟩)
    · exact he ▸ .stopped (.member hv hu) hreason
  | object fs ih =>
    rcases written_fields ih with ⟨s, hs, hall⟩ | ⟨k, v, hf, u, e, hu, hreason, he⟩
    · exact hs ▸ .whole (all_object.2 ⟨rfl, hall⟩)
    · exact he ▸ .stopped (.field hf hu) hreason
  | record type fs ih =>
    rw [json_record]
    rcases written_fields ih with ⟨s, hs, hall⟩ | ⟨k, v, hf, u, e, hu, hreason, he⟩
    · exact hs ▸ .whole (all_record.2 ⟨rfl, hall⟩)
    · exact he ▸ .stopped (.recordField hf hu) hreason

/-- What can be written has a text. -/
theorem Writable.exists_json (h : v.Writable) : ∃ s, v.json = .ok s := by
  have hwritten := written_json v
  cases hjson : v.json with
  | ok s => exact ⟨s, rfl⟩
  | error e =>
    obtain ⟨u, hu, hreason⟩ := (hjson ▸ hwritten : v.Written (.error e)).exists_occurs
    cases (h u hu).symm.trans hreason

/-! ## The order of fields -/

/-- Two values differ in the order of the fields of objects only, at any depth. -/
inductive Reordered : Value → Value → Prop where
  | refl (v : Value) : Reordered v v
  | trans {u v w : Value} : Reordered u v → Reordered v w → Reordered u w
  | fields {fs gs : Fields} : (fs.map (·.1)).Nodup → fs.Perm gs →
      Reordered (.object fs) (.object gs)
  | item {v w : Value} (vs ws : List Value) : Reordered v w →
      Reordered (.list (vs ++ v :: ws)) (.list (vs ++ w :: ws))
  | member {v w : Value} (vs ws : List Value) : Reordered v w →
      Reordered (.set (vs ++ v :: ws)) (.set (vs ++ w :: ws))
  | field {v w : Value} (fs : Fields) (k : String) (gs : Fields) : Reordered v w →
      Reordered (.object (fs ++ (k, v) :: gs)) (.object (fs ++ (k, w) :: gs))
  | recordField {v w : Value} (type : String) (fs : Fields) (k : String) (gs : Fields) :
      Reordered v w →
      Reordered (.record type (fs ++ (k, v) :: gs)) (.record type (fs ++ (k, w) :: gs))

/-- The text of a value does not depend on the order of the fields of objects. -/
theorem Reordered.json_eq (h : v.Reordered w) : v.json = w.json := by
  induction h with
  | refl v => rfl
  | trans _ _ ih ih' => exact ih.trans ih'
  | @fields fs gs hnodup hperm =>
    have hsort := mergeSort_eq_of_perm (hperm.map fun f => (f.1, f.2.json))
      (by rw [List.map_map]; exact hnodup)
    rw [json_object, json_object, Json.object, hsort, ← Json.object]
  | item vs ws _ ih =>
    rw [json_list, json_list]
    simp only [List.mapM_append, List.mapM_cons, ih]
  | member vs ws _ ih =>
    rw [json_set, json_set, json_list, json_list]
    simp only [List.mapM_append, List.mapM_cons, ih]
  | field fs k gs _ ih =>
    rw [json_object, json_object]
    simp only [List.map_append, List.map_cons, ih]
  | recordField type fs k gs _ ih =>
    rw [json_record, json_record, json_object, json_object]
    simp only [List.map_append, List.map_cons, ih]

end Value

end Remit
