import Remit.Proofs.Decimal.Whole
import Remit.Proofs.Json.Reading

/-!
# Values and their texts

The text of a value is that of its plain form, in ASCII, independent of the order of fields, and
stands for the plain form again; bytes and marks of absent fields are refused wherever they occur
(`Value.jsonText_faithful`).

The strings of a value are rows of characters. A row of code units with the two halves of a
surrogate pair side by side, which would come back as one character, is not among them.
-/

namespace Remit

namespace Value

variable {v : Value}

/-- The name of the kind of a value that is refused. -/
def refused? : Value → Option String
  | .bytes _ => some "bytes"
  | .unset => some "_Unset"
  | _ => none

/-- Whether a value, if it is a whole number, has few enough digits to be written. -/
def HasShortNumber : Value → Prop
  | .int i => Text.IsShort i
  | _ => True

/-- Only what is refused stands in the way of writing, if there is no number that is too long. -/
theorem unwritable?_eq (h : v.HasShortNumber) : v.unwritable? = v.refused?.map .kind := by
  cases v with
  | int i => exact if_pos h
  | _ => rfl

/-- What becomes of a value without numbers that are too long. -/
theorem jsonText_cases (h : v.All HasShortNumber) :
    (v.All (·.refused? = none) ∧ ∃ text, v.json = .ok text ∧ v.jsonText = .ok text) ∨
      ∃ (u : Value) (kind : String), u.Occurs v ∧ u.refused? = some kind ∧
        v.jsonText = .error (.unwritable kind) := by
  have hwritten := written_json v
  rw [jsonText_eq]
  cases hjson : v.json with
  | ok text =>
    refine .inl ⟨fun u hu => ?_, text, rfl, rfl⟩
    have hnone : u.unwritable? = none := (hjson ▸ hwritten : v.Written (.ok text)).writable u hu
    rw [unwritable?_eq (h u hu)] at hnone
    exact Option.map_eq_none_iff.1 hnone
  | error e =>
    obtain ⟨u, hu, he⟩ := (hjson ▸ hwritten : v.Written (.error e)).exists_occurs
    rw [unwritable?_eq (h u hu)] at he
    obtain ⟨kind, hkind, rfl⟩ := Option.map_eq_some_iff.1 he
    exact .inr ⟨u, kind, hu, hkind, rfl⟩

/-- The text of a value is that of its plain form (`erase`), whatever the order of the fields in it.
It is ASCII, and stands for the plain form again. If bytes or the mark of an absent field occur in
the value, the encoding breaks down with the name of a kind that does. The texts in the value are
rows of characters, without halves of surrogate pairs. -/
theorem jsonText_faithful (v : Value) (h : v.All HasShortNumber) :
    v.jsonText = v.erase.jsonText ∧
      (∀ w, v.Reordered w → v.jsonText = w.jsonText) ∧
      (v.All (·.refused? = none) → ∃ text, v.jsonText = .ok text ∧ IsAscii text.toList ∧
        (v.All HasDistinctNames → (v.All fun u => ¬ u.IsDouble) →
          ∃ w, Json.read? text = some w ∧ w.Reordered v.erase)) ∧
      ((∃ u : Value, u.Occurs v ∧ u.refused? ≠ none) → ∃ (u : Value) (kind : String),
        u.Occurs v ∧ u.refused? = some kind ∧ v.jsonText = .error (.unwritable kind)) := by
  refine ⟨?_, fun w hw => ?_, fun hall => ?_, fun ⟨u, hu, hrefused⟩ => ?_⟩
  · rw [jsonText_eq, jsonText_eq, json_erase]
  · rw [jsonText_eq, jsonText_eq, hw.json_eq]
  · rcases jsonText_cases h with ⟨-, text, hjson, htext⟩ | ⟨u, kind, hu, hkind, -⟩
    · exact ⟨text, htext, isAscii_json hjson, fun hnames hdouble =>
        ⟨v.erase.ordered, read?_json hnames hdouble hjson, reordered_ordered hnames⟩⟩
    · cases (hall u hu).symm.trans hkind
  · rcases jsonText_cases h with ⟨hall, -⟩ | hrefusal
    · exact absurd (hall u hu) hrefused
    · exact hrefusal

/-- A list of a record with a set in it. -/
def nested : Value :=
  .list [.record "Payment" [("payee", .text "Zoë"), ("days", .set [.date ⟨2024, .march, 1⟩])]]

/-- It is written in ASCII, and read back as an object with a list of texts in it. -/
theorem jsonText_faithful_nested : nested.All HasShortNumber ∧
    ∃ text, nested.jsonText = .ok text ∧ IsAscii text.toList ∧
      ∃ w, Json.read? text = some w ∧ w.Reordered nested.erase := by
  have hall {p : Value → Prop} (hp : p nested ∧
      p (.record "Payment" [("payee", .text "Zoë"), ("days", .set [.date ⟨2024, .march, 1⟩])]) ∧
      p (.text "Zoë") ∧ p (.set [.date ⟨2024, .march, 1⟩]) ∧ p (.date ⟨2024, .march, 1⟩)) :
      nested.All p := by
    obtain ⟨hlist, hrecord, htext, hset, hdate⟩ := hp
    refine all_list.2 ⟨hlist, List.forall_mem_singleton.2 (all_record.2 ⟨hrecord, ?_⟩)⟩
    intro k v hv
    rcases List.mem_cons.1 hv with heq | hv
    · cases heq
      exact all_of_isScalar trivial htext
    · cases List.mem_singleton.1 hv
      exact all_set.2 ⟨hset, List.forall_mem_singleton.2 (all_of_isScalar trivial hdate)⟩
  have hshort : nested.All HasShortNumber := hall ⟨trivial, trivial, trivial, trivial, trivial⟩
  have hnames : ["payee", "days"].Nodup := by decide
  obtain ⟨-, -, hwritten, -⟩ := jsonText_faithful nested hshort
  obtain ⟨text, htext, hascii, hread⟩ := hwritten (hall ⟨rfl, rfl, rfl, rfl, rfl⟩)
  exact ⟨hshort, text, htext, hascii, hread (hall ⟨trivial, hnames, trivial, trivial, trivial⟩)
    (hall ⟨id, id, id, id, id⟩)⟩

/-- A whole number that is too long is not written. -/
theorem jsonText_int_of_long {i : Int} (h : ¬ Text.IsShort i) :
    (int i).jsonText = .error .numberTooLong := by
  rw [jsonText_eq, json, Json.int, Text.intText?, if_neg h]
  rfl

/-- A power of ten has more digits than its exponent says. -/
theorem lt_digitCount_pow (k : Nat) : k < Text.digitCount ((10 : Int) ^ k).natAbs := by
  rw [Int.natAbs_pow]
  exact Decimal.lt_digitCount_of_dvd (Nat.pow_pos (by decide)).ne' dvd_rfl

/-- A double is a value of another kind and is written, and a whole number may not be. -/
theorem jsonText_double_and_long :
    (double (.finite false (3 * 2 ^ 51) (-52))).jsonText = .ok "1.5" ∧
      (int (10 ^ Text.maxDigits)).jsonText = .error .numberTooLong := by
  refine ⟨?_, jsonText_int_of_long (Nat.not_le_of_lt (lt_digitCount_pow Text.maxDigits))⟩
  rw [jsonText_eq]
  decide +kernel

end Value

end Remit
