import Remit.Proofs.Decimal.Numeral
import Remit.Proofs.Decimal.Whole
import Remit.Value.Amount

/-!
# Which number a value stands for

A value of a request stands for at most one number (`Value.Denotes.eq`): a whole number that is not
too long to be written or a finite decimal for itself, a text for the number that is written in it,
and a double for the number that is written in its shortest text. Truth values, infinities and
undefined results, and whatever is no number, stand for none. This is what amounts and whole numbers
are read from (`Value.denotes_iff_amount?`, `Value.denotes_int_iff`).
-/

namespace Remit.Value

/-- The number that a value of a request stands for. -/
inductive Denotes : Value → ℚ → Prop where
  | int {i : Int} : Text.IsShort i → Denotes (.int i) i
  | decimal {d : Decimal.Representable} : d.val.isFinite = true → Denotes (.decimal d) d.val.value
  | text {s : String} {d : Decimal} :
      Decimal.Numeral ((Text.trim s.toList).filter (· != '_')) d → Denotes (.text s) d.value
  | double {d : Double} {q : ℚ} : Denotes (.text d.text) q → Denotes (.double d) q

variable {v : Value} {q q' : ℚ}

/-- A text stands for the number that is read from it. -/
theorem denotes_text_iff {s : String} :
    (text s).Denotes q ↔
      ∃ d, Decimal.read? s = some d ∧ d.val.isFinite = true ∧ d.val.value = q := by
  constructor
  · rintro (_ | _ | h | _)
    obtain ⟨hread, hfinite⟩ := Decimal.read?_eq_some_iff (d := ⟨_, h.isRepresentable⟩).2 h
    exact ⟨_, hread, hfinite, rfl⟩
  · rintro ⟨d, hread, hfinite, rfl⟩
    exact .text (Decimal.read?_eq_some_iff.1 ⟨hread, hfinite⟩)

/-- A value stands for the number that is read from it as an amount. -/
theorem denotes_iff_amount? : v.Denotes q ↔ ∃ d, v.amount? = some d ∧ d.val.value = q := by
  have hamount : ∀ d, v.amount? = some d ↔ v.written? = some d ∧ d.val.isFinite = true :=
    fun _ => Option.filter_eq_some_iff
  simp only [hamount, and_assoc]
  cases v with
  | int i =>
    by_cases hi : Text.IsShort i
    · simp only [written?, dif_pos hi, Option.some.injEq, exists_eq_left',
        Decimal.Representable.ofInt, Decimal.isFinite_ofInt, Decimal.value_ofInt, true_and]
      constructor
      · rintro ⟨-⟩
        rfl
      · rintro rfl
        exact .int hi
    · simp only [written?, dif_neg hi]
      constructor
      · rintro (h | _)
        exact absurd h hi
      · rintro ⟨_, h, -⟩
        cases h
  | decimal d =>
    constructor
    · rintro (_ | h)
      exact ⟨d, rfl, h, rfl⟩
    · rintro ⟨_, h, hd, rfl⟩
      cases h
      exact .decimal hd
  | text s => exact denotes_text_iff
  | double d =>
    constructor
    · rintro (_ | _ | _ | h)
      exact denotes_text_iff.1 h
    · exact fun h => .double (denotes_text_iff.2 h)
  | _ =>
    constructor
    · rintro ⟨⟩
    · rintro ⟨_, h, -⟩
      cases h

/-- A value stands for at most one number. -/
theorem Denotes.eq (h : v.Denotes q) (h' : v.Denotes q') : q = q' := by
  obtain ⟨d, hd, rfl⟩ := denotes_iff_amount?.1 h
  obtain ⟨d', hd', rfl⟩ := denotes_iff_amount?.1 h'
  cases hd.symm.trans hd'
  rfl

/-- A value stands for a whole number exactly if it is read as one. -/
theorem denotes_int_iff {i : Int} :
    v.Denotes i ↔ ∃ d, v.amount?.filter (·.val.isWhole) = some d ∧ d.val.truncate = i := by
  rw [denotes_iff_amount?]
  constructor
  · rintro ⟨d, hd, hi⟩
    have hfinite : d.val.isFinite = true := (Option.filter_eq_some_iff.1 hd).2
    have hwhole : d.val.isWhole = true := (Decimal.isWhole_iff hfinite).2 ⟨i, hi⟩
    refine ⟨d, Option.filter_eq_some_iff.2 ⟨hd, hwhole⟩, ?_⟩
    have := (Decimal.value_truncate hwhole).symm.trans hi
    exact_mod_cast this
  · rintro ⟨d, hd, rfl⟩
    obtain ⟨hd, hwhole⟩ := Option.filter_eq_some_iff.1 hd
    exact ⟨d, hd, Decimal.value_truncate hwhole⟩

/-- A whole number stands for a number only if it can be written. -/
theorem Denotes.isShort {i : Int} (h : (Value.int i).Denotes q) : Text.IsShort i := by
  cases h
  assumption

/-- Null stands for no number. -/
theorem Denotes.isNull_eq (h : v.Denotes q) : v.isNull = false := by
  cases h <;> rfl

end Remit.Value
