import Remit.Proofs.Decimal.Value
import Remit.Value.Equality

/-!
# Equal values

Texts are equal as values exactly if they are equal, and so are whole numbers, optional or not
(`Value.equal?_text`, `Value.equal?_int`, `Value.equal?_ofInt?`). A whole number is looked up among
whole numbers (`Value.elem?_int`).
-/

namespace Remit

namespace Value

/-- Texts are equal as values exactly if they are the same. -/
theorem equal?_text (s t : String) : (text s).equal? (text t) = .ok (decide (s = t)) := by
  rw [equal?]
  · simp [equalScalar?, number?, text?, Bool.beq_eq_decide_eq]
  all_goals simp

/-- Whole numbers are equal as values exactly if they are the same. -/
theorem equal?_int (i j : Int) : (int i).equal? (int j) = .ok (decide (i = j)) := by
  rw [equal?]
  · show (Decimal.ofInt i).equal? (Decimal.ofInt j) = _
    rw [Decimal.equal?_finite (Decimal.isFinite_ofInt i) (Decimal.isFinite_ofInt j),
      Decimal.value_ofInt, Decimal.value_ofInt]
    simp
  all_goals simp

/-- Optional numbers are equal as values exactly if they are equal. -/
theorem equal?_ofInt? (o p : Option Int) : (ofInt? o).equal? (ofInt? p) = .ok (decide (o = p)) := by
  cases o with
  | none =>
    cases p with
    | none => rw [ofInt?, equal?] <;> first | rfl | simp
    | some j => rw [ofInt?, ofInt?, equal?] <;> first | rfl | simp
  | some i =>
    cases p with
    | none => rw [ofInt?, ofInt?, equal?] <;> first | rfl | simp
    | some j =>
      rw [ofInt?, ofInt?, equal?_int]
      simp

/-- A whole number is looked up among whole numbers. -/
theorem elem?_int (i : Int) (js : List Int) :
    (int i).elem? (js.map .int) = .ok (decide (i ∈ js)) := by
  unfold elem?
  induction js with
  | nil => rfl
  | cons j js ih =>
    rw [List.map_cons, List.anyM_cons, equal?_int, ih]
    by_cases h : j = i
    · subst h
      simp [pure, Except.pure, bind, Except.bind]
    · simp [bind, Except.bind, h, Ne.symm h]

end Value

end Remit
