import Remit.Proofs.Decimal.Plain

/-!
# Whole numbers and their texts

The text of a whole number is read back as the number (`readInt?_toString`), unless it has too many
digits to be read.
-/

namespace Remit.Text

/-- A whole number is its digits, behind a minus if it is below zero. -/
theorem toList_toString (i : Int) : (toString i).toList =
    (if 0 ≤ i then [] else ['-']) ++ Nat.toDigits 10 i.natAbs := by
  rw [Int.toString_eq_repr, Int.repr_eq_if]
  split
  · have hi : i.toNat = i.natAbs := by omega
    rw [Nat.toList_repr, hi, List.nil_append]
  · have hi : (-i).toNat = i.natAbs := by omega
    rw [String.toList_append, Nat.toList_repr, hi]
    rfl

/-- A number has a first digit. -/
theorem exists_toDigits (n : Nat) : ∃ c cs, Nat.toDigits 10 n = c :: cs ∧ c.isDigit = true := by
  obtain ⟨c, cs, hcs⟩ := List.exists_cons_of_ne_nil (Nat.toDigits_ne_nil (b := 10) (n := n))
  exact ⟨c, cs, hcs, Nat.isDigit_of_mem_toDigits (b := 10) (n := n) (by decide) (by decide)
    (hcs ▸ List.mem_cons_self)⟩

/-- There is nothing to take out of a numeral without underscores. -/
theorem ungroup_of_forall {cs : List Char} (h : ∀ c ∈ cs, c ≠ '_') : ungroup cs = cs := by
  induction cs with
  | nil => rfl
  | cons c cs ih =>
    obtain ⟨-, hcs⟩ := List.forall_mem_cons.1 h
    rw [ungroup, ih hcs]
    rintro b ds rfl
    exact hcs '_' List.mem_cons_self rfl

/-- A digit is neither a blank nor a sign, and stands between no digits as an underscore does. -/
theorem of_isDigit {c : Char} (h : c.isDigit = true) :
    isBlank c = false ∧ c ≠ '_' ∧ c ≠ '-' ∧ c ≠ '+' := by
  refine ⟨?_, ?_, ?_, ?_⟩
  · have hdigit : 48 ≤ c.toNat ∧ c.toNat ≤ 57 := by
      simpa [Char.isDigit, UInt32.le_iff_toNat_le] using h
    simp only [isBlank, Bool.or_eq_false_iff, Bool.and_eq_false_iff, decide_eq_false_iff_not,
      beq_eq_false_iff_ne]
    omega
  all_goals
    rintro rfl
    cases h

/-- A sign and digits are read as the number that they are written for. -/
theorem readInt?_digits {s : String} {sign : List Char} {negative : Bool} {n : Nat}
    (hs : s.toList = sign ++ Nat.toDigits 10 n) (hsign : Decimal.Sign sign negative)
    (hn : digitCount n ≤ maxDigits) : readInt? s = some (signed negative n) := by
  have hdigit : ∀ c ∈ Nat.toDigits 10 n, c.isDigit = true := fun _ => Decimal.isDigit_of_mem_digits
  have hblank : ∀ c ∈ sign ++ Nat.toDigits 10 n, isBlank c = false := by
    refine List.forall_mem_append.2 ⟨?_, fun c hc => (of_isDigit (hdigit c hc)).1⟩
    cases hsign with
    | unsigned => exact List.forall_mem_nil _
    | plus | minus => exact List.forall_mem_singleton.2 rfl
  have htrim : trimNumeral s = sign ++ Nat.toDigits 10 n := by
    rw [trimNumeral, hs]
    exact Decimal.trimBy_of_forall fun c hc => by rw [hblank c hc, Bool.false_and]
  have hhead : ∀ c cs, Nat.toDigits 10 n = c :: cs → c ≠ '-' ∧ c ≠ '+' := fun c cs hcs =>
    (of_isDigit (hdigit c (hcs ▸ List.mem_cons_self))).2.2
  have hdigits : takeDigits (ungroup (Nat.toDigits 10 n)) =
      ((Nat.toDigits 10 n).map Decimal.digitOf, []) := by
    rw [ungroup_of_forall fun c hc => (of_isDigit (hdigit c hc)).2.1]
    simpa using Decimal.takeDigits_append (Decimal.digits_of_isDigit hdigit) Decimal.noDigit_nil
  have hlength : ¬ maxDigits < (Nat.toDigits 10 n).length := Nat.not_lt.2 hn
  have hne : Nat.toDigits 10 n ≠ [] := Nat.toDigits_ne_nil
  have hvalue : ofDigits ((Nat.toDigits 10 n).map Decimal.digitOf) = n := Decimal.ofDigits_digits n
  rw [readInt?, htrim, Decimal.takeSign_append hsign hhead]
  simp [hdigits, hlength, hne, hvalue]

/-- A whole number that is not too long is read back from its text. -/
theorem readInt?_toString {i : Int} (h : IsShort i) : readInt? (toString i) = some i := by
  have htext := toList_toString i
  by_cases hi : 0 ≤ i
  · rw [if_pos hi] at htext
    rw [readInt?_digits htext .unsigned h]
    exact congrArg some (Int.natAbs_of_nonneg hi)
  · rw [if_neg hi] at htext
    rw [readInt?_digits htext .minus h, signed, if_pos rfl]
    exact congrArg some (by omega)

end Remit.Text
