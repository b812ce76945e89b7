import Remit.Proofs.Decimal.Value

/-!
# Whole decimals

A finite decimal is recognised as a whole number exactly if its value is one, whatever way it is
written (`Decimal.isWhole_iff`), and then it is truncated to that number (`Decimal.value_truncate`).
The test on the count of digits only spares a large power of ten: a coefficient that a power of ten
divides has more digits than its exponent (`Decimal.lt_digitCount_of_dvd`).
-/

namespace Remit.Decimal

-- Powers are those of the core library, as in the definitions.
attribute [local instance (high)] instPowNat

/-- A number has at most so many digits exactly if it is below that power of ten. -/
theorem digitCount_le_iff {c k : Nat} (hk : 0 < k) : Text.digitCount c ≤ k ↔ c < 10 ^ k :=
  Nat.length_toDigits_le_iff (by decide) hk

/-- What a power of ten divides has more digits than the power has zeros. -/
theorem lt_digitCount_of_dvd {c k : Nat} (hc : c ≠ 0) (h : 10 ^ k ∣ c) : k < Text.digitCount c := by
  rcases Nat.eq_zero_or_pos k with rfl | hk
  · exact Nat.length_toDigits_pos
  · have hle : 10 ^ k ≤ c := Nat.le_of_dvd (Nat.pos_of_ne_zero hc) h
    by_contra hlt
    have := (digitCount_le_iff hk).1 (Nat.le_of_not_lt hlt)
    omega

/-- A decimal with places behind the point is whole exactly if they are zeros. -/
theorem isWhole_finite (n : Bool) (c : Nat) (e : Int) :
    (Decimal.finite n c e).isWhole = true ↔ 0 ≤ e ∨ 10 ^ (-e).toNat ∣ c := by
  simp only [isWhole, Bool.or_eq_true, Bool.and_eq_true, decide_eq_true_eq, beq_iff_eq,
    ← Nat.dvd_iff_mod_eq_zero]
  constructor
  · rintro ((he | rfl) | ⟨-, hdvd⟩)
    · exact .inl he
    · exact .inr (Nat.dvd_zero _)
    · exact .inr hdvd
  · rintro (he | hdvd)
    · exact .inl (.inl he)
    · by_cases hc : c = 0
      · exact .inl (.inr hc)
      · have := lt_digitCount_of_dvd hc hdvd
        exact .inr ⟨by omega, hdvd⟩

/-- Truncating divides by the places behind the point. -/
theorem truncate_finite (n : Bool) (c : Nat) (e : Int) :
    (Decimal.finite n c e).truncate =
      Text.signed n (if 0 ≤ e then c * 10 ^ e.toNat else c / 10 ^ (-e).toNat) := by
  rw [truncate]
  by_cases he : 0 ≤ e
  · rw [if_pos he, if_pos he]
  · rw [if_neg he, if_neg he]
    split
    · rfl
    · next hcount =>
      have hlt : c < 10 ^ (-e).toNat := (digitCount_le_iff (by omega)).1 (by omega)
      rw [Nat.div_eq_of_lt hlt]

/-- A decimal whose magnitude is whole has that as its value, with its sign. -/
theorem value_eq_signed {n : Bool} {c m : Nat} {e : Int} (h : magnitude c e = m) :
    value (.finite n c e) = Text.signed n m := by
  cases n <;> simp [value, Text.signed, h]

/-- The number behind a coefficient with places behind the point. -/
theorem magnitude_of_neg (c : Nat) {e : Int} (he : ¬ 0 ≤ e) :
    magnitude c e = c / (10 ^ (-e).toNat : Nat) := by
  have hpow : (10 : ℚ) ^ e = ((10 ^ (-e).toNat : Nat) : ℚ)⁻¹ := by
    obtain ⟨k, rfl⟩ : ∃ k : Nat, e = -(k : Int) := ⟨(-e).toNat, by omega⟩
    rw [zpow_neg, zpow_natCast, neg_neg, Int.toNat_natCast]
    norm_cast
  rw [magnitude, hpow, div_eq_mul_inv]

/-- A whole decimal has the value that it is truncated to. -/
theorem value_truncate {d : Decimal} (h : d.isWhole = true) : d.value = d.truncate := by
  cases d with
  | finite n c e =>
    rw [truncate_finite]
    by_cases he : 0 ≤ e
    · rw [if_pos he]
      refine value_eq_signed ?_
      rw [magnitude_eq_scaled c he, scaled, sub_zero, zpow_zero, mul_one]
    · obtain ⟨m, rfl⟩ := ((isWhole_finite n c e).1 h).resolve_left he
      have hpos : 0 < 10 ^ (-e).toNat := by positivity
      rw [if_neg he, Nat.mul_div_cancel_left m hpos]
      refine value_eq_signed ?_
      rw [magnitude_of_neg _ he, Nat.cast_mul, mul_div_cancel_left₀ _ (by exact_mod_cast hpos.ne')]
  | infinite _ => cases h
  | nan _ _ _ => cases h

/-- A finite decimal is whole exactly if its value is. -/
theorem isWhole_iff {d : Decimal} (hd : d.isFinite = true) :
    d.isWhole = true ↔ ∃ i : Int, d.value = i := by
  constructor
  · exact fun h => ⟨d.truncate, value_truncate h⟩
  · rintro ⟨i, hi⟩
    obtain ⟨n, c, e, rfl⟩ := isFinite_iff.1 hd
    rw [isWhole_finite]
    by_cases he : 0 ≤ e
    · exact .inl he
    · right
      -- The value times the power of ten is the coefficient.
      have habs : |value (.finite n c e)| = c / (10 ^ (-e).toNat : Nat) := by
        rw [← magnitude_of_neg c he]
        cases n <;> simp [value, abs_of_nonneg (magnitude_nonneg c e)]
      rw [hi, eq_div_iff (by positivity)] at habs
      refine ⟨i.natAbs, ?_⟩
      rw [Nat.mul_comm]
      have : ((i.natAbs * 10 ^ (-e).toNat : Nat) : ℚ) = c := by
        rw [← habs, Nat.cast_mul, Nat.cast_natAbs, Int.cast_abs]
      exact_mod_cast this.symm

end Remit.Decimal
