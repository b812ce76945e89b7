import Mathlib.Algebra.Order.Field.Rat
import Mathlib.Tactic.Linarith
import Mathlib.Tactic.Ring
import Remit.Decimal.Order

/-!
# The value of a decimal, and the exactness of comparing

`Decimal.value` is the rational number that a finite decimal stands for. Comparing two finite
decimals compares their values: `lt?_finite`, `le?_finite` and `equal?_finite`. The work is in the
magnitudes (`compareMagnitude_eq`), where the place of the first digit decides before any
coefficient is looked at (`magnitude_lt_of_adjusted_lt`).
-/

namespace Remit.Decimal

/-- The number `c · 10 ^ e`. -/
def magnitude (c : Nat) (e : Int) : ℚ := c * 10 ^ e

/-- The number that a finite decimal stands for; the others stand for no number. -/
def value : Decimal → ℚ
  | .finite n c e => if n then -magnitude c e else magnitude c e
  | _ => 0

/-! ## Magnitudes -/

theorem power_pos (e : Int) : (0 : ℚ) < 10 ^ e := zpow_pos (by norm_num) e

/-- A magnitude is not negative … -/
theorem magnitude_nonneg (c : Nat) (e : Int) : 0 ≤ magnitude c e := by
  exact mul_nonneg (Nat.cast_nonneg c) (power_pos e).le

/-- … and positive for a coefficient that is not zero. -/
theorem magnitude_pos {c : Nat} (hc : c ≠ 0) (e : Int) : 0 < magnitude c e := by
  exact mul_pos (by exact_mod_cast Nat.pos_of_ne_zero hc) (power_pos e)

@[simp] theorem magnitude_zero (e : Int) : magnitude 0 e = 0 := by simp [magnitude]

/-- A magnitude in units of a smaller power of ten. -/
theorem magnitude_eq_scaled (c : Nat) {e e' : Int} (h : e' ≤ e) :
    magnitude c e = scaled c e e' * 10 ^ e' := by
  have he : (10 : ℚ) ^ e = 10 ^ (e - e').toNat * 10 ^ e' := by
    rw [← zpow_natCast, ← zpow_add₀ (by norm_num)]
    congr 1
    omega
  rw [magnitude, he, scaled]
  push_cast
  ring

/-- A magnitude lies below the power of ten over its first digit. -/
theorem magnitude_lt (c : Nat) (e : Int) : magnitude c e < 10 ^ (adjusted c e + 1) := by
  have hc : c < 10 ^ Text.digitCount c :=
    (Nat.length_toDigits_le_iff (by decide) Nat.length_toDigits_pos).1 le_rfl
  have he : (10 : ℚ) ^ (adjusted c e + 1) = 10 ^ Text.digitCount c * 10 ^ e := by
    rw [← zpow_natCast, ← zpow_add₀ (by norm_num)]
    congr 1
    unfold adjusted
    omega
  rw [he, magnitude]
  exact mul_lt_mul_of_pos_right (by exact_mod_cast hc) (power_pos e)

/-- A magnitude that is not zero reaches the power of ten of its first digit. -/
theorem le_magnitude {c : Nat} (hc : c ≠ 0) (e : Int) : 10 ^ adjusted c e ≤ magnitude c e := by
  obtain ⟨k, hk⟩ : ∃ k, Text.digitCount c = k + 1 :=
    Nat.exists_eq_add_one.2 Nat.length_toDigits_pos
  have hle : 10 ^ k ≤ c := by
    rcases Nat.eq_zero_or_pos k with rfl | hpos
    · exact Nat.one_le_iff_ne_zero.2 hc
    · refine Nat.le_of_not_lt fun hlt => ?_
      have := (Nat.length_toDigits_le_iff (by decide) hpos).2 hlt
      unfold Text.digitCount at hk
      omega
  have he : (10 : ℚ) ^ adjusted c e = 10 ^ k * 10 ^ e := by
    rw [← zpow_natCast, ← zpow_add₀ (by norm_num)]
    congr 1
    unfold adjusted
    omega
  rw [he, magnitude]
  exact mul_le_mul_of_nonneg_right (by exact_mod_cast hle) (power_pos e).le

/-- A first digit at a smaller power of ten makes the smaller magnitude. -/
theorem magnitude_lt_of_adjusted_lt {c c' : Nat} {e e' : Int} (hc' : c' ≠ 0)
    (h : adjusted c e < adjusted c' e') : magnitude c e < magnitude c' e' :=
  calc magnitude c e < 10 ^ (adjusted c e + 1) := magnitude_lt c e
    _ ≤ 10 ^ adjusted c' e' := zpow_le_zpow_right₀ (by norm_num) h
    _ ≤ magnitude c' e' := le_magnitude hc' e'

/-- Comparing magnitudes compares the numbers. -/
theorem compareMagnitude_eq (c : Nat) (e : Int) (c' : Nat) (e' : Int) :
    compareMagnitude c e c' e' = compare (magnitude c e) (magnitude c' e') := by
  unfold compareMagnitude
  split
  · next h =>
    rcases h with rfl | rfl
    · rcases Nat.eq_zero_or_pos c' with rfl | hc'
      · simp
      · rw [magnitude_zero, compare_lt_iff_lt.2 hc',
          compare_lt_iff_lt.2 (magnitude_pos (by omega) e')]
    · rcases Nat.eq_zero_or_pos c with rfl | hc
      · simp
      · rw [magnitude_zero, compare_gt_iff_gt.2 hc,
          compare_gt_iff_gt.2 (magnitude_pos (by omega) e)]
  · next h =>
    obtain ⟨hc, hc'⟩ := not_or.1 h
    rcases lt_trichotomy (adjusted c e) (adjusted c' e') with hlt | heq | hgt
    · rw [compare_lt_iff_lt.2 hlt, compare_lt_iff_lt.2 (magnitude_lt_of_adjusted_lt hc' hlt)]
    · -- The first digits stand at one place: the coefficients in a common unit decide.
      rw [compare_eq_iff_eq.2 heq, magnitude_eq_scaled c (min_le_left e e'),
        magnitude_eq_scaled c' (min_le_right e e')]
      have hpos : (0 : ℚ) < 10 ^ min e e' := power_pos _
      rcases lt_trichotomy (scaled c e (min e e')) (scaled c' e' (min e e')) with h | h | h
      · rw [compare_lt_iff_lt.2 h, compare_lt_iff_lt.2]
        exact mul_lt_mul_of_pos_right (by exact_mod_cast h) hpos
      · simp [h]
      · rw [compare_gt_iff_gt.2 h, compare_gt_iff_gt.2]
        exact mul_lt_mul_of_pos_right (by exact_mod_cast h) hpos
    · rw [compare_gt_iff_gt.2 hgt, compare_gt_iff_gt.2 (magnitude_lt_of_adjusted_lt hc hgt)]

/-! ## Comparing finite decimals -/

/-- A sign counts only before a coefficient that is not zero. -/
theorem value_finite (n : Bool) (c : Nat) (e : Int) :
    value (.finite n c e) = if n && c != 0 then -magnitude c e else magnitude c e := by
  rcases eq_or_ne c 0 with rfl | hc
  · cases n <;> simp [value]
  · simp [value, hc]

/-- Comparing opposites is comparing the other way round. -/
theorem compare_neg (a b : ℚ) : compare (-a) (-b) = compare b a := by
  rcases lt_trichotomy a b with h | rfl | h
  · rw [compare_gt_iff_gt.2 h, compare_gt_iff_gt.2 (neg_lt_neg h)]
  · simp
  · rw [compare_lt_iff_lt.2 h, compare_lt_iff_lt.2 (neg_lt_neg h)]

/-- Comparing finite decimals compares their values. -/
theorem compareFinite_eq (n : Bool) (c : Nat) (e : Int) (n' : Bool) (c' : Nat) (e' : Int) :
    compareFinite n c e n' c' e' =
      compare (value (.finite n c e)) (value (.finite n' c' e')) := by
  unfold compareFinite
  split
  · next hz => obtain ⟨rfl, rfl⟩ := hz; simp [value]
  · have h := magnitude_nonneg c e
    have h' := magnitude_nonneg c' e'
    have hneg : (n && c != 0) = true → 0 < magnitude c e := fun hb =>
      magnitude_pos (by simpa using (Bool.and_eq_true_iff.1 hb).2) e
    have hneg' : (n' && c' != 0) = true → 0 < magnitude c' e' := fun hb =>
      magnitude_pos (by simpa using (Bool.and_eq_true_iff.1 hb).2) e'
    rw [value_finite, value_finite]
    generalize (n && c != 0) = b at hneg ⊢
    generalize (n' && c' != 0) = b' at hneg' ⊢
    cases b <;> cases b'
    · exact compareMagnitude_eq c e c' e'
    · have := hneg' rfl
      exact (compare_gt_iff_gt.2 (by simp; linarith)).symm
    · have := hneg rfl
      exact (compare_lt_iff_lt.2 (by simp; linarith)).symm
    · simpa [compare_neg] using compareMagnitude_eq c' e' c e

variable {a b : Decimal}

/-- Finite decimals are compared by value. -/
theorem compare?_finite (ha : a.isFinite = true) (hb : b.isFinite = true) :
    compare? a b = some (compare a.value b.value) := by
  obtain ⟨n, c, e, rfl⟩ := isFinite_iff.1 ha
  obtain ⟨n', c', e', rfl⟩ := isFinite_iff.1 hb
  rw [compare?, compareFinite_eq]

/-- For finite decimals, `<` is the order of the values. -/
theorem lt?_finite (ha : a.isFinite = true) (hb : b.isFinite = true) :
    lt? a b = .ok (decide (a.value < b.value)) := by
  rw [lt?, compare?_finite ha hb]
  by_cases h : a.value < b.value
  · simp [h, compare_lt_iff_lt.2 h]
  · simp [h, compare_lt_iff_lt]

/-- For finite decimals, `≤` is the order of the values. -/
theorem le?_finite (ha : a.isFinite = true) (hb : b.isFinite = true) :
    le? a b = .ok (decide (a.value ≤ b.value)) := by
  rw [le?, compare?_finite ha hb]
  by_cases h : b.value < a.value
  · simp [not_le.2 h, compare_gt_iff_gt.2 h]
  · simp [not_lt.1 h, compare_gt_iff_gt]

/-- Finite decimals are equal exactly if their values are. -/
theorem equal?_finite (ha : a.isFinite = true) (hb : b.isFinite = true) :
    equal? a b = .ok (decide (a.value = b.value)) := by
  have hsignaling : a.isSignaling = false ∧ b.isSignaling = false := by
    obtain ⟨n, c, e, rfl⟩ := isFinite_iff.1 ha
    obtain ⟨n', c', e', rfl⟩ := isFinite_iff.1 hb
    exact ⟨rfl, rfl⟩
  rw [equal?, hsignaling.1, hsignaling.2, compare?_finite ha hb]
  by_cases h : a.value = b.value
  · simp [h]
  · simp [h]

/-! ## Whole numbers -/

@[simp] theorem isFinite_ofInt (i : Int) : (ofInt i).isFinite = true := rfl

/-- A whole number is its own value. -/
@[simp] theorem value_ofInt (i : Int) : (ofInt i).value = i := by
  rcases lt_or_ge i 0 with h | h
  · have : ((i.natAbs : Int) : ℚ) = -i := by rw [Int.ofNat_natAbs_of_nonpos h.le]; push_cast; rfl
    rw [Int.cast_natCast] at this
    simp [ofInt, value, magnitude, h, this]
  · have : ((i.natAbs : Int) : ℚ) = i := by rw [Int.natAbs_of_nonneg h]
    rw [Int.cast_natCast] at this
    simp [ofInt, value, magnitude, not_lt.2 h, this]

/-- A finite decimal is at most zero exactly if its value is not positive. -/
theorem le?_zero (ha : a.isFinite = true) : a.le? zero = .ok (decide (¬ 0 < a.value)) := by
  rw [zero, le?_finite ha (isFinite_ofInt 0), value_ofInt]
  simp

end Remit.Decimal
