import Remit.Proofs.Decimal.Rounding

/-!
# The value of a sum

The sum of two positive decimals is the exact sum of their values, rounded: it has that value, or it
is too large to be represented (`Rounds`, `rounds_sum`). For operands far apart this needs that one
unit below the digits that rounding looks at stands for the smaller operand
(`nearest_add_remainder`).
-/

namespace Remit.Decimal

/-- The least number that is too large for a sum. -/
def sumBound : ℚ := 10 ^ (maxSumExponent + 1)

/-- What a sum comes to if `x` is the exact one: the decimal of the rounded number, or the signal
that it is too large. -/
inductive Rounds (x : ℚ) : Except Signal Decimal → Prop
  | ok {d : Decimal} (hfinite : d.isFinite = true) (hvalue : d.value = nearest x)
      (hbound : nearest x < sumBound) : Rounds x (.ok d)
  | overflow (hbound : sumBound ≤ nearest x) : Rounds x (.error .overflow)

/-! ## Rounding a coefficient -/

variable {c : Nat}

/-- Whether the first digit stands beyond a power of ten is read off the magnitude. -/
theorem lt_adjusted_iff (hc : c ≠ 0) (e e' : Int) :
    e' < adjusted c e ↔ 10 ^ (e' + 1) ≤ magnitude c e := by
  refine ⟨fun h => (power_mono h).trans (le_magnitude hc e), fun h => ?_⟩
  by_contra hle
  exact absurd (h.trans_lt (magnitude_lt c e)) (not_lt.2 (power_mono (by omega)))

/-- The place that a coefficient with an exponent is rounded to is told by its count of digits. -/
theorem place_magnitude (hc : c ≠ 0) (e : Int) :
    place (magnitude c e) = e + Text.digitCount c - precision := by
  have hpos := magnitude_pos hc e
  have hle := (power_le_iff hpos _).1 (le_magnitude hc e)
  have hlt := (lt_power_iff hpos _).1 (magnitude_lt c e)
  unfold adjusted at hle hlt
  omega

/-- A number of so many digits is below that power of ten. -/
theorem lt_power_digitCount (c : Nat) : c < 10 ^ Text.digitCount c :=
  (Nat.length_toDigits_le_iff (by decide) Nat.length_toDigits_pos).1 le_rfl

/-- A power of ten has two spellings: the digits before its last zero may count one more. -/
theorem magnitude_carry (e : Int) :
    magnitude (10 ^ (precision - 1)) (e + 1) = magnitude (10 ^ precision) e := by
  rw [magnitude, magnitude, add_comm, power_add, zpow_one, precision]
  push_cast
  ring

/-- Rounding a coefficient rounds the number. -/
theorem magnitude_rounded (hc : c ≠ 0) (e : Int) :
    magnitude (rounded c e).1 (rounded c e).2 = nearest (magnitude c e) := by
  have hq : ∀ k : Nat, k = Text.digitCount c - precision →
      magnitude (roundDiv c (10 ^ k)) (e + k) = nearest (magnitude c e) := by
    intro k hk
    rcases Nat.eq_zero_or_pos k with rfl | hpos
    · have hlt : c < 10 ^ precision :=
        (lt_power_digitCount c).trans_le (Nat.pow_le_pow_right (by decide) (by omega))
      rw [nearest_of_precise (magnitude_pos hc e) ⟨c, e, hlt, rfl⟩]
      simp
    · have hplace : place (magnitude c e) = k + e := by
        rw [place_magnitude hc]
        omega
      have hquotient : magnitude c e / 10 ^ (k + e : ℤ) = c / (10 ^ k : Nat) := by
        rw [magnitude, power_add, zpow_natCast, mul_div_mul_right _ _ (power_pos e).ne']
        push_cast
        rfl
      rw [nearest, hplace, hquotient, nearestInt_div c (by positivity), magnitude, add_comm]
      push_cast
      rfl
  have h := hq _ rfl
  simp only [rounded]
  split
  · next hcarry =>
    rw [hcarry] at h
    exact (magnitude_carry _).trans h
  · exact h

/-- A coefficient that is not zero settles to the number that it rounds to. -/
theorem rounds_settle (hc : c ≠ 0) (e : Int) : Rounds (magnitude c e) (settle false c e) := by
  have hvalue := magnitude_rounded hc e
  have hpos : 0 < nearest (magnitude c e) :=
    (power_pos _).trans_le (power_le_nearest (magnitude_pos hc e))
  have hne : (rounded c e).1 ≠ 0 := by
    intro h0
    rw [h0, magnitude_zero] at hvalue
    exact hpos.ne hvalue
  have hbound := lt_adjusted_iff hne (rounded c e).2 maxSumExponent
  rw [hvalue] at hbound
  simp only [settle]
  split
  · next h => exact .overflow (hbound.1 h.2)
  · next h => exact .ok rfl hvalue (not_le.1 fun hle => h ⟨hne, hbound.2 hle⟩)

/-! ## Operands far apart -/

/-- The first operand, in units just above those that a remainder counts as, has all the digits that
rounding looks at. -/
theorem precision_le_scaled (hc : c ≠ 0) {e q : Int} (hq : q ≤ e)
    (h : precision + q ≤ adjusted c e) : 10 ^ precision ≤ scaled c e q := by
  have hle := (power_mono h).trans (le_magnitude hc e)
  rw [magnitude_eq_scaled c hq, power_add, zpow_natCast] at hle
  exact_mod_cast le_of_mul_le_mul_right hle (power_pos q)

/-- What is added in place of the smaller operand rounds the same way. -/
theorem nearest_add_remainder (hc : c ≠ 0) (e : Int) {c' : Nat} (hc' : c' ≠ 0) (e' : Int) :
    nearest (magnitude c e + magnitude (remainder c e c' e').1 (remainder c e c' e').2) =
      nearest (magnitude c e + magnitude c' e') := by
  simp only [remainder]
  split
  · next hfar =>
    -- Both remainders lie inside one step of the grid whose unit stands just over the floor.
    set floor := e + min (-1) ((Text.digitCount c : Int) - precision - 2) with hfloor
    have hq : floor + 1 ≤ e := by omega
    have hm : 10 ^ precision ≤ scaled c e (floor + 1) :=
      precision_le_scaled hc hq (by unfold adjusted; omega)
    have hgrid : magnitude (scaled c e (floor + 1)) (floor + 1) = magnitude c e :=
      (magnitude_eq_scaled c hq).symm
    have hstep : magnitude (scaled c e (floor + 1) + 1) (floor + 1) =
        magnitude c e + 10 ^ (floor + 1) := by
      rw [← hgrid, magnitude, magnitude]
      push_cast
      ring
    have hinside : ∀ y : ℚ, 0 < y → y < 10 ^ (floor + 1) →
        magnitude (scaled c e (floor + 1)) (floor + 1) < magnitude c e + y ∧
          magnitude c e + y < magnitude (scaled c e (floor + 1) + 1) (floor + 1) := by
      intro y hy hy'
      rw [hgrid, hstep]
      constructor <;> linarith
    have hunit := hinside (magnitude 1 floor) (magnitude_pos one_ne_zero _) (by
      rw [magnitude, Nat.cast_one, one_mul]
      exact zpow_lt_zpow_right₀ (by norm_num) (by omega))
    have hoperand := hinside (magnitude c' e') (magnitude_pos hc' e')
      ((magnitude_lt c' e').trans_le (power_mono (by omega)))
    exact nearest_eq_of_between hm hunit.1 hunit.2 hoperand.1 hoperand.2
  · rfl

/-- What is added in place of a number that is not zero is not zero. -/
theorem remainder_ne_zero (c : Nat) (e : Int) {c' : Nat} (hc' : c' ≠ 0) (e' : Int) :
    (remainder c e c' e').1 ≠ 0 := by
  simp only [remainder]
  split
  · exact one_ne_zero
  · exact hc'

/-! ## Sums -/

/-- A result rounds every number that is rounded alike. -/
theorem Rounds.congr {x y : ℚ} {r : Except Signal Decimal} (h : nearest x = nearest y)
    (hr : Rounds x r) : Rounds y r := by
  cases hr with
  | ok hfinite hvalue hbound => exact .ok hfinite (hvalue.trans h) (h ▸ hbound)
  | overflow hbound => exact .overflow (h ▸ hbound)

/-- The sum of two positive numbers is rounded, the first of which has the larger exponent. -/
theorem rounds_addAligned (hc : c ≠ 0) (e : Int) {c' : Nat} (hc' : c' ≠ 0) (e' : Int) :
    Rounds (magnitude c e + magnitude c' e') (addAligned false c e false c' e') := by
  refine .congr (nearest_add_remainder hc e hc' e') ?_
  have hr := remainder_ne_zero c e hc' e'
  simp only [addAligned]
  generalize (remainder c e c' e') = r at hr ⊢
  obtain ⟨c', e'⟩ := r
  set m := min e e'
  have hsum : Text.signed false (scaled c e m) + Text.signed false (scaled c' e' m) =
      (scaled c e m + scaled c' e' m : Nat) := by simp [Text.signed]
  have hmagnitude : magnitude c e + magnitude c' e' =
      magnitude (scaled c e m + scaled c' e' m) m := by
    rw [magnitude_eq_scaled c (min_le_left e e'), magnitude_eq_scaled c' (min_le_right e e'),
      magnitude]
    push_cast
    ring
  have hne : scaled c e m + scaled c' e' m ≠ 0 := by
    intro h0
    rw [h0, magnitude_zero] at hmagnitude
    have := magnitude_pos hc e
    have := magnitude_pos hr e'
    linarith
  rw [hsum, hmagnitude, Int.natAbs_natCast, decide_eq_false (by omega)]
  exact rounds_settle hne m

/-- The value of a decimal is positive exactly for a finite one without sign. -/
theorem value_pos_iff {a : Decimal} :
    0 < a.value ↔ ∃ c e, c ≠ 0 ∧ a = .finite false c e ∧ a.value = magnitude c e := by
  constructor
  · cases a with
    | finite n c e =>
      intro h
      cases n with
      | false =>
        refine ⟨c, e, ?_, rfl, rfl⟩
        rintro rfl
        simp [value] at h
      | true =>
        have := magnitude_nonneg c e
        simp only [value, if_true] at h
        linarith
    | infinite n => simp [value]
    | nan n s p => simp [value]
  · rintro ⟨c, e, hc, -, h⟩
    exact h ▸ magnitude_pos hc e

/-- The sum of positive decimals is the exact sum, rounded. -/
theorem rounds_sum {a b : Decimal} (ha : 0 < a.value) (hb : 0 < b.value) :
    Rounds (a.value + b.value) (a.sum b) := by
  obtain ⟨c, e, hc, rfl, hvalue⟩ := value_pos_iff.1 ha
  obtain ⟨c', e', hc', rfl, hvalue'⟩ := value_pos_iff.1 hb
  rw [hvalue, hvalue']
  simp only [sum, isSignaling, Bool.or_self, Bool.false_eq_true, if_false, sumFinite, hc, hc',
    and_self]
  split
  · exact rounds_addAligned hc e hc' e'
  · rw [add_comm]
    exact rounds_addAligned hc' e' hc e

end Remit.Decimal
