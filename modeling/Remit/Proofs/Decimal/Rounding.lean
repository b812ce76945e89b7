import Mathlib.Data.Int.Log
import Mathlib.Data.Rat.Floor
import Remit.Decimal.Sum
import Remit.Proofs.Decimal.Value

/-!
# Rounding to the digits that a sum keeps

`nearestInt` is the whole number nearest to a rational one, a half going to the even neighbour; a
rounded quotient is that of the exact quotient (`nearestInt_div`). `Decimal.nearest` rounds a
positive number to `precision` significant digits, the last of which stands at its `place`.

Rounding keeps the order (`nearest_mono`), also where a number has more digits in front of its point
than another, and it keeps the numbers that have no more digits than are kept (`Precise`,
`nearest_of_precise`). All numbers strictly between two neighbours of a grid that is finer than the
last kept digit are rounded to one (`nearest_eq_of_between`).
-/

namespace Remit

/-! ## Whole numbers -/

/-- The whole number nearest to a number, a half going to the even neighbour. -/
def nearestInt (x : ℚ) : ℤ :=
  if Int.fract x < 1 / 2 ∨ Int.fract x = 1 / 2 ∧ Even ⌊x⌋ then ⌊x⌋ else ⌊x⌋ + 1

/-- The nearest whole number is the one below … -/
theorem floor_le_nearestInt (x : ℚ) : ⌊x⌋ ≤ nearestInt x := by
  unfold nearestInt
  split <;> omega

/-- … or the next one. -/
theorem nearestInt_le_floor_add_one (x : ℚ) : nearestInt x ≤ ⌊x⌋ + 1 := by
  unfold nearestInt
  split <;> omega

@[simp] theorem nearestInt_intCast (i : ℤ) : nearestInt i = i := by
  simp [nearestInt]

/-- Rounding to whole numbers keeps the order. -/
theorem nearestInt_mono {x y : ℚ} (h : x ≤ y) : nearestInt x ≤ nearestInt y := by
  rcases (Int.floor_le_floor h).lt_or_eq with hlt | heq
  · have hx := nearestInt_le_floor_add_one x
    have hy := floor_le_nearestInt y
    omega
  · -- Above one whole number the fractions decide.
    have hfract : Int.fract x ≤ Int.fract y := by
      rw [Int.fract, Int.fract, heq]
      linarith
    unfold nearestInt
    rw [heq]
    split
    · split <;> omega
    · next hx =>
      rw [if_neg]
      rintro (hy | ⟨hy, heven⟩)
      · exact hx (.inl (hfract.trans_lt hy))
      · rcases (hfract.trans_eq hy).lt_or_eq with hlt | heq
        · exact hx (.inl hlt)
        · exact hx (.inr ⟨heq, heven⟩)

/-- Between two neighbouring multiples of one half, all numbers are rounded to one. -/
theorem nearestInt_of_between {x : ℚ} {m : ℤ} (h : m < 2 * x) (h' : 2 * x < m + 1) :
    nearestInt x = (m + 1) / 2 := by
  have hfloor : ⌊x⌋ = m / 2 := by
    rw [Int.floor_eq_iff]
    have hle : ((2 * (m / 2) : ℤ) : ℚ) ≤ m := by exact_mod_cast (by omega : 2 * (m / 2) ≤ m)
    have hge : ((m + 1 : ℤ) : ℚ) ≤ (2 * (m / 2) + 2 : ℤ) := by
      exact_mod_cast (by omega : m + 1 ≤ 2 * (m / 2) + 2)
    push_cast at hle hge
    constructor <;> linarith
  have hfract : Int.fract x = x - (m / 2 : ℤ) := by rw [Int.fract, hfloor]
  rw [nearestInt, hfract, hfloor]
  rcases Int.even_or_odd' m with ⟨k, rfl | rfl⟩
  · have hk : (2 * k) / 2 = k := by omega
    rw [hk, if_pos]
    · omega
    · left
      push_cast at h'
      linarith
  · have hk : (2 * k + 1) / 2 = k := by omega
    rw [hk, if_neg]
    · omega
    · push_cast at h
      rintro (hlt | ⟨heq, -⟩) <;> linarith

/-- A rounded quotient is the whole number nearest to the quotient. -/
theorem nearestInt_div (n : Nat) {d : Nat} (hd : 0 < d) : nearestInt (n / d) = roundDiv n d := by
  have hd' : (0 : ℚ) < d := by exact_mod_cast hd
  have hfloor : ⌊(n / d : ℚ)⌋ = ((n / d : Nat) : ℤ) := Rat.floor_natCast_div_natCast n d
  have hfract : Int.fract (n / d : ℚ) = (n % d : Nat) / d :=
    Int.fract_div_natCast_eq_div_natCast_mod
  have hlt : ((n % d : Nat) / d : ℚ) < 1 / 2 ↔ 2 * (n % d) < d := by
    rw [div_lt_div_iff₀ hd' (by norm_num), one_mul, mul_comm]
    exact_mod_cast Iff.rfl
  have heq : ((n % d : Nat) / d : ℚ) = 1 / 2 ↔ 2 * (n % d) = d := by
    rw [div_eq_div_iff hd'.ne' (by norm_num), one_mul, mul_comm]
    exact_mod_cast Iff.rfl
  have heven : Even ((n / d : Nat) : ℤ) ↔ n / d % 2 = 0 := by
    rw [Int.even_coe_nat, Nat.even_iff]
  rw [nearestInt, hfract, hfloor]
  simp only [hlt, heq, heven, roundDiv]
  split <;> simp

namespace Decimal

/-! ## Significant digits -/

/-- The place of the last digit of a number that is kept. -/
def place (x : ℚ) : ℤ := Int.log 10 x + 1 - precision

/-- A number rounded to the digits that are kept. -/
def nearest (x : ℚ) : ℚ := nearestInt (x / 10 ^ place x) * 10 ^ place x

/-- A number that has no more significant digits than are kept. -/
def Precise (x : ℚ) : Prop := ∃ (c : Nat) (e : ℤ), c < 10 ^ precision ∧ x = magnitude c e

variable {x y : ℚ}

theorem power_add (e e' : ℤ) : (10 : ℚ) ^ (e + e') = 10 ^ e * 10 ^ e' :=
  zpow_add₀ (by norm_num) e e'

theorem power_mono {e e' : ℤ} (h : e ≤ e') : (10 : ℚ) ^ e ≤ 10 ^ e' :=
  zpow_le_zpow_right₀ (by norm_num) h

/-- A number reaches a power of ten exactly if the place of its last kept digit does. -/
theorem power_le_iff (hx : 0 < x) (e : ℤ) : 10 ^ e ≤ x ↔ e + 1 - precision ≤ place x := by
  have h := Int.zpow_le_iff_le_log (b := 10) (by norm_num) hx (x := e)
  rw [Nat.cast_ofNat] at h
  rw [h, place]
  omega

/-- How large a number is tells the place that it is rounded to … -/
theorem lt_power_iff (hx : 0 < x) (e : ℤ) : x < 10 ^ e ↔ place x < e + 1 - precision := by
  rw [← not_le, power_le_iff hx, not_le]

/-- … which is not lower for a larger number. -/
theorem place_mono (hx : 0 < x) (h : x ≤ y) : place x ≤ place y := by
  have := Int.log_mono_right (b := 10) hx h
  unfold place
  omega

/-- Rounding does not pass a multiple of the last kept digit, from below … -/
theorem nearest_le {k : ℤ} (h : x ≤ k * 10 ^ place x) : nearest x ≤ k * 10 ^ place x := by
  have hdiv : x / 10 ^ place x ≤ k := (div_le_iff₀ (power_pos _)).2 h
  refine mul_le_mul_of_nonneg_right ?_ (power_pos _).le
  exact_mod_cast (nearestInt_mono hdiv).trans_eq (nearestInt_intCast k)

/-- … or from above. -/
theorem le_nearest {k : ℤ} (h : k * 10 ^ place x ≤ x) : k * 10 ^ place x ≤ nearest x := by
  have hdiv : k ≤ x / 10 ^ place x := (le_div_iff₀ (power_pos _)).2 h
  refine mul_le_mul_of_nonneg_right ?_ (power_pos _).le
  exact_mod_cast (nearestInt_intCast k).symm.trans_le (nearestInt_mono hdiv)

/-- A number is rounded up to the next power of ten at most. -/
theorem nearest_le_power (hx : 0 < x) : nearest x ≤ 10 ^ (place x + precision) := by
  have hpower : (10 : ℚ) ^ (place x + precision) = (10 ^ precision : ℤ) * 10 ^ place x := by
    rw [add_comm, power_add, zpow_natCast]
    push_cast
    rfl
  rw [hpower]
  refine nearest_le (hpower ▸ ((lt_power_iff hx _).2 ?_).le)
  omega

/-- A number is rounded down to the power of ten of its first digit at most. -/
theorem power_le_nearest (hx : 0 < x) : 10 ^ (place x + precision - 1) ≤ nearest x := by
  have hpower : (10 : ℚ) ^ (place x + precision - 1) =
      (10 ^ (precision - 1) : ℤ) * 10 ^ place x := by
    have he : place x + precision - 1 = ((precision - 1 : Nat) : ℤ) + place x := by
      unfold precision
      omega
    rw [he, power_add, zpow_natCast]
    push_cast
    rfl
  rw [hpower]
  refine le_nearest (hpower ▸ (power_le_iff hx _).2 ?_)
  omega

/-- Rounding keeps the order. -/
theorem nearest_mono (hx : 0 < x) (h : x ≤ y) : nearest x ≤ nearest y := by
  rcases (place_mono hx h).lt_or_eq with hlt | heq
  · calc nearest x ≤ 10 ^ (place x + precision) := nearest_le_power hx
      _ ≤ 10 ^ (place y + precision - 1) := power_mono (by omega)
      _ ≤ nearest y := power_le_nearest (hx.trans_le h)
  · rw [nearest, nearest, heq]
    refine mul_le_mul_of_nonneg_right ?_ (power_pos _).le
    exact_mod_cast nearestInt_mono (div_le_div_of_nonneg_right h (power_pos _).le)

/-- Rounding keeps what has no more digits than are kept. -/
theorem nearest_of_precise (hx : 0 < x) (h : Precise x) : nearest x = x := by
  obtain ⟨c, e, hc, rfl⟩ := h
  have hlt : magnitude c e < 10 ^ (precision + e : ℤ) := by
    rw [power_add, zpow_natCast]
    exact mul_lt_mul_of_pos_right (by exact_mod_cast hc) (power_pos e)
  have hplace : place (magnitude c e) ≤ e := by
    have := (lt_power_iff hx _).1 hlt
    omega
  have hmultiple := magnitude_eq_scaled c hplace
  have hcast : ((scaled c e (place (magnitude c e)) : ℤ) : ℚ) =
      scaled c e (place (magnitude c e)) := Int.cast_natCast _
  rw [← hcast] at hmultiple
  exact le_antisymm ((nearest_le hmultiple.le).trans_eq hmultiple.symm)
    (hmultiple.trans_le (le_nearest hmultiple.ge))

/-- A whole number of few digits is kept by rounding. -/
theorem precise_intCast {i : Int} (hpos : 0 < i) (h : i < 10 ^ precision) : Precise i := by
  refine ⟨i.toNat, 0, (Int.toNat_lt hpos.le).2 (by exact_mod_cast h), ?_⟩
  have : ((i.toNat : ℤ) : ℚ) = i := by rw [Int.toNat_of_nonneg hpos.le]
  rw [magnitude, zpow_zero, mul_one, ← this]
  rfl

/-! ## Finer grids -/

/-- A power of ten that a number between two neighbours of a grid reaches is reached by the lower
one. -/
theorem power_le_of_lt {m : Nat} (hm : m ≠ 0) {e q : ℤ} (h : 10 ^ e ≤ x)
    (hx : x < magnitude (m + 1) q) : 10 ^ e ≤ magnitude m q := by
  rcases le_or_gt q e with hq | hq
  · obtain ⟨k, rfl⟩ := Int.le.dest hq
    rw [add_comm, power_add, zpow_natCast] at h ⊢
    have hlt : (10 : ℚ) ^ k < (m + 1 : Nat) :=
      lt_of_mul_lt_mul_right (h.trans_lt hx) (power_pos q).le
    have hle : 10 ^ k ≤ m := Nat.lt_succ_iff.1 (by exact_mod_cast hlt)
    exact mul_le_mul_of_nonneg_right (by exact_mod_cast hle) (power_pos q).le
  · calc (10 : ℚ) ^ e ≤ 10 ^ q := power_mono hq.le
      _ ≤ magnitude m q := by
        refine le_mul_of_one_le_left (power_pos q).le ?_
        exact_mod_cast Nat.one_le_iff_ne_zero.2 hm

/-- Between two neighbours of a grid the last kept digit stands at one place. -/
theorem place_eq_of_between {m : Nat} (hm : m ≠ 0) {q : ℤ} (h : magnitude m q < x)
    (h' : x < magnitude (m + 1) q) : place x = place (magnitude m q) := by
  have hpos := magnitude_pos hm q
  refine le_antisymm ?_ (place_mono hpos h.le)
  have hx := (power_le_iff (hpos.trans h) (place x + precision - 1)).2 (by omega)
  have := (power_le_iff hpos _).1 (power_le_of_lt hm hx h')
  omega

/-- Between two neighbours of a grid that is finer than the last kept digit, all numbers are rounded
to one. -/
theorem nearest_eq_of_between {m : Nat} (hm : 10 ^ precision ≤ m) {q : ℤ}
    (hx : magnitude m q < x) (hx' : x < magnitude (m + 1) q)
    (hy : magnitude m q < y) (hy' : y < magnitude (m + 1) q) : nearest x = nearest y := by
  have hm0 : m ≠ 0 := by
    have : 0 < 10 ^ precision := by positivity
    omega
  have hplace : place y = place x :=
    (place_eq_of_between hm0 hy hy').trans (place_eq_of_between hm0 hx hx').symm
  -- The last kept digit counts ten times a power of ten of steps of the grid.
  obtain ⟨k, hk⟩ : ∃ k : Nat, place x = (k : ℤ) + 1 + q := by
    have hle : (10 : ℚ) ^ (precision + q : ℤ) ≤ magnitude m q := by
      rw [power_add, zpow_natCast]
      exact mul_le_mul_of_nonneg_right (by exact_mod_cast hm) (power_pos q).le
    have hpos := magnitude_pos hm0 q
    have h := (power_le_iff (hpos.trans hx) _).1 (hle.trans hx.le)
    exact ⟨(place x - 1 - q).toNat, by omega⟩
  -- Half of it counts five times that, so no half lies strictly inside a step.
  have hround : ∀ z, magnitude m q < z → z < magnitude (m + 1) q →
      nearestInt (z / 10 ^ place x) = ((m / (5 * 10 ^ k) : Nat) + 1) / 2 := by
    intro z hz hz'
    have hsteps : (0 : ℚ) < 5 * 10 ^ k := by positivity
    have hdouble : 2 * (z / 10 ^ place x) = z / 10 ^ q / (5 * 10 ^ k) := by
      rw [hk, power_add, power_add, zpow_natCast]
      field_simp
      ring
    have hlow : (m : ℚ) < z / 10 ^ q := (lt_div_iff₀ (power_pos q)).2 hz
    have hhigh : z / 10 ^ q < (m + 1 : Nat) := (div_lt_iff₀ (power_pos q)).2 hz'
    refine nearestInt_of_between ?_ ?_
    · rw [hdouble, lt_div_iff₀ hsteps]
      refine lt_of_le_of_lt ?_ hlow
      exact_mod_cast Nat.div_mul_le_self m (5 * 10 ^ k)
    · rw [hdouble, div_lt_iff₀ hsteps]
      refine hhigh.trans_le ?_
      exact_mod_cast Nat.lt_mul_of_div_lt (Nat.lt_succ_self _) (by positivity)
  rw [nearest, nearest, hplace, hround x hx hx', hround y hy hy']

end Decimal

end Remit
