import Remit.Proofs.Decimal.Sum
import Remit.Transfer.Limit

/-!
# What the daily ceiling decides

The rule of the daily ceiling compares exact numbers: once something was transferred that day, an
amount is too much if the cap is reached already or if the projected total lies above it
(`LimitSettings.Rejects`). What `exceedsDailyLimit` projects is the total rounded to the digits that
a sum keeps, and a total that is too large for a sum breaks it down (`exceedsDailyLimit_eq`). So it
decides by the rule where the total is represented exactly (`exceedsDailyLimit_exact`), and not
beyond (`exceedsDailyLimit_inexact`). A rounded total never makes it reject what the rule lets pass,
as long as the cap itself has no more digits than are kept (`rejects_of_exceedsDailyLimit`).
-/

namespace Remit

open Decimal

namespace LimitSettings

/-- The rule of the daily ceiling, for the total that was transferred that day and the total that
there would be after the transfer. -/
def Rejects (settings : LimitSettings) (consumed projected : ℚ) : Prop :=
  settings.enabled = true ∧
    ∃ cap ∈ settings.cap, 0 < cap ∧ 0 < consumed ∧ (cap ≤ consumed ∨ cap < projected)

instance (settings : LimitSettings) (consumed projected : ℚ) :
    Decidable (settings.Rejects consumed projected) :=
  inferInstanceAs (Decidable (_ ∧ ∃ cap ∈ settings.cap, _))

/-- Whether the rule depends on the total after the transfer. -/
def Weighs (settings : LimitSettings) (consumed : ℚ) : Prop :=
  settings.enabled = true ∧ ∃ cap ∈ settings.cap, 0 < consumed ∧ consumed < cap

instance (settings : LimitSettings) (consumed : ℚ) : Decidable (settings.Weighs consumed) :=
  inferInstanceAs (Decidable (_ ∧ ∃ cap ∈ settings.cap, _))

@[simp] theorem not_rejects_disabled (cap : Option Int) (consumed projected : ℚ) :
    ¬ Rejects ⟨false, cap⟩ consumed projected := by simp [Rejects]

@[simp] theorem not_rejects_none (enabled : Bool) (consumed projected : ℚ) :
    ¬ Rejects ⟨enabled, none⟩ consumed projected := by simp [Rejects]

/-- What a cap rejects: it counts once something was used up, and is reached then or exceeded. -/
@[simp] theorem rejects_some (cap : Int) (consumed projected : ℚ) :
    Rejects ⟨true, some cap⟩ consumed projected ↔
      0 < cap ∧ 0 < consumed ∧ (cap ≤ consumed ∨ cap < projected) := by simp [Rejects]

@[simp] theorem not_weighs_disabled (cap : Option Int) (consumed : ℚ) :
    ¬ Weighs ⟨false, cap⟩ consumed := by simp [Weighs]

@[simp] theorem not_weighs_none (enabled : Bool) (consumed : ℚ) :
    ¬ Weighs ⟨enabled, none⟩ consumed := by simp [Weighs]

/-- A cap adds up if something was used up, but less than the cap. -/
@[simp] theorem weighs_some (cap : Int) (consumed : ℚ) :
    Weighs ⟨true, some cap⟩ consumed ↔ 0 < consumed ∧ consumed < cap := by simp [Weighs]

/-- Where the rule does not weigh the total after the transfer, it decides without it. -/
theorem rejects_congr {settings : LimitSettings} {consumed : ℚ} (h : ¬ settings.Weighs consumed)
    (projected projected' : ℚ) :
    settings.Rejects consumed projected ↔ settings.Rejects consumed projected' := by
  obtain ⟨_ | _, _ | cap⟩ := settings
  case true.some =>
    rw [weighs_some] at h
    rw [rejects_some, rejects_some]
    refine and_congr_right fun _ => and_congr_right fun hpos => ?_
    have hreached : (cap : ℚ) ≤ consumed := not_lt.1 fun hlt => h ⟨hpos, hlt⟩
    simp [hreached]
  all_goals simp

end LimitSettings

variable {amount consumed : Decimal} {settings : LimitSettings} {cap : Int}

/-! ## What is decided -/

/-- A cap that is reached rejects every amount. -/
theorem exceedsCap_of_le (hc : consumed.isFinite = true) (h : cap ≤ consumed.value) :
    exceedsCap amount consumed cap = .ok true := by
  have hreached : le? (.ofInt cap) consumed = .ok true := by
    rw [le?_finite (isFinite_ofInt cap) hc, value_ofInt, decide_eq_true h]
  rw [exceedsCap, hreached]
  rfl

/-- A cap that is not reached decides by the rounded total. -/
theorem exceedsCap_of_lt (ha : 0 < amount.value) (hc : 0 < consumed.value)
    (h : consumed.value < cap) :
    exceedsCap amount consumed cap =
      if sumBound ≤ nearest (consumed.value + amount.value) then .error .overflow
      else .ok (decide (cap < nearest (consumed.value + amount.value))) := by
  have hfinite : consumed.isFinite = true := by
    obtain ⟨c, e, -, rfl, -⟩ := value_pos_iff.1 hc
    rfl
  have hreached : le? (.ofInt cap) consumed = .ok false := by
    rw [le?_finite (isFinite_ofInt cap) hfinite, value_ofInt, decide_eq_false (not_le.2 h)]
  rw [exceedsCap, hreached]
  have hsum := rounds_sum hc ha
  generalize consumed.sum amount = r at hsum ⊢
  cases hsum with
  | ok hd hvalue hbound =>
    rw [if_neg (not_le.2 hbound), ← hvalue, ← value_ofInt cap,
      ← lt?_finite (isFinite_ofInt cap) hd]
    rfl
  | overflow hbound =>
    rw [if_pos hbound]
    rfl

/-- The ceiling decides by the rounded total, and breaks down if it has to look at one that is too
large. -/
theorem exceedsDailyLimit_eq (ha : 0 < amount.value) (hc : consumed.isFinite = true) :
    exceedsDailyLimit amount (some consumed) settings =
      if settings.Weighs consumed.value ∧ sumBound ≤ nearest (consumed.value + amount.value) then
        .error .overflow
      else .ok (decide (settings.Rejects consumed.value
        (nearest (consumed.value + amount.value)))) := by
  obtain ⟨_ | _, _ | cap⟩ := settings
  case true.some =>
    simp only [exceedsDailyLimit, Bool.not_true, Bool.false_eq_true, if_false,
      LimitSettings.weighs_some, LimitSettings.rejects_some, le?_zero hc]
    rcases le_or_gt cap 0 with hcap | hcap
    · have hnot : ¬ (0 < consumed.value ∧ consumed.value < cap) := by
        have : (cap : ℚ) ≤ 0 := by exact_mod_cast hcap
        rintro ⟨h, h'⟩
        linarith
      simp [hcap, not_lt.2 hcap, hnot]
      rfl
    rcases le_or_gt consumed.value 0 with hconsumed | hconsumed
    · simp [not_le.2 hcap, not_lt.2 hconsumed]
      rfl
    have hcounts : (if cap ≤ 0 then pure false else do
        if ← Except.ok (decide ¬ 0 < consumed.value) then return false
        exceedsCap amount consumed cap) = exceedsCap amount consumed cap := by
      rw [if_neg (not_le.2 hcap), decide_eq_false (not_not.2 hconsumed)]
      rfl
    refine hcounts.trans ?_
    rcases le_or_gt (cap : ℚ) consumed.value with hreached | hreached
    · simp [exceedsCap_of_le hc hreached, hcap, hconsumed, hreached, not_lt.2 hreached]
    · simp [exceedsCap_of_lt ha hconsumed hreached, hcap, hconsumed, hreached, not_le.2 hreached]
  all_goals
    simp
    rfl

/-- What the ceiling rejects, the rule rejects, if the cap is kept by rounding. -/
theorem rejects_of_exceedsDailyLimit (ha : 0 < amount.value) (hc : consumed.isFinite = true)
    (hcap : ∀ cap ∈ settings.cap, cap < 10 ^ precision)
    (h : exceedsDailyLimit amount (some consumed) settings = .ok true) :
    settings.Rejects consumed.value (consumed.value + amount.value) := by
  rw [exceedsDailyLimit_eq ha hc] at h
  split at h
  · cases h
  · obtain ⟨henabled, cap, hmem, hpos, hconsumed, hreached⟩ := of_decide_eq_true (Except.ok.inj h)
    refine ⟨henabled, cap, hmem, hpos, hconsumed, hreached.imp_right fun hlt => ?_⟩
    by_contra hle
    -- Rounding keeps the order, and the cap itself.
    have hround := nearest_mono (add_pos hconsumed ha) (not_lt.1 hle)
    rw [nearest_of_precise (by exact_mod_cast hpos) (precise_intCast hpos (hcap cap hmem))]
      at hround
    exact hlt.not_ge hround

/-! ## Where the rule is kept -/

/-- The ceiling decides by the rule, for every amount and every total before it, if the total after
the transfer is represented exactly where the rule weighs it. -/
theorem exceedsDailyLimit_exact (ha : 0 < amount.value) (hc : consumed.isFinite = true)
    (h : settings.Weighs consumed.value →
      Precise (consumed.value + amount.value) ∧ consumed.value + amount.value < sumBound) :
    exceedsDailyLimit amount (some consumed) settings =
      .ok (decide (settings.Rejects consumed.value (consumed.value + amount.value))) := by
  rw [exceedsDailyLimit_eq ha hc]
  by_cases hweighs : settings.Weighs consumed.value
  · obtain ⟨hprecise, hbound⟩ := h hweighs
    have hpos : 0 < consumed.value := by
      obtain ⟨-, cap, -, hpos, -⟩ := hweighs
      exact hpos
    rw [nearest_of_precise (add_pos hpos ha) hprecise, if_neg fun h => hbound.not_ge h.2]
  · rw [if_neg fun h => hweighs h.1]
    congr 2
    exact propext (LimitSettings.rejects_congr hweighs _ _)

/-- An amount of one digit after a total of three, below a cap. -/
theorem exceedsDailyLimit_exact_sample :
    0 < (finite false 2 0).value ∧ (finite false 795 (-2)).isFinite = true ∧
      (LimitSettings.Weighs ⟨true, some 10⟩ (finite false 795 (-2)).value ∧
        Precise ((finite false 795 (-2)).value + (finite false 2 0).value) ∧
        (finite false 795 (-2)).value + (finite false 2 0).value < sumBound) ∧
      exceedsDailyLimit (.finite false 2 0) (some (.finite false 795 (-2))) ⟨true, some 10⟩ =
        .ok (decide (LimitSettings.Rejects ⟨true, some 10⟩ (finite false 795 (-2)).value
          ((finite false 795 (-2)).value + (finite false 2 0).value))) := by
  have hpos : 0 < (finite false 2 0).value := by norm_num [value, magnitude]
  have hprecise : Precise ((finite false 795 (-2)).value + (finite false 2 0).value) :=
    ⟨995, -2, by norm_num [precision], by norm_num [value, magnitude]⟩
  have hbound : (finite false 795 (-2)).value + (finite false 2 0).value < sumBound :=
    calc (finite false 795 (-2)).value + (finite false 2 0).value < 10 ^ (1 : ℤ) := by
          norm_num [value, magnitude]
      _ ≤ sumBound := power_mono (by decide)
  have hweighs : LimitSettings.Weighs ⟨true, some 10⟩ (finite false 795 (-2)).value := by
    norm_num [value, magnitude]
  exact ⟨hpos, rfl, ⟨hweighs, hprecise, hbound⟩,
    exceedsDailyLimit_exact hpos rfl fun _ => ⟨hprecise, hbound⟩⟩

/-- Two amounts that the rule rejects after `5` for a cap of `10`, or after `1`: the total of the
first is rounded down to the cap and let pass, the total of the second is too large for a sum. -/
theorem exceedsDailyLimit_inexact :
    (LimitSettings.Rejects ⟨true, some 10⟩ (finite false 5 0).value
        ((finite false 5 0).value + (finite false (5 * 10 ^ 30 + 1) (-30)).value) ∧
      exceedsDailyLimit (.finite false (5 * 10 ^ 30 + 1) (-30)) (some (.finite false 5 0))
        ⟨true, some 10⟩ = .ok false) ∧
    (LimitSettings.Rejects ⟨true, some 10⟩ (finite false 1 0).value
        ((finite false 1 0).value + (finite false 1 1000000).value) ∧
      exceedsDailyLimit (.finite false 1 1000000) (some (.finite false 1 0))
        ⟨true, some 10⟩ = .error .overflow) := by
  refine ⟨⟨?_, by decide +kernel⟩, ⟨?_, by decide +kernel⟩⟩
  · norm_num [value, magnitude]
  · have hlarge : (10 : ℚ) ^ (1 : ℤ) ≤ 10 ^ (1000000 : ℤ) := power_mono (by decide)
    have hone : (finite false 1 0).value = 1 := by norm_num [value, magnitude]
    have hvalue : (finite false 1 1000000).value = 10 ^ (1000000 : ℤ) := by
      rw [value, if_neg (by decide), magnitude, Nat.cast_one, one_mul]
    rw [hvalue, hone, LimitSettings.rejects_some]
    refine ⟨by decide, one_pos, .inr ?_⟩
    calc ((10 : Int) : ℚ) < 1 + 10 ^ (1 : ℤ) := by norm_num
      _ ≤ 1 + 10 ^ (1000000 : ℤ) := add_le_add le_rfl hlarge

end Remit
