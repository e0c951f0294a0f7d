/-
Numbers rounded to hundredths, half up, and numbers held between 0 and a bound.
-/

import Mathlib.Algebra.Order.Round
import Mathlib.Data.Rat.Floor
import Mathlib.Tactic.Linarith
import Mathlib.Tactic.NormNum

namespace Hundredths

/-! ### Rounding -/

def round2 (number : ℚ) : ℚ := round (number * 100) / 100

theorem round2_le (number : ℚ) : round2 number ≤ number + 1 / 200 := by
  have up := round_le_add_half (number * 100)
  unfold round2
  linarith

theorem round2_gt (number : ℚ) : number - 1 / 200 < round2 number := by
  have down := sub_half_lt_round (number * 100)
  unfold round2
  linarith

theorem round2_mono {left right : ℚ} (below : left ≤ right) : round2 left ≤ round2 right := by
  have scaled : left * 100 + 1 / 2 ≤ right * 100 + 1 / 2 := by linarith
  have floors : round (left * 100) ≤ round (right * 100) := by
    rw [round_eq, round_eq]
    exact Int.floor_le_floor scaled
  have casts : ((round (left * 100) : ℤ) : ℚ) ≤ round (right * 100) := Int.cast_le.mpr floors
  unfold round2
  linarith

/-- A number is reached as soon as half a hundredth is missing. -/
theorem hundredths_le_round2 (count : ℤ) {number : ℚ} (near : (count : ℚ) / 100 - 1 / 200 ≤ number) :
    (count : ℚ) / 100 ≤ round2 number := by
  have reached : count ≤ round (number * 100) := by
    rw [round_eq, Int.le_floor]
    linarith
  have casts : (count : ℚ) ≤ round (number * 100) := Int.cast_le.mpr reached
  unfold round2
  linarith

theorem round2_hundredths (count : ℤ) : round2 ((count : ℚ) / 100) = (count : ℚ) / 100 := by
  have whole : (count : ℚ) / 100 * 100 = count := by ring
  rw [round2, whole, round_intCast]

theorem round2_round2 (number : ℚ) : round2 (round2 number) = round2 number :=
  round2_hundredths (round (number * 100))

theorem round2_nonneg {number : ℚ} (near : -1 / 200 ≤ number) : 0 ≤ round2 number := by
  have reached := @hundredths_le_round2 0 number (by push_cast; linarith)
  simpa using reached

theorem le_of_round2_nonneg {number : ℚ} (nonneg : 0 ≤ round2 number) : -1 / 200 ≤ number := by
  have above := round2_le number
  linarith

/-! ### Clamping -/

/-- `Math.max(0, Math.min(value, room))` -/
def clamp (room value : ℚ) : ℚ := max 0 (min value room)

theorem clamp_nonneg (room value : ℚ) : 0 ≤ clamp room value := le_max_left _ _

theorem clamp_within (room value : ℚ) : clamp room value = 0 ∨ clamp room value ≤ room := by
  rcases max_choice 0 (min value room) with zero | inside
  · exact Or.inl zero
  · refine Or.inr ?_
    rw [clamp, inside]
    exact min_le_right _ _

theorem clamp_mul (room value : ℚ) {scale : ℚ} (positive : 0 ≤ scale) :
    clamp (room * scale) (value * scale) = clamp room value * scale := by
  rw [clamp, clamp, max_mul_of_nonneg _ _ positive, min_mul_of_nonneg _ _ positive, zero_mul]

end Hundredths
