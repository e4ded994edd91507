import Mathlib.Data.Int.Log
import Mathlib.Data.Rat.Floor
import Mathlib.Tactic.Positivity

/-! A double with neither overflow nor underflow is a rational number that has 53 binary digits. An
operation returns the exact result, rounded to the nearest of them. -/

namespace RuneTerminal.Kit

def roundHalfEven (x : ℚ) : ℤ :=
  if x - ⌊x⌋ < 1 / 2 then ⌊x⌋
  else if 1 / 2 < x - ⌊x⌋ then ⌊x⌋ + 1
  else if ⌊x⌋ % 2 = 0 then ⌊x⌋
  else ⌊x⌋ + 1

/-- The distance of neighbours among the numbers as large as `x`. -/
def unitInLastPlace (x : ℚ) : ℚ := 2 ^ (Int.log 2 |x| - 52)

def nearestDouble (x : ℚ) : ℚ :=
  if x = 0 then 0 else roundHalfEven (x / unitInLastPlace x) * unitInLastPlace x

theorem round_half_even_error (x : ℚ) : |(roundHalfEven x : ℚ) - x| ≤ 1 / 2 := by
  have lower := Int.floor_le x
  have upper := Int.lt_floor_add_one x
  unfold roundHalfEven
  rw [abs_le]
  split_ifs <;> push_cast <;> constructor <;> linarith

theorem unit_in_last_place_pos (x : ℚ) : 0 < unitInLastPlace x := by
  exact zpow_pos (by norm_num) _

theorem unit_in_last_place_le {x : ℚ} (nonzero : x ≠ 0) : unitInLastPlace x ≤ |x| / 2 ^ 52 := by
  have power : (2 : ℚ) ^ Int.log 2 |x| ≤ |x| := by
    have := Int.zpow_log_le_self (b := 2) (by decide) (abs_pos.mpr nonzero)
    exact_mod_cast this
  rw [unitInLastPlace, zpow_sub₀ (by norm_num)]
  exact div_le_div_of_nonneg_right power (by positivity)

theorem nearest_double_error (x : ℚ) : |nearestDouble x - x| ≤ |x| / 2 ^ 52 := by
  unfold nearestDouble
  split_ifs with zero
  · simp [zero]
  have positive := unit_in_last_place_pos x
  have scaled : roundHalfEven (x / unitInLastPlace x) * unitInLastPlace x - x =
      (roundHalfEven (x / unitInLastPlace x) - x / unitInLastPlace x) * unitInLastPlace x := by
    field_simp
  calc |roundHalfEven (x / unitInLastPlace x) * unitInLastPlace x - x|
      = |roundHalfEven (x / unitInLastPlace x) - x / unitInLastPlace x| *
          unitInLastPlace x := by rw [scaled, abs_mul, abs_of_pos positive]
    _ ≤ 1 / 2 * unitInLastPlace x :=
        mul_le_mul_of_nonneg_right (round_half_even_error _) positive.le
    _ ≤ unitInLastPlace x := by linarith
    _ ≤ |x| / 2 ^ 52 := unit_in_last_place_le zero

theorem round_half_even_int (n : ℤ) : roundHalfEven n = n := by
  simp [roundHalfEven]

theorem nearest_double_int {n : ℤ} (small : |n| < 2 ^ 53) : nearestDouble n = n := by
  unfold nearestDouble
  split_ifs with zero
  · exact zero.symm
  have positive : (0 : ℚ) < |(n : ℚ)| := abs_pos.mpr zero
  have bits : Int.log 2 |(n : ℚ)| < 53 := by
    rw [← Int.lt_zpow_iff_log_lt (by decide) positive]
    exact_mod_cast small
  obtain ⟨fewer, unit⟩ : ∃ fewer : ℕ, Int.log 2 |(n : ℚ)| - 52 = -fewer := by
    exact ⟨(52 - Int.log 2 |(n : ℚ)|).toNat, by omega⟩
  have scaled : (n : ℚ) / unitInLastPlace n = ((n * 2 ^ fewer : ℤ) : ℚ) := by
    rw [unitInLastPlace, unit, zpow_neg, zpow_natCast]
    push_cast
    field_simp
  have nonzero := (unit_in_last_place_pos (n : ℚ)).ne'
  rw [scaled, round_half_even_int, ← scaled, div_mul_cancel₀ _ nonzero]

theorem floor_nearest_double_div {total count : ℕ} (positive : 0 < count) (small : total < 2 ^ 52) :
    ⌊nearestDouble (total / count)⌋ = ((total / count : ℕ) : ℤ) := by
  have split := Nat.div_add_mod total count
  have below := Nat.mod_lt total positive
  by_cases exact : total % count = 0
  · have quotient : (total : ℚ) / count = ((total / count : ℕ) : ℤ) := by
      rw [div_eq_iff (by positivity)]
      rw [exact] at split
      exact_mod_cast (by rw [mul_comm]; exact split.symm)
    have bound : |((total / count : ℕ) : ℤ)| < 2 ^ 53 := by
      have le : total / count ≤ total := Nat.div_le_self _ _
      rw [abs_of_nonneg (Int.natCast_nonneg _)]
      omega
    rw [quotient, nearest_double_int bound, Int.floor_intCast]
  have error := nearest_double_error ((total : ℚ) / count)
  have countPos : (0 : ℚ) < count := by exact_mod_cast positive
  have nonneg : (0 : ℚ) ≤ total / count := by positivity
  have off : (total : ℚ) / count / 2 ^ 52 < 1 / count := by
    rw [div_right_comm, div_lt_div_iff_of_pos_right countPos, div_lt_one (by positivity)]
    exact_mod_cast small
  rw [abs_of_nonneg nonneg, abs_le] at error
  have whole : (total : ℚ) / count = (total / count : ℕ) + (total % count : ℕ) / count := by
    have product : (count : ℚ) * (total / count : ℕ) + (total % count : ℕ) = total := by
      exact_mod_cast split
    rw [div_eq_iff countPos.ne', add_mul, div_mul_cancel₀ _ countPos.ne', ← product]
    ring
  have lower : (1 : ℚ) / count ≤ (total % count : ℕ) / count := by
    rw [div_le_div_iff_of_pos_right countPos]
    exact_mod_cast Nat.one_le_iff_ne_zero.mpr exact
  have upper : ((total % count : ℕ) : ℚ) / count + 1 / count ≤ 1 := by
    rw [← add_div, div_le_one countPos]
    exact_mod_cast below
  rw [Int.floor_eq_iff, Int.cast_natCast]
  constructor <;> linarith

end RuneTerminal.Kit
