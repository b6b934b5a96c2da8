/-
Module: SpreadFlow.Proofs.Decimal.Grid
Purpose: Where decimals of few digits lie relative to a grid of multiples of a power of ten.
Main exports: Decimal.gridPoint, Decimal.not_between_gridPoints, Decimal.fitsDigits_congr
-/
import Mathlib.Tactic.GCongr
import Mathlib.Tactic.Linarith
import SpreadFlow.Proofs.Decimal.Reading

namespace SpreadFlow.Decimal

/-!
A number of `size` digits has on the grid that keeps its first `count` digits a point below and a
point above.  No decimal of at most `count` digits lies strictly between the two: one with a smaller
exponent than the grid's has fewer digits before the point than the number itself.
-/

/-- The grid's point with a given index, as a number with `places` decimal places. -/
def gridPoint (places grid index : Nat) : ℚ :=
  (index * grid : Nat) / 10 ^ places

/-- The decimal with an index for coefficient and the grid's exponent is the point of that index. -/
theorem toRat_eq_gridPoint (places dropped index : Nat) :
    toRat ⟨index, dropped - places⟩ = gridPoint places (10 ^ dropped) index := by
  rw [toRat, gridPoint, zpow_sub₀ (by norm_num)]
  push_cast
  simp only [zpow_natCast]
  ring

theorem toRat_nonneg (value : Decimal) : 0 ≤ value.toRat := by
  unfold toRat
  positivity

/-- A decimal that is a natural number with zeros appended, in units of the last of `places`
places. -/
theorem toRat_eq_div (places : Nat) {value : Decimal} {leading zeros : Nat}
    (same : value.coefficient = leading * 10 ^ zeros) :
    value.toRat = leading * 10 ^ (zeros + value.exponent + places) / 10 ^ places := by
  rw [toRat, same, zpow_add₀ (by norm_num), zpow_add₀ (by norm_num)]
  push_cast
  simp only [zpow_natCast]
  field_simp

/-- What has an exponent of the grid's or above is a point of the grid. -/
theorem exists_index_of_coarse {dropped : Nat} {power : ℤ} (coarse : dropped ≤ power)
    (leading : Nat) :
    ∃ index : Nat, (leading : ℚ) * 10 ^ power = (index * 10 ^ dropped : Nat) := by
  obtain ⟨extra, extraEq⟩ := Int.eq_ofNat_of_zero_le (Int.sub_nonneg_of_le coarse)
  refine ⟨leading * 10 ^ extra, ?_⟩
  rw [show power = extra + dropped by omega, zpow_add₀ (by norm_num)]
  push_cast
  simp only [zpow_natCast]
  ring

/-- What has an exponent below the grid's and few digits ends before a number of `count` digits on
the grid begins. -/
theorem le_of_fine {leading count dropped : Nat} {power : ℤ} (nonzero : 1 ≤ count)
    (short : leading < 10 ^ count) (fine : power < dropped) :
    (leading : ℚ) * 10 ^ power ≤ (10 ^ (count - 1) * 10 ^ dropped : Nat) := by
  have leadingLe : (leading : ℚ) ≤ 10 ^ count := by exact_mod_cast short.le
  calc (leading : ℚ) * 10 ^ power
      ≤ 10 ^ count * 10 ^ ((dropped : ℤ) - 1) := by
        gcongr
        · norm_num
        · omega
    _ = (10 ^ (count - 1) * 10 ^ dropped : Nat) := by
        rw [zpow_sub₀ (by norm_num), ← Nat.sub_add_cancel nonzero]
        push_cast
        simp only [zpow_natCast, pow_succ]
        field_simp

/-- No decimal of at most `count` digits lies strictly between the two points that are next to a
number of `size` digits on the grid of its first `count` digits. -/
theorem not_between_gridPoints {exact size count : Nat} (places : Nat)
    (sized : 10 ^ (size - 1) ≤ exact) (nonzero : 1 ≤ count) (atMost : count ≤ size)
    {value : Decimal} (fits : FitsDigits count value.coefficient) :
    value.toRat ≤ gridPoint places (10 ^ (size - count)) (exact / 10 ^ (size - count)) ∨
      gridPoint places (10 ^ (size - count)) (exact / 10 ^ (size - count) + 1) ≤ value.toRat := by
  obtain ⟨leading, zeros, same, short⟩ := fits
  rw [toRat_eq_div places same]
  generalize (zeros : ℤ) + value.exponent + places = power
  generalize droppedEq : size - count = dropped
  unfold gridPoint
  rcases le_or_gt (dropped : ℤ) power with coarse | fine
  · obtain ⟨index, onGrid⟩ := exists_index_of_coarse coarse leading
    rw [onGrid]
    rcases Nat.lt_or_ge (exact / 10 ^ dropped) index with above | below
    · right
      gcongr
      exact above
    · left
      gcongr
  · left
    have reached : 10 ^ (count - 1) ≤ exact / 10 ^ dropped := by
      rw [Nat.le_div_iff_mul_le (Nat.pow_pos (Nat.succ_pos 9)), ← Nat.pow_add]
      rwa [show count - 1 + dropped = size - 1 by omega]
    calc (leading : ℚ) * 10 ^ power / 10 ^ places
        ≤ (10 ^ (count - 1) * 10 ^ dropped : Nat) / 10 ^ places := by
          gcongr
          exact le_of_fine nonzero short fine
      _ ≤ (exact / 10 ^ dropped * 10 ^ dropped : Nat) / 10 ^ places := by gcongr

/-- Of two decimals of the same value the one with the smaller exponent has zeros appended. -/
theorem coefficient_eq_mul_pow {first second : Decimal} (same : first.toRat = second.toRat)
    (finer : first.exponent ≤ second.exponent) :
    ∃ zeros, first.coefficient = second.coefficient * 10 ^ zeros := by
  obtain ⟨zeros, zerosEq⟩ := Int.eq_ofNat_of_zero_le (Int.sub_nonneg_of_le finer)
  refine ⟨zeros, ?_⟩
  have unitNonzero : (10 : ℚ) ^ first.exponent ≠ 0 := by positivity
  rw [toRat, toRat, show second.exponent = zeros + first.exponent by omega,
    zpow_add₀ (by norm_num), ← mul_assoc] at same
  have coefficients := mul_right_cancel₀ unitNonzero same
  exact_mod_cast coefficients

/-- Decimals of the same value need the same number of digits. -/
theorem fitsDigits_congr {first second : Decimal} (same : first.toRat = second.toRat)
    (count : Nat) : FitsDigits count first.coefficient ↔ FitsDigits count second.coefficient := by
  rcases le_total first.exponent second.exponent with finer | coarser
  · obtain ⟨zeros, scaled⟩ := coefficient_eq_mul_pow same finer
    rw [scaled, fitsDigits_mul_pow]
  · obtain ⟨zeros, scaled⟩ := coefficient_eq_mul_pow same.symm coarser
    rw [scaled, fitsDigits_mul_pow]

/-- Decimals of the same value have as many significant digits. -/
theorem length_significant_congr {first second : Decimal} (same : first.toRat = second.toRat) :
    first.significant.length = second.significant.length := by
  have needs (count : Nat) :
      first.significant.length ≤ count ↔ second.significant.length ≤ count := by
    rw [length_significant_le_iff, length_significant_le_iff, fitsDigits_congr same]
  exact Nat.le_antisymm ((needs _).mpr (Nat.le_refl _)) ((needs _).mp (Nat.le_refl _))

end SpreadFlow.Decimal
