/-
Module: SpreadFlow.Proofs.Decimal.DigitCount
Purpose: The search for the digits of a number ends within 17 of them in double precision and
  within 9 in single precision.
Main exports: BinaryFormat.search_eq, BinaryFormat.ClearlyNearest,
  BinaryFormat.exists_clearlyNearest, Binary.EndsWithin, Binary.digits_end_early
-/
import SpreadFlow.Proofs.Decimal.RoundTrip

namespace SpreadFlow

/-!
The search asks for one digit, two digits and so on.  It ends at just as many digits as its result
has, because at that count the result itself would have been found.  So the length of the text tells
how often the search has asked, and a bound on the one is a bound on the other.

The bound does not hang on the even code's claim to the midpoints: with `maxDigits` digits some
decimal lies strictly between them.
-/

namespace BinaryFormat

open Decimal

variable {format : BinaryFormat}

/-! ### Where the search ends -/

/-- A search that goes as far as the shortest decimal has digits finds it, and any other finds
nothing. -/
theorem search_eq (format : BinaryFormat) (tie : Tie) {code : Nat} (positive : 0 < code)
    (limit : Nat) :
    format.search tie code limit =
      if (format.shortest tie code).significant.length ≤ limit then
        some (format.shortest tie code)
      else none := by
  obtain ⟨nonzero, -, -, found, missed⟩ := format.shortest_found tie positive
  exact search_of_first nonzero found missed limit

/-- Which of two equally near decimals is taken does not change the number of digits. -/
theorem length_significant_shortest_eq (format : BinaryFormat) (tie other : Tie) {code : Nat}
    (positive : 0 < code) :
    (format.shortest tie code).significant.length =
      (format.shortest other code).significant.length :=
  Nat.le_antisymm
    (format.length_significant_shortest_le_of_inInterval tie positive
      (format.shortest_inInterval other code))
    (format.length_significant_shortest_le_of_inInterval other positive
      (format.shortest_inInterval tie code))

/-! ### A decimal that needs no rule for ties -/

/-- No other code is as near to the value. -/
def ClearlyNearest (format : BinaryFormat) (value : ℚ) (code : Nat) : Prop :=
  ∀ other ≤ format.infinityCode, other ≠ code →
    |value - format.magnitude code| < |value - format.magnitude other|

/-- Every other code lies at or beyond a neighbour, so strictly between the midpoints none is as
near. -/
theorem clearlyNearest_of_between {code : Nat} {value : ℚ}
    (above : (format.magnitude (code - 1) + format.magnitude code) / 2 < value)
    (below : value < (format.magnitude code + format.magnitude (code + 1)) / 2) :
    format.ClearlyNearest value code := by
  intro other _ different
  rw [← not_le]
  rcases Nat.lt_or_gt_of_ne different with before | after
  · have apart := format.magnitude_strictMono before
    have beyond := format.magnitude_strictMono.monotone (Nat.le_sub_one_of_lt before)
    rw [lower_nearer_iff apart]
    linarith
  · have apart := format.magnitude_strictMono after
    have beyond := format.magnitude_strictMono.monotone (Nat.succ_le_of_lt after)
    rw [upper_nearer_iff apart]
    linarith

/-- On the grid of `maxDigits` digits one of the two points next to the number is strictly between
the midpoints. -/
theorem exists_between_of_maxDigits (format : BinaryFormat) {code : Nat} (positive : 0 < code) :
    let size := (digits (format.exactCoefficient code)).length
    let grid := 10 ^ (size - format.maxDigits)
    let lower := format.exactCoefficient code / grid
    ∃ index, (index = lower ∨ index = lower + 1) ∧
      format.exactCoefficient (code - 1) + format.exactCoefficient code < 2 * (index * grid) ∧
      2 * (index * grid) < format.exactCoefficient code + format.exactCoefficient (code + 1) := by
  intro size grid lower
  rcases Nat.lt_or_ge format.maxDigits size with long | short
  · have gridPos : 0 < grid := Nat.pow_pos (Nat.succ_pos 9)
    have sized := pow_le_of_length_digits (format.exactCoefficient_pos positive)
    exact exists_between_of_fine positive gridPos (grid_lt_spacing positive sized long)
  · -- The grid has all the places of the exact value, which is the point itself.
    have places : grid = 1 := by
      simp only [grid, Nat.sub_eq_zero_of_le short, Nat.pow_zero]
    have itself : format.exactCoefficient code = lower := by
      simp only [lower, places, Nat.div_one]
    have previous := format.exactCoefficient_strictMono (Nat.sub_lt positive Nat.one_pos)
    have next := format.exactCoefficient_strictMono (Nat.lt_add_one code)
    rw [places]
    exact ⟨format.exactCoefficient code, .inl itself, by omega, by omega⟩

/-- With `maxDigits` digits a decimal can be nearer to a number than to any other. -/
theorem exists_clearlyNearest (format : BinaryFormat) {code : Nat} (positive : 0 < code) :
    ∃ value : Decimal, value.significant.length ≤ format.maxDigits ∧
      format.ClearlyNearest value.toRat code := by
  obtain ⟨index, next, above, below⟩ := format.exists_between_of_maxDigits positive
  generalize droppedEq :
    (digits (format.exactCoefficient code)).length - format.maxDigits = dropped at *
  have unitPos : (0 : ℚ) < 10 ^ format.unitPlaces := by positivity
  refine ⟨⟨index, dropped - format.unitPlaces⟩, ?_, ?_⟩
  · rw [length_significant_le_iff]
    apply fitsDigits_of_le_succ format.one_le_maxDigits (lt_pow_length_digits _)
    rw [droppedEq]
    rcases next with same | same
    · exact same.le.trans (Nat.le_succ _)
    · exact same.le
  · rw [toRat_eq_gridPoint]
    apply clearlyNearest_of_between
    · rw [magnitude_eq_div, magnitude_eq_div, gridPoint, ← not_le, le_midpoint_iff unitPos]
      exact Nat.not_le.mpr above
    · rw [magnitude_eq_div, magnitude_eq_div, gridPoint, ← not_le, midpoint_le_iff unitPos]
      exact Nat.not_le.mpr below

end BinaryFormat

namespace Binary

open Decimal

variable {format : BinaryFormat}

/-- No more than `limit` digits are needed for the number, and no more are asked for. -/
structure EndsWithin (number : Binary format) (limit : Nat) : Prop where
  /-- The text has at most so many significant digits. -/
  length_le : (significantDigits (decimalText number).toList).length ≤ limit
  /-- A search that goes as far as the text has digits finds a shortest decimal, and any other
  finds nothing. -/
  search_eq : ∀ tie bound, format.search tie number.code bound =
    if (significantDigits (decimalText number).toList).length ≤ bound then
      some (format.shortest tie number.code)
    else none
  /-- The text is what the search finds, whatever would stand in if it found nothing. -/
  text_eq : ∀ fallback : Decimal, (decimalText number).toList =
    (if number.isNegative then ['-'] else []) ++
      ((format.search .away number.code limit).getD fallback).positional
  /-- Some decimal of so few digits rounds to the number under any rule for ties. -/
  exists_clear : ∃ value : Decimal, value.significant.length ≤ limit ∧
    format.ClearlyNearest value.toRat number.code

/-- The digits of a nonzero finite number end within the format's `maxDigits`. -/
theorem endsWithin_maxDigits {number : Binary format} (finite : number.IsFinite)
    (nonzero : number.toRat ≠ 0) : number.EndsWithin format.maxDigits := by
  have positive := code_pos_of_toRat_ne_zero nonzero
  obtain ⟨-, -, -, -, length⟩ := exists_read?_decimalText finite
  obtain ⟨-, -, short, -, -⟩ := format.shortest_found .away positive
  constructor
  case length_le => exact length.le.trans short
  case search_eq =>
    intro tie bound
    rw [length, format.length_significant_shortest_eq .away tie positive]
    exact format.search_eq tie positive bound
  case text_eq =>
    intro fallback
    rw [format.search_eq .away positive, if_pos short, Option.getD_some,
      toList_decimalText finite]
    split
    · rfl
    · rfl
  case exists_clear => exact format.exists_clearlyNearest positive

/-- The digits of a nonzero finite number end within 17 in double precision and within 9 in single
precision.  The text has no more of them, the search never asks for more, and nothing that would
stand in after it is ever taken. -/
theorem digits_end_early :
    (∀ number : Binary64, number.IsFinite → number.toRat ≠ 0 → number.EndsWithin 17) ∧
      ∀ number : Binary32, number.IsFinite → number.toRat ≠ 0 → number.EndsWithin 9 := by
  constructor
  · intro number finite nonzero
    exact endsWithin_maxDigits finite nonzero
  · intro number finite nonzero
    exact endsWithin_maxDigits finite nonzero

/-- All 17 digits are needed for the 90th power of two, whose lower neighbour is only half a step
away, and all 9 for the last number before 1024. -/
theorem digits_end_early_at_limits :
    let wide : Binary64 := ⟨0x4590000000000000⟩
    let narrow : Binary32 := ⟨0x447fffff⟩
    (wide.IsFinite ∧ wide.toRat = 2 ^ 90 ∧ wide.toRat ≠ 0 ∧
        significantDigits (decimalText wide).toList = "12379400392853803".toList ∧
        wide.EndsWithin 17) ∧
      narrow.IsFinite ∧ narrow.toRat = 2 ^ 10 - 1 / 2 ^ 14 ∧ narrow.toRat ≠ 0 ∧
        significantDigits (decimalText narrow).toList = "102399994".toList ∧
        narrow.EndsWithin 9 := by
  intro wide narrow
  have wideFinite : wide.IsFinite := by decide
  have wideNonzero : wide.toRat ≠ 0 := by decide +kernel
  have narrowFinite : narrow.IsFinite := by decide
  have narrowNonzero : narrow.toRat ≠ 0 := by decide +kernel
  exact ⟨⟨wideFinite, by decide +kernel, wideNonzero, by decide +kernel,
      digits_end_early.1 wide wideFinite wideNonzero⟩,
    narrowFinite, by decide +kernel, narrowNonzero, by decide +kernel,
    digits_end_early.2 narrow narrowFinite narrowNonzero⟩

end Binary

end SpreadFlow
