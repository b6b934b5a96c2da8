/-
Module: SpreadFlow.Proofs.Decimal.Shortest
Purpose: The search for the shortest decimal finds one that reads back, with the fewest digits and
  as near as so few digits can come.
Main exports: BinaryFormat.withDigits?_eq_none, BinaryFormat.withDigits?_nearest,
  BinaryFormat.search, BinaryFormat.exists_shortest, BinaryFormat.shortest_inInterval,
  BinaryFormat.shortest_found, BinaryFormat.length_significant_shortest_le_of_inInterval,
  BinaryFormat.shortest_nearest
-/
import SpreadFlow.Decimal.Shortest
import SpreadFlow.Proofs.Decimal.Grid
import SpreadFlow.Proofs.Decimal.Nearest

namespace SpreadFlow.BinaryFormat

/-!
For one count of digits the search looks at the two points of the grid that are next to the number.
The number lies between them and no decimal of so few digits does, so if any such decimal is in the
number's interval, then so is the point on the same side, which is no further away.

The search ends: at `maxDigits` digits the grid is finer than the numbers are spaced, and of two
points that are nearer together than the number and its neighbours one is less than half way.
-/

open Decimal

variable {format : BinaryFormat}

/-! ### Reading back, in decimal units -/

theorem magnitude_eq_div (code : Nat) :
    format.magnitude code = (format.exactCoefficient code : ℚ) / 10 ^ format.unitPlaces := by
  have tenPow : (10 : ℚ) ^ format.unitPlaces = 2 ^ format.unitPlaces * 5 ^ format.unitPlaces := by
    rw [← mul_pow]
    norm_num
  rw [magnitude, exactCoefficient, tenPow, Nat.pow_eq]
  push_cast
  field_simp

theorem midpoint_le_iff {first second whole : Nat} {unit : ℚ} (positive : 0 < unit) :
    ((first : ℚ) / unit + second / unit) / 2 ≤ whole / unit ↔ first + second ≤ 2 * whole := by
  rw [← add_div, div_right_comm, div_le_div_iff_of_pos_right positive, div_le_iff₀' (by norm_num)]
  exact_mod_cast Iff.rfl

theorem le_midpoint_iff {first second whole : Nat} {unit : ℚ} (positive : 0 < unit) :
    (whole : ℚ) / unit ≤ ((first : ℚ) / unit + second / unit) / 2 ↔
      2 * whole ≤ first + second := by
  rw [← add_div, div_right_comm, div_le_div_iff_of_pos_right positive, le_div_iff₀' (by norm_num)]
  exact_mod_cast Iff.rfl

/-- The test on coefficients is the membership of the interval. -/
theorem readsBack_iff {code coefficient : Nat} :
    format.readsBack code coefficient = true ↔
      format.InInterval code (coefficient / 10 ^ format.unitPlaces) := by
  have unitPos : (0 : ℚ) < 10 ^ format.unitPlaces := by positivity
  simp only [readsBack, InInterval, magnitude_eq_div]
  by_cases even : code % 2 = 0
  · simp only [even, if_true, Bool.and_eq_true, decide_eq_true_eq, midpoint_le_iff unitPos,
      le_midpoint_iff unitPos]
  · simp only [even, if_false, Bool.and_eq_true, decide_eq_true_eq, ← not_le,
      midpoint_le_iff unitPos, le_midpoint_iff unitPos]

/-! ### The choice of a grid point -/

/-- A point of the grid is chosen only if it reads back, and only if the other one is no nearer or
does not. -/
theorem gridPoint?_eq_some {tie : Tie} {exact grid lower index : Nat}
    {lowerReads upperReads : Bool}
    (chosen : gridPoint? tie exact grid lower lowerReads upperReads = some index) :
    (index = lower ∧ lowerReads = true ∧
        (upperReads = true → exact - lower * grid ≤ (lower + 1) * grid - exact)) ∨
      (index = lower + 1 ∧ upperReads = true ∧
        (lowerReads = true → (lower + 1) * grid - exact ≤ exact - lower * grid)) := by
  cases lowerReads with
  | false =>
      cases upperReads with
      | false => simp [gridPoint?] at chosen
      | true =>
          right
          simp only [gridPoint?, Option.some.injEq] at chosen
          exact ⟨chosen.symm, rfl, fun absurd => by cases absurd⟩
  | true =>
      cases upperReads with
      | false =>
          left
          simp only [gridPoint?, Option.some.injEq] at chosen
          exact ⟨chosen.symm, rfl, fun absurd => by cases absurd⟩
      | true =>
          simp only [gridPoint?] at chosen
          generalize exact - lower * grid = below at chosen ⊢
          generalize (lower + 1) * grid - exact = above at chosen ⊢
          rcases Nat.lt_trichotomy below above with nearer | equal | nearer
          · left
            rw [if_pos nearer] at chosen
            exact ⟨(Option.some.inj chosen).symm, rfl, fun _ => nearer.le⟩
          · rw [if_neg equal.not_lt, if_neg equal.not_gt] at chosen
            have neither : index = lower ∨ index = lower + 1 := by
              cases tie with
              | away => exact Or.inr (Option.some.inj chosen).symm
              | even =>
                  have rounded := Option.some.inj chosen
                  omega
            rcases neither with rfl | rfl
            · exact Or.inl ⟨rfl, rfl, fun _ => equal.le⟩
            · exact Or.inr ⟨rfl, rfl, fun _ => equal.ge⟩
          · right
            rw [if_neg nearer.not_gt, if_pos nearer] at chosen
            exact ⟨(Option.some.inj chosen).symm, rfl, fun _ => nearer.le⟩

/-- No point is chosen only if neither reads back. -/
theorem gridPoint?_eq_none {tie : Tie} {exact grid lower : Nat} {lowerReads upperReads : Bool}
    (missing : gridPoint? tie exact grid lower lowerReads upperReads = none) :
    lowerReads = false ∧ upperReads = false := by
  cases lowerReads with
  | false =>
      cases upperReads with
      | false => exact ⟨rfl, rfl⟩
      | true => cases missing
  | true =>
      cases upperReads with
      | false => cases missing
      | true =>
          simp only [gridPoint?] at missing
          split at missing
          · cases missing
          · split at missing
            · cases missing
            · cases tie <;> cases missing

/-! ### One count of digits -/

section Count

variable {code size count : Nat}

/-- The number of digits of a positive number tells its size. -/
theorem pow_le_of_length_digits {exact : Nat} (positive : 0 < exact) :
    10 ^ ((digits exact).length - 1) ≤ exact := by
  by_contra less
  have several : 1 ≤ (digits exact).length := Nat.length_toDigits_pos
  rcases Nat.eq_or_lt_of_le several with one | more
  · rw [← one] at less
    simp at less
    omega
  · have fewer := (Nat.length_toDigits_le_iff (b := 10) (by decide) (Nat.sub_pos_of_lt more)).mpr
      (Nat.lt_of_not_le less)
    change (digits exact).length ≤ _ at fewer
    omega

/-- The number lies between the two points of the grid. -/
theorem magnitude_between_gridPoints (format : BinaryFormat) (code : Nat) {grid : Nat}
    (positive : 0 < grid) :
    gridPoint format.unitPlaces grid (format.exactCoefficient code / grid) ≤
        format.magnitude code ∧
      format.magnitude code <
        gridPoint format.unitPlaces grid (format.exactCoefficient code / grid + 1) := by
  rw [magnitude_eq_div, gridPoint, gridPoint]
  generalize format.exactCoefficient code = exact
  have below : exact / grid * grid ≤ exact := Nat.div_mul_le_self exact grid
  have above : exact < (exact / grid + 1) * grid := by
    rw [Nat.mul_comm]
    exact Nat.lt_mul_div_succ exact positive
  constructor
  · gcongr
  · gcongr

/-- The distances that the search compares, in units of the last decimal place. -/
theorem distances_to_gridPoints (format : BinaryFormat) (code : Nat) {grid : Nat}
    (positive : 0 < grid) :
    let exact := format.exactCoefficient code
    format.magnitude code - gridPoint format.unitPlaces grid (exact / grid) =
        (exact - exact / grid * grid : Nat) / 10 ^ format.unitPlaces ∧
      gridPoint format.unitPlaces grid (exact / grid + 1) - format.magnitude code =
        ((exact / grid + 1) * grid - exact : Nat) / 10 ^ format.unitPlaces := by
  intro exact
  have below : exact / grid * grid ≤ exact := Nat.div_mul_le_self exact grid
  have above : exact ≤ (exact / grid + 1) * grid := by
    rw [Nat.mul_comm]
    exact (Nat.lt_mul_div_succ exact positive).le
  rw [magnitude_eq_div, gridPoint, gridPoint, ← sub_div, ← sub_div, Nat.cast_sub below,
    Nat.cast_sub above]
  exact ⟨rfl, rfl⟩

/-- If any decimal of so few digits rounds to the number, then so does the point of the grid on its
side, and the point lies between the decimal and the number. -/
theorem gridPoint_readsBack (nonzero : 1 ≤ count)
    (atMost : count ≤ size) (sized : 10 ^ (size - 1) ≤ format.exactCoefficient code)
    {value : Decimal} (fits : FitsDigits count value.coefficient)
    (inside : format.InInterval code value.toRat) :
    let grid := 10 ^ (size - count)
    let lower := format.exactCoefficient code / grid
    (value.toRat ≤ gridPoint format.unitPlaces grid lower ∧
        format.readsBack code (lower * grid) = true) ∨
      (gridPoint format.unitPlaces grid (lower + 1) ≤ value.toRat ∧
        format.readsBack code ((lower + 1) * grid) = true) := by
  intro grid lower
  have gridPos : 0 < grid := Nat.pow_pos (Nat.succ_pos 9)
  obtain ⟨below, above⟩ := format.magnitude_between_gridPoints code gridPos
  have own := format.inInterval_magnitude code
  rw [readsBack_iff, readsBack_iff]
  rcases not_between_gridPoints format.unitPlaces sized nonzero atMost fits with before | after
  · left
    exact ⟨before, inside.convex own before below⟩
  · right
    exact ⟨after, own.convex inside above.le after⟩

/-- Nothing is found only if no decimal of so few digits rounds to the number. -/
theorem withDigits?_eq_none {tie : Tie} (nonzero : 1 ≤ count) (atMost : count ≤ size)
    (sized : 10 ^ (size - 1) ≤ format.exactCoefficient code)
    (missing : format.withDigits? tie code size count = none) {value : Decimal}
    (fits : FitsDigits count value.coefficient) : ¬ format.InInterval code value.toRat := by
  intro inside
  simp only [withDigits?, Nat.pow_eq, Option.map_eq_none_iff] at missing
  obtain ⟨lowerMissing, upperMissing⟩ := gridPoint?_eq_none missing
  rcases gridPoint_readsBack nonzero atMost sized fits inside with ⟨-, reads⟩ | ⟨-, reads⟩
  · rw [lowerMissing] at reads
    cases reads
  · rw [upperMissing] at reads
    cases reads

/-- What is found is a point of the grid. -/
theorem exists_gridPoint?_eq_some {tie : Tie} {value : Decimal}
    (found : format.withDigits? tie code size count = some value) :
    let grid := 10 ^ (size - count)
    let lower := format.exactCoefficient code / grid
    gridPoint? tie (format.exactCoefficient code) grid lower
        (format.readsBack code (lower * grid)) (format.readsBack code ((lower + 1) * grid)) =
          some value.coefficient ∧
      value.toRat = gridPoint format.unitPlaces grid value.coefficient := by
  intro grid lower
  simp only [withDigits?, Nat.pow_eq, Option.map_eq_some_iff] at found
  obtain ⟨index, chosen, rfl⟩ := found
  exact ⟨chosen, toRat_eq_gridPoint format.unitPlaces (size - count) index⟩

/-- What is found rounds to the number. -/
theorem withDigits?_inInterval {tie : Tie} {value : Decimal}
    (found : format.withDigits? tie code size count = some value) :
    format.InInterval code value.toRat := by
  obtain ⟨chosen, onGrid⟩ := exists_gridPoint?_eq_some found
  rw [onGrid, gridPoint, ← readsBack_iff]
  rcases gridPoint?_eq_some chosen with ⟨same, reads, -⟩ | ⟨same, reads, -⟩
  · rw [same]
    exact reads
  · rw [same]
    exact reads

/-- The two points next to a number of `size` digits on the grid of its first `count` digits have at
most `count` digits themselves: where the upper one is a power of ten, only its first digit
counts. -/
theorem fitsDigits_of_le_succ {exact index : Nat} (nonzero : 1 ≤ count) (sized : exact < 10 ^ size)
    (next : index ≤ exact / 10 ^ (size - count) + 1) : FitsDigits count index := by
  have small : exact / 10 ^ (size - count) < 10 ^ count := by
    apply Nat.div_lt_of_lt_mul
    rw [← Nat.pow_add]
    exact Nat.lt_of_lt_of_le sized (Nat.pow_le_pow_right (Nat.succ_pos 9) (by omega))
  rcases Nat.lt_or_eq_of_le (next.trans small) with less | power
  · exact ⟨index, 0, by simp, less⟩
  · exact ⟨1, count, by simp [power], Nat.one_lt_pow (by omega) (by decide)⟩

/-- What is found has at most the digits asked for. -/
theorem withDigits?_fitsDigits {tie : Tie} {value : Decimal} (nonzero : 1 ≤ count)
    (sized : format.exactCoefficient code < 10 ^ size)
    (found : format.withDigits? tie code size count = some value) :
    FitsDigits count value.coefficient := by
  apply fitsDigits_of_le_succ nonzero sized
  rcases gridPoint?_eq_some (exists_gridPoint?_eq_some found).1 with ⟨same, -⟩ | ⟨same, -⟩
  · rw [same]
    exact Nat.le_succ _
  · exact same.le

/-- Of the decimals of so few digits that round to the number none is nearer than the one found. -/
theorem withDigits?_nearest {tie : Tie} {value : Decimal} (nonzero : 1 ≤ count)
    (atMost : count ≤ size) (sized : 10 ^ (size - 1) ≤ format.exactCoefficient code)
    (found : format.withDigits? tie code size count = some value) {other : Decimal}
    (fits : FitsDigits count other.coefficient) (inside : format.InInterval code other.toRat) :
    |value.toRat - format.magnitude code| ≤ |other.toRat - format.magnitude code| := by
  obtain ⟨chosen, onGrid⟩ := exists_gridPoint?_eq_some found
  have gridPos : 0 < 10 ^ (size - count) := Nat.pow_pos (Nat.succ_pos 9)
  obtain ⟨below, above⟩ := format.magnitude_between_gridPoints code gridPos
  obtain ⟨toLower, toUpper⟩ := format.distances_to_gridPoints code gridPos
  have side := gridPoint_readsBack nonzero atMost sized fits inside
  have scaled {first second : Nat} (less : first ≤ second) :
      (first : ℚ) / 10 ^ format.unitPlaces ≤ second / 10 ^ format.unitPlaces := by gcongr
  rw [onGrid]
  -- A decimal on the side of the chosen point lies beyond that point.  One on the other side lies
  -- beyond the other point, which then reads back too and was found no nearer.
  rcases gridPoint?_eq_some chosen with ⟨same, -, nearer⟩ | ⟨same, -, nearer⟩
  · rw [same, abs_of_nonpos (by linarith)]
    rcases side with ⟨before, -⟩ | ⟨after, upperReads⟩
    · rw [abs_of_nonpos (by linarith)]
      linarith
    · have lowerNearer := scaled (nearer upperReads)
      rw [abs_of_nonneg (by linarith)]
      linarith
  · rw [same, abs_of_nonneg (by linarith)]
    rcases side with ⟨before, lowerReads⟩ | ⟨after, -⟩
    · have upperNearer := scaled (nearer lowerReads)
      rw [abs_of_nonpos (by linarith)]
      linarith
    · rw [abs_of_nonneg (by linarith)]
      linarith

/-- If one of the two points reads back, something is found. -/
theorem withDigits?_ne_none {tie : Tie}
    (reads : let grid := 10 ^ (size - count)
      let lower := format.exactCoefficient code / grid
      format.readsBack code (lower * grid) = true ∨
        format.readsBack code ((lower + 1) * grid) = true) :
    format.withDigits? tie code size count ≠ none := by
  intro missing
  simp only [withDigits?, Nat.pow_eq, Option.map_eq_none_iff] at missing
  obtain ⟨lowerMissing, upperMissing⟩ := gridPoint?_eq_none missing
  rcases reads with lowerReads | upperReads
  · rw [lowerMissing] at lowerReads
    cases lowerReads
  · rw [upperMissing] at upperReads
    cases upperReads

end Count

/-! ### The search ends -/

theorem exactCoefficient_succ (code : Nat) :
    format.exactCoefficient (code + 1) =
      format.exactCoefficient code + format.step code * 5 ^ format.unitPlaces := by
  rw [exactCoefficient, exactCoefficient, units_succ, Nat.pow_eq, Nat.add_mul]

theorem exactCoefficient_zero : format.exactCoefficient 0 = 0 := by
  simp [exactCoefficient, units]

theorem exactCoefficient_strictMono (format : BinaryFormat) : StrictMono format.exactCoefficient :=
  fun _ _ before =>
    Nat.mul_lt_mul_of_pos_right (format.units_strictMono before) (Nat.pow_pos (Nat.succ_pos 4))

theorem exactCoefficient_pos (format : BinaryFormat) {code : Nat} (positive : 0 < code) :
    0 < format.exactCoefficient code :=
  Nat.zero_lt_of_lt (format.exactCoefficient_strictMono positive)

/-- Between the midpoints to the two neighbours everything reads back, whether the code is even or
not. -/
theorem readsBack_of_between {code coefficient : Nat}
    (above : format.exactCoefficient (code - 1) + format.exactCoefficient code < 2 * coefficient)
    (below : 2 * coefficient < format.exactCoefficient code + format.exactCoefficient (code + 1)) :
    format.readsBack code coefficient = true := by
  rw [readsBack]
  split
  · simp only [Bool.and_eq_true, decide_eq_true_eq]
    exact ⟨above.le, below.le⟩
  · simp only [Bool.and_eq_true, decide_eq_true_eq]
    exact ⟨above, below⟩

/-- A grid finer than the number's distance to its lower neighbour has a point between the
midpoints: the two points next to the number cannot both be half way to a neighbour or further. -/
theorem exists_between_of_fine {code grid : Nat} (positive : 0 < code) (gridPos : 0 < grid)
    (fine : grid < format.step (code - 1) * 5 ^ format.unitPlaces) :
    let lower := format.exactCoefficient code / grid
    ∃ index, (index = lower ∨ index = lower + 1) ∧
      format.exactCoefficient (code - 1) + format.exactCoefficient code < 2 * (index * grid) ∧
      2 * (index * grid) < format.exactCoefficient code + format.exactCoefficient (code + 1) := by
  intro lower
  have before : format.exactCoefficient code =
      format.exactCoefficient (code - 1) + format.step (code - 1) * 5 ^ format.unitPlaces := by
    rw [← exactCoefficient_succ, Nat.sub_add_cancel positive]
  have after := format.exactCoefficient_succ code
  have wider : format.step (code - 1) * 5 ^ format.unitPlaces ≤
      format.step code * 5 ^ format.unitPlaces :=
    Nat.mul_le_mul_right _ (format.step_mono (Nat.sub_le code 1))
  have below : lower * grid ≤ format.exactCoefficient code := Nat.div_mul_le_self _ grid
  have above : format.exactCoefficient code < lower * grid + grid := by
    rw [← Nat.succ_mul, Nat.mul_comm]
    exact Nat.lt_mul_div_succ _ gridPos
  -- The points are nearer together than the number and its lower neighbour, so where the lower
  -- point is half way to that neighbour or further, the upper one is less than half way back.
  by_cases near : 2 * (format.exactCoefficient code - lower * grid) <
      format.step (code - 1) * 5 ^ format.unitPlaces
  · exact ⟨lower, .inl rfl, by omega, by omega⟩
  · have upper : (lower + 1) * grid = lower * grid + grid := Nat.succ_mul lower grid
    exact ⟨lower + 1, .inr rfl, by omega, by omega⟩

/-- So one of the two points next to the number reads back. -/
theorem readsBack_of_fine {code grid : Nat} (positive : 0 < code) (gridPos : 0 < grid)
    (fine : grid < format.step (code - 1) * 5 ^ format.unitPlaces) :
    format.readsBack code (format.exactCoefficient code / grid * grid) = true ∨
      format.readsBack code ((format.exactCoefficient code / grid + 1) * grid) = true := by
  obtain ⟨index, rfl | rfl, above, below⟩ := exists_between_of_fine positive gridPos fine
  · exact .inl (readsBack_of_between above below)
  · exact .inr (readsBack_of_between above below)

theorem one_le_maxDigits (format : BinaryFormat) : 1 ≤ format.maxDigits := by
  have suffice := format.maxDigits_suffice
  rcases Nat.eq_zero_or_pos format.maxDigits with zero | positive
  · simp only [zero, Nat.pow_eq, Nat.zero_sub, Nat.pow_zero] at suffice
    exact absurd suffice (Nat.not_lt.mpr Nat.one_le_two_pow)
  · exact positive

/-- With `maxDigits` digits the grid is finer than the numbers are spaced. -/
theorem grid_lt_spacing {code size : Nat} (positive : 0 < code)
    (sized : 10 ^ (size - 1) ≤ format.exactCoefficient code) (long : format.maxDigits < size) :
    10 ^ (size - format.maxDigits) < format.step (code - 1) * 5 ^ format.unitPlaces := by
  have suffice := format.maxDigits_suffice
  simp only [Nat.pow_eq] at suffice
  have several := format.one_le_maxDigits
  have unitsLe := format.units_succ_le (code - 1)
  rw [Nat.sub_add_cancel positive] at unitsLe
  have spacingPos : 0 < format.step (code - 1) * 5 ^ format.unitPlaces :=
    Nat.mul_pos (format.step_pos _) (Nat.pow_pos (Nat.succ_pos 4))
  have product : 10 ^ (size - format.maxDigits) * 10 ^ (format.maxDigits - 1) <
      format.step (code - 1) * 5 ^ format.unitPlaces * 10 ^ (format.maxDigits - 1) :=
    calc 10 ^ (size - format.maxDigits) * 10 ^ (format.maxDigits - 1)
        = 10 ^ (size - 1) := by
          rw [← Nat.pow_add]
          congr 1
          omega
      _ ≤ format.exactCoefficient code := sized
      _ ≤ 2 ^ (format.fractionBits + 1) * format.step (code - 1) * 5 ^ format.unitPlaces :=
          Nat.mul_le_mul_right _ unitsLe
      _ = format.step (code - 1) * 5 ^ format.unitPlaces * 2 ^ (format.fractionBits + 1) := by ring
      _ < format.step (code - 1) * 5 ^ format.unitPlaces * 10 ^ (format.maxDigits - 1) :=
          Nat.mul_lt_mul_of_pos_left suffice spacingPos
  exact Nat.lt_of_mul_lt_mul_right product

/-- Some count of digits gives a decimal that reads back. -/
theorem exists_withDigits?_ne_none (format : BinaryFormat) (tie : Tie) (code : Nat) :
    let size := (digits (format.exactCoefficient code)).length
    ∃ count, 1 ≤ count ∧ count ≤ size ∧ count ≤ format.maxDigits ∧
      format.withDigits? tie code size count ≠ none := by
  intro size
  have several : 1 ≤ size := Nat.length_toDigits_pos
  rcases Nat.lt_or_ge format.maxDigits size with long | short
  · have positive : 0 < code := by
      by_contra zero
      have sizeOne : size = 1 := by
        simp only [size, Nat.eq_zero_of_not_pos zero, exactCoefficient_zero]
        rfl
      have several := format.one_le_maxDigits
      omega
    have sized := pow_le_of_length_digits (format.exactCoefficient_pos positive)
    have gridPos : 0 < 10 ^ (size - format.maxDigits) := Nat.pow_pos (Nat.succ_pos 9)
    have fine := grid_lt_spacing positive sized long
    refine ⟨format.maxDigits, format.one_le_maxDigits, long.le, Nat.le_refl _, ?_⟩
    exact withDigits?_ne_none (readsBack_of_fine positive gridPos fine)
  · refine ⟨size, several, Nat.le_refl _, short, withDigits?_ne_none (Or.inl ?_)⟩
    rw [Nat.sub_self, Nat.pow_zero, Nat.div_one, Nat.mul_one, readsBack_iff, ← magnitude_eq_div]
    exact format.inInterval_magnitude code

/-- A search through the numbers below a bound gives its first hit, if the bound lies past it. -/
theorem findSome?_range_of_first {α : Type} {attempt : Nat → Option α} {hit : Nat} {result : α}
    (found : attempt hit = some result) (missed : ∀ earlier < hit, attempt earlier = none)
    (bound : Nat) :
    (List.range bound).findSome? attempt = if hit < bound then some result else none := by
  induction bound with
  | zero => rfl
  | succ bound inductionHypothesis =>
      rw [List.range_succ, List.findSome?_append, inductionHypothesis, List.findSome?_singleton]
      rcases Nat.lt_trichotomy hit bound with before | here | after
      · rw [if_pos before, if_pos (Nat.lt_succ_of_lt before), Option.some_or]
      · rw [if_neg here.not_lt, if_pos (Nat.lt_succ_of_le here.le), ← here, found, Option.none_or]
      · rw [if_neg after.not_gt, if_neg (Nat.not_lt.mpr after), missed bound after, Option.none_or]

/-- The search through the counts of digits up to a limit: the decimal of the first count that gives
one. -/
def search (format : BinaryFormat) (tie : Tie) (code limit : Nat) : Option Decimal :=
  let size := (digits (format.exactCoefficient code)).length
  (List.range limit).findSome? fun count => format.withDigits? tie code size (count + 1)

/-- The shortest decimal is what the search finds up to `maxDigits`. -/
theorem shortest_eq_getD_search (format : BinaryFormat) (tie : Tie) (code : Nat) :
    format.shortest tie code = (format.search tie code format.maxDigits).getD
      ⟨format.exactCoefficient code, -format.unitPlaces⟩ :=
  rfl

/-- The search ends at the first count of digits that gives a decimal, and it has to go so far. -/
theorem search_of_first {tie : Tie} {code count : Nat} {result : Decimal} (nonzero : 1 ≤ count)
    (found : let size := (digits (format.exactCoefficient code)).length
      format.withDigits? tie code size count = some result)
    (missed : let size := (digits (format.exactCoefficient code)).length
      ∀ fewer, 1 ≤ fewer → fewer < count → format.withDigits? tie code size fewer = none)
    (limit : Nat) :
    format.search tie code limit = if count ≤ limit then some result else none := by
  obtain ⟨hit, rfl⟩ := Nat.exists_eq_add_of_le' nonzero
  let attempt (earlier : Nat) : Option Decimal :=
    format.withDigits? tie code (digits (format.exactCoefficient code)).length (earlier + 1)
  have foundAtHit : attempt hit = some result := found
  have missedBefore (earlier : Nat) (sooner : earlier < hit) : attempt earlier = none :=
    missed (earlier + 1) (Nat.succ_pos earlier) (Nat.succ_lt_succ sooner)
  exact findSome?_range_of_first foundAtHit missedBefore limit

/-- The search ends at some count of digits, and at no smaller count is anything found. -/
theorem exists_shortest (format : BinaryFormat) (tie : Tie) (code : Nat) :
    let size := (digits (format.exactCoefficient code)).length
    ∃ count, 1 ≤ count ∧ count ≤ size ∧ count ≤ format.maxDigits ∧
      format.withDigits? tie code size count = some (format.shortest tie code) ∧
      ∀ fewer, 1 ≤ fewer → fewer < count → format.withDigits? tie code size fewer = none := by
  intro size
  obtain ⟨last, lastPos, lastSize, lastBound, lastFound⟩ :=
    format.exists_withDigits?_ne_none tie code
  have hits : ∃ count, 1 ≤ count ∧ format.withDigits? tie code size count ≠ none :=
    ⟨last, lastPos, lastFound⟩
  obtain ⟨nonzero, hit⟩ := Nat.find_spec hits
  have notLater : Nat.find hits ≤ last := Nat.find_min' hits ⟨lastPos, lastFound⟩
  have missed (fewer : Nat) (fewerPos : 1 ≤ fewer) (sooner : fewer < Nat.find hits) :
      format.withDigits? tie code size fewer = none := by
    by_contra earlier
    exact Nat.find_min hits sooner ⟨fewerPos, earlier⟩
  obtain ⟨result, found⟩ := Option.ne_none_iff_exists'.mp hit
  have ends := search_of_first nonzero found missed format.maxDigits
  rw [if_pos (notLater.trans lastBound)] at ends
  have isShortest : format.shortest tie code = result := by
    rw [shortest_eq_getD_search, ends, Option.getD_some]
  rw [← isShortest] at found
  exact ⟨Nat.find hits, nonzero, notLater.trans lastSize, notLater.trans lastBound, found, missed⟩

/-! ### What is found -/

section Found

variable (format : BinaryFormat) (tie : Tie) (code : Nat)

/-- The shortest decimal rounds to the number. -/
theorem shortest_inInterval : format.InInterval code (format.shortest tie code).toRat := by
  obtain ⟨count, -, -, -, found, -⟩ := format.exists_shortest tie code
  exact withDigits?_inInterval found

theorem lt_pow_length_digits (exact : Nat) : exact < 10 ^ (digits exact).length :=
  (Nat.length_toDigits_le_iff (by decide) Nat.length_toDigits_pos).mp (Nat.le_refl _)

variable {code}

/-- What rounds to a positive number has a significant digit. -/
theorem one_le_length_significant (positive : 0 < code) {value : Decimal}
    (inside : format.InInterval code value.toRat) : 1 ≤ value.significant.length := by
  by_contra none
  have fits := (length_significant_le_iff value 0).mp (by omega)
  obtain ⟨leading, zeros, same, short⟩ := fits
  have zero : value.toRat = 0 := by
    rw [toRat, same, Nat.lt_one_iff.mp short]
    simp
  exact (inside.pos positive).ne' zero

/-- The search ends at just as many digits as its result has.  It finds no decimal of more digits
than it asks for, and had it asked for as few as the result has, it would have found one. -/
theorem shortest_found (positive : 0 < code) :
    let size := (digits (format.exactCoefficient code)).length
    let count := (format.shortest tie code).significant.length
    1 ≤ count ∧ count ≤ size ∧ count ≤ format.maxDigits ∧
      format.withDigits? tie code size count = some (format.shortest tie code) ∧
      ∀ fewer, 1 ≤ fewer → fewer < count → format.withDigits? tie code size fewer = none := by
  intro size count
  obtain ⟨last, nonzero, atMost, short, found, missed⟩ := format.exists_shortest tie code
  have sized := pow_le_of_length_digits (format.exactCoefficient_pos positive)
  have inside := format.shortest_inInterval tie code
  have someDigit : 1 ≤ count := format.one_le_length_significant positive inside
  have least : count ≤ last :=
    (length_significant_le_iff _ last).mpr
      (withDigits?_fitsDigits nonzero (lt_pow_length_digits _) found)
  have asMany : count = last := by
    by_contra different
    have missedBefore := missed count someDigit (Nat.lt_of_le_of_ne least different)
    exact withDigits?_eq_none someDigit (least.trans atMost) sized missedBefore
      ((length_significant_le_iff _ count).mp (Nat.le_refl _)) inside
  rw [asMany]
  exact ⟨nonzero, atMost, short, found, missed⟩

/-- No decimal with fewer significant digits rounds to the number. -/
theorem length_significant_shortest_le_of_inInterval (positive : 0 < code) {value : Decimal}
    (inside : format.InInterval code value.toRat) :
    (format.shortest tie code).significant.length ≤ value.significant.length := by
  obtain ⟨-, atMost, -, -, missed⟩ := format.shortest_found tie positive
  by_contra fewer
  have someDigit := format.one_le_length_significant positive inside
  have sized := pow_le_of_length_digits (format.exactCoefficient_pos positive)
  exact withDigits?_eq_none someDigit (by omega) sized
    (missed _ someDigit (Nat.lt_of_not_le fewer))
    ((length_significant_le_iff value _).mp (Nat.le_refl _)) inside

/-- No decimal with as few significant digits that rounds to the number is nearer to it. -/
theorem shortest_nearest (positive : 0 < code) {value : Decimal}
    (short : value.significant.length ≤ (format.shortest tie code).significant.length)
    (inside : format.InInterval code value.toRat) :
    |(format.shortest tie code).toRat - format.magnitude code| ≤
      |value.toRat - format.magnitude code| := by
  obtain ⟨nonzero, atMost, -, found, -⟩ := format.shortest_found tie positive
  have sized := pow_le_of_length_digits (format.exactCoefficient_pos positive)
  exact withDigits?_nearest nonzero atMost sized found
    ((length_significant_le_iff value _).mp short) inside

end Found

end SpreadFlow.BinaryFormat
