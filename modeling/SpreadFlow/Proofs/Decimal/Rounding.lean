/-
Module: SpreadFlow.Proofs.Decimal.Rounding
Purpose: Every fraction rounds to one code, and the model computes it.
Main exports: BinaryFormat.codeBelow_spec, BinaryFormat.nearestCode_nearest,
  BinaryFormat.existsUnique_nearest
-/
import SpreadFlow.Proofs.Decimal.Nearest

namespace SpreadFlow.BinaryFormat

/-!
The last code at or below a value follows from the length of the value in bits.  The value lies
between that code and the next, so it rounds to one of the two, and their midpoint tells to which.
Past the code of infinity the same choice is made as if the exponent had no bound; whatever it is,
infinity is then nearer than any finite number.
-/

variable (format : BinaryFormat)

/-- A significand that has its hidden bit, or one that is not scaled, has its own bits as code. -/
theorem units_of_significand {scale significand : Nat}
    (short : significand < 2 * format.hiddenBit)
    (normal : scale = 0 ∨ format.hiddenBit ≤ significand) :
    format.units (scale * format.hiddenBit + significand) = significand * 2 ^ scale ∧
      format.step (scale * format.hiddenBit + significand) = 2 ^ scale := by
  rcases Nat.lt_or_ge significand format.hiddenBit with subnormal | full
  · have unscaled : scale = 0 := normal.resolve_right subnormal.not_ge
    rw [format.units_of_fields subnormal, format.step_of_fields subnormal, unscaled]
    simp
  · have fields : scale * format.hiddenBit + significand =
        (scale + 1) * format.hiddenBit + (significand - format.hiddenBit) := by
      rw [Nat.succ_mul]
      omega
    have below : significand - format.hiddenBit < format.hiddenBit := by omega
    rw [fields, format.units_of_fields below, format.step_of_fields below,
      if_neg (Nat.succ_ne_zero scale), Nat.add_sub_cancel' full, Nat.add_sub_cancel]
    exact ⟨rfl, rfl⟩

/-- The code below an amount is the last whose number of units does not exceed it. -/
theorem codeBelow_spec (amount : Nat) :
    format.units (format.codeBelow amount) ≤ amount ∧
      amount < format.units (format.codeBelow amount + 1) := by
  simp only [codeBelow, Nat.pow_eq]
  generalize scaleEq : amount.log2 - format.fractionBits = scale
  have weightPos : 0 < 2 ^ scale := Nat.two_pow_pos scale
  have short : amount / 2 ^ scale < 2 * format.hiddenBit := by
    have shape : 2 * format.hiddenBit * 2 ^ scale = 2 ^ (format.fractionBits + scale + 1) := by
      rw [hiddenBit, Nat.pow_eq]
      ring
    rw [Nat.div_lt_iff_lt_mul weightPos, shape]
    exact Nat.lt_of_lt_of_le Nat.lt_log2_self (Nat.pow_le_pow_right (Nat.succ_pos 1) (by omega))
  have normal : scale = 0 ∨ format.hiddenBit ≤ amount / 2 ^ scale := by
    rcases Nat.eq_zero_or_pos scale with unscaled | scaled
    · exact Or.inl unscaled
    · right
      have nonzero : amount ≠ 0 := by
        rintro rfl
        rw [Nat.log2_zero] at scaleEq
        omega
      rw [Nat.le_div_iff_mul_le weightPos, hiddenBit, Nat.pow_eq, ← Nat.pow_add]
      exact (Nat.le_log2 nonzero).mp (by omega)
  obtain ⟨units, step⟩ := format.units_of_significand short normal
  rw [units_succ, units, step, ← Nat.succ_mul]
  exact ⟨Nat.div_mul_le_self amount _, Nat.lt_mul_of_div_lt (Nat.lt_succ_self _) weightPos⟩

variable {format}

/-! ### Where the choice lies -/

/-- From a number up to the midpoint above it everything lies in the number's interval. -/
theorem inInterval_of_ge {code : Nat} {value : ℚ} (above : format.magnitude code ≤ value)
    (below : value ≤ (format.magnitude code + format.magnitude (code + 1)) / 2)
    (tie : value = (format.magnitude code + format.magnitude (code + 1)) / 2 → code % 2 = 0) :
    format.InInterval code value := by
  have previous := format.magnitude_strictMono.monotone (Nat.sub_le code 1)
  rw [inInterval_iff]
  refine ⟨by linarith, below, ?_⟩
  by_cases even : code % 2 = 0
  · exact Or.inl even
  · have before : code - 1 < code := by omega
    have strict := format.magnitude_strictMono before
    exact Or.inr ⟨fun atLower => by linarith, fun atUpper => even (tie atUpper)⟩

/-- From the midpoint below a number up to it everything lies in the number's interval. -/
theorem inInterval_of_le {code : Nat} {value : ℚ}
    (above : (format.magnitude code + format.magnitude (code + 1)) / 2 ≤ value)
    (below : value ≤ format.magnitude (code + 1))
    (tie : (format.magnitude code + format.magnitude (code + 1)) / 2 = value →
      (code + 1) % 2 = 0) :
    format.InInterval (code + 1) value := by
  have next := format.magnitude_strictMono (Nat.lt_succ_self (code + 1))
  rw [inInterval_iff, Nat.add_sub_cancel]
  refine ⟨above, by linarith, ?_⟩
  by_cases even : (code + 1) % 2 = 0
  · exact Or.inl even
  · exact Or.inr ⟨fun atLower => even (tie atLower), fun atUpper => by linarith⟩

/-- A code past that of infinity stands for infinity, which no finite number is as near as. -/
theorem InInterval.nearest_min {code : Nat} {value : ℚ} (inside : format.InInterval code value) :
    format.Nearest value (min code format.infinityCode) := by
  rcases Nat.lt_or_ge format.infinityCode code with beyond | reached
  · rw [Nat.min_eq_right beyond.le]
    have above := (inInterval_iff.mp inside).1
    have before : code - 1 < code := by omega
    have strict := format.magnitude_strictMono before
    have atLeast := format.magnitude_strictMono.monotone (Nat.le_sub_one_of_lt beyond)
    have past : format.magnitude format.infinityCode < value := by linarith
    have distance : |value - format.magnitude format.infinityCode| =
        value - format.magnitude format.infinityCode := abs_of_pos (by linarith)
    refine ⟨Nat.le_refl _, fun other finite => ?_, fun other finite different equal => ?_⟩
    · have lower := format.magnitude_strictMono.monotone finite
      rw [distance]
      exact (sub_le_sub_left lower value).trans (le_abs_self _)
    · have lower := format.magnitude_strictMono (Nat.lt_of_le_of_ne finite different)
      have farther := le_abs_self (value - format.magnitude other)
      rw [distance] at equal
      linarith
  · rw [Nat.min_eq_left reached]
    exact inside.nearest reached

/-! ### The choice -/

section Fraction

variable (format : BinaryFormat) (numerator : Nat) {denominator : Nat} (positive : 0 < denominator)

include positive

/-- The comparison with the midpoint, in units. -/
theorem fraction_le_midpoint_iff (code : Nat) :
    (numerator : ℚ) / denominator ≤ (format.magnitude code + format.magnitude (code + 1)) / 2 ↔
      2 * (numerator * 2 ^ format.unitPlaces) ≤
        (format.units code + format.units (code + 1)) * denominator := by
  have denominatorPos : (0 : ℚ) < denominator := by exact_mod_cast positive
  rw [magnitude, magnitude, ← add_div, div_div, div_le_div_iff₀ denominatorPos (by positivity),
    ← Nat.cast_le (α := ℚ)]
  push_cast
  ring_nf

theorem midpoint_le_fraction_iff (code : Nat) :
    (format.magnitude code + format.magnitude (code + 1)) / 2 ≤ (numerator : ℚ) / denominator ↔
      (format.units code + format.units (code + 1)) * denominator ≤
        2 * (numerator * 2 ^ format.unitPlaces) := by
  have denominatorPos : (0 : ℚ) < denominator := by exact_mod_cast positive
  rw [magnitude, magnitude, ← add_div, div_div, div_le_div_iff₀ (by positivity) denominatorPos,
    ← Nat.cast_le (α := ℚ)]
  push_cast
  ring_nf

/-- The fraction lies between the code below its whole units and the next code. -/
theorem fraction_between :
    let code := format.codeBelow (numerator * 2 ^ format.unitPlaces / denominator)
    format.magnitude code ≤ (numerator : ℚ) / denominator ∧
      (numerator : ℚ) / denominator < format.magnitude (code + 1) := by
  intro code
  have denominatorPos : (0 : ℚ) < denominator := by exact_mod_cast positive
  have unitPos : (0 : ℚ) < 2 ^ format.unitPlaces := by positivity
  obtain ⟨below, above⟩ := format.codeBelow_spec (numerator * 2 ^ format.unitPlaces / denominator)
  rw [Nat.le_div_iff_mul_le positive] at below
  rw [Nat.div_lt_iff_lt_mul positive] at above
  rw [magnitude, magnitude, div_le_div_iff₀ unitPos denominatorPos,
    div_lt_div_iff₀ denominatorPos unitPos]
  exact ⟨by exact_mod_cast below, by exact_mod_cast above⟩

/-- The model's rounding is rounding to nearest. -/
theorem nearestCode_nearest :
    format.Nearest (numerator / denominator) (format.nearestCode numerator denominator) := by
  obtain ⟨above, below⟩ := format.fraction_between numerator positive
  simp only [nearestCode, Nat.pow_eq]
  generalize format.codeBelow (numerator * 2 ^ format.unitPlaces / denominator) = code at *
  have belowMiddle := format.fraction_le_midpoint_iff numerator positive code
  have aboveMiddle := format.midpoint_le_fraction_iff numerator positive code
  apply InInterval.nearest_min
  split
  · rename_i less
    have lower := not_le.mp (mt aboveMiddle.mp less.not_ge)
    exact inInterval_of_ge above lower.le fun tie => absurd tie lower.ne
  · rename_i notLess
    split
    · rename_i more
      have upper := not_le.mp (mt belowMiddle.mp more.not_ge)
      exact inInterval_of_le upper.le below.le fun tie => absurd tie upper.ne
    · rename_i notMore
      -- Half way.  The remainder steps to the next code if this one is odd.
      rcases Nat.mod_two_eq_zero_or_one code with even | odd
      · rw [even, Nat.add_zero]
        exact inInterval_of_ge above (belowMiddle.mpr (Nat.le_of_not_lt notMore)) fun _ => even
      · rw [odd]
        exact inInterval_of_le (aboveMiddle.mpr (Nat.le_of_not_lt notLess)) below.le
          fun _ => by omega

end Fraction

/-- Every value that is not negative rounds to one code. -/
theorem existsUnique_nearest (format : BinaryFormat) {value : ℚ} (nonneg : 0 ≤ value) :
    ∃! code, format.Nearest value code := by
  have fraction : (value.num.toNat : ℚ) / value.den = value := by
    have whole : (value.num.toNat : ℤ) = value.num :=
      Int.toNat_of_nonneg (Rat.num_nonneg.mpr nonneg)
    rw [← Int.cast_natCast, whole]
    exact Rat.num_div_den value
  have nearest := format.nearestCode_nearest value.num.toNat value.den_pos
  rw [fraction] at nearest
  exact ⟨_, nearest, fun other too => too.unique nearest⟩

end SpreadFlow.BinaryFormat
