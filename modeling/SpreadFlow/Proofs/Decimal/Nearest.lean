/-
Module: SpreadFlow.Proofs.Decimal.Nearest
Purpose: Rounding to the nearest number of a binary format, and the values that round to a number.
Main exports: BinaryFormat.magnitude, BinaryFormat.step, BinaryFormat.Nearest,
  BinaryFormat.InInterval, BinaryFormat.nearest_iff_inInterval
-/
import Mathlib.Algebra.Order.Field.Power
import Mathlib.Algebra.Order.Field.Rat
import Mathlib.Tactic.FieldSimp
import Mathlib.Tactic.Linarith
import Mathlib.Tactic.Positivity
import Mathlib.Tactic.Ring
import SpreadFlow.Decimal.Binary

namespace SpreadFlow.BinaryFormat

/-!
A value rounds to the code that no other is nearer to, and of two equally near codes to the even
one.  The code of infinity takes part as the number that would follow the largest finite one.

Since codes are in the order of their numbers, only the neighbours of a code compete with it.  What
rounds to a finite code is therefore an interval: it ends half way to either neighbour, and both
ends belong to it if the code is even.
-/

variable (format : BinaryFormat)

/-- The exact value of a code. -/
def magnitude (code : Nat) : ℚ :=
  format.units code / 2 ^ format.unitPlaces

/-- How many units the next number is away. -/
def step (code : Nat) : Nat :=
  2 ^ (code / format.hiddenBit - 1)

/-- The value rounds to the code, to nearest with ties to even. -/
structure Nearest (value : ℚ) (code : Nat) : Prop where
  le_infinity : code ≤ format.infinityCode
  closest : ∀ other ≤ format.infinityCode,
    |value - format.magnitude code| ≤ |value - format.magnitude other|
  even_of_tie : ∀ other ≤ format.infinityCode, other ≠ code →
    |value - format.magnitude code| = |value - format.magnitude other| → code % 2 = 0

/-- The value lies between the midpoints to the codes before and after, or on one of them if the
code is even. -/
def InInterval (code : Nat) (value : ℚ) : Prop :=
  let lower := (format.magnitude (code - 1) + format.magnitude code) / 2
  let upper := (format.magnitude code + format.magnitude (code + 1)) / 2
  if code % 2 = 0 then lower ≤ value ∧ value ≤ upper else lower < value ∧ value < upper

/-! ### Codes are in the order of their values -/

theorem hiddenBit_pos : 0 < format.hiddenBit :=
  Nat.pow_pos (Nat.succ_pos 1)

theorem infinityCode_lt : format.infinityCode < 2 ^ format.magnitudeBits := by
  have hidden := format.hiddenBit_pos
  have fields : 0 < 2 ^ format.exponentBits := Nat.two_pow_pos format.exponentBits
  rw [infinityCode, magnitudeBits, Nat.pow_add, Nat.pow_eq]
  exact Nat.mul_lt_mul_of_pos_right (Nat.sub_lt fields Nat.one_pos) hidden

theorem step_pos (code : Nat) : 0 < format.step code :=
  Nat.pow_pos (Nat.succ_pos 1)

theorem step_mono {code other : Nat} (before : code ≤ other) :
    format.step code ≤ format.step other :=
  Nat.pow_le_pow_right (Nat.succ_pos 1)
    (Nat.sub_le_sub_right (Nat.div_le_div_right before) 1)

/-- Every code is put together from its two fields. -/
theorem exists_fields (code : Nat) :
    ∃ exponentField fractionField, fractionField < format.hiddenBit ∧
      code = exponentField * format.hiddenBit + fractionField :=
  ⟨code / format.hiddenBit, code % format.hiddenBit, Nat.mod_lt code format.hiddenBit_pos,
    (Nat.div_add_mod' code format.hiddenBit).symm⟩

theorem fields_div {exponentField fractionField : Nat} (below : fractionField < format.hiddenBit) :
    (exponentField * format.hiddenBit + fractionField) / format.hiddenBit = exponentField := by
  rw [Nat.mul_comm, Nat.mul_add_div format.hiddenBit_pos, Nat.div_eq_of_lt below, Nat.add_zero]

theorem units_of_fields {exponentField fractionField : Nat}
    (below : fractionField < format.hiddenBit) :
    format.units (exponentField * format.hiddenBit + fractionField) =
      if exponentField = 0 then fractionField
      else (format.hiddenBit + fractionField) * 2 ^ (exponentField - 1) := by
  have modulo : (exponentField * format.hiddenBit + fractionField) % format.hiddenBit =
      fractionField :=
    Nat.mul_add_mod_of_lt below
  simp only [units, format.fields_div below, modulo, Nat.pow_eq]

theorem step_of_fields {exponentField fractionField : Nat}
    (below : fractionField < format.hiddenBit) :
    format.step (exponentField * format.hiddenBit + fractionField) = 2 ^ (exponentField - 1) := by
  rw [step, format.fields_div below]

/-- Within one exponent the fraction grows by one; at its end the next exponent begins with twice
the hidden bit of this one. -/
theorem units_succ (code : Nat) :
    format.units (code + 1) = format.units code + format.step code := by
  obtain ⟨exponentField, fractionField, below, rfl⟩ := format.exists_fields code
  rw [format.step_of_fields below]
  by_cases last : fractionField + 1 = format.hiddenBit
  -- The fraction field is full, and the carry goes into the exponent field.
  · have carried : exponentField * format.hiddenBit + fractionField + 1 =
        (exponentField + 1) * format.hiddenBit + 0 := by
      rw [Nat.succ_mul, Nat.add_assoc, last, Nat.add_zero]
    rw [carried, format.units_of_fields below, format.units_of_fields format.hiddenBit_pos, ← last]
    cases exponentField with
    | zero => simp
    | succ exponent =>
        simp only [Nat.succ_ne_zero, if_false, Nat.add_sub_cancel, Nat.pow_succ]
        ring
  · have inside : fractionField + 1 < format.hiddenBit := Nat.lt_of_le_of_ne below last
    rw [Nat.add_assoc, format.units_of_fields below, format.units_of_fields inside]
    cases exponentField with
    | zero => simp
    | succ exponent =>
        simp only [Nat.succ_ne_zero, if_false, Nat.add_sub_cancel]
        ring

theorem units_strictMono : StrictMono format.units := by
  apply strictMono_nat_of_lt_succ
  intro code
  rw [units_succ]
  exact Nat.lt_add_of_pos_right (format.step_pos code)

theorem magnitude_strictMono : StrictMono format.magnitude := by
  intro code other before
  unfold magnitude
  have units : (format.units code : ℚ) < format.units other := by
    exact_mod_cast format.units_strictMono before
  gcongr

theorem magnitude_nonneg (code : Nat) : 0 ≤ format.magnitude code := by
  unfold magnitude
  positivity

/-- The next number is at most twice the hidden bit at the weight of this one's last bit. -/
theorem units_succ_le (code : Nat) :
    format.units (code + 1) ≤ 2 ^ (format.fractionBits + 1) * format.step code := by
  obtain ⟨exponentField, fractionField, below, rfl⟩ := format.exists_fields code
  have doubled : 2 ^ (format.fractionBits + 1) = 2 * format.hiddenBit := by
    rw [hiddenBit, Nat.pow_eq, Nat.pow_succ, Nat.mul_comm]
  rw [units_succ, format.units_of_fields below, format.step_of_fields below, doubled]
  split
  · rename_i subnormal
    rw [subnormal]
    simp only [Nat.zero_sub, Nat.pow_zero, Nat.mul_one]
    omega
  · rw [← Nat.succ_mul]
    exact Nat.mul_le_mul_right _ (by omega)

/-! ### Rounding to nearest -/

variable {format}

/-- The lower of two numbers is at least as near as the upper one up to the midpoint. -/
theorem lower_nearer_iff {low high value : ℚ} (before : low < high) :
    |value - low| ≤ |value - high| ↔ value ≤ (low + high) / 2 := by
  rw [← sq_le_sq]
  constructor
  · intro nearer
    nlinarith
  · intro below
    nlinarith

/-- The upper of two numbers is at least as near as the lower one from the midpoint on. -/
theorem upper_nearer_iff {low high value : ℚ} (before : low < high) :
    |value - high| ≤ |value - low| ↔ (low + high) / 2 ≤ value := by
  rw [← sq_le_sq]
  constructor
  · intro nearer
    nlinarith
  · intro above
    nlinarith

/-- Between two codes there is a nearer one unless they are neighbours, and of two neighbours only
one is even. -/
theorem Nearest.unique_of_lt {value : ℚ} {code other : Nat} (first : format.Nearest value code)
    (second : format.Nearest value other) : ¬ code < other := by
  intro before
  have equal : |value - format.magnitude code| = |value - format.magnitude other| :=
    le_antisymm (first.closest other second.le_infinity) (second.closest code first.le_infinity)
  have codeEven := first.even_of_tie other second.le_infinity before.ne' equal
  have otherEven := second.even_of_tie code first.le_infinity before.ne equal.symm
  have between : code + 1 < other := by omega
  have nearer := first.closest (code + 1) (between.le.trans second.le_infinity)
  have lower := format.magnitude_strictMono (Nat.lt_succ_self code)
  have upper := format.magnitude_strictMono between
  generalize format.magnitude (code + 1) = middle at nearer lower upper
  generalize format.magnitude code = low at equal nearer lower
  generalize format.magnitude other = high at equal upper
  grind

/-- No value rounds to two codes. -/
theorem Nearest.unique {value : ℚ} {code other : Nat} (first : format.Nearest value code)
    (second : format.Nearest value other) : code = other :=
  le_antisymm (Nat.le_of_not_lt (second.unique_of_lt first))
    (Nat.le_of_not_lt (first.unique_of_lt second))

/-- Every number lies in its own interval. -/
theorem inInterval_magnitude (code : Nat) : format.InInterval code (format.magnitude code) := by
  have upper := format.magnitude_strictMono (Nat.lt_succ_self code)
  have lower := format.magnitude_strictMono.monotone (Nat.sub_le code 1)
  unfold InInterval
  split
  · constructor <;> linarith
  · rename_i odd
    have before : code - 1 < code := by omega
    have strict := format.magnitude_strictMono before
    constructor <;> linarith

/-- What lies between two values of the interval belongs to it. -/
theorem InInterval.convex {code : Nat} {low middle high : ℚ} (lowIn : format.InInterval code low)
    (highIn : format.InInterval code high) (above : low ≤ middle) (below : middle ≤ high) :
    format.InInterval code middle := by
  unfold InInterval at *
  split at lowIn
  · rename_i even
    rw [if_pos even] at highIn ⊢
    exact ⟨lowIn.1.trans above, below.trans highIn.2⟩
  · rename_i odd
    rw [if_neg odd] at highIn ⊢
    exact ⟨lowIn.1.trans_le above, below.trans_lt highIn.2⟩

/-- Nothing at or below zero rounds to a positive number. -/
theorem InInterval.pos {code : Nat} {value : ℚ} (inside : format.InInterval code value)
    (positive : 0 < code) : 0 < value := by
  have previous := format.magnitude_nonneg (code - 1)
  have own : 0 < format.magnitude code :=
    (format.magnitude_nonneg 0).trans_lt (format.magnitude_strictMono positive)
  unfold InInterval at inside
  split at inside
  · linarith [inside.1]
  · linarith [inside.1]

/-- The midpoints to the two neighbours, with `code` even or not. -/
theorem inInterval_iff {code : Nat} {value : ℚ} :
    format.InInterval code value ↔
      (format.magnitude (code - 1) + format.magnitude code) / 2 ≤ value ∧
      value ≤ (format.magnitude code + format.magnitude (code + 1)) / 2 ∧
      (code % 2 = 0 ∨
        (format.magnitude (code - 1) + format.magnitude code) / 2 ≠ value ∧
        value ≠ (format.magnitude code + format.magnitude (code + 1)) / 2) := by
  unfold InInterval
  split
  · rename_i even
    simp [even]
  · rename_i odd
    simp only [odd, false_or]
    constructor
    · rintro ⟨above, below⟩
      exact ⟨above.le, below.le, above.ne, below.ne⟩
    · rintro ⟨above, below, notLower, notUpper⟩
      exact ⟨lt_of_le_of_ne above notLower, lt_of_le_of_ne below notUpper⟩

/-- What rounds to a finite code is no further than half way to its neighbours, since otherwise one
of them is nearer. -/
theorem Nearest.inInterval {code : Nat} {value : ℚ} (nearest : format.Nearest value code)
    (finite : code < format.infinityCode) (nonneg : 0 ≤ value) : format.InInterval code value := by
  have next := format.magnitude_strictMono (Nat.lt_succ_self code)
  have below := (lower_nearer_iff next).mp (nearest.closest (code + 1) finite)
  rw [inInterval_iff]
  rcases Nat.eq_zero_or_pos code with zero | positive
  · refine ⟨?_, below, Or.inl (by rw [zero])⟩
    rw [zero]
    simpa [magnitude, units] using nonneg
  · have previous := format.magnitude_strictMono (Nat.sub_lt positive Nat.one_pos)
    have reached : code - 1 ≤ format.infinityCode := (Nat.sub_le code 1).trans finite.le
    have above := (upper_nearer_iff previous).mp (nearest.closest (code - 1) reached)
    refine ⟨above, below, ?_⟩
    by_cases even : code % 2 = 0
    · exact Or.inl even
    · refine Or.inr ⟨fun atLower => even ?_, fun atUpper => even ?_⟩
      · have back := (lower_nearer_iff previous).mpr atLower.ge
        exact nearest.even_of_tie (code - 1) reached (by omega)
          (le_antisymm (nearest.closest _ reached) back)
      · have back := (upper_nearer_iff next).mpr atUpper.ge
        exact nearest.even_of_tie (code + 1) finite (by omega)
          (le_antisymm (nearest.closest _ finite) back)

/-- Every other code lies at or beyond a neighbour, so no other is nearer to a value of the
interval, and one is as near only at an end. -/
theorem InInterval.compare {code other : Nat} {value : ℚ} (inside : format.InInterval code value)
    (different : other ≠ code) :
    |value - format.magnitude code| ≤ |value - format.magnitude other| ∧
      (|value - format.magnitude code| = |value - format.magnitude other| → code % 2 = 0) := by
  obtain ⟨above, below, evenOrInside⟩ := inInterval_iff.mp inside
  rcases Nat.lt_or_gt_of_ne different with before | after
  · have apart := format.magnitude_strictMono before
    have beyond := format.magnitude_strictMono.monotone (Nat.le_sub_one_of_lt before)
    refine ⟨(upper_nearer_iff apart).mpr (by linarith), fun equal => ?_⟩
    have atMost := (lower_nearer_iff apart).mp equal.ge
    rcases evenOrInside with even | ⟨notLower, -⟩
    · exact even
    · exact absurd (by linarith) notLower
  · have apart := format.magnitude_strictMono after
    have beyond := format.magnitude_strictMono.monotone (Nat.succ_le_of_lt after)
    refine ⟨(lower_nearer_iff apart).mpr (by linarith), fun equal => ?_⟩
    have atLeast := (upper_nearer_iff apart).mp equal.ge
    rcases evenOrInside with even | ⟨-, notUpper⟩
    · exact even
    · exact absurd (by linarith) notUpper

/-- What lies in the interval of a code up to that of infinity rounds to it. -/
theorem InInterval.nearest {code : Nat} {value : ℚ} (inside : format.InInterval code value)
    (reached : code ≤ format.infinityCode) : format.Nearest value code := by
  refine ⟨reached, fun other _ => ?_, fun other _ different => (inside.compare different).2⟩
  by_cases same : other = code
  · rw [same]
  · exact (inside.compare same).1

/-- The interval of a finite code holds exactly what rounds to it. -/
theorem nearest_iff_inInterval {code : Nat} {value : ℚ} (finite : code < format.infinityCode)
    (nonneg : 0 ≤ value) : format.Nearest value code ↔ format.InInterval code value := by
  constructor
  · intro nearest
    exact nearest.inInterval finite nonneg
  · intro inside
    exact inside.nearest finite.le

end SpreadFlow.BinaryFormat
