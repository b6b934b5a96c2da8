/-
Module: SpreadFlow.Proofs.Decimal.Integral
Purpose: The shortest decimal of a number is an integer exactly if the number is, and it is that
  integer as long as the format has all integers up to there.
Main exports: BinaryFormat.step_dvd_units, BinaryFormat.isIntegral_shortest_iff,
  BinaryFormat.toRat_shortest_of_small, BinaryFormat.exists_magnitude_eq_of_small,
  BinaryFormat.magnitude_infinityCode
-/
import SpreadFlow.Proofs.Decimal.Rounding
import SpreadFlow.Proofs.Decimal.Shortest

namespace SpreadFlow.BinaryFormat

/-!
Numbers are multiples of their step.  If a number is no integer, then its step divides one, so an
integer that is less than a step away is not in its interval.  If it is an integer, the exact value
has zeros for all its places, and the search keeps them or stops before the point.
-/

open Decimal

variable {format : BinaryFormat}

/-! ### Numbers as multiples of their step -/

theorem step_dvd_units (format : BinaryFormat) (code : Nat) :
    format.step code ∣ format.units code := by
  obtain ⟨exponentField, fractionField, below, rfl⟩ := format.exists_fields code
  rw [format.units_of_fields below, format.step_of_fields below]
  split
  · rename_i subnormal
    rw [subnormal]
    exact Nat.one_dvd _
  · exact Nat.dvd_mul_left _ _

/-- The number before, if there is one, is one step of its own away. -/
theorem units_le_units_pred_add {code bound : Nat}
    (near : 0 < code → format.step (code - 1) ≤ bound) :
    format.units code ≤ format.units (code - 1) + bound := by
  rcases Nat.eq_zero_or_pos code with zero | positive
  · rw [zero]
    exact Nat.le_add_right _ _
  · have before := format.units_succ (code - 1)
    rw [Nat.sub_add_cancel positive] at before
    rw [before]
    exact Nat.add_le_add_left (near positive) _

/-- A multiple of the step is half way to a neighbour only if it is the number itself. -/
theorem eq_units_of_dvd {code amount : Nat} (multiple : format.step code ∣ amount)
    (above : format.units (code - 1) + format.units code ≤ 2 * amount)
    (below : 2 * amount ≤ format.units code + format.units (code + 1)) :
    amount = format.units code := by
  have before := units_le_units_pred_add fun _ => format.step_mono (Nat.sub_le code 1)
  rw [units_succ] at below
  obtain ⟨others, amountEq⟩ := multiple
  obtain ⟨steps, unitsEq⟩ := format.step_dvd_units code
  have stepPos := format.step_pos code
  rcases Nat.lt_trichotomy others steps with fewer | same | more
  · have apart := Nat.mul_le_mul_left (format.step code) (Nat.succ_le_of_lt fewer)
    rw [Nat.mul_succ] at apart
    omega
  · rw [amountEq, unitsEq, same]
  · have apart := Nat.mul_le_mul_left (format.step code) (Nat.succ_le_of_lt more)
    rw [Nat.mul_succ] at apart
    omega

theorem magnitude_eq_natCast_iff {code integer : Nat} :
    format.magnitude code = integer ↔ format.units code = integer * 2 ^ format.unitPlaces := by
  rw [magnitude, div_eq_iff (by positivity)]
  exact_mod_cast Iff.rfl

/-- Where an integer lies if it is in a number's interval, in units. -/
theorem InInterval.units_bounds {code integer : Nat} (inside : format.InInterval code integer) :
    format.units (code - 1) + format.units code ≤ 2 * (integer * 2 ^ format.unitPlaces) ∧
      2 * (integer * 2 ^ format.unitPlaces) ≤ format.units code + format.units (code + 1) := by
  have unitPos : (0 : ℚ) < 2 ^ format.unitPlaces := by positivity
  have scaled : (integer : ℚ) =
      (integer * 2 ^ format.unitPlaces : Nat) / 2 ^ format.unitPlaces := by
    push_cast
    field_simp
  obtain ⟨above, below, -⟩ := inInterval_iff.mp inside
  rw [scaled, magnitude, magnitude] at above below
  exact ⟨(midpoint_le_iff unitPos).mp above, (le_midpoint_iff unitPos).mp below⟩

/-- No integer is in the interval of a number that is none: the number's step divides one. -/
theorem InInterval.exists_magnitude_eq {code integer : Nat}
    (inside : format.InInterval code integer) : ∃ whole : Nat, format.magnitude code = whole := by
  obtain ⟨above, below⟩ := inside.units_bounds
  rcases Nat.le_total (code / format.hiddenBit - 1) format.unitPlaces with fine | coarse
  · have divides : format.step code ∣ integer * 2 ^ format.unitPlaces :=
      Nat.dvd_mul_left_of_dvd (Nat.pow_dvd_pow 2 fine) integer
    exact ⟨integer, magnitude_eq_natCast_iff.mpr (eq_units_of_dvd divides above below).symm⟩
  · have whole : 2 ^ format.unitPlaces ∣ format.units code :=
      Nat.dvd_trans (Nat.pow_dvd_pow 2 coarse) (format.step_dvd_units code)
    obtain ⟨quotient, product⟩ := whole
    exact ⟨quotient, magnitude_eq_natCast_iff.mpr (by rw [product, Nat.mul_comm])⟩

/-! ### The shortest decimal of an integer -/

/-- If the exact value is on the grid, then it is found. -/
theorem toRat_eq_magnitude_of_dvd {tie : Tie} {code size count : Nat} {value : Decimal}
    (onGrid : 10 ^ (size - count) ∣ format.exactCoefficient code)
    (found : format.withDigits? tie code size count = some value) :
    value.toRat = format.magnitude code := by
  have gridPos : 0 < 10 ^ (size - count) := Nat.pow_pos (Nat.succ_pos 9)
  obtain ⟨chosen, isPoint⟩ := exists_gridPoint?_eq_some found
  have exact : format.exactCoefficient code / 10 ^ (size - count) * 10 ^ (size - count) =
      format.exactCoefficient code := Nat.div_mul_cancel onGrid
  have reads : format.readsBack code (format.exactCoefficient code) = true := by
    rw [readsBack_iff, ← magnitude_eq_div]
    exact format.inInterval_magnitude code
  rw [isPoint, gridPoint, magnitude_eq_div]
  rcases gridPoint?_eq_some chosen with ⟨same, -⟩ | ⟨-, -, nearer⟩
  · rw [same, exact]
  · rw [exact] at nearer
    have notNearer := nearer reads
    rw [Nat.succ_mul, exact] at notNearer
    omega

/-- The shortest decimal of an integer is that integer or some multiple of ten. -/
theorem toRat_shortest_of_natCast (tie : Tie) {code integer : Nat}
    (integral : format.magnitude code = integer) :
    (format.shortest tie code).toRat = integer ∨
      ∃ tens : Nat, (format.shortest tie code).toRat = (10 * tens : Nat) := by
  obtain ⟨count, -, -, -, found, -⟩ := format.exists_shortest tie code
  have exact : format.exactCoefficient code = integer * 10 ^ format.unitPlaces := by
    rw [exactCoefficient, magnitude_eq_natCast_iff.mp integral, Nat.pow_eq, Nat.mul_assoc,
      ← Nat.mul_pow]
  obtain ⟨-, isPoint⟩ := exists_gridPoint?_eq_some found
  by_cases kept : (digits (format.exactCoefficient code)).length - count ≤ format.unitPlaces
  · left
    rw [← integral]
    have onGrid := Nat.dvd_mul_left_of_dvd (Nat.pow_dvd_pow 10 kept) integer
    rw [← exact] at onGrid
    exact toRat_eq_magnitude_of_dvd onGrid found
  · -- More is dropped than the places, so the last digit before the point is.
    right
    obtain ⟨extra, dropped⟩ := Nat.exists_eq_add_of_lt (Nat.lt_of_not_le kept)
    refine ⟨(format.shortest tie code).coefficient * 10 ^ extra, ?_⟩
    rw [isPoint, gridPoint, dropped, Nat.pow_succ, Nat.pow_add]
    push_cast
    field_simp

/-- A number's shortest decimal is an integer exactly if the number is. -/
theorem isIntegral_shortest_iff (tie : Tie) {code : Nat} :
    (∃ integer : Nat, (format.shortest tie code).toRat = integer) ↔
      ∃ integer : Nat, format.magnitude code = integer := by
  constructor
  · rintro ⟨integer, written⟩
    have inside := format.shortest_inInterval tie code
    rw [written] at inside
    exact inside.exists_magnitude_eq
  · rintro ⟨integer, integral⟩
    rcases toRat_shortest_of_natCast tie integral with same | ⟨tens, multiple⟩
    · exact ⟨integer, same⟩
    · exact ⟨10 * tens, multiple⟩

/-! ### Integers that have all their digits -/

/-- Below a power of two the step is the power that leaves out the significand's bits. -/
theorem step_le_of_units_lt {code scale : Nat}
    (below : format.units code < 2 ^ (format.fractionBits + 1 + scale)) :
    format.step code ≤ 2 ^ scale := by
  obtain ⟨exponentField, fractionField, fits, rfl⟩ := format.exists_fields code
  rw [format.units_of_fields fits] at below
  rw [format.step_of_fields fits]
  apply Nat.pow_le_pow_right (Nat.succ_pos 1)
  split at below
  · rename_i subnormal
    rw [subnormal]
    exact Nat.zero_le _
  · have atLeast : 2 ^ (format.fractionBits + (exponentField - 1)) ≤
        (format.hiddenBit + fractionField) * 2 ^ (exponentField - 1) := by
      rw [Nat.pow_add]
      exact Nat.mul_le_mul_right _ (Nat.le_add_right _ _)
    have shorter := (Nat.pow_lt_pow_iff_right Nat.one_lt_two).mp (atLeast.trans_lt below)
    omega

theorem scaled_le {integer : Nat} (small : integer ≤ 2 ^ (format.fractionBits + 1)) :
    integer * 2 ^ format.unitPlaces ≤ 2 ^ (format.fractionBits + 1 + format.unitPlaces) := by
  rw [Nat.pow_add]
  exact Nat.mul_le_mul_right _ small

section Neighbours

variable {code integer other : Nat} (inside : format.InInterval code other)
  (integral : format.magnitude code = integer)

include inside integral

/-- If the number before an integer is less than two away, no integer before it is in its
interval. -/
theorem InInterval.le_of_step_le
    (near : 0 < code → format.step (code - 1) ≤ 2 ^ format.unitPlaces) : integer ≤ other := by
  by_contra less
  have above := inside.units_bounds.1
  have before := units_le_units_pred_add near
  have apart := Nat.mul_le_mul_right (2 ^ format.unitPlaces) (Nat.succ_le_of_lt (not_le.mp less))
  have unitPos := Nat.two_pow_pos format.unitPlaces
  rw [magnitude_eq_natCast_iff.mp integral] at above before
  rw [Nat.succ_mul] at apart
  omega

/-- An integer in the interval of another one is less than the gap after that one above it. -/
theorem InInterval.lt_add_of_step_le {gap : Nat} (gapPos : 0 < gap)
    (near : format.step code ≤ gap * 2 ^ format.unitPlaces) : other < integer + gap := by
  by_contra more
  have below := inside.units_bounds.2
  have apart := Nat.mul_le_mul_right (2 ^ format.unitPlaces) (not_lt.mp more)
  have gapWide := Nat.mul_pos gapPos (Nat.two_pow_pos format.unitPlaces)
  rw [units_succ, magnitude_eq_natCast_iff.mp integral] at below
  rw [Nat.add_mul] at apart
  omega

/-- In the interval of an integer up to `2 ^ (fractionBits + 1)` there is no other integer, except
that the last one's interval reaches to the next, where the first gap is. -/
theorem InInterval.eq_or_eq_succ (small : integer ≤ 2 ^ (format.fractionBits + 1)) :
    other = integer ∨ (integer = 2 ^ (format.fractionBits + 1) ∧ other = integer + 1) := by
  have units := magnitude_eq_natCast_iff.mp integral
  have scaled := format.scaled_le small
  have atLeast : integer ≤ other := by
    apply inside.le_of_step_le integral
    intro positive
    apply step_le_of_units_lt
    exact (format.units_strictMono (Nat.sub_lt positive Nat.one_pos)).trans_le (units ▸ scaled)
  rcases Nat.lt_or_eq_of_le small with strictly | power
  · left
    have near : format.step code ≤ 2 ^ format.unitPlaces := by
      apply step_le_of_units_lt
      rw [units, Nat.pow_add]
      exact Nat.mul_lt_mul_of_pos_right strictly (Nat.two_pow_pos _)
    have below := inside.lt_add_of_step_le integral Nat.one_pos (by rwa [Nat.one_mul])
    omega
  · have near : format.step code ≤ 2 ^ (format.unitPlaces + 1) := by
      apply step_le_of_units_lt
      rw [units]
      exact scaled.trans_lt (Nat.pow_lt_pow_right Nat.one_lt_two (by omega))
    rw [Nat.pow_succ'] at near
    have below := inside.lt_add_of_step_le integral Nat.two_pos near
    omega

end Neighbours

/-- An integer up to the first one that is followed by a gap is written with all its digits. -/
theorem toRat_shortest_of_small (tie : Tie) {code integer : Nat}
    (integral : format.magnitude code = integer)
    (small : integer ≤ 2 ^ (format.fractionBits + 1)) :
    (format.shortest tie code).toRat = integer := by
  rcases toRat_shortest_of_natCast tie integral with same | ⟨tens, multiple⟩
  · exact same
  · have inside := format.shortest_inInterval tie code
    rw [multiple] at inside
    rcases inside.eq_or_eq_succ integral small with same | ⟨power, next⟩
    · rw [multiple, same]
    · -- The next one is odd, so it is no multiple of ten.
      rw [power, Nat.pow_succ] at next
      omega

/-! ### Every such integer is a number -/

/-- Every integer up to `2 ^ (fractionBits + 1)` is the value of some code. -/
theorem exists_magnitude_eq_of_small (format : BinaryFormat) {integer : Nat}
    (small : integer ≤ 2 ^ (format.fractionBits + 1)) :
    ∃ code, format.magnitude code = integer := by
  obtain ⟨atMost, below⟩ := format.codeBelow_spec (integer * 2 ^ format.unitPlaces)
  generalize format.codeBelow (integer * 2 ^ format.unitPlaces) = code at atMost below
  refine ⟨code, magnitude_eq_natCast_iff.mpr ?_⟩
  rcases Nat.lt_or_eq_of_le atMost with less | same
  · -- There is no room for another multiple of the step before the next number.
    have near := format.step_le_of_units_lt (less.trans_le (format.scaled_le small))
    have divides : format.step code ∣ integer * 2 ^ format.unitPlaces := by
      apply Nat.dvd_mul_left_of_dvd
      exact Nat.pow_dvd_pow 2 ((Nat.pow_le_pow_iff_right Nat.one_lt_two).mp near)
    have apart := Nat.dvd_sub divides (format.step_dvd_units code)
    rw [units_succ] at below
    have gap := Nat.le_of_dvd (by omega) apart
    omega
  · exact same

/-- Infinity's code has the value of the first power of two that is out of range. -/
theorem magnitude_infinityCode (format : BinaryFormat) :
    format.magnitude format.infinityCode = (2 ^ 2 ^ (format.exponentBits - 1) : Nat) := by
  have several := format.two_le_exponentBits
  have half : 2 ^ format.exponentBits = 2 * 2 ^ (format.exponentBits - 1) := by
    rw [← Nat.pow_succ', Nat.succ_eq_add_one, Nat.sub_add_cancel (by omega)]
  have atLeast : 2 ^ 1 ≤ 2 ^ (format.exponentBits - 1) :=
    Nat.pow_le_pow_right Nat.two_pos (by omega)
  have fields : format.infinityCode = (2 ^ format.exponentBits - 1) * format.hiddenBit + 0 := rfl
  rw [magnitude_eq_natCast_iff, fields, format.units_of_fields format.hiddenBit_pos,
    if_neg (by omega), Nat.add_zero, hiddenBit, unitPlaces, Nat.pow_eq, Nat.pow_eq, ← Nat.pow_add,
    ← Nat.pow_add, half]
  congr 1
  omega

end SpreadFlow.BinaryFormat
