/-
Module: SpreadFlow.Proofs.Decimal.RoundTrip
Purpose: The text of a floating-point number reads back to that number, and no other text that does
  is shorter, or as short and nearer.
Main exports: SignedDecimal.RoundsTo, Binary.IsFinite, Binary.toRat, Binary.existsUnique_roundsTo,
  Binary.exists_read?_decimalText, Binary.rounds_decimalText, Binary.shortest_decimalText
-/
import SpreadFlow.Decimal.Text
import SpreadFlow.Proofs.Decimal.Rounding
import SpreadFlow.Proofs.Decimal.Shortest

namespace SpreadFlow

/-!
A signed decimal rounds to the number that has its sign and the code nearest to its magnitude.  The
sign is kept also where the magnitude rounds to zero, so the two zeros read back apart.

The text of a finite number is the shortest decimal of its code, written positionally.  What is
known of that decimal's value and digits therefore holds of the text as it is read.
-/

/-- The signed decimal rounds to the number, to nearest with ties to even. -/
def SignedDecimal.RoundsTo {format : BinaryFormat} (decimal : SignedDecimal)
    (number : Binary format) : Prop :=
  number.isNegative = decimal.negative ∧ format.Nearest decimal.magnitude.toRat number.code

namespace Binary

open Decimal

variable {format : BinaryFormat}

/-- Neither infinite nor a NaN. -/
def IsFinite (number : Binary format) : Prop :=
  number.code < format.infinityCode

instance (number : Binary format) : Decidable number.IsFinite :=
  inferInstanceAs (Decidable (_ < _))

/-- The exact value of a finite number. -/
def toRat (number : Binary format) : ℚ :=
  if number.isNegative then -format.magnitude number.code else format.magnitude number.code

/-! ### Bit patterns -/

theorem isNegative_eq (number : Binary format) :
    number.isNegative = decide (2 ^ format.magnitudeBits ≤ number.bits.toNat) :=
  BitVec.msb_eq_decide number.bits

/-- The bits are the sign above the code. -/
theorem toNat_bits (number : Binary format) :
    number.bits.toNat =
      (if number.isNegative then 2 ^ format.magnitudeBits else 0) + number.code := by
  have bound : number.bits.toNat < 2 ^ format.magnitudeBits * 2 := number.bits.isLt
  rw [isNegative_eq, code, Nat.pow_eq]
  by_cases signed : 2 ^ format.magnitudeBits ≤ number.bits.toNat
  · rw [if_pos (decide_eq_true signed), Nat.mod_eq_sub_mod signed, Nat.mod_eq_of_lt (by omega)]
    omega
  · rw [if_neg (by simpa using signed), Nat.mod_eq_of_lt (by omega), Nat.zero_add]

/-- Sign and code are found again in the bits they were put into. -/
theorem ofCode_spec {code : Nat} (short : code < 2 ^ format.magnitudeBits) (negative : Bool) :
    (ofCode format negative code).isNegative = negative ∧
      (ofCode format negative code).code = code := by
  have bits : (ofCode format negative code).bits.toNat =
      (if negative then 2 ^ format.magnitudeBits else 0) + code := by
    rw [ofCode, BitVec.toNat_ofNat, Nat.pow_eq, BinaryFormat.width, Nat.pow_succ]
    apply Nat.mod_eq_of_lt
    split
    · omega
    · omega
  rw [isNegative_eq, Binary.code, bits, Nat.pow_eq]
  cases negative with
  | false =>
      simp only [Bool.false_eq_true, if_false, Nat.zero_add, Nat.mod_eq_of_lt short]
      exact ⟨decide_eq_false short.not_ge, trivial⟩
  | true =>
      simp only [if_true, Nat.add_mod_left, Nat.mod_eq_of_lt short]
      exact ⟨decide_eq_true (Nat.le_add_right _ _), trivial⟩

/-- A number is told by its sign and its code. -/
theorem eq_of_isNegative_of_code {first second : Binary format}
    (sign : first.isNegative = second.isNegative) (code : first.code = second.code) :
    first = second := by
  have bits : first.bits = second.bits := by
    apply BitVec.eq_of_toNat_eq
    rw [toNat_bits, toNat_bits, sign, code]
  cases first
  cases second
  cases bits
  rfl

/-- A decimal rounds to one number at most. -/
theorem eq_of_roundsTo {decimal : SignedDecimal} {first second : Binary format}
    (one : decimal.RoundsTo first) (two : decimal.RoundsTo second) : first = second :=
  eq_of_isNegative_of_code (one.1.trans two.1.symm) (one.2.unique two.2)

/-- Every decimal rounds to one number, which is infinite if the decimal is too large. -/
theorem existsUnique_roundsTo (format : BinaryFormat) (decimal : SignedDecimal) :
    ∃! number : Binary format, decimal.RoundsTo number := by
  obtain ⟨code, nearest, -⟩ := format.existsUnique_nearest (toRat_nonneg decimal.magnitude)
  have short := Nat.lt_of_le_of_lt nearest.le_infinity format.infinityCode_lt
  obtain ⟨sign, kept⟩ := ofCode_spec short decimal.negative
  have rounds : decimal.RoundsTo (ofCode format decimal.negative code) := by
    refine ⟨sign, ?_⟩
    rw [kept]
    exact nearest
  exact ⟨_, rounds, fun other too => eq_of_roundsTo too rounds⟩

end Binary

namespace SignedDecimal

/-- Without a minus sign the reader is that of unsigned decimals. -/
theorem read?_of_unsigned {text : List Char} {magnitude : Decimal}
    (read : Decimal.read? text = some magnitude) : read? text = some ⟨false, magnitude⟩ := by
  unfold read?
  split
  · cases read
  · rw [read]
    rfl

theorem read?_of_minus {text : List Char} {magnitude : Decimal}
    (read : Decimal.read? text = some magnitude) :
    read? ('-' :: text) = some ⟨true, magnitude⟩ := by
  simp only [read?, read, Option.map_some]

end SignedDecimal

namespace Binary

open Decimal

variable {format : BinaryFormat}

/-! ### The text of a finite number -/

theorem toList_decimalText {number : Binary format} (finite : number.IsFinite) :
    (decimalText number).toList =
      if number.isNegative then '-' :: (format.shortest .away number.code).positional
      else (format.shortest .away number.code).positional := by
  have characters : (decimalText number).toList = number.decimalCharacters := String.toList_ofList
  have datum : number.datum = .finite number.isNegative number.code := if_pos finite
  simp only [characters, decimalCharacters, datum]

/-- A finite number is what a decimal of its sign rounds to if the magnitude lies in its interval,
and only then. -/
theorem roundsTo_iff_of_isFinite {number : Binary format} (finite : number.IsFinite)
    (decimal : SignedDecimal) :
    decimal.RoundsTo number ↔
      number.isNegative = decimal.negative ∧
        format.InInterval number.code decimal.magnitude.toRat := by
  rw [SignedDecimal.RoundsTo, format.nearest_iff_inInterval finite (toRat_nonneg _)]

/-- The text reads as a decimal that rounds to the number.  It has the value of the shortest decimal
and as many significant digits. -/
theorem exists_read?_decimalText {number : Binary format} (finite : number.IsFinite) :
    ∃ written, SignedDecimal.read? (decimalText number).toList = some written ∧
      written.RoundsTo number ∧
      written.magnitude.toRat = (format.shortest .away number.code).toRat ∧
      (significantDigits (decimalText number).toList).length =
        (format.shortest .away number.code).significant.length := by
  obtain ⟨magnitude, read, value⟩ := read?_positional (format.shortest .away number.code)
  have digits : (significantDigits (format.shortest .away number.code).positional).length =
      (format.shortest .away number.code).significant.length := by
    rw [length_significantDigits read]
    exact length_significant_congr value
  have inside : format.InInterval number.code magnitude.toRat := by
    rw [value]
    exact format.shortest_inInterval .away number.code
  have rounds : SignedDecimal.RoundsTo ⟨number.isNegative, magnitude⟩ number :=
    (roundsTo_iff_of_isFinite finite _).mpr ⟨rfl, inside⟩
  refine ⟨⟨number.isNegative, magnitude⟩, ?_, rounds, value, ?_⟩
  · rw [toList_decimalText finite]
    cases number.isNegative with
    | false => exact SignedDecimal.read?_of_unsigned read
    | true => exact SignedDecimal.read?_of_minus read
  · -- A minus sign is no digit, so it does not count.
    rw [toList_decimalText finite]
    cases number.isNegative with
    | false => exact digits
    | true => exact digits

/-- The text of a finite number, read exactly and rounded, gives that number and no other. -/
theorem rounds_decimalText (number : Binary format) (finite : number.IsFinite) :
    ∃ written, SignedDecimal.read? (decimalText number).toList = some written ∧
      ∀ result : Binary format, written.RoundsTo result ↔ result = number := by
  obtain ⟨written, read, rounds, -, -⟩ := exists_read?_decimalText finite
  refine ⟨written, read, fun result => ⟨fun other => eq_of_roundsTo other rounds, ?_⟩⟩
  rintro rfl
  exact rounds

/-- Negative zero keeps its sign, and the least positive number of single precision its value. -/
theorem rounds_decimalText_extremes :
    let zero : Binary64 := ⟨0x8000000000000000⟩
    let least : Binary32 := ⟨1⟩
    (zero.IsFinite ∧ decimalText zero = "-0" ∧
        ∃ written, SignedDecimal.read? (decimalText zero).toList = some written ∧
          ∀ result : Binary64, written.RoundsTo result ↔ result = zero) ∧
      least.IsFinite ∧ (significantDigits (decimalText least).toList) = ['1'] ∧
        ∃ written, SignedDecimal.read? (decimalText least).toList = some written ∧
          ∀ result : Binary32, written.RoundsTo result ↔ result = least := by
  intro zero least
  have zeroFinite : zero.IsFinite := by decide
  have leastFinite : least.IsFinite := by decide
  exact ⟨⟨zeroFinite, by decide +kernel, rounds_decimalText zero zeroFinite⟩,
    leastFinite, by decide +kernel, rounds_decimalText least leastFinite⟩

/-! ### Its length and its error -/

/-- A number other than the two zeros has a code other than that of zero. -/
theorem code_pos_of_toRat_ne_zero {number : Binary format} (nonzero : number.toRat ≠ 0) :
    0 < number.code := by
  by_contra none
  have zero : number.code = 0 := Nat.eq_zero_of_not_pos none
  apply nonzero
  simp [toRat, zero, BinaryFormat.magnitude, BinaryFormat.units]

/-- Between values of one sign the distance is that of the magnitudes. -/
theorem abs_toRat_sub_toRat {decimal : SignedDecimal} {number : Binary format}
    (sign : number.isNegative = decimal.negative) :
    |decimal.toRat - number.toRat| =
      |decimal.magnitude.toRat - format.magnitude number.code| := by
  rw [SignedDecimal.toRat, toRat, sign]
  cases decimal.negative with
  | false => rfl
  | true =>
      change |-decimal.magnitude.toRat - -format.magnitude number.code| = _
      rw [neg_sub_neg, abs_sub_comm]

/-- The text of a nonzero finite number rounds to it.  No decimal with fewer significant digits
does, and none with as few that does is nearer to it than the one written. -/
theorem shortest_decimalText (number : Binary format) (finite : number.IsFinite)
    (nonzero : number.toRat ≠ 0) :
    ∃ written, SignedDecimal.read? (decimalText number).toList = some written ∧
      written.RoundsTo number ∧
      (∀ other : SignedDecimal,
        other.magnitude.significant.length <
          (significantDigits (decimalText number).toList).length →
        ¬ other.RoundsTo number) ∧
      ∀ other : SignedDecimal,
        other.magnitude.significant.length ≤
          (significantDigits (decimalText number).toList).length →
        other.RoundsTo number →
        |written.toRat - number.toRat| ≤ |other.toRat - number.toRat| := by
  obtain ⟨written, read, rounds, value, length⟩ := exists_read?_decimalText finite
  have positive := code_pos_of_toRat_ne_zero nonzero
  refine ⟨written, read, rounds, ?_, ?_⟩
  · intro other fewer otherRounds
    have inside := ((roundsTo_iff_of_isFinite finite other).mp otherRounds).2
    have least := format.length_significant_shortest_le_of_inInterval .away positive inside
    omega
  · intro other asFew otherRounds
    have inside := ((roundsTo_iff_of_isFinite finite other).mp otherRounds).2
    rw [abs_toRat_sub_toRat rounds.1, abs_toRat_sub_toRat otherRounds.1, value]
    rw [length] at asFew
    exact format.shortest_nearest .away positive asFew inside

/-- The tenth in single precision, whose exact value has 27 decimal places. -/
theorem shortest_decimalText_tenth :
    let tenth : Binary32 := ⟨0x3dcccccd⟩
    tenth.IsFinite ∧ tenth.toRat ≠ 0 ∧ decimalText tenth = "0.1" ∧
      ∃ written, SignedDecimal.read? (decimalText tenth).toList = some written ∧
        written.RoundsTo tenth ∧
        (∀ other : SignedDecimal,
          other.magnitude.significant.length <
            (significantDigits (decimalText tenth).toList).length →
          ¬ other.RoundsTo tenth) ∧
        ∀ other : SignedDecimal,
          other.magnitude.significant.length ≤
            (significantDigits (decimalText tenth).toList).length →
          other.RoundsTo tenth →
          |written.toRat - tenth.toRat| ≤ |other.toRat - tenth.toRat| := by
  intro tenth
  have finite : tenth.IsFinite := by decide
  have nonzero : tenth.toRat ≠ 0 := by decide +kernel
  exact ⟨finite, nonzero, by decide +kernel, shortest_decimalText tenth finite nonzero⟩

end Binary

end SpreadFlow
