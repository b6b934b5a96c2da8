/-
Module: SpreadFlow.Proofs.Decimal.IntegerText
Purpose: An integer has one text, whichever type of number holds it.
Main exports: Decimal.read?_integer, Binary.Holds, Binary.Holds.decimalText_eq,
  Binary.existsUnique_holds, integer_texts_agree
-/
import SpreadFlow.Proofs.Decimal.Positional

namespace SpreadFlow

/-!
A binary format has every integer up to a power of two, the first after which one is left out.  Up
to there the shortest decimal of the number is the integer itself, and its positional text is that
of the integer.  Zero is held by two numbers; only the unsigned one has the text of the integer.
-/

namespace Decimal

/-! ### The text of an integer -/

/-- Sign and absolute value are the integer again. -/
theorem signed_natAbs (integer : ℤ) :
    (if decide (integer < 0) then -(integer.natAbs : ℚ) else integer.natAbs) = integer := by
  rw [Nat.cast_natAbs]
  by_cases negative : integer < 0
  · rw [decide_eq_true negative, if_pos rfl, abs_of_neg negative]
    push_cast
    ring
  · rw [decide_eq_false negative, if_neg Bool.false_ne_true, abs_of_nonneg (not_lt.mp negative)]

theorem integer_eq_text (integer : ℤ) :
    Decimal.integer integer = (Parts.ofInteger (decide (integer < 0)) integer.natAbs).text := by
  rw [Parts.text_ofInteger, Decimal.integer]
  by_cases negative : integer < 0
  · simp [negative]
  · simp [negative]

theorem read?_integer (integer : ℤ) :
    SignedDecimal.read? (Decimal.integer integer) =
      some ⟨decide (integer < 0), ⟨integer.natAbs, 0⟩⟩ := by
  have read := read?_of_digits (allDigits_digits integer.natAbs) (digits_ne_nil _)
  rw [spelled_digits] at read
  rw [Decimal.integer]
  split
  · rename_i negative
    rw [decide_eq_true negative]
    exact SignedDecimal.read?_of_minus read
  · rename_i unsigned
    rw [decide_eq_false unsigned]
    exact SignedDecimal.read?_of_unsigned read

/-- Read back, the text of an integer is that integer. -/
theorem exists_read?_integer (integer : ℤ) :
    ∃ written, SignedDecimal.read? (Decimal.integer integer) = some written ∧
      written.toRat = integer := by
  refine ⟨_, read?_integer integer, ?_⟩
  rw [SignedDecimal.toRat, Decimal.toRat, zpow_zero, mul_one]
  exact signed_natAbs integer

end Decimal

namespace Binary

open Decimal

variable {format : BinaryFormat}

/-- The number is the integer, and zero is not signed. -/
structure Holds (number : Binary format) (integer : ℤ) : Prop where
  finite : number.IsFinite
  toRat_eq : number.toRat = integer
  unsigned_zero : integer = 0 → number.isNegative = false

/-! ### Sign and magnitude -/

/-- A number holds an integer exactly if it has its sign and its absolute value. -/
theorem holds_iff {number : Binary format} {integer : ℤ} :
    number.Holds integer ↔
      number.IsFinite ∧ number.isNegative = decide (integer < 0) ∧
        format.magnitude number.code = integer.natAbs := by
  have nonneg := format.magnitude_nonneg number.code
  constructor
  · rintro ⟨finite, value, unsigned⟩
    refine ⟨finite, ?_, by rw [← abs_toRat, value, Nat.cast_natAbs, Int.cast_abs]⟩
    rw [toRat] at value
    cases sign : number.isNegative with
    | false =>
        rw [sign, if_neg Bool.false_ne_true] at value
        rw [value] at nonneg
        exact (decide_eq_false (not_lt.mpr (by exact_mod_cast nonneg))).symm
    | true =>
        rw [sign, if_pos rfl] at value
        have nonpos : (integer : ℚ) ≤ 0 := by linarith
        have notZero : integer ≠ 0 := by
          intro zero
          rw [unsigned zero] at sign
          cases sign
        exact (decide_eq_true (lt_of_le_of_ne (by exact_mod_cast nonpos) notZero)).symm
  · rintro ⟨finite, sign, magnitude⟩
    refine ⟨finite, ?_, fun zero => by rw [sign, zero]; rfl⟩
    rw [toRat, sign, magnitude]
    exact signed_natAbs integer

/-- No two numbers hold one integer. -/
theorem Holds.unique {first second : Binary format} {integer : ℤ} (one : first.Holds integer)
    (two : second.Holds integer) : first = second := by
  obtain ⟨-, sign, magnitude⟩ := holds_iff.mp one
  obtain ⟨-, sign', magnitude'⟩ := holds_iff.mp two
  exact eq_of_isNegative_of_code (sign.trans sign'.symm)
    (format.magnitude_strictMono.injective (magnitude.trans magnitude'.symm))

/-- Every integer up to `2 ^ (fractionBits + 1)` is held by one number, where the format goes so
far. -/
theorem existsUnique_holds {integer : ℤ} (small : integer.natAbs ≤ 2 ^ (format.fractionBits + 1))
    (inRange : format.fractionBits + 1 < 2 ^ (format.exponentBits - 1)) :
    ∃! number : Binary format, number.Holds integer := by
  obtain ⟨code, magnitude⟩ := format.exists_magnitude_eq_of_small small
  have finite : code < format.infinityCode := by
    have below := small.trans_lt (Nat.pow_lt_pow_right Nat.one_lt_two inRange)
    rw [← format.magnitude_strictMono.lt_iff_lt, magnitude, format.magnitude_infinityCode]
    exact_mod_cast below
  obtain ⟨sign, kept⟩ := ofCode_spec (finite.trans format.infinityCode_lt) (decide (integer < 0))
  have holds : (ofCode format (decide (integer < 0)) code).Holds integer :=
    holds_iff.mpr ⟨by rwa [IsFinite, kept], sign, by rw [kept, magnitude]⟩
  exact ⟨_, holds, fun other too => too.unique holds⟩

/-! ### The text -/

/-- The number that holds a small integer has the integer's text. -/
theorem Holds.decimalText_eq {number : Binary format} {integer : ℤ} (holds : number.Holds integer)
    (small : integer.natAbs ≤ 2 ^ (format.fractionBits + 1)) :
    decimalText number = String.ofList (Decimal.integer integer) := by
  obtain ⟨finite, sign, magnitude⟩ := holds_iff.mp holds
  have written := positional_of_toRat_eq (format.toRat_shortest_of_small .away magnitude small)
  rw [← String.toList_inj, toList_decimalText finite, written, sign, String.toList_ofList,
    Decimal.integer]
  simp only [decide_eq_true_eq]

/-- The number that holds a small integer, and its text. -/
theorem exists_holds_decimalText (inRange : format.fractionBits + 1 < 2 ^ (format.exponentBits - 1))
    (fits64 : format.fractionBits + 1 < 63) {integer : ℤ}
    (small : |integer| ≤ 2 ^ (format.fractionBits + 1)) :
    ∃ number : Binary format, (∀ other : Binary format, other.Holds integer ↔ other = number) ∧
      decimalText number = decimalText (Int64.ofInt integer) := by
  have natSmall : integer.natAbs ≤ 2 ^ (format.fractionBits + 1) := by
    rw [Int.abs_eq_natAbs] at small
    exact_mod_cast small
  have below : (2 : ℤ) ^ (format.fractionBits + 1) < 2 ^ 63 :=
    pow_lt_pow_right₀ one_lt_two fits64
  obtain ⟨atLeast, atMost⟩ := abs_le.mp small
  have kept : (Int64.ofInt integer).toInt = integer :=
    Int64.toInt_ofInt_of_le (by linarith) (by linarith)
  obtain ⟨number, holds, unique⟩ := existsUnique_holds natSmall inRange
  refine ⟨number, fun other => ⟨unique other, ?_⟩, ?_⟩
  · rintro rfl
    exact holds
  · rw [holds.decimalText_eq natSmall]
    change _ = String.ofList (Decimal.integer (Int64.ofInt integer).toInt)
    rw [kept]

end Binary

/-- An integer has one text.  In 64 bits it is a minus sign if the integer is negative, then digits
that begin with a zero only for zero, and it reads back to the integer.  The same integer in 32
bits, in double precision up to `2 ^ 53` and in single precision up to `2 ^ 24` has the same
text. -/
theorem integer_texts_agree :
    (∀ integer : Int64,
      (∃ parts : Decimal.Parts, (decimalText integer).toList = parts.text ∧
        parts.fraction = none ∧ (parts.negative = true ↔ integer.toInt < 0)) ∧
      ∃ written, SignedDecimal.read? (decimalText integer).toList = some written ∧
        written.toRat = integer.toInt) ∧
      (∀ integer : Int32, decimalText integer = decimalText integer.toInt64) ∧
      (∀ integer : ℤ, |integer| ≤ 2 ^ 53 → ∃ number : Binary64,
        (∀ other : Binary64, other.Holds integer ↔ other = number) ∧
        decimalText number = decimalText (Int64.ofInt integer)) ∧
      (∀ integer : ℤ, |integer| ≤ 2 ^ 24 → ∃ number : Binary32,
        (∀ other : Binary32, other.Holds integer ↔ other = number) ∧
        decimalText number = decimalText (Int64.ofInt integer)) := by
  refine ⟨?_, ?_, ?_, ?_⟩
  · intro integer
    have text : (decimalText integer).toList = Decimal.integer integer.toInt := String.toList_ofList
    rw [text]
    refine ⟨⟨_, Decimal.integer_eq_text integer.toInt, rfl, decide_eq_true_iff⟩, ?_⟩
    exact Decimal.exists_read?_integer integer.toInt
  · intro integer
    change String.ofList (Decimal.integer integer.toInt) =
      String.ofList (Decimal.integer integer.toInt64.toInt)
    rw [Int32.toInt_toInt64]
  · intro integer small
    exact Binary.exists_holds_decimalText (by decide) (by decide) small
  · intro integer small
    exact Binary.exists_holds_decimalText (by decide) (by decide) small

/-- The last integer before the first gap of double precision. -/
theorem integer_texts_agree_before_gap :
    |(2 ^ 53 : ℤ)| ≤ 2 ^ 53 ∧ ∃ number : Binary64,
      (∀ other : Binary64, other.Holds (2 ^ 53) ↔ other = number) ∧
        decimalText number = decimalText (Int64.ofInt (2 ^ 53)) := by
  have small : |(2 ^ 53 : ℤ)| ≤ 2 ^ 53 := by decide
  exact ⟨small, integer_texts_agree.2.2.1 (2 ^ 53) small⟩

end SpreadFlow
