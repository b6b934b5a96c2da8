/-
Module: SpreadFlow.Proofs.Decimal.Positional
Purpose: The form of decimal texts: what stands before the point, what after it, and when there is
  one.
Main exports: Decimal.IsWhole, Decimal.IsFraction, Decimal.Parts, Decimal.exists_parts,
  Binary.flipSign, Binary.decimalText_shape
-/
import SpreadFlow.Proofs.Decimal.Distinct
import SpreadFlow.Proofs.Decimal.Integral

namespace SpreadFlow

/-!
A positional text has at most three parts: a sign, the digits before the point, and a point with the
digits after it.  There is no point after an integer, whatever the exponent of the decimal, and
since the shortest decimal of a number is an integer exactly if the number is, the point tells
integers apart.
-/

namespace Decimal

/-- What stands before the point: digits that begin with a zero only if that is all. -/
structure IsWhole (text : List Char) : Prop where
  allDigits : AllDigits text
  nonempty : text ≠ []
  zero_alone : text.head? = some '0' → text = ['0']

/-- What stands after the point: digits that do not end with a zero. -/
structure IsFraction (text : List Char) : Prop where
  allDigits : AllDigits text
  nonempty : text ≠ []
  last_ne_zero : text.getLast? ≠ some '0'

/-- The parts of a positional text. -/
structure Parts where
  negative : Bool
  whole : List Char
  fraction : Option (List Char)
  isWhole : IsWhole whole
  isFraction : ∀ digits ∈ fraction, IsFraction digits

namespace Parts

/-- The parts one after the other. -/
def text (parts : Parts) : List Char :=
  (if parts.negative then ['-'] else []) ++ parts.whole ++
    match parts.fraction with
    | none => []
    | some digits => '.' :: digits

/-- Only digits, the minus sign of a negative number and the point before a fraction. -/
theorem mem_text {parts : Parts} {character : Char} (member : character ∈ parts.text) :
    character.isDigit = true ∨ (character = '-' ∧ parts.negative = true) ∨
      (character = '.' ∧ parts.fraction.isSome) := by
  rw [text, List.mem_append, List.mem_append] at member
  rcases member with (sign | whole) | fraction
  · split at sign
    · rename_i negative
      exact .inr (.inl ⟨List.mem_singleton.mp sign, negative⟩)
    · cases sign
  · exact .inl (parts.isWhole.allDigits _ whole)
  · split at fraction
    · cases fraction
    · rename_i digits present
      rcases List.mem_cons.mp fraction with point | digit
      · exact .inr (.inr ⟨point, by rw [present]; rfl⟩)
      · exact .inl ((parts.isFraction digits present).allDigits _ digit)

end Parts

/-! ### The parts of a decimal -/

theorem isWhole_digits (number : Nat) : IsWhole (digits number) :=
  ⟨allDigits_digits number, digits_ne_nil number, head?_digits⟩

/-- The parts of an integer with its sign. -/
def Parts.ofInteger (negative : Bool) (size : Nat) : Parts :=
  ⟨negative, digits size, none, isWhole_digits size, by simp⟩

theorem Parts.text_ofInteger (negative : Bool) (size : Nat) :
    (Parts.ofInteger negative size).text = (if negative then ['-'] else []) ++ digits size :=
  List.append_nil _

theorem getLast?_dropTrailingZeros (text : List Char) :
    (dropTrailingZeros text).getLast? ≠ some '0' := by
  intro zero
  have nonempty : dropTrailingZeros text ≠ [] := by
    intro empty
    rw [empty] at zero
    cases zero
  have last := (List.getLast_eq_iff_getLast?_eq_some nonempty).mpr zero
  exact List.rdropWhile_last_not (· = '0') text nonempty (decide_eq_true last)

theorem isFraction_fractionDigits {places number : Nat} (below : number < 10 ^ places)
    (positive : 0 < number) : IsFraction (fractionDigits places number) := by
  obtain ⟨allDigits, nonempty, -⟩ := fractionDigits_spec below positive
  exact ⟨allDigits, nonempty, getLast?_dropTrailingZeros _⟩

theorem toRat_ofNat (coefficient raised : Nat) :
    toRat ⟨coefficient, .ofNat raised⟩ = (coefficient * 10 ^ raised : Nat) := by
  rw [toRat, Int.ofNat_eq_natCast, zpow_natCast]
  push_cast
  rfl

theorem toRat_negSucc (coefficient lowered : Nat) :
    toRat ⟨coefficient, .negSucc lowered⟩ = coefficient / 10 ^ (lowered + 1) := by
  rw [toRat, zpow_negSucc, div_eq_mul_inv]

/-- An integer is written without a point, however many places its decimal has. -/
theorem positional_of_toRat_eq {value : Decimal} {integer : Nat}
    (integral : value.toRat = integer) :
    value.positional = digits integer := by
  obtain ⟨coefficient, exponent⟩ := value
  cases exponent with
  | ofNat raised =>
      have product : coefficient * 10 ^ raised = integer := by
        rw [toRat_ofNat] at integral
        exact_mod_cast integral
      rw [← product]
      rfl
  | negSucc lowered =>
      have unitPos : 0 < 10 ^ (lowered + 1) := Nat.pow_pos (Nat.succ_pos 9)
      have product : coefficient = integer * 10 ^ (lowered + 1) := by
        rw [toRat_negSucc, div_eq_iff (by positivity)] at integral
        exact_mod_cast integral
      simp only [positional, Nat.pow_eq, product, Nat.mul_mod_left, Nat.mul_div_cancel _ unitPos,
        if_true]

/-- What is no integer is written with a fraction. -/
theorem exists_positional_eq {value : Decimal}
    (fractional : ¬ ∃ integer : Nat, value.toRat = integer) :
    ∃ whole fraction, IsFraction fraction ∧ value.positional = digits whole ++ '.' :: fraction := by
  obtain ⟨coefficient, exponent⟩ := value
  cases exponent with
  | ofNat raised =>
      exact absurd ⟨coefficient * 10 ^ raised, toRat_ofNat coefficient raised⟩ fractional
  | negSucc lowered =>
      have unitPos : 0 < 10 ^ (lowered + 1) := Nat.pow_pos (Nat.succ_pos 9)
      have remains : coefficient % 10 ^ (lowered + 1) ≠ 0 := by
        intro divides
        obtain ⟨quotient, product⟩ := Nat.dvd_of_mod_eq_zero divides
        refine fractional ⟨quotient, ?_⟩
        rw [toRat_negSucc, product]
        push_cast
        field_simp
      refine ⟨coefficient / 10 ^ (lowered + 1), _, isFraction_fractionDigits
        (Nat.mod_lt coefficient unitPos) (Nat.pos_of_ne_zero remains), ?_⟩
      simp only [positional, Nat.pow_eq, if_neg remains]

/-- Every decimal is laid out with the sign asked for, and with a fraction unless it is an
integer. -/
theorem exists_parts (negative : Bool) (value : Decimal) :
    ∃ parts : Parts, parts.text = (if negative then ['-'] else []) ++ value.positional ∧
      parts.negative = negative ∧
      (parts.fraction.isSome ↔ ¬ ∃ integer : Nat, value.toRat = integer) := by
  by_cases integral : ∃ integer : Nat, value.toRat = integer
  · obtain ⟨integer, same⟩ := integral
    refine ⟨.ofInteger negative integer, ?_, rfl, ?_⟩
    · rw [positional_of_toRat_eq same, Parts.text_ofInteger]
    · exact iff_of_false Bool.false_ne_true (not_not.mpr ⟨integer, same⟩)
  · obtain ⟨whole, fraction, isFraction, written⟩ := exists_positional_eq integral
    refine ⟨⟨negative, digits whole, some fraction, isWhole_digits whole, ?_⟩, ?_, rfl, ?_⟩
    · rintro _ ⟨⟩
      exact isFraction
    · rw [written]
      exact List.append_assoc _ _ _
    · exact iff_of_true rfl integral

end Decimal

namespace Binary

open Decimal

variable {format : BinaryFormat}

/-! ### The sign bit -/

/-- The number with the other sign bit. -/
def flipSign (number : Binary format) : Binary format :=
  ⟨number.bits ^^^ BitVec.twoPow format.width format.magnitudeBits⟩

theorem isNegative_flipSign (number : Binary format) :
    number.flipSign.isNegative = !number.isNegative := by
  rw [isNegative, isNegative, flipSign, BitVec.msb_xor, BitVec.msb_twoPow]
  simp [BinaryFormat.width]

theorem code_flipSign (number : Binary format) : number.flipSign.code = number.code := by
  have signBit : (2 ^ format.magnitudeBits % 2 ^ format.width) % 2 ^ format.magnitudeBits = 0 := by
    rw [BinaryFormat.width, Nat.mod_mod_of_dvd _ (Nat.pow_dvd_pow 2 (Nat.le_add_right _ 1)),
      Nat.mod_self]
  rw [code, code, flipSign, BitVec.toNat_xor, BitVec.toNat_twoPow, Nat.pow_eq,
    Nat.xor_mod_two_pow, signBit, Nat.xor_zero]

theorem flipSign_flipSign (number : Binary format) : number.flipSign.flipSign = number := by
  apply eq_of_isNegative_of_code
  · rw [isNegative_flipSign, isNegative_flipSign, Bool.not_not]
  · rw [code_flipSign, code_flipSign]

/-- The other sign bit puts a minus sign before the text, also of an infinity and of zero. -/
theorem decimalText_flipSign {number : Binary format} (notNaN : ¬ number.IsNaN)
    (unsigned : number.isNegative = false) :
    decimalText number.flipSign = "-" ++ decimalText number := by
  have signed : number.flipSign.isNegative = true := by
    rw [isNegative_flipSign, unsigned]
    rfl
  have characters : number.flipSign.decimalCharacters = '-' :: number.decimalCharacters := by
    cases datum : number.datum with
    | nan => exact absurd (datum_eq_nan_iff.mp datum) notNaN
    | infinite negative =>
        obtain ⟨code, sign⟩ := datum_eq_infinite_iff.mp datum
        have flipped : number.flipSign.datum = .infinite true :=
          datum_eq_infinite_iff.mpr ⟨(code_flipSign number).trans code, signed⟩
        rw [decimalCharacters, decimalCharacters, datum, flipped, ← sign, unsigned]
        rfl
    | finite negative code =>
        obtain ⟨finite, sign, codeEq⟩ := datum_eq_finite_iff.mp datum
        have flipped : number.flipSign.datum = .finite true code :=
          datum_eq_finite_iff.mpr ⟨by rwa [IsFinite, code_flipSign], signed,
            (code_flipSign number).trans codeEq⟩
        rw [decimalCharacters, decimalCharacters, datum, flipped, ← sign, unsigned]
        rfl
  have text (other : Binary format) : decimalText other = String.ofList other.decimalCharacters :=
    rfl
  have minus : "-".toList = ['-'] := rfl
  rw [text, text, characters, ← String.toList_inj, String.toList_append, minus,
    String.toList_ofList, String.toList_ofList]
  rfl

/-! ### The form of a number's text -/

/-- Each word is the text of what it stands for, and of nothing else. -/
theorem decimalText_eq_word_iff {number : Binary format} {word : String} {datum : Datum}
    (listed : (word, datum) ∈ words) : decimalText number = word ↔ number.datum = datum := by
  have oneText : ∀ first ∈ words, ∀ second ∈ words, first.2 = second.2 → first.1 = second.1 := by
    decide
  have noneFinite : ∀ word ∈ words, ∀ negative code, word.2 ≠ .finite negative code := by
    simp [words]
  by_cases finite : number.IsFinite
  · refine iff_of_false ?_ ?_
    · intro same
      have reads := isSome_read?_decimalText.mpr finite
      rw [same, read?_eq_none_of_mem_words _ listed] at reads
      cases reads
    · intro same
      exact noneFinite _ listed _ _ (same.symm.trans (if_pos finite))
  · exact ⟨eq_of_mem_words _ (mem_words finite) _ listed,
      oneText _ (mem_words finite) _ listed⟩

theorem abs_toRat (number : Binary format) : |number.toRat| = format.magnitude number.code := by
  rw [toRat]
  split
  · rw [abs_neg, abs_of_nonneg (format.magnitude_nonneg _)]
  · rw [abs_of_nonneg (format.magnitude_nonneg _)]

/-- A number is an integer if its magnitude is. -/
theorem isIntegral_toRat_iff {number : Binary format} :
    (∃ integer : ℤ, number.toRat = integer) ↔
      ∃ integer : Nat, format.magnitude number.code = integer := by
  constructor
  · rintro ⟨integer, same⟩
    refine ⟨integer.natAbs, ?_⟩
    rw [← abs_toRat, same, Nat.cast_natAbs, Int.cast_abs]
  · rintro ⟨integer, same⟩
    rw [toRat, same]
    split
    · exact ⟨-integer, by push_cast; rfl⟩
    · exact ⟨integer, by push_cast; rfl⟩

/-- The text of a finite number has a sign if its sign bit is set, and a fraction if it is no
integer. -/
theorem exists_parts_decimalText {number : Binary format} (finite : number.IsFinite) :
    ∃ parts : Parts, (decimalText number).toList = parts.text ∧
      parts.negative = number.isNegative ∧
      (parts.fraction.isSome ↔ ¬ ∃ integer : ℤ, number.toRat = integer) := by
  obtain ⟨parts, written, sign, fraction⟩ :=
    exists_parts number.isNegative (format.shortest .away number.code)
  refine ⟨parts, ?_, sign, ?_⟩
  · rw [toList_decimalText finite, written]
    split <;> rfl
  · rw [fraction, BinaryFormat.isIntegral_shortest_iff, isIntegral_toRat_iff]

/-- Every number's text is a word or positional.  The words are for NaNs and infinities alone.  A
positional text has a minus sign exactly if the sign bit is set, a fraction exactly if the number is
no integer, and no other character than these and digits.  The sign bit shows in nothing else. -/
theorem decimalText_shape (number : Binary format) :
    (decimalText number = "NaN" ↔ number.IsNaN) ∧
      (decimalText number = "Infinity" ↔
        number.code = format.infinityCode ∧ number.isNegative = false) ∧
      (decimalText number = "-Infinity" ↔
        number.code = format.infinityCode ∧ number.isNegative = true) ∧
      (number.IsFinite → ∃ parts : Parts, (decimalText number).toList = parts.text ∧
        parts.negative = number.isNegative ∧
        (parts.fraction.isSome ↔ ¬ ∃ integer : ℤ, number.toRat = integer) ∧
        ∀ character ∈ (decimalText number).toList,
          character.isDigit = true ∨ character = '-' ∨ character = '.') ∧
      (¬ number.IsNaN →
        (number.isNegative = false →
          decimalText number.flipSign = "-" ++ decimalText number) ∧
        (number.isNegative = true →
          decimalText number = "-" ++ decimalText number.flipSign)) := by
  refine ⟨?_, ?_, ?_, ?_, ?_⟩
  · rw [← datum_eq_nan_iff]
    exact decimalText_eq_word_iff (by decide)
  · rw [← datum_eq_infinite_iff]
    exact decimalText_eq_word_iff (by decide)
  · rw [← datum_eq_infinite_iff]
    exact decimalText_eq_word_iff (by decide)
  · intro finite
    obtain ⟨parts, written, sign, fraction⟩ := exists_parts_decimalText finite
    refine ⟨parts, written, sign, fraction, ?_⟩
    intro character member
    rw [written] at member
    rcases Parts.mem_text member with digit | ⟨minus, -⟩ | ⟨point, -⟩
    · exact .inl digit
    · exact .inr (.inl minus)
    · exact .inr (.inr point)
  · intro notNaN
    refine ⟨decimalText_flipSign notNaN, fun signed => ?_⟩
    have notNaNToo : ¬ number.flipSign.IsNaN := by rwa [IsNaN, code_flipSign]
    have unsigned : number.flipSign.isNegative = false := by
      rw [isNegative_flipSign, signed]
      rfl
    have flipped := decimalText_flipSign notNaNToo unsigned
    rwa [flipSign_flipSign] at flipped

/-- Minus one half has a sign and a fraction, and with the other sign bit its text has no sign. -/
theorem decimalText_shape_of_minus_half :
    let number : Binary32 := ⟨0xbf000000⟩
    (number.IsFinite ∧ ¬ number.IsNaN ∧ number.isNegative = true) ∧
      (∃ parts : Parts, (decimalText number).toList = parts.text ∧
        parts.negative = number.isNegative ∧
        (parts.fraction.isSome ↔ ¬ ∃ integer : ℤ, number.toRat = integer) ∧
        ∀ character ∈ (decimalText number).toList,
          character.isDigit = true ∨ character = '-' ∨ character = '.') ∧
      decimalText number = "-" ++ decimalText number.flipSign ∧
      (¬ number.flipSign.IsNaN ∧ number.flipSign.isNegative = false) ∧
      decimalText number.flipSign.flipSign = "-" ++ decimalText number.flipSign := by
  intro number
  have finite : number.IsFinite := by decide
  have notNaN : ¬ number.IsNaN := by decide
  have signed : number.isNegative = true := by decide
  have notNaNToo : ¬ number.flipSign.IsNaN := by decide
  have unsigned : number.flipSign.isNegative = false := by decide
  exact ⟨⟨finite, notNaN, signed⟩, (decimalText_shape number).2.2.2.1 finite,
    ((decimalText_shape number).2.2.2.2 notNaN).2 signed, ⟨notNaNToo, unsigned⟩,
    ((decimalText_shape number.flipSign).2.2.2.2 notNaNToo).1 unsigned⟩

end Binary

end SpreadFlow
