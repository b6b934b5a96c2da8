/-
Module: SpreadFlow.Proofs.Decimal.Distinct
Purpose: Which numbers have the same decimal text.
Main exports: Binary.IsNaN, Binary.Indistinct, Binary.decimalText_eq_iff, Decimal.integer_injective
-/
import Mathlib.Data.List.Forall2
import SpreadFlow.Proofs.Decimal.RoundTrip

namespace SpreadFlow

/-!
The text of a finite number reads back to it, so no two finite numbers share one, also not the two
zeros.  The texts of infinities and of NaNs are words that do not read as decimals, and each class
and sign has its own.  All that a text does not tell is which NaN it was.
-/

namespace Decimal

theorem digits_injective : Function.Injective digits :=
  Function.LeftInverse.injective spelled_digits

theorem digits_ne_minus (number : Nat) (text : List Char) : digits number ≠ '-' :: text := by
  intro signed
  have member : '-' ∈ digits number := by
    rw [signed]
    exact List.mem_cons_self
  exact absurd (allDigits_digits number '-' member) (by decide)

/-- The sign and the digits of an integer are found again in its text. -/
theorem integer_injective : Function.Injective integer := by
  intro first second same
  unfold integer at same
  split at same
  · split at same
    · have sameSize := digits_injective (List.cons.inj same).2
      omega
    · exact absurd same.symm (digits_ne_minus _ _)
  · split at same
    · exact absurd same (digits_ne_minus _ _)
    · have sameSize := digits_injective same
      omega

end Decimal

theorem decimalText_int32_eq_iff {first second : Int32} :
    decimalText first = decimalText second ↔ first = second := by
  refine ⟨fun same => ?_, congrArg decimalText⟩
  exact Int32.toInt_inj.mp (Decimal.integer_injective (String.ofList_injective same))

namespace Binary

variable {format : BinaryFormat}

/-- The exponent field is all ones and the fraction is not zero. -/
def IsNaN (number : Binary format) : Prop :=
  format.infinityCode < number.code

instance (number : Binary format) : Decidable number.IsNaN :=
  inferInstanceAs (Decidable (_ < _))

/-- The same bits, or NaNs both. -/
def Indistinct (first second : Binary format) : Prop :=
  first.bits = second.bits ∨ (first.IsNaN ∧ second.IsNaN)

instance (first second : Binary format) : Decidable (first.Indistinct second) :=
  inferInstanceAs (Decidable (_ ∨ _))

/-! ### Classes of numbers -/

theorem datum_eq_finite_iff {number : Binary format} {negative : Bool} {code : Nat} :
    number.datum = .finite negative code ↔
      number.IsFinite ∧ number.isNegative = negative ∧ number.code = code := by
  unfold datum IsFinite
  split
  · simp [*]
  · split
    · simp [*]
    · simp [*]

theorem datum_eq_infinite_iff {number : Binary format} {negative : Bool} :
    number.datum = .infinite negative ↔
      number.code = format.infinityCode ∧ number.isNegative = negative := by
  unfold datum
  split
  · have different : number.code ≠ format.infinityCode := by omega
    simp [different]
  · split
    · simp [*]
    · simp [*]

theorem datum_eq_nan_iff {number : Binary format} : number.datum = .nan ↔ number.IsNaN := by
  unfold datum IsNaN
  split
  · simp only [reduceCtorEq, false_iff]
    omega
  · split
    · simp only [reduceCtorEq, false_iff]
      omega
    · simp only [true_iff]
      omega

/-- What the bits stand for tells them, unless it is a NaN. -/
theorem datum_eq_iff {first second : Binary format} :
    first.datum = second.datum ↔ first.Indistinct second := by
  constructor
  · intro same
    cases datum : second.datum with
    | nan =>
        rw [datum] at same
        exact .inr ⟨datum_eq_nan_iff.mp same, datum_eq_nan_iff.mp datum⟩
    | infinite negative =>
        rw [datum] at same
        obtain ⟨code, sign⟩ := datum_eq_infinite_iff.mp same
        obtain ⟨code', sign'⟩ := datum_eq_infinite_iff.mp datum
        left
        rw [eq_of_isNegative_of_code (sign.trans sign'.symm) (code.trans code'.symm)]
    | finite negative code =>
        rw [datum] at same
        obtain ⟨-, sign, code⟩ := datum_eq_finite_iff.mp same
        obtain ⟨-, sign', code'⟩ := datum_eq_finite_iff.mp datum
        left
        rw [eq_of_isNegative_of_code (sign.trans sign'.symm) (code.trans code'.symm)]
  · rintro (bits | ⟨firstNaN, secondNaN⟩)
    · cases first
      cases second
      cases bits
      rfl
    · rw [datum_eq_nan_iff.mpr firstNaN, datum_eq_nan_iff.mpr secondNaN]

/-! ### Texts -/

/-- What is not finite is written as a word. -/
def words : List (String × Datum) :=
  [("NaN", .nan), ("Infinity", .infinite false), ("-Infinity", .infinite true)]

theorem mem_words {number : Binary format} (notFinite : ¬ number.IsFinite) :
    (decimalText number, number.datum) ∈ words := by
  have text : decimalText number = String.ofList number.decimalCharacters := rfl
  rw [text, decimalCharacters]
  cases datum : number.datum with
  | nan =>
      change (String.ofList "NaN".toList, Datum.nan) ∈ words
      decide
  | infinite negative =>
      cases negative with
      | false =>
          change (String.ofList "Infinity".toList, Datum.infinite false) ∈ words
          decide
      | true =>
          change (String.ofList ('-' :: "Infinity".toList), Datum.infinite true) ∈ words
          decide
  | finite negative code => exact absurd (datum_eq_finite_iff.mp datum).1 notFinite

theorem read?_eq_none_of_mem_words :
    ∀ word ∈ words, SignedDecimal.read? word.1.toList = none := by
  decide

/-- No two of the words are the same. -/
theorem eq_of_mem_words :
    ∀ first ∈ words, ∀ second ∈ words, first.1 = second.1 → first.2 = second.2 := by
  decide

/-- Only the texts of finite numbers are decimals. -/
theorem isSome_read?_decimalText {number : Binary format} :
    (SignedDecimal.read? (decimalText number).toList).isSome ↔ number.IsFinite := by
  by_cases finite : number.IsFinite
  · obtain ⟨written, read, -⟩ := exists_read?_decimalText finite
    simp [read, finite]
  · simp [read?_eq_none_of_mem_words _ (mem_words finite), finite]

/-- The text tells what the bits stand for. -/
theorem datum_eq_of_decimalText_eq {first second : Binary format}
    (same : decimalText first = decimalText second) : first.datum = second.datum := by
  by_cases finite : first.IsFinite
  · have finiteToo : second.IsFinite := by
      rwa [← isSome_read?_decimalText, ← same, isSome_read?_decimalText]
    obtain ⟨written, read, rounds, -⟩ := exists_read?_decimalText finite
    obtain ⟨written', read', rounds', -⟩ := exists_read?_decimalText finiteToo
    rw [← same, read] at read'
    cases read'
    rw [eq_of_roundsTo rounds rounds']
  · have notFinite : ¬ second.IsFinite := by
      rwa [← isSome_read?_decimalText, ← same, isSome_read?_decimalText]
    exact eq_of_mem_words _ (mem_words finite) _ (mem_words notFinite) same

/-- Two numbers have one text exactly when their bits are the same or they are NaNs. -/
theorem decimalText_eq_iff {first second : Binary format} :
    decimalText first = decimalText second ↔ first.Indistinct second := by
  rw [← datum_eq_iff]
  refine ⟨datum_eq_of_decimalText_eq, fun same => ?_⟩
  change String.ofList first.decimalCharacters = String.ofList second.decimalCharacters
  rw [decimalCharacters, decimalCharacters, same]

/-- Texts tell lists of numbers apart as they tell the numbers apart. -/
theorem map_decimalText_eq_iff {first second : List (Binary format)} :
    first.map decimalText = second.map decimalText ↔ List.Forall₂ Indistinct first second := by
  rw [← List.forall₂_eq_eq_eq, List.forall₂_map_left_iff, List.forall₂_map_right_iff]
  simp only [decimalText_eq_iff]

end Binary

end SpreadFlow
