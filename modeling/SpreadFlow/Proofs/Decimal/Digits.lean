/-
Module: SpreadFlow.Proofs.Decimal.Digits
Purpose: The numbers that digits spell, and how many digits of a number are significant.
Main exports: Decimal.AllDigits, Decimal.spelled, Decimal.trimmed, Decimal.FitsDigits,
  Decimal.length_trimmed_le_iff
-/
import Mathlib.Algebra.Ring.Nat
import Mathlib.Data.List.DropRight
import SpreadFlow.Decimal.Basic

namespace SpreadFlow.Decimal

/-!
Zeros at either end of a text of digits are not significant.  Counting what is left is the same as
asking how small a number can be from which the spelled one arises by appending zeros, so the count
is a matter of arithmetic and not of the text.
-/

/-- Only decimal digits. -/
def AllDigits (text : List Char) : Prop :=
  ∀ character ∈ text, character.isDigit = true

instance (text : List Char) : Decidable (AllDigits text) :=
  inferInstanceAs (Decidable (∀ character ∈ text, character.isDigit = true))

/-- The number that decimal digits spell. -/
def spelled (text : List Char) : Nat :=
  Nat.ofDigitChars 10 text 0

/-- A text without the zeros at its two ends. -/
def trimmed (text : List Char) : List Char :=
  (dropTrailingZeros text).dropWhile (· = '0')

/-- The number is one of at most `count` digits with zeros appended. -/
def FitsDigits (count number : Nat) : Prop :=
  ∃ leading zeros, number = leading * 10 ^ zeros ∧ leading < 10 ^ count

/-! ### What digits spell -/

theorem spelled_append (front back : List Char) :
    spelled (front ++ back) = spelled front * 10 ^ back.length + spelled back := by
  rw [spelled, Nat.ofDigitChars_append, Nat.ofDigitChars_eq_ofDigitChars_zero, Nat.mul_comm]
  rfl

@[simp] theorem spelled_singleton (digit : Char) : spelled [digit] = digit.toNat - '0'.toNat := by
  simp [spelled, Nat.ofDigitChars_cons]

@[simp] theorem spelled_replicate_zero (count : Nat) : spelled (List.replicate count '0') = 0 := by
  simp [spelled]

@[simp] theorem spelled_digits (number : Nat) : spelled (digits number) = number :=
  Nat.ofDigitChars_ten_toDigits

theorem allDigits_digits (number : Nat) : AllDigits (digits number) :=
  fun _ member => Nat.isDigit_of_mem_toDigits (by decide) (by decide) member

theorem digits_ne_nil (number : Nat) : digits number ≠ [] :=
  Nat.toDigits_ne_nil

theorem AllDigits.append {front back : List Char} (first : AllDigits front)
    (second : AllDigits back) : AllDigits (front ++ back) := by
  intro character member
  rcases List.mem_append.mp member with inFront | inBack
  · exact first character inFront
  · exact second character inBack

theorem AllDigits.of_append {front back : List Char} (both : AllDigits (front ++ back)) :
    AllDigits front ∧ AllDigits back :=
  ⟨fun character member => both character (List.mem_append_left back member),
    fun character member => both character (List.mem_append_right front member)⟩

/-- A digit stands for a number below ten. -/
theorem digit_value_lt {digit : Char} (isDigit : digit.isDigit = true) :
    digit.toNat - '0'.toNat < 10 := by
  simp only [Char.isDigit, Bool.and_eq_true, decide_eq_true_eq] at isDigit
  have atMost : digit.toNat ≤ 57 := isDigit.2
  have zero : '0'.toNat = 48 := rfl
  omega

/-- Of the digits only zero stands for nothing. -/
theorem digit_value_pos {digit : Char} (isDigit : digit.isDigit = true) (nonzero : digit ≠ '0') :
    0 < digit.toNat - '0'.toNat := by
  simp only [Char.isDigit, Bool.and_eq_true, decide_eq_true_eq] at isDigit
  have atLeast : 48 ≤ digit.toNat := isDigit.1
  have notZero : digit.toNat ≠ 48 := fun same => nonzero (Char.toNat_inj.mp same)
  have zero : '0'.toNat = 48 := rfl
  omega

theorem spelled_lt {text : List Char} (allDigits : AllDigits text) :
    spelled text < 10 ^ text.length := by
  induction text with
  | nil => simp [spelled]
  | cons first rest inductionHypothesis =>
      obtain ⟨firstDigit, restDigits⟩ := List.forall_mem_cons.mp allDigits
      have below := inductionHypothesis restDigits
      have firstBelow : first.toNat - '0'.toNat ≤ 9 := Nat.le_of_lt_succ (digit_value_lt firstDigit)
      calc spelled (first :: rest)
          = (first.toNat - '0'.toNat) * 10 ^ rest.length + spelled rest := by
            rw [← List.singleton_append, spelled_append, spelled_singleton]
        _ < 9 * 10 ^ rest.length + 10 ^ rest.length :=
            Nat.add_lt_add_of_le_of_lt (Nat.mul_le_mul_right _ firstBelow) below
        _ = 10 ^ (first :: rest).length := by rw [List.length_cons, Nat.pow_succ]; omega

/-- Digits of which the first is no zero spell at least a power of ten. -/
theorem pow_le_spelled_cons {first : Char} (firstDigit : first.isDigit = true)
    (nonzero : first ≠ '0') (rest : List Char) : 10 ^ rest.length ≤ spelled (first :: rest) := by
  have positive := digit_value_pos firstDigit nonzero
  rw [← List.singleton_append, spelled_append, spelled_singleton]
  calc 10 ^ rest.length
      = 1 * 10 ^ rest.length := (Nat.one_mul _).symm
    _ ≤ (first.toNat - '0'.toNat) * 10 ^ rest.length := Nat.mul_le_mul_right _ positive
    _ ≤ _ := Nat.le_add_right _ _

/-- The digits of a number begin with a zero only if it is zero. -/
theorem head?_digits {number : Nat} (zero : (digits number).head? = some '0') :
    digits number = ['0'] := by
  obtain ⟨tail, shape⟩ := List.head?_eq_some_iff.mp zero
  cases tail with
  | nil => exact shape
  | cons second others =>
      -- The others alone would spell the number, which has too many digits for that.
      exfalso
      have othersDigits : AllDigits (second :: others) := by
        intro character member
        apply allDigits_digits number
        rw [shape]
        exact List.mem_cons_of_mem _ member
      have value : spelled (second :: others) = number := by
        have whole := spelled_digits number
        rw [shape, ← List.singleton_append, spelled_append] at whole
        simpa using whole
      have below := spelled_lt othersDigits
      rw [value] at below
      have short : (digits number).length ≤ (second :: others).length :=
        (Nat.length_toDigits_le_iff (by decide) (by simp)).mpr below
      rw [shape, List.length_cons] at short
      omega

/-! ### Zeros at the ends -/

theorem exists_dropTrailingZeros_append (text : List Char) :
    ∃ zeros, text = dropTrailingZeros text ++ List.replicate zeros '0' := by
  refine ⟨(text.rtakeWhile (· = '0')).length, ?_⟩
  have allZeros : text.rtakeWhile (· = '0') =
      List.replicate (text.rtakeWhile (· = '0')).length '0' := by
    apply List.eq_replicate_of_mem
    intro character member
    simpa using List.mem_rtakeWhile_imp member
  rw [← allZeros]
  exact List.rdropWhile_append_rtakeWhile.symm

theorem exists_replicate_append_dropWhile (text : List Char) :
    ∃ zeros, text = List.replicate zeros '0' ++ text.dropWhile (· = '0') := by
  refine ⟨(text.takeWhile (· = '0')).length, ?_⟩
  have allZeros : text.takeWhile (· = '0') =
      List.replicate (text.takeWhile (· = '0')).length '0' := by
    apply List.eq_replicate_of_mem
    intro character member
    simpa using List.mem_takeWhile_imp member
  rw [← allZeros, List.takeWhile_append_dropWhile]

/-- A text is its trimmed part between zeros. -/
theorem exists_trimmed_between (text : List Char) :
    ∃ before after,
      text = List.replicate before '0' ++ trimmed text ++ List.replicate after '0' := by
  obtain ⟨after, trailing⟩ := exists_dropTrailingZeros_append text
  obtain ⟨before, leading⟩ := exists_replicate_append_dropWhile (dropTrailingZeros text)
  refine ⟨before, after, ?_⟩
  rw [trimmed, ← leading]
  exact trailing

theorem AllDigits.trimmed {text : List Char} (allDigits : AllDigits text) :
    AllDigits (trimmed text) := by
  obtain ⟨before, after, split⟩ := exists_trimmed_between text
  rw [split] at allDigits
  exact allDigits.of_append.1.of_append.2

/-- Trimming leaves out zeros before the number, which do not count, and zeros after it, which
scale it. -/
theorem exists_spelled_eq_trimmed_mul (text : List Char) :
    ∃ zeros, spelled text = spelled (trimmed text) * 10 ^ zeros := by
  obtain ⟨before, after, split⟩ := exists_trimmed_between text
  refine ⟨after, ?_⟩
  conv_lhs => rw [split]
  rw [spelled_append, spelled_append, spelled_replicate_zero, spelled_replicate_zero,
    List.length_replicate, Nat.zero_mul, Nat.zero_add, Nat.add_zero]

/-- A trimmed text does not begin with a zero, so it spells at least the power of ten of its
length. -/
theorem pow_le_spelled_trimmed {text : List Char} (allDigits : AllDigits text)
    (nonempty : trimmed text ≠ []) :
    10 ^ ((trimmed text).length - 1) ≤ spelled (trimmed text) := by
  cases shape : trimmed text with
  | nil => exact absurd shape nonempty
  | cons first rest =>
      have firstDigit : first.isDigit = true := by
        apply allDigits.trimmed
        rw [shape]
        exact List.mem_cons_self
      have nonzero : first ≠ '0' := by
        have kept : decide ((trimmed text).head nonempty = '0') = false :=
          List.head_dropWhile_not (· = '0') nonempty
        have firstIs : (trimmed text).head nonempty = first := by
          simp only [shape, List.head_cons]
        rw [firstIs] at kept
        simpa using kept
      exact pow_le_spelled_cons firstDigit nonzero rest

/-- A trimmed text does not end with a zero, so ten does not divide what it spells. -/
theorem not_ten_dvd_spelled_trimmed {text : List Char} (allDigits : AllDigits text)
    (nonempty : trimmed text ≠ []) : ¬ 10 ∣ spelled (trimmed text) := by
  have lastDigit := allDigits.trimmed _ (List.getLast_mem nonempty)
  have keptNonempty : dropTrailingZeros text ≠ [] := by
    intro empty
    rw [trimmed, empty] at nonempty
    exact nonempty rfl
  have nonzero : (trimmed text).getLast nonempty ≠ '0' := by
    have kept : (dropTrailingZeros text).getLast keptNonempty ≠ '0' :=
      fun zero => List.rdropWhile_last_not (· = '0') text keptNonempty (decide_eq_true zero)
    have same := List.dropWhile_suffix (l := dropTrailingZeros text) (· = '0')
    rwa [← same.getLast nonempty] at kept
  have below := digit_value_lt lastDigit
  have positive := digit_value_pos lastDigit nonzero
  rw [← List.dropLast_append_getLast nonempty, spelled_append, spelled_singleton]
  simp only [List.length_singleton, Nat.pow_one]
  omega

/-! ### Significant digits -/

/-- Zeros appended to a number are not significant. -/
theorem fitsDigits_mul_pow {count number zeros : Nat} :
    FitsDigits count (number * 10 ^ zeros) ↔ FitsDigits count number := by
  constructor
  · rintro ⟨leading, others, same, below⟩
    rcases Nat.le_total zeros others with fewer | more
    · refine ⟨leading, others - zeros, ?_, below⟩
      apply Nat.eq_of_mul_eq_mul_right (Nat.pow_pos (n := zeros) (Nat.succ_pos 9))
      rw [same, Nat.mul_assoc, ← Nat.pow_add, Nat.sub_add_cancel fewer]
    · refine ⟨number, 0, by simp, Nat.lt_of_le_of_lt ?_ below⟩
      have scaled : leading = number * 10 ^ (zeros - others) := by
        apply Nat.eq_of_mul_eq_mul_right (Nat.pow_pos (n := others) (Nat.succ_pos 9))
        rw [← same, Nat.mul_assoc, ← Nat.pow_add, Nat.sub_add_cancel more]
      rw [scaled]
      exact Nat.le_mul_of_pos_right number (Nat.pow_pos (Nat.succ_pos 9))
  · rintro ⟨leading, others, rfl, below⟩
    exact ⟨leading, others + zeros, by rw [Nat.mul_assoc, Nat.pow_add], below⟩

/-- A number that is not a multiple of ten fits only as many digits as it has. -/
theorem lt_pow_of_fitsDigits {count number : Nat} (fits : FitsDigits count number)
    (notTen : ¬ 10 ∣ number) : number < 10 ^ count := by
  obtain ⟨leading, zeros, rfl, below⟩ := fits
  cases zeros with
  | zero => simpa using below
  | succ zeros =>
      exfalso
      apply notTen
      rw [Nat.pow_succ, ← Nat.mul_assoc]
      exact Nat.dvd_mul_left 10 _

/-- The digits left between the zeros at the ends are as many as the spelled number needs. -/
theorem length_trimmed_le_iff {text : List Char} (allDigits : AllDigits text) (count : Nat) :
    (trimmed text).length ≤ count ↔ FitsDigits count (spelled text) := by
  obtain ⟨zeros, scaled⟩ := exists_spelled_eq_trimmed_mul text
  rw [scaled, fitsDigits_mul_pow]
  constructor
  · intro short
    refine ⟨spelled (trimmed text), 0, by simp, ?_⟩
    exact Nat.lt_of_lt_of_le (spelled_lt allDigits.trimmed)
      (Nat.pow_le_pow_right (Nat.succ_pos 9) short)
  · intro fits
    by_cases empty : trimmed text = []
    · simp [empty]
    · have below := lt_pow_of_fitsDigits fits (not_ten_dvd_spelled_trimmed allDigits empty)
      have atLeast := pow_le_spelled_trimmed allDigits empty
      have shorter : (trimmed text).length - 1 < count :=
        (Nat.pow_lt_pow_iff_right (by decide)).mp (Nat.lt_of_le_of_lt atLeast below)
      omega

/-- The significant digits of a decimal are as many as its coefficient needs. -/
theorem length_significant_le_iff (value : Decimal) (count : Nat) :
    value.significant.length ≤ count ↔ FitsDigits count value.coefficient := by
  have needs := length_trimmed_le_iff (allDigits_digits value.coefficient) count
  rwa [spelled_digits] at needs

end SpreadFlow.Decimal
