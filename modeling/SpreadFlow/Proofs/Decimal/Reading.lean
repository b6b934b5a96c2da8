/-
Module: SpreadFlow.Proofs.Decimal.Reading
Purpose: Reading decimal texts as exact numbers, and what positional text reads as.
Main exports: Decimal.toRat, Decimal.read?, Decimal.significantDigits, SignedDecimal,
  SignedDecimal.read?, Decimal.read?_positional
-/
import Mathlib.Algebra.Order.Field.Power
import Mathlib.Algebra.Order.Field.Rat
import Mathlib.Tactic.FieldSimp
import Mathlib.Tactic.Positivity
import Mathlib.Tactic.Ring
import SpreadFlow.Proofs.Decimal.Digits

namespace SpreadFlow

/-!
The reader knows nothing of how texts are written.  It takes digits, perhaps a point with more
digits, and gives the number they spell with the point counted as a negative exponent.  Positional
text then reads as a decimal of the same value, if not of the same coefficient, since zeros at the
end of a fraction are not written.
-/

/-- A decimal with a sign, which zero has too. -/
structure SignedDecimal where
  negative : Bool
  magnitude : Decimal
deriving Repr, DecidableEq

namespace Decimal

/-- The exact value. -/
def toRat (value : Decimal) : ℚ :=
  value.coefficient * 10 ^ value.exponent

/-- Reads digits, and after them possibly a point with more digits.  Nothing may follow. -/
def read? (text : List Char) : Option Decimal :=
  let whole := text.takeWhile Char.isDigit
  if whole = [] then none
  else
    match text.dropWhile Char.isDigit with
    | [] => some ⟨spelled whole, 0⟩
    | '.' :: fraction =>
        if fraction ≠ [] ∧ AllDigits fraction then
          some ⟨spelled (whole ++ fraction), -fraction.length⟩
        else none
    | _ => none

/-- The digits of a text without the zeros before the first and after the last other digit. -/
def significantDigits (text : List Char) : List Char :=
  trimmed (text.filter Char.isDigit)

end Decimal

namespace SignedDecimal

/-- The exact value.  The two zeros have the same. -/
def toRat (number : SignedDecimal) : ℚ :=
  if number.negative then -number.magnitude.toRat else number.magnitude.toRat

/-- Reads a decimal, with a minus sign before it if it is negative. -/
def read? : List Char → Option SignedDecimal
  | '-' :: text => (Decimal.read? text).map fun magnitude => ⟨true, magnitude⟩
  | text => (Decimal.read? text).map fun magnitude => ⟨false, magnitude⟩

end SignedDecimal

namespace Decimal

/-! ### The reader on the forms of positional text -/

theorem takeWhile_isDigit_append {whole : List Char} (wholeDigits : AllDigits whole)
    (rest : List Char) (ends : rest.takeWhile Char.isDigit = []) :
    (whole ++ rest).takeWhile Char.isDigit = whole ∧
      (whole ++ rest).dropWhile Char.isDigit = rest := by
  have restKept : rest.dropWhile Char.isDigit = rest := by
    have split := List.takeWhile_append_dropWhile (p := Char.isDigit) (l := rest)
    rwa [ends, List.nil_append] at split
  rw [List.takeWhile_append_of_pos wholeDigits, List.dropWhile_append_of_pos wholeDigits, ends,
    restKept, List.append_nil]
  exact ⟨rfl, rfl⟩

theorem read?_of_digits {whole : List Char} (wholeDigits : AllDigits whole)
    (nonempty : whole ≠ []) : read? whole = some ⟨spelled whole, 0⟩ := by
  have split := takeWhile_isDigit_append wholeDigits [] rfl
  rw [List.append_nil] at split
  simp only [read?, split.1, split.2, if_neg nonempty]

theorem read?_of_fraction {whole fraction : List Char} (wholeDigits : AllDigits whole)
    (wholeNonempty : whole ≠ []) (fractionDigits : AllDigits fraction)
    (fractionNonempty : fraction ≠ []) :
    read? (whole ++ '.' :: fraction) =
      some ⟨spelled (whole ++ fraction), -fraction.length⟩ := by
  have split := takeWhile_isDigit_append wholeDigits ('.' :: fraction) rfl
  simp only [read?, split.1, split.2, if_neg wholeNonempty]
  rw [if_pos ⟨fractionNonempty, fractionDigits⟩]

/-- Whatever reads as a decimal has the digits of its coefficient. -/
theorem spelled_filter_of_read? {text : List Char} {value : Decimal}
    (read : read? text = some value) : spelled (text.filter Char.isDigit) = value.coefficient := by
  have split := List.takeWhile_append_dropWhile (p := Char.isDigit) (l := text)
  have wholeDigits : (text.takeWhile Char.isDigit).filter Char.isDigit =
      text.takeWhile Char.isDigit :=
    List.filter_eq_self.mpr fun _ member => List.mem_takeWhile_imp member
  rw [← split, List.filter_append, wholeDigits]
  simp only [read?] at read
  split at read
  · cases read
  · split at read
    · rename_i _ ends
      cases read
      rw [ends, List.filter_nil, List.append_nil]
    · rename_i _ fraction ends
      split at read
      · rename_i fractionShape
        cases read
        rw [ends, List.filter_cons_of_neg (by decide),
          List.filter_eq_self.mpr fractionShape.2]
      · cases read
    · cases read

/-- The text has as many significant digits as what it reads as. -/
theorem length_significantDigits {text : List Char} {value : Decimal}
    (read : read? text = some value) :
    (significantDigits text).length = value.significant.length := by
  have textDigits : AllDigits (text.filter Char.isDigit) :=
    fun _ member => (List.mem_filter.mp member).2
  have needs (count : Nat) :
      (significantDigits text).length ≤ count ↔ value.significant.length ≤ count := by
    rw [significantDigits, length_trimmed_le_iff textDigits, spelled_filter_of_read? read]
    rw [length_significant_le_iff]
  exact Nat.le_antisymm ((needs _).mpr (Nat.le_refl _)) ((needs _).mp (Nat.le_refl _))

/-! ### Positional text -/

/-- The digits of a fraction: padding in front and zeros left out behind keep its value. -/
theorem fractionDigits_spec {places number : Nat} (below : number < 10 ^ places)
    (positive : 0 < number) :
    AllDigits (fractionDigits places number) ∧ fractionDigits places number ≠ [] ∧
      ∃ zeros, (fractionDigits places number).length + zeros = places ∧
        spelled (fractionDigits places number) * 10 ^ zeros = number := by
  have somePlaces : 0 < places := by
    rcases Nat.eq_zero_or_pos places with zero | positivePlaces
    · rw [zero] at below
      omega
    · exact positivePlaces
  have short : (digits number).length ≤ places :=
    (Nat.length_toDigits_le_iff (by decide) somePlaces).mpr below
  have padded : (digits number).leftpad places '0' =
      List.replicate (places - (digits number).length) '0' ++ digits number := rfl
  have paddedDigits : AllDigits ((digits number).leftpad places '0') := by
    rw [padded]
    refine AllDigits.append ?_ (allDigits_digits number)
    intro character member
    rw [List.eq_of_mem_replicate member]
    rfl
  obtain ⟨zeros, split⟩ := exists_dropTrailingZeros_append ((digits number).leftpad places '0')
  change _ = fractionDigits places number ++ _ at split
  have length : (fractionDigits places number).length + zeros = places := by
    have total := congrArg List.length split
    rw [List.length_leftpad, List.length_append, List.length_replicate] at total
    omega
  have value : spelled (fractionDigits places number) * 10 ^ zeros = number := by
    have total := congrArg spelled split
    rw [spelled_append, padded, spelled_append, spelled_digits] at total
    simpa using total.symm
  refine ⟨?_, ?_, zeros, length, value⟩
  · rw [split] at paddedDigits
    exact paddedDigits.of_append.1
  · intro empty
    rw [empty] at value
    simp [spelled] at value
    omega

/-- Positional text reads as a decimal of the same value. -/
theorem read?_positional (value : Decimal) :
    ∃ written, read? value.positional = some written ∧ written.toRat = value.toRat := by
  obtain ⟨coefficient, exponent⟩ := value
  cases exponent with
  | ofNat raised =>
      refine ⟨⟨coefficient * 10 ^ raised, 0⟩, ?_, ?_⟩
      · have read := read?_of_digits (allDigits_digits (coefficient * 10 ^ raised))
          (digits_ne_nil _)
        rwa [spelled_digits] at read
      · simp [toRat]
  | negSucc lowered =>
      simp only [positional, Nat.pow_eq]
      generalize placesEq : lowered + 1 = places
      have exponentEq : Int.negSucc lowered = -(places : ℤ) := by omega
      have unitNonzero : (10 : ℚ) ^ places ≠ 0 := by positivity
      have division : coefficient =
          coefficient / 10 ^ places * 10 ^ places + coefficient % 10 ^ places :=
        (Nat.div_add_mod' _ _).symm
      generalize coefficient / 10 ^ places = whole at division ⊢
      generalize remainderEq : coefficient % 10 ^ places = remainder at division ⊢
      split
      · rename_i integral
        refine ⟨⟨whole, 0⟩, ?_, ?_⟩
        · have read := read?_of_digits (allDigits_digits whole) (digits_ne_nil _)
          rwa [spelled_digits] at read
        · rw [division, integral, exponentEq]
          simp only [toRat, zpow_neg, zpow_natCast, zpow_zero]
          push_cast
          field_simp
          ring
      · rename_i fractional
        have below : remainder < 10 ^ places := by
          rw [← remainderEq]
          exact Nat.mod_lt _ (Nat.pow_pos (Nat.succ_pos 9))
        obtain ⟨fractionShape, nonempty, zeros, length, value⟩ :=
          fractionDigits_spec below (Nat.pos_of_ne_zero fractional)
        generalize fractionDigits places remainder = fraction at *
        refine ⟨_, read?_of_fraction (allDigits_digits whole) (digits_ne_nil whole) fractionShape
          nonempty, ?_⟩
        rw [division, exponentEq, spelled_append, spelled_digits, ← value, ← length]
        simp only [toRat, zpow_neg, zpow_natCast]
        push_cast
        field_simp
        ring

end Decimal

end SpreadFlow
