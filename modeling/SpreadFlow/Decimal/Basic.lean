/-
Module: SpreadFlow.Decimal.Basic
Purpose: Decimal numbers, their digits and their written forms.
Main exports: Decimal, Decimal.digits, Decimal.positional, Decimal.scientific, Decimal.integer
-/

namespace SpreadFlow

/-!
A decimal number is a natural coefficient scaled by a power of ten.  One number has many such
forms, since `15 · 10 ^ 1` is `150 · 10 ^ 0`; its positional text depends on the number alone: no
leading zeros, and a fraction only where one is needed.
-/

/-- The number `coefficient · 10 ^ exponent`. -/
structure Decimal where
  coefficient : Nat
  exponent : Int
deriving Repr, Inhabited, DecidableEq

namespace Decimal

/-- The base-ten digits, most significant first.  There is no leading zero, except that zero
itself is one digit. -/
def digits (number : Nat) : List Char :=
  Nat.toDigits 10 number

/-- The digits with the zeros at their end left out. -/
def dropTrailingZeros (text : List Char) : List Char :=
  (text.reverse.dropWhile (· = '0')).reverse

/-- What stands after the point for `number / 10 ^ places`, where `number < 10 ^ places`: the
digits padded to `places`, without zeros at the end. -/
def fractionDigits (places number : Nat) : List Char :=
  dropTrailingZeros ((digits number).leftpad places '0')

/-- Positional text: the whole part, and a point with the fraction unless the fraction is zero. -/
def positional (value : Decimal) : List Char :=
  match value.exponent with
  | .ofNat raised => digits (value.coefficient * Nat.pow 10 raised)
  | .negSucc lowered =>
      let places := lowered + 1
      let unit := Nat.pow 10 places
      let whole := value.coefficient / unit
      let fraction := value.coefficient % unit
      if fraction = 0 then digits whole
      else digits whole ++ '.' :: fractionDigits places fraction

/-- The significant digits: none for zero, otherwise neither end is a zero. -/
def significant (value : Decimal) : List Char :=
  (dropTrailingZeros (digits value.coefficient)).dropWhile (· = '0')

/-- The base-ten text of an integer: a minus sign for a negative one, then the digits of its
absolute value. -/
def integer (number : Int) : List Char :=
  if number < 0 then '-' :: digits number.natAbs else digits number.natAbs

/-- Scientific text: the first significant digit, the others after a point, and the power of ten
of the first, always with its sign. -/
def scientific (value : Decimal) : List Char :=
  let power := value.exponent + (digits value.coefficient).length - 1
  let mantissa :=
    match value.significant with
    | [] => ['0']
    | [single] => [single]
    | first :: others => first :: '.' :: others
  mantissa ++ 'e' :: (if power < 0 then '-' else '+') :: digits power.natAbs

example : positional ⟨15, 1⟩ = ['1', '5', '0'] := by decide
example : positional ⟨1050, -4⟩ = ['0', '.', '1', '0', '5'] := by decide
example : positional ⟨1200, -2⟩ = ['1', '2'] := by decide
example : scientific ⟨1250, -9⟩ = ['1', '.', '2', '5', 'e', '-', '6'] := by decide
example : scientific ⟨3, 16⟩ = ['3', 'e', '+', '1', '6'] := by decide
example : integer (-40) = ['-', '4', '0'] := by decide

end Decimal

end SpreadFlow
