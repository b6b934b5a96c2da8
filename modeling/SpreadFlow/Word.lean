/-
Module: SpreadFlow.Word
Purpose: Integers of 32 and 64 bits, checked.
Main exports: int32?, int64?, WordFault, truncatedRemainder, euclideanRemainder
-/

namespace SpreadFlow

/-- The 32-bit integer of a value, if it has one. -/
def int32? (value : Int) : Option Int32 :=
  if Int32.minValue.toInt ≤ value ∧ value ≤ Int32.maxValue.toInt then some (Int32.ofInt value)
  else none

/-- The 64-bit integer of a value, if it has one. -/
def int64? (value : Int) : Option Int64 :=
  if Int64.minValue.toInt ≤ value ∧ value ≤ Int64.maxValue.toInt then some (Int64.ofInt value)
  else none

/-- The natural number of a 64-bit integer, if it is not negative. -/
def natural? (word : Int64) : Option Nat :=
  if word < 0 then none else some word.toNatClampNeg

/-- What stops a computation in 64-bit integers. -/
inductive WordFault where
  | divisionByZero
  | overflow
deriving Repr, DecidableEq

/-- A result that must be a 64-bit integer. -/
def checkedInt64 (value : Int) : Except WordFault Int64 :=
  match int64? value with
  | some word => .ok word
  | none => .error .overflow

/-- The remainder of a division that rounds towards zero.  The least integer has no quotient by
minus one, and the division is refused although there would be a remainder. -/
def truncatedRemainder (dividend divisor : Int64) : Except WordFault Int64 :=
  if divisor = 0 then .error .divisionByZero
  else if dividend = Int64.minValue ∧ divisor = -1 then .error .overflow
  else .ok (dividend % divisor)

/-- The remainder that is never negative.  A negative truncated remainder is moved up by the size of
the divisor. -/
def euclideanRemainder (dividend divisor : Int64) : Except WordFault Int64 := do
  let remainder ← truncatedRemainder dividend divisor
  if remainder < 0 then
    if divisor < 0 then checkedInt64 (remainder.toInt - divisor.toInt)
    else checkedInt64 (remainder.toInt + divisor.toInt)
  else return remainder

end SpreadFlow
