/-
Module: SpreadFlow.Decimal.Binary
Purpose: Binary floating-point numbers as bit patterns, their exact values, and rounding a
  rational number to the nearest of them.
Main exports: BinaryFormat, BinaryFormat.units, BinaryFormat.nearestCode, Binary, Binary.datum,
  Binary32, Binary64
-/

namespace SpreadFlow

/-!
The bits of a magnitude, exponent field above fraction field, read as one natural number are its
*code*.  Codes are in the order of the values they stand for, and the code after a number's is that
of the next number, also across a power of two and up to infinity.  So every number's two
neighbours, its rounding interval and the rule "a tie goes to the even one" are said in terms of
codes.

All finite values are multiples of the least positive one.  `units code` is that multiple.  The
code of infinity has units too: the value that the next number would have if the exponent had no
bound.  Rounding to nearest overflows from half way to it.
-/

/-- A binary interchange format: `fractionBits` stored bits of the significand under
`exponentBits` bits of biased exponent and one sign bit.  `maxDigits` decimal digits are enough
to tell any two of its numbers apart. -/
structure BinaryFormat where
  fractionBits : Nat
  exponentBits : Nat
  maxDigits : Nat
  two_le_exponentBits : 2 ≤ exponentBits := by decide
  maxDigits_suffice : Nat.pow 2 (fractionBits + 1) < Nat.pow 10 (maxDigits - 1) := by decide
deriving Repr, DecidableEq

namespace BinaryFormat

/-- Single precision. -/
def single : BinaryFormat where
  fractionBits := 23
  exponentBits := 8
  maxDigits := 9

/-- Double precision. -/
def double : BinaryFormat where
  fractionBits := 52
  exponentBits := 11
  maxDigits := 17

/-- The weight of the bit that is not stored, in units of the last stored bit. -/
def hiddenBit (format : BinaryFormat) : Nat :=
  Nat.pow 2 format.fractionBits

/-- The bits of a magnitude: all but the sign. -/
def magnitudeBits (format : BinaryFormat) : Nat :=
  format.exponentBits + format.fractionBits

/-- All bits of a number. -/
def width (format : BinaryFormat) : Nat :=
  format.magnitudeBits + 1

/-- The least positive number is `1 / 2 ^ unitPlaces`. -/
def unitPlaces (format : BinaryFormat) : Nat :=
  Nat.pow 2 (format.exponentBits - 1) - 2 + format.fractionBits

/-- The code of infinity: the exponent field is all ones, the fraction zero.  Codes below it are
finite, codes above it are those of no number. -/
def infinityCode (format : BinaryFormat) : Nat :=
  (Nat.pow 2 format.exponentBits - 1) * format.hiddenBit

/-- The value of a code in units of the least positive number.  A zero exponent field has no
hidden bit and the scale of exponent one. -/
def units (format : BinaryFormat) (code : Nat) : Nat :=
  let exponentField := code / format.hiddenBit
  let fractionField := code % format.hiddenBit
  if exponentField = 0 then fractionField
  else (format.hiddenBit + fractionField) * Nat.pow 2 (exponentField - 1)

/-- The last code whose value is at most `amount` units, if the exponent had no bound. -/
def codeBelow (format : BinaryFormat) (amount : Nat) : Nat :=
  let scale := amount.log2 - format.fractionBits
  scale * format.hiddenBit + amount / Nat.pow 2 scale

/-- The code nearest to `numerator / denominator`.  A tie goes to the even code, and half way
above the largest finite number infinity begins. -/
def nearestCode (format : BinaryFormat) (numerator denominator : Nat) : Nat :=
  let scaled := numerator * Nat.pow 2 format.unitPlaces
  let below := format.codeBelow (scaled / denominator)
  let middle := (format.units below + format.units (below + 1)) * denominator
  let nearest :=
    if 2 * scaled < middle then below
    else if middle < 2 * scaled then below + 1
    else below + below % 2
  min nearest format.infinityCode

end BinaryFormat

/-- A number of a binary format, as its bit pattern. -/
structure Binary (format : BinaryFormat) where
  bits : BitVec format.width
deriving Repr, DecidableEq

/-- Single-precision numbers. -/
abbrev Binary32 := Binary .single

/-- Double-precision numbers. -/
abbrev Binary64 := Binary .double

/-- What a bit pattern stands for.  Only the codes below that of infinity are finite. -/
inductive Datum where
  | nan
  | infinite (negative : Bool)
  | finite (negative : Bool) (code : Nat)
deriving Repr, Inhabited, DecidableEq

namespace Binary

variable {format : BinaryFormat}

instance : Inhabited (Binary format) := ⟨⟨0⟩⟩

/-- The sign bit, which zeros and NaNs have too. -/
def isNegative (number : Binary format) : Bool :=
  number.bits.msb

/-- The magnitude's code: all bits below the sign. -/
def code (number : Binary format) : Nat :=
  number.bits.toNat % Nat.pow 2 format.magnitudeBits

/-- The class of a number, with its sign and code.  A NaN has neither. -/
def datum (number : Binary format) : Datum :=
  if number.code < format.infinityCode then .finite number.isNegative number.code
  else if number.code = format.infinityCode then .infinite number.isNegative
  else .nan

/-- The number with a given sign and code. -/
def ofCode (format : BinaryFormat) (negative : Bool) (code : Nat) : Binary format :=
  ⟨BitVec.ofNat format.width ((if negative then Nat.pow 2 format.magnitudeBits else 0) + code)⟩

/-- Numeric equality: a NaN equals nothing, and the two zeros are equal. -/
instance : BEq (Binary format) where
  beq left right :=
    match left.datum, right.datum with
    | .nan, _ | _, .nan => false
    | .finite _ 0, .finite _ 0 => true
    | leftDatum, rightDatum => leftDatum = rightDatum

end Binary

end SpreadFlow
