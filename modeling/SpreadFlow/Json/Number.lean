/-
Module: SpreadFlow.Json.Number
Purpose: JSON numbers: their grammar, the values they stand for, and the text of a value in a
  message.
Main exports: Json.Numeral, Json.readNumeral?, Json.Number, Json.Numeral.number?,
  Json.readNumber?, Json.floatText
-/
import SpreadFlow.Decimal.Text

namespace SpreadFlow.Json

/-!
A numeral is what the grammar sees: a sign, digits, a fraction, an exponent.  Its value is an
integer if it is written as one and fits 64 bits, unsigned or negative.  Any other numeral is a
double-precision number, and so is `-0`.

A float's value is not always the one nearest to its numeral.  The digits are gathered into a
significand of 64 bits as long as they fit, and the significand is rounded, scaled by a power of
ten, and rounded again.  A numeral that exceeds all finite numbers has no value.
-/

/-- A number as written. -/
structure Numeral where
  negative : Bool
  whole : List Nat
  fraction : List Nat
  exponent : Option Int
deriving Repr, DecidableEq

/-- The leading decimal digits of a text, with what follows them. -/
def takeDigits (text : List Char) : List Nat × List Char :=
  ((text.takeWhile Char.isDigit).map fun digit => digit.toNat - '0'.toNat,
    text.dropWhile Char.isDigit)

/-- The number that decimal digits spell. -/
def digitsValue (digits : List Nat) : Nat :=
  digits.foldl (fun value digit => value * 10 + digit) 0

/-- A point must be followed by digits.  Without a point there is no fraction. -/
def readFraction? : List Char → Option (List Nat × List Char)
  | '.' :: rest =>
      match takeDigits rest with
      | ([], _) => none
      | taken => some taken
  | text => some ([], text)

/-- An exponent's digits, under a sign that was read. -/
def readPower? (negative : Bool) (text : List Char) : Option (Option Int × List Char) :=
  match takeDigits text with
  | ([], _) => none
  | (digits, rest) =>
      some (some (if negative then -(digitsValue digits : Int) else digitsValue digits), rest)

/-- The letter `e` of either case must be followed by digits, with or without a sign.  Without it
there is no exponent. -/
def readExponent? : List Char → Option (Option Int × List Char)
  | letter :: text =>
      if letter = 'e' ∨ letter = 'E' then
        match text with
        | '-' :: rest => readPower? true rest
        | '+' :: rest => readPower? false rest
        | rest => readPower? false rest
      else some (none, letter :: text)
  | [] => some (none, [])

/-- A numeral, with what follows it.  The whole part has digits, and no zero before others. -/
def readNumeral? (text : List Char) : Option (Numeral × List Char) :=
  let (negative, unsigned) :=
    match text with
    | '-' :: rest => (true, rest)
    | _ => (false, text)
  match takeDigits unsigned with
  | ([], _) | (0 :: _ :: _, _) => none
  | (whole, afterWhole) => do
      let (fraction, afterFraction) ← readFraction? afterWhole
      let (exponent, rest) ← readExponent? afterFraction
      some (⟨negative, whole, fraction, exponent⟩, rest)

/-- What a numeral stands for. -/
inductive Number where
  | integer (value : Int)
  | float (value : Binary64)
deriving Repr, DecidableEq

/-- Digits gathered under a significand as long as it stays below `2 ^ 64`: the significand and
how many digits went into it. -/
def gather (significand : Nat) : List Nat → Nat × Nat
  | [] => (significand, 0)
  | digit :: digits =>
      if significand * 10 + digit < Nat.pow 2 64 then
        let (gathered, taken) := gather (significand * 10 + digit) digits
        (gathered, taken + 1)
      else (significand, 0)

/-- The largest power of ten that scales in one step. -/
def largestPower : Nat := 308

/-- The code of `10 ^ power`, rounded to nearest. -/
def powerCode (power : Nat) : Nat :=
  BinaryFormat.double.nearestCode (Nat.pow 10 power) 1

/-- A finite code divided by `10 ^ power`, in steps that divide by at most `10 ^ 308` and round
each time. -/
def divideByPower (code power : Nat) : Nat :=
  let divided (step : Nat) :=
    BinaryFormat.double.nearestCode
      (BinaryFormat.double.units code) (BinaryFormat.double.units (powerCode step))
  if power ≤ largestPower then divided power
  else if code = 0 then 0
  else divideByPower (divided largestPower) (power - largestPower)
termination_by power
decreasing_by
  simp only [largestPower] at *
  omega

/-- A finite code multiplied by `10 ^ power` and rounded, unless the result exceeds all finite
numbers. -/
def multiplyByPower? (code power : Nat) : Option Nat :=
  if code = 0 then some 0
  else if power ≤ largestPower then
    let product :=
      BinaryFormat.double.nearestCode
        (BinaryFormat.double.units code * BinaryFormat.double.units (powerCode power))
        (Nat.pow 2 (2 * BinaryFormat.double.unitPlaces))
    if product < BinaryFormat.double.infinityCode then some product else none
  else none

/-- The code of `significand · 10 ^ power`, if it is finite. -/
def scale? (significand : Nat) (power : Int) : Option Nat :=
  let code := BinaryFormat.double.nearestCode significand 1
  match power with
  | .ofNat raised => multiplyByPower? code raised
  | .negSucc lowered => some (divideByPower code (lowered + 1))

/-- The value of a numeral, unless it exceeds all finite numbers. -/
def Numeral.number? (numeral : Numeral) : Option Number :=
  let (whole, wholeTaken) := gather 0 numeral.whole
  let raised := numeral.whole.length - wholeTaken
  let float (code : Nat) : Number := .float (Binary.ofCode .double numeral.negative code)
  if numeral.fraction = [] ∧ numeral.exponent = none ∧ raised = 0 then
    if ¬ numeral.negative then some (.integer whole)
    else if 0 < whole ∧ whole ≤ Nat.pow 2 63 then some (.integer (-whole))
    else (scale? whole 0).map float
  else
    let (significand, fractionTaken) := gather whole numeral.fraction
    let power : Int := raised - fractionTaken + numeral.exponent.getD 0
    (scale? significand power).map float

/-- A number, with what follows it. -/
def readNumber? (text : List Char) : Option (Number × List Char) := do
  let (numeral, rest) ← readNumeral? text
  let number ← numeral.number?
  some (number, rest)

/-- The text of a float in a message: positional with at least one place, if the point then stands
at most four places before the significant digits and at most sixteen after the first of them;
otherwise scientific.  Of two equally near shortest decimals the even one is taken. -/
def floatText (value : Binary64) : List Char :=
  match value.datum with
  | .finite negative code =>
      let decimal := BinaryFormat.double.shortest .even code
      let point := decimal.exponent + (Decimal.digits decimal.coefficient).length
      let positional := decimal.positional
      let text :=
        if decimal.coefficient = 0 ∨ (-4 ≤ point ∧ point ≤ 16) then
          if '.' ∈ positional then positional else positional ++ ['.', '0']
        else decimal.scientific
      if negative then '-' :: text else text
  | _ => value.decimalCharacters

theorem length_takeDigits (text : List Char) :
    (takeDigits text).1.length + (takeDigits text).2.length = text.length := by
  simp only [takeDigits, List.length_map]
  rw [← List.length_append, List.takeWhile_append_dropWhile]

theorem readFraction?_length_le {text rest : List Char} {digits : List Nat}
    (read : readFraction? text = some (digits, rest)) : rest.length ≤ text.length := by
  unfold readFraction? at read
  split at read
  · rename_i tail
    have split := length_takeDigits tail
    split at read
    · simp at read
    · simp only [Option.some.injEq] at read
      simp only [read] at split
      simp only [List.length_cons]
      omega
  · simp only [Option.some.injEq, Prod.mk.injEq] at read
    simp [read.2]

theorem readPower?_length_le {negative : Bool} {text rest : List Char} {power : Option Int}
    (read : readPower? negative text = some (power, rest)) : rest.length ≤ text.length := by
  unfold readPower? at read
  have split := length_takeDigits text
  split at read
  · simp at read
  · rename_i digits last _ taken
    simp only [Option.some.injEq, Prod.mk.injEq] at read
    simp only [taken, read.2] at split
    omega

theorem readExponent?_length_le {text rest : List Char} {power : Option Int}
    (read : readExponent? text = some (power, rest)) : rest.length ≤ text.length := by
  unfold readExponent? at read
  split at read
  · split at read
    · split at read <;>
        · have := readPower?_length_le read
          simp only [List.length_cons] at *
          omega
    · simp only [Option.some.injEq, Prod.mk.injEq] at read
      simp [← read.2]
  · simp only [Option.some.injEq, Prod.mk.injEq] at read
    simp [← read.2]

/-- A numeral takes at least one character. -/
theorem readNumeral?_shorter {text rest : List Char} {numeral : Numeral}
    (read : readNumeral? text = some (numeral, rest)) : rest.length < text.length := by
  obtain ⟨negative, unsigned, signed, le⟩ : ∃ negative unsigned,
      (match text with
        | '-' :: rest => (true, rest)
        | _ => (false, text)) = (negative, unsigned) ∧ unsigned.length ≤ text.length := by
    split
    · exact ⟨_, _, rfl, by simp⟩
    · exact ⟨_, _, rfl, Nat.le_refl _⟩
  have split := length_takeDigits unsigned
  simp only [readNumeral?, signed] at read
  split at read
  · simp at read
  · simp at read
  · rename_i whole afterWhole empty _ taken
    simp only [Option.bind_eq_bind, Option.bind_eq_some_iff, Option.some.injEq,
      Prod.mk.injEq] at read
    obtain ⟨⟨fraction, afterFraction⟩, fractionRead, ⟨power, last⟩, powerRead, -, rfl⟩ := read
    have afterFractionLe := readFraction?_length_le fractionRead
    have lastLe := readExponent?_length_le powerRead
    have positive : 0 < whole.length :=
      List.length_pos_iff.mpr empty
    simp only [taken] at split
    simp only at *
    omega

/-- A number takes at least one character. -/
theorem readNumber?_shorter {text rest : List Char} {number : Number}
    (read : readNumber? text = some (number, rest)) : rest.length < text.length := by
  simp only [readNumber?, Option.bind_eq_bind, Option.bind_eq_some_iff, Option.some.injEq,
    Prod.mk.injEq] at read
  obtain ⟨⟨numeral, last⟩, numeralRead, _, _, _, rfl⟩ := read
  exact readNumeral?_shorter numeralRead

end SpreadFlow.Json
