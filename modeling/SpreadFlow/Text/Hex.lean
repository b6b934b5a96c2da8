/-
Module: SpreadFlow.Text.Hex
Purpose: Hexadecimal digits in escapes.
Main exports: Hex.digit?, Hex.read?, Hex.readCharacter?, Hex.write
-/

namespace SpreadFlow.Hex

/-- The value of a hexadecimal digit, in either case. -/
def digit? (character : Char) : Option Nat :=
  if '0' ≤ character ∧ character ≤ '9' then some (character.toNat - '0'.toNat)
  else if 'a' ≤ character ∧ character ≤ 'f' then some (character.toNat - 'a'.toNat + 10)
  else if 'A' ≤ character ∧ character ≤ 'F' then some (character.toNat - 'A'.toNat + 10)
  else none

/-- The number that the next `count` hexadecimal digits spell under the digits read before, with
what follows them. -/
def readUnder? : Nat → Nat → List Char → Option (Nat × List Char)
  | 0, total, text => some (total, text)
  | _ + 1, _, [] => none
  | count + 1, total, character :: rest =>
      match digit? character with
      | some digit => readUnder? count (16 * total + digit) rest
      | none => none

/-- The number that exactly `count` hexadecimal digits spell, with what follows them. -/
def read? (count : Nat) (text : List Char) : Option (Nat × List Char) :=
  readUnder? count 0 text

/-- The character whose code point exactly `count` hexadecimal digits spell.  A surrogate is no
character. -/
def readCharacter? (count : Nat) (text : List Char) : Option (Char × List Char) :=
  match read? count text with
  | some (number, rest) => if number.isValidChar then some (Char.ofNat number, rest) else none
  | none => none

/-- A number in lower-case hexadecimal digits, without leading zeros. -/
def write (number : Nat) : List Char :=
  Nat.toDigits 16 number

/-- Reading digits leaves no more than there was. -/
theorem readUnder?_length_le {count total number : Nat} {text rest : List Char}
    (read : readUnder? count total text = some (number, rest)) : rest.length ≤ text.length := by
  fun_induction readUnder? count total text with
  | case1 => simp_all
  | case2 => simp at read
  | case3 _ _ _ _ _ _ inductionHypothesis =>
      exact Nat.le_succ_of_le (inductionHypothesis read)
  | case4 => simp at read

/-- Reading digits leaves no more than there was. -/
theorem read?_length_le {count number : Nat} {text rest : List Char}
    (read : read? count text = some (number, rest)) : rest.length ≤ text.length :=
  readUnder?_length_le read

/-- Reading a character leaves no more than there was. -/
theorem readCharacter?_length_le {count : Nat} {character : Char} {text rest : List Char}
    (read : readCharacter? count text = some (character, rest)) : rest.length ≤ text.length := by
  unfold readCharacter? at read
  split at read
  · rename_i digits
    split at read
    · simp only [Option.some.injEq, Prod.mk.injEq] at read
      exact read.2 ▸ read?_length_le digits
    · simp at read
  · simp at read

end SpreadFlow.Hex
