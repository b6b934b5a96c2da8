/-
Module: SpreadFlow.Json.Quoted
Purpose: The characters between the quotes of a JSON string, written and read.
Main exports: Json.writeCharacter, Json.quotation
-/
import SpreadFlow.Text.Hex
import SpreadFlow.Text.Quotation

namespace SpreadFlow.Json

/-!
Writing escapes a quote, a backslash and the control characters below the space, and nothing
else.  Reading accepts every escape of the format.  A character above `U+FFFF` may be escaped as
the pair of its surrogate units.  A surrogate that is not half of such a pair is no character, so
the text that holds it is refused.
-/

/-- The escapes of one letter: what stands after the backslash, and the character it means. -/
def shortEscapes : List (Char × Char) :=
  [('"', '"'), ('\\', '\\'), ('/', '/'), ('b', '\x08'), ('f', '\x0c'), ('n', '\n'), ('r', '\r'),
    ('t', '\t')]

/-- The written form of one character. -/
def writeCharacter (character : Char) : List Char :=
  if character = '"' then ['\\', '"']
  else if character = '\\' then ['\\', '\\']
  else if character = '\x08' then ['\\', 'b']
  else if character = '\x0c' then ['\\', 'f']
  else if character = '\n' then ['\\', 'n']
  else if character = '\r' then ['\\', 'r']
  else if character = '\t' then ['\\', 't']
  else if character < ' ' then
    '\\' :: 'u' :: (Hex.write character.toNat).leftpad 4 '0'
  else [character]

/-- The character of four hexadecimal digits and, when they are the first half of a surrogate
pair, of the escape that must follow. -/
def readUnits? (text : List Char) : Option (Char × List Char) := do
  let (unit, rest) ← Hex.read? 4 text
  if 0xDC00 ≤ unit ∧ unit < 0xE000 then none
  else if 0xD800 ≤ unit ∧ unit < 0xDC00 then
    match rest with
    | '\\' :: 'u' :: second => do
        let (low, after) ← Hex.read? 4 second
        if 0xDC00 ≤ low ∧ low < 0xE000 then
          some (Char.ofNat (0x10000 + (unit - 0xD800) * 0x400 + (low - 0xDC00)), after)
        else none
    | _ => none
  else some (Char.ofNat unit, rest)

/-- The character that an escape means, read from after its backslash. -/
def readEscape? : List Char → Option (Char × List Char)
  | [] => none
  | 'u' :: rest => readUnits? rest
  | letter :: rest => (shortEscapes.lookup letter).map (·, rest)

/-- An escape takes at least one character. -/
theorem readEscape?_shorter {text rest : List Char} {character : Char}
    (read : readEscape? text = some (character, rest)) : rest.length < text.length := by
  unfold readEscape? at read
  split at read
  · simp at read
  · rename_i tail
    simp only [readUnits?, Option.bind_eq_bind, Option.bind_eq_some_iff] at read
    obtain ⟨⟨unit, middle⟩, digits, read⟩ := read
    have first := Hex.read?_length_le digits
    split at read
    · simp at read
    · split at read
      · split at read
        · rename_i pair shape
          subst shape
          simp only [Option.bind_eq_some_iff] at read
          obtain ⟨⟨low, after⟩, lowDigits, read⟩ := read
          have second := Hex.read?_length_le lowDigits
          split at read
          · simp only [Option.some.injEq, Prod.mk.injEq] at read
            obtain ⟨-, rfl⟩ := read
            simp only [List.length_cons] at *
            omega
          · simp at read
        · simp at read
      · simp only [Option.some.injEq, Prod.mk.injEq] at read
        obtain ⟨-, rfl⟩ := read
        simp only [List.length_cons]
        omega
  · simp only [Option.map_eq_some_iff, Prod.mk.injEq] at read
    obtain ⟨_, _, _, rfl⟩ := read
    simp

/-- JSON strings: control characters below the space must be escaped. -/
def quotation : Quotation where
  allows character := ' ' ≤ character
  escape? text := (readEscape? text).map fun (character, rest) => ([character], rest)
  escape?_shorter := by
    intro text rest meaning read
    simp only [Option.map_eq_some_iff, Prod.mk.injEq] at read
    obtain ⟨⟨character, last⟩, inner, -, rfl⟩ := read
    exact readEscape?_shorter inner

end SpreadFlow.Json
