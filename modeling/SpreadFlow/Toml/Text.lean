/-
Module: SpreadFlow.Toml.Text
Purpose: The parts of a TOML line: blanks, comments, strings and keys.
Main exports: Toml.skipGap, Toml.afterLine?, Toml.readString?, Toml.readPath?
-/
import SpreadFlow.Text.Hex
import SpreadFlow.Text.Quotation

namespace SpreadFlow.Toml

/-! ### Characters and lines -/

/-- The text with every line break as a line feed alone. -/
def unifyBreaks : List Char → List Char
  | [] => []
  | '\r' :: '\n' :: rest => '\n' :: unifyBreaks rest
  | character :: rest => character :: unifyBreaks rest

/-- The blanks inside a line. -/
def isBlank (character : Char) : Bool :=
  character = ' ' || character = '\t'

/-- The blanks and the line break. -/
def isSpace (character : Char) : Bool :=
  isBlank character || character = '\n'

/-- The characters that may stand in comments and strings: no control character but the tab. -/
def isVisible (character : Char) : Bool :=
  character = '\t' || (' ' ≤ character && character ≠ '\x7f')

/-- The characters of keys without quotes. -/
def isBare (character : Char) : Bool :=
  character.isAlphanum || character = '_' || character = '-'

/-- What follows the blanks at the start. -/
def skipBlanks (text : List Char) : List Char :=
  text.dropWhile isBlank

/-- What follows a comment, or the text itself if it does not begin with one. -/
def skipComment : List Char → List Char
  | '#' :: rest => rest.dropWhile isVisible
  | text => text

/-- What follows the end of a line.  Before it only blanks and a comment may stand. -/
def afterLine? (text : List Char) : Option (List Char) :=
  match skipComment (skipBlanks text) with
  | [] => some []
  | '\n' :: rest => some rest
  | _ => none

/-- What follows blanks, line breaks and comments. -/
def skipGap (inComment : Bool) : List Char → List Char
  | [] => []
  | character :: rest =>
      if character = '\n' then skipGap false rest
      else if inComment && isVisible character then skipGap true rest
      else if !inComment && isBlank character then skipGap false rest
      else if !inComment && character = '#' then skipGap true rest
      else character :: rest

theorem skipBlanks_length_le (text : List Char) : (skipBlanks text).length ≤ text.length :=
  (List.dropWhile_sublist isBlank).length_le

theorem skipComment_length_le (text : List Char) : (skipComment text).length ≤ text.length := by
  unfold skipComment
  split
  · exact Nat.le_succ_of_le (List.dropWhile_sublist isVisible).length_le
  · exact Nat.le_refl _

theorem afterLine?_length_le {text rest : List Char} (read : afterLine? text = some rest) :
    rest.length ≤ text.length := by
  have blanks := skipBlanks_length_le text
  have comment := skipComment_length_le (skipBlanks text)
  unfold afterLine? at read
  split at read
  · simp only [Option.some.injEq] at read
    simp [← read]
  · rename_i shape
    simp only [Option.some.injEq] at read
    simp only [shape, List.length_cons, read] at comment
    omega
  · simp at read

theorem skipGap_length_le (inComment : Bool) (text : List Char) :
    (skipGap inComment text).length ≤ text.length := by
  induction text generalizing inComment with
  | nil => simp [skipGap]
  | cons character rest inductionHypothesis =>
      unfold skipGap
      split
      · exact Nat.le_succ_of_le (inductionHypothesis _)
      · split
        · exact Nat.le_succ_of_le (inductionHypothesis _)
        · split
          · exact Nat.le_succ_of_le (inductionHypothesis _)
          · split
            · exact Nat.le_succ_of_le (inductionHypothesis _)
            · exact Nat.le_refl _

/-! ### Strings -/

/-- The character of an escape, read from after its backslash. -/
def readEscape? : List Char → Option (Char × List Char)
  | 'b' :: rest => some ('\x08', rest)
  | 't' :: rest => some ('\t', rest)
  | 'n' :: rest => some ('\n', rest)
  | 'f' :: rest => some ('\x0c', rest)
  | 'r' :: rest => some ('\r', rest)
  | '"' :: rest => some ('"', rest)
  | '\\' :: rest => some ('\\', rest)
  | 'u' :: rest => Hex.readCharacter? 4 rest
  | 'U' :: rest => Hex.readCharacter? 8 rest
  | _ => none

/-- An escape takes at least one character. -/
theorem readEscape?_shorter {text rest : List Char} {character : Char}
    (read : readEscape? text = some (character, rest)) : rest.length < text.length := by
  unfold readEscape? at read
  split at read
  case h_8 | h_9 => exact Nat.lt_succ_of_le (Hex.readCharacter?_length_le read)
  case h_10 => simp at read
  all_goals
    simp only [Option.some.injEq, Prod.mk.injEq] at read
    simp [read.2]

/-- Basic strings on one line, between double quotes. -/
def basic : Quotation where
  allows := isVisible
  escape? text := (readEscape? text).map fun (character, rest) => ([character], rest)
  escape?_shorter := by
    intro text rest meaning read
    simp only [Option.map_eq_some_iff, Prod.mk.injEq] at read
    obtain ⟨⟨character, last⟩, inner, -, rfl⟩ := read
    exact readEscape?_shorter inner

/-- What follows an escaped line break, read from after the backslash.  The break stands for
nothing, nor do the blanks before it and the blanks and breaks after it. -/
def afterJoin? (text : List Char) : Option (List Char) :=
  match skipBlanks text with
  | '\n' :: rest => some (rest.dropWhile isSpace)
  | _ => none

theorem afterJoin?_shorter {text rest : List Char} (read : afterJoin? text = some rest) :
    rest.length < text.length := by
  unfold afterJoin? at read
  split at read
  · rename_i tail shape
    have blanks := (List.dropWhile_sublist isBlank (l := text)).length_le
    have spaces := (List.dropWhile_sublist isSpace (l := tail)).length_le
    simp only [Option.some.injEq] at read
    simp only [skipBlanks] at shape
    simp only [shape, List.length_cons, ← read] at *
    omega
  · simp at read

/-- Basic strings over several lines, up to the first double quote. -/
def basicBlock : Quotation where
  allows character := isVisible character || character = '\n'
  escape? text :=
    match afterJoin? text with
    | some rest => some ([], rest)
    | none => (readEscape? text).map fun (character, rest) => ([character], rest)
  escape?_shorter := by
    intro text rest meaning read
    split at read
    · rename_i tail joined
      simp only [Option.some.injEq, Prod.mk.injEq] at read
      exact read.2 ▸ afterJoin?_shorter joined
    · simp only [Option.map_eq_some_iff, Prod.mk.injEq] at read
      obtain ⟨⟨character, last⟩, inner, -, rfl⟩ := read
      exact readEscape?_shorter inner

/-- The characters inside a literal string: those allowed but the single quote. -/
def isLiteral (allows : Char → Bool) (character : Char) : Bool :=
  allows character && character ≠ '\''

/-- The characters of a literal string, in which there are no escapes, up to the first single
quote. -/
def readLiteral? (allows : Char → Bool) (text : List Char) : Option (List Char × List Char) :=
  match text.dropWhile (isLiteral allows) with
  | '\'' :: rest => some (text.takeWhile (isLiteral allows), rest)
  | _ => none

/-- The text without a line break at its start. -/
def dropBreak : List Char → List Char
  | '\n' :: rest => rest
  | text => text

/-- A string of any kind.  One over several lines stands between three quotes, and a line break
right after the first three is no part of it.  It may hold one or two quotes in a row, but no key or
name in a configuration does, so these are refused. -/
def readString? : List Char → Option (List Char × List Char)
  | '"' :: '"' :: '"' :: rest =>
      match basicBlock.read? (dropBreak rest) with
      | some (characters, '"' :: '"' :: last) => some (characters, last)
      | _ => none
  | '"' :: rest => basic.read? rest
  | '\'' :: '\'' :: '\'' :: rest =>
      match readLiteral? (fun character => isVisible character || character = '\n')
          (dropBreak rest) with
      | some (characters, '\'' :: '\'' :: last) => some (characters, last)
      | _ => none
  | '\'' :: rest => readLiteral? isVisible rest
  | _ => none

theorem readLiteral?_shorter {allows : Char → Bool} {text rest characters : List Char}
    (read : readLiteral? allows text = some (characters, rest)) : rest.length < text.length := by
  unfold readLiteral? at read
  split at read
  · rename_i tail shape
    have shorter := (List.dropWhile_sublist (isLiteral allows) (l := text)).length_le
    simp only [Option.some.injEq, Prod.mk.injEq] at read
    simp only [shape, List.length_cons, read.2] at shorter
    omega
  · simp at read

/-- A string takes at least its quotes. -/
theorem readString?_shorter {text rest characters : List Char}
    (read : readString? text = some (characters, rest)) : rest.length < text.length := by
  unfold readString? at read
  have noBreak (inside : List Char) : (dropBreak inside).length ≤ inside.length := by
    unfold dropBreak
    split <;> simp
  split at read
  · rename_i inside
    split at read
    · rename_i block
      have shorter := Quotation.read?_shorter block
      have := noBreak inside
      simp only [Option.some.injEq, Prod.mk.injEq] at read
      simp only [List.length_cons, read.2] at *
      omega
    · simp at read
  · exact Nat.lt_succ_of_lt (Quotation.read?_shorter read)
  · rename_i inside
    split at read
    · rename_i block
      have shorter := readLiteral?_shorter block
      have := noBreak inside
      simp only [Option.some.injEq, Prod.mk.injEq] at read
      simp only [List.length_cons, read.2] at *
      omega
    · simp at read
  · exact Nat.lt_succ_of_lt (readLiteral?_shorter read)
  · simp at read

/-! ### Keys -/

/-- A key.  It needs no quotes if it has only letters, digits, dashes and underscores. -/
def readKey? (text : List Char) : Option (List Char × List Char) :=
  match text with
  | '"' :: rest => basic.read? rest
  | '\'' :: rest => readLiteral? isVisible rest
  | _ =>
      match text.takeWhile isBare with
      | [] => none
      | bare => some (bare, text.dropWhile isBare)

/-- A key takes at least one character. -/
theorem readKey?_shorter {text rest key : List Char} (read : readKey? text = some (key, rest)) :
    rest.length < text.length := by
  unfold readKey? at read
  split at read
  · exact Nat.lt_succ_of_lt (Quotation.read?_shorter read)
  · exact Nat.lt_succ_of_lt (readLiteral?_shorter read)
  · split at read
    · simp at read
    · rename_i bare notEmpty
      simp only [Option.some.injEq, Prod.mk.injEq] at read
      have whole := congrArg List.length (List.takeWhile_append_dropWhile (p := isBare) (l := text))
      have positive : 0 < (text.takeWhile isBare).length := List.length_pos_iff.mpr notEmpty
      rw [List.length_append] at whole
      rw [← read.2]
      omega

/-- Keys parted by points, with blanks around each. -/
def readPath? (text : List Char) : Option (List String × List Char) :=
  match _ : readKey? (skipBlanks text) with
  | none => none
  | some (key, afterKey) =>
      match _ : skipBlanks afterKey with
      | '.' :: rest =>
          (readPath? rest).map fun (keys, last) => (String.ofList key :: keys, last)
      | last => some ([String.ofList key], last)
termination_by text.length
decreasing_by
  rename_i keyRead shape
  have := readKey?_shorter keyRead
  have := skipBlanks_length_le text
  have := skipBlanks_length_le afterKey
  simp only [shape, List.length_cons] at *
  omega

/-- Keys take at least one character. -/
theorem readPath?_shorter {text rest : List Char} {path : List String}
    (read : readPath? text = some (path, rest)) : rest.length < text.length := by
  fun_induction readPath? text generalizing path rest with
  | case1 => simp at read
  | case2 text key afterKey keyRead tail shape inductionHypothesis =>
      simp only [Option.map_eq_some_iff, Prod.mk.injEq] at read
      obtain ⟨⟨keys, last⟩, inside, -, rfl⟩ := read
      have := inductionHypothesis inside
      have := readKey?_shorter keyRead
      have := skipBlanks_length_le text
      have := skipBlanks_length_le afterKey
      simp only [shape, List.length_cons] at *
      omega
  | case3 text key afterKey keyRead last =>
      simp only [Option.some.injEq, Prod.mk.injEq] at read
      have := readKey?_shorter keyRead
      have := skipBlanks_length_le text
      have := skipBlanks_length_le afterKey
      simp only [← read.2]
      omega

end SpreadFlow.Toml
