/-
Module: SpreadFlow.Yaml.Scalar
Purpose: YAML scalars: quoted, plain and in blocks.
Main exports: Yaml.Scalar, Yaml.doubleQuoted, Yaml.readSingleQuoted?, Yaml.takeWord,
  Yaml.readScalar?
-/
import SpreadFlow.Text.Hex
import SpreadFlow.Text.Quotation
import SpreadFlow.Yaml.Layout

namespace SpreadFlow.Yaml

/-!
A configuration's keys and values are names, single words without blanks.  A scalar on several lines
has a blank or a line break where its lines meet, so it is no name and is refused.  There are two
exceptions: a line break that is escaped between double quotes stands for nothing, and the break at
the end of a block can be stripped off.
-/

/-- A scalar: its text, and whether it is plain, that is without quotes and not in a block. -/
structure Scalar where
  text : List Char
  plain : Bool
deriving Repr, DecidableEq

/-! ### Quoted scalars -/

/-- The character of an escape in double quotes, read from after its backslash. -/
def readEscape? : List Char → Option (Char × List Char)
  | '0' :: rest => some ('\x00', rest)
  | 'a' :: rest => some ('\x07', rest)
  | 'b' :: rest => some ('\x08', rest)
  | 't' :: rest => some ('\t', rest)
  | '\t' :: rest => some ('\t', rest)
  | 'n' :: rest => some ('\n', rest)
  | 'v' :: rest => some ('\x0b', rest)
  | 'f' :: rest => some ('\x0c', rest)
  | 'r' :: rest => some ('\r', rest)
  | 'e' :: rest => some ('\x1b', rest)
  | ' ' :: rest => some (' ', rest)
  | '"' :: rest => some ('"', rest)
  | '/' :: rest => some ('/', rest)
  | '\\' :: rest => some ('\\', rest)
  | 'N' :: rest => some ('\u0085', rest)
  | '_' :: rest => some ('\u00A0', rest)
  | 'L' :: rest => some ('\u2028', rest)
  | 'P' :: rest => some ('\u2029', rest)
  | 'x' :: rest => Hex.readCharacter? 2 rest
  | 'u' :: rest => Hex.readCharacter? 4 rest
  | 'U' :: rest => Hex.readCharacter? 8 rest
  | _ => none

/-- An escape takes at least one character. -/
theorem readEscape?_shorter {text rest : List Char} {character : Char}
    (read : readEscape? text = some (character, rest)) : rest.length < text.length := by
  unfold readEscape? at read
  split at read
  case h_19 | h_20 | h_21 => exact Nat.lt_succ_of_le (Hex.readCharacter?_length_le read)
  case h_22 => simp at read
  all_goals
    simp only [Option.some.injEq, Prod.mk.injEq] at read
    simp [read.2]

/-- What an escape stands for, read from after its backslash.  An escaped line break stands for
nothing, nor do the blanks after it. -/
def readMeaning? (joins : Bool) : List Char → Option (List Char × List Char)
  | '\n' :: rest => if joins then some ([], rest.dropWhile isBlank) else none
  | text => (readEscape? text).map fun (character, rest) => ([character], rest)

/-- Scalars between double quotes.  Where `joins` is set they may go on after an escaped line
break. -/
def doubleQuoted (joins : Bool) : Quotation where
  allows character := character ≠ '\n'
  escape? := readMeaning? joins
  escape?_shorter := by
    intro text rest meaning read
    unfold readMeaning? at read
    split at read
    · split at read
      · simp only [Option.some.injEq, Prod.mk.injEq] at read
        exact read.2 ▸ Nat.lt_succ_of_le (List.dropWhile_sublist isBlank).length_le
      · simp at read
    · simp only [Option.map_eq_some_iff, Prod.mk.injEq] at read
      obtain ⟨⟨character, last⟩, inner, -, rfl⟩ := read
      exact readEscape?_shorter inner

/-- A scalar between single quotes, read from after the opening one.  A quote in it is written
twice. -/
def readSingleQuoted? : List Char → Option (List Char × List Char)
  | '\'' :: '\'' :: rest =>
      (readSingleQuoted? rest).map fun (characters, last) => ('\'' :: characters, last)
  | '\'' :: rest => some ([], rest)
  | character :: rest =>
      if character = '\n' then none
      else (readSingleQuoted? rest).map fun (characters, last) => (character :: characters, last)
  | [] => none

theorem readSingleQuoted?_length_le {text rest characters : List Char}
    (read : readSingleQuoted? text = some (characters, rest)) : rest.length ≤ text.length := by
  fun_induction readSingleQuoted? text generalizing characters rest with
  | case1 tail inductionHypothesis =>
      simp only [Option.map_eq_some_iff, Prod.mk.injEq] at read
      obtain ⟨⟨inner, last⟩, inside, -, rfl⟩ := read
      have := inductionHypothesis inside
      simp only [List.length_cons]
      omega
  | case2 tail =>
      simp only [Option.some.injEq, Prod.mk.injEq] at read
      simp [← read.2]
  | case3 => simp at read
  | case4 character tail _ _ _ inductionHypothesis =>
      simp only [Option.map_eq_some_iff, Prod.mk.injEq] at read
      obtain ⟨⟨inner, last⟩, inside, -, rfl⟩ := read
      exact Nat.le_succ_of_le (inductionHypothesis inside)
  | case5 => simp at read

/-! ### Plain scalars -/

/-- The marks that open and close collections in flow form, and part their items. -/
def isFlowMark (character : Char) : Bool :=
  character ∈ [',', '[', ']', '\x7b', '\x7d']

/-- Whether a plain scalar may begin here.  Those that begin with a dash, a question mark or a colon
are no names and are left out. -/
def beginsWord : List Char → Bool
  | [] => false
  | character :: _ => !isBlank character && character ∉ "\n-?:,[]\x7b\x7d#&*!|>'\"%@`".toList

/-- The first word of a plain scalar, with what follows it.  A colon ends the word only where a
blank or a line break parts it from what follows. -/
def takeWord (flow : Bool) : List Char → List Char × List Char
  | [] => ([], [])
  | character :: rest =>
      if isParted (character :: rest) || (character = ':' && isParted rest)
          || (flow && isFlowMark character) then
        ([], character :: rest)
      else
        let (characters, last) := takeWord flow rest
        (character :: characters, last)

theorem takeWord_length_le (flow : Bool) (text : List Char) :
    (takeWord flow text).2.length ≤ text.length := by
  induction text with
  | nil => simp [takeWord]
  | cons character rest inductionHypothesis =>
      unfold takeWord
      split
      · exact Nat.le_refl _
      · exact Nat.le_succ_of_le inductionHypothesis

/-- The place after the blanks and line breaks that follow a plain scalar.  The indentation of the
next line must be of spaces as far as the scalar could go on there. -/
def afterWord? (indent : Nat) (column : Option Nat) : List Char → Option Place
  | [] => some ⟨column, column.isNone, []⟩
  | character :: rest =>
      if character = '\n' then afterWord? indent (some 0) rest
      else if character = ' ' then afterWord? indent (column.map (· + 1)) rest
      else if character = '\t' then
        if column.any (· < indent) then none
        else afterWord? indent (column.map (· + 1)) rest
      else some ⟨column, column.isNone, character :: rest⟩

theorem afterWord?_length_le {indent : Nat} {column : Option Nat} {text : List Char}
    {place : Place} (after : afterWord? indent column text = some place) :
    place.rest.length ≤ text.length := by
  fun_induction afterWord? indent column text with
  | case1 | case6 =>
      simp only [Option.some.injEq] at after
      simp [← after]
  | case2 | case3 | case5 =>
      rename_i inductionHypothesis
      exact Nat.le_succ_of_le (inductionHypothesis after)
  | case4 => simp at after

/-- Whether a plain scalar of one word ends before a place, to which only blanks and line breaks
lead from it: it could not go on there. -/
def endsWord (context : Context) (place : Place) : Bool :=
  match place.rest with
  | [] => true
  | character :: rest =>
      place.column.any (· < context.indent) || character = '#'
        || (character = ':' && isParted rest) || (context = .flow && isFlowMark character)

/-- A plain scalar of one word, with the place of what follows. -/
def readWord? (context : Context) (text : List Char) : Option (Scalar × Place) := do
  let (word, rest) := takeWord (context = .flow) text
  let place ← afterWord? context.indent none rest
  if endsWord context place then
    some (⟨word, true⟩, { place with tabs := place.tabs || context = .flow })
  else none

theorem readWord?_length_le {context : Context} {text : List Char} {scalar : Scalar}
    {last : Place} (read : readWord? context text = some (scalar, last)) :
    last.rest.length ≤ text.length := by
  simp only [readWord?, Option.bind_eq_bind, Option.bind_eq_some_iff,
    Option.ite_none_right_eq_some, Option.some.injEq, Prod.mk.injEq] at read
  obtain ⟨place, after, -, -, rfl⟩ := read
  have ended := afterWord?_length_le after
  exact Nat.le_trans ended (takeWord_length_le _ text)

/-! ### Blocks -/

/-- How a block is written, said by the marks after its opening one. -/
structure BlockHeader where
  /-- Whether the line breaks at the end are left out. -/
  strips : Bool
  /-- How far the text is indented, if that is not to be seen from its first line. -/
  width : Option Nat
deriving Repr, DecidableEq

/-- A digit that tells an indentation, if there is one.  Zero tells none. -/
def readWidth : List Char → Option Nat × List Char
  | [] => (none, [])
  | character :: rest =>
      if '1' ≤ character && character ≤ '9' then (some (character.toNat - '0'.toNat), rest)
      else (none, character :: rest)

theorem readWidth_length_le (text : List Char) : (readWidth text).2.length ≤ text.length := by
  unfold readWidth
  split
  · exact Nat.le_refl _
  · split
    · exact Nat.le_succ _
    · exact Nat.le_refl _

/-- The marks of a header: one for the line breaks at the end and a digit, in either order. -/
def readHeader : List Char → BlockHeader × List Char
  | '-' :: rest =>
      let (width, last) := readWidth rest
      (⟨true, width⟩, last)
  | '+' :: rest =>
      let (width, last) := readWidth rest
      (⟨false, width⟩, last)
  | text =>
      match readWidth text with
      | (some width, '-' :: last) => (⟨true, some width⟩, last)
      | (some width, '+' :: last) => (⟨false, some width⟩, last)
      | (width, last) => (⟨false, width⟩, last)

theorem readHeader_length_le (text : List Char) : (readHeader text).2.length ≤ text.length := by
  have width := readWidth_length_le text
  unfold readHeader
  split
  · exact Nat.le_succ_of_le (readWidth_length_le _)
  · exact Nat.le_succ_of_le (readWidth_length_le _)
  · split
    · rename_i shape
      rw [shape] at width
      exact Nat.le_of_succ_le width
    · rename_i shape
      rw [shape] at width
      exact Nat.le_of_succ_le width
    · rename_i shape
      rw [shape] at width
      exact width

/-- The place after the empty lines that follow a block.  If a line is indented like the block and
not empty, the block has more text than a name. -/
def afterBlock? (indent column : Nat) : List Char → Option Place
  | [] => some ⟨some column, false, []⟩
  | character :: rest =>
      if character = '\n' then afterBlock? indent 0 rest
      else if indent ≤ column || character = '\t' then none
      else if character = ' ' then afterBlock? indent (column + 1) rest
      else some ⟨some column, false, character :: rest⟩

theorem afterBlock?_length_le {indent column : Nat} {text : List Char} {place : Place}
    (after : afterBlock? indent column text = some place) : place.rest.length ≤ text.length := by
  fun_induction afterBlock? indent column text with
  | case1 | case5 =>
      simp only [Option.some.injEq] at after
      simp [← after]
  | case2 | case4 =>
      rename_i inductionHypothesis
      exact Nat.le_succ_of_le (inductionHypothesis after)
  | case3 => simp at after

/-- The text of a block in a record that begins in the column `parent`, read from after the opening
mark.  It must be a single line, and the break after that, if there is one, stripped off. -/
def readBlock? (parent : Nat) (text : List Char) : Option (Scalar × Place) := do
  let (header, afterMarks) := readHeader text
  let lines ← afterLine? afterMarks
  let spaces := (lines.takeWhile (· = ' ')).length
  let indent := match header.width with
    | some width => parent + width
    | none => max spaces (parent + 1)
  if indent ≤ spaces then
    let line := (lines.drop indent).takeWhile (· ≠ '\n')
    match (lines.drop indent).dropWhile (· ≠ '\n') with
    | [] => some (⟨line, false⟩, .after [])
    | _ :: rest =>
        if header.strips then
          let place ← afterBlock? indent 0 rest
          some (⟨line, false⟩, place)
        else none
  else none

theorem readBlock?_length_le {parent : Nat} {text : List Char} {scalar : Scalar} {last : Place}
    (read : readBlock? parent text = some (scalar, last)) : last.rest.length ≤ text.length := by
  simp only [readBlock?, Option.bind_eq_bind, Option.bind_eq_some_iff,
    Option.ite_none_right_eq_some] at read
  obtain ⟨lines, ended, -, read⟩ := read
  have := readHeader_length_le text
  have := afterLine?_length_le ended
  split at read
  · simp only [Option.some.injEq, Prod.mk.injEq] at read
    simp [← read.2, Place.after]
  · rename_i feed rest shape
    simp only [Option.ite_none_right_eq_some, Option.bind_eq_some_iff, Option.some.injEq,
      Prod.mk.injEq] at read
    obtain ⟨-, place, after, -, rfl⟩ := read
    have dropped : (feed :: rest).length ≤ lines.length := by
      rw [← shape]
      exact ((List.dropWhile_sublist _).trans (List.drop_sublist _ _)).length_le
    have := afterBlock?_length_le after
    rw [List.length_cons] at dropped
    omega

/-! ### All scalars -/

/-- Whether a scalar or a property may stand in a column.  In a block it belongs to the key or colon
before it only if it is indented deeper than the record. -/
def Context.admits : Context → Option Nat → Bool
  | .flow, _ => true
  | .block parent, column => column.all (parent < ·)

/-- A scalar that is no block, with the place of what follows it. -/
def readInline? (context : Context) : List Char → Option (Scalar × Place)
  | '"' :: rest =>
      ((doubleQuoted true).read? rest).map fun (characters, last) =>
        (⟨characters, false⟩, .after last)
  | '\'' :: rest =>
      (readSingleQuoted? rest).map fun (characters, last) => (⟨characters, false⟩, .after last)
  | text => if beginsWord text then readWord? context text else none

theorem readInline?_length_le {context : Context} {text : List Char} {scalar : Scalar}
    {last : Place} (read : readInline? context text = some (scalar, last)) :
    last.rest.length ≤ text.length := by
  unfold readInline? at read
  split at read
  · simp only [Option.map_eq_some_iff, Prod.mk.injEq] at read
    obtain ⟨⟨characters, rest⟩, inner, -, rfl⟩ := read
    exact Nat.le_succ_of_le (Nat.le_of_lt (Quotation.read?_shorter inner))
  · simp only [Option.map_eq_some_iff, Prod.mk.injEq] at read
    obtain ⟨⟨characters, rest⟩, inner, -, rfl⟩ := read
    exact Nat.le_succ_of_le (readSingleQuoted?_length_le inner)
  · exact readWord?_length_le (Option.ite_none_right_eq_some.mp read).2

/-- A scalar, with the place of what follows it.  The opening mark of a block may also stand in the
column of the record itself. -/
def readScalar? (context : Context) (place : Place) : Option (Scalar × Place) :=
  match context, place.rest with
  | .block parent, '|' :: rest | .block parent, '>' :: rest =>
      if place.column.all (parent ≤ ·) then readBlock? parent rest else none
  | _, text => if context.admits place.column then readInline? context text else none

theorem readScalar?_length_le {context : Context} {place last : Place} {scalar : Scalar}
    (read : readScalar? context place = some (scalar, last)) :
    last.rest.length ≤ place.rest.length := by
  unfold readScalar? at read
  split at read
  · rename_i shape
    have := readBlock?_length_le (Option.ite_none_right_eq_some.mp read).2
    simp only [shape, List.length_cons]
    omega
  · rename_i shape
    have := readBlock?_length_le (Option.ite_none_right_eq_some.mp read).2
    simp only [shape, List.length_cons]
    omega
  · exact readInline?_length_le (Option.ite_none_right_eq_some.mp read).2

end SpreadFlow.Yaml
