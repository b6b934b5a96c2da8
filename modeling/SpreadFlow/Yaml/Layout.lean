/-
Module: SpreadFlow.Yaml.Layout
Purpose: Characters, lines and columns of YAML texts, and what may stand between two parts.
Main exports: Yaml.unifyBreaks, Yaml.afterLine?, Yaml.Context, Yaml.Place, Yaml.Place.next,
  Yaml.Place.isMarker
-/

namespace SpreadFlow.Yaml

/-!
In block form the column in which a line begins tells what the line belongs to.  In flow form, that
is between brackets, columns mean nothing.  A place knows its column only as long as nothing but
indentation stands before it on the line, since no rule asks for any other column.
-/

/-! ### Characters -/

/-- The character that may stand before a line.  It means nothing there but takes a column. -/
def byteOrderMark : Char := '\uFEFF'

/-- The characters that a text may hold at all. -/
def isPrintable (character : Char) : Bool :=
  character = '\t' || character = '\n' || character = '\r'
    || (' ' ≤ character && character ≤ '~') || character = '\u0085'
    || ('\u00A0' ≤ character && character ≠ '\uFFFE' && character ≠ '\uFFFF')

/-- The characters that end a line on their own. -/
def isBreak (character : Char) : Bool :=
  character = '\n' || character = '\r' || character = '\u0085' || character = '\u2028'
    || character = '\u2029'

/-- The text with every line break as a line feed. -/
def unifyBreaks : List Char → List Char
  | [] => []
  | '\r' :: '\n' :: rest => '\n' :: unifyBreaks rest
  | character :: rest => (if isBreak character then '\n' else character) :: unifyBreaks rest

/-- The blanks inside a line. -/
def isBlank (character : Char) : Bool :=
  character = ' ' || character = '\t'

/-- Whether a text ends, or goes on with a blank or a line break. -/
def isParted : List Char → Bool
  | [] => true
  | character :: _ => isBlank character || character = '\n'

/-- What follows the end of a line.  Before it only blanks and a comment may stand. -/
def afterLine? (text : List Char) : Option (List Char) :=
  let content := text.dropWhile isBlank
  let ending := if content.head? = some '#' then content.dropWhile (· ≠ '\n') else content
  match ending with
  | [] => some []
  | '\n' :: rest => some rest
  | _ => none

theorem afterLine?_length_le {text rest : List Char} (read : afterLine? text = some rest) :
    rest.length ≤ text.length := by
  have blanks := (List.dropWhile_sublist isBlank (l := text)).length_le
  have comment := (List.dropWhile_sublist (· ≠ '\n') (l := text.dropWhile isBlank)).length_le
  simp only [afterLine?] at read
  split at read
  · simp only [Option.some.injEq] at read
    simp [← read]
  · rename_i ending
    simp only [Option.some.injEq] at read
    subst read
    split at ending
    · rw [ending, List.length_cons] at comment
      omega
    · rw [ending, List.length_cons] at blanks
      omega
  · simp at read

/-! ### Places -/

/-- Where a part of a document stands: between brackets, or in the block of a record that begins in
the column `parent`. -/
inductive Context where
  | flow
  | block (parent : Nat)
deriving Repr, DecidableEq

/-- The least column of the lines that continue a part. -/
def Context.indent : Context → Nat
  | .flow => 0
  | .block parent => parent + 1

/-- A place in a text. -/
structure Place where
  /-- The column, if nothing but indentation stands before on the line. -/
  column : Option Nat
  /-- Whether tabs are blanks here.  They are none in an indentation. -/
  tabs : Bool
  rest : List Char
deriving Repr, DecidableEq

namespace Place

/-- The place after something on the same line. -/
def after (rest : List Char) : Place :=
  ⟨none, true, rest⟩

/-- The first place after blanks, line breaks and comments.  A comment ends with its line.  Only in
flow form are tabs blanks at the start of a line. -/
def skip (flow inComment tabs : Bool) (column : Option Nat) : List Char → Place
  | [] => ⟨column, tabs, []⟩
  | character :: rest =>
      if character = '\n' then skip flow false flow (some 0) rest
      else if inComment then skip flow true tabs column rest
      else if character = ' ' || (character = '\t' && tabs) then
        skip flow false tabs (column.map (· + 1)) rest
      else if character = byteOrderMark && column = some 0 then skip flow false tabs (some 1) rest
      else if character = '#' then skip flow true tabs column rest
      else ⟨column, tabs, character :: rest⟩

/-- The place of what comes next. -/
def next (flow : Bool) (place : Place) : Place :=
  skip flow false place.tabs place.column place.rest

/-- Whether a marker of three equal characters stands here.  It must be the first of its line. -/
def isMarker (mark : Char) (place : Place) : Bool :=
  place.column = some 0 && place.rest.take 3 = [mark, mark, mark] && isParted (place.rest.drop 3)

theorem skip_length_le (flow inComment tabs : Bool) (column : Option Nat) (text : List Char) :
    (skip flow inComment tabs column text).rest.length ≤ text.length := by
  induction text generalizing inComment tabs column with
  | nil => simp [skip]
  | cons character rest inductionHypothesis =>
      unfold skip
      repeat' split
      all_goals first
        | exact Nat.le_succ_of_le (inductionHypothesis _ _ _)
        | exact Nat.le_refl _

/-- Going to the next place leaves no more than there was. -/
theorem next_length_le (flow : Bool) (place : Place) :
    (place.next flow).rest.length ≤ place.rest.length :=
  skip_length_le ..

end Place

end SpreadFlow.Yaml
