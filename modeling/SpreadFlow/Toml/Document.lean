/-
Module: SpreadFlow.Toml.Document
Purpose: TOML documents whose values are names, as the statements they consist of.
Main exports: Toml.Value, Toml.Statement, Toml.statements?, Toml.settings?
-/
import SpreadFlow.Toml.Text

namespace SpreadFlow.Toml

/-!
A configuration gives names to keys.  A name is written as a string, or as the only key of a table
with nothing under it, where nothing is an empty table or an empty array.  Such a table may be
written inline, in the dotted form or under a header.  No configuration has a use for other values,
so they are refused.
-/

/-- What may stand for a key. -/
inductive Value where
  | text (value : String)
  /-- An empty table or an empty array. -/
  | void
  /-- An inline table with one key and nothing under it. -/
  | table (key : String)
deriving Repr, DecidableEq

/-- A line with more than blanks and a comment: an entry, or the header of a table. -/
inductive Statement where
  | entry (path : List String) (value : Value)
  | header (path : List String)
deriving Repr, DecidableEq

/-! ### Reading -/

/-- What follows an empty table or array.  Only the array may go over several lines. -/
def afterVoid? : List Char → Option (List Char)
  | '{' :: inside =>
      match skipBlanks inside with
      | '}' :: rest => some rest
      | _ => none
  | '[' :: inside =>
      match skipGap false inside with
      | ']' :: rest => some rest
      | _ => none
  | _ => none

/-- The key of an inline table with nothing under its only key. -/
def readTable? : List Char → Option (String × List Char)
  | '{' :: inside =>
      match readPath? inside with
      | some ([key], '=' :: afterSign) => do
          let afterValue ← afterVoid? (skipBlanks afterSign)
          match skipBlanks afterValue with
          | '}' :: rest => some (key, rest)
          | _ => none
      | _ => none
  | _ => none

/-- A value, with what follows it. -/
def readValue? (text : List Char) : Option (Value × List Char) :=
  match readString? text, afterVoid? text with
  | some (characters, rest), _ => some (.text (String.ofList characters), rest)
  | none, some rest => some (.void, rest)
  | none, none => (readTable? text).map fun (key, rest) => (.table key, rest)

/-- A statement and what follows its line. -/
def readStatement? : List Char → Option (Statement × List Char)
  | '[' :: inside =>
      match readPath? inside with
      | some (path, ']' :: afterHeader) => (afterLine? afterHeader).map (.header path, ·)
      | _ => none
  | text =>
      match readPath? text with
      | some (path, '=' :: afterSign) => do
          let (value, afterValue) ← readValue? (skipBlanks afterSign)
          (afterLine? afterValue).map (.entry path value, ·)
      | _ => none

theorem afterVoid?_shorter {text rest : List Char} (read : afterVoid? text = some rest) :
    rest.length < text.length := by
  unfold afterVoid? at read
  split at read
  · rename_i inside
    split at read
    · rename_i shape
      have := skipBlanks_length_le inside
      simp only [Option.some.injEq] at read
      simp only [shape, List.length_cons, read] at *
      omega
    · simp at read
  · rename_i inside
    split at read
    · rename_i shape
      have := skipGap_length_le false inside
      simp only [Option.some.injEq] at read
      simp only [shape, List.length_cons, read] at *
      omega
    · simp at read
  · simp at read

theorem readTable?_shorter {text rest : List Char} {key : String}
    (read : readTable? text = some (key, rest)) : rest.length < text.length := by
  unfold readTable? at read
  split at read
  · rename_i inside
    split at read
    · rename_i afterSign pathRead
      simp only [Option.bind_eq_bind, Option.bind_eq_some_iff] at read
      obtain ⟨afterValue, voidRead, read⟩ := read
      split at read
      · rename_i shape
        have := readPath?_shorter pathRead
        have := afterVoid?_shorter voidRead
        have := skipBlanks_length_le afterSign
        have := skipBlanks_length_le afterValue
        simp only [Option.some.injEq, Prod.mk.injEq] at read
        simp only [shape, List.length_cons, read.2] at *
        omega
      · simp at read
    · simp at read
  · simp at read

/-- A value takes at least one character. -/
theorem readValue?_shorter {text rest : List Char} {value : Value}
    (read : readValue? text = some (value, rest)) : rest.length < text.length := by
  unfold readValue? at read
  split at read
  · rename_i inner
    simp only [Option.some.injEq, Prod.mk.injEq] at read
    exact read.2 ▸ readString?_shorter inner
  · rename_i inner
    simp only [Option.some.injEq, Prod.mk.injEq] at read
    exact read.2 ▸ afterVoid?_shorter inner
  · simp only [Option.map_eq_some_iff, Prod.mk.injEq] at read
    obtain ⟨⟨key, last⟩, inner, -, rfl⟩ := read
    exact readTable?_shorter inner

/-- A statement takes at least one character. -/
theorem readStatement?_shorter {text rest : List Char} {statement : Statement}
    (read : readStatement? text = some (statement, rest)) : rest.length < text.length := by
  unfold readStatement? at read
  split at read
  · split at read
    · rename_i pathRead
      simp only [Option.map_eq_some_iff, Prod.mk.injEq] at read
      obtain ⟨last, lineRead, -, rfl⟩ := read
      have := readPath?_shorter pathRead
      have := afterLine?_length_le lineRead
      simp only [List.length_cons] at *
      omega
    · simp at read
  · split at read
    · rename_i afterSign pathRead
      simp only [Option.bind_eq_bind, Option.bind_eq_some_iff] at read
      obtain ⟨⟨value, afterValue⟩, valueRead, read⟩ := read
      simp only [Option.map_eq_some_iff, Prod.mk.injEq] at read
      obtain ⟨last, lineRead, -, rfl⟩ := read
      have := readPath?_shorter pathRead
      have := readValue?_shorter valueRead
      have := skipBlanks_length_le afterSign
      have := afterLine?_length_le lineRead
      simp only [List.length_cons] at *
      omega
    · simp at read

/-- The statements of a document, in order. -/
def readStatements? (text : List Char) : Option (List Statement) :=
  match _ : skipGap false text with
  | [] => some []
  | character :: rest =>
      match _ : readStatement? (character :: rest) with
      | none => none
      | some (statement, last) => (readStatements? last).map (statement :: ·)
termination_by text.length
decreasing_by
  rename_i shape read
  have := readStatement?_shorter read
  have := congrArg List.length shape
  have := skipGap_length_le false text
  omega

/-- The text without a byte-order mark at its start. -/
def dropMark : List Char → List Char
  | '\uFEFF' :: rest => rest
  | text => text

/-- The statements that a text consists of. -/
def statements? (text : List Char) : Option (List Statement) :=
  readStatements? (unifyBreaks (dropMark text))

/-! ### Meaning -/

/-- The keys of tables under headers, each with the one name that has nothing under it.  The name
may be an entry or have a header of its own, which stands before or after that of the table or does
without it.  A table with something else in it gives no name. -/
def tableSettings? : List Statement → Option (List (String × String))
  | [] => some []
  | .header [key] :: .entry [name] .void :: rest => (tableSettings? rest).map ((key, name) :: ·)
  | .header [key] :: .header [again, name] :: rest =>
      if again = key then (tableSettings? rest).map ((key, name) :: ·) else none
  | .header [key, name] :: .header [again] :: rest =>
      if again = key then (tableSettings? rest).map ((key, name) :: ·)
      else (tableSettings? (.header [again] :: rest)).map ((key, name) :: ·)
  | .header [key, name] :: rest => (tableSettings? rest).map ((key, name) :: ·)
  | _ => none

/-- The keys that statements give names to, in order, with the names.  Entries belong to the
document itself up to the first header, and from there on to the table of the header before them.  A
key to which a second name is given is there once more. -/
def settings? : List Statement → Option (List (String × String))
  | .entry [key] (.text name) :: rest => (settings? rest).map ((key, name) :: ·)
  | .entry [key] (.table name) :: rest => (settings? rest).map ((key, name) :: ·)
  | .entry [key, name] .void :: rest => (settings? rest).map ((key, name) :: ·)
  | statements => tableSettings? statements

end SpreadFlow.Toml
