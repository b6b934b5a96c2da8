/-
Module: SpreadFlow.Json.Token
Purpose: JSON texts as sequences of tokens.
Main exports: Json.Token, Json.nextToken?, Json.tokens, Json.Token.spelling, Json.compact
-/
import SpreadFlow.Json.Number
import SpreadFlow.Json.Quoted

namespace SpreadFlow.Json

/-!
A text is cut into tokens from left to right, blanks between them left out.  Where no token begins
or one is broken off, the sequence ends with `malformed`.  No value begins with that token and no
value holds it, so a reader that goes through the tokens in order meets the first fault of the
text first, whether the fault is in the spelling or in the meaning.
-/

/-- The words and marks of the format. -/
inductive Token where
  | openList
  | closeList
  | openRecord
  | closeRecord
  | comma
  | colon
  | null
  | boolean (value : Bool)
  | number (value : Number)
  | text (value : String)
  /-- The rest of the text begins with no token. -/
  | malformed
deriving Repr, DecidableEq

/-- The blanks allowed around tokens: space, tab, line feed, carriage return. -/
def isBlank (character : Char) : Bool :=
  character = ' ' || character = '\t' || character = '\n' || character = '\r'

/-- What follows a word that the text must begin with. -/
def afterWord? : List Char → List Char → Option (List Char)
  | [], text => some text
  | _ :: _, [] => none
  | expected :: word, character :: text =>
      if character = expected then afterWord? word text else none

/-- The token that a text begins with, and what follows it. -/
def nextToken? : List Char → Option (Token × List Char)
  | [] => none
  | '[' :: rest => some (.openList, rest)
  | ']' :: rest => some (.closeList, rest)
  | '{' :: rest => some (.openRecord, rest)
  | '}' :: rest => some (.closeRecord, rest)
  | ',' :: rest => some (.comma, rest)
  | ':' :: rest => some (.colon, rest)
  | 'n' :: rest => (afterWord? ['u', 'l', 'l'] rest).map (.null, ·)
  | 't' :: rest => (afterWord? ['r', 'u', 'e'] rest).map (.boolean true, ·)
  | 'f' :: rest => (afterWord? ['a', 'l', 's', 'e'] rest).map (.boolean false, ·)
  | '"' :: rest =>
      (quotation.read? rest).map fun (characters, after) =>
        (.text (String.ofList characters), after)
  | character :: rest =>
      (readNumber? (character :: rest)).map fun (number, after) => (.number number, after)

theorem afterWord?_length_le {word text rest : List Char}
    (read : afterWord? word text = some rest) : rest.length ≤ text.length := by
  fun_induction afterWord? word text with
  | case1 => simp_all
  | case2 => simp at read
  | case3 _ _ _ inductionHypothesis => exact Nat.le_succ_of_le (inductionHypothesis read)
  | case4 => simp at read

/-- A token takes at least one character. -/
theorem nextToken?_shorter {text rest : List Char} {token : Token}
    (read : nextToken? text = some (token, rest)) : rest.length < text.length := by
  unfold nextToken? at read
  split at read
  case h_1 => simp at read
  case h_12 =>
    simp only [Option.map_eq_some_iff, Prod.mk.injEq] at read
    obtain ⟨⟨number, after⟩, numberRead, -, rfl⟩ := read
    exact readNumber?_shorter numberRead
  case h_11 =>
    simp only [Option.map_eq_some_iff, Prod.mk.injEq] at read
    obtain ⟨⟨characters, after⟩, quotedRead, -, rfl⟩ := read
    exact Nat.lt_succ_of_lt (Quotation.read?_shorter quotedRead)
  case h_8 | h_9 | h_10 =>
    simp only [Option.map_eq_some_iff, Prod.mk.injEq] at read
    obtain ⟨after, wordRead, -, rfl⟩ := read
    exact Nat.lt_succ_of_le (afterWord?_length_le wordRead)
  all_goals
    simp only [Option.some.injEq, Prod.mk.injEq] at read
    simp [← read.2]

/-- The tokens of a text, up to the first fault in their spelling. -/
def tokens (text : List Char) : List Token :=
  match _ : text.dropWhile isBlank with
  | [] => []
  | character :: rest =>
      match _ : nextToken? (character :: rest) with
      | none => [.malformed]
      | some (token, after) => token :: tokens after
termination_by text.length
decreasing_by
  rename_i shape next
  have shorter := nextToken?_shorter next
  have := congrArg List.length shape
  have := (List.dropWhile_sublist isBlank (l := text)).length_le
  omega

/-- The compact spelling of a token.  A token that is no part of a written text has none. -/
def Token.spelling : Token → List Char
  | .openList => ['[']
  | .closeList => [']']
  | .openRecord => ['\x7b']
  | .closeRecord => ['\x7d']
  | .comma => [',']
  | .colon => [':']
  | .null => ['n', 'u', 'l', 'l']
  | .boolean true => ['t', 'r', 'u', 'e']
  | .boolean false => ['f', 'a', 'l', 's', 'e']
  | .number (.integer value) => Decimal.integer value
  | .number (.float value) => floatText value
  | .text value => '"' :: value.toList.flatMap writeCharacter ++ ['"']
  | .malformed => []

/-- The text of a sequence of tokens, without blanks. -/
def compact (sequence : List Token) : String :=
  String.ofList (sequence.flatMap Token.spelling)

end SpreadFlow.Json
