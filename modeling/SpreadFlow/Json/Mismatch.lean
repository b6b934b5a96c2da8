/-
Module: SpreadFlow.Json.Mismatch
Purpose: Why a JSON text is refused.
Main exports: Json.Found, Json.Expected, Json.Mismatch, Json.Mismatch.message, Json.Fault
-/
import SpreadFlow.Json.Token
import SpreadFlow.Text.Choices
import SpreadFlow.Text.Literal

namespace SpreadFlow.Json

/-!
A text that breaks the grammar is malformed, and nothing more is said about it.  A text that is
well formed as far as it was read, but does not fit the type, is a mismatch, which says what was
found and what was expected.
-/

/-- What a value turned out to be.  A list or record is judged by its opening bracket. -/
inductive Found where
  | null
  | boolean (value : Bool)
  | number (value : Number)
  | text (value : String)
  | list
  | record
deriving Repr, DecidableEq

/-- What a type asked for. -/
inductive Expected where
  | record (name : String)
  | unit
  | list
  | int32
  | text
  /-- One of the names of a type. -/
  | variant
deriving Repr, DecidableEq

/-- How a well-formed text fails to fit a type. -/
inductive Mismatch where
  | type (found : Found) (expected : Expected)
  | range (found : Int) (expected : Expected)
  | unknownField (name : String) (known : List String)
  | duplicateField (name : String)
  | unknownVariant (name : String) (known : List String)
deriving Repr, DecidableEq

/-- Why a text is refused: it breaks the grammar, or it does not fit the type. -/
inductive Fault where
  | malformed
  | mismatch (mismatch : Mismatch)
deriving Repr, DecidableEq

/-- The value that begins with a token, as a mismatch names it. -/
def Token.found? : Token → Option Found
  | .null => some .null
  | .boolean value => some (.boolean value)
  | .number value => some (.number value)
  | .text value => some (.text value)
  | .openList => some .list
  | .openRecord => some .record
  | .closeList | .closeRecord | .comma | .colon | .malformed => none

/-- An integer as a message names it. -/
def integerPhrase (value : Int) : String :=
  "integer " ++ Choices.quoted (String.ofList (Decimal.integer value))

/-- The phrase for what was found. -/
def Found.phrase : Found → String
  | .null => "null"
  | .boolean value => "boolean " ++ Choices.quoted (if value then "true" else "false")
  | .number (.integer value) => integerPhrase value
  | .number (.float value) => "floating point " ++ Choices.quoted (String.ofList (floatText value))
  | .text value => "string " ++ Literal.quote value
  | .list => "sequence"
  | .record => "map"

/-- The phrase for what was expected. -/
def Expected.phrase : Expected → String
  | .record name => "struct " ++ name
  | .unit => "unit"
  | .list => "a sequence"
  | .int32 => "i32"
  | .text => "a string"
  | .variant => "variant identifier"

/-- The report of a mismatch. -/
def Mismatch.message : Mismatch → String
  | .type found expected => "invalid type: " ++ found.phrase ++ ", expected " ++ expected.phrase
  | .range found expected =>
      "invalid value: " ++ integerPhrase found ++ ", expected " ++ expected.phrase
  | .unknownField name known =>
      "unknown field " ++ Choices.quoted name ++ ", expected " ++ Choices.phrase known
  | .duplicateField name => "duplicate field " ++ Choices.quoted name
  | .unknownVariant name known =>
      "unknown variant " ++ Choices.quoted name ++ ", expected " ++ Choices.phrase known

end SpreadFlow.Json
