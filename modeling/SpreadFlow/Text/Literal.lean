/-
Module: SpreadFlow.Text.Literal
Purpose: Strings quoted for a message, so that every character can be seen.
Main exports: Literal.character, Literal.quote
-/
import SpreadFlow.Text.Hex
import SpreadFlow.Text.Invisible

namespace SpreadFlow.Literal

/-- The form of one character inside the quotes: an escape for the quote, the backslash and the
usual controls, the code point for any other character that cannot be seen. -/
def character (given : Char) : List Char :=
  if given = '"' then ['\\', '"']
  else if given = '\\' then ['\\', '\\']
  else if given = '\x00' then ['\\', '0']
  else if given = '\t' then ['\\', 't']
  else if given = '\n' then ['\\', 'n']
  else if given = '\r' then ['\\', 'r']
  else if isInvisible given then
    ['\\', 'u', '\x7b'] ++ Hex.write given.toNat ++ ['\x7d']
  else [given]

/-- A string between quotes. -/
def quote (text : String) : String :=
  String.ofList ('"' :: text.toList.flatMap character ++ ['"'])

end SpreadFlow.Literal
