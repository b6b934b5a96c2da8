/-
Module: SpreadFlow.Text.Choices
Purpose: The names that were allowed, as a message lists them.
Main exports: Choices.phrase
-/

namespace SpreadFlow.Choices

/-- A name between backquotes. -/
def quoted (name : String) : String :=
  "`" ++ name ++ "`"

/-- The phrase for the allowed names: one, one or the other, or one of several. -/
def phrase : List String → String
  | [] => "nothing"
  | [only] => quoted only
  | [one, other] => quoted one ++ " or " ++ quoted other
  | several => "one of " ++ String.intercalate ", " (several.map quoted)

end SpreadFlow.Choices
