/-
Module: SpreadFlow.Zip.Composed
Purpose: The zip node inside the common compositions.
Main exports: Zip.joined, Zip.withIndex, Zip.watched, Zip.reporting
-/
import SpreadFlow.Failure
import SpreadFlow.Zip.Basic

namespace SpreadFlow.Zip

/-- Joins the texts of each row with commas. -/
def joinRows {ω ε : Type} : Node ω ε Rows (Spread String) where
  evaluate rows := .ok (rows.map fun row => String.intercalate "," row.toList)

/-- One line of text for each row. -/
def joined (configuration : Configuration) : Node Event AbsentSlice Input (Spread String) :=
  (node configuration).andThen joinRows

/-- The rows together with the whole index of the input, also the part that has no partner. -/
def withIndex (configuration : Configuration) :
    Node Event AbsentSlice Input (Rows × Spread Int32) :=
  (node configuration).adapt id fun input rows => (rows, input.index)

/-- What an observer of the zip node notes. -/
inductive Note where
  | received (positions indices : Nat)
  | produced (rows : Nat)
deriving Repr, DecidableEq

def Note.text : Note → String
  | .received positions indices =>
      "in: " ++ toString positions ++ " positions, " ++ toString indices ++ " indices"
  | .produced rows => "out: " ++ toString rows ++ " slices"

/-- The zip node with an observer around it.  Log events and notes keep their common order. -/
def watched (configuration : Configuration) : Node (Event ⊕ Note) AbsentSlice Input Rows :=
  ((node configuration).mapTrace .inl).observe
    (fun input => [.inr (.received input.positions.count input.index.count)])
    (fun rows => [.inr (.produced rows.count)])

/-- The failure that an absent slice is to the host.  The type's name is cut to its short form. -/
def AbsentSlice.failure (error : AbsentSlice) : Failure :=
  .ofNode typeName (.plain error.message)

/-- The zip node with its errors lifted to the host's failures. -/
def reporting (configuration : Configuration) : Node Event Failure Input Rows :=
  (node configuration).mapError AbsentSlice.failure

end SpreadFlow.Zip
