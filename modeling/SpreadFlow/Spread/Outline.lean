/-
Module: SpreadFlow.Spread.Outline
Purpose: The one-line outline of a spread's structure, for diagnostics.
Main exports: Outline
-/
import SpreadFlow.Spread.Basic
import SpreadFlow.Decimal.Text

namespace SpreadFlow

/-- Types whose values have a one-line outline. -/
class Outline (α : Type) where
  outline : α → String

export Outline (outline)

instance : Outline Int32 where
  outline := decimalText

/-- A spread's outline names its slices in order, between brackets and parted by commas. -/
instance {α : Type} [Outline α] : Outline (Spread α) where
  outline spread :=
    "Spread \x7b slices: [" ++ String.intercalate ", " (spread.toList.map outline) ++ "] \x7d"

end SpreadFlow
