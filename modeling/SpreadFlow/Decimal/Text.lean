/-
Module: SpreadFlow.Decimal.Text
Purpose: The one decimal text of every number, whatever its type.
Main exports: DecimalText, Binary.decimalText
-/
import SpreadFlow.Decimal.Shortest

namespace SpreadFlow

/-!
Integers are plain base ten.  Binary floating-point numbers are written with the fewest digits that
read back to them, always positional: no exponent however large or small the number is, and no
fraction when it is integral.  Zero keeps its sign.
-/

/-- Types whose values have one decimal text. -/
class DecimalText (α : Type) where
  decimalText : α → String

export DecimalText (decimalText)

instance : DecimalText Int32 where
  decimalText number := String.ofList (Decimal.integer number.toInt)

instance : DecimalText Int64 where
  decimalText number := String.ofList (Decimal.integer number.toInt)

namespace Binary

/-- The characters of a floating-point number's text.  Two shortest decimals that are equally near
are settled away from zero. -/
def decimalCharacters {format : BinaryFormat} (number : Binary format) : List Char :=
  let signed (negative : Bool) (text : List Char) := if negative then '-' :: text else text
  match number.datum with
  | .nan => "NaN".toList
  | .infinite negative => signed negative "Infinity".toList
  | .finite negative code => signed negative (format.shortest .away code).positional

end Binary

instance {format : BinaryFormat} : DecimalText (Binary format) where
  decimalText number := String.ofList number.decimalCharacters

end SpreadFlow
