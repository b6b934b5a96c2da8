/-
Module: SpreadFlow.Decimal.Shortest
Purpose: The shortest decimal that reads back to a binary floating-point number.
Main exports: Tie, BinaryFormat.readsBack, BinaryFormat.withDigits?, BinaryFormat.shortest
-/
import SpreadFlow.Decimal.Basic
import SpreadFlow.Decimal.Binary

namespace SpreadFlow

/-!
A decimal *reads back* to a finite number when it lies between the midpoints to the number's two
neighbours.  The midpoints themselves belong to the even code of each pair.  The search asks for
one digit, two digits and so on.  At each count only the two points next to the number on that
decimal grid can be the nearest that reads back: below the number nothing is nearer than the lower
point, above it nothing is nearer than the upper one.

Every finite number is a decimal with `unitPlaces` places, because `1 / 2 ^ p` is `5 ^ p / 10 ^ p`.
With the number and the midpoints scaled by that power of ten the comparisons are on naturals.
-/

/-- Which of two equally near decimals is taken. -/
inductive Tie where
  | away
  | even
deriving Repr, Inhabited, DecidableEq

namespace BinaryFormat

/-- The exact value of a code as a coefficient over `10 ^ unitPlaces`. -/
def exactCoefficient (format : BinaryFormat) (code : Nat) : Nat :=
  format.units code * Nat.pow 5 format.unitPlaces

/-- Whether `coefficient / 10 ^ unitPlaces` rounds to the code: it lies between the midpoints to
the codes before and after, or on one of them if the code is even. -/
def readsBack (format : BinaryFormat) (code coefficient : Nat) : Bool :=
  let lower := format.exactCoefficient (code - 1) + format.exactCoefficient code
  let upper := format.exactCoefficient code + format.exactCoefficient (code + 1)
  if code % 2 = 0 then lower ≤ 2 * coefficient && 2 * coefficient ≤ upper
  else lower < 2 * coefficient && 2 * coefficient < upper

/-- Which of the grid's points `lower` and `lower + 1` stands for the exact value `exact / grid`,
when one or both of them read back: the nearer, or the tie's choice. -/
def gridPoint? (tie : Tie) (exact grid lower : Nat) (lowerReads upperReads : Bool) : Option Nat :=
  let below := exact - lower * grid
  let above := (lower + 1) * grid - exact
  match lowerReads, upperReads with
  | false, false => none
  | true, false => some lower
  | false, true => some (lower + 1)
  | true, true =>
      if below < above then some lower
      else if above < below then some (lower + 1)
      else match tie with
        | .away => some (lower + 1)
        | .even => some (lower + lower % 2)

/-- The decimal of at most `count` digits nearest to the code's value, if any of that length reads
back.  `size` is the number of digits of the exact coefficient. -/
def withDigits? (format : BinaryFormat) (tie : Tie) (code size count : Nat) : Option Decimal :=
  let exact := format.exactCoefficient code
  let dropped := size - count
  let grid := Nat.pow 10 dropped
  let lower := exact / grid
  (gridPoint? tie exact grid lower
      (format.readsBack code (lower * grid)) (format.readsBack code ((lower + 1) * grid))).map
    fun coefficient => ⟨coefficient, dropped - format.unitPlaces⟩

/-- The shortest decimal that reads back to the code, and of those of its length the nearest.
After `maxDigits` digits the exact value would stand in, but the search always ends before. -/
def shortest (format : BinaryFormat) (tie : Tie) (code : Nat) : Decimal :=
  let exact := format.exactCoefficient code
  let size := (Decimal.digits exact).length
  ((List.range format.maxDigits).findSome? fun count =>
      format.withDigits? tie code size (count + 1)).getD
    ⟨exact, -format.unitPlaces⟩

end BinaryFormat

end SpreadFlow
