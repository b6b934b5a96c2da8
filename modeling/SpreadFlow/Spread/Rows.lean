/-
Module: SpreadFlow.Spread.Rows
Purpose: Operations on a spread of spreads that are addressed to one of its rows.
Main exports: RowCommand, RowAnswer, RowCommand.apply, RowCommand.run
-/
import SpreadFlow.Spread.Command

namespace SpreadFlow

/-!
A spread of spreads has *rows*.  Besides the operations of every spread it has some that change a
single row in place.  Rows are separate values, so a change to one never shows in another, also
when both were made as copies of one row.
-/

/-- One operation on a spread of rows. -/
inductive RowCommand (α : Type) where
  /-- An operation on the rows as slices. -/
  | whole (command : Command (Spread α))
  | push (row : Nat) (value : α)
  | resize (row : Nat) (count : Nat)
  | clear (row : Nat)
  /-- A cyclic read of a row, then a cyclic read in it. -/
  | readCyclic (row : Int) (column : Int)
deriving Repr

/-- What an operation on rows answers. -/
inductive RowAnswer (α : Type) where
  | whole (answer : Answer (Spread α))
  | slice (slice : Option α)
deriving Repr, DecidableEq

namespace RowCommand

variable {α : Type} [BEq α] [Inhabited α]

/-- One row changed in place, or out of bounds and all rows as they were. -/
def changeRow (rows : Spread (Spread α)) (row : Nat) (change : Spread α → Spread α) :
    RowAnswer α × Spread (Spread α) :=
  match rows.modify? row change with
  | some changed => (.whole .done, changed)
  | none => (.whole (.outOfBounds ⟨rows.count, row⟩), rows)

/-- The slice at a column of a row, both taken cyclically. -/
def cell? (rows : Spread (Spread α)) (row column : Int64) : Option α :=
  (rows.getCyclic? row).bind (·.getCyclic? column)

/-- The answer of one command and the rows afterwards. -/
def apply (command : RowCommand α) (rows : Spread (Spread α)) :
    RowAnswer α × Spread (Spread α) :=
  match command with
  | .whole command =>
      let (answer, changed) := command.apply rows
      (.whole answer, changed)
  | .push row value => changeRow rows row (·.push value)
  | .resize row count => changeRow rows row (·.resize count)
  | .clear row => changeRow rows row (·.clear)
  | .readCyclic row column => (.slice (cell? rows (.ofInt row) (.ofInt column)), rows)

/-- The rows after a run of commands. -/
def run (commands : List (RowCommand α)) (rows : Spread (Spread α)) : Spread (Spread α) :=
  commands.foldl (fun current command => (command.apply current).2) rows

end RowCommand

end SpreadFlow
