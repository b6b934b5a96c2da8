/-
Module: SpreadFlow.Spread.Command
Purpose: The operations on a spread as data, with their answers.
Main exports: OutOfBounds, Command, Answer, Command.apply, Command.run
-/
import SpreadFlow.Spread.Cyclic

namespace SpreadFlow

/-!
A command is one operation with its arguments.  Applying it gives an answer and the spread
afterwards.  A command addressed past the end answers that it is out of bounds and leaves the
spread as it was.
-/

/-- An index that a spread of `count` slices does not have. -/
structure OutOfBounds where
  count : Nat
  index : Nat
deriving Repr, DecidableEq

/-- The report of an index that is out of bounds. -/
def OutOfBounds.message (fault : OutOfBounds) : String :=
  "index out of bounds: the len is " ++ toString fault.count ++ " but the index is "
    ++ toString fault.index

/-- One operation on a spread. -/
inductive Command (α : Type) where
  /-- Start again with these slices. -/
  | replace (values : List α)
  | push (value : α)
  | append (values : List α)
  /-- Append a copy of the spread to itself. -/
  | appendSelf
  | clear
  | resize (count : Nat)
  | set (index : Nat) (value : α)
  | fill (value : α)
  | count
  | isEmpty
  /-- Look a slice up; none past the end. -/
  | find (index : Nat)
  /-- Read a slice; out of bounds past the end. -/
  | read (index : Nat)
  /-- Read a slice cyclically.  The index is taken for a word of 64 bits. -/
  | readCyclic (index : Int)
  /-- All slices. -/
  | list
  | listReversed
  /-- Take all slices out. -/
  | drain
  /-- The slices of a copy with one more pushed. -/
  | pushedCopy (value : α)
  | equals (values : List α)
deriving Repr

/-- What an operation answers. -/
inductive Answer (α : Type) where
  | done
  | number (number : Nat)
  | flag (flag : Bool)
  | slice (slice : Option α)
  | slices (slices : List α)
  | outOfBounds (fault : OutOfBounds)
deriving Repr, DecidableEq

namespace Command

variable {α : Type} [BEq α] [Inhabited α]

/-- The answer of one command and the spread afterwards. -/
def apply (command : Command α) (spread : Spread α) : Answer α × Spread α :=
  let outOfBounds (index : Nat) : Answer α := .outOfBounds ⟨spread.count, index⟩
  match command with
  | .replace values => (.done, .ofList values)
  | .push value => (.done, spread.push value)
  | .append values => (.done, spread.append values)
  | .appendSelf => (.done, spread.append spread.toList)
  | .clear => (.done, spread.clear)
  | .resize size => (.done, spread.resize size)
  | .set index value =>
      match spread.set? index value with
      | some changed => (.done, changed)
      | none => (outOfBounds index, spread)
  | .fill value => (.done, spread.fill value)
  | .count => (.number spread.count, spread)
  | .isEmpty => (.flag spread.isEmpty, spread)
  | .find index => (.slice (spread.get? index), spread)
  | .read index =>
      match spread.get? index with
      | some value => (.slice (some value), spread)
      | none => (outOfBounds index, spread)
  | .readCyclic index => (.slice (spread.getCyclic? (.ofInt index)), spread)
  | .list => (.slices spread.toList, spread)
  | .listReversed => (.slices spread.reverse.toList, spread)
  | .drain => (.slices spread.toList, .empty)
  | .pushedCopy value => (.slices (spread.push value).toList, spread)
  | .equals values => (.flag (spread == .ofList values), spread)

/-- The spread after a run of commands. -/
def run (commands : List (Command α)) (spread : Spread α) : Spread α :=
  commands.foldl (fun current command => (command.apply current).2) spread

end Command

end SpreadFlow
