/-
Module: SpreadFlow.Node.Recipe
Purpose: Recipes for nodes on spreads of integers, as data.
Main exports: Leaf, Recipe, Recipe.patch, Recipe.evaluate
-/
import SpreadFlow.Failure
import SpreadFlow.Node.Patch
import SpreadFlow.Spread.Cyclic

namespace SpreadFlow

/-!
A recipe names a composition of a few stock nodes that take and give spreads of 32-bit integers.
It is plain data, so a patch can be read from a file, and it stands for the patch it builds.
-/

/-- The stock nodes. -/
inductive Leaf where
  /-- Adds an amount to each slice. -/
  | offset (amount : Int32)
  /-- Doubles each slice. -/
  | double
  /-- Gives the first slice alone. -/
  | first
  /-- Always fails. -/
  | reject (message : String)
  /-- Cuts or grows the spread. -/
  | resize (count : Nat)
  /-- Reads slices one after the other, cyclically, from a start.  The indices are words of 64
  bits. -/
  | resample (start : Int) (count : Nat)
deriving Repr, DecidableEq

/-- How a stock node fails. -/
inductive LeafError where
  | overflow (slice : Nat)
  | empty
  | rejected (message : String)
deriving Repr, DecidableEq

def LeafError.message : LeafError → String
  | .overflow slice => "slice " ++ toString slice ++ " overflows"
  | .empty => "spread is empty"
  | .rejected message => message

/-- Applies an integer function to each slice, from the slice with number `slice` on.  The first
result that needs more than 32 bits is an overflow. -/
def mapChecked (change : Int → Int) (slice : Nat) : List Int32 → Except LeafError (List Int32)
  | [] => .ok []
  | value :: values =>
      match int32? (change value.toInt) with
      | some changed => (mapChecked change (slice + 1) values).map (changed :: ·)
      | none => .error (.overflow slice)

/-- What a stock node computes. -/
def Leaf.apply (leaf : Leaf) (input : Spread Int32) : Except LeafError (Spread Int32) :=
  match leaf with
  | .offset amount => (mapChecked (· + amount.toInt) 0 input.toList).map .ofList
  | .double => (mapChecked (2 * ·) 0 input.toList).map .ofList
  | .first =>
      match input.get? 0 with
      | some value => .ok (.ofList [value])
      | none => .error .empty
  | .reject message => .error (.rejected message)
  | .resize count => .ok (input.resize count)
  | .resample start count =>
      let slices := (List.range count).mapM fun (step : Nat) =>
        input.getCyclic? (.ofInt (start + step))
      match slices with
      | some values => .ok (.ofList values)
      | none => .error .empty

/-- How an adapter makes the input of the inner node. -/
inductive InputMap where
  | same
  | reverse
  /-- All slices but the first. -/
  | tail
  | empty
deriving Repr, DecidableEq

def InputMap.apply (map : InputMap) (input : Spread Int32) : Spread Int32 :=
  match map with
  | .same => input
  | .reverse => input.reverse
  | .tail => .ofList input.toList.tail
  | .empty => .empty

/-- How an adapter makes the output: from the inner node's, the outer input, or both in either
order. -/
inductive OutputMap where
  | inner
  | outer
  | outerThenInner
  | innerThenOuter
deriving Repr, DecidableEq

def OutputMap.apply (map : OutputMap) (input output : Spread Int32) : Spread Int32 :=
  match map with
  | .inner => output
  | .outer => input
  | .outerThenInner => input.append output.toList
  | .innerThenOuter => output.append input.toList

/-- How an error map changes a failure. -/
inductive FailureMap where
  | ofNode (typeName : String)
  | wrap (message : String)
  | prepend (text : String)
deriving Repr, DecidableEq

def FailureMap.apply : FailureMap → Failure → Failure
  | .ofNode typeName => .ofNode typeName
  | .wrap message => .wrap message
  | .prepend text => .prepend text

/-- What an observer saw, and where. -/
structure Sighting where
  label : String
  /-- Whether it is an output; otherwise it is an input. -/
  isOutput : Bool
  values : Spread Int32
deriving Repr, DecidableEq

/-- A composition of stock nodes. -/
inductive Recipe where
  | stock (leaf : Leaf)
  | chain (first second : Recipe)
  | adapt (input : InputMap) (output : OutputMap) (inner : Recipe)
  | mapError (change : FailureMap) (inner : Recipe)
  | observe (label : String) (inner : Recipe)
deriving Repr, DecidableEq

namespace Recipe

/-- The patch that a recipe builds. -/
def patch : Recipe → Patch Sighting Failure (Spread Int32) (Spread Int32)
  | .stock leaf =>
      .base ⟨fun input => ⟨[], (leaf.apply input).mapError fun error => .plain error.message⟩⟩
  | .chain first second => .chain first.patch second.patch
  | .adapt input output inner => .adapt input.apply output.apply inner.patch
  | .mapError change inner => .mapError change.apply inner.patch
  | .observe label inner =>
      .observe (fun input => [⟨label, false, input⟩]) (fun output => [⟨label, true, output⟩])
        inner.patch

/-- The outcome of a recipe on an input. -/
def evaluate (recipe : Recipe) (input : Spread Int32) :
    Outcome Sighting Failure (Spread Int32) :=
  recipe.patch.node.evaluate input

end Recipe

end SpreadFlow
