/-
Module: SpreadFlow.Zip.Basic
Purpose: The zip node: each slice of positions with its index, as a row of decimal texts.
Main exports: Zip.Input, Zip.Rows, Zip.Event, Zip.AbsentSlice, Zip.refill, Zip.evaluate, Zip.node,
  Zip.description
-/
import SpreadFlow.Decimal.Text
import SpreadFlow.Description
import SpreadFlow.Log
import SpreadFlow.Node.Basic
import SpreadFlow.Zip.Policy

namespace SpreadFlow.Zip

/-!
The node pairs slices of positions with indices for as long as there are both.  Each pair becomes a
row: the texts of the positions, then the text of the index.

The host owns the output and lends it to every evaluation.  Whether an absent slice is in the way is
decided before the output is touched, so a failed evaluation leaves it as it was.  A successful one
leaves nothing of what it held.
-/

/-- The positions, whose slices may be absent, and the indices. -/
structure Input where
  positions : Spread (Option (Spread Binary64))
  index : Spread Int32
deriving Repr, DecidableEq

/-- The input in which no slice is absent. -/
def Input.ofPresent (positions : Spread (Spread Binary64)) (index : Spread Int32) : Input :=
  ⟨positions.map some, index⟩

/-- How many slices have a partner. -/
def Input.paired (input : Input) : Nat :=
  min input.positions.count input.index.count

/-- The output: a row of texts for each pair. -/
abbrev Rows := Spread (Spread String)

/-- What an evaluation logs. -/
inductive Event where
  /-- The inputs differ in length, and what is beyond the paired slices is dropped. -/
  | dropping (paired positions indices : Nat)
  | zipped (paired : Nat)
deriving Repr, DecidableEq

/-- The log record of an event. -/
def Event.record : Event → Log.Record
  | .dropping paired positions indices =>
      { level := .debug
        message :=
          "zipping " ++ toString paired ++ " slices, dropping the rest of " ++ toString positions
            ++ " positions and " ++ toString indices ++ " indices" }
  | .zipped paired => { level := .trace, message := "zipped " ++ toString paired ++ " slices" }

/-- An absent slice that was refused. -/
structure AbsentSlice where
  slice : Nat
deriving Repr, DecidableEq

def AbsentSlice.message (error : AbsentSlice) : String :=
  "positions slice " ++ toString error.slice ++ " is absent"

/-- The number of the first absent slice that has a partner. -/
def Input.firstAbsent? (input : Input) : Option Nat :=
  (input.positions.toList.take input.paired).findIdx? Option.isNone

/-- A row cleared and filled again.  An absent slice leaves only the index. -/
def refillRow (row : Spread String) (values : Option (Spread Binary64)) (index : Int32) :
    Spread String :=
  let cleared := row.clear
  let filled :=
    match values with
    | some values => cleared.append (values.toList.map decimalText)
    | none => cleared
  filled.push (decimalText index)

/-- The output resized to the paired slices, and every row of it filled from its pair. -/
def refillRows (input : Input) (output : Rows) : Rows :=
  .ofList <| (output.resize input.paired).toList.zipWith
    (fun row pair => refillRow row pair.1 pair.2)
    (input.positions.toList.zip input.index.toList)

/-- An evaluation into an output that the host lends: its outcome, and the output afterwards. -/
def refill (configuration : Configuration) (input : Input) (output : Rows) :
    Outcome Event AbsentSlice Unit × Rows :=
  let dropped :=
    if input.positions.count = input.index.count then []
    else [Event.dropping input.paired input.positions.count input.index.count]
  match configuration.absentPositions, input.firstAbsent? with
  | .reject, some slice => (⟨dropped, .error ⟨slice⟩⟩, output)
  | _, _ => (⟨dropped ++ [.zipped input.paired], .ok ()⟩, refillRows input output)

/-- An evaluation into a new output. -/
def evaluate (configuration : Configuration) (input : Input) : Outcome Event AbsentSlice Rows :=
  let (outcome, rows) := refill configuration input .empty
  outcome.bind fun _ => .ok rows

/-- The zip node. -/
def node (configuration : Configuration) : Node Event AbsentSlice Input Rows where
  evaluate := evaluate configuration

/-- The full name of the node's type. -/
def typeName : String := "patchnode_nodes::value::zip_values::ZipValues"

/-- How the zip node describes itself. -/
def description : Description where
  name := "ZipValues"
  category := "Value"
  help := "Zips each position slice with its index"
  tags := ["spread", "zip", "string"]
  pins :=
    [⟨"Positions", .input, "Spread<Spread<f64>>"⟩,
      ⟨"Index", .input, "Spread<i32>"⟩,
      ⟨"Output", .output, "Spread<Spread<String>>"⟩,
      ⟨"Logger", .imported, "log::Log"⟩]

end SpreadFlow.Zip
