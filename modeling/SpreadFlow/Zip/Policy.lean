/-
Module: SpreadFlow.Zip.Policy
Purpose: What the zip node does about an absent slice, and its configuration.
Main exports: Zip.Policy, Zip.Configuration
-/
import SpreadFlow.Json.Codec

namespace SpreadFlow.Zip

/-- What to do about a slice that the host reports as absent. -/
inductive Policy where
  /-- Fail the evaluation. -/
  | reject
  /-- Take it for an empty slice. -/
  | empty
deriving Repr, Inhabited, DecidableEq

instance : Json.Named Policy where
  all := [.reject, .empty]
  name
    | .reject => "reject"
    | .empty => "empty"

instance : Json.Write Policy where
  tokens policy := [.text (Json.Named.name policy)]

instance : Json.Read Policy :=
  Json.Named.reader .inUse

/-- The configuration of a zip node.  An absent slice is refused unless it says otherwise. -/
structure Configuration where
  absentPositions : Policy := .reject
deriving Repr, DecidableEq

namespace Configuration

instance : Inhabited Configuration := ⟨{}⟩

/-- The name of the only field. -/
def fieldName : String := "absent_positions"

/-- Whether nothing differs from the default. -/
def isDefault (configuration : Configuration) : Bool :=
  configuration = {}

end Configuration

end SpreadFlow.Zip
