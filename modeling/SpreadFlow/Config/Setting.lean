/-
Module: SpreadFlow.Config.Setting
Purpose: The zip node's configuration from the names that a document in any format gives to keys.
Main exports: Zip.Configuration.ofSettings?
-/
import SpreadFlow.Zip.Policy

namespace SpreadFlow.Zip.Configuration

/-- The policy that is known after one more key and the name given to it.  Only the key of the one
field is known, and it may be there once.  Only the names of policies are known. -/
def addSetting? (known : Option Policy) : String × String → Option (Option Policy)
  | (key, name) =>
      if key = fieldName ∧ known = none then (Json.Named.ofName? name).map some else none

/-- The configuration of keys and the names given to them, judged one after the other.  It is the
default if there are none. -/
def ofSettings? (settings : List (String × String)) : Option Configuration :=
  (settings.foldlM addSetting? none).map fun
    | none => {}
    | some policy => ⟨policy⟩

end SpreadFlow.Zip.Configuration
