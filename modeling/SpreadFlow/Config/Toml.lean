/-
Module: SpreadFlow.Config.Toml
Purpose: The zip node's configuration as TOML.
Main exports: Zip.Configuration.ofToml?, Zip.Configuration.toToml
-/
import SpreadFlow.Config.Setting
import SpreadFlow.Toml.Document

namespace SpreadFlow.Zip.Configuration

/-- The configuration that a TOML document holds. -/
def ofToml? (text : String) : Option Configuration := do
  let settings ← (Toml.statements? text.toList).bind Toml.settings?
  ofSettings? settings

/-- The configuration as a TOML document. -/
def toToml (configuration : Configuration) : String :=
  fieldName ++ " = \"" ++ Json.Named.name configuration.absentPositions ++ "\"\n"

end SpreadFlow.Zip.Configuration
