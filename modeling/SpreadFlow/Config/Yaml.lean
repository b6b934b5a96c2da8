/-
Module: SpreadFlow.Config.Yaml
Purpose: The zip node's configuration as YAML.
Main exports: Yaml.Node.name?, Yaml.Entry.setting?, Zip.Configuration.ofYaml?,
  Zip.Configuration.toYaml
-/
import SpreadFlow.Config.Setting
import SpreadFlow.Yaml.Document

namespace SpreadFlow

/-- The spellings of the absence of a value. -/
def Yaml.absences : List String := ["", "null", "Null", "NULL", "~"]

/-- The name that a value gives.  A local tag gives its own name and must stand before a plain
absence of a value.  Under any other tag, or none, the name is the scalar's text. -/
def Yaml.Node.name? (node : Yaml.Node) : Option String :=
  match node.tag.bind Yaml.Tag.localName? with
  | some name =>
      if node.scalar.plain && String.ofList node.scalar.text ∈ Yaml.absences then some name
      else none
  | none => some (String.ofList node.scalar.text)

/-- The key of an entry and the name given to it. -/
def Yaml.Entry.setting? (entry : Yaml.Entry) : Option (String × String) :=
  entry.value.name?.map (String.ofList entry.key, ·)

namespace Zip.Configuration

/-- The configuration that a YAML document holds. -/
def ofYaml? (text : String) : Option Configuration := do
  let settings ← (← Yaml.document? text.toList).mapM Yaml.Entry.setting?
  ofSettings? settings

/-- The configuration as a YAML document. -/
def toYaml (configuration : Configuration) : String :=
  fieldName ++ ": " ++ Json.Named.name configuration.absentPositions ++ "\n"

end Zip.Configuration

end SpreadFlow
