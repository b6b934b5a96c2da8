/-
Module: SpreadFlow.Description
Purpose: Nodes as they describe themselves to a host: name, category, help, tags and pins.
Main exports: Pin, Description, Description.id
-/
import SpreadFlow.Json.Codec

namespace SpreadFlow

/-! ### Pins -/

/-- Which way data goes through a pin.  An imported pin is a service that the host provides. -/
inductive Pin.Direction where
  | input
  | output
  | imported
deriving Repr, Inhabited, DecidableEq

instance : Json.Named Pin.Direction where
  all := [.input, .output, .imported]
  name
    | .input => "input"
    | .output => "output"
    | .imported => "import"

instance : Json.Write Pin.Direction where
  tokens direction := [.text (Json.Named.name direction)]

instance : Json.Read Pin.Direction :=
  Json.Named.reader .inUse

/-- A named place where data enters or leaves a node. -/
structure Pin where
  name : String
  direction : Pin.Direction
  typeName : String
deriving Repr, Inhabited, DecidableEq

instance : Json.Write Pin where
  tokens pin :=
    Json.record
      [("name", Json.Write.tokens pin.name),
        ("direction", Json.Write.tokens pin.direction),
        ("type_name", Json.Write.tokens pin.typeName)]

/-! ### Descriptions -/

/-- What a host is told about a node. -/
structure Description where
  name : String
  category : String
  help : String
  tags : List String
  pins : List Pin
deriving Repr, Inhabited, DecidableEq

namespace Description

/-- A description with nothing but a name and a category. -/
def ofName (name category : String) : Description :=
  ⟨name, category, "", [], []⟩

/-- The identifier hosts use for a node: its name, and its category in parentheses. -/
def id (description : Description) : String :=
  description.name ++ " (" ++ description.category ++ ")"

/-- The description with this help text in place of the old. -/
def withHelp (description : Description) (help : String) : Description :=
  { description with help }

/-- The description with these tags after the old ones. -/
def withTags (description : Description) (tags : List String) : Description :=
  { description with tags := description.tags ++ tags }

/-- The description with this pin after the old ones. -/
def withPin (description : Description) (pin : Pin) : Description :=
  { description with pins := description.pins ++ [pin] }

/-- The first pin of exactly this name. -/
def pin? (description : Description) (name : String) : Option Pin :=
  description.pins.find? fun pin => pin.name = name

/-- The pins of one direction, in order. -/
def pinsIn (description : Description) (direction : Pin.Direction) : List Pin :=
  description.pins.filter fun pin => pin.direction = direction

/-- The pins that take data in. -/
def inputs (description : Description) : List Pin :=
  description.pinsIn .input

/-- The pins that give data out. -/
def outputs (description : Description) : List Pin :=
  description.pinsIn .output

end Description

instance : Json.Write Description where
  tokens description :=
    Json.record
      [("name", Json.Write.tokens description.name),
        ("category", Json.Write.tokens description.category),
        ("help", Json.Write.tokens description.help),
        ("tags", Json.Write.tokens description.tags),
        ("pins", Json.Write.tokens description.pins)]

end SpreadFlow
