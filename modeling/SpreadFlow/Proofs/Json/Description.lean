/-
Module: SpreadFlow.Proofs.Json.Description
Purpose: What a node tells a host of itself is all in the text that is written of it, and no two
  descriptions have the same text.
Main exports: Json.readName, Pin.PinText, Description.DescriptionText, Description.denotes,
  Description.encode_faithful
-/
import SpreadFlow.Description
import SpreadFlow.Proofs.Json.Record

namespace SpreadFlow

/-!
Descriptions are only ever written.  To say that nothing is lost, there is a reader for them here:
it asks for the fields of a record in the order in which they are declared, and for a direction
under its name.  It is put together from the readers of strings and lists, so with their laws it
takes exactly the texts of a grammar, and each of these for one description only.
-/

open Json (Reader ReadsBack Field Read Write LawfulCodec Compact Denotes Padded StringText ArrayText
  RecordText readField readBoth readRecord recordCharacters)

/-! ### Directions -/

namespace Json

variable {α : Type} [Named α]

/-- Reads a named value from its name as a string, and from nothing else. -/
def readName : Reader α := do
  StateT.lift (Named.ofName (← readText))

theorem readName_readsBack [LawfulNamed α] :
    ReadsBack (readName : Reader α) fun value => Write.tokens (Named.name value) := by
  intro sequence rest value
  simp only [readName, bind_eq_ok_iff, readText_eq_ok_iff, lift_eq_ok_iff, Named.ofName_eq_ok_iff]
  constructor
  · rintro ⟨_, _, rfl, rfl, rfl⟩
    rfl
  · rintro rfl
    exact ⟨_, _, rfl, rfl, rfl⟩

end Json

namespace Pin

theorem Direction.mem_all : ∀ direction : Direction, direction ∈ Json.Named.all
  | .input => by decide
  | .output => by decide
  | .imported => by decide

instance : Json.LawfulNamed Direction where
  mem_all := Direction.mem_all
  name_injective first second same := by
    have distinct : ∀ first ∈ (Json.Named.all : List Direction), ∀ second ∈ Json.Named.all,
        Json.Named.name first = Json.Named.name second → first = second := by
      decide
    exact distinct first (Direction.mem_all first) second (Direction.mem_all second) same

/-! ### Pins -/

/-- Pins are the values of their fields. -/
def ofFields : String × Direction × String ≃ Pin where
  toFun | (name, direction, typeName) => ⟨name, direction, typeName⟩
  invFun pin := (pin.name, pin.direction, pin.typeName)
  left_inv _ := rfl
  right_inv _ := rfl

/-- Reads a pin from the record of its fields. -/
def reader : Reader Pin :=
  ofFields <$> readRecord
    (readBoth (readField "name" Read.read)
      (readBoth (readField "direction" Json.readName)
        (readField "type_name" Read.read)))

theorem reader_readsBack : ReadsBack reader Write.tokens :=
  .map (.record (.both (.field .read "name")
    (.both (.field Json.readName_readsBack "direction") (.field .read "type_name")))) ofFields

instance : Read Pin where
  read := reader
  read_shorter := reader_readsBack.shorter fun _ => List.cons_ne_nil _ _

/-- The fields of a pin.  What is written for it is their record. -/
def fields (pin : Pin) : List Field :=
  [.ofValue Json.denotes_string "name" pin.name,
    .ofValue Json.denotes_string "direction" (Json.Named.name pin.direction),
    .ofValue Json.denotes_string "type_name" pin.typeName]

instance : LawfulCodec Pin where
  read_eq_ok_iff := reader_readsBack _ _ _
  head?_ne_closeList _ same := nomatch same
  spelled pin := Field.spelled_record pin.fields
  parted pin := Field.parted_record pin.fields

/-- The three fields in order, each a string. -/
instance : Compact Pin where
  characters pin :=
    recordCharacters
      [("name", Compact.characters pin.name),
        ("direction", Compact.characters (Json.Named.name pin.direction)),
        ("type_name", Compact.characters pin.typeName)]
  flatMap_spelling pin := Field.flatMap_spelling_record pin.fields

/-- The text is a record of the pin's three fields, each a string. -/
def PinText (text : List Char) (pin : Pin) : Prop :=
  RecordText
    [("name", (StringText · pin.name)),
      ("direction", (StringText · (Json.Named.name pin.direction))),
      ("type_name", (StringText · pin.typeName))] text

theorem denotes : Denotes PinText :=
  fun pin => Field.spaced_record_iff (List.cons_ne_nil _ _ : pin.fields ≠ [])

end Pin

/-! ### Descriptions -/

namespace Description

/-- Descriptions are the values of their fields. -/
def ofFields : String × String × String × List String × List Pin ≃ Description where
  toFun | (name, category, help, tags, pins) => ⟨name, category, help, tags, pins⟩
  invFun description :=
    (description.name, description.category, description.help, description.tags, description.pins)
  left_inv _ := rfl
  right_inv _ := rfl

/-- Reads a description from the record of its fields. -/
def reader : Reader Description :=
  ofFields <$> readRecord
    (readBoth (readField "name" Read.read)
      (readBoth (readField "category" Read.read)
        (readBoth (readField "help" Read.read)
          (readBoth (readField "tags" Read.read)
            (readField "pins" Read.read)))))

theorem reader_readsBack : ReadsBack reader Write.tokens :=
  .map (.record (.both (.field .read "name") (.both (.field .read "category")
    (.both (.field .read "help") (.both (.field .read "tags") (.field .read "pins")))))) ofFields

instance : Read Description where
  read := reader
  read_shorter := reader_readsBack.shorter fun _ => List.cons_ne_nil _ _

/-- The fields of a description.  What is written for it is their record. -/
def fields (description : Description) : List Field :=
  [.ofValue Json.denotes_string "name" description.name,
    .ofValue Json.denotes_string "category" description.category,
    .ofValue Json.denotes_string "help" description.help,
    .ofValue (Json.denotes_spread Json.denotes_string) "tags" (.ofList description.tags),
    .ofValue (Json.denotes_spread Pin.denotes) "pins" (.ofList description.pins)]

instance : LawfulCodec Description where
  read_eq_ok_iff := reader_readsBack _ _ _
  head?_ne_closeList _ same := nomatch same
  spelled description := Field.spelled_record description.fields
  parted description := Field.parted_record description.fields

/-- The five fields in order: three strings, an array of strings and an array of pins. -/
instance : Compact Description where
  characters description :=
    recordCharacters
      [("name", Compact.characters description.name),
        ("category", Compact.characters description.category),
        ("help", Compact.characters description.help),
        ("tags", Compact.characters (Spread.ofList description.tags)),
        ("pins", Compact.characters (Spread.ofList description.pins))]
  flatMap_spelling description := Field.flatMap_spelling_record description.fields

/-- The text is a record of the description's five fields. -/
def DescriptionText (text : List Char) (description : Description) : Prop :=
  RecordText
    [("name", (StringText · description.name)),
      ("category", (StringText · description.category)),
      ("help", (StringText · description.help)),
      ("tags", (ArrayText StringText · (.ofList description.tags))),
      ("pins", (ArrayText Pin.PinText · (.ofList description.pins)))] text

theorem denotes : Denotes DescriptionText :=
  fun description => Field.spaced_record_iff (List.cons_ne_nil _ _ : description.fields ≠ [])

/-- What is written begins and ends with a brace, so no blanks are around it. -/
theorem descriptionText_encode (description : Description) :
    DescriptionText (Json.encode description).toList description := by
  have padded := (denotes.decode_eq_ok_iff _ description).mp (Json.decode_encode description)
  have compact : Json.encode description = String.ofList (Compact.characters description) :=
    congrArg String.ofList (Compact.flatMap_spelling description)
  rw [compact, String.toList_ofList] at padded ⊢
  apply padded.of_visible
  · rintro _ ⟨⟩
    decide
  · intro last isLast
    have brace : (Compact.characters description).getLast? = some '\x7d' := List.getLast?_concat
    cases brace.symm.trans isLast
    decide

/-- The compact texts of two descriptions are the same only if the descriptions are.  Each is a
record of the five fields in the order of declaration, and a description is read from exactly the
texts of such a record. -/
theorem encode_faithful :
    (∀ first second : Description, Json.encode first = Json.encode second ↔ first = second) ∧
    ∀ description : Description,
      Json.encode description = String.ofList (Compact.characters description) ∧
      DescriptionText (Json.encode description).toList description ∧
      Json.decode (Json.encode description) = .ok description ∧
      ∀ text : String, Json.decode text = .ok description ↔
        Padded (DescriptionText · description) text.toList := by
  refine ⟨fun first second => ⟨fun same => ?_, congrArg Json.encode⟩, fun description => ?_⟩
  · have read := Json.decode_encode first
    rw [same, Json.decode_encode second] at read
    exact (Except.ok.inj read).symm
  · exact ⟨congrArg String.ofList (Compact.flatMap_spelling description),
      descriptionText_encode description, Json.decode_encode description,
      fun text => denotes.decode_eq_ok_iff text description⟩

end Description

end SpreadFlow
