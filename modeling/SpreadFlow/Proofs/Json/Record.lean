/-
Module: SpreadFlow.Proofs.Json.Record
Purpose: Records of known fields in a known order: their readers, and the grammar of their texts.
Main exports: Json.Reader, Json.ReadsBack, Json.readField, Json.readBoth, Json.readRecord,
  Json.FieldText, Json.RecordText, Json.recordCharacters, Json.Field, Json.Field.spaced_record_iff
-/
import Mathlib.Logic.Equiv.Defs
import SpreadFlow.Proofs.Json.Document

namespace SpreadFlow.Json

/-!
A record is written as its fields, with commas between them.  Two things follow from what is known
of the fields.  A reader that is put together from readers of the fields, in the same order, takes
exactly what was written if these do.  And the texts of the record are those of a grammar that has
a text of each field, in the same order, between braces.
-/

/-! ### Readers -/

/-- Reads a value from the front of the tokens, up to the first fault. -/
abbrev Reader (α : Type) := StateT (List Token) (Except Fault) α

/-- The reader takes what is written for a value, whatever follows, and nothing else. -/
def ReadsBack {α : Type} (reader : Reader α) (written : α → List Token) : Prop :=
  ∀ (sequence rest : List Token) (value : α),
    reader sequence = .ok (value, rest) ↔ sequence = written value ++ rest

/-- Takes exactly this token. -/
def readToken (token : Token) : Reader Unit
  | first :: rest => if first = token then .ok ((), rest) else .error .malformed
  | [] => .error .malformed

section

variable {α β : Type}

/-- Reads a field: its name, a colon and its value. -/
def readField (name : String) (reader : Reader α) : Reader α := do
  readToken (.text name)
  readToken .colon
  reader

/-- Reads one and then another, with a comma between them. -/
def readBoth (first : Reader α) (second : Reader β) : Reader (α × β) := do
  let one ← first
  readToken .comma
  let other ← second
  return (one, other)

/-- Reads what stands between braces. -/
def readRecord (fields : Reader α) : Reader α := do
  readToken .openRecord
  let values ← fields
  readToken .closeRecord
  return values

theorem bind_eq_ok_iff {first : Reader α} {next : α → Reader β} {sequence rest : List Token}
    {value : β} :
    (first >>= next) sequence = .ok (value, rest) ↔
      ∃ found middle, first sequence = .ok (found, middle) ∧
        next found middle = .ok (value, rest) := by
  change (first sequence).bind (fun pair => next pair.1 pair.2) = _ ↔ _
  cases first sequence with
  | error fault => simp [Except.bind]
  | ok pair => simp [Except.bind, Prod.ext_iff, and_assoc]

theorem pure_eq_ok_iff {given value : α} {sequence rest : List Token} :
    (pure given : Reader α) sequence = .ok (value, rest) ↔ given = value ∧ sequence = rest := by
  change Except.ok (given, sequence) = Except.ok (value, rest) ↔ _
  rw [Except.ok.injEq, Prod.mk.injEq]

theorem lift_eq_ok_iff {outcome : Except Fault α} {sequence rest : List Token} {value : α} :
    (StateT.lift outcome : Reader α) sequence = .ok (value, rest) ↔
      outcome = .ok value ∧ sequence = rest := by
  change outcome.bind (fun found => .ok (found, sequence)) = _ ↔ _
  cases outcome with
  | error fault => simp [Except.bind]
  | ok found => simp [Except.bind]

theorem readToken_eq_ok_iff {token : Token} {sequence rest : List Token} {value : Unit} :
    readToken token sequence = .ok (value, rest) ↔ sequence = token :: rest := by
  cases sequence with
  | nil => simp [readToken]
  | cons first others =>
      by_cases same : first = token
      · simp [readToken, same]
      · simp [readToken, same]

namespace ReadsBack

/-- The reader of a type with the law. -/
theorem read [Write α] [Read α] [LawfulCodec α] :
    ReadsBack (Read.read : Reader α) Write.tokens :=
  fun _ _ _ => LawfulCodec.read_eq_ok_iff

variable {reader first : Reader α} {second : Reader β}
variable {written firstWritten : α → List Token} {secondWritten : β → List Token}

theorem field (law : ReadsBack reader written) (name : String) :
    ReadsBack (readField name reader) fun value => .text name :: .colon :: written value := by
  intro sequence rest value
  simp only [readField, bind_eq_ok_iff, readToken_eq_ok_iff, law _ _ _]
  constructor
  · rintro ⟨_, _, rfl, _, _, rfl, rfl⟩
    rfl
  · rintro rfl
    exact ⟨(), _, rfl, (), _, rfl, rfl⟩

theorem both (one : ReadsBack first firstWritten) (other : ReadsBack second secondWritten) :
    ReadsBack (readBoth first second) fun values =>
      firstWritten values.1 ++ .comma :: secondWritten values.2 := by
  intro sequence rest values
  simp only [readBoth, bind_eq_ok_iff, readToken_eq_ok_iff, pure_eq_ok_iff, one _ _ _, other _ _ _]
  constructor
  · rintro ⟨_, _, rfl, _, _, rfl, _, _, rfl, rfl, rfl⟩
    simp
  · rintro rfl
    exact ⟨values.1, _, List.append_assoc _ _ _, (), _, rfl, values.2, _, rfl, rfl, rfl⟩

theorem record (law : ReadsBack reader written) :
    ReadsBack (readRecord reader) fun value => .openRecord :: written value ++ [.closeRecord] := by
  intro sequence rest value
  simp only [readRecord, bind_eq_ok_iff, readToken_eq_ok_iff, pure_eq_ok_iff, law _ _ _]
  constructor
  · rintro ⟨_, _, rfl, _, _, rfl, _, _, rfl, rfl, rfl⟩
    simp
  · rintro rfl
    exact ⟨(), _, rfl, value, _, List.append_assoc _ _ _, (), _, rfl, rfl, rfl⟩

/-- Values may be renamed, as those of the fields are when they are put into a structure. -/
theorem map (law : ReadsBack reader written) (rename : α ≃ β) :
    ReadsBack (rename <$> reader) fun value => written (rename.symm value) := by
  intro sequence rest value
  rw [map_eq_pure_bind]
  simp only [bind_eq_ok_iff, pure_eq_ok_iff, law _ _ _]
  constructor
  · rintro ⟨found, _, rfl, rfl, rfl⟩
    rw [Equiv.symm_apply_apply]
  · rintro rfl
    exact ⟨rename.symm value, rest, rfl, Equiv.apply_symm_apply rename value, rfl⟩

/-- A reader of what is written with at least one token leaves fewer tokens. -/
theorem shorter (law : ReadsBack reader written) (nonempty : ∀ value, written value ≠ [])
    {sequence rest : List Token} {value : α} (read : reader sequence = .ok (value, rest)) :
    rest.length < sequence.length := by
  rw [(law _ _ _).mp read, List.length_append]
  have positive := List.length_pos_of_ne_nil (nonempty value)
  omega

end ReadsBack

end

/-! ### Texts -/

/-- The text is a field: its name as a string, a colon and what stands for its value. -/
def FieldText (text : List Char) (field : String × (List Char → Prop)) : Prop :=
  ∃ key before after value, text = key ++ (before ++ ':' :: (after ++ value)) ∧
    StringText key field.1 ∧ AllBlank before ∧ AllBlank after ∧ field.2 value

/-- The text is a record of these fields, no fewer and no more, in this order. -/
def RecordText (fields : List (String × (List Char → Prop))) : List Char → Prop :=
  Enclosed '\x7b' '\x7d' (ItemsText FieldText · fields)

/-- The compact text of a record: between braces each field with its name in quotes and a colon,
and a comma between each two. -/
def recordCharacters (fields : List (String × List Char)) : List Char :=
  '\x7b' :: [','].intercalate
    (fields.map fun (name, value) => Compact.characters name ++ ':' :: value) ++ ['\x7d']

/-! ### Fields -/

theorem spelled_colon_iff (spelling : List Char) :
    Token.colon.Spelled spelling ↔ spelling = [':'] :=
  ⟨fun | .colon => rfl, fun same => same ▸ .colon⟩

theorem spelled_openRecord_iff (spelling : List Char) :
    Token.openRecord.Spelled spelling ↔ spelling = ['\x7b'] :=
  ⟨fun | .openRecord => rfl, fun same => same ▸ .openRecord⟩

theorem spelled_closeRecord_iff (spelling : List Char) :
    Token.closeRecord.Spelled spelling ↔ spelling = ['\x7d'] :=
  ⟨fun | .closeRecord => rfl, fun same => same ▸ .closeRecord⟩

/-- A field as it is written, with what is known of its value. -/
structure Field where
  name : String
  tokens : List Token
  characters : List Char
  Text : List Char → Prop
  spaced_iff : ∀ text, Spaced tokens text ↔ Padded Text text
  flatMap_spelling : tokens.flatMap Token.spelling = characters
  spelled : ∀ token ∈ tokens, token.Spelled token.spelling
  parted : Parted tokens

namespace Field

/-- The field of this name with this value. -/
def ofValue {α : Type} [Write α] [Read α] [LawfulCodec α] [Compact α]
    {Element : List Char → α → Prop} (law : Denotes Element) (name : String) (value : α) :
    Field where
  name := name
  tokens := Write.tokens value
  characters := Compact.characters value
  Text := (Element · value)
  spaced_iff := law value
  flatMap_spelling := Compact.flatMap_spelling value
  spelled := LawfulCodec.spelled value
  parted := LawfulCodec.parted value

/-- The tokens of a field. -/
def written (field : Field) : List Token :=
  .text field.name :: .colon :: field.tokens

/-- The tokens of a record of fields. -/
def record (fields : List Field) : List Token :=
  Json.record (fields.map fun field => (field.name, field.tokens))

theorem record_eq (fields : List Field) :
    record fields = .openRecord :: separate (fields.map written) ++ [.closeRecord] := by
  rw [record, Json.record, List.map_map]
  rfl

theorem spelled_written (field : Field) :
    ∀ token ∈ field.written, token.Spelled token.spelling := by
  intro token member
  rw [written, List.mem_cons, List.mem_cons] at member
  rcases member with rfl | rfl | inValue
  · exact .text (spells_flatMap_writeCharacter field.name.toList)
  · exact .colon
  · exact field.spelled token inValue

theorem parted_written (field : Field) : Parted field.written :=
  .cons rfl (.cons rfl field.parted)

theorem spelled_record (fields : List Field) :
    ∀ token ∈ record fields, token.Spelled token.spelling := by
  intro token member
  rw [record_eq, List.cons_append, List.mem_cons, List.mem_append, List.mem_singleton] at member
  rcases member with rfl | inFields | rfl
  · exact .openRecord
  · rcases mem_separate inFields with rfl | ⟨item, itemMember, inItem⟩
    · exact .comma
    · obtain ⟨field, -, rfl⟩ := List.mem_map.mp itemMember
      exact field.spelled_written token inItem
  · exact .closeRecord

theorem parted_record (fields : List Field) : Parted (record fields) := by
  rw [record_eq]
  apply Parted.cons rfl
  apply parted_separate _ rfl
  intro item member
  obtain ⟨field, -, rfl⟩ := List.mem_map.mp member
  exact field.parted_written

theorem flatMap_spelling_record (fields : List Field) :
    (record fields).flatMap Token.spelling =
      recordCharacters (fields.map fun field => (field.name, field.characters)) := by
  have each : (fields.map written).map (fun item => item.flatMap Token.spelling) =
      (fields.map fun field => (field.name, field.characters)).map
        fun (name, value) => Compact.characters name ++ ':' :: value := by
    rw [List.map_map, List.map_map]
    apply List.map_congr_left
    intro field _
    change (written field).flatMap Token.spelling = _ ++ ':' :: field.characters
    rw [written, List.flatMap_cons, List.flatMap_cons, field.flatMap_spelling]
    rfl
  rw [record_eq, List.flatMap_append, List.flatMap_cons, flatMap_spelling_separate, each]
  rfl

/-- What the text of a field looks like. -/
def outline (field : Field) : String × (List Char → Prop) :=
  (field.name, field.Text)

/-- A field is spelled by its name and its value, on either side of the colon. -/
theorem spaced_written_iff (field : Field) (text : List Char) :
    Spaced field.written text ↔ Padded (FieldText · field.outline) text := by
  change Spaced (Write.tokens field.name ++ .colon :: field.tokens) text ↔ _
  rw [spaced_mark_iff spelled_colon_iff]
  simp only [denotes_string field.name _, field.spaced_iff]
  constructor
  · rintro ⟨_, _, rfl, ⟨before, key, between, rfl, blankBefore, blankBetween, named⟩,
      ⟨behind, value, after, rfl, blankBehind, blankAfter, denoted⟩⟩
    exact ⟨before, key ++ (between ++ ':' :: (behind ++ value)), after, by simp, blankBefore,
      blankAfter, key, between, behind, value, rfl, named, blankBetween, blankBehind, denoted⟩
  · rintro ⟨before, _, after, rfl, blankBefore, blankAfter, key, between, behind, value, rfl, named,
      blankBetween, blankBehind, denoted⟩
    exact ⟨before ++ (key ++ between), behind ++ (value ++ after), by simp,
      ⟨before, key, between, rfl, blankBefore, blankBetween, named⟩,
      ⟨behind, value, after, rfl, blankBehind, blankAfter, denoted⟩⟩

/-- What is written for a record is spelled by the records of the grammar. -/
theorem spaced_record_iff {fields : List Field} (nonempty : fields ≠ []) (text : List Char) :
    Spaced (record fields) text ↔ Padded (RecordText (fields.map outline)) text := by
  rw [record_eq]
  apply (spaced_enclosed_iff spelled_openRecord_iff spelled_closeRecord_iff).trans
  apply Padded.congr
  intro body
  exact exists_congr fun inside =>
    and_congr_right fun _ => spaced_items_iff spaced_written_iff nonempty inside

end Field

end SpreadFlow.Json
