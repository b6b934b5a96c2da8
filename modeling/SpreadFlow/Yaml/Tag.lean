/-
Module: SpreadFlow.Yaml.Tag
Purpose: YAML tags: how they are spelled, the handles that shorten them, and the names they carry.
Main exports: Yaml.Tag, Yaml.Tag.localName?, Yaml.Handles, Yaml.readTag?
-/
import SpreadFlow.Text.Hex
import SpreadFlow.Yaml.Layout

namespace SpreadFlow.Yaml

/-!
A tag is a name for the kind of a value.  It is spelled out between angle brackets, or begins with a
handle that stands for its first part.  Octets that are no ASCII characters are written as a percent
sign and two hexadecimal digits.
-/

/-- The characters of a tag.  Escaped octets may have the form of a character and yet be none. -/
abbrev Tag := List (Option Char)

/-- The tag of a text. -/
def Tag.ofText (text : String) : Tag :=
  text.toList.map some

/-- The name that a local tag carries: what follows its exclamation mark, or the mark itself if
nothing does.  A tag that is no text is not local. -/
def Tag.localName? : Tag → Option String
  | [some '!'] => some "!"
  | some '!' :: name => (name.mapM id).map String.ofList
  | _ => none

/-- What handles stand for. -/
abbrev Handles := List (List Char × Tag)

/-- The characters of handles and anchors. -/
def isWord (character : Char) : Bool :=
  character.isAlphanum || character = '_' || character = '-'

/-! ### Spelling -/

/-- An octet, written as a percent sign and two hexadecimal digits. -/
def readOctet? : List Char → Option (Nat × List Char)
  | '%' :: rest => Hex.read? 2 rest
  | _ => none

/-- The value that `count` octets continue, six bits in each. -/
def readTrail? : Nat → Nat → List Char → Option (Nat × List Char)
  | 0, value, text => some (value, text)
  | count + 1, value, text => do
      let (octet, rest) ← readOctet? text
      if octet / 64 = 2 then readTrail? count (64 * value + octet % 64) rest else none

/-- The form of a sequence of octets, from its first: how many follow, the bits of the value that it
holds itself, and the least value that needs so many. -/
def sequenceForm? (lead : Nat) : Option (Nat × Nat × Nat) :=
  if lead < 0x80 then some (0, lead, 0)
  else if lead / 32 = 6 then some (1, lead % 32, 0x80)
  else if lead / 16 = 14 then some (2, lead % 16, 0x800)
  else if lead / 8 = 30 then some (3, lead % 8, 0x10000)
  else none

/-- An escaped character.  Octets that only have the form of a character are none. -/
def readEscaped? (text : List Char) : Option (Option Char × List Char) := do
  let (lead, afterLead) ← readOctet? text
  let (count, bits, least) ← sequenceForm? lead
  let (value, rest) ← readTrail? count bits afterLead
  some (if least ≤ value ∧ value.isValidChar then some (Char.ofNat value) else none, rest)

theorem readOctet?_shorter {text rest : List Char} {octet : Nat}
    (read : readOctet? text = some (octet, rest)) : rest.length < text.length := by
  unfold readOctet? at read
  split at read
  · exact Nat.lt_succ_of_le (Hex.read?_length_le read)
  · simp at read

theorem readTrail?_length_le {count value result : Nat} {text rest : List Char}
    (read : readTrail? count value text = some (result, rest)) : rest.length ≤ text.length := by
  induction count generalizing value text with
  | zero =>
      simp only [readTrail?, Option.some.injEq, Prod.mk.injEq] at read
      simp [read.2]
  | succ count inductionHypothesis =>
      simp only [readTrail?, Option.bind_eq_bind, Option.bind_eq_some_iff] at read
      obtain ⟨⟨octet, after⟩, octetRead, read⟩ := read
      split at read
      · exact Nat.le_trans (inductionHypothesis read) (Nat.le_of_lt (readOctet?_shorter octetRead))
      · simp at read

/-- An escaped character takes at least one character. -/
theorem readEscaped?_shorter {text rest : List Char} {character : Option Char}
    (read : readEscaped? text = some (character, rest)) : rest.length < text.length := by
  simp only [readEscaped?, Option.bind_eq_bind, Option.bind_eq_some_iff, Option.some.injEq,
    Prod.mk.injEq] at read
  obtain ⟨⟨lead, afterLead⟩, leadRead, form, _, ⟨value, last⟩, trailRead, -, rfl⟩ := read
  exact Nat.lt_of_le_of_lt (readTrail?_length_le trailRead) (readOctet?_shorter leadRead)

/-- The characters of a tag that stand for themselves.  The marks of flow form may be among them
only where the tag is spelled out. -/
def isTagCharacter (spelledOut : Bool) (character : Char) : Bool :=
  isWord character || character ∈ ";/?:@&=+$.!~*'()".toList
    || (spelledOut && character ∈ [',', '[', ']'])

/-- The characters of a tag as far as they go, with what follows them. -/
def readCharacters? (spelledOut : Bool) (text : List Char) : Option (Tag × List Char) :=
  match text with
  | [] => some ([], [])
  | character :: rest =>
      if character = '%' then
        match _ : readEscaped? (character :: rest) with
        | none => none
        | some (escaped, after) =>
            (readCharacters? spelledOut after).map fun (tag, last) => (escaped :: tag, last)
      else if isTagCharacter spelledOut character then
        (readCharacters? spelledOut rest).map fun (tag, last) => (some character :: tag, last)
      else some ([], character :: rest)
termination_by text.length
decreasing_by
  · exact readEscaped?_shorter (by assumption)
  · simp

theorem readCharacters?_length_le {spelledOut : Bool} {text rest : List Char} {tag : Tag}
    (read : readCharacters? spelledOut text = some (tag, rest)) : rest.length ≤ text.length := by
  fun_induction readCharacters? spelledOut text generalizing tag rest with
  | case1 =>
      simp only [Option.some.injEq, Prod.mk.injEq] at read
      simp [← read.2]
  | case2 => simp at read
  | case3 tail escaped after escape inductionHypothesis =>
      simp only [Option.map_eq_some_iff, Prod.mk.injEq] at read
      obtain ⟨⟨inner, last⟩, inside, -, rfl⟩ := read
      exact Nat.le_trans (inductionHypothesis inside) (Nat.le_of_lt (readEscaped?_shorter escape))
  | case4 character tail percent allowed inductionHypothesis =>
      simp only [Option.map_eq_some_iff, Prod.mk.injEq] at read
      obtain ⟨⟨inner, last⟩, inside, -, rfl⟩ := read
      exact Nat.le_succ_of_le (inductionHypothesis inside)
  | case5 =>
      simp only [Option.some.injEq, Prod.mk.injEq] at read
      simp [← read.2]

/-- A tag ends before its first null character. -/
def beforeNull (tag : Tag) : Tag :=
  tag.takeWhile (· ≠ some '\x00')

/-- A part of a tag, which must be spelled with at least one character. -/
def readPart? (spelledOut : Bool) (text : List Char) : Option (Tag × List Char) :=
  match readCharacters? spelledOut text with
  | none | some ([], _) => none
  | some (tag, rest) => some (beforeNull tag, rest)

theorem readPart?_length_le {spelledOut : Bool} {text rest : List Char} {tag : Tag}
    (read : readPart? spelledOut text = some (tag, rest)) : rest.length ≤ text.length := by
  unfold readPart? at read
  split at read
  · simp at read
  · simp at read
  · rename_i inner
    simp only [Option.some.injEq, Prod.mk.injEq] at read
    exact read.2 ▸ readCharacters?_length_le inner

/-- A handle with a second exclamation mark, read from after the first. -/
def readHandle? (text : List Char) : Option (List Char × List Char) :=
  match text.dropWhile isWord with
  | '!' :: rest => some ('!' :: text.takeWhile isWord ++ ['!'], rest)
  | _ => none

theorem readHandle?_length_le {text rest handle : List Char}
    (read : readHandle? text = some (handle, rest)) : rest.length ≤ text.length := by
  have word := (List.dropWhile_sublist isWord (l := text)).length_le
  unfold readHandle? at read
  split at read
  · rename_i shape
    simp only [Option.some.injEq, Prod.mk.injEq] at read
    rw [shape, List.length_cons, read.2] at word
    omega
  · simp at read

/-- A tag, read from after its exclamation mark.  The mark alone is a tag, too. -/
def readTag? (handles : Handles) : List Char → Option (Tag × List Char)
  | '<' :: spelling =>
      match readPart? true spelling with
      | some (tag, '>' :: rest) => some (tag, rest)
      | _ => none
  | text =>
      match readHandle? text with
      | some (handle, afterHandle) => do
          let first ← handles.lookup handle
          let (tag, rest) ← readPart? false afterHandle
          some (first ++ tag, rest)
      | none => do
          let first ← handles.lookup ['!']
          let (tag, rest) ← readCharacters? false text
          some (if beforeNull tag = [] then Tag.ofText "!" else first ++ beforeNull tag, rest)

theorem readTag?_length_le {handles : Handles} {text rest : List Char} {tag : Tag}
    (read : readTag? handles text = some (tag, rest)) : rest.length ≤ text.length := by
  unfold readTag? at read
  split at read
  · split at read
    · rename_i inner
      have := readPart?_length_le inner
      simp only [Option.some.injEq, Prod.mk.injEq] at read
      simp only [List.length_cons, read.2] at *
      omega
    · simp at read
  · split at read
    · rename_i handleRead
      simp only [Option.bind_eq_bind, Option.bind_eq_some_iff, Option.some.injEq,
        Prod.mk.injEq] at read
      obtain ⟨first, -, ⟨part, last⟩, inner, -, rfl⟩ := read
      exact Nat.le_trans (readPart?_length_le inner) (readHandle?_length_le handleRead)
    · simp only [Option.bind_eq_bind, Option.bind_eq_some_iff, Option.some.injEq,
        Prod.mk.injEq] at read
      obtain ⟨first, -, ⟨part, last⟩, inner, -, rfl⟩ := read
      exact readCharacters?_length_le inner

end SpreadFlow.Yaml
