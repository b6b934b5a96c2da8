/-
Module: SpreadFlow.Proofs.Config.Layout
Purpose: Documents of entries, blank lines and comments, as a person may lay them out.
Main exports: Layout.Name, Layout.Comment, Layout.Entry, Layout.Mark, Layout.Line, Layout.entries,
  Layout.text, Layout.content
-/
import Mathlib.Data.List.Basic

namespace SpreadFlow.Layout

/-!
A document gives values to keys, an entry to a line.  Between the entries there may be blank lines
and comments.  What a document says is its list of entries.  How it is laid out and how the entries
are quoted is left to whoever writes it, so a reader must find the same entries in all its texts.

The lines are common to all formats.  A format only adds how one entry is written, in a style of
its own.
-/

/-! ### Characters -/

/-- The letters, digits and the underscore. -/
def isLetter (character : Char) : Bool :=
  character.isAlphanum || character = '_'

/-- The printable characters of ASCII. -/
def isPrinting (character : Char) : Bool :=
  ' ' ≤ character && character ≤ '~'

/-- A character of a class differs from each one outside the class. -/
theorem ne_of_class {isMember : Char → Bool} {character other : Char}
    (member : isMember character = true) (outside : isMember other = false) :
    character ≠ other := by
  rintro rfl
  rw [member] at outside
  exact Bool.noConfusion outside

theorem isLetter_eq (character : Char) :
    isLetter character =
      (((decide ('A' ≤ character ∧ character ≤ 'Z') || ('a' ≤ character && character ≤ 'z')) ||
        ('0' ≤ character && character ≤ '9')) || character = '_') :=
  rfl

theorem isPrinting_of_isLetter {character : Char} (letter : isLetter character = true) :
    isPrinting character = true := by
  rw [isLetter_eq] at letter
  simp only [Bool.or_eq_true, Bool.and_eq_true, decide_eq_true_eq, Char.le_def,
    UInt32.le_iff_toNat_le] at letter
  simp only [isPrinting, Bool.and_eq_true, decide_eq_true_eq, Char.le_def, UInt32.le_iff_toNat_le]
  have space : ' '.val.toNat = 32 := rfl
  have tilde : '~'.val.toNat = 126 := rfl
  have upper : 'A'.val.toNat = 65 ∧ 'Z'.val.toNat = 90 := ⟨rfl, rfl⟩
  have lower : 'a'.val.toNat = 97 ∧ 'z'.val.toNat = 122 := ⟨rfl, rfl⟩
  have digit : '0'.val.toNat = 48 ∧ '9'.val.toNat = 57 := ⟨rfl, rfl⟩
  rcases letter with ((isUpper | isLower) | isDigit) | rfl
  · omega
  · omega
  · omega
  · decide

/-! ### Entries -/

/-- A word of letters, digits and underscores. -/
structure Name where
  characters : List Char
  nonempty : characters ≠ []
  letters : ∀ character ∈ characters, isLetter character = true
deriving DecidableEq

/-- The name as a text. -/
def Name.text (name : Name) : String :=
  String.ofList name.characters

/-- A name begins with a letter. -/
theorem Name.exists_eq_cons (name : Name) :
    ∃ first others, name.characters = first :: others ∧ isLetter first = true := by
  obtain ⟨first, others, shape⟩ := List.exists_cons_of_ne_nil name.nonempty
  exact ⟨first, others, shape, name.letters first (shape ▸ List.mem_cons_self)⟩

/-- A text that begins with a name begins with no other character than a letter. -/
theorem Name.append_ne_cons (name : Name) {other : Char} (outside : isLetter other = false)
    {rest last : List Char} : name.characters ++ rest ≠ other :: last := by
  obtain ⟨first, others, shape, letter⟩ := name.exists_eq_cons
  intro same
  rw [shape] at same
  exact ne_of_class letter outside (List.cons.inj same).1

/-- A key with the value given to it. -/
structure Entry where
  key : Name
  value : Name
deriving DecidableEq

/-- The texts of the key and of the value. -/
def Entry.setting (entry : Entry) : String × String :=
  (entry.key.text, entry.value.text)

/-- The marks that may stand around a word. -/
inductive Mark where
  | single
  | double
deriving Repr, DecidableEq

def Mark.character : Mark → Char
  | .single => '\''
  | .double => '"'

/-- A word between two marks. -/
def Mark.around (mark : Mark) (word : List Char) : List Char :=
  mark.character :: (word ++ [mark.character])

/-- A word, with marks around it or without. -/
def quoted : Option Mark → List Char → List Char
  | none, word => word
  | some mark, word => mark.around word

theorem Name.printing (name : Name) :
    ∀ character ∈ name.characters, isPrinting character = true :=
  fun character member => isPrinting_of_isLetter (name.letters character member)

theorem Mark.printing_around (mark : Mark) (name : Name) :
    ∀ character ∈ mark.around name.characters, isPrinting character = true := by
  have sign : isPrinting mark.character = true := by cases mark <;> rfl
  intro character member
  rcases List.mem_cons.mp member with rfl | member
  · exact sign
  · rcases List.mem_append.mp member with member | member
    · exact name.printing character member
    · rw [List.mem_singleton.mp member]
      exact sign

theorem printing_quoted (mark : Option Mark) (name : Name) :
    ∀ character ∈ quoted mark name.characters, isPrinting character = true := by
  cases mark with
  | none => exact name.printing
  | some mark => exact mark.printing_around name

/-- The characters that an entry may begin with: letters and the marks. -/
def isOpening (character : Char) : Bool :=
  isLetter character || character = '\'' || character = '"'

theorem exists_quoted_eq_cons (mark : Option Mark) (name : Name) :
    ∃ first others, quoted mark name.characters = first :: others ∧ isOpening first = true := by
  cases mark with
  | none =>
      obtain ⟨first, others, shape, letter⟩ := name.exists_eq_cons
      exact ⟨first, others, shape, by simp [isOpening, letter]⟩
  | some mark =>
      have opening : isOpening mark.character = true := by cases mark <;> rfl
      exact ⟨mark.character, _, rfl, opening⟩

theorem quoted_append_ne_cons (mark : Option Mark) (name : Name) {other : Char}
    (outside : isOpening other = false) {rest last : List Char} :
    quoted mark name.characters ++ rest ≠ other :: last := by
  obtain ⟨first, others, shape, opening⟩ := exists_quoted_eq_cons mark name
  intro same
  rw [shape] at same
  exact ne_of_class opening outside (List.cons.inj same).1

/-! ### Lines -/

/-- The text of a comment, after the sign that opens it. -/
structure Comment where
  characters : List Char
  printing : ∀ character ∈ characters, isPrinting character = true
deriving DecidableEq

/-- A line of a document.  An entry is written in one of its format's styles. -/
inductive Line (Style : Type) where
  | blank (indent : Nat)
  | comment (indent : Nat) (remark : Comment)
  | entry (style : Style) (given : Entry)
deriving DecidableEq

section

variable {Style : Type}

/-- The entry on a line, if there is one. -/
def Line.entry? : Line Style → Option Entry
  | .blank _ => none
  | .comment _ _ => none
  | .entry _ given => some given

/-- The entries of a document, in order. -/
def entries (lines : List (Line Style)) : List Entry :=
  lines.filterMap Line.entry?

/-- The lines from the first entry on. -/
def content (lines : List (Line Style)) : List (Line Style) :=
  lines.dropWhile fun line => line.entry?.isNone

/-- The characters of a line, for a way to write entries. -/
def Line.characters (write : Style → Entry → List Char) : Line Style → List Char
  | .blank indent => List.replicate indent ' '
  | .comment indent remark => List.replicate indent ' ' ++ '#' :: remark.characters
  | .entry style given => write style given

/-- The text of a document whose lines all end with a line feed. -/
def text (write : Style → Entry → List Char) (lines : List (Line Style)) : List Char :=
  lines.flatMap fun line => line.characters write ++ ['\n']

variable {write : Style → Entry → List Char}

@[simp] theorem text_nil : text write [] = [] :=
  rfl

@[simp] theorem text_cons (line : Line Style) (lines : List (Line Style)) :
    text write (line :: lines) = line.characters write ++ '\n' :: text write lines := by
  simp [text]

/-- If every way to write an entry is printable, so is every line. -/
theorem Line.printing (writePrinting : ∀ style entry,
      ∀ character ∈ write style entry, isPrinting character = true) (line : Line Style) :
    ∀ character ∈ line.characters write, isPrinting character = true := by
  intro character member
  cases line with
  | blank indent =>
      rw [List.eq_of_mem_replicate member]
      rfl
  | comment indent remark =>
      rcases List.mem_append.mp member with indented | member
      · rw [List.eq_of_mem_replicate indented]
        rfl
      · rcases List.mem_cons.mp member with rfl | member
        · rfl
        · exact remark.printing character member
  | entry style given => exact writePrinting style given character member

/-- A document holds nothing but printable characters and line feeds. -/
theorem printing_or_eq_of_mem_text (writePrinting : ∀ style entry,
      ∀ character ∈ write style entry, isPrinting character = true) (lines : List (Line Style)) :
    ∀ character ∈ text write lines, isPrinting character = true ∨ character = '\n' := by
  intro character member
  obtain ⟨line, -, member⟩ := List.mem_flatMap.mp member
  rcases List.mem_append.mp member with inLine | ending
  · exact .inl (line.printing writePrinting character inLine)
  · exact .inr (List.mem_singleton.mp ending)

@[simp] theorem text_eq_nil_iff {lines : List (Line Style)} :
    text write lines = [] ↔ lines = [] := by
  cases lines with
  | nil => simp
  | cons line lines => simp

/-- A document either has no entry, or its content begins with the first one. -/
theorem content_cases (lines : List (Line Style)) :
    (content lines = [] ∧ entries lines = []) ∨
      ∃ style given others, content lines = .entry style given :: others ∧
        entries lines = given :: entries others := by
  induction lines with
  | nil => exact .inl ⟨rfl, rfl⟩
  | cons line lines inductionHypothesis =>
      cases line with
      | blank | comment => exact inductionHypothesis
      | entry style given => exact .inr ⟨style, given, lines, rfl, rfl⟩

end

end SpreadFlow.Layout
