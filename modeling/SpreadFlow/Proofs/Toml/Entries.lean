/-
Module: SpreadFlow.Proofs.Toml.Entries
Purpose: A TOML document of entries is read as its entries, in whatever layout it is written.
Main exports: Toml.Style, Toml.Ending, Toml.source, Toml.statements?_source,
  Toml.settings?_map_statement
-/
import SpreadFlow.Proofs.Config.Layout
import SpreadFlow.Toml.Document

namespace SpreadFlow.Toml

open Layout

/-!
Blank lines and comments are a gap, and a reader of statements skips gaps.  So the induction goes
over the lines: a gap leaves the statements as they are, and an entry adds one.  Every part of an
entry is read up to its own end, whatever follows.
-/

/-! ### Documents -/

/-- How an entry is written: with which marks around the key, if any, and around the value. -/
structure Style where
  key : Option Mark
  value : Mark
deriving Repr, DecidableEq

/-- How a line ends: with a line feed, before which a carriage return may stand. -/
inductive Ending where
  | feed
  | returnFeed
deriving Repr, DecidableEq

def Ending.characters : Ending → List Char
  | .feed => ['\n']
  | .returnFeed => ['\r', '\n']

/-- The line of an entry. -/
def writeEntry (style : Style) (entry : Entry) : List Char :=
  quoted style.key entry.key.characters ++ ' ' :: '=' :: ' ' ::
    style.value.around entry.value.characters

/-- The text of a document whose lines end in different ways. -/
def source (lines : List (Line Style × Ending)) : List Char :=
  lines.flatMap fun (line, ending) => line.characters writeEntry ++ ending.characters

/-- What an entry states. -/
def statement (entry : Entry) : Statement :=
  .entry [entry.key.text] (.text entry.value.text)

/-! ### Lines -/

theorem printing_writeEntry (style : Style) (entry : Entry) :
    ∀ character ∈ writeEntry style entry, isPrinting character = true := by
  intro character member
  rcases List.mem_append.mp member with inKey | member
  · exact printing_quoted style.key entry.key character inKey
  · simp only [List.mem_cons] at member
    rcases member with rfl | rfl | rfl | member
    · rfl
    · rfl
    · rfl
    · exact style.value.printing_around entry.value character member

theorem unifyBreaks_append {front : List Char} (noReturn : '\r' ∉ front) (rest : List Char) :
    unifyBreaks (front ++ rest) = front ++ unifyBreaks rest := by
  induction front with
  | nil => rfl
  | cons character front inductionHypothesis =>
      obtain ⟨different, others⟩ := not_or.mp (List.mem_cons.not.mp noReturn)
      have noBreak : ∀ last, character = '\r' → front ++ rest = '\n' :: last → False :=
        fun _ same _ => different same.symm
      rw [List.cons_append, unifyBreaks.eq_3 _ _ noBreak, inductionHypothesis others]
      rfl

/-- Once the line breaks are unified, it makes no difference how the lines ended. -/
theorem unifyBreaks_source (lines : List (Line Style × Ending)) :
    unifyBreaks (source lines) = text writeEntry (lines.map Prod.fst) := by
  induction lines with
  | nil => rfl
  | cons pair lines inductionHypothesis =>
      obtain ⟨line, ending⟩ := pair
      have noReturn : '\r' ∉ line.characters writeEntry := fun member =>
        Bool.noConfusion (line.printing printing_writeEntry '\r' member)
      have joined : source ((line, ending) :: lines) =
          line.characters writeEntry ++ (ending.characters ++ source lines) := by
        simp [source]
      have broken : unifyBreaks (ending.characters ++ source lines) =
          '\n' :: unifyBreaks (source lines) := by
        cases ending with
        | feed => exact unifyBreaks.eq_3 _ _ nofun
        | returnFeed => rfl
      rw [joined, unifyBreaks_append noReturn, broken, inductionHypothesis]
      exact (text_cons line (lines.map Prod.fst)).symm

theorem dropMark_eq_self {text : List Char} (noMark : '\uFEFF' ∉ text) : dropMark text = text := by
  unfold dropMark
  split
  · exact absurd List.mem_cons_self noMark
  · rfl

theorem mark_not_mem_source (lines : List (Line Style × Ending)) : '\uFEFF' ∉ source lines := by
  intro member
  obtain ⟨⟨line, ending⟩, -, member⟩ := List.mem_flatMap.mp member
  rcases List.mem_append.mp member with inLine | inEnding
  · exact Bool.noConfusion (line.printing printing_writeEntry '\uFEFF' inLine)
  · cases ending <;> simp [Ending.characters] at inEnding

/-! ### Gaps -/

theorem skipGap_blanks (indent : Nat) (rest : List Char) :
    skipGap false (List.replicate indent ' ' ++ rest) = skipGap false rest := by
  induction indent with
  | zero => rfl
  | succ indent inductionHypothesis => exact inductionHypothesis

theorem isVisible_of_isPrinting {character : Char} (printing : isPrinting character = true) :
    isVisible character = true := by
  have noDelete : character ≠ '\x7f' := ne_of_class printing (by decide)
  simp only [isPrinting, Bool.and_eq_true, decide_eq_true_eq] at printing
  simp [isVisible, printing.1, noDelete]

theorem skipGap_remark {remark : List Char}
    (printing : ∀ character ∈ remark, isPrinting character = true) (rest : List Char) :
    skipGap true (remark ++ '\n' :: rest) = skipGap false rest := by
  induction remark with
  | nil => rfl
  | cons character remark inductionHypothesis =>
      obtain ⟨first, others⟩ := List.forall_mem_cons.mp printing
      have noBreak : character ≠ '\n' := ne_of_class first (by decide)
      rw [List.cons_append, skipGap, if_neg noBreak, isVisible_of_isPrinting first]
      exact inductionHypothesis others

/-- Blank lines and comments are part of a gap. -/
theorem skipGap_line {line : Line Style} (noEntry : line.entry? = none) (rest : List Char) :
    skipGap false (line.characters writeEntry ++ '\n' :: rest) = skipGap false rest := by
  cases line with
  | blank indent => exact skipGap_blanks indent ('\n' :: rest)
  | comment indent remark =>
      rw [Line.characters, List.append_assoc, skipGap_blanks]
      exact skipGap_remark remark.printing rest
  | entry style given => cases noEntry

/-- The statements depend only on what follows the gap at the start. -/
theorem readStatements?_eq (text : List Char) :
    readStatements? text = match skipGap false text with
      | [] => some []
      | character :: rest =>
          (readStatement? (character :: rest)).bind fun (statement, last) =>
            (readStatements? last).map (statement :: ·) := by
  rw [readStatements?]
  split
  · rename_i ended
    rw [ended]
  · rename_i character rest shape
    rw [shape]
    split
    · rename_i refused
      simp only [refused, Option.bind_none]
    · rename_i read
      simp only [read, Option.bind_some]

/-! ### Parts of an entry -/

theorem readLiteral?_append {allows : Char → Bool} {body : List Char}
    (plain : ∀ character ∈ body, isLiteral allows character = true) (rest : List Char) :
    readLiteral? allows (body ++ '\'' :: rest) = some (body, rest) := by
  have closing : isLiteral allows '\'' = false := by simp [isLiteral]
  rw [readLiteral?, List.dropWhile_append_of_pos plain, List.takeWhile_append_of_pos plain]
  simp [closing]

theorem basic_allows {character : Char} (letter : isLetter character = true) :
    basic.allows character = true ∧ character ≠ '"' ∧ character ≠ '\\' :=
  ⟨isVisible_of_isPrinting (isPrinting_of_isLetter letter),
    ne_of_class letter (by decide), ne_of_class letter (by decide)⟩

theorem isLiteral_of_isLetter {character : Char} (letter : isLetter character = true) :
    isLiteral isVisible character = true := by
  have noQuote : character ≠ '\'' := ne_of_class letter (by decide)
  simp [isLiteral, isVisible_of_isPrinting (isPrinting_of_isLetter letter), noQuote]

theorem read?_basic_name (name : Name) (rest : List Char) :
    basic.read? (name.characters ++ '"' :: rest) = some (name.characters, rest) :=
  Quotation.read?_append (fun character member => basic_allows (name.letters character member)) rest

theorem readLiteral?_name (name : Name) (rest : List Char) :
    readLiteral? isVisible (name.characters ++ '\'' :: rest) = some (name.characters, rest) :=
  readLiteral?_append
    (fun character member => isLiteral_of_isLetter (name.letters character member)) rest

theorem isBare_of_isLetter {character : Char} (letter : isLetter character = true) :
    isBare character = true := by
  rw [isBare]
  exact Bool.or_eq_true_iff.mpr (.inl letter)

/-- A name between marks is read as a string. -/
theorem readString?_around (mark : Mark) (name : Name) (rest : List Char) :
    readString? (mark.around name.characters ++ rest) = some (name.characters, rest) := by
  rw [Mark.around, List.cons_append, List.append_assoc, List.singleton_append]
  cases mark with
  | single =>
      have noBlock : ∀ last, name.characters ++ '\'' :: rest = '\'' :: '\'' :: last → False :=
        fun _ => name.append_ne_cons (by decide)
      exact (readString?.eq_4 _ noBlock).trans (readLiteral?_name name rest)
  | double =>
      have noBlock : ∀ last, name.characters ++ '"' :: rest = '"' :: '"' :: last → False :=
        fun _ => name.append_ne_cons (by decide)
      exact (readString?.eq_2 _ noBlock).trans (read?_basic_name name rest)

/-- A name before a blank is read as a key, with marks or without. -/
theorem readKey?_quoted (mark : Option Mark) (name : Name) (rest : List Char) :
    readKey? (quoted mark name.characters ++ ' ' :: rest) =
      some (name.characters, ' ' :: rest) := by
  cases mark with
  | none =>
      have bare : ∀ character ∈ name.characters, isBare character = true :=
        fun _ member => isBare_of_isLetter (name.letters _ member)
      rw [quoted, readKey?.eq_3 _ (fun _ => name.append_ne_cons (by decide))
        (fun _ => name.append_ne_cons (by decide)), List.takeWhile_append_of_pos bare,
        List.dropWhile_append_of_pos bare]
      have noBlank : isBare ' ' = false := by decide
      obtain ⟨first, others, shape, -⟩ := name.exists_eq_cons
      simp [shape, noBlank]
  | some mark =>
      rw [quoted, Mark.around, List.cons_append, List.append_assoc, List.singleton_append]
      cases mark with
      | single => exact readLiteral?_name name (' ' :: rest)
      | double => exact read?_basic_name name (' ' :: rest)

theorem skipBlanks_quoted (mark : Option Mark) (name : Name) (rest : List Char) :
    skipBlanks (quoted mark name.characters ++ rest) = quoted mark name.characters ++ rest := by
  obtain ⟨first, others, shape, opening⟩ := exists_quoted_eq_cons mark name
  have noSpace : first ≠ ' ' := ne_of_class opening (by decide)
  have noTab : first ≠ '\t' := ne_of_class opening (by decide)
  rw [shape]
  exact List.dropWhile_cons_of_neg (by simp [isBlank, noSpace, noTab])

/-- A name before the sign of equality is read as a path of one key. -/
theorem readPath?_quoted (mark : Option Mark) (name : Name) (rest : List Char) :
    readPath? (quoted mark name.characters ++ ' ' :: '=' :: rest) =
      some ([name.text], '=' :: rest) := by
  have key := readKey?_quoted mark name ('=' :: rest)
  have sign : skipBlanks (' ' :: '=' :: rest) = '=' :: rest := by
    simp [skipBlanks, isBlank]
  rw [readPath?, skipBlanks_quoted]
  split
  case h_1 refused => rw [key] at refused; cases refused
  case h_2 read =>
    rw [key] at read
    cases read
    split
    case h_1 shape => rw [sign] at shape; cases shape
    case h_2 => rw [sign, Name.text]

/-- The line of an entry is read as what it states, whatever lines follow. -/
theorem readStatement?_writeEntry (style : Style) (entry : Entry) (rest : List Char) :
    readStatement? (writeEntry style entry ++ '\n' :: rest) = some (statement entry, rest) := by
  have same : writeEntry style entry ++ '\n' :: rest = quoted style.key entry.key.characters ++
      ' ' :: '=' :: ' ' :: (style.value.around entry.value.characters ++ '\n' :: rest) := by
    simp [writeEntry]
  have path := readPath?_quoted style.key entry.key
    (' ' :: (style.value.around entry.value.characters ++ '\n' :: rest))
  have afterSign : skipBlanks (' ' :: (style.value.around entry.value.characters ++ '\n' :: rest)) =
      style.value.around entry.value.characters ++ '\n' :: rest := by
    cases style.value with
    | single => rfl
    | double => rfl
  have value : readValue? (style.value.around entry.value.characters ++ '\n' :: rest) =
      some (.text entry.value.text, '\n' :: rest) := by
    rw [readValue?, readString?_around]
    rfl
  have ended : afterLine? ('\n' :: rest) = some rest := rfl
  rw [same, readStatement?.eq_2 _ (fun _ => quoted_append_ne_cons style.key entry.key (by decide)),
    path]
  simp only [afterSign, value, ended, Option.bind_eq_bind, Option.bind_some, Option.map_some,
    statement]

/-! ### Statements -/

theorem skipGap_writeEntry (style : Style) (entry : Entry) (rest : List Char) :
    skipGap false (writeEntry style entry ++ rest) = writeEntry style entry ++ rest := by
  obtain ⟨first, others, shape, opening⟩ := exists_quoted_eq_cons style.key entry.key
  have noBreak : first ≠ '\n' := ne_of_class opening (by decide)
  have noSpace : first ≠ ' ' := ne_of_class opening (by decide)
  have noTab : first ≠ '\t' := ne_of_class opening (by decide)
  have noSign : first ≠ '#' := ne_of_class opening (by decide)
  simp [writeEntry, shape, skipGap, isBlank, noBreak, noSpace, noTab, noSign]

theorem readStatements?_writeEntry (style : Style) (entry : Entry) (rest : List Char) :
    readStatements? (writeEntry style entry ++ '\n' :: rest) =
      (readStatements? rest).map (statement entry :: ·) := by
  obtain ⟨first, others, shape, -⟩ := exists_quoted_eq_cons style.key entry.key
  have read := readStatement?_writeEntry style entry rest
  rw [readStatements?_eq, skipGap_writeEntry]
  rw [writeEntry, shape] at read ⊢
  simp only [List.cons_append] at read ⊢
  rw [read, Option.bind_some]

/-- The statements of a document are those of its entries. -/
theorem readStatements?_text (lines : List (Line Style)) :
    readStatements? (text writeEntry lines) = some ((entries lines).map statement) := by
  induction lines with
  | nil => simp [readStatements?_eq, skipGap, entries]
  | cons line lines inductionHypothesis =>
      rw [text_cons]
      cases line with
      | blank | comment =>
          -- Only what follows the gap is looked at, and the line is part of the gap.
          rw [readStatements?_eq, skipGap_line rfl, ← readStatements?_eq]
          exact inductionHypothesis
      | entry style given =>
          rw [Line.characters, readStatements?_writeEntry, inductionHypothesis]
          rfl

/-- A document is read as the statements of its entries, however its lines end. -/
theorem statements?_source (lines : List (Line Style × Ending)) :
    statements? (source lines) = some ((entries (lines.map Prod.fst)).map statement) := by
  rw [statements?, dropMark_eq_self (mark_not_mem_source lines), unifyBreaks_source,
    readStatements?_text]

/-- Every entry gives a name to a key. -/
theorem settings?_map_statement (given : List Entry) :
    settings? (given.map statement) = some (given.map Entry.setting) := by
  induction given with
  | nil => simp [settings?, tableSettings?]
  | cons entry given inductionHypothesis =>
      simp [statement, settings?, inductionHypothesis, Entry.setting]

end SpreadFlow.Toml
