/-
Module: SpreadFlow.Proofs.Yaml.Entries
Purpose: A YAML document of entries is read as its entries, in whatever layout it is written.
Main exports: Yaml.Style, Yaml.source, Yaml.isNear, Yaml.document?_source
-/
import Mathlib.Data.List.TakeWhile
import SpreadFlow.Proofs.Config.Layout
import SpreadFlow.Yaml.Document

namespace SpreadFlow.Yaml

open Layout

/-!
A reader of YAML passes over the lines without an entry in three places: before the record, after a
plain value, where it looks for the value's continuation, and at the end.  All three lead to the
same place, the first line with a further entry or the end of the document.  What follows an entry
is therefore known from the lines after it, and the rest of a place is never computed.

A key is looked for only so far.  A longer one is no key at all, and then its document is refused.
-/

/-! ### Documents -/

/-- How an entry is written: with which marks around the key and the value, if any. -/
structure Style where
  key : Option Mark
  value : Option Mark
deriving Repr, DecidableEq

/-- The line of an entry. -/
def writeEntry (style : Style) (entry : Layout.Entry) : List Char :=
  quoted style.key entry.key.characters ++ ':' :: ' ' ::
    quoted style.value entry.value.characters

/-- The text of a document. -/
def source (lines : List (Line Style)) : List Char :=
  text writeEntry lines

theorem printing_writeEntry (style : Style) (entry : Layout.Entry) :
    ∀ character ∈ writeEntry style entry, isPrinting character = true := by
  intro character member
  rcases List.mem_append.mp member with inKey | member
  · exact printing_quoted style.key entry.key character inKey
  · simp only [List.mem_cons] at member
    rcases member with rfl | rfl | member
    · rfl
    · rfl
    · exact printing_quoted style.value entry.value character member

theorem text_cons_entry (style : Style) (given : Layout.Entry) (lines : List (Line Style)) :
    text writeEntry (.entry style given :: lines) = quoted style.key given.key.characters ++
      ':' :: ' ' ::
        (quoted style.value given.value.characters ++ '\n' :: text writeEntry lines) := by
  simp [Line.characters, writeEntry]

/-- The place of the first entry of a document, or of its end if there is none. -/
def front (lines : List (Line Style)) : Place :=
  ⟨some 0, false, text writeEntry (content lines)⟩

theorem front_rest_ne_cons {other : Char} (outside : isOpening other = false)
    (lines : List (Line Style)) {last : List Char} : (front lines).rest ≠ other :: last := by
  rcases content_cases lines with ⟨nothing, -⟩ | ⟨style, given, others, shape, -⟩
  · rw [front, nothing]
    exact nofun
  · rw [front, shape, text_cons_entry]
    exact quoted_append_ne_cons style.key given.key outside

/-! ### Characters -/

theorem isPrintable_of_isPrinting {character : Char} (printing : isPrinting character = true) :
    isPrintable character = true := by
  simp only [isPrinting, Bool.and_eq_true, decide_eq_true_eq] at printing
  simp [isPrintable, printing]

theorem source_all_isPrintable (lines : List (Line Style)) :
    (source lines).all isPrintable = true := by
  rw [List.all_eq_true]
  intro character member
  rcases printing_or_eq_of_mem_text printing_writeEntry lines character member with printing | rfl
  · exact isPrintable_of_isPrinting printing
  · rfl

theorem isBreak_of_isPrinting {character : Char} (printing : isPrinting character = true) :
    isBreak character = false := by
  have noFeed : character ≠ '\n' := ne_of_class printing (by decide)
  have noReturn : character ≠ '\r' := ne_of_class printing (by decide)
  have noNextLine : character ≠ '\u0085' := ne_of_class printing (by decide)
  have noLineMark : character ≠ '\u2028' := ne_of_class printing (by decide)
  have noParagraphMark : character ≠ '\u2029' := ne_of_class printing (by decide)
  simp [isBreak, noFeed, noReturn, noNextLine, noLineMark, noParagraphMark]

/-- Line feeds are the only breaks in a document, so that no break has to be unified. -/
theorem unifyBreaks_eq_self {text : List Char}
    (plain : ∀ character ∈ text, isPrinting character = true ∨ character = '\n') :
    unifyBreaks text = text := by
  induction text with
  | nil => rfl
  | cons character rest inductionHypothesis =>
      obtain ⟨first, others⟩ := List.forall_mem_cons.mp plain
      have noReturn : character ≠ '\r' := by
        rintro rfl
        exact first.elim nofun nofun
      have kept : (if isBreak character then '\n' else character) = character := by
        rcases first with printing | rfl
        · rw [isBreak_of_isPrinting printing]
          rfl
        · rfl
      rw [unifyBreaks.eq_3 _ _ (fun _ same => absurd same noReturn), kept,
        inductionHypothesis others]

/-! ### Lines without an entry -/

namespace Place

theorem skip_blanks (indent column : Nat) (rest : List Char) :
    skip false false false (some column) (List.replicate indent ' ' ++ rest) =
      skip false false false (some (column + indent)) rest := by
  induction indent generalizing column with
  | zero => rfl
  | succ indent inductionHypothesis =>
      have further : column + (indent + 1) = column + 1 + indent := by omega
      rw [further]
      exact inductionHypothesis (column + 1)

/-- A comment ends with its line, wherever it began. -/
theorem skip_remark {remark : List Char}
    (printing : ∀ character ∈ remark, isPrinting character = true) (tabs : Bool)
    (column : Option Nat) (rest : List Char) :
    skip false true tabs column (remark ++ '\n' :: rest) =
      skip false false false (some 0) rest := by
  induction remark with
  | nil => rfl
  | cons character remark inductionHypothesis =>
      obtain ⟨first, others⟩ := List.forall_mem_cons.mp printing
      have noBreak : character ≠ '\n' := ne_of_class first (by decide)
      rw [List.cons_append, skip, if_neg noBreak]
      exact inductionHypothesis others

/-- Blank lines and comments are passed over. -/
theorem skip_line {line : Line Style} (noEntry : line.entry? = none) (rest : List Char) :
    skip false false false (some 0) (line.characters writeEntry ++ '\n' :: rest) =
      skip false false false (some 0) rest := by
  cases line with
  | blank indent => exact skip_blanks indent 0 ('\n' :: rest)
  | comment indent remark =>
      rw [Line.characters, List.append_assoc, skip_blanks]
      exact skip_remark remark.printing false (some (0 + indent)) rest
  | entry style given => cases noEntry

/-- Nothing is passed over before a key or a value: it begins with neither a blank, a break nor a
sign of something else. -/
theorem skip_quoted (mark : Option Mark) (name : Name) (tabs : Bool) (column : Option Nat)
    (rest : List Char) :
    skip false false tabs column (quoted mark name.characters ++ rest) =
      ⟨column, tabs, quoted mark name.characters ++ rest⟩ := by
  obtain ⟨first, others, shape, opening⟩ := exists_quoted_eq_cons mark name
  have noBreak : first ≠ '\n' := ne_of_class opening (by decide)
  have noSpace : first ≠ ' ' := ne_of_class opening (by decide)
  have noTab : first ≠ '\t' := ne_of_class opening (by decide)
  have noMark : first ≠ byteOrderMark := ne_of_class opening (by decide)
  have noSign : first ≠ '#' := ne_of_class opening (by decide)
  simp [shape, skip, noBreak, noSpace, noTab, noMark, noSign]

/-- From the beginning of a line the way leads to the first entry or to the end. -/
theorem skip_text (lines : List (Line Style)) :
    skip false false false (some 0) (text writeEntry lines) = front lines := by
  induction lines with
  | nil => rfl
  | cons line lines inductionHypothesis =>
      cases line with
      | blank | comment =>
          rw [text_cons, skip_line rfl]
          exact inductionHypothesis
      | entry style given =>
          have same : content (.entry style given :: lines) = .entry style given :: lines := rfl
          rw [front, same, text_cons_entry, skip_quoted]

theorem next_front (lines : List (Line Style)) : (front lines).next false = front lines := by
  rcases content_cases lines with ⟨nothing, -⟩ | ⟨style, given, others, shape, -⟩
  · rw [front, nothing]
    rfl
  · rw [front, shape]
    exact skip_text (.entry style given :: others)

/-- Neither an entry nor the end of a document is a marker. -/
theorem isMarker_front {sign : Char} (outside : isOpening sign = false)
    (lines : List (Line Style)) : (front lines).isMarker sign = false := by
  cases shape : (front lines).rest with
  | nil => simp [isMarker, shape]
  | cons first last =>
      have noSign : first ≠ sign := by
        rintro rfl
        exact front_rest_ne_cons outside lines shape
      simp [isMarker, shape, noSign]

end Place

/-! ### Scalars -/

theorem readSingleQuoted?_append {body : List Char}
    (plain : ∀ character ∈ body, character ≠ '\'' ∧ character ≠ '\n') {rest : List Char}
    (parted : ∀ last, rest ≠ '\'' :: last) :
    readSingleQuoted? (body ++ '\'' :: rest) = some (body, rest) := by
  induction body with
  | nil => exact readSingleQuoted?.eq_2 _ parted
  | cons character body inductionHypothesis =>
      obtain ⟨⟨noQuote, noBreak⟩, others⟩ := List.forall_mem_cons.mp plain
      rw [List.cons_append, readSingleQuoted?.eq_3 _ _ (fun _ same => absurd same noQuote) noQuote,
        if_neg noBreak, inductionHypothesis others]
      rfl

theorem doubleQuoted_allows (joins : Bool) {character : Char}
    (letter : isLetter character = true) :
    (doubleQuoted joins).allows character = true ∧ character ≠ '"' ∧ character ≠ '\\' := by
  have noBreak : character ≠ '\n' := ne_of_class letter (by decide)
  exact ⟨decide_eq_true noBreak, ne_of_class letter (by decide), ne_of_class letter (by decide)⟩

theorem takeWord_append {body rest : List Char}
    (letters : ∀ character ∈ body, isLetter character = true)
    (ended : takeWord false rest = ([], rest)) : takeWord false (body ++ rest) = (body, rest) := by
  induction body with
  | nil => exact ended
  | cons character body inductionHypothesis =>
      obtain ⟨first, others⟩ := List.forall_mem_cons.mp letters
      have noBreak : character ≠ '\n' := ne_of_class first (by decide)
      have noSpace : character ≠ ' ' := ne_of_class first (by decide)
      have noTab : character ≠ '\t' := ne_of_class first (by decide)
      have noColon : character ≠ ':' := ne_of_class first (by decide)
      rw [List.cons_append, takeWord, inductionHypothesis others]
      simp [isParted, isBlank, noBreak, noSpace, noTab, noColon]

theorem beginsWord_append (name : Name) (rest : List Char) :
    beginsWord (name.characters ++ rest) = true := by
  obtain ⟨first, others, shape, letter⟩ := name.exists_eq_cons
  have noSpace : first ≠ ' ' := ne_of_class letter (by decide)
  have noTab : first ≠ '\t' := ne_of_class letter (by decide)
  have signs : ∀ other ∈ "\n-?:,[]\x7b\x7d#&*!|>'\"%@`".toList, (!isLetter other) = true :=
    List.all_eq_true.mp rfl
  have noSign := mt (signs first) (by simp [letter])
  rw [shape, List.cons_append, beginsWord, isBlank]
  simp only [noSpace, noTab, noSign]
  rfl

theorem readSingleQuoted?_name (name : Name) (rest : List Char)
    (parted : ∀ last, rest ≠ '\'' :: last) :
    readSingleQuoted? (name.characters ++ '\'' :: rest) = some (name.characters, rest) := by
  apply readSingleQuoted?_append _ parted
  intro character member
  have letter := name.letters character member
  exact ⟨ne_of_class letter (by decide), ne_of_class letter (by decide)⟩

theorem read?_doubleQuoted_name (joins : Bool) (name : Name) (rest : List Char) :
    (doubleQuoted joins).read? (name.characters ++ '"' :: rest) = some (name.characters, rest) :=
  Quotation.read?_append
    (fun character member => doubleQuoted_allows joins (name.letters character member)) rest

/-! ### Keys -/

/-- A key, with marks or without, is read up to its colon. -/
theorem readLineScalar?_quoted (column : Nat) (mark : Option Mark) (name : Name)
    (rest : List Char) :
    readLineScalar? (.block column) (quoted mark name.characters ++ ':' :: ' ' :: rest) =
      some (name.characters, ':' :: ' ' :: rest) := by
  cases mark with
  | none =>
      have word : takeWord false (name.characters ++ ':' :: ' ' :: rest) =
          (name.characters, ':' :: ' ' :: rest) := takeWord_append name.letters rfl
      rw [quoted, readLineScalar?.eq_3 _ _ (fun _ => name.append_ne_cons (by decide))
        (fun _ => name.append_ne_cons (by decide)), if_pos (beginsWord_append name _)]
      exact congrArg some word
  | some mark =>
      rw [quoted, Mark.around, List.cons_append, List.append_assoc, List.singleton_append]
      cases mark with
      | single => exact readSingleQuoted?_name name (':' :: ' ' :: rest) nofun
      | double => exact read?_doubleQuoted_name false name (':' :: ' ' :: rest)

/-- A key and the colon after it. -/
theorem readColoned?_quoted (column : Nat) (mark : Option Mark) (name : Name) (rest : List Char) :
    readColoned? (.block column) (quoted mark name.characters ++ ':' :: ' ' :: rest) =
      some (name.characters, ' ' :: rest) := by
  have noBlank : (':' :: ' ' :: rest).dropWhile isBlank = ':' :: ' ' :: rest := rfl
  have parted : isParted (' ' :: rest) = true := rfl
  simp [readColoned?, readLineScalar?_quoted, noBlank, parted]

/-- Neither a key nor a value begins with a property. -/
theorem readProperty?_quoted (handles : Handles) (context : Context) (known : Properties)
    (mark : Option Mark) (name : Name) (rest : List Char) :
    readProperty? handles context known (quoted mark name.characters ++ rest) = none :=
  readProperty?.eq_3 _ _ _ _ (fun _ => quoted_append_ne_cons mark name (by decide))
    (fun _ => quoted_append_ne_cons mark name (by decide))

/-- A key is known by its colon, unless it is too long. -/
theorem readKey?_quoted (handles : Handles) (column : Nat) (mark : Option Mark) (name : Name)
    (rest : List Char) :
    readKey? handles (.block column) (quoted mark name.characters ++ ':' :: ' ' :: rest) =
      if (quoted mark name.characters).length ≤ keyLimit then some (name.characters, ' ' :: rest)
      else none := by
  have noProperty := readProperty?_quoted handles (.block column) {} mark name (':' :: ' ' :: rest)
  have ahead : readKeyAhead? handles (.block column) 2 {}
      (quoted mark name.characters ++ ':' :: ' ' :: rest) =
        some (name.characters, ' ' :: rest) := by
    rw [readKeyAhead?.eq_2 _ _ _ _ _ (by simp [noProperty])]
    exact readColoned?_quoted column mark name rest
  have near : (quoted mark name.characters ++ ':' :: ' ' :: rest).length ≤
      (' ' :: rest).length + 1 + keyLimit ↔ (quoted mark name.characters).length ≤ keyLimit := by
    simp only [List.length_append, List.length_cons]
    omega
  simp only [readKey?, ahead, near]

/-! ### Values -/

theorem afterWord?_blanks (indent column : Nat) (rest : List Char) :
    afterWord? 1 (some column) (List.replicate indent ' ' ++ rest) =
      afterWord? 1 (some (column + indent)) rest := by
  induction indent generalizing column with
  | zero => rfl
  | succ indent inductionHypothesis =>
      have further : column + (indent + 1) = column + 1 + indent := by omega
      rw [further]
      exact inductionHypothesis (column + 1)

theorem afterWord?_quoted (mark : Option Mark) (name : Name) (column : Nat) (rest : List Char) :
    afterWord? 1 (some column) (quoted mark name.characters ++ rest) =
      some ⟨some column, false, quoted mark name.characters ++ rest⟩ := by
  obtain ⟨first, others, shape, opening⟩ := exists_quoted_eq_cons mark name
  have noBreak : first ≠ '\n' := ne_of_class opening (by decide)
  have noSpace : first ≠ ' ' := ne_of_class opening (by decide)
  have noTab : first ≠ '\t' := ne_of_class opening (by decide)
  simp [shape, afterWord?, noBreak, noSpace, noTab]

/-- A plain scalar ends with its line, since no further line could continue it. -/
theorem exists_afterWord?_text (lines : List (Line Style)) :
    ∃ place, afterWord? 1 (some 0) (text writeEntry lines) = some place ∧
      endsWord (.block 0) place = true ∧
      place.next false = front lines := by
  induction lines with
  | nil => exact ⟨⟨some 0, false, []⟩, rfl, rfl, rfl⟩
  | cons line lines inductionHypothesis =>
      cases line with
      | blank indent =>
          rw [text_cons, Line.characters, afterWord?_blanks]
          exact inductionHypothesis
      | comment indent remark =>
          -- The search stops at the sign of a comment, in whatever column it is.
          rw [text_cons, Line.characters, List.append_assoc, afterWord?_blanks]
          refine ⟨_, rfl, by simp [endsWord], ?_⟩
          exact (Place.skip_remark remark.printing _ _ _).trans (Place.skip_text lines)
      | entry style given =>
          rw [text_cons_entry, afterWord?_quoted]
          refine ⟨_, rfl, ?_, ?_⟩
          · obtain ⟨first, others, shape, -⟩ := exists_quoted_eq_cons style.key given.key
            simp [endsWord, shape, Context.indent]
          · have stays := Place.skip_text (.entry style given :: lines)
            rw [text_cons_entry] at stays
            exact stays

/-- The value of an entry is read up to the end of its line, and from there the way leads to the
next entry or to the end. -/
theorem exists_readScalar?_quoted (mark : Option Mark) (name : Name) (lines : List (Line Style)) :
    ∃ last, readScalar? (.block 0)
        (.after (quoted mark name.characters ++ '\n' :: text writeEntry lines)) =
        some (⟨name.characters, mark.isNone⟩, last) ∧
      last.next false = front lines := by
  have admitted : (Context.block 0).admits
      (Place.after (quoted mark name.characters ++ '\n' :: text writeEntry lines)).column = true :=
    rfl
  rw [readScalar?.eq_3 _ _ (fun _ _ _ => quoted_append_ne_cons mark name (by decide))
    (fun _ _ _ => quoted_append_ne_cons mark name (by decide)), if_pos admitted]
  cases mark with
  | none =>
      -- Without marks the lines that follow decide whether the scalar ends here.
      obtain ⟨place, after, ended, onward⟩ := exists_afterWord?_text lines
      have word : takeWord false (name.characters ++ '\n' :: text writeEntry lines) =
          (name.characters, '\n' :: text writeEntry lines) := takeWord_append name.letters rfl
      have read : readWord? (.block 0) (name.characters ++ '\n' :: text writeEntry lines) =
          some (⟨name.characters, true⟩, place) := by
        simp [readWord?, word, Context.indent, afterWord?, after, ended]
      refine ⟨place, ?_, onward⟩
      have inline := readInline?.eq_3 (.block 0) (name.characters ++ '\n' :: text writeEntry lines)
        (fun _ => name.append_ne_cons (by decide)) (fun _ => name.append_ne_cons (by decide))
      exact inline.trans ((if_pos (beginsWord_append name _)).trans read)
  | some mark =>
      have onward : (Place.after ('\n' :: text writeEntry lines)).next false = front lines :=
        Place.skip_text lines
      refine ⟨.after ('\n' :: text writeEntry lines), ?_, onward⟩
      simp only [quoted, Mark.around, List.cons_append, List.append_assoc]
      cases mark with
      | single =>
          have read := readSingleQuoted?_name name ('\n' :: text writeEntry lines)
            fun _ => by simp
          simp [Place.after, Mark.character, readInline?, read]
      | double =>
          have read := read?_doubleQuoted_name true name ('\n' :: text writeEntry lines)
          simp [Place.after, Mark.character, readInline?, read]

theorem exists_readNode?_quoted (handles : Handles) (mark : Option Mark) (name : Name)
    (lines : List (Line Style)) :
    ∃ last, readNode? handles (.block 0) 2 {}
        (.after (' ' :: (quoted mark name.characters ++ '\n' :: text writeEntry lines))) =
        some (⟨none, ⟨name.characters, mark.isNone⟩⟩, last) ∧
      last.next false = front lines := by
  obtain ⟨last, read, onward⟩ := exists_readScalar?_quoted mark name lines
  refine ⟨last, ?_, onward⟩
  have here : (Place.after (' ' :: (quoted mark name.characters ++
      '\n' :: text writeEntry lines))).next false =
      .after (quoted mark name.characters ++ '\n' :: text writeEntry lines) :=
    Place.skip_quoted mark name true none _
  have noProperty := readProperty?_quoted handles (.block 0) {} mark name
    ('\n' :: text writeEntry lines)
  have noFlow : ¬ Context.block 0 = Context.flow := nofun
  unfold readNode?
  simp only [noFlow, decide_false, here, read]
  simp [Place.after, noProperty]

/-! ### The document -/

/-- Nothing more follows a place only if the lines from there on hold no entry. -/
theorem isFinished_of_next {place : Place} {lines : List (Line Style)}
    (onward : place.next false = front lines) :
    isFinished place = (entries lines).isEmpty := by
  have noMarker : (front lines).isMarker '.' = false := Place.isMarker_front (by decide) lines
  rcases content_cases lines with ⟨nothing, noEntry⟩ | ⟨style, given, others, shape, first⟩
  · have ended : (front lines).rest = [] := by rw [front, nothing, text_nil]
    rw [isFinished, noEntry]
    split
    case h_1 => rfl
    case h_2 more => rw [onward, ended] at more; cases more
  · have more : (front lines).rest ≠ [] := by simp [front, shape]
    rw [isFinished, first]
    split
    case h_1 ended => rw [onward] at ended; exact absurd ended more
    case h_2 => rw [onward, noMarker]; rfl

/-- What an entry is read as. -/
def asRead (style : Style) (given : Layout.Entry) : Entry :=
  ⟨given.key.characters, ⟨none, ⟨given.value.characters, style.value.isNone⟩⟩⟩

/-- The entry that is read from a line, if there is one. -/
def readLine? : Line Style → Option Entry
  | .entry style given => some (asRead style given)
  | _ => none

/-- Whether no key on a line is too long to be known. -/
def isNear : Line Style → Bool
  | .entry style given => (quoted style.key given.key.characters).length ≤ keyLimit
  | _ => true

/-- An entry is read from its line, if its key is not too long to be known. -/
theorem exists_readBlockPair?_text (handles : Handles) (style : Style) (given : Layout.Entry)
    (lines : List (Line Style)) :
    ∃ last, readBlockPair? handles 0 (text writeEntry (.entry style given :: lines)) =
        (if isNear (.entry style given) then some (asRead style given, last) else none) ∧
      last.next false = front lines := by
  obtain ⟨last, value, onward⟩ := exists_readNode?_quoted handles style.value given.value lines
  have key := readKey?_quoted handles 0 style.key given.key
    (quoted style.value given.value.characters ++ '\n' :: text writeEntry lines)
  refine ⟨last, ?_, onward⟩
  rw [text_cons_entry]
  split
  case isTrue near =>
    rw [if_pos (of_decide_eq_true near)] at key
    rw [readBlockPair?.eq_1 _ _ _ _ _ key, value]
    rfl
  case isFalse far =>
    rw [if_neg (fun near => far (decide_eq_true near))] at key
    exact readBlockPair?.eq_3 _ _ _
      (fun _ => quoted_append_ne_cons style.key given.key (by decide)) key

/-- At a place that leads to some lines, the first of their entries is looked for. -/
theorem readBlockPairs_of_next (handles : Handles) {place : Place} {lines : List (Line Style)}
    (onward : place.next false = front lines) :
    readBlockPairs handles 0 place = match readBlockPair? handles 0 (front lines).rest with
      | some (entry, last) =>
          (entry :: (readBlockPairs handles 0 last).1, (readBlockPairs handles 0 last).2)
      | none => ([], place) := by
  have column : (front lines).column = some 0 := rfl
  have noMarker : (front lines).isMarker '.' = false := Place.isMarker_front (by decide) lines
  rw [readBlockPairs, onward]
  simp only [column, noMarker, decide_true, Bool.not_false, Bool.and_self, if_true]
  split
  case h_1 read => rw [read]
  case h_2 refused => rw [refused]

/-- The entries of some lines are read one after the other, up to the first whose key is too long to
be known. -/
theorem exists_readBlockPairs_of_next (handles : Handles) {place : Place}
    {lines : List (Line Style)} (onward : place.next false = front lines) :
    ∃ last, readBlockPairs handles 0 place =
        ((lines.takeWhile isNear).filterMap readLine?, last) ∧
      last.next false = front (lines.dropWhile isNear) := by
  induction lines generalizing place with
  | nil => exact ⟨place, readBlockPairs_of_next handles onward, onward⟩
  | cons line lines inductionHypothesis =>
      cases line with
      | blank | comment => exact inductionHypothesis onward
      | entry style given =>
          obtain ⟨afterFirst, first, further⟩ :=
            exists_readBlockPair?_text handles style given lines
          obtain ⟨last, read, ended⟩ := inductionHypothesis further
          have rest : (front (.entry style given :: lines)).rest =
              text writeEntry (.entry style given :: lines) := rfl
          rw [readBlockPairs_of_next handles onward, rest, first]
          cases near : isNear (.entry style given) with
          | true =>
              refine ⟨last, ?_, ?_⟩
              · simp [near, read, readLine?]
              · simpa [near] using ended
          | false =>
              refine ⟨place, ?_, ?_⟩
              · simp [near]
              · simpa [near] using onward

/-- A document has no directives and no marker at its start. -/
theorem readStart?_source (lines : List (Line Style)) :
    readStart? {} ⟨some 0, false, source lines⟩ = some ({}, false, front lines) := by
  have here : Place.next false ⟨some 0, false, source lines⟩ = front lines :=
    Place.skip_text lines
  have noMarker : (front lines).isMarker '-' = false := Place.isMarker_front (by decide) lines
  rw [readStart?, here, noMarker, if_neg (by decide)]
  split
  case h_1 directive _ => exact absurd directive (front_rest_ne_cons (by decide) lines)
  case h_2 => rfl

/-- The record is made of the entries that come next.  Only at the end it is left out. -/
theorem readRecord?_front (handles : Handles) (lines : List (Line Style)) :
    readRecord? handles false 2 {} (front lines) =
      match readBlockPairs handles 0 (front lines) with
      | (entry :: entries, last) => some (entry :: entries, last)
      | ([], _) => if (front lines).rest.isEmpty then some ([], front lines) else none := by
  have column : (front lines).column = some 0 := rfl
  have noProperty : readProperty? handles (.block 0) {} (front lines).rest = none :=
    readProperty?.eq_3 _ _ _ _ (fun _ => front_rest_ne_cons (by decide) lines)
      (fun _ => front_rest_ne_cons (by decide) lines)
  unfold readRecord?
  simp only [Place.next_front, column, Option.map_some, noProperty]
  rcases readBlockPairs handles 0 (front lines) with ⟨entries, last⟩
  cases entries with
  | cons entry entries => rfl
  | nil =>
      simp only
      split
      case h_1 flow => exact absurd flow (front_rest_ne_cons (by decide) lines)
      case h_2 => simp [Properties.isEmpty]

/-- Nothing is left of a document only if all keys are known. -/
theorem isEmpty_entries_dropWhile_isNear (lines : List (Line Style)) :
    (entries (lines.dropWhile isNear)).isEmpty = lines.all isNear := by
  induction lines with
  | nil => rfl
  | cons line lines inductionHypothesis =>
      cases near : isNear line with
      | true => simpa [near] using inductionHypothesis
      | false =>
          cases line with
          | blank | comment => cases near
          | entry style given => simp [near, entries, Line.entry?]

theorem all_isNear_of_entries_eq_nil {lines : List (Line Style)} (noEntry : entries lines = []) :
    lines.all isNear = true := by
  have none : entries (lines.dropWhile isNear) = [] :=
    List.sublist_nil.mp (noEntry ▸ (List.dropWhile_sublist isNear).filterMap Line.entry?)
  rw [← isEmpty_entries_dropWhile_isNear, none]
  rfl

theorem filterMap_readLine?_eq_nil_iff {lines : List (Line Style)} :
    lines.filterMap readLine? = [] ↔ entries lines = [] := by
  have alike : ∀ line : Line Style, readLine? line = none ↔ line.entry? = none := by
    intro line
    cases line <;> simp [readLine?, Line.entry?]
  simp [entries, List.filterMap_eq_nil_iff, alike]

theorem isEmpty_front_rest (lines : List (Line Style)) :
    (front lines).rest.isEmpty = (entries lines).isEmpty := by
  rcases content_cases lines with ⟨nothing, noEntry⟩ | ⟨style, given, others, shape, first⟩
  · simp [front, nothing, noEntry]
  · have nonempty : text writeEntry (content lines) ≠ [] := by simp [shape]
    simp [front, nonempty, first]

/-- A document is read as its entries, unless the key of one is too long to be known. -/
theorem document?_source (lines : List (Line Style)) :
    document? (source lines) =
      if lines.all isNear then some (lines.filterMap readLine?) else none := by
  have same : unifyBreaks (source lines) = source lines :=
    unifyBreaks_eq_self (printing_or_eq_of_mem_text printing_writeEntry lines)
  obtain ⟨last, read, ended⟩ :=
    exists_readBlockPairs_of_next ({} : Directives).allHandles (Place.next_front lines)
  have finished : isFinished last = lines.all isNear := by
    rw [isFinished_of_next ended, isEmpty_entries_dropWhile_isNear]
  have finishedFront := isFinished_of_next (Place.next_front lines)
  rw [document?, if_pos (source_all_isPrintable lines), same, readStart?_source]
  simp only [Option.bind_eq_bind, Option.bind_some, readRecord?_front, read]
  by_cases near : lines.all isNear = true
  · have known : lines.takeWhile isNear = lines :=
      List.takeWhile_eq_self_iff.mpr (List.all_eq_true.mp near)
    rw [known]
    cases readEntries : lines.filterMap readLine? with
    | nil =>
        have noEntry := filterMap_readLine?_eq_nil_iff.mp readEntries
        simp [isEmpty_front_rest, finishedFront, noEntry, near]
    | cons entry others => simp [finished, near]
  · have more : entries lines ≠ [] := fun noEntry => near (all_isNear_of_entries_eq_nil noEntry)
    cases (lines.takeWhile isNear).filterMap readLine? with
    | nil => simp [isEmpty_front_rest, more, near]
    | cons entry others => simp [finished, near]

end SpreadFlow.Yaml
