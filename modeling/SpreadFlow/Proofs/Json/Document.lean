/-
Module: SpreadFlow.Proofs.Json.Document
Purpose: The grammar of the texts that are spreads, over characters, and that exactly these texts
  are read.
Main exports: Json.Padded, Json.Enclosed, Json.IntegerText, Json.Int32Text, Json.StringText,
  Json.OptionText, Json.ArrayText, Json.spaced_append_iff, Json.spaced_enclosed_iff,
  Json.spaced_items_iff, Json.Denotes, Json.spread_decode_exact
-/
import SpreadFlow.Proofs.Json.RoundTrip

namespace SpreadFlow.Json

/-!
The relations below say which characters stand for a value and know nothing of tokens.  A type's
grammar is that of its elements between brackets and commas, so the law that joins it to the reader
is proved for an element and carried over to arrays of it.

The law speaks of texts that spell a token sequence with blanks.  Such a text can be cut wherever
the sequence is cut, and at a bracket or a comma the place of the cut is a character of its own.
-/

/-! ### The grammar -/

/-- A text of this form, with blanks before and behind it. -/
def Padded (Body : List Char → Prop) (text : List Char) : Prop :=
  ∃ before body after, text = before ++ (body ++ after) ∧ AllBlank before ∧ AllBlank after ∧
    Body body

/-- A text of this form between two marks. -/
def Enclosed (opening closing : Char) (Inside : List Char → Prop) (text : List Char) : Prop :=
  ∃ inside, text = opening :: (inside ++ [closing]) ∧ Inside inside

/-- Digits that stand for a number: at least one, and no zero before others. -/
def WholeDigits (digits : List Char) : Prop :=
  Decimal.AllDigits digits ∧ digits ≠ [] ∧ (digits.head? = some '0' → digits = ['0'])

/-- The text is an integer: digits, with a minus before them if they are not those of zero.  There
is neither fraction nor exponent. -/
inductive IntegerText : List Char → Int → Prop where
  | natural {digits : List Char} (whole : WholeDigits digits) :
      IntegerText digits (Decimal.spelled digits)
  | negative {digits : List Char} (whole : WholeDigits digits) (nonzero : digits ≠ ['0']) :
      IntegerText ('-' :: digits) (-Decimal.spelled digits)

/-- The text is an integer within 32 bits. -/
def Int32Text (text : List Char) (value : Int32) : Prop :=
  ∃ number, IntegerText text number ∧ -2147483648 ≤ number ∧ number ≤ 2147483647 ∧
    value.toInt = number

/-- The text is a string: between quotes it spells the characters. -/
def StringText (text : List Char) (value : String) : Prop :=
  ∃ body, text = '"' :: (body ++ ['"']) ∧ Spells body value.toList

/-- The text is `null` for an absent value, or that of the value. -/
inductive OptionText {α : Type} (Element : List Char → α → Prop) :
    List Char → Option α → Prop where
  | absent : OptionText Element ['n', 'u', 'l', 'l'] none
  | present {text : List Char} {value : α} (denoted : Element text value) :
      OptionText Element text (some value)

/-- The text is that of the values in order, with a comma between each two. -/
inductive ItemsText {α : Type} (Element : List Char → α → Prop) : List Char → List α → Prop where
  | last {text : List Char} {value : α} (item : Padded (Element · value) text) :
      ItemsText Element text [value]
  | more {text rest : List Char} {value : α} {values : List α}
      (item : Padded (Element · value) text) (others : ItemsText Element rest values) :
      ItemsText Element (text ++ ',' :: rest) (value :: values)

/-- The text is that of the slices between brackets.  Without slices only blanks may stand there. -/
inductive ArrayText {α : Type} (Element : List Char → α → Prop) :
    List Char → Spread α → Prop where
  | empty {blanks : List Char} (allBlank : AllBlank blanks) :
      ArrayText Element ('[' :: (blanks ++ [']'])) (.ofList [])
  | items {text : List Char} {values : List α} (slices : ItemsText Element text values) :
      ArrayText Element ('[' :: (text ++ [']'])) (.ofList values)

/-! ### Cutting a spaced text -/

theorem spaced_nil_iff {text : List Char} : Spaced [] text ↔ AllBlank text := by
  constructor
  · intro spaced
    cases spaced with
    | nil allBlank => exact allBlank
  · exact .nil

theorem spaced_cons_iff {token : Token} {sequence : List Token} {text : List Char} :
    Spaced (token :: sequence) text ↔
      ∃ blanks spelling rest, text = blanks ++ (spelling ++ rest) ∧ AllBlank blanks ∧
        token.Spelled spelling ∧ Spaced sequence rest := by
  constructor
  · intro spaced
    cases spaced with
    | cons allBlank spelled rest => exact ⟨_, _, _, rfl, allBlank, spelled, rest⟩
  · rintro ⟨blanks, spelling, rest, rfl, allBlank, spelled, spaced⟩
    exact .cons allBlank spelled spaced

theorem AllBlank.append {first second : List Char} (one : AllBlank first) (two : AllBlank second) :
    AllBlank (first ++ second) :=
  List.forall_mem_append.mpr ⟨one, two⟩

/-- Blanks may be put before a spaced text. -/
theorem Spaced.prepend {sequence : List Token} {blanks text : List Char}
    (spaced : Spaced sequence text) (allBlank : AllBlank blanks) :
    Spaced sequence (blanks ++ text) := by
  cases spaced with
  | nil others => exact .nil (allBlank.append others)
  | cons others spelled rest =>
      rw [← List.append_assoc]
      exact .cons (allBlank.append others) spelled rest

/-- A text of two sequences, one behind the other, is a text of each. -/
theorem spaced_append_iff {first second : List Token} {text : List Char} :
    Spaced (first ++ second) text ↔
      ∃ front back, text = front ++ back ∧ Spaced first front ∧ Spaced second back := by
  constructor
  · intro spaced
    induction first generalizing text with
    | nil =>
        have none : Spaced [] [] := .nil .nil
        exact ⟨[], text, rfl, none, spaced⟩
    | cons token first inductionHypothesis =>
        obtain ⟨blanks, spelling, rest, rfl, allBlank, spelled, later⟩ := spaced_cons_iff.mp spaced
        obtain ⟨front, back, rfl, one, two⟩ := inductionHypothesis later
        refine ⟨blanks ++ (spelling ++ front), back, ?_, .cons allBlank spelled one, two⟩
        simp only [List.append_assoc]
  · rintro ⟨front, back, rfl, one, two⟩
    induction one with
    | nil allBlank => exact two.prepend allBlank
    | cons allBlank spelled _ inductionHypothesis =>
        rw [List.append_assoc, List.append_assoc]
        exact .cons allBlank spelled inductionHypothesis

/-- Blanks may be put behind a spaced text. -/
theorem Spaced.pad {sequence : List Token} {text blanks : List Char}
    (spaced : Spaced sequence text) (allBlank : AllBlank blanks) :
    Spaced sequence (text ++ blanks) := by
  rw [← List.append_nil sequence]
  exact spaced_append_iff.mpr ⟨text, blanks, rfl, spaced, .nil allBlank⟩

/-- A single token is spelled with blanks around it. -/
theorem spaced_singleton_iff {token : Token} {text : List Char} :
    Spaced [token] text ↔ Padded token.Spelled text := by
  rw [spaced_cons_iff]
  constructor
  · rintro ⟨before, body, after, rfl, blankBefore, spelled, rest⟩
    exact ⟨before, body, after, rfl, blankBefore, spaced_nil_iff.mp rest, spelled⟩
  · rintro ⟨before, body, after, rfl, blankBefore, blankAfter, spelled⟩
    exact ⟨before, body, after, rfl, blankBefore, spelled, .nil blankAfter⟩

/-- A token with one spelling, of one character, cuts the text at that character. -/
theorem spaced_mark_iff {mark : Token} {character : Char} {before after : List Token}
    {text : List Char} (only : ∀ spelling, mark.Spelled spelling ↔ spelling = [character]) :
    Spaced (before ++ mark :: after) text ↔
      ∃ front back, text = front ++ character :: back ∧ Spaced before front ∧
        Spaced after back := by
  rw [spaced_append_iff]
  constructor
  · rintro ⟨front, rest, rfl, spacedFront, spacedRest⟩
    obtain ⟨blanks, spelling, back, rfl, allBlank, spelled, spacedBack⟩ :=
      spaced_cons_iff.mp spacedRest
    obtain rfl := (only spelling).mp spelled
    exact ⟨front ++ blanks, back, by simp, spacedFront.pad allBlank, spacedBack⟩
  · rintro ⟨front, back, rfl, spacedFront, spacedBack⟩
    refine ⟨front, character :: back, rfl, spacedFront, ?_⟩
    exact .cons .nil ((only _).mpr rfl) spacedBack

/-- Between two marks of one character each, a text spells what stands between them. -/
theorem spaced_enclosed_iff {first last : Token} {opening closing : Char} {inside : List Token}
    {text : List Char} (onlyFirst : ∀ spelling, first.Spelled spelling ↔ spelling = [opening])
    (onlyLast : ∀ spelling, last.Spelled spelling ↔ spelling = [closing]) :
    Spaced (first :: inside ++ [last]) text ↔
      Padded (Enclosed opening closing (Spaced inside)) text := by
  change Spaced ([] ++ first :: (inside ++ [last])) text ↔ _
  rw [spaced_mark_iff onlyFirst]
  simp only [spaced_mark_iff onlyLast, spaced_nil_iff]
  constructor
  · rintro ⟨before, _, rfl, blankBefore, between, after, rfl, spaced, blankAfter⟩
    exact ⟨before, opening :: (between ++ [closing]), after, by simp, blankBefore, blankAfter,
      between, rfl, spaced⟩
  · rintro ⟨before, _, after, rfl, blankBefore, blankAfter, between, rfl, spaced⟩
    exact ⟨before, between ++ closing :: after, by simp, blankBefore, between, after, rfl, spaced,
      blankAfter⟩

theorem spelled_comma_iff (spelling : List Char) :
    Token.comma.Spelled spelling ↔ spelling = [','] :=
  ⟨fun | .comma => rfl, fun same => same ▸ .comma⟩

theorem spelled_openList_iff (spelling : List Char) :
    Token.openList.Spelled spelling ↔ spelling = ['['] :=
  ⟨fun | .openList => rfl, fun same => same ▸ .openList⟩

theorem spelled_closeList_iff (spelling : List Char) :
    Token.closeList.Spelled spelling ↔ spelling = [']'] :=
  ⟨fun | .closeList => rfl, fun same => same ▸ .closeList⟩

/-! ### Tokens of one value -/

theorem SpellsFraction.eq_nil {text : List Char} (spelled : SpellsFraction text []) :
    text = [] := by
  generalize none : ([] : List Nat) = fraction at spelled
  cases spelled with
  | absent => rfl
  | present _ nonempty => exact absurd none.symm (digitValues_ne_nil nonempty)

theorem SpellsExponent.eq_nil {text : List Char} (spelled : SpellsExponent text none) :
    text = [] := by
  cases spelled with
  | absent => rfl

/-- What spells an integer token is an integer of the grammar. -/
theorem integerText_of_spelled {text : List Char} {value : Int}
    (spelled : (Token.number (.integer value)).Spelled text) : IntegerText text value := by
  cases spelled with
  | number spelled stands =>
      obtain ⟨noFraction, noExponent, signed⟩ := number?_eq_integer stands
      obtain ⟨negative, wholeDigits, nonempty, noZero, fractionSpelled, exponentSpelled⟩ := spelled
      rename_i whole fractionText exponentText fraction exponent
      simp only at noFraction noExponent signed
      subst noFraction noExponent
      obtain rfl := fractionSpelled.eq_nil
      obtain rfl := exponentSpelled.eq_nil
      rw [digitsValue_digitValues] at signed
      rw [List.append_nil, List.append_nil]
      rcases signed with ⟨rfl, rfl⟩ | ⟨rfl, positive, rfl⟩
      · exact .natural ⟨wholeDigits, nonempty, noZero⟩
      · refine .negative ⟨wholeDigits, nonempty, noZero⟩ ?_
        rintro rfl
        exact absurd positive (by decide)

/-- An integer of the grammar spells its token, if it fits 64 bits. -/
theorem IntegerText.spelled {text : List Char} {value : Int} (denoted : IntegerText text value)
    (atLeast : -2 ^ 63 ≤ value) (below : value < 2 ^ 64) :
    (Token.number (.integer value)).Spelled text := by
  cases denoted with
  | natural whole =>
      obtain ⟨allDigits, nonempty, noZero⟩ := whole
      have numeral := SpellsNumeral.mk false allDigits nonempty noZero .absent .absent
      rw [← digitsValue_digitValues] at below ⊢
      simp only [Bool.false_eq_true, if_false, List.append_nil, List.nil_append] at numeral
      exact .number numeral (number?_unsigned (by omega))
  | negative whole nonzero =>
      rename_i digits
      obtain ⟨allDigits, nonempty, noZero⟩ := whole
      have numeral := SpellsNumeral.mk true allDigits nonempty noZero .absent .absent
      have positive : 0 < Decimal.spelled digits := by
        obtain ⟨first, rest, rfl⟩ := List.exists_cons_of_ne_nil nonempty
        have firstNonzero : first ≠ '0' := by
          rintro rfl
          exact nonzero (noZero rfl)
        exact Nat.lt_of_lt_of_le (Nat.pow_pos (Nat.succ_pos 9))
          (Decimal.pow_le_spelled_cons (allDigits first List.mem_cons_self) firstNonzero rest)
      rw [← digitsValue_digitValues] at atLeast positive ⊢
      simp only [if_true, List.append_nil, List.singleton_append] at numeral
      exact .number numeral (number?_negative positive (by omega))

/-! ### The law of a type -/

/-- The texts that spell what is written for a value are those that the grammar has for it, with
blanks around. -/
def Denotes {α : Type} [Write α] (Element : List Char → α → Prop) : Prop :=
  ∀ (value : α) (text : List Char),
    Spaced (Write.tokens value) text ↔ Padded (Element · value) text

theorem Padded.congr {first second : List Char → Prop} (same : ∀ body, first body ↔ second body)
    {text : List Char} : Padded first text ↔ Padded second text := by
  have equal : first = second := funext fun body => propext (same body)
  rw [equal]

/-- A text without blanks at its ends is not padded. -/
theorem Padded.of_visible {Body : List Char → Prop} {text : List Char} (padded : Padded Body text)
    (first : ∀ character ∈ text.head?, isBlank character = false)
    (last : ∀ character ∈ text.getLast?, isBlank character = false) : Body text := by
  obtain ⟨before, body, after, rfl, blankBefore, blankAfter, denoted⟩ := padded
  have noneBefore : before = [] := by
    cases before with
    | nil => rfl
    | cons blank before =>
        have visible := first blank rfl
        rw [blankBefore blank List.mem_cons_self] at visible
        cases visible
  have noneAfter : after = [] := by
    rcases List.eq_nil_or_concat after with empty | ⟨after, blank, rfl⟩
    · exact empty
    · have visible := last blank (by simp)
      rw [blankAfter blank (by simp)] at visible
      cases visible
  rw [noneBefore, noneAfter, List.nil_append, List.append_nil]
  exact denoted

theorem denotes_int32 : Denotes Int32Text := by
  intro value text
  have least := value.le_toInt
  have greatest := value.toInt_lt
  apply spaced_singleton_iff.trans
  apply Padded.congr
  intro body
  constructor
  · intro spelled
    exact ⟨value.toInt, integerText_of_spelled spelled, by omega, by omega, rfl⟩
  · rintro ⟨number, denoted, -, -, rfl⟩
    exact denoted.spelled (by omega) (by omega)

theorem denotes_string : Denotes StringText := by
  intro value text
  apply spaced_singleton_iff.trans
  apply Padded.congr
  intro body
  constructor
  · intro spelled
    cases spelled with
    | text spelled => exact ⟨_, rfl, spelled⟩
  · rintro ⟨inside, rfl, spelled⟩
    exact .text spelled

/-- Token sequences parted by commas are spelled by the items of the grammar, if each sequence is
spelled by an element of it. -/
theorem spaced_items_iff {α β : Type} {written : α → List Token} {outline : α → β}
    {Element : List Char → β → Prop}
    (law : ∀ value text, Spaced (written value) text ↔ Padded (Element · (outline value)) text)
    {values : List α} (nonempty : values ≠ []) (text : List Char) :
    Spaced (separate (values.map written)) text ↔ ItemsText Element text (values.map outline) := by
  induction values generalizing text with
  | nil => exact absurd rfl nonempty
  | cons value values inductionHypothesis =>
      cases values with
      | nil =>
          apply (law value text).trans
          constructor
          · exact .last
          · intro items
            cases items with
            | last item => exact item
            | more _ others => cases others
      | cons next values =>
          have later := inductionHypothesis (List.cons_ne_nil next values)
          rw [List.map_cons, List.map_cons, separate_cons_cons, ← List.map_cons,
            spaced_mark_iff spelled_comma_iff]
          constructor
          · rintro ⟨front, back, rfl, item, others⟩
            exact .more ((law value front).mp item) ((later back).mp others)
          · intro items
            cases items with
            | more item others =>
                exact ⟨_, _, rfl, (law value _).mpr item, (later _).mpr others⟩

section

variable {α : Type} [Write α] {Element : List Char → α → Prop}

theorem denotes_option (law : Denotes Element) : Denotes (OptionText Element) := by
  intro value text
  cases value with
  | none =>
      apply spaced_singleton_iff.trans
      apply Padded.congr
      intro body
      constructor
      · intro spelled
        cases spelled with
        | null => exact .absent
      · intro denoted
        cases denoted with
        | absent => exact .null
  | some present =>
      apply (law present text).trans
      apply Padded.congr
      intro body
      constructor
      · exact .present
      · intro denoted
        cases denoted with
        | present denoted => exact denoted

/-- What is written for the values of a list, parted by commas, is spelled by the items of the
grammar. -/
theorem spaced_separate_iff (law : Denotes Element) {values : List α} (nonempty : values ≠ [])
    (text : List Char) :
    Spaced (separate (values.map Write.tokens)) text ↔ ItemsText Element text values := by
  have items := spaced_items_iff (fun value => law (id value)) nonempty text
  rwa [List.map_id] at items

/-- What is written for a spread is spelled by the arrays of the grammar. -/
theorem denotes_spread (law : Denotes Element) : Denotes (ArrayText Element) := by
  rintro ⟨values⟩ text
  -- Cut at both brackets, what is left between them is the items.
  apply (spaced_enclosed_iff spelled_openList_iff spelled_closeList_iff).trans
  apply Padded.congr
  intro body
  constructor
  · rintro ⟨inside, rfl, items⟩
    by_cases none : values = []
    · subst none
      exact .empty (spaced_nil_iff.mp items)
    · exact .items ((spaced_separate_iff law none inside).mp items)
  · intro denoted
    cases denoted with
    | empty allBlank => exact ⟨_, rfl, .nil allBlank⟩
    | items slices =>
        have nonempty : values ≠ [] := by
          rintro rfl
          cases slices
        exact ⟨_, rfl, (spaced_separate_iff law nonempty _).mpr slices⟩

/-- A type with the law is read from exactly the texts of its grammar. -/
theorem Denotes.decode_eq_ok_iff [Read α] [LawfulCodec α] (law : Denotes Element) (text : String)
    (value : α) : decode text = .ok value ↔ Padded (Element · value) text.toList := by
  rw [(readsExactly α).decode_eq_ok_iff text value]
  constructor
  · rintro ⟨sequence, rfl, spaced⟩
    exact (law value text.toList).mp spaced
  · intro denoted
    exact ⟨Write.tokens value, rfl, (law value text.toList).mpr denoted⟩

end

/-- A text is read as a spread of integers, strings, rows or rows that may be absent exactly if it
is an array of the grammar that denotes it, with nothing but blanks around it. -/
theorem spread_decode_exact (text : String) :
    (∀ value : Spread Int32, decode text = .ok value ↔
      Padded (ArrayText Int32Text · value) text.toList) ∧
    (∀ value : Spread String, decode text = .ok value ↔
      Padded (ArrayText StringText · value) text.toList) ∧
    (∀ value : Spread (Spread Int32), decode text = .ok value ↔
      Padded (ArrayText (ArrayText Int32Text) · value) text.toList) ∧
    (∀ value : Spread (Option (Spread Int32)), decode text = .ok value ↔
      Padded (ArrayText (OptionText (ArrayText Int32Text)) · value) text.toList) := by
  have integers : Denotes (ArrayText Int32Text) := denotes_spread denotes_int32
  have strings : Denotes (ArrayText StringText) := denotes_spread denotes_string
  have rows : Denotes (ArrayText (ArrayText Int32Text)) := denotes_spread integers
  have optionalRows : Denotes (ArrayText (OptionText (ArrayText Int32Text))) :=
    denotes_spread (denotes_option integers)
  exact ⟨integers.decode_eq_ok_iff text, strings.decode_eq_ok_iff text, rows.decode_eq_ok_iff text,
    optionalRows.decode_eq_ok_iff text⟩

end SpreadFlow.Json
