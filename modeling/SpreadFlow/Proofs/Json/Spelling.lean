/-
Module: SpreadFlow.Proofs.Json.Spelling
Purpose: The ways to spell a string between quotes, and that the reader takes exactly these.
Main exports: Hex.Spells, Json.SpellsUnit, Json.SpellsCharacter, Json.Spells,
  Json.read?_eq_some_iff, Json.spells_flatMap_writeCharacter
-/
import SpreadFlow.Json.Quoted

namespace SpreadFlow

/-!
One character may be spelled in several ways: as itself, by a short escape, by the number of its
code unit, or by two such numbers if it lies above `U+FFFF`.  The relations below list the ways and
say nothing of how a text is scanned.  Every spelling is nonempty, and none of them begins with a
quote, so a string ends at the first quote that is left over.
-/

/-! ### Hexadecimal numbers -/

/-- The text consists of hexadecimal digits, in either case, that spell the number. -/
def Hex.Spells (digits : List Char) (number : Nat) : Prop :=
  ∃ values : List Nat, digits.map Hex.digit? = values.map some ∧
    values.foldl (fun total value => 16 * total + value) 0 = number

namespace Hex

theorem readUnder?_eq_some_iff {count total number : Nat} {text rest : List Char} :
    readUnder? count total text = some (number, rest) ↔
      ∃ (digits : List Char) (values : List Nat), text = digits ++ rest ∧ digits.length = count ∧
        digits.map digit? = values.map some ∧
        values.foldl (fun total value => 16 * total + value) total = number := by
  constructor
  · intro read
    fun_induction readUnder? count total text with
    | case1 =>
        cases read
        exact ⟨[], [], rfl, rfl, rfl, rfl⟩
    | case2 => cases read
    | case3 count total character tail digit isDigit inductionHypothesis =>
        obtain ⟨digits, values, split, length, valued, value⟩ := inductionHypothesis read
        refine ⟨character :: digits, digit :: values, by rw [split]; rfl, ?_, ?_, value⟩
        · rw [List.length_cons, length]
        · rw [List.map_cons, List.map_cons, isDigit, valued]
    | case4 => cases read
  · rintro ⟨digits, values, rfl, rfl, valued, rfl⟩
    induction digits generalizing total values with
    | nil =>
        cases values with
        | nil => rfl
        | cons value values => cases valued
    | cons character digits inductionHypothesis =>
        cases values with
        | nil => cases valued
        | cons value values =>
            rw [List.map_cons, List.map_cons] at valued
            obtain ⟨isDigit, valued⟩ := List.cons.inj valued
            rw [List.length_cons, List.cons_append, readUnder?, isDigit]
            exact inductionHypothesis values valued

/-- Reading takes exactly the spellings of the given length. -/
theorem read?_eq_some_iff {count number : Nat} {text rest : List Char} :
    read? count text = some (number, rest) ↔
      ∃ digits, text = digits ++ rest ∧ digits.length = count ∧ Spells digits number := by
  rw [read?, readUnder?_eq_some_iff]
  constructor
  · rintro ⟨digits, values, split, length, valued, value⟩
    exact ⟨digits, split, length, values, valued, value⟩
  · rintro ⟨digits, split, length, values, valued, value⟩
    exact ⟨digits, values, split, length, valued, value⟩

theorem read?_of_spells {count number : Nat} {digits : List Char} (length : digits.length = count)
    (spelled : Spells digits number) (rest : List Char) :
    read? count (digits ++ rest) = some (number, rest) :=
  read?_eq_some_iff.mpr ⟨digits, rfl, length, spelled⟩

end Hex

namespace Json

/-! ### Spellings of a character and of a string -/

/-- The text is an escape by the number of a 16-bit code unit. -/
def SpellsUnit (text : List Char) (unit : Nat) : Prop :=
  ∃ digits, text = '\\' :: 'u' :: digits ∧ digits.length = 4 ∧ Hex.Spells digits unit

/-- The text between quotes spells one character. -/
inductive SpellsCharacter : List Char → Char → Prop where
  /-- As itself, unless it is a control character, a quote or a backslash. -/
  | itself {character : Char} (visible : ' ' ≤ character) (noQuote : character ≠ '"')
      (noBackslash : character ≠ '\\') : SpellsCharacter [character] character
  /-- By a backslash and a letter. -/
  | short {letter character : Char} (listed : (letter, character) ∈ shortEscapes) :
      SpellsCharacter ['\\', letter] character
  /-- By its number, which is that of no surrogate. -/
  | unit {text : List Char} {unit : Nat} (spelled : SpellsUnit text unit)
      (noSurrogate : unit < 0xD800 ∨ 0xE000 ≤ unit) :
      SpellsCharacter text (Char.ofNat unit)
  /-- By the numbers of its surrogates, the high one first. -/
  | pair {first second : List Char} {high low : Nat}
      (firstSpelled : SpellsUnit first high) (isHigh : 0xD800 ≤ high ∧ high < 0xDC00)
      (secondSpelled : SpellsUnit second low) (isLow : 0xDC00 ≤ low ∧ low < 0xE000) :
      SpellsCharacter (first ++ second)
        (Char.ofNat (0x10000 + (high - 0xD800) * 0x400 + (low - 0xDC00)))

/-- The text between quotes spells the characters, one after the other. -/
inductive Spells : List Char → List Char → Prop where
  | nil : Spells [] []
  | cons {text body : List Char} {character : Char} {characters : List Char}
      (first : SpellsCharacter text character) (rest : Spells body characters) :
      Spells (text ++ body) (character :: characters)

/-! ### Reading an escape -/

/-- The escape by a code unit is read from after its first two characters. -/
theorem readUnits?_sound {text rest : List Char} {character : Char}
    (read : readUnits? text = some (character, rest)) :
    ∃ form, text = form ++ rest ∧ SpellsCharacter ('\\' :: 'u' :: form) character := by
  simp only [readUnits?, Option.bind_eq_bind, Option.bind_eq_some_iff] at read
  obtain ⟨⟨unit, middle⟩, digitsRead, read⟩ := read
  obtain ⟨digits, rfl, length, spelled⟩ := Hex.read?_eq_some_iff.mp digitsRead
  have unitSpelled : SpellsUnit ('\\' :: 'u' :: digits) unit := ⟨digits, rfl, length, spelled⟩
  split at read
  · cases read
  · rename_i notLow
    split at read
    · rename_i isHigh
      split at read
      · rename_i second shape
        subst shape
        simp only [Option.bind_eq_some_iff] at read
        obtain ⟨⟨low, after⟩, lowRead, read⟩ := read
        obtain ⟨lowDigits, rfl, lowLength, lowSpelled⟩ := Hex.read?_eq_some_iff.mp lowRead
        have secondSpelled : SpellsUnit ('\\' :: 'u' :: lowDigits) low :=
          ⟨lowDigits, rfl, lowLength, lowSpelled⟩
        split at read
        · rename_i isLow
          obtain ⟨rfl, rfl⟩ := Prod.mk.inj (Option.some.inj read)
          have pairSpelled := SpellsCharacter.pair unitSpelled isHigh secondSpelled isLow
          refine ⟨digits ++ '\\' :: 'u' :: lowDigits, ?_, pairSpelled⟩
          rw [List.append_assoc, List.cons_append, List.cons_append]
        · cases read
      · cases read
    · rename_i notHigh
      cases read
      exact ⟨digits, rfl, .unit unitSpelled (by omega)⟩

theorem readUnits?_of_unit {digits : List Char} {unit : Nat} (length : digits.length = 4)
    (spelled : Hex.Spells digits unit) (noSurrogate : unit < 0xD800 ∨ 0xE000 ≤ unit)
    (rest : List Char) : readUnits? (digits ++ rest) = some (Char.ofNat unit, rest) := by
  have notLow : ¬ (0xDC00 ≤ unit ∧ unit < 0xE000) := by omega
  have notHigh : ¬ (0xD800 ≤ unit ∧ unit < 0xDC00) := by omega
  simp only [readUnits?, Hex.read?_of_spells length spelled, Option.bind_eq_bind, Option.bind_some,
    if_neg notLow, if_neg notHigh]

theorem readUnits?_of_pair {highDigits lowDigits : List Char} {high low : Nat}
    (highLength : highDigits.length = 4) (highSpelled : Hex.Spells highDigits high)
    (isHigh : 0xD800 ≤ high ∧ high < 0xDC00)
    (lowLength : lowDigits.length = 4) (lowSpelled : Hex.Spells lowDigits low)
    (isLow : 0xDC00 ≤ low ∧ low < 0xE000) (rest : List Char) :
    readUnits? (highDigits ++ '\\' :: 'u' :: (lowDigits ++ rest)) =
      some (Char.ofNat (0x10000 + (high - 0xD800) * 0x400 + (low - 0xDC00)), rest) := by
  have notLow : ¬ (0xDC00 ≤ high ∧ high < 0xE000) := by omega
  simp only [readUnits?, Hex.read?_of_spells highLength highSpelled,
    Hex.read?_of_spells lowLength lowSpelled, Option.bind_eq_bind, Option.bind_some,
    if_neg notLow, if_pos isHigh, if_pos isLow]

/-- Different escapes have different letters, so a listed escape is the one that is found. -/
theorem lookup_shortEscapes {letter character : Char} :
    shortEscapes.lookup letter = some character ↔ (letter, character) ∈ shortEscapes := by
  constructor
  · intro found
    obtain ⟨before, after, split, -⟩ := List.lookup_eq_some_iff.mp found
    rw [split]
    exact List.mem_append_right before List.mem_cons_self
  · have each : ∀ pair ∈ shortEscapes, shortEscapes.lookup pair.1 = some pair.2 := by decide
    exact each (letter, character)

theorem readEscape?_sound {text rest : List Char} {character : Char}
    (read : readEscape? text = some (character, rest)) :
    ∃ form, text = form ++ rest ∧ SpellsCharacter ('\\' :: form) character := by
  unfold readEscape? at read
  split at read
  · cases read
  · obtain ⟨form, rfl, spelled⟩ := readUnits?_sound read
    exact ⟨'u' :: form, rfl, spelled⟩
  · rename_i letter tail _
    simp only [Option.map_eq_some_iff, Prod.mk.injEq] at read
    obtain ⟨meaning, listed, rfl, rfl⟩ := read
    exact ⟨[letter], rfl, .short (lookup_shortEscapes.mp listed)⟩

theorem readEscape?_complete {form : List Char} {character : Char}
    (spelled : SpellsCharacter ('\\' :: form) character) (rest : List Char) :
    readEscape? (form ++ rest) = some (character, rest) := by
  generalize whole : '\\' :: form = text at spelled
  cases spelled with
  | itself visible noQuote noBackslash =>
      exact absurd (List.cons.inj whole).1.symm noBackslash
  | short listed =>
      rename_i letter
      obtain rfl := (List.cons.inj whole).2
      have noUnit : ∀ pair ∈ shortEscapes, pair.1 ≠ 'u' := by decide
      have found := lookup_shortEscapes.mpr listed
      rw [List.singleton_append, readEscape?, found]
      · rfl
      · exact noUnit _ listed
  | unit unitSpelled noSurrogate =>
      obtain ⟨digits, rfl, length, spelled⟩ := unitSpelled
      obtain rfl := (List.cons.inj whole).2
      exact readUnits?_of_unit length spelled noSurrogate rest
  | pair highSpelled isHigh lowSpelled isLow =>
      obtain ⟨highDigits, rfl, highLength, highSpelled⟩ := highSpelled
      obtain ⟨lowDigits, rfl, lowLength, lowSpelled⟩ := lowSpelled
      have tail : form = 'u' :: (highDigits ++ '\\' :: 'u' :: lowDigits) := (List.cons.inj whole).2
      rw [tail, List.cons_append, List.append_assoc]
      exact readUnits?_of_pair highLength highSpelled isHigh lowLength lowSpelled isLow rest

/-! ### Reading a string -/

/-- Whatever spells a character is read as that character, and reading goes on behind it. -/
theorem read?_of_spellsCharacter {form : List Char} {character : Char}
    (spelled : SpellsCharacter form character) (text : List Char) :
    quotation.read? (form ++ text) =
      (quotation.read? text).map fun (characters, rest) => (character :: characters, rest) := by
  have escaped {tail : List Char} (spelledTail : SpellsCharacter ('\\' :: tail) character) :
      quotation.read? ('\\' :: tail ++ text) =
        (quotation.read? text).map fun (characters, rest) => (character :: characters, rest) := by
    have meaning : quotation.escape? (tail ++ text) = some ([character], text) := by
      simp only [quotation, readEscape?_complete spelledTail text, Option.map_some]
    rw [List.cons_append, Quotation.read?]
    split
    · rename_i refused
      rw [meaning] at refused
      cases refused
    · rename_i characters after read
      rw [meaning] at read
      cases read
      rfl
  cases spelled with
  | itself visible noQuote noBackslash =>
      have allowed : quotation.allows character = true := decide_eq_true visible
      rw [List.singleton_append, Quotation.read?]
      · rw [if_pos allowed]
      · exact noQuote
      · exact noBackslash
  | short listed => exact escaped (.short listed)
  | unit unitSpelled noSurrogate =>
      obtain ⟨digits, rfl, -, -⟩ := id unitSpelled
      exact escaped (.unit unitSpelled noSurrogate)
  | pair highSpelled isHigh lowSpelled isLow =>
      obtain ⟨highDigits, rfl, -, -⟩ := id highSpelled
      exact escaped (.pair highSpelled isHigh lowSpelled isLow)

/-- A string ends at the first quote that is no part of a spelling, and what was read up to there
spells its characters. -/
theorem read?_eq_some_iff {text rest characters : List Char} :
    quotation.read? text = some (characters, rest) ↔
      ∃ body, text = body ++ '"' :: rest ∧ Spells body characters := by
  constructor
  · intro read
    -- The induction is that of the reader, with a case for each thing that may come next.
    generalize formEq : quotation = form at read
    fun_induction Quotation.read? form text generalizing characters rest with
    | case1 => cases read
    | case2 tail =>
        cases read
        exact ⟨[], rfl, .nil⟩
    | case3 => cases read
    | case4 tail meaning after escape inductionHypothesis =>
        subst formEq
        simp only [Option.map_eq_some_iff, Prod.mk.injEq] at read
        obtain ⟨⟨inner, last⟩, inside, rfl, rfl⟩ := read
        obtain ⟨body, rfl, spelled⟩ := inductionHypothesis inside
        simp only [quotation, Option.map_eq_some_iff, Prod.mk.injEq] at escape
        obtain ⟨⟨character, behind⟩, escapeRead, rfl, rfl⟩ := escape
        obtain ⟨escaped, rfl, first⟩ := readEscape?_sound escapeRead
        exact ⟨'\\' :: escaped ++ body, by simp, .cons first spelled⟩
    | case5 character tail noQuote noBackslash allowed inductionHypothesis =>
        subst formEq
        simp only [Option.map_eq_some_iff, Prod.mk.injEq] at read
        obtain ⟨⟨inner, last⟩, inside, rfl, rfl⟩ := read
        obtain ⟨body, rfl, spelled⟩ := inductionHypothesis inside
        exact ⟨[character] ++ body, rfl,
          .cons (.itself (of_decide_eq_true allowed) noQuote noBackslash) spelled⟩
    | case6 => cases read
  · rintro ⟨body, rfl, spelled⟩
    induction spelled with
    | nil => rw [List.nil_append, Quotation.read?]
    | cons first _ inductionHypothesis =>
        rw [List.append_assoc, read?_of_spellsCharacter first, inductionHypothesis]
        rfl

theorem read?_of_spells {body characters : List Char} (spelled : Spells body characters)
    (rest : List Char) : quotation.read? (body ++ '"' :: rest) = some (characters, rest) :=
  read?_eq_some_iff.mpr ⟨body, rfl, spelled⟩

/-! ### Writing -/

/-- The number of a control character fills four digits with zeros before it. -/
theorem spellsUnit_of_control {number : Nat} (control : number < 32) :
    SpellsUnit ('\\' :: 'u' :: (Hex.write number).leftpad 4 '0') number := by
  have each : ∀ number < 32,
      Hex.read? 4 ((Hex.write number).leftpad 4 '0') = some (number, []) := by
    decide
  obtain ⟨digits, split, length, spelled⟩ := Hex.read?_eq_some_iff.mp (each number control)
  rw [List.append_nil] at split
  rw [split]
  exact ⟨digits, rfl, length, spelled⟩

/-- What is written for a character spells it. -/
theorem spellsCharacter_writeCharacter (character : Char) :
    SpellsCharacter (writeCharacter character) character := by
  unfold writeCharacter
  split
  · subst character
    exact .short (by decide)
  split
  · subst character
    exact .short (by decide)
  split
  · subst character
    exact .short (by decide)
  split
  · subst character
    exact .short (by decide)
  split
  · subst character
    exact .short (by decide)
  split
  · subst character
    exact .short (by decide)
  split
  · subst character
    exact .short (by decide)
  split
  · rename_i control
    have below : character.toNat < 32 := control
    have spelled := SpellsCharacter.unit (spellsUnit_of_control below) (by omega)
    rwa [Char.ofNat_toNat] at spelled
  · rename_i noQuote noBackslash _ _ _ _ _ visible
    exact .itself (Char.not_lt.mp visible) noQuote noBackslash

/-- What is written for a string spells it. -/
theorem spells_flatMap_writeCharacter (characters : List Char) :
    Spells (characters.flatMap writeCharacter) characters := by
  induction characters with
  | nil => exact .nil
  | cons character characters inductionHypothesis =>
      exact .cons (spellsCharacter_writeCharacter character) inductionHypothesis

end Json

end SpreadFlow
