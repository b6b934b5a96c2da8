/-
Module: SpreadFlow.Proofs.Json.Continuation
Purpose: What is known of the tokens of a text before its end is reached.
Main exports: Json.GoesOn, Json.readNumber?_append, Json.int32_of_readNumber?_append,
  Json.nextToken?_append, Json.tokens_split, Json.tokens_of_open_number
-/
import SpreadFlow.Proofs.Json.Lexing

namespace SpreadFlow.Json

open Decimal (AllDigits)

/-!
A token that was read stays the same token when more text arrives, with one exception: a number has
no closing mark, so one that stands at the very end of a text may go on in what follows.  A number
that ended before the end of the text has a character behind it that ended it, and that character
ends it in a longer text too.

Of a number that does go on little can be said, since a point or an exponent makes a float of it.
What is needed is the converse: if the longer numeral is an integer, then its beginning was one, of
the same sign and no larger.
-/

def EndsInDigit (text : List Char) : Prop :=
  ∃ last ∈ text.getLast?, last.isDigit = true

/-- The text ends in a digit, and what follows begins with a character by which a number can go
on. -/
def GoesOn (text more : List Char) : Prop :=
  EndsInDigit text ∧ ∃ next ∈ more.head?, continuesNumeral next = true

theorem not_goesOn_of_getLast? {text : List Char} {last : Char} (isLast : text.getLast? = some last)
    (noDigit : last.isDigit = false) (more : List Char) : ¬ GoesOn text more := by
  rintro ⟨⟨other, isOther, isDigit⟩, -⟩
  obtain rfl : last = other := Option.some.inj (isLast.symm.trans isOther)
  rw [noDigit] at isDigit
  cases isDigit

/-- The last character of a part at the end is the last of the text. -/
theorem EndsInDigit.prepend {text : List Char} (ends : EndsInDigit text) (front : List Char) :
    EndsInDigit (front ++ text) := by
  obtain ⟨last, isLast, isDigit⟩ := ends
  refine ⟨last, ?_, isDigit⟩
  rw [List.getLast?_append, Option.mem_def.mp isLast]
  rfl

/-! ### Digits -/

theorem endsDigits_takeDigits (text : List Char) : EndsDigits (takeDigits text).2 := by
  intro character first
  have stops := List.head?_dropWhile_not Char.isDigit text
  change (text.dropWhile Char.isDigit).head? = some character at first
  rw [first] at stops
  exact stops

/-- Digits that ended before the end of the text end there in a longer text too. -/
theorem takeDigits_append_of_ended {text rest : List Char} {digits : List Nat} {next : Char}
    (taken : takeDigits text = (digits, next :: rest)) (more : List Char) :
    takeDigits (text ++ more) = (digits, next :: rest ++ more) := by
  obtain ⟨front, behind, split, allDigits, same⟩ := takeDigits_sound text
  have ends := endsDigits_takeDigits text
  rw [taken] at same ends
  obtain ⟨rfl, rfl⟩ := Prod.mk.inj same
  rw [split, List.append_assoc]
  exact takeDigits_append allDigits fun character first => ends character first

/-- Digits at the end of a text go on with those that follow. -/
theorem takeDigits_digits_append {digits : List Char} (allDigits : AllDigits digits)
    (more : List Char) :
    takeDigits (digits ++ more) = (digitValues digits ++ (takeDigits more).1,
      (takeDigits more).2) := by
  rw [takeDigits, List.takeWhile_append_of_pos allDigits, List.dropWhile_append_of_pos allDigits,
    List.map_append]
  rfl

/-! ### Parts of a numeral that ended -/

theorem readFraction?_append {text rest : List Char} {fraction : List Nat} {next : Char}
    (read : readFraction? text = some (fraction, next :: rest)) (more : List Char) :
    readFraction? (text ++ more) = some (fraction, next :: rest ++ more) := by
  unfold readFraction? at read
  split at read
  · rename_i tail
    split at read
    · cases read
    · rename_i notEmpty
      rw [List.cons_append, readFraction?, takeDigits_append_of_ended (Option.some.inj read) more]
      split
      · rename_i last empty
        cases empty
        exact absurd (Option.some.inj read) (notEmpty (next :: rest))
      · rfl
  · rename_i noPoint
    cases read
    rw [readFraction?]
    exact fun tail same => noPoint rest (by rw [(List.cons.inj same).1])

theorem readPower?_append {negative : Bool} {text rest : List Char} {power : Option Int}
    {next : Char} (read : readPower? negative text = some (power, next :: rest))
    (more : List Char) :
    readPower? negative (text ++ more) = some (power, next :: rest ++ more) := by
  rw [readPower?] at read
  split at read
  · cases read
  · rename_i digits last notEmpty taken
    cases read
    rw [readPower?, takeDigits_append_of_ended taken more]
    split
    · rename_i empty
      cases empty
      exact absurd rfl notEmpty
    · rename_i same
      cases same
      rfl

/-- What is read of an exponent after its letter. -/
def readSigned? (text : List Char) : Option (Option Int × List Char) :=
  match text with
  | '-' :: rest => readPower? true rest
  | '+' :: rest => readPower? false rest
  | rest => readPower? false rest

theorem readExponent?_letter {letter : Char} (isLetter : letter = 'e' ∨ letter = 'E')
    (text : List Char) : readExponent? (letter :: text) = readSigned? text :=
  if_pos isLetter

theorem readExponent?_other {first : Char} (noLetter : ¬ (first = 'e' ∨ first = 'E'))
    (text : List Char) : readExponent? (first :: text) = some (none, first :: text) :=
  if_neg noLetter

theorem readSigned?_digit {digit : Char} (isDigit : digit.isDigit = true) (text : List Char) :
    readSigned? (digit :: text) = readPower? false (digit :: text) := by
  unfold readSigned?
  split
  · rename_i shape
    rw [(List.cons.inj shape).1] at isDigit
    exact absurd isDigit (by decide)
  · rename_i shape
    rw [(List.cons.inj shape).1] at isDigit
    exact absurd isDigit (by decide)
  · rfl

/-- After the letter there is an exponent, or nothing is read. -/
theorem readSigned?_ne_none {text rest : List Char} : readSigned? text ≠ some (none, rest) := by
  intro read
  unfold readSigned? at read
  split at read
  all_goals
    obtain ⟨_, _, _, _, value⟩ := readPower?_sound read
    cases value

theorem readSigned?_append {text rest : List Char} {exponent : Option Int} {next : Char}
    (read : readSigned? text = some (exponent, next :: rest)) (more : List Char) :
    readSigned? (text ++ more) = some (exponent, next :: rest ++ more) := by
  unfold readSigned? at read
  split at read
  · exact readPower?_append read more
  · exact readPower?_append read more
  · -- Without a sign there is a first digit, and the longer text begins with it too.
    obtain ⟨digits, rfl, allDigits, nonempty, -⟩ := readPower?_sound read
    obtain ⟨digit, digits, rfl⟩ := List.exists_cons_of_ne_nil nonempty
    have isDigit : digit.isDigit = true := allDigits digit List.mem_cons_self
    rw [List.cons_append, List.cons_append, readSigned?_digit isDigit]
    exact readPower?_append read more

theorem readExponent?_append {text rest : List Char} {exponent : Option Int} {next : Char}
    (read : readExponent? text = some (exponent, next :: rest)) (more : List Char) :
    readExponent? (text ++ more) = some (exponent, next :: rest ++ more) := by
  cases text with
  | nil => cases read
  | cons first text =>
      rw [List.cons_append]
      by_cases isLetter : first = 'e' ∨ first = 'E'
      · rw [readExponent?_letter isLetter] at read ⊢
        exact readSigned?_append read more
      · rw [readExponent?_other isLetter] at read ⊢
        cases read
        rfl

/-! ### Numerals -/

/-- Everything that is known of a numeral that was read after its sign. -/
theorem readUnsigned?_eq_some_iff {negative : Bool} {text rest : List Char} {numeral : Numeral} :
    readUnsigned? negative text = some (numeral, rest) ↔
      numeral.negative = negative ∧ numeral.whole ≠ [] ∧
        (∀ second others, numeral.whole ≠ 0 :: second :: others) ∧
        ∃ afterWhole afterFraction, takeDigits text = (numeral.whole, afterWhole) ∧
          readFraction? afterWhole = some (numeral.fraction, afterFraction) ∧
          readExponent? afterFraction = some (numeral.exponent, rest) := by
  constructor
  · intro read
    rw [readUnsigned?] at read
    split at read
    · cases read
    · cases read
    · rename_i whole afterWhole noDigits noZero taken
      simp only [Option.bind_eq_bind, Option.bind_eq_some_iff, Option.some.injEq,
        Prod.mk.injEq] at read
      obtain ⟨⟨fraction, afterFraction⟩, fractionRead, ⟨exponent, last⟩, exponentRead, rfl, rfl⟩ :=
        read
      exact ⟨rfl, noDigits, noZero, afterWhole, afterFraction, taken, fractionRead, exponentRead⟩
  · rintro ⟨rfl, noDigits, noZero, afterWhole, afterFraction, taken, fractionRead, exponentRead⟩
    rw [readUnsigned?, taken]
    split
    · rename_i empty
      exact absurd (Prod.mk.inj empty).1 noDigits
    · rename_i second others _ zero
      exact absurd (Prod.mk.inj zero).1 (noZero second others)
    · rename_i same
      cases same
      simp only [fractionRead, exponentRead, Option.bind_eq_bind, Option.bind_some]

/-- A numeral that ended before the end of the text is the same in a longer text. -/
theorem readUnsigned?_append {negative : Bool} {text rest : List Char} {numeral : Numeral}
    {next : Char} (read : readUnsigned? negative text = some (numeral, next :: rest))
    (more : List Char) :
    readUnsigned? negative (text ++ more) = some (numeral, next :: rest ++ more) := by
  obtain ⟨sign, noDigits, noZero, afterWhole, afterFraction, taken, fractionRead, exponentRead⟩ :=
    readUnsigned?_eq_some_iff.mp read
  have afterFractionLe := readExponent?_length_le exponentRead
  obtain ⟨second, fractionRest, rfl⟩ := List.exists_cons_of_length_pos
    (Nat.lt_of_lt_of_le (Nat.succ_pos _) afterFractionLe)
  have afterWholeLe := readFraction?_length_le fractionRead
  obtain ⟨first, wholeRest, rfl⟩ := List.exists_cons_of_length_pos
    (Nat.lt_of_lt_of_le (Nat.succ_pos _) afterWholeLe)
  exact readUnsigned?_eq_some_iff.mpr ⟨sign, noDigits, noZero, _, _,
    takeDigits_append_of_ended taken more, readFraction?_append fractionRead more,
    readExponent?_append exponentRead more⟩

theorem readNumeral?_append {text rest : List Char} {numeral : Numeral} {next : Char}
    (read : readNumeral? text = some (numeral, next :: rest)) (more : List Char) :
    readNumeral? (text ++ more) = some (numeral, next :: rest ++ more) := by
  have nonempty := readNumeral?_shorter read
  obtain ⟨first, others, rfl⟩ := List.exists_cons_of_length_pos (Nat.zero_lt_of_lt nonempty)
  by_cases minus : first = '-'
  · subst minus
    rw [readNumeral?_minus] at read
    rw [List.cons_append, readNumeral?_minus]
    exact readUnsigned?_append read more
  · have noMinus (tail : List Char) : (first :: tail).head? ≠ some '-' :=
      fun same => minus (Option.some.inj same)
    rw [readNumeral?_unsigned (noMinus others)] at read
    rw [List.cons_append, readNumeral?_unsigned (noMinus (others ++ more))]
    exact readUnsigned?_append read more

/-- A number that ended before the end of the text is the same in a longer text. -/
theorem readNumber?_append {text rest : List Char} {number : Number} {next : Char}
    (read : readNumber? text = some (number, next :: rest)) (more : List Char) :
    readNumber? (text ++ more) = some (number, next :: rest ++ more) := by
  simp only [readNumber?, Option.bind_eq_bind, Option.bind_eq_some_iff, Option.some.injEq,
    Prod.mk.injEq] at read ⊢
  obtain ⟨⟨numeral, last⟩, numeralRead, _, value, rfl, rfl⟩ := read
  exact ⟨(numeral, next :: rest ++ more), readNumeral?_append numeralRead more, _, value, rfl, rfl⟩

/-! ### Numerals that go on -/

/-- If a longer numeral has neither fraction nor exponent, then a numeral that it begins with has
none either, and its digits are the first ones. -/
theorem plain_of_readUnsigned?_append {negative : Bool}
    {whole fractionText exponentText more rest : List Char} {fraction : List Nat}
    {exponent : Option Int} {longer : Numeral} (wholeDigits : AllDigits whole)
    (fractionSpelled : SpellsFraction fractionText fraction)
    (exponentSpelled : SpellsExponent exponentText exponent)
    (read : readUnsigned? negative (whole ++ (fractionText ++ (exponentText ++ more))) =
      some (longer, rest))
    (noFraction : longer.fraction = []) (noExponent : longer.exponent = none) :
    fraction = [] ∧ exponent = none ∧ ∃ further, longer.whole = digitValues whole ++ further := by
  obtain ⟨-, -, -, afterWhole, afterFraction, taken, fractionRead, exponentRead⟩ :=
    readUnsigned?_eq_some_iff.mp read
  rw [noFraction] at fractionRead
  rw [noExponent] at exponentRead
  rw [takeDigits_digits_append wholeDigits] at taken
  obtain ⟨wholeSame, rfl⟩ := Prod.mk.inj taken
  cases fractionSpelled with
  | present allDigits nonempty =>
      -- The point stands right behind the digits, so there is a fraction.
      rename_i digits
      exfalso
      change readFraction? ('.' :: (digits ++ (exponentText ++ more))) = _ at fractionRead
      rw [readFraction?, takeDigits_digits_append allDigits] at fractionRead
      split at fractionRead
      · cases fractionRead
      · rename_i notEmpty
        have empty := (Prod.mk.inj (Option.some.inj fractionRead)).1
        exact digitValues_ne_nil nonempty (List.append_eq_nil_iff.mp empty).1
  | absent =>
      cases exponentSpelled with
      | present isLetter signed allDigits nonempty =>
          -- The letter stands right behind the digits, so there is an exponent.
          exfalso
          rcases isLetter with rfl | rfl
          · cases fractionRead
            exact readSigned?_ne_none exponentRead
          · cases fractionRead
            exact readSigned?_ne_none exponentRead
      | absent => exact ⟨rfl, rfl, _, wholeSame.symm⟩

/-- Every integer in the range is one of 32 bits. -/
theorem exists_int32 (value : Int) (atLeast : -2147483648 ≤ value) (atMost : value ≤ 2147483647) :
    ∃ word : Int32, value = word.toInt :=
  ⟨Int32.ofInt value, (Int32.toInt_ofInt_of_le atLeast (by omega)).symm⟩

/-- Digits that begin a positive integer are positive, for a zero in front would be its only
digit. -/
theorem digitsValue_pos_of_longer {whole : List Char} {further : List Nat}
    (wholeDigits : AllDigits whole) (nonempty : whole ≠ [])
    (noZero : ∀ second rest, digitValues whole ++ further ≠ 0 :: second :: rest)
    (positive : 0 < digitsValue (digitValues whole ++ further)) :
    0 < digitsValue (digitValues whole) := by
  obtain ⟨first, others, rfl⟩ := List.exists_cons_of_ne_nil nonempty
  have firstDigit : first.isDigit = true := wholeDigits first List.mem_cons_self
  by_cases zero : first = '0'
  · subst zero
    cases tail : digitValues others ++ further with
    | nil =>
        have alone : digitValues ('0' :: others) ++ further = [0] := congrArg (0 :: ·) tail
        rw [alone] at positive
        exact absurd positive (by decide)
    | cons second rest => exact absurd (congrArg (0 :: ·) tail) (noZero second rest)
  · rw [digitsValue_digitValues]
    exact Nat.lt_of_lt_of_le (Nat.pow_pos (Nat.succ_pos 9))
      (Decimal.pow_le_spelled_cons firstDigit zero others)

/-- If a number that goes on is an integer of 32 bits in the end, then its beginning is one too. -/
theorem int32_of_readNumber?_append {spelling more rest : List Char} {numeral : Numeral}
    {number : Number} {word : Int32} (spelled : SpellsNumeral spelling numeral)
    (stands : numeral.number? = some number)
    (read : readNumber? (spelling ++ more) = some (.integer word.toInt, rest)) :
    ∃ shorter : Int32, number = .integer shorter.toInt := by
  have least := word.le_toInt
  have greatest := word.toInt_lt
  simp only [readNumber?, Option.bind_eq_bind, Option.bind_eq_some_iff, Option.some.injEq,
    Prod.mk.injEq] at read
  obtain ⟨⟨longer, _⟩, longerRead, _, longerStands, rfl, -⟩ := read
  have isInteger : longer.number? = some (.integer word.toInt) := longerStands
  obtain ⟨noFraction, noExponent, value⟩ := number?_eq_integer isInteger
  obtain ⟨negative, wholeDigits, nonempty, -, fractionSpelled, exponentSpelled⟩ := spelled
  rename_i whole fractionText exponentText _ _
  simp only [List.append_assoc, readNumeral?_signed negative wholeDigits nonempty] at longerRead
  obtain ⟨rfl, -, noZero, -⟩ := readUnsigned?_eq_some_iff.mp longerRead
  obtain ⟨rfl, rfl, further, wholeSame⟩ := plain_of_readUnsigned?_append wholeDigits
    fractionSpelled exponentSpelled longerRead noFraction noExponent
  have noLarger : digitsValue (digitValues whole) ≤ digitsValue longer.whole := by
    rw [wholeSame, digitsValue, digitsValue, List.foldl_append]
    exact le_foldl_digits further _
  rcases value with ⟨sign, magnitude⟩ | ⟨sign, positive, magnitude⟩
  · rw [sign, number?_unsigned (by omega)] at stands
    obtain ⟨shorter, same⟩ := exists_int32 (digitsValue (digitValues whole)) (by omega) (by omega)
    exact ⟨shorter, by rw [← Option.some.inj stands, same]⟩
  · have positiveToo : 0 < digitsValue (digitValues whole) := by
      rw [wholeSame] at positive noZero
      exact digitsValue_pos_of_longer wholeDigits nonempty noZero positive
    rw [sign, number?_negative positiveToo (by omega)] at stands
    obtain ⟨shorter, same⟩ := exists_int32 (-digitsValue (digitValues whole)) (by omega) (by omega)
    exact ⟨shorter, by rw [← Option.some.inj stands, same]⟩

theorem endsInDigit_of_allDigits {digits : List Char} (allDigits : AllDigits digits)
    (nonempty : digits ≠ []) : EndsInDigit digits :=
  ⟨digits.getLast nonempty, List.getLast?_eq_some_getLast nonempty,
    allDigits _ (List.getLast_mem nonempty)⟩

/-- The last character of a numeral is a digit. -/
theorem SpellsNumeral.endsInDigit {spelling : List Char} {numeral : Numeral}
    (spelled : SpellsNumeral spelling numeral) : EndsInDigit spelling := by
  obtain ⟨negative, wholeDigits, nonempty, -, fractionSpelled, exponentSpelled⟩ := spelled
  apply EndsInDigit.prepend
  cases exponentSpelled with
  | present isLetter signed allDigits digitsNonempty =>
      rename_i letter sign _ _
      have power := (endsInDigit_of_allDigits allDigits digitsNonempty).prepend sign
      exact ((power.prepend [letter]).prepend _).prepend _
  | absent =>
      rw [List.append_nil]
      cases fractionSpelled with
      | present allDigits digitsNonempty =>
          exact ((endsInDigit_of_allDigits allDigits digitsNonempty).prepend ['.']).prepend _
      | absent =>
          rw [List.append_nil]
          exact endsInDigit_of_allDigits wholeDigits nonempty

/-! ### Tokens that ended -/

/-- A number token is read as a number. -/
theorem readNumber?_of_nextToken? {text rest : List Char} {number : Number}
    (next : nextToken? text = some (.number number, rest)) :
    ∃ first others, text = first :: others ∧ (first.isDigit = true ∨ first = '-') ∧
      readNumber? text = some (number, rest) := by
  obtain ⟨spelling, rfl, spelled⟩ := nextToken?_sound next
  cases spelled with
  | number spelled stands =>
      obtain ⟨first, others, rfl, isFirst⟩ := spelled.head
      refine ⟨first, others ++ rest, rfl, isFirst, ?_⟩
      rw [List.cons_append, nextToken?_of_digit isFirst, Option.map_eq_some_iff] at next
      obtain ⟨⟨found, last⟩, read, same⟩ := next
      cases same
      exact read

/-- A token stays the same when more text arrives, unless it is a number that may go on. -/
theorem nextToken?_append {text rest : List Char} {token : Token}
    (next : nextToken? text = some (token, rest)) (more : List Char)
    (closed : token.isNumber = true → rest = [] → EndsNumeral more) :
    nextToken? (text ++ more) = some (token, rest ++ more) := by
  obtain ⟨spelling, rfl, spelled⟩ := nextToken?_sound next
  by_cases ended : token.isNumber = true ∧ rest ≠ []
  · -- What ended the number is part of the text.
    obtain ⟨isNumber, nonempty⟩ := ended
    cases token with
    | number number =>
        obtain ⟨character, others, rfl⟩ := List.exists_cons_of_ne_nil nonempty
        obtain ⟨first, tail, same, isFirst, read⟩ := readNumber?_of_nextToken? next
        rw [same] at read ⊢
        rw [List.cons_append, nextToken?_of_digit isFirst, ← List.cons_append,
          readNumber?_append read more]
        rfl
    | _ => cases isNumber
  · rw [List.append_assoc]
    apply nextToken?_complete spelled
    intro isNumber
    have atEnd : rest = [] := not_not.mp fun nonempty => ended ⟨isNumber, nonempty⟩
    rw [atEnd, List.nil_append]
    exact closed isNumber atEnd

/-! ### All tokens -/

/-- The first token of a text, with the text behind it. -/
theorem exists_nextToken?_of_tokens {text : List Char} {token : Token} {sequence : List Token}
    (cut : tokens text = token :: sequence) (whole : token ≠ .malformed) :
    ∃ blanks body after, text = blanks ++ body ∧ AllBlank blanks ∧
      nextToken? body = some (token, after) ∧ tokens after = sequence := by
  have leading : AllBlank (text.takeWhile isBlank) := fun _ member =>
    List.mem_takeWhile_imp member
  have split := List.takeWhile_append_dropWhile (p := isBlank) (l := text)
  rw [tokens] at cut
  split at cut
  · cases cut
  · rename_i first others shape
    rw [shape] at split
    split at cut
    · obtain ⟨rfl, -⟩ := List.cons.inj cut
      exact absurd rfl whole
    · rename_i found after next
      obtain ⟨rfl, rfl⟩ := List.cons.inj cut
      exact ⟨_, _, after, split.symm, leading, next, rfl⟩

theorem tokens_of_nextToken?_eq_none {blanks text : List Char} (allBlank : AllBlank blanks)
    (visible : ∀ first ∈ text.head?, isBlank first = false) (nonempty : text ≠ [])
    (none : nextToken? text = none) : tokens (blanks ++ text) = [.malformed] := by
  rw [tokens]
  split
  · rename_i shape
    rw [dropWhile_isBlank allBlank visible] at shape
    exact absurd shape nonempty
  · rename_i shape
    rw [dropWhile_isBlank allBlank visible] at shape
    split
    · rfl
    · rename_i next
      rw [← shape, none] at next
      cases next

/-- Tokens at the front of a text stay the same when more text arrives, and what is behind them is
read together with it.  Only if they are all tokens and the last is a number must it not go on. -/
theorem tokens_split {text : List Char} {front later : List Token}
    (cut : tokens text = front ++ later) (whole : Token.malformed ∉ front) (more : List Char)
    (closed : later = [] → (∃ last ∈ front.getLast?, last.isNumber = true) → ¬ GoesOn text more) :
    ∃ rest, tokens rest = later ∧ tokens (text ++ more) = front ++ tokens (rest ++ more) := by
  induction front generalizing text with
  | nil => exact ⟨text, cut, rfl⟩
  | cons token front inductionHypothesis =>
      obtain ⟨isToken, wholeFront⟩ := not_or.mp (mt List.mem_cons.mpr whole)
      obtain ⟨blanks, body, after, rfl, allBlank, next, cutAfter⟩ :=
        exists_nextToken?_of_tokens cut fun same => isToken same.symm
      obtain ⟨spelling, rfl, spelled⟩ := nextToken?_sound next
      have closedAfter : later = [] → (∃ last ∈ front.getLast?, last.isNumber = true) →
          ¬ GoesOn after more := by
        rintro none ⟨last, isLast, isNumber⟩ goesOn
        refine closed none ⟨last, ?_, isNumber⟩ ?_
        · rw [List.getLast?_cons, Option.mem_def.mp isLast]
          rfl
        · rw [← List.append_assoc]
          exact ⟨goesOn.1.prepend (blanks ++ spelling), goesOn.2⟩
      have closedToken : token.isNumber = true → after = [] → EndsNumeral more := by
        rintro isNumber rfl
        rw [tokens_of_allBlank .nil] at cutAfter
        obtain ⟨rfl, rfl⟩ := List.append_eq_nil_iff.mp cutAfter.symm
        have stops := closed rfl ⟨token, rfl, isNumber⟩
        intro character isNext
        by_contra continues
        apply stops
        refine ⟨?_, character, isNext, eq_true_of_ne_false continues⟩
        rw [List.append_nil]
        cases spelled with
        | number spelled _ => exact spelled.endsInDigit.prepend blanks
        | _ => cases isNumber
      obtain ⟨rest, behind, appended⟩ := inductionHypothesis cutAfter wholeFront closedAfter
      refine ⟨rest, behind, ?_⟩
      rw [List.append_assoc, tokens_append allBlank (nextToken?_append next more closedToken),
        appended, List.cons_append]

/-- A number at the end of a text, read together with more text, is a number or broken.  If it is
an integer of 32 bits then, it was one before. -/
theorem tokens_of_open_number {text : List Char} {front : List Token} {number : Number}
    (cut : tokens text = front ++ [.number number]) (whole : Token.malformed ∉ front)
    (more : List Char) :
    (∃ later, tokens (text ++ more) = front ++ .malformed :: later) ∨
      ∃ longer later, tokens (text ++ more) = front ++ .number longer :: later ∧
        ∀ word : Int32, longer = .integer word.toInt →
          ∃ shorter : Int32, number = .integer shorter.toInt := by
  obtain ⟨rest, atEnd, appended⟩ := tokens_split cut whole more fun none => nomatch none
  obtain ⟨blanks, body, after, rfl, allBlank, next, -⟩ :=
    exists_nextToken?_of_tokens atEnd nofun
  rw [appended]
  obtain ⟨spelling, rfl, spelled⟩ := nextToken?_sound next
  obtain ⟨first, others, rfl, visible, -⟩ := spelled.head
  cases spelled with
  | number spelled stands =>
      obtain ⟨_, _, same, isFirst⟩ := spelled.head
      cases same
      have token := nextToken?_of_digit isFirst (others ++ (after ++ more))
      rw [List.append_assoc, List.append_assoc, List.cons_append]
      cases read : readNumber? (first :: (others ++ (after ++ more))) with
      | none =>
          left
          rw [read] at token
          refine ⟨[], ?_⟩
          rw [tokens_of_nextToken?_eq_none allBlank _ (List.cons_ne_nil _ _) token]
          intro character isHead
          cases isHead
          exact visible
      | some pair =>
          obtain ⟨longer, last⟩ := pair
          right
          rw [read] at token
          refine ⟨longer, tokens last, ?_, ?_⟩
          · rw [tokens_append allBlank token]
          · rintro word rfl
            exact int32_of_readNumber?_append spelled stands read

end SpreadFlow.Json
