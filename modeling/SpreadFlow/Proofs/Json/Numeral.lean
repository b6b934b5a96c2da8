/-
Module: SpreadFlow.Proofs.Json.Numeral
Purpose: The grammar of numerals, that the reader takes exactly what it allows, and which numerals
  stand for integers.
Main exports: Json.SpellsNumeral, Json.EndsNumeral, Json.readNumeral?_sound,
  Json.readNumeral?_complete, Json.spellsNumeral_integer
-/
import SpreadFlow.Json.Number
import SpreadFlow.Proofs.Decimal.Reading

namespace SpreadFlow.Json

open Decimal (AllDigits)

/-!
A numeral has no closing mark.  It goes on for as long as the text can be taken for more of it, so
what is read depends on the character behind: the digits of `12` are one numeral and not two.
Reading a spelled numeral back therefore needs to know that the text behind it does not go on.
-/

/-- The values of decimal digits, one by one. -/
def digitValues (digits : List Char) : List Nat :=
  digits.map fun digit => digit.toNat - '0'.toNat

/-- The text is a fraction with these digits, or empty if there are none. -/
inductive SpellsFraction : List Char → List Nat → Prop where
  | absent : SpellsFraction [] []
  | present {digits : List Char} (allDigits : AllDigits digits) (nonempty : digits ≠ []) :
      SpellsFraction ('.' :: digits) (digitValues digits)

/-- The text is the sign of an exponent.  A plus may be left out. -/
inductive SpellsSign : List Char → Bool → Prop where
  | absent : SpellsSign [] false
  | plus : SpellsSign ['+'] false
  | minus : SpellsSign ['-'] true

/-- The text is an exponent of this value, or empty if there is none. -/
inductive SpellsExponent : List Char → Option Int → Prop where
  | absent : SpellsExponent [] none
  | present {letter : Char} {sign digits : List Char} {negative : Bool}
      (isLetter : letter = 'e' ∨ letter = 'E') (signed : SpellsSign sign negative)
      (allDigits : AllDigits digits) (nonempty : digits ≠ []) :
      SpellsExponent (letter :: (sign ++ digits))
        (some (if negative then -(digitsValue (digitValues digits) : Int)
          else digitsValue (digitValues digits)))

/-- The text is a numeral: perhaps a minus, digits without a zero before others, perhaps a fraction
and perhaps an exponent. -/
inductive SpellsNumeral : List Char → Numeral → Prop where
  | mk (negative : Bool) {whole fractionText exponentText : List Char} {fraction : List Nat}
      {exponent : Option Int} (wholeDigits : AllDigits whole) (nonempty : whole ≠ [])
      (noZero : whole.head? = some '0' → whole = ['0'])
      (fractionSpelled : SpellsFraction fractionText fraction)
      (exponentSpelled : SpellsExponent exponentText exponent) :
      SpellsNumeral
        ((if negative then ['-'] else []) ++ (whole ++ (fractionText ++ exponentText)))
        ⟨negative, digitValues whole, fraction, exponent⟩

/-- The characters by which a numeral can go on. -/
def continuesNumeral (character : Char) : Bool :=
  character.isDigit || character = '.' || character = 'e' || character = 'E'

/-- No numeral goes on into this text. -/
def EndsNumeral (text : List Char) : Prop :=
  ∀ character ∈ text.head?, continuesNumeral character = false

/-! ### Digits -/

/-- The text begins with no digit. -/
def EndsDigits (text : List Char) : Prop :=
  ∀ character ∈ text.head?, character.isDigit = false

theorem EndsNumeral.endsDigits {text : List Char} (ends : EndsNumeral text) : EndsDigits text := by
  intro character first
  have stops := ends character first
  simp only [continuesNumeral, Bool.or_eq_false_iff] at stops
  exact stops.1.1.1

theorem takeDigits_append {digits rest : List Char} (allDigits : AllDigits digits)
    (ends : EndsDigits rest) : takeDigits (digits ++ rest) = (digitValues digits, rest) := by
  have none : rest.takeWhile Char.isDigit = [] := by
    cases rest with
    | nil => rfl
    | cons character rest => simp [ends character rfl]
  obtain ⟨taken, left⟩ := Decimal.takeWhile_isDigit_append allDigits rest none
  rw [takeDigits, taken, left, digitValues]

theorem takeDigits_sound (text : List Char) : ∃ digits rest, text = digits ++ rest ∧
    AllDigits digits ∧ takeDigits text = (digitValues digits, rest) :=
  ⟨text.takeWhile Char.isDigit, text.dropWhile Char.isDigit,
    List.takeWhile_append_dropWhile.symm, fun _ member => List.mem_takeWhile_imp member, rfl⟩

/-- A text of digits does not begin with anything else. -/
theorem append_ne_cons {digits rest tail : List Char} {character : Char}
    (allDigits : AllDigits digits) (nonempty : digits ≠ []) (other : character.isDigit = false) :
    digits ++ rest ≠ character :: tail := by
  cases digits with
  | nil => exact absurd rfl nonempty
  | cons digit digits =>
      intro same
      have isDigit : digit.isDigit = true := allDigits digit List.mem_cons_self
      rw [(List.cons.inj same).1, other] at isDigit
      cases isDigit

theorem digitValues_ne_nil {digits : List Char} (nonempty : digits ≠ []) :
    digitValues digits ≠ [] :=
  fun empty => nonempty (List.map_eq_nil_iff.mp empty)

/-! ### The parts of a numeral -/

theorem readFraction?_sound {text rest : List Char} {fraction : List Nat}
    (read : readFraction? text = some (fraction, rest)) :
    ∃ spelling, text = spelling ++ rest ∧ SpellsFraction spelling fraction := by
  unfold readFraction? at read
  split at read
  · rename_i tail
    obtain ⟨digits, behind, rfl, allDigits, taken⟩ := takeDigits_sound tail
    rw [taken] at read
    split at read
    · cases read
    · rename_i some_ notEmpty
      cases read
      refine ⟨'.' :: digits, rfl, .present allDigits ?_⟩
      rintro rfl
      exact notEmpty rest rfl
  · cases read
    exact ⟨[], rfl, .absent⟩

theorem readFraction?_complete {spelling rest : List Char} {fraction : List Nat}
    (spelled : SpellsFraction spelling fraction) (ends : EndsDigits rest)
    (noPoint : rest.head? ≠ some '.') :
    readFraction? (spelling ++ rest) = some (fraction, rest) := by
  cases spelled with
  | absent =>
      rw [List.nil_append]
      unfold readFraction?
      split
      · exact absurd rfl noPoint
      · rfl
  | present allDigits nonempty =>
      rw [List.cons_append]
      simp only [readFraction?, takeDigits_append allDigits ends]
      split
      · rename_i empty
        exact absurd (Prod.mk.inj empty).1 (digitValues_ne_nil nonempty)
      · rfl

theorem readPower?_sound {negative : Bool} {text rest : List Char} {power : Option Int}
    (read : readPower? negative text = some (power, rest)) :
    ∃ digits, text = digits ++ rest ∧ AllDigits digits ∧ digits ≠ [] ∧
      power = some (if negative then -(digitsValue (digitValues digits) : Int)
        else digitsValue (digitValues digits)) := by
  obtain ⟨digits, behind, rfl, allDigits, taken⟩ := takeDigits_sound text
  rw [readPower?, taken] at read
  split at read
  · cases read
  · rename_i values last notEmpty same
    cases same
    cases read
    refine ⟨digits, rfl, allDigits, ?_, rfl⟩
    rintro rfl
    exact notEmpty rfl

theorem readPower?_complete {digits rest : List Char} (negative : Bool)
    (allDigits : AllDigits digits) (nonempty : digits ≠ []) (ends : EndsDigits rest) :
    readPower? negative (digits ++ rest) =
      some (some (if negative then -(digitsValue (digitValues digits) : Int)
        else digitsValue (digitValues digits)), rest) := by
  rw [readPower?, takeDigits_append allDigits ends]
  split
  · rename_i empty
    exact absurd (Prod.mk.inj empty).1 (digitValues_ne_nil nonempty)
  · rename_i same
    cases same
    rfl

theorem readExponent?_sound {text rest : List Char} {exponent : Option Int}
    (read : readExponent? text = some (exponent, rest)) :
    ∃ spelling, text = spelling ++ rest ∧ SpellsExponent spelling exponent := by
  unfold readExponent? at read
  split at read
  · split at read
    · rename_i letter tail isLetter
      split at read
      · obtain ⟨digits, rfl, allDigits, nonempty, rfl⟩ := readPower?_sound read
        exact ⟨letter :: (['-'] ++ digits), rfl, .present isLetter .minus allDigits nonempty⟩
      · obtain ⟨digits, rfl, allDigits, nonempty, rfl⟩ := readPower?_sound read
        exact ⟨letter :: (['+'] ++ digits), rfl, .present isLetter .plus allDigits nonempty⟩
      · obtain ⟨digits, rfl, allDigits, nonempty, rfl⟩ := readPower?_sound read
        exact ⟨letter :: ([] ++ digits), rfl, .present isLetter .absent allDigits nonempty⟩
    · cases read
      exact ⟨[], rfl, .absent⟩
  · cases read
    exact ⟨[], rfl, .absent⟩

theorem readExponent?_complete {spelling rest : List Char} {exponent : Option Int}
    (spelled : SpellsExponent spelling exponent) (ends : EndsNumeral rest) :
    readExponent? (spelling ++ rest) = some (exponent, rest) := by
  unfold readExponent?
  cases spelled with
  | absent =>
      cases rest with
      | nil => rfl
      | cons character rest =>
          have stops := ends character rfl
          simp only [continuesNumeral, Bool.or_eq_false_iff, decide_eq_false_iff_not] at stops
          exact if_neg (not_or.mpr ⟨stops.1.2, stops.2⟩)
  | present isLetter signed allDigits nonempty =>
      have power (negative : Bool) :=
        readPower?_complete negative allDigits nonempty ends.endsDigits
      rw [List.cons_append]
      dsimp only
      rw [if_pos isLetter]
      cases signed with
      | minus => exact power true
      | plus => exact power false
      | absent =>
          rename_i digits
          rw [List.nil_append]
          -- The first digit is no sign.
          split
          · rename_i shape
            exact absurd shape (append_ne_cons allDigits nonempty (by decide))
          · rename_i shape
            exact absurd shape (append_ne_cons allDigits nonempty (by decide))
          · exact power false

/-! ### Whole numerals -/

theorem SpellsFraction.endsDigits_append {text rest : List Char} {fraction : List Nat}
    (spelled : SpellsFraction text fraction) (ends : EndsDigits rest) :
    EndsDigits (text ++ rest) := by
  cases spelled with
  | absent => exact ends
  | present _ _ =>
      intro character first
      cases first
      rfl

theorem SpellsExponent.ends_append {text rest : List Char} {exponent : Option Int}
    (spelled : SpellsExponent text exponent) (ends : EndsNumeral rest) :
    EndsDigits (text ++ rest) ∧ (text ++ rest).head? ≠ some '.' := by
  cases spelled with
  | absent =>
      refine ⟨ends.endsDigits, ?_⟩
      intro point
      cases ends '.' point
  | present isLetter _ _ _ =>
      rcases isLetter with rfl | rfl
      · refine ⟨?_, by simp⟩
        intro character first
        cases first
        rfl
      · refine ⟨?_, by simp⟩
        intro character first
        cases first
        rfl

/-- Digits that begin with a zero before others are the spelling of no number. -/
theorem digitValues_eq_zero_cons_iff {whole : List Char} (wholeDigits : AllDigits whole) :
    (∃ second others, digitValues whole = 0 :: second :: others) ↔
      whole.head? = some '0' ∧ whole ≠ ['0'] := by
  match whole with
  | [] => simp [digitValues]
  | [digit] => simp [digitValues]
  | first :: second :: others =>
      have isDigit : first.isDigit = true := wholeDigits first List.mem_cons_self
      by_cases zero : first = '0'
      · simp [digitValues, zero]
      · have positive := Decimal.digit_value_pos isDigit zero
        have nonzero : first.toNat - '0'.toNat ≠ 0 := Nat.ne_of_gt positive
        simp only [digitValues, List.map_cons, List.cons.injEq, nonzero, false_and, exists_false,
          List.head?_cons, Option.some.injEq, zero]

/-- What is read of a numeral after its sign. -/
def readUnsigned? (negative : Bool) (text : List Char) : Option (Numeral × List Char) :=
  match takeDigits text with
  | ([], _) | (0 :: _ :: _, _) => none
  | (whole, afterWhole) => do
      let (fraction, afterFraction) ← readFraction? afterWhole
      let (exponent, rest) ← readExponent? afterFraction
      some (⟨negative, whole, fraction, exponent⟩, rest)

theorem readNumeral?_minus (text : List Char) :
    readNumeral? ('-' :: text) = readUnsigned? true text := rfl

theorem readNumeral?_unsigned {text : List Char} (noMinus : text.head? ≠ some '-') :
    readNumeral? text = readUnsigned? false text := by
  unfold readNumeral?
  split
  rename_i shape
  split at shape
  · exact absurd rfl noMinus
  · cases shape
    rfl

theorem readUnsigned?_sound {negative : Bool} {text rest : List Char} {numeral : Numeral}
    (read : readUnsigned? negative text = some (numeral, rest)) :
    ∃ spelling, (if negative then ['-'] else []) ++ text = spelling ++ rest ∧
      SpellsNumeral spelling numeral := by
  obtain ⟨whole, afterWhole, rfl, wholeDigits, taken⟩ := takeDigits_sound text
  rw [readUnsigned?, taken] at read
  split at read
  · cases read
  · cases read
  · rename_i values afterValues noDigits noZero same
    cases same
    simp only [Option.bind_eq_bind, Option.bind_eq_some_iff, Option.some.injEq,
      Prod.mk.injEq] at read
    obtain ⟨⟨fraction, afterFraction⟩, fractionRead, ⟨exponent, last⟩, exponentRead, rfl, rfl⟩ :=
      read
    obtain ⟨fractionText, rfl, fractionSpelled⟩ := readFraction?_sound fractionRead
    obtain ⟨exponentText, rfl, exponentSpelled⟩ := readExponent?_sound exponentRead
    refine ⟨_, ?_, .mk negative wholeDigits ?_ ?_ fractionSpelled exponentSpelled⟩
    · simp only [List.append_assoc]
    · rintro rfl
      exact noDigits rfl
    · intro zero
      by_contra more
      obtain ⟨second, others, shape⟩ :=
        (digitValues_eq_zero_cons_iff wholeDigits).mpr ⟨zero, more⟩
      exact noZero second others shape

/-- A numeral that is read is one of the grammar. -/
theorem readNumeral?_sound {text rest : List Char} {numeral : Numeral}
    (read : readNumeral? text = some (numeral, rest)) :
    ∃ spelling, text = spelling ++ rest ∧ SpellsNumeral spelling numeral := by
  by_cases minus : text.head? = some '-'
  · obtain ⟨tail, rfl⟩ := List.head?_eq_some_iff.mp minus
    exact readUnsigned?_sound read
  · rw [readNumeral?_unsigned minus] at read
    exact readUnsigned?_sound read

theorem readUnsigned?_complete (negative : Bool) {whole fractionText exponentText rest : List Char}
    {fraction : List Nat} {exponent : Option Int} (wholeDigits : AllDigits whole)
    (nonempty : whole ≠ []) (noZero : whole.head? = some '0' → whole = ['0'])
    (fractionSpelled : SpellsFraction fractionText fraction)
    (exponentSpelled : SpellsExponent exponentText exponent) (ends : EndsNumeral rest) :
    readUnsigned? negative (whole ++ (fractionText ++ (exponentText ++ rest))) =
      some (⟨negative, digitValues whole, fraction, exponent⟩, rest) := by
  obtain ⟨endsFraction, noPoint⟩ := exponentSpelled.ends_append ends
  have fractionRead := readFraction?_complete fractionSpelled endsFraction noPoint
  have exponentRead := readExponent?_complete exponentSpelled ends
  rw [readUnsigned?, takeDigits_append wholeDigits (fractionSpelled.endsDigits_append endsFraction)]
  split
  · rename_i empty
    exact absurd (Prod.mk.inj empty).1 (digitValues_ne_nil nonempty)
  · rename_i second others _ zero
    obtain ⟨first, more⟩ := (digitValues_eq_zero_cons_iff wholeDigits).mp
      ⟨second, others, (Prod.mk.inj zero).1⟩
    exact absurd (noZero first) more
  · rename_i same
    cases same
    simp only [fractionRead, exponentRead, Option.bind_eq_bind, Option.bind_some]

/-- The sign before the digits of a numeral is read off, whatever follows them. -/
theorem readNumeral?_signed (negative : Bool) {whole : List Char} (wholeDigits : AllDigits whole)
    (nonempty : whole ≠ []) (tail : List Char) :
    readNumeral? ((if negative then ['-'] else []) ++ (whole ++ tail)) =
      readUnsigned? negative (whole ++ tail) := by
  cases negative with
  | true => exact readNumeral?_minus (whole ++ tail)
  | false =>
      apply readNumeral?_unsigned
      intro minus
      obtain ⟨_, shape⟩ := List.head?_eq_some_iff.mp minus
      exact append_ne_cons wholeDigits nonempty (by decide) shape

/-- A numeral of the grammar is read whole if the text behind it does not go on. -/
theorem readNumeral?_complete {spelling rest : List Char} {numeral : Numeral}
    (spelled : SpellsNumeral spelling numeral) (ends : EndsNumeral rest) :
    readNumeral? (spelling ++ rest) = some (numeral, rest) := by
  obtain ⟨negative, wholeDigits, nonempty, noZero, fractionSpelled, exponentSpelled⟩ := spelled
  simp only [List.append_assoc, readNumeral?_signed negative wholeDigits nonempty]
  exact readUnsigned?_complete negative wholeDigits nonempty noZero fractionSpelled
    exponentSpelled ends

/-! ### Integers -/

theorem digitsValue_digitValues (digits : List Char) :
    digitsValue (digitValues digits) = Decimal.spelled digits := by
  rw [digitsValue, digitValues, List.foldl_map, Decimal.spelled, Nat.ofDigitChars]
  congr
  funext value digit
  rw [Nat.mul_comm]

theorem le_foldl_digits (digits : List Nat) (start : Nat) :
    start ≤ digits.foldl (fun value digit => value * 10 + digit) start := by
  induction digits generalizing start with
  | nil => exact Nat.le_refl start
  | cons digit digits inductionHypothesis =>
      exact Nat.le_trans (by omega) (inductionHypothesis (start * 10 + digit))

/-- Digits whose number fits are gathered to the last. -/
theorem gather_of_lt {digits : List Nat} {start : Nat}
    (fits : digits.foldl (fun value digit => value * 10 + digit) start < 2 ^ 64) :
    gather start digits =
      (digits.foldl (fun value digit => value * 10 + digit) start, digits.length) := by
  induction digits generalizing start with
  | nil => rfl
  | cons digit digits inductionHypothesis =>
      have first : start * 10 + digit < Nat.pow 2 64 :=
        Nat.lt_of_le_of_lt (le_foldl_digits digits (start * 10 + digit)) fits
      rw [gather, if_pos first, inductionHypothesis fits]
      rfl

/-- Without a sign the numeral of a number below `2 ^ 64` stands for that number. -/
theorem number?_unsigned {whole : List Nat} (fits : digitsValue whole < 2 ^ 64) :
    (Numeral.mk false whole [] none).number? = some (.integer (digitsValue whole)) := by
  simp [Numeral.number?, gather_of_lt fits, digitsValue]

/-- With a minus it stands for the negative of a number up to `2 ^ 63`, unless it is zero. -/
theorem number?_negative {whole : List Nat} (positive : 0 < digitsValue whole)
    (fits : digitsValue whole ≤ 2 ^ 63) :
    (Numeral.mk true whole [] none).number? = some (.integer (-digitsValue whole)) := by
  have gathered : gather 0 whole = (digitsValue whole, whole.length) :=
    gather_of_lt (Nat.lt_of_le_of_lt fits (by decide))
  have inRange : 0 < digitsValue whole ∧ digitsValue whole ≤ Nat.pow 2 63 := ⟨positive, fits⟩
  simp [Numeral.number?, gathered, -Nat.pow_eq, if_pos inRange]

/-- If no digit is left over, the significand is the number of all of them. -/
theorem gather_of_length_le {digits : List Nat} {start : Nat}
    (all : digits.length ≤ (gather start digits).2) :
    (gather start digits).1 = digits.foldl (fun value digit => value * 10 + digit) start := by
  induction digits generalizing start with
  | nil => rfl
  | cons digit digits inductionHypothesis =>
      rw [gather] at all ⊢
      split at all
      · rename_i fits
        rw [if_pos fits]
        exact inductionHypothesis (Nat.le_of_succ_le_succ all)
      · cases all

/-- Only a numeral without fraction and exponent stands for an integer.  Under a minus it is not
zero. -/
theorem number?_eq_integer {numeral : Numeral} {value : Int}
    (stands : numeral.number? = some (.integer value)) :
    numeral.fraction = [] ∧ numeral.exponent = none ∧
      ((numeral.negative = false ∧ value = digitsValue numeral.whole) ∨
        (numeral.negative = true ∧ 0 < digitsValue numeral.whole ∧
          value = -digitsValue numeral.whole)) := by
  simp only [Numeral.number?] at stands
  split at stands
  · rename_i plain
    obtain ⟨noFraction, noExponent, noneLeft⟩ := plain
    have gathered : (gather 0 numeral.whole).1 = digitsValue numeral.whole :=
      gather_of_length_le (Nat.le_of_sub_eq_zero noneLeft)
    rw [gathered] at stands
    refine ⟨noFraction, noExponent, ?_⟩
    split at stands
    · rename_i unsigned
      cases stands
      exact .inl ⟨eq_false_of_ne_true unsigned, rfl⟩
    · rename_i signed
      split at stands
      · rename_i inRange
        cases stands
        exact .inr ⟨not_not.mp signed, inRange.1, rfl⟩
      · obtain ⟨code, -, float⟩ := Option.map_eq_some_iff.mp stands
        cases float
  · obtain ⟨code, -, float⟩ := Option.map_eq_some_iff.mp stands
    cases float

/-- The base-ten text of an integer is the numeral of its sign and digits. -/
theorem spellsNumeral_integer (value : Int) :
    SpellsNumeral (Decimal.integer value)
      ⟨decide (value < 0), digitValues (Decimal.digits value.natAbs), [], none⟩ := by
  have spelled := SpellsNumeral.mk (decide (value < 0))
    (Decimal.allDigits_digits value.natAbs) (Decimal.digits_ne_nil value.natAbs)
    Decimal.head?_digits
    .absent .absent
  rw [Decimal.integer]
  split
  · simpa [*] using spelled
  · simpa [*] using spelled

/-- That numeral stands for the integer, if it fits 64 bits. -/
theorem number?_integer {value : Int} (atLeast : -2 ^ 63 ≤ value) (below : value < 2 ^ 64) :
    (Numeral.mk (decide (value < 0)) (digitValues (Decimal.digits value.natAbs)) [] none).number? =
      some (.integer value) := by
  have magnitude : digitsValue (digitValues (Decimal.digits value.natAbs)) = value.natAbs := by
    rw [digitsValue_digitValues, Decimal.spelled_digits]
  by_cases negative : value < 0
  · rw [decide_eq_true negative, number?_negative (by omega) (by omega), magnitude]
    congr
    omega
  · rw [decide_eq_false negative, number?_unsigned (by omega), magnitude]
    congr
    omega

end SpreadFlow.Json
