/-
Module: SpreadFlow.Proofs.Json.Lexing
Purpose: How tokens are spelled and spaced, and that a text is cut into exactly the tokens that it
  spells.
Main exports: Json.Token.Spelled, Json.Spaced, Json.Parted, Json.spaced_of_tokens,
  Json.tokens_of_spaced
-/
import SpreadFlow.Json.Token
import SpreadFlow.Proofs.Json.Numeral
import SpreadFlow.Proofs.Json.Spelling

namespace SpreadFlow.Json

/-!
A text spells a sequence of tokens if it consists of their spellings in order, with blanks before,
between and behind them.  Cutting a text gives a sequence that it spells.  The converse needs one
thing more: two numbers side by side could be one, so there must be something between them, as
there is in every value.
-/

/-- The text is a spelling of the token. -/
inductive Token.Spelled : Token → List Char → Prop where
  | openList : Spelled .openList ['[']
  | closeList : Spelled .closeList [']']
  | openRecord : Spelled .openRecord ['\x7b']
  | closeRecord : Spelled .closeRecord ['\x7d']
  | comma : Spelled .comma [',']
  | colon : Spelled .colon [':']
  | null : Spelled .null ['n', 'u', 'l', 'l']
  | yes : Spelled (.boolean true) ['t', 'r', 'u', 'e']
  | no : Spelled (.boolean false) ['f', 'a', 'l', 's', 'e']
  | number {text : List Char} {numeral : Numeral} {number : Number}
      (spelled : SpellsNumeral text numeral) (value : numeral.number? = some number) :
      Spelled (.number number) text
  | text {body : List Char} {string : String} (spelled : Spells body string.toList) :
      Spelled (.text string) ('"' :: (body ++ ['"']))

/-- Only blanks. -/
def AllBlank (text : List Char) : Prop :=
  ∀ character ∈ text, isBlank character = true

theorem AllBlank.nil : AllBlank [] :=
  fun _ member => nomatch member

/-- The text spells the tokens in order, with blanks before, between and behind them. -/
inductive Spaced : List Token → List Char → Prop where
  | nil {blanks : List Char} (allBlank : AllBlank blanks) : Spaced [] blanks
  | cons {blanks spelling text : List Char} {token : Token} {sequence : List Token}
      (allBlank : AllBlank blanks) (spelled : token.Spelled spelling)
      (rest : Spaced sequence text) : Spaced (token :: sequence) (blanks ++ (spelling ++ text))

def Token.isNumber : Token → Bool
  | .number _ => true
  | _ => false

/-- No two tokens side by side are numbers. -/
def Parted (sequence : List Token) : Prop :=
  sequence.IsChain fun first second => ¬ (first.isNumber = true ∧ second.isNumber = true)

/-! ### One token -/

theorem afterWord?_eq_some_iff {word text rest : List Char} :
    afterWord? word text = some rest ↔ text = word ++ rest := by
  fun_induction afterWord? word text with
  | case1 => simp [eq_comm]
  | case2 => simp
  | case3 expected word text inductionHypothesis => simp [inductionHypothesis]
  | case4 expected word character text different => simp [different]

/-- A token is read from one of its spellings. -/
theorem nextToken?_sound {text rest : List Char} {token : Token}
    (next : nextToken? text = some (token, rest)) :
    ∃ spelling, text = spelling ++ rest ∧ token.Spelled spelling := by
  unfold nextToken? at next
  split at next
  case h_1 => cases next
  case h_2 => cases next; exact ⟨['['], rfl, .openList⟩
  case h_3 => cases next; exact ⟨[']'], rfl, .closeList⟩
  case h_4 => cases next; exact ⟨['\x7b'], rfl, .openRecord⟩
  case h_5 => cases next; exact ⟨['\x7d'], rfl, .closeRecord⟩
  case h_6 => cases next; exact ⟨[','], rfl, .comma⟩
  case h_7 => cases next; exact ⟨[':'], rfl, .colon⟩
  case h_8 =>
    simp only [Option.map_eq_some_iff, Prod.mk.injEq, afterWord?_eq_some_iff] at next
    obtain ⟨after, rfl, rfl, rfl⟩ := next
    exact ⟨['n', 'u', 'l', 'l'], rfl, .null⟩
  case h_9 =>
    simp only [Option.map_eq_some_iff, Prod.mk.injEq, afterWord?_eq_some_iff] at next
    obtain ⟨after, rfl, rfl, rfl⟩ := next
    exact ⟨['t', 'r', 'u', 'e'], rfl, .yes⟩
  case h_10 =>
    simp only [Option.map_eq_some_iff, Prod.mk.injEq, afterWord?_eq_some_iff] at next
    obtain ⟨after, rfl, rfl, rfl⟩ := next
    exact ⟨['f', 'a', 'l', 's', 'e'], rfl, .no⟩
  case h_11 =>
    simp only [Option.map_eq_some_iff, Prod.mk.injEq] at next
    obtain ⟨⟨characters, after⟩, quotedRead, rfl, rfl⟩ := next
    obtain ⟨body, rfl, spelled⟩ := read?_eq_some_iff.mp quotedRead
    refine ⟨'"' :: (body ++ ['"']), by simp, .text ?_⟩
    rwa [String.toList_ofList]
  case h_12 =>
    simp only [Option.map_eq_some_iff, Prod.mk.injEq] at next
    obtain ⟨⟨number, after⟩, numberRead, rfl, rfl⟩ := next
    simp only [readNumber?, Option.bind_eq_bind, Option.bind_eq_some_iff, Option.some.injEq,
      Prod.mk.injEq] at numberRead
    obtain ⟨⟨numeral, last⟩, numeralRead, number, value, rfl, rfl⟩ := numberRead
    obtain ⟨spelling, split, spelled⟩ := readNumeral?_sound numeralRead
    exact ⟨spelling, split, .number spelled value⟩

/-- A spelled numeral begins with a digit or a minus. -/
theorem SpellsNumeral.head {spelling : List Char} {numeral : Numeral}
    (spelled : SpellsNumeral spelling numeral) :
    ∃ first others, spelling = first :: others ∧ (first.isDigit = true ∨ first = '-') := by
  obtain ⟨negative, wholeDigits, nonempty, -, -, -⟩ := spelled
  rename_i whole _ _ _ _
  cases negative with
  | true => exact ⟨'-', _, rfl, .inr rfl⟩
  | false =>
      cases whole with
      | nil => exact absurd rfl nonempty
      | cons digit digits =>
          exact ⟨digit, _, rfl, .inl (wholeDigits digit List.mem_cons_self)⟩

theorem nextToken?_of_digit {first : Char} (isFirst : first.isDigit = true ∨ first = '-')
    (text : List Char) :
    nextToken? (first :: text) =
      (readNumber? (first :: text)).map fun (number, rest) => (.number number, rest) := by
  unfold nextToken?
  split
  case h_1 shape => cases shape
  case h_12 shape => cases shape; rfl
  all_goals
    rename_i shape
    cases (List.cons.inj shape).1
    exact absurd isFirst (by decide)

/-- Every spelling of a token is read as it.  That of a number must not go on behind. -/
theorem nextToken?_complete {token : Token} {spelling rest : List Char}
    (spelled : token.Spelled spelling) (ends : token.isNumber = true → EndsNumeral rest) :
    nextToken? (spelling ++ rest) = some (token, rest) := by
  cases spelled with
  | number spelled value =>
      obtain ⟨first, others, rfl, isFirst⟩ := spelled.head
      have read := readNumeral?_complete spelled (ends rfl)
      rw [List.cons_append] at read
      rw [List.cons_append, nextToken?_of_digit isFirst, readNumber?, read]
      simp only [Option.bind_eq_bind, Option.bind_some, value, Option.map_some]
  | text spelled =>
      simp only [List.cons_append, List.append_assoc, List.nil_append, nextToken?,
        read?_of_spells spelled, Option.map_some, String.ofList_toList]
  | _ => rfl

/-! ### Blanks -/

theorem isBlank_iff {character : Char} : isBlank character = true ↔
    character = ' ' ∨ character = '\t' ∨ character = '\n' ∨ character = '\r' := by
  simp only [isBlank, Bool.or_eq_true, decide_eq_true_eq, or_assoc]

/-- A spelling is not empty.  It begins with no blank, and only that of a number begins with a
character by which a number can go on. -/
theorem Token.Spelled.head {token : Token} {spelling : List Char}
    (spelled : token.Spelled spelling) :
    ∃ first others, spelling = first :: others ∧ isBlank first = false ∧
      (token.isNumber = false → continuesNumeral first = false) := by
  cases spelled with
  | number spelled value =>
      obtain ⟨first, others, rfl, isFirst⟩ := spelled.head
      refine ⟨first, others, rfl, ?_, fun other => nomatch other⟩
      by_contra blank
      rw [Bool.not_eq_false, isBlank_iff] at blank
      rcases blank with rfl | rfl | rfl | rfl
      · exact absurd isFirst (by decide)
      · exact absurd isFirst (by decide)
      · exact absurd isFirst (by decide)
      · exact absurd isFirst (by decide)
  | text spelled => exact ⟨'"', _, rfl, rfl, fun _ => rfl⟩
  | _ => exact ⟨_, _, rfl, rfl, fun _ => rfl⟩

theorem continuesNumeral_of_isBlank {character : Char} (blank : isBlank character = true) :
    continuesNumeral character = false := by
  rcases isBlank_iff.mp blank with rfl | rfl | rfl | rfl
  · rfl
  · rfl
  · rfl
  · rfl

/-! ### All tokens -/

theorem dropWhile_isBlank {blanks text : List Char} (allBlank : AllBlank blanks)
    (visible : ∀ first ∈ text.head?, isBlank first = false) :
    (blanks ++ text).dropWhile isBlank = text := by
  rw [List.dropWhile_append_of_pos allBlank]
  cases text with
  | nil => rfl
  | cons first others => exact List.dropWhile_cons_of_neg (by simp [visible first rfl])

theorem tokens_of_allBlank {blanks : List Char} (allBlank : AllBlank blanks) :
    tokens blanks = [] := by
  have none : blanks.dropWhile isBlank = [] := List.dropWhile_eq_nil_iff.mpr allBlank
  rw [tokens]
  split
  · rfl
  · rename_i shape
    rw [none] at shape
    cases shape

theorem tokens_append {blanks text rest : List Char} {token : Token} (allBlank : AllBlank blanks)
    (next : nextToken? text = some (token, rest)) :
    tokens (blanks ++ text) = token :: tokens rest := by
  obtain ⟨spelling, rfl, spelled⟩ := nextToken?_sound next
  obtain ⟨first, others, rfl, visible, -⟩ := spelled.head
  have dropped : (blanks ++ (first :: others ++ rest)).dropWhile isBlank =
      first :: (others ++ rest) := by
    apply dropWhile_isBlank allBlank
    intro character isFirst
    cases isFirst
    exact visible
  rw [tokens]
  split
  · rename_i shape
    rw [dropped] at shape
    cases shape
  · rename_i character tail shape
    rw [dropped] at shape
    cases shape
    split
    · rename_i none
      rw [List.cons_append] at next
      rw [next] at none
      cases none
    · rename_i found after same
      rw [List.cons_append] at next
      rw [next] at same
      cases same
      rfl

/-- What a text is cut into, unless it is broken somewhere, is spelled by it. -/
theorem spaced_of_tokens {text : List Char} (whole : Token.malformed ∉ tokens text) :
    Spaced (tokens text) text := by
  fun_induction tokens text with
  | case1 text blank =>
      exact .nil (List.dropWhile_eq_nil_iff.mp blank)
  | case2 => exact absurd List.mem_cons_self whole
  | case3 text first others shape token after next inductionHypothesis =>
      obtain ⟨spelling, split, spelled⟩ := nextToken?_sound next
      have later := inductionHypothesis fun member => whole (List.mem_cons_of_mem token member)
      have leading : AllBlank (text.takeWhile isBlank) := fun _ member =>
        List.mem_takeWhile_imp member
      rw [← List.takeWhile_append_dropWhile (p := isBlank) (l := text), shape, split]
      exact .cons leading spelled later

/-- No numeral goes on into a text whose first token, if any, is no number. -/
theorem Spaced.endsNumeral {sequence : List Token} {text : List Char}
    (spaced : Spaced sequence text)
    (noNumber : ∀ first ∈ sequence.head?, first.isNumber = false) : EndsNumeral text := by
  intro character isFirst
  cases spaced with
  | nil allBlank =>
      exact continuesNumeral_of_isBlank (allBlank character (List.mem_of_mem_head? isFirst))
  | cons allBlank spelled rest =>
      rename_i blanks spelling text token sequence
      cases blanks with
      | nil =>
          obtain ⟨first, others, rfl, -, stops⟩ := spelled.head
          cases isFirst
          exact stops (noNumber token rfl)
      | cons blank blanks =>
          cases isFirst
          exact continuesNumeral_of_isBlank (allBlank _ List.mem_cons_self)

/-- A text is cut into the tokens that it spells, if no two numbers are side by side. -/
theorem tokens_of_spaced {sequence : List Token} {text : List Char}
    (spaced : Spaced sequence text) (parted : Parted sequence) : tokens text = sequence := by
  induction spaced with
  | nil allBlank => exact tokens_of_allBlank allBlank
  | cons allBlank spelled rest inductionHypothesis =>
      rename_i text token sequence
      obtain ⟨beside, partedRest⟩ := List.isChain_cons.mp parted
      have ends (isNumber : token.isNumber = true) : EndsNumeral text := by
        apply rest.endsNumeral
        intro first isFirst
        simpa [isNumber] using beside first isFirst
      rw [tokens_append allBlank (nextToken?_complete spelled ends), inductionHypothesis partedRest]

end SpreadFlow.Json
