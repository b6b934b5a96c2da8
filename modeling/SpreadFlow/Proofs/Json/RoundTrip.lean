/-
Module: SpreadFlow.Proofs.Json.RoundTrip
Purpose: The compact text of a value, and that it reads back as that value.
Main exports: Json.LawfulCodec, Json.Compact, Json.decode_encode, Json.rewritten, Json.RoundTrips,
  Json.spread_roundTrips
-/
import SpreadFlow.Proofs.Json.Language

namespace SpreadFlow.Json

/-!
On tokens a type's reader is the inverse of its writer: it succeeds on what is written for a value,
whatever tokens follow, and on nothing else.  That is one law for each type, and lists and absent
values inherit it.  The language of a type is then one sequence for each value, and the compact
text is one of the texts that spell it.
-/

/-- Types that are read as they are written. -/
class LawfulCodec (α : Type) [Write α] [Read α] : Prop where
  read_eq_ok_iff : ∀ {sequence : List Token} {value : α} {rest : List Token},
    Read.read sequence = .ok (value, rest) ↔ sequence = Write.tokens value ++ rest
  /-- No value could be taken for the end of a list. -/
  head?_ne_closeList : ∀ value : α, (Write.tokens value).head? ≠ some .closeList
  spelled : ∀ value : α, ∀ token ∈ Write.tokens value, token.Spelled token.spelling
  parted : ∀ value : α, Parted (Write.tokens value)

/-- Types of which no value could be taken for an absent one. -/
class NeverNull (α : Type) [Write α] : Prop where
  head?_ne_null : ∀ value : α, (Write.tokens value).head? ≠ some .null

/-! ### Any type -/

/-- Every value is written with at least one token. -/
theorem exists_tokens_eq_cons {α : Type} [Write α] [Read α] [LawfulCodec α] (value : α) :
    ∃ first others, Write.tokens value = first :: others := by
  have read : Read.read (Write.tokens value) = .ok (value, []) :=
    LawfulCodec.read_eq_ok_iff.mpr (List.append_nil _).symm
  exact List.exists_cons_of_length_pos (Read.read_shorter read)

/-- The spellings of tokens, one behind the other, spell them. -/
theorem spaced_flatMap_spelling {sequence : List Token}
    (spelled : ∀ token ∈ sequence, token.Spelled token.spelling) :
    Spaced sequence (sequence.flatMap Token.spelling) := by
  induction sequence with
  | nil => exact .nil fun _ member => nomatch member
  | cons token sequence inductionHypothesis =>
      have later := inductionHypothesis fun other member =>
        spelled other (List.mem_cons_of_mem token member)
      exact .cons (fun _ member => nomatch member : AllBlank [])
        (spelled token List.mem_cons_self) later

/-- The language of a type has one sequence for each value: what is written for it. -/
theorem readsExactly (α : Type) [Write α] [Read α] [LawfulCodec α] :
    ReadsExactly α fun value sequence => sequence = Write.tokens value where
  read_eq_ok_iff := by simp [LawfulCodec.read_eq_ok_iff]
  malformed_not_mem := by
    rintro value - rfl member
    cases LawfulCodec.spelled value _ member
  parted := by
    rintro value - rfl
    exact LawfulCodec.parted value

/-- The compact text of a value reads back as that value. -/
theorem decode_encode {α : Type} [Write α] [Read α] [LawfulCodec α] (value : α) :
    decode (encode value) = .ok value := by
  apply ((readsExactly α).decode_eq_ok_iff (encode value) value).mpr
  refine ⟨Write.tokens value, rfl, ?_⟩
  rw [encode, compact, String.toList_ofList]
  exact spaced_flatMap_spelling (LawfulCodec.spelled value)

/-! ### Integers and strings -/

theorem int32?_eq_some_iff {value : Int} {word : Int32} :
    int32? value = some word ↔ value = word.toInt := by
  have least : Int32.minValue.toInt = -2 ^ 31 := Int32.toInt_minValue
  have greatest : Int32.maxValue.toInt = 2 ^ 31 - 1 := Int32.toInt_maxValue
  rw [int32?]
  constructor
  · intro converted
    split at converted
    · rename_i inRange
      cases converted
      rw [Int32.toInt_ofInt_of_le (by omega) (by omega)]
    · cases converted
  · rintro rfl
    rw [if_pos ⟨word.minValue_le_toInt, word.toInt_le⟩, Int32.ofInt_toInt]

theorem readInt32_eq_ok_iff {sequence rest : List Token} {value : Int32} :
    readInt32 sequence = .ok (value, rest) ↔
      sequence = .number (.integer value.toInt) :: rest := by
  constructor
  · intro read
    unfold readInt32 at read
    split at read
    · split at read
      · rename_i converted
        cases read
        rw [int32?_eq_some_iff.mp converted]
      · cases read
    · exact absurd read refuse_ne_ok
  · rintro rfl
    rw [readInt32, int32?_eq_some_iff.mpr rfl]

instance : LawfulCodec Int32 where
  read_eq_ok_iff := readInt32_eq_ok_iff
  head?_ne_closeList _ same := nomatch same
  spelled value token member := by
    cases List.mem_singleton.mp member
    have atLeast := value.le_toInt
    have below := value.toInt_lt
    exact .number (spellsNumeral_integer value.toInt) (number?_integer (by omega) (by omega))
  parted _ := .singleton _

theorem readText_eq_ok_iff {sequence rest : List Token} {value : String} :
    readText sequence = .ok (value, rest) ↔ sequence = .text value :: rest := by
  constructor
  · intro read
    unfold readText at read
    split at read
    · cases read
      rfl
    · exact absurd read refuse_ne_ok
  · rintro rfl
    rfl

instance : LawfulCodec String where
  read_eq_ok_iff := readText_eq_ok_iff
  head?_ne_closeList _ same := nomatch same
  spelled value token member := by
    cases List.mem_singleton.mp member
    exact .text (spells_flatMap_writeCharacter value.toList)
  parted _ := .singleton _

/-! ### Absent values -/

theorem readOption_eq_ok_iff {α : Type} [Write α] [Read α] [LawfulCodec α] [NeverNull α]
    {sequence rest : List Token} {value : Option α} :
    readOption sequence = .ok (value, rest) ↔ sequence = Write.tokens value ++ rest := by
  constructor
  · intro read
    unfold readOption at read
    split at read
    · cases read
      rfl
    · cases inner : Read.read (α := α) sequence with
      | error fault =>
          rw [inner] at read
          cases read
      | ok pair =>
          rw [inner] at read
          obtain ⟨present, after⟩ := pair
          have shape := LawfulCodec.read_eq_ok_iff.mp inner
          cases read
          exact shape
  · rintro rfl
    cases value with
    | none => rfl
    | some present =>
        have read : Read.read (Write.tokens present ++ rest) = .ok (present, rest) :=
          LawfulCodec.read_eq_ok_iff.mpr rfl
        obtain ⟨first, others, shape⟩ := exists_tokens_eq_cons present
        have noNull : first ≠ .null := by
          rintro rfl
          exact NeverNull.head?_ne_null present (by rw [shape]; rfl)
        change readOption (Write.tokens present ++ rest) = _
        rw [shape, List.cons_append] at read ⊢
        rw [readOption, read]
        · rfl
        · exact fun _ same => noNull (List.cons.inj same).1

instance {α : Type} [Write α] [Read α] [LawfulCodec α] [NeverNull α] : LawfulCodec (Option α) where
  read_eq_ok_iff := readOption_eq_ok_iff
  head?_ne_closeList
    | none => nofun
    | some present => LawfulCodec.head?_ne_closeList present
  spelled
    | none => fun token member => by
        cases List.mem_singleton.mp member
        exact .null
    | some present => LawfulCodec.spelled present
  parted
    | none => .singleton _
    | some present => LawfulCodec.parted present

/-! ### Lists -/

theorem readItems_last {α : Type} [Read α] {sequence rest : List Token} {value : α}
    (read : Read.read sequence = .ok (value, .closeList :: rest)) :
    readItems sequence = .ok ([value], rest) := by
  rw [readItems]
  split
  all_goals
    rename_i same
    rw [read] at same
    cases same
  · rfl
  · rename_i noLast _
    exact absurd rfl (noLast value rest)

theorem readItems_more {α : Type} [Read α] {sequence rest : List Token} {value : α}
    (read : Read.read sequence = .ok (value, .comma :: rest)) :
    readItems sequence =
      (readItems rest).map fun (values, after) => (value :: values, after) := by
  rw [readItems]
  split
  all_goals
    rename_i same
    rw [read] at same
    cases same
  · rfl
  · rename_i noMore
    exact absurd rfl (noMore value rest)

section

variable {α : Type} [Write α] [Read α] [LawfulCodec α]

theorem separate_cons_cons (item next : List Token) (items : List (List Token)) :
    separate (item :: next :: items) = item ++ .comma :: separate (next :: items) := rfl

/-- What is read as the items of a list is their tokens, parted by commas, and the bracket. -/
theorem readItems_sound {sequence rest : List Token} {values : List α}
    (read : readItems sequence = .ok (values, rest)) :
    values ≠ [] ∧ sequence = separate (values.map Write.tokens) ++ .closeList :: rest := by
  fun_induction readItems (α := α) sequence generalizing values rest with
  | case1 => cases read
  | case2 sequence value after inner =>
      cases read
      exact ⟨List.cons_ne_nil _ _, LawfulCodec.read_eq_ok_iff.mp inner⟩
  | case3 sequence value after inner inductionHypothesis =>
      cases tail : readItems (α := α) after with
      | error fault =>
          rw [tail] at read
          cases read
      | ok pair =>
          obtain ⟨others, last⟩ := pair
          rw [tail] at read
          cases read
          obtain ⟨nonempty, shape⟩ := inductionHypothesis tail
          obtain ⟨next, others, rfl⟩ := List.exists_cons_of_ne_nil nonempty
          refine ⟨List.cons_ne_nil _ _, ?_⟩
          rw [LawfulCodec.read_eq_ok_iff.mp inner, shape]
          simp only [List.map_cons, separate_cons_cons, List.append_assoc, List.cons_append]
  | case4 => cases read

theorem readItems_complete {values : List α} (nonempty : values ≠ []) (rest : List Token) :
    readItems (separate (values.map Write.tokens) ++ .closeList :: rest) = .ok (values, rest) := by
  induction values with
  | nil => exact absurd rfl nonempty
  | cons value values inductionHypothesis =>
      cases values with
      | nil => exact readItems_last (LawfulCodec.read_eq_ok_iff.mpr rfl)
      | cons next values =>
          have later := inductionHypothesis (List.cons_ne_nil next values)
          rw [List.map_cons, List.map_cons, separate_cons_cons, List.append_assoc, List.cons_append,
            readItems_more (LawfulCodec.read_eq_ok_iff.mpr rfl), ← List.map_cons, later]
          rfl

/-- The items of a list do not begin with its end. -/
theorem head?_separate {values : List α} (rest : List Token) (nonempty : values ≠ []) :
    ∃ first others, separate (values.map Write.tokens) ++ rest = first :: others ∧
      first ≠ .closeList := by
  obtain ⟨value, values, rfl⟩ := List.exists_cons_of_ne_nil nonempty
  obtain ⟨first, others, shape⟩ := exists_tokens_eq_cons value
  have noEnd : first ≠ .closeList := by
    rintro rfl
    exact LawfulCodec.head?_ne_closeList value (by rw [shape]; rfl)
  cases values with
  | nil => exact ⟨first, others ++ rest, by simp [separate, shape], noEnd⟩
  | cons next values =>
      refine ⟨first, others ++ .comma :: separate ((next :: values).map Write.tokens) ++ rest, ?_,
        noEnd⟩
      simp [separate_cons_cons, shape]

theorem readList_eq_ok_iff {sequence rest : List Token} {values : List α} :
    readList sequence = .ok (values, rest) ↔ sequence = Write.tokens values ++ rest := by
  have written : Write.tokens values ++ rest =
      .openList :: (separate (values.map Write.tokens) ++ .closeList :: rest) := by
    simp only [Write.tokens, List.cons_append, List.append_assoc, List.nil_append]
  rw [written]
  constructor
  · intro read
    unfold readList at read
    split at read
    · cases read
      rfl
    · rw [(readItems_sound read).2]
    · exact absurd read refuse_ne_ok
  · rintro rfl
    by_cases empty : values = []
    · subst empty
      rfl
    · obtain ⟨first, others, shape, noEnd⟩ := head?_separate (.closeList :: rest) empty
      have items := readItems_complete empty rest
      rw [shape] at items ⊢
      rw [readList, items]
      exact fun _ same => noEnd (List.cons.inj same).1

/-! ### What is written for a list -/

theorem mem_separate {items : List (List Token)} {token : Token}
    (member : token ∈ separate items) : token = .comma ∨ ∃ item ∈ items, token ∈ item := by
  induction items with
  | nil => cases member
  | cons item items inductionHypothesis =>
      cases items with
      | nil => exact .inr ⟨item, List.mem_cons_self, member⟩
      | cons next items =>
          rw [separate_cons_cons, List.mem_append, List.mem_cons] at member
          rcases member with inItem | rfl | later
          · exact .inr ⟨item, List.mem_cons_self, inItem⟩
          · exact .inl rfl
          · rcases inductionHypothesis later with comma | ⟨other, otherMember, inOther⟩
            · exact .inl comma
            · exact .inr ⟨other, List.mem_cons_of_mem item otherMember, inOther⟩

theorem parted_separate {items : List (List Token)} {token : Token}
    (parted : ∀ item ∈ items, Parted item) (noNumber : token.isNumber = false) :
    Parted (separate items ++ [token]) := by
  induction items with
  | nil => exact .singleton token
  | cons item items inductionHypothesis =>
      have partedItem := parted item List.mem_cons_self
      have later := inductionHypothesis fun other member =>
        parted other (List.mem_cons_of_mem item member)
      cases items with
      | nil => exact partedItem.append noNumber .nil
      | cons next items =>
          rw [separate_cons_cons, List.append_assoc, List.cons_append]
          exact partedItem.append rfl later

instance : LawfulCodec (List α) where
  read_eq_ok_iff := readList_eq_ok_iff
  head?_ne_closeList _ same := nomatch same
  spelled values token member := by
    change token ∈ .openList :: separate (values.map Write.tokens) ++ [.closeList] at member
    rw [List.cons_append, List.mem_cons, List.mem_append, List.mem_singleton] at member
    rcases member with rfl | inItems | rfl
    · exact .openList
    · rcases mem_separate inItems with rfl | ⟨item, itemMember, inItem⟩
      · exact .comma
      · obtain ⟨value, -, rfl⟩ := List.mem_map.mp itemMember
        exact LawfulCodec.spelled value token inItem
    · exact .closeList
  parted values := by
    apply Parted.cons rfl
    apply parted_separate _ rfl
    intro item member
    obtain ⟨value, -, rfl⟩ := List.mem_map.mp member
    exact LawfulCodec.parted value

theorem readSpread_eq_ok_iff {sequence rest : List Token} {value : Spread α} :
    Read.read sequence = .ok (value, rest) ↔ sequence = Write.tokens value ++ rest := by
  change (readList sequence).map _ = _ ↔ sequence = Write.tokens value.toList ++ rest
  rw [← readList_eq_ok_iff]
  constructor
  · intro read
    cases inner : readList (α := α) sequence with
    | error fault =>
        rw [inner] at read
        cases read
    | ok pair =>
        rw [inner] at read
        cases read
        rfl
  · intro read
    rw [read]
    rfl

instance : LawfulCodec (Spread α) where
  read_eq_ok_iff := readSpread_eq_ok_iff
  head?_ne_closeList _ same := nomatch same
  spelled value := LawfulCodec.spelled value.toList
  parted value := LawfulCodec.parted value.toList

instance : NeverNull (Spread α) where
  head?_ne_null _ same := nomatch same

end

/-! ### The compact text, character by character -/

/-- Types whose compact text is given without tokens. -/
class Compact (α : Type) [Write α] where
  characters : α → List Char
  flatMap_spelling : ∀ value : α,
    (Write.tokens value).flatMap Token.spelling = characters value

/-- An integer in base ten. -/
instance : Compact Int32 where
  characters value := Decimal.integer value.toInt
  flatMap_spelling value := List.append_nil (Decimal.integer value.toInt)

/-- A string between quotes, with an escape where one is needed. -/
instance : Compact String where
  characters value := '"' :: value.toList.flatMap writeCharacter ++ ['"']
  flatMap_spelling value := List.append_nil ('"' :: value.toList.flatMap writeCharacter ++ ['"'])

/-- The word `null` for an absent value. -/
instance {α : Type} [Write α] [Compact α] : Compact (Option α) where
  characters
    | none => ['n', 'u', 'l', 'l']
    | some present => Compact.characters present
  flatMap_spelling
    | none => rfl
    | some present => Compact.flatMap_spelling present

theorem flatMap_spelling_separate (items : List (List Token)) :
    (separate items).flatMap Token.spelling =
      [','].intercalate (items.map fun item => item.flatMap Token.spelling) := by
  induction items with
  | nil => rfl
  | cons item items inductionHypothesis =>
      cases items with
      | nil => simp [separate]
      | cons next items =>
          rw [separate_cons_cons, List.map_cons, List.map_cons, List.intercalate_cons_cons,
            List.flatMap_append, List.flatMap_cons, inductionHypothesis, List.append_assoc]
          rfl

/-- The slices in order between brackets, with commas between them. -/
instance {α : Type} [Write α] [Compact α] : Compact (Spread α) where
  characters value :=
    '[' :: [','].intercalate (value.toList.map Compact.characters) ++ [']']
  flatMap_spelling value := by
    have slices : (value.toList.map Write.tokens).map
        (fun item => item.flatMap Token.spelling) = value.toList.map Compact.characters := by
      rw [List.map_map]
      exact List.map_congr_left fun slice _ => Compact.flatMap_spelling slice
    change (Token.openList :: separate (value.toList.map Write.tokens) ++
      [Token.closeList]).flatMap _ = _
    rw [List.flatMap_append, List.flatMap_cons, flatMap_spelling_separate, slices]
    rfl

/-! ### Spreads -/

/-- The text written again after it was read as a type. -/
def rewritten (α : Type) [Write α] [Read α] (text : String) : Except Fault String :=
  (decode text : Except Fault α).map encode

/-- Every value reads back from its compact text, and every text of a value is rewritten as that
compact text, which is then left as it is. -/
def RoundTrips (α : Type) [Write α] [Read α] [Compact α] : Prop :=
  (∀ value : α, encode value = String.ofList (Compact.characters value) ∧
    decode (encode value) = .ok value) ∧
  ∀ (text : String) (value : α), decode text = .ok value →
    rewritten α text = .ok (encode value) ∧
    rewritten α (encode value) = .ok (encode value)

theorem roundTrips_of_lawfulCodec (α : Type) [Write α] [Read α] [Compact α] [LawfulCodec α] :
    RoundTrips α := by
  constructor
  · intro value
    exact ⟨congrArg String.ofList (Compact.flatMap_spelling value), decode_encode value⟩
  · intro text value read
    constructor
    · rw [rewritten, read]
      rfl
    · rw [rewritten, decode_encode value]
      rfl

/-- Spreads of integers, of strings, of rows and of rows that may be absent read back from their
compact texts. -/
theorem spread_roundTrips :
    RoundTrips (Spread Int32) ∧ RoundTrips (Spread String) ∧
      RoundTrips (Spread (Spread Int32)) ∧ RoundTrips (Spread (Option (Spread Int32))) :=
  ⟨roundTrips_of_lawfulCodec _, roundTrips_of_lawfulCodec _, roundTrips_of_lawfulCodec _,
    roundTrips_of_lawfulCodec _⟩

end SpreadFlow.Json
