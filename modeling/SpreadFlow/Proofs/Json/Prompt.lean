/-
Module: SpreadFlow.Proofs.Json.Prompt
Purpose: Readers report a mismatch as soon as they meet it, so the first fault of a text decides,
  and a text that is cut short is malformed and nothing else.
Main exports: Json.FoundInFront, Json.FoundInFront.lift, Json.PromptRead, Json.Exchangeable,
  Json.ReadsInOrder, Json.decode_append_of_mismatch, Json.ReadsInOrder.decode_cut
-/
import Mathlib.Data.List.DropRight
import SpreadFlow.Proofs.Json.Continuation
import SpreadFlow.Proofs.Json.RoundTrip

namespace SpreadFlow.Json

/-!
A reader that reports a mismatch has a reason for it among the tokens it went through, and the
tokens behind this reason have no part in it.  This is one law for each reader, with the reason of
a list found in its first bad item.  With it the front of a text decides for all longer texts.

A text that is cut short ends between two tokens or within one.  Between tokens the reader finds
the end, and a broken token is none at all, so neither gives a mismatch.  Only a number may be cut
and still be a number.  In an accepted text it was an integer, then what is left of it is a smaller
one, and the reader would have taken that as well.
-/

/-- A front of the sequence has nothing broken in it and makes the reader report the mismatch,
whatever stands behind it. -/
def FoundInFront {α : Type} (read : List Token → Reading α) (mismatch : Mismatch)
    (sequence : List Token) : Prop :=
  ∃ front rest, front ≠ [] ∧ sequence = front ++ rest ∧ Token.malformed ∉ front ∧
    ∀ other, read (front ++ other) = .error (.mismatch mismatch)

/-- Types whose reader finds every mismatch in a front of what it reads. -/
class PromptRead (α : Type) [Read α] : Prop where
  foundInFront : ∀ {sequence : List Token} {mismatch : Mismatch},
    Read.read (α := α) sequence = .error (.mismatch mismatch) →
      FoundInFront (Read.read (α := α)) mismatch sequence

/-- Types in which every number is an integer of 32 bits, and any other such integer could stand in
its place. -/
class Exchangeable (α : Type) [Write α] : Prop where
  exchange : ∀ {value : α} {before after : List Token} {number : Number},
    Write.tokens value = before ++ .number number :: after →
      (∃ word : Int32, number = .integer word.toInt) ∧
        ∀ other : Int32, ∃ changed : α,
          Write.tokens changed = before ++ .number (.integer other.toInt) :: after

/-! ### Readers made of readers -/

theorem FoundInFront.of_first {α : Type} {read : List Token → Reading α} {mismatch : Mismatch}
    {first : Token} {rest : List Token} (whole : first ≠ .malformed)
    (found : ∀ other, read (first :: other) = .error (.mismatch mismatch)) :
    FoundInFront read mismatch (first :: rest) :=
  ⟨[first], rest, List.cons_ne_nil _ _, rfl,
    fun member => whole (List.mem_singleton.mp member).symm, found⟩

/-- A reader that takes some tokens and leaves the others to a second reader has the mismatch of the
second.  It may look at the first token that it leaves. -/
theorem FoundInFront.lift {α β : Type} {inner : List Token → Reading β}
    {outer : List Token → Reading α} {mismatch : Mismatch} {sequence : List Token}
    (found : FoundInFront inner mismatch sequence) (before : List Token)
    (whole : Token.malformed ∉ before)
    (passed : ∀ other, other.head? = sequence.head? → inner other = .error (.mismatch mismatch) →
      outer (before ++ other) = .error (.mismatch mismatch)) :
    FoundInFront outer mismatch (before ++ sequence) := by
  obtain ⟨front, rest, nonempty, rfl, wholeFront, refused⟩ := found
  obtain ⟨first, tail, rfl⟩ := List.exists_cons_of_ne_nil nonempty
  have wholeBoth : Token.malformed ∉ before ++ first :: tail := fun member =>
    (List.mem_append.mp member).elim whole wholeFront
  refine ⟨before ++ first :: tail, rest, by simp, (List.append_assoc _ _ _).symm, wholeBoth, ?_⟩
  intro other
  rw [List.append_assoc]
  exact passed _ rfl (refused other)

/-- What has the same first token begins with none that the sequence does not begin with. -/
theorem ne_cons_of_head? {sequence other : List Token} {token : Token}
    (sameHead : other.head? = sequence.head?) (never : ∀ rest, sequence = token :: rest → False)
    (rest : List Token) : other = token :: rest → False := by
  rintro rfl
  obtain ⟨tail, shape⟩ := List.head?_eq_some_iff.mp sameHead.symm
  exact never tail shape

theorem map_eq_error_iff {α β : Type} {result : Except Fault α} {change : α → β} {fault : Fault} :
    result.map change = .error fault ↔ result = .error fault := by
  cases result with
  | error found => simp [Except.map]
  | ok value => simp [Except.map]

/-- What is refused is told by its first token. -/
theorem refuse_foundInFront {α : Type} {expected : Expected} {sequence : List Token}
    {mismatch : Mismatch}
    (refused : refuse (α := α × List Token) expected sequence = .error (.mismatch mismatch)) :
    FoundInFront (refuse (α := α × List Token) expected) mismatch sequence := by
  cases sequence with
  | nil => cases refused
  | cons first rest =>
      refine .of_first ?_ fun _ => refused
      rintro rfl
      cases refused

instance : PromptRead Int32 where
  foundInFront := by
    intro sequence mismatch read
    change readInt32 sequence = _ at read
    unfold readInt32 at read
    split at read
    · rename_i value rest
      split at read
      · cases read
      · rename_i outOfRange
        refine .of_first nofun fun other => ?_
        change readInt32 (.number (.integer value) :: other) = _
        rw [readInt32, outOfRange]
        exact read
    · rename_i noInteger
      refine (refuse_foundInFront read).lift [] List.not_mem_nil fun other sameHead refused => ?_
      change readInt32 other = _
      rw [readInt32, refused]
      exact fun value => ne_cons_of_head? sameHead (noInteger value)

instance : PromptRead String where
  foundInFront := by
    intro sequence mismatch read
    change readText sequence = _ at read
    unfold readText at read
    split at read
    · cases read
    · rename_i noText
      refine (refuse_foundInFront read).lift [] List.not_mem_nil fun other sameHead refused => ?_
      change readText other = _
      rw [readText, refused]
      exact fun value => ne_cons_of_head? sameHead (noText value)

instance {α : Type} [Read α] [PromptRead α] : PromptRead (Option α) where
  foundInFront := by
    intro sequence mismatch read
    change readOption sequence = _ at read
    unfold readOption at read
    split at read
    · cases read
    · rename_i noNull
      have found := PromptRead.foundInFront (map_eq_error_iff.mp read)
      refine found.lift [] List.not_mem_nil fun other sameHead refused => ?_
      change readOption other = _
      rw [readOption, refused]
      · rfl
      · exact ne_cons_of_head? sameHead noNull

/-! ### Lists -/

theorem readItems_error {α : Type} [Read α] {sequence : List Token} {fault : Fault}
    (read : Read.read (α := α) sequence = .error fault) :
    readItems (α := α) sequence = .error fault := by
  rw [readItems]
  split
  all_goals
    rename_i same
    rw [read] at same
    cases same
  rfl

section

variable {α : Type} [Write α] [Read α] [LawfulCodec α]

/-- The mismatch of a list is that of its first bad item. -/
theorem readItems_foundInFront [PromptRead α] {sequence : List Token} {mismatch : Mismatch}
    (read : readItems (α := α) sequence = .error (.mismatch mismatch)) :
    FoundInFront (readItems (α := α)) mismatch sequence := by
  fun_induction readItems (α := α) sequence with
  | case1 sequence fault inner =>
      cases read
      exact (PromptRead.foundInFront inner).lift [] List.not_mem_nil fun _ _ => readItems_error
  | case2 => cases read
  | case3 sequence value after inner inductionHypothesis =>
      have found := inductionHypothesis (map_eq_error_iff.mp read)
      have wholeItem : Token.malformed ∉ Write.tokens value :=
        (readsExactly α).malformed_not_mem rfl
      have split : sequence = (Write.tokens value ++ [.comma]) ++ after := by
        rw [LawfulCodec.read_eq_ok_iff.mp inner, List.append_assoc, List.singleton_append]
      rw [split]
      refine found.lift _ (by simp [wholeItem]) fun other _ refused => ?_
      rw [List.append_assoc, List.singleton_append,
        readItems_more (LawfulCodec.read_eq_ok_iff.mpr rfl), refused]
      rfl
  | case4 => cases read

theorem readList_foundInFront [PromptRead α] {sequence : List Token} {mismatch : Mismatch}
    (read : readList (α := α) sequence = .error (.mismatch mismatch)) :
    FoundInFront (readList (α := α)) mismatch sequence := by
  unfold readList at read
  split at read
  · cases read
  · rename_i sequence noEnd
    refine (readItems_foundInFront read).lift [.openList] (by simp) fun other sameHead refused => ?_
    rw [List.singleton_append, readList, refused]
    exact ne_cons_of_head? sameHead noEnd
  · rename_i noList
    refine (refuse_foundInFront read).lift [] List.not_mem_nil fun other sameHead refused => ?_
    have noListToo := ne_cons_of_head? sameHead noList
    change readList other = _
    rw [readList, refused]
    · exact fun _ => noListToo _
    · exact noListToo

instance [PromptRead α] : PromptRead (Spread α) where
  foundInFront := by
    intro sequence mismatch read
    have found := readList_foundInFront (map_eq_error_iff.mp read)
    exact found.lift [] List.not_mem_nil fun _ _ => map_eq_error_iff.mpr

end

/-! ### Named values -/

namespace Named

theorem readUnit_foundInFront {α : Type} {value : α} {sequence : List Token} {mismatch : Mismatch}
    (read : readUnit value sequence = .error (.mismatch mismatch)) :
    FoundInFront (readUnit value) mismatch sequence := by
  unfold readUnit at read
  split at read
  · cases read
  · cases read
  · rename_i _ sequence noUnit noNull
    refine (refuse_foundInFront read).lift [.colon] (by simp) fun other sameHead refused => ?_
    have noNullToo := ne_cons_of_head? sameHead noNull
    rw [List.singleton_append, readUnit, refused]
    · exact fun _ => noNullToo _
    · exact noNullToo
  · cases read

/-- A key that is no string is told by its first token, if it is told. -/
theorem refuseKey_foundInFront {α : Type} {rule : KeyRule} {sequence : List Token}
    {mismatch : Mismatch}
    (refused : rule.refuseKey (α := α × List Token) sequence = .error (.mismatch mismatch)) :
    FoundInFront (rule.refuseKey (α := α × List Token)) mismatch sequence := by
  cases rule with
  | misspelled => cases refused
  | mistyped => exact refuse_foundInFront refused

/-- An unknown name is reported when it is read, and what stands in the place of a name or of the
value under it at its first token. -/
theorem readBy_foundInFront {α : Type} [Named α] {rule : KeyRule} {sequence : List Token}
    {mismatch : Mismatch}
    (given : readBy (α := α) rule sequence = .error (.mismatch mismatch)) :
    FoundInFront (readBy (α := α) rule) mismatch sequence := by
  unfold readBy at given
  split at given
  · exact .of_first nofun fun _ => map_eq_error_iff.mpr (map_eq_error_iff.mp given)
  · rename_i wanted rest
    cases name : ofName (α := α) wanted with
    | error fault =>
        rw [name] at given
        cases given
        refine ⟨[.openRecord, .text wanted], rest, List.cons_ne_nil _ _, rfl, by simp, ?_⟩
        intro other
        change (ofName wanted).bind _ = _
        rw [name]
        rfl
    | ok value =>
        rw [name] at given
        refine (readUnit_foundInFront given).lift [.openRecord, .text wanted] (by simp)
          fun other _ refused => ?_
        change (ofName wanted).bind (readUnit · other) = _
        rw [name]
        exact refused
  · rename_i sequence noName
    refine (refuseKey_foundInFront given).lift [.openRecord] (by simp)
      fun other sameHead refused => ?_
    rw [List.singleton_append, readBy, refused]
    exact fun wanted => ne_cons_of_head? sameHead (noName wanted)
  · cases given

instance {α : Type} [Named α] (rule : KeyRule) : @PromptRead α (reader rule) :=
  let := reader (α := α) rule
  ⟨readBy_foundInFront⟩

end Named

/-! ### Integers in a list -/

theorem eq_number_of_singleton {token : Token} {before after : List Token} {number : Number}
    (shape : [token] = before ++ .number number :: after) :
    before = [] ∧ token = .number number ∧ after = [] := by
  rcases List.singleton_eq_append_iff.mp shape with ⟨rfl, same⟩ | ⟨-, none⟩
  · cases same
    exact ⟨rfl, rfl, rfl⟩
  · cases none

instance : Exchangeable Int32 where
  exchange := by
    intro value before after number shape
    obtain ⟨rfl, same, rfl⟩ := eq_number_of_singleton shape
    cases same
    exact ⟨⟨value, rfl⟩, fun other => ⟨other, rfl⟩⟩

instance : Exchangeable String where
  exchange := by
    intro value before after number shape
    obtain ⟨-, same, -⟩ := eq_number_of_singleton shape
    cases same

section

variable {α : Type} [Write α] [Exchangeable α]

instance : Exchangeable (Option α) where
  exchange := by
    intro value before after number shape
    cases value with
    | none =>
        obtain ⟨-, same, -⟩ := eq_number_of_singleton shape
        cases same
    | some present =>
        have written : Write.tokens present = _ := shape
        obtain ⟨integer, exchanged⟩ := Exchangeable.exchange written
        refine ⟨integer, fun other => ?_⟩
        obtain ⟨changed, written⟩ := exchanged other
        exact ⟨some changed, written⟩

/-- A number on either side of another token stands before or behind it. -/
theorem number_beside {item tail before after : List Token} {mark : Token} {number : Number}
    (noNumber : mark.isNumber = false)
    (shape : item ++ mark :: tail = before ++ .number number :: after) :
    (∃ inside, item = before ++ .number number :: inside ∧ after = inside ++ mark :: tail) ∨
      ∃ inside, before = item ++ mark :: inside ∧ tail = inside ++ .number number :: after := by
  rcases List.append_eq_append_iff.mp shape with ⟨between, rfl, split⟩ | ⟨between, rfl, split⟩
  · cases between with
    | nil =>
        cases split
        cases noNumber
    | cons first inside =>
        obtain ⟨rfl, rfl⟩ := List.cons.inj split
        exact .inr ⟨inside, rfl, rfl⟩
  · cases between with
    | nil =>
        cases split
        cases noNumber
    | cons first inside =>
        obtain ⟨rfl, rfl⟩ := List.cons.inj split
        exact .inl ⟨inside, rfl, rfl⟩

/-- A number among the items of a list stands in one of them, where it can be exchanged. -/
theorem exchange_separate {values : List α} {last : Token} (noNumber : last.isNumber = false)
    {before after : List Token} {number : Number}
    (shape : separate (values.map Write.tokens) ++ [last] = before ++ .number number :: after) :
    (∃ word : Int32, number = .integer word.toInt) ∧
      ∀ other : Int32, ∃ changed : List α, changed ≠ [] ∧
        separate (changed.map Write.tokens) ++ [last] =
          before ++ .number (.integer other.toInt) :: after := by
  induction values generalizing before with
  | nil =>
      rcases number_beside noNumber shape with ⟨inside, none, -⟩ | ⟨inside, -, none⟩
      · simp [separate] at none
      · simp at none
  | cons value values inductionHypothesis =>
      cases values with
      | nil =>
          rcases number_beside noNumber shape with ⟨inside, inItem, rfl⟩ | ⟨inside, -, none⟩
          · obtain ⟨integer, exchanged⟩ := Exchangeable.exchange inItem
            refine ⟨integer, fun other => ?_⟩
            obtain ⟨changed, written⟩ := exchanged other
            refine ⟨[changed], List.cons_ne_nil _ _, ?_⟩
            change Write.tokens changed ++ [last] = _
            rw [written, List.append_assoc, List.cons_append]
          · simp at none
      | cons next values =>
          rw [List.map_cons, List.map_cons, separate_cons_cons, List.append_assoc,
            List.cons_append, ← List.map_cons] at shape
          rcases number_beside rfl shape with ⟨inside, inItem, rfl⟩ | ⟨inside, rfl, later⟩
          · obtain ⟨integer, exchanged⟩ := Exchangeable.exchange inItem
            refine ⟨integer, fun other => ?_⟩
            obtain ⟨changed, written⟩ := exchanged other
            refine ⟨changed :: next :: values, List.cons_ne_nil _ _, ?_⟩
            rw [List.map_cons, List.map_cons, separate_cons_cons, written, ← List.map_cons]
            simp only [List.append_assoc, List.cons_append]
          · obtain ⟨integer, exchanged⟩ := inductionHypothesis later
            refine ⟨integer, fun other => ?_⟩
            obtain ⟨changed, nonempty, written⟩ := exchanged other
            obtain ⟨head, changed, rfl⟩ := List.exists_cons_of_ne_nil nonempty
            refine ⟨value :: head :: changed, List.cons_ne_nil _ _, ?_⟩
            rw [List.map_cons, List.map_cons, separate_cons_cons, ← List.map_cons,
              List.append_assoc, List.cons_append, written]
            simp only [List.append_assoc, List.cons_append]

instance : Exchangeable (Spread α) where
  exchange := by
    intro value before after number shape
    change .openList :: (separate (value.toList.map Write.tokens) ++ [.closeList]) = _ at shape
    cases before with
    | nil => cases shape
    | cons first before =>
        obtain ⟨rfl, inside⟩ := List.cons.inj shape
        obtain ⟨integer, exchanged⟩ := exchange_separate rfl inside
        refine ⟨integer, fun other => ?_⟩
        obtain ⟨changed, -, written⟩ := exchanged other
        exact ⟨.ofList changed, congrArg (Token.openList :: ·) written⟩

end

/-! ### Whole texts -/

section

variable {α : Type} [Read α]

theorem decode_eq_ok_iff_read {text : String} {value : α} :
    decode text = .ok value ↔ Read.read (tokens text.toList) = .ok (value, []) := by
  rw [decode]
  split
  · rename_i read
    simp [read]
  · rename_i read
    simp [read]
  · rename_i read
    simp [read]

theorem decode_eq_mismatch_iff_read {text : String} {mismatch : Mismatch} :
    decode (α := α) text = .error (.mismatch mismatch) ↔
      Read.read (α := α) (tokens text.toList) = .error (.mismatch mismatch) := by
  rw [decode]
  split
  · rename_i read
    simp [read]
  · rename_i read
    simp [read]
  · rename_i read
    simp [read]

/-- A mismatch is found again in every longer text, unless a number at the end goes on. -/
theorem decode_append_of_mismatch [PromptRead α] {text more : String} {mismatch : Mismatch}
    (decoded : decode (α := α) text = .error (.mismatch mismatch))
    (stops : ¬ GoesOn text.toList more.toList) :
    decode (α := α) (text ++ more) = .error (.mismatch mismatch) := by
  rw [decode_eq_mismatch_iff_read] at decoded ⊢
  obtain ⟨front, rest, -, split, whole, found⟩ := PromptRead.foundInFront decoded
  obtain ⟨_, -, longer⟩ := tokens_split split whole more.toList fun _ _ => stops
  rw [String.toList_append, longer]
  exact found _

theorem allBlank_of_tokens_eq_nil {text : List Char} (none : tokens text = []) :
    AllBlank text := by
  have spaced : Spaced (tokens text) text := spaced_of_tokens (by simp [none])
  rw [none] at spaced
  cases spaced with
  | nil allBlank => exact allBlank

/-- What is cut off before the last blanks is not blank. -/
theorem not_allBlank_of_length_lt {front back : List Char}
    (shorter : front.length < ((front ++ back).rdropWhile isBlank).length) : ¬ AllBlank back := by
  intro allBlank
  have reversed : ∀ character ∈ back.reverse, isBlank character = true :=
    fun character member => allBlank character (List.mem_reverse.mp member)
  rw [List.rdropWhile, List.reverse_append, List.dropWhile_append_of_pos reversed,
    List.length_reverse] at shorter
  have noLonger := (List.dropWhile_sublist isBlank (l := front.reverse)).length_le
  rw [List.length_reverse] at noLonger
  omega

end

/-- Exact readers of values that end with no number, and whose numbers are integers of 32 bits that
can be exchanged for others. -/
structure ReadsInOrder (α : Type) [Read α] (language : α → List Token → Prop) : Prop
    extends ReadsExactly α language where
  closed : ∀ {value : α} {front : List Token}, language value front →
    ∀ last ∈ front.getLast?, last.isNumber = false
  exchange : ∀ {value : α} {before after : List Token} {number : Number},
    language value (before ++ .number number :: after) →
      (∃ word : Int32, number = .integer word.toInt) ∧
        ∀ other : Int32, ∃ changed : α,
          language changed (before ++ .number (.integer other.toInt) :: after)

namespace ReadsInOrder

variable {α : Type} [Read α] {language : α → List Token → Prop}

/-- Where a type has no numbers the last two laws say nothing. -/
theorem of_plain (exact : ReadsExactly α language)
    (plain : ∀ {value : α} {front : List Token}, language value front → Plain front) :
    ReadsInOrder α language where
  toReadsExactly := exact
  closed inLanguage last isLast :=
    (plain inLanguage last (List.mem_of_getLast? (Option.mem_def.mp isLast))).2
  exchange inLanguage := by
    have noNumber := (plain inLanguage _ (List.mem_append_right _ List.mem_cons_self)).2
    cases noNumber

/-- All tokens of an accepted text are those of a value. -/
theorem language_of_read (order : ReadsInOrder α language) {sequence : List Token} {value : α}
    (read : Read.read sequence = .ok (value, [])) : language value sequence := by
  obtain ⟨front, inLanguage, same⟩ := order.read_eq_ok_iff.mp read
  rw [same, List.append_nil]
  exact inLanguage

/-- A text that is accepted is accepted with nothing but blanks behind it. -/
theorem allBlank_of_accepted (order : ReadsInOrder α language) {front back : List Char}
    {value other : α} (readFront : Read.read (tokens front) = .ok (other, []))
    (read : Read.read (tokens (front ++ back)) = .ok (value, [])) : AllBlank back := by
  have inLanguage := order.language_of_read readFront
  have whole := order.malformed_not_mem inLanguage
  obtain ⟨rest, -, longer⟩ := tokens_split (List.append_nil _).symm whole back
    fun _ ⟨last, isLast, isNumber⟩ =>
      absurd isNumber (by simp [order.closed inLanguage last isLast])
  -- The reader stops where the front ends, so there can be no more tokens.
  have stopped := order.read_eq_ok_iff.mpr ⟨_, inLanguage, longer⟩
  rw [read] at stopped
  have none : tokens (rest ++ back) = [] := (Prod.mk.inj (Except.ok.inj stopped)).2.symm
  have allBlank := allBlank_of_tokens_eq_nil none
  exact fun character member => allBlank character (List.mem_append_right rest member)

/-- No mismatch is found at a number that goes on to be part of an accepted text. -/
theorem not_mismatch_of_open_number (order : ReadsInOrder α language) {front back : List Char}
    {before : List Token} {number : Number} {value : α} {mismatch : Mismatch}
    (cut : tokens front = before ++ [.number number]) (whole : Token.malformed ∉ before)
    (read : Read.read (tokens (front ++ back)) = .ok (value, [])) :
    ¬ ∀ other, Read.read (α := α) (before ++ .number number :: other) =
      .error (.mismatch mismatch) := by
  intro found
  have inLanguage := order.language_of_read read
  rcases tokens_of_open_number cut whole back with
    ⟨later, longer⟩ | ⟨longerNumber, later, longer, shrinks⟩
  · rw [longer] at inLanguage
    exact order.malformed_not_mem inLanguage (by simp)
  · -- The longer number is an integer, hence so is the number, and it could stand in its place.
    rw [longer] at inLanguage
    obtain ⟨⟨word, isWord⟩, exchanged⟩ := order.exchange inLanguage
    obtain ⟨shorter, rfl⟩ := shrinks word isWord
    obtain ⟨changed, changedInLanguage⟩ := exchanged shorter
    have accepted := order.read_eq_ok_iff.mpr
      ⟨_, changedInLanguage, (List.append_nil _).symm⟩
    rw [found later] at accepted
    cases accepted

/-- A front of an accepted text has no mismatch. -/
theorem not_mismatch_of_accepted [PromptRead α] (order : ReadsInOrder α language)
    {front back : List Char} {value : α} {mismatch : Mismatch}
    (read : Read.read (tokens (front ++ back)) = .ok (value, [])) :
    Read.read (α := α) (tokens front) ≠ .error (.mismatch mismatch) := by
  intro refused
  obtain ⟨reason, rest, -, same, whole, found⟩ := PromptRead.foundInFront refused
  by_cases ended : rest = [] → (∃ last ∈ reason.getLast?, last.isNumber = true) →
      ¬ GoesOn front back
  · -- The accepted text begins with the reason as well.
    obtain ⟨_, -, longer⟩ := tokens_split same whole back ended
    rw [longer, found] at read
    cases read
  · push Not at ended
    obtain ⟨rfl, ⟨last, isLast, isNumber⟩, -⟩ := ended
    obtain ⟨before, rfl⟩ := List.getLast?_eq_some_iff.mp isLast
    cases last with
    | number number =>
        rw [List.append_nil] at same
        have wholeBefore : Token.malformed ∉ before :=
          fun member => whole (List.mem_append_left _ member)
        apply order.not_mismatch_of_open_number same wholeBefore read
        intro other
        simpa using found other
    | _ => cases isNumber

/-- An accepted text that is cut off before its last blanks is malformed. -/
theorem decode_cut [PromptRead α] (order : ReadsInOrder α language) {text cut : String} {value : α}
    (decoded : decode text = .ok value) (isFront : cut.toList <+: text.toList)
    (shorter : cut.toList.length < (text.toList.rdropWhile isBlank).length) :
    decode (α := α) cut = .error .malformed := by
  obtain ⟨back, split⟩ := isFront
  rw [← split] at shorter
  have read := decode_eq_ok_iff_read.mp decoded
  rw [← split] at read
  cases decodedCut : decode (α := α) cut with
  | ok other =>
      have allBlank := order.allBlank_of_accepted (decode_eq_ok_iff_read.mp decodedCut) read
      exact absurd allBlank (not_allBlank_of_length_lt shorter)
  | error fault =>
      cases fault with
      | malformed => rfl
      | mismatch mismatch =>
          exact absurd (decode_eq_mismatch_iff_read.mp decodedCut)
            (order.not_mismatch_of_accepted read)

/-- Arrays end with their bracket. -/
theorem spread (α : Type) [Write α] [Read α] [LawfulCodec α] [Exchangeable α] :
    ReadsInOrder (Spread α) fun value sequence => sequence = Write.tokens value where
  toReadsExactly := readsExactly (Spread α)
  closed := by
    rintro value front rfl last isLast
    change last ∈ ((Token.openList :: separate (value.toList.map Write.tokens)) ++
      [Token.closeList]).getLast? at isLast
    rw [List.getLast?_concat] at isLast
    cases isLast
    rfl
  exchange := by
    intro value before after number written
    obtain ⟨integer, exchanged⟩ := Exchangeable.exchange written.symm
    refine ⟨integer, fun other => ?_⟩
    obtain ⟨changed, same⟩ := exchanged other
    exact ⟨changed, same.symm⟩

end ReadsInOrder

end SpreadFlow.Json
