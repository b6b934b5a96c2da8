/-
Module: SpreadFlow.Proofs.Config.FirstFault
Purpose: For every type that is read from JSON the first fault of a text decides.
Main exports: Zip.Configuration.readsInOrder, Json.IsReader, Json.firstFault_decides
-/
import SpreadFlow.Proofs.Config.Language
import SpreadFlow.Proofs.Json.Description
import SpreadFlow.Proofs.Json.Prompt

namespace SpreadFlow

open Json (Token Reading Fault Mismatch KeyRule FoundInFront PromptRead ReadsInOrder)

/-!
The laws of spreads come from those of their elements.  Policies and directions are told by their
names, and a configuration goes through its form token by token: what it reports is an unknown or
repeated field, at the name, or the mismatch of the policy in it.

A key that is no text is a fault under either rule for keys, and only which fault depends on the
rule.  So the laws are proved for both.
-/

/-! ### Policies and directions -/

/-- Values that are read by their names, without any numbers. -/
theorem Json.Named.readsInOrder {α : Type} [Json.Named α] [Json.LawfulNamed α] (rule : KeyRule) :
    @ReadsInOrder α (Json.Named.reader rule) fun value =>
      Json.NameTokens (Json.Named.name value) := by
  let := Json.Named.reader (α := α) rule
  refine .of_plain ⟨Json.Named.readBy_eq_ok_iff, ?_, ?_⟩ Json.NameTokens.plain
  · exact fun spelled member => (spelled.plain _ member).1 rfl
  · exact fun spelled => spelled.plain.parted

/-! ### Configurations -/

namespace Zip.Configuration

theorem readRecordEnd_foundInFront {configuration : Configuration} {sequence : List Token}
    {mismatch : Mismatch}
    (given : readRecordEnd configuration sequence = .error (.mismatch mismatch)) :
    FoundInFront (readRecordEnd configuration) mismatch sequence := by
  unfold readRecordEnd at given
  split at given
  · cases given
  · rename_i name rest
    exact ⟨[.comma, .text name], rest, List.cons_ne_nil _ _, rfl, by simp, fun _ => given⟩
  · cases given

theorem readListEnd_foundInFront {configuration : Configuration} {sequence : List Token}
    {mismatch : Mismatch}
    (given : readListEnd configuration sequence = .error (.mismatch mismatch)) :
    FoundInFront (readListEnd configuration) mismatch sequence := by
  unfold readListEnd at given
  split at given
  · cases given
  · cases given

/-- The mismatch of a form is that of the policy in it, or one behind the policy. -/
theorem readPolicy_foundInFront (readEnd : Configuration → List Token → Reading Configuration)
    (readEnd_foundInFront : ∀ {configuration : Configuration} {sequence : List Token}
      {mismatch : Mismatch}, readEnd configuration sequence = .error (.mismatch mismatch) →
        FoundInFront (readEnd configuration) mismatch sequence)
    {rule : KeyRule} {sequence : List Token} {mismatch : Mismatch}
    (given : readPolicy rule sequence readEnd = .error (.mismatch mismatch)) :
    FoundInFront (readPolicy rule · readEnd) mismatch sequence := by
  rw [readPolicy] at given
  cases inner : Json.Named.readBy (α := Policy) rule sequence with
  | error fault =>
      rw [inner] at given
      cases given
      refine (Json.Named.readBy_foundInFront inner).lift [] List.not_mem_nil
        fun other _ refused => ?_
      change readPolicy rule other readEnd = _
      rw [readPolicy, refused]
  | ok pair =>
      obtain ⟨policy, after⟩ := pair
      rw [inner] at given
      obtain ⟨value, spelled, rfl⟩ := readNamed_eq_ok_iff.mp inner
      have whole : Token.malformed ∉ value := fun member => (spelled.plain _ member).1 rfl
      refine (readEnd_foundInFront given).lift value whole fun other _ refused => ?_
      have reread : Json.Named.readBy rule (value ++ other) = .ok (policy, other) :=
        readNamed_eq_ok_iff.mpr ⟨value, spelled, rfl⟩
      rw [readPolicy, reread]
      exact refused

/-- A configuration's mismatch is found at a field's name, in its policy, or at the token that
begins something else. -/
theorem readBy_foundInFront {rule : KeyRule} {sequence : List Token} {mismatch : Mismatch}
    (given : readBy rule sequence = .error (.mismatch mismatch)) :
    FoundInFront (readBy rule) mismatch sequence := by
  unfold readBy at given
  split at given
  case h_1 => cases given
  case h_2 =>
    rename_i name rest
    split at given
    case isTrue isField =>
      split at given
      · refine (readPolicy_foundInFront readRecordEnd readRecordEnd_foundInFront given).lift
          [.openRecord, .text name, .colon] (by simp) fun other _ refused => ?_
        exact (if_pos isField).trans refused
      · cases given
    case isFalse noField =>
      refine ⟨[.openRecord, .text name], rest, List.cons_ne_nil _ _, rfl, by simp, ?_⟩
      intro other
      exact (if_neg noField).trans given
  case h_3 => cases given
  case h_4 => cases given
  case h_5 =>
    rename_i sequence noEnd
    refine (readPolicy_foundInFront readListEnd readListEnd_foundInFront given).lift [.openList]
      (by simp) fun other sameHead refused => ?_
    rw [List.singleton_append, readBy, refused]
    exact Json.ne_cons_of_head? sameHead noEnd
  case h_6 =>
    -- Only what begins with one of the brackets is read otherwise.
    rename_i noRecord _ noList
    refine (Json.refuse_foundInFront given).lift [] List.not_mem_nil
      fun other sameHead refused => ?_
    have noRecordToo := Json.ne_cons_of_head? sameHead noRecord
    have noListToo := Json.ne_cons_of_head? sameHead noList
    change readBy rule other = _
    rw [readBy, refused]
    · exact fun _ => noRecordToo _
    · exact fun _ _ => noRecordToo _
    · exact noRecordToo
    · exact fun _ => noListToo _
    · exact noListToo

instance (rule : KeyRule) : @PromptRead Configuration (reader rule) :=
  let := reader rule
  ⟨readBy_foundInFront⟩

theorem readsInOrder (rule : KeyRule) :
    @ReadsInOrder Configuration (reader rule) fun configuration =>
      ConfigurationTokens configuration.absentPositions := by
  let := reader rule
  exact .of_plain (readsExactly rule) ConfigurationTokens.plain

end Zip.Configuration

namespace Json

/-- The readers of all types that are read from JSON, under either rule for keys. -/
inductive IsReader : {α : Type} → Read α → Prop where
  | configuration (rule : KeyRule) : IsReader (Zip.Configuration.reader rule)
  | policy (rule : KeyRule) : IsReader (Named.reader rule : Read Zip.Policy)
  | direction (rule : KeyRule) : IsReader (Named.reader rule : Read Pin.Direction)
  | integers : IsReader (inferInstance : Read (Spread Int32))
  | texts : IsReader (inferInstance : Read (Spread String))
  | rows : IsReader (inferInstance : Read (Spread (Spread Int32)))
  | optionalRows : IsReader (inferInstance : Read (Spread (Option (Spread Int32))))

theorem IsReader.readsInOrder {α : Type} [reader : Read α] (isReader : IsReader reader) :
    PromptRead α ∧ ∃ language, ReadsInOrder α language := by
  cases isReader with
  | configuration rule => exact ⟨inferInstance, _, Zip.Configuration.readsInOrder rule⟩
  | policy rule => exact ⟨inferInstance, _, Named.readsInOrder rule⟩
  | direction rule => exact ⟨inferInstance, _, Named.readsInOrder rule⟩
  | integers => exact ⟨inferInstance, _, ReadsInOrder.spread Int32⟩
  | texts => exact ⟨inferInstance, _, ReadsInOrder.spread String⟩
  | rows => exact ⟨inferInstance, _, ReadsInOrder.spread (Spread Int32)⟩
  | optionalRows => exact ⟨inferInstance, _, ReadsInOrder.spread (Option (Spread Int32))⟩

/-- For each type that is read from JSON the first fault of a text decides.  A mismatch stays what
it is when more text arrives, unless a number at the end goes on.  An accepted text that is cut off
before its last blanks is malformed. -/
theorem firstFault_decides {α : Type} [reader : Read α] (isReader : IsReader reader) :
    (∀ (text more : String) (mismatch : Mismatch),
      decode (α := α) text = .error (.mismatch mismatch) → ¬ GoesOn text.toList more.toList →
        decode (α := α) (text ++ more) = .error (.mismatch mismatch)) ∧
    ∀ (text cut : String) (value : α), decode text = .ok value →
      cut.toList <+: text.toList → cut.toList.length < (text.toList.rdropWhile isBlank).length →
        decode (α := α) cut = .error .malformed := by
  obtain ⟨prompt, language, order⟩ := isReader.readsInOrder
  exact ⟨fun text more mismatch => decode_append_of_mismatch,
    fun text cut value => order.decode_cut⟩

/-- A number in the place of a policy's key, to the rule that takes it for a value of the wrong
type, and an unknown field, to the reader in use, each with the rest of a record behind it.  Two
rows are accepted, but not with the second cut off within its number. -/
theorem firstFault_decides_at_keys :
    let key : Mismatch := .type (.number (.integer 1)) .variant
    let field : Mismatch := .unknownField "x" ["absent_positions"]
    let rows : Spread (Spread Int32) := .ofList [.ofList [7], .ofList [12]]
    key.message = "invalid type: integer `1`, expected variant identifier" ∧
      @decode Zip.Policy (Named.reader .mistyped) "\x7b1 " = .error (.mismatch key) ∧
      ¬ GoesOn "\x7b1 ".toList ": null\x7d".toList ∧
      @decode Zip.Policy (Named.reader .mistyped) ("\x7b1 " ++ ": null\x7d") =
        .error (.mismatch key) ∧
      field.message = "unknown field `x`, expected `absent_positions`" ∧
      decode (α := Zip.Configuration) "\x7b\"x\"" = .error (.mismatch field) ∧
      ¬ GoesOn "\x7b\"x\"".toList ": 5\x7d".toList ∧
      decode (α := Zip.Configuration) ("\x7b\"x\"" ++ ": 5\x7d") = .error (.mismatch field) ∧
      decode "[[7],[12]] " = .ok rows ∧ "[[7],[1".toList <+: "[[7],[12]] ".toList ∧
      "[[7],[1".toList.length < ("[[7],[12]] ".toList.rdropWhile isBlank).length ∧
      decode (α := Spread (Spread Int32)) "[[7],[1" = .error .malformed := by
  intro key field rows
  have keyRefused : @decode Zip.Policy (Named.reader .mistyped) "\x7b1 " =
      .error (.mismatch key) := by decide +kernel
  have keyEnds : ¬ GoesOn "\x7b1 ".toList ": null\x7d".toList :=
    not_goesOn_of_getLast? rfl rfl _
  have fieldRefused : decode (α := Zip.Configuration) "\x7b\"x\"" =
      .error (.mismatch field) := by decide +kernel
  have fieldEnds : ¬ GoesOn "\x7b\"x\"".toList ": 5\x7d".toList :=
    not_goesOn_of_getLast? rfl rfl _
  have accepted : decode "[[7],[12]] " = .ok rows := by decide +kernel
  have isFront : "[[7],[1".toList <+: "[[7],[12]] ".toList := by decide
  have shorter : "[[7],[1".toList.length < ("[[7],[12]] ".toList.rdropWhile isBlank).length := by
    decide
  refine ⟨by decide +kernel, keyRefused, keyEnds, ?_, by decide +kernel, fieldRefused, fieldEnds,
    ?_, accepted, isFront, shorter, ?_⟩
  · exact (@firstFault_decides _ (Named.reader .mistyped) (.policy .mistyped)).1 _ _ _
      keyRefused keyEnds
  · exact (firstFault_decides (.configuration .inUse)).1 _ _ _ fieldRefused fieldEnds
  · exact (firstFault_decides .rows).2 _ _ _ accepted isFront shorter

end Json

end SpreadFlow
