/-
Module: SpreadFlow.Proofs.Config.Language
Purpose: The JSON texts that are a configuration of the zip node, and that all others are refused.
Main exports: Zip.PolicyTokens, Zip.ConfigurationTokens, Zip.Configuration.readBy_eq_ok_iff,
  Zip.Configuration.decode_exact
-/
import SpreadFlow.Config.Json
import SpreadFlow.Proofs.Json.Language

namespace SpreadFlow.Zip

open Json (Token Reading Fault KeyRule NameTokens Plain)

/-!
A configuration is written in one of four forms: a record or a list, with the policy in it or with
nothing in it.  The reader goes through the tokens of a form in order, so each form is taken as a
whole or not at all.
-/

/-- A policy by its name. -/
inductive PolicyTokens : Policy → List Token → Prop where
  | reject {value : List Token} (spelled : NameTokens "reject" value) : PolicyTokens .reject value
  | empty {value : List Token} (spelled : NameTokens "empty" value) : PolicyTokens .empty value

/-- The configuration with a policy.  Without one, the record and the list stand for the default. -/
inductive ConfigurationTokens : Policy → List Token → Prop where
  | emptyRecord : ConfigurationTokens .reject [.openRecord, .closeRecord]
  | record {policy : Policy} {value : List Token} (spelled : PolicyTokens policy value) :
      ConfigurationTokens policy
        (.openRecord :: .text "absent_positions" :: .colon :: (value ++ [.closeRecord]))
  | emptyList : ConfigurationTokens .reject [.openList, .closeList]
  | list {policy : Policy} {value : List Token} (spelled : PolicyTokens policy value) :
      ConfigurationTokens policy (.openList :: (value ++ [.closeList]))

/-! ### Policies -/

instance : Json.LawfulNamed Policy where
  mem_all
    | .reject => List.mem_cons_self
    | .empty => List.mem_cons_of_mem _ List.mem_cons_self
  name_injective first second same := by
    cases first with
    | reject =>
        cases second with
        | reject => rfl
        | empty => exact absurd same (by decide)
    | empty =>
        cases second with
        | reject => exact absurd same (by decide)
        | empty => rfl

theorem policyTokens_iff {policy : Policy} {value : List Token} :
    PolicyTokens policy value ↔ NameTokens (Json.Named.name policy) value := by
  cases policy with
  | reject => exact ⟨fun | .reject spelled => spelled, .reject⟩
  | empty => exact ⟨fun | .empty spelled => spelled, .empty⟩

theorem readNamed_eq_ok_iff {rule : KeyRule} {sequence rest : List Token} {policy : Policy} :
    Json.Named.readBy rule sequence = .ok (policy, rest) ↔
      ∃ value, PolicyTokens policy value ∧ sequence = value ++ rest := by
  simp only [policyTokens_iff]
  exact Json.Named.readBy_eq_ok_iff

namespace PolicyTokens

theorem plain {policy : Policy} {value : List Token} (spelled : PolicyTokens policy value) :
    Plain value :=
  (policyTokens_iff.mp spelled).plain

/-- A policy is not taken for the end of a list. -/
theorem exists_eq_cons {policy : Policy} {value : List Token}
    (spelled : PolicyTokens policy value) :
    ∃ first others, value = first :: others ∧ first ≠ .closeList := by
  cases policyTokens_iff.mp spelled with
  | text => exact ⟨_, _, rfl, nofun⟩
  | record => exact ⟨_, _, rfl, nofun⟩

end PolicyTokens

namespace ConfigurationTokens

theorem plain {policy : Policy} {sequence : List Token}
    (spelled : ConfigurationTokens policy sequence) : Plain sequence := by
  cases spelled with
  | emptyRecord => simp [Plain, Token.isNumber]
  | record spelled =>
      have before : Plain [.openRecord, .text "absent_positions", .colon] := by
        simp [Plain, Token.isNumber]
      have after : Plain [.closeRecord] := by simp [Plain, Token.isNumber]
      exact before.append (spelled.plain.append after)
  | emptyList => simp [Plain, Token.isNumber]
  | list spelled =>
      have before : Plain [.openList] := by simp [Plain, Token.isNumber]
      have after : Plain [.closeList] := by simp [Plain, Token.isNumber]
      exact before.append (spelled.plain.append after)

end ConfigurationTokens

namespace Configuration

/-! ### The ends of the two forms -/

theorem furtherField_ne_ok {α : Type} {name : String} {value : α} :
    furtherField name ≠ .ok value := by
  unfold furtherField
  split
  · nofun
  · nofun

theorem readRecordEnd_eq_ok_iff {configuration value : Configuration} {sequence rest : List Token} :
    readRecordEnd configuration sequence = .ok (value, rest) ↔
      value = configuration ∧ sequence = .closeRecord :: rest := by
  constructor
  · intro read
    unfold readRecordEnd at read
    split at read
    · cases read
      exact ⟨rfl, rfl⟩
    · exact absurd read furtherField_ne_ok
    · cases read
  · rintro ⟨rfl, rfl⟩
    rfl

theorem readListEnd_eq_ok_iff {configuration value : Configuration} {sequence rest : List Token} :
    readListEnd configuration sequence = .ok (value, rest) ↔
      value = configuration ∧ sequence = .closeList :: rest := by
  constructor
  · intro read
    unfold readListEnd at read
    split at read
    · cases read
      exact ⟨rfl, rfl⟩
    · cases read
  · rintro ⟨rfl, rfl⟩
    rfl

/-- A policy and the bracket that ends the form around it. -/
theorem readPolicy_eq_ok_iff {rule : KeyRule} {sequence rest : List Token} {policy : Policy}
    {bracket : Token} {readEnd : Configuration → List Token → Reading Configuration}
    (readEnd_eq_ok_iff : ∀ {configuration value : Configuration} {sequence rest : List Token},
      readEnd configuration sequence = .ok (value, rest) ↔
        value = configuration ∧ sequence = bracket :: rest) :
    readPolicy rule sequence readEnd = .ok (⟨policy⟩, rest) ↔
      ∃ value, PolicyTokens policy value ∧ sequence = value ++ bracket :: rest := by
  rw [← readNamed_eq_ok_iff, readPolicy]
  cases Json.Named.readBy (α := Policy) rule sequence with
  | error fault => simp
  | ok pair =>
      obtain ⟨found, after⟩ := pair
      simp [readEnd_eq_ok_iff, eq_comm]

/-! ### All forms -/

/-- A configuration is read from exactly its four forms, whatever follows. -/
theorem readBy_eq_ok_iff {rule : KeyRule} {sequence rest : List Token} {policy : Policy} :
    readBy rule sequence = .ok (⟨policy⟩, rest) ↔
      ∃ front, ConfigurationTokens policy front ∧ sequence = front ++ rest := by
  constructor
  · intro given
    unfold readBy at given
    split at given
    case h_1 => cases given; exact ⟨_, .emptyRecord, rfl⟩
    case h_2 =>
      split at given
      case isTrue isField =>
        split at given
        · obtain ⟨value, spelled, rfl⟩ :=
            (readPolicy_eq_ok_iff readRecordEnd_eq_ok_iff).mp given
          exact ⟨_, .record spelled, by simp [isField, fieldName]⟩
        · cases given
      case isFalse => cases given
    case h_3 => cases given
    case h_4 => cases given; exact ⟨_, .emptyList, rfl⟩
    case h_5 =>
      obtain ⟨value, spelled, rfl⟩ := (readPolicy_eq_ok_iff readListEnd_eq_ok_iff).mp given
      exact ⟨_, .list spelled, by simp⟩
    case h_6 => exact absurd given Json.refuse_ne_ok
  · rintro ⟨front, spelled, rfl⟩
    cases spelled with
    | emptyRecord => rfl
    | emptyList => rfl
    | record spelled =>
        rename_i value
        have inside : readPolicy rule (value ++ .closeRecord :: rest) readRecordEnd =
            .ok (⟨policy⟩, rest) :=
          (readPolicy_eq_ok_iff readRecordEnd_eq_ok_iff).mpr ⟨value, spelled, rfl⟩
        simp only [List.cons_append, List.append_assoc, List.nil_append]
        rw [readBy]
        exact (if_pos rfl).trans inside
    | list spelled =>
        rename_i value
        have inside : readPolicy rule (value ++ .closeList :: rest) readListEnd =
            .ok (⟨policy⟩, rest) :=
          (readPolicy_eq_ok_iff readListEnd_eq_ok_iff).mpr ⟨value, spelled, rfl⟩
        obtain ⟨first, others, rfl, noEnd⟩ := spelled.exists_eq_cons
        simp only [List.cons_append, List.append_assoc, List.nil_append] at inside ⊢
        rw [readBy, inside]
        exact fun _ same => noEnd (List.cons.inj same).1

theorem readsExactly (rule : KeyRule) :
    @Json.ReadsExactly Configuration (reader rule) fun configuration =>
      ConfigurationTokens configuration.absentPositions := by
  let := reader rule
  refine ⟨readBy_eq_ok_iff, ?_, ?_⟩
  · exact fun spelled member => (spelled.plain _ member).1 rfl
  · exact fun spelled => spelled.plain.parted

/-- A text is read as the configuration with a policy exactly if it spells one of the four forms
of it, with blanks around the tokens.  Every other text is refused. -/
theorem decode_exact (text : String) :
    (∀ policy : Policy, Json.decode text = .ok (⟨policy⟩ : Configuration) ↔
      ∃ sequence, ConfigurationTokens policy sequence ∧ Json.Spaced sequence text.toList) ∧
    ((∃ fault, Json.decode text = (.error fault : Except Fault Configuration)) ↔
      ¬ ∃ policy sequence,
        ConfigurationTokens policy sequence ∧ Json.Spaced sequence text.toList) := by
  refine ⟨fun policy => (readsExactly .inUse).decode_eq_ok_iff text ⟨policy⟩, ?_⟩
  rw [Json.exists_decode_eq_error_iff, not_iff_not]
  constructor
  · rintro ⟨configuration, decoded⟩
    exact ⟨configuration.absentPositions,
      ((readsExactly .inUse).decode_eq_ok_iff text configuration).mp decoded⟩
  · rintro ⟨policy, spelled⟩
    exact ⟨⟨policy⟩, ((readsExactly .inUse).decode_eq_ok_iff text ⟨policy⟩).mpr spelled⟩

end Configuration

end SpreadFlow.Zip
