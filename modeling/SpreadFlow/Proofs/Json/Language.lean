/-
Module: SpreadFlow.Proofs.Json.Language
Purpose: The texts that a type is read from, given the token sequences that its reader takes.
Main exports: Json.ReadsExactly, Json.ReadsExactly.decode_eq_ok_iff, Json.LawfulNamed,
  Json.NameTokens, Json.Named.readBy_eq_ok_iff
-/
import Mathlib.Data.List.Chain
import SpreadFlow.Json.Codec
import SpreadFlow.Proofs.Json.Lexing

namespace SpreadFlow.Json

/-!
A reader takes a value from the front of a token sequence and leaves the rest.  The language of a
type is the set of fronts that it takes for each value.  A text is read as a value exactly if it
spells a sequence of the language and nothing more, so the language decides about every text.
-/

/-- From the front of a token sequence the reader of the type takes exactly the sequences of the
language.  These are whole, and no two numbers in them stand side by side. -/
structure ReadsExactly (α : Type) [Read α] (language : α → List Token → Prop) : Prop where
  read_eq_ok_iff : ∀ {sequence rest : List Token} {value : α},
    Read.read sequence = .ok (value, rest) ↔
      ∃ front, language value front ∧ sequence = front ++ rest
  malformed_not_mem : ∀ {value : α} {front : List Token},
    language value front → Token.malformed ∉ front
  parted : ∀ {value : α} {front : List Token}, language value front → Parted front

section

variable {α : Type} [Read α] {language : α → List Token → Prop}

/-- A text is read as a value exactly if it spells a sequence of the language for that value. -/
theorem ReadsExactly.decode_eq_ok_iff (exact : ReadsExactly α language) (text : String)
    (value : α) :
    decode text = .ok value ↔
      ∃ sequence, language value sequence ∧ Spaced sequence text.toList := by
  constructor
  · intro decoded
    unfold decode at decoded
    split at decoded
    · rename_i found read
      cases decoded
      obtain ⟨front, inLanguage, same⟩ := exact.read_eq_ok_iff.mp read
      rw [List.append_nil] at same
      have whole := exact.malformed_not_mem inLanguage
      rw [← same] at inLanguage whole
      exact ⟨tokens text.toList, inLanguage, spaced_of_tokens whole⟩
    · cases decoded
    · cases decoded
  · rintro ⟨sequence, inLanguage, spaced⟩
    have read : Read.read sequence = .ok (value, []) :=
      exact.read_eq_ok_iff.mpr ⟨sequence, inLanguage, (List.append_nil sequence).symm⟩
    rw [decode, tokens_of_spaced spaced (exact.parted inLanguage), read]

/-- A text is refused exactly if it is read as no value. -/
theorem exists_decode_eq_error_iff {text : String} :
    (∃ fault, decode text = (.error fault : Except Fault α)) ↔
      ¬ ∃ value : α, decode text = .ok value := by
  cases decode (α := α) text with
  | error fault => simp
  | ok value => simp

end

/-! ### Tokens side by side -/

theorem Parted.cons {token : Token} {sequence : List Token} (noNumber : token.isNumber = false)
    (parted : Parted sequence) : Parted (token :: sequence) := by
  apply List.isChain_cons.mpr
  refine ⟨?_, parted⟩
  rintro next - ⟨isNumber, -⟩
  rw [noNumber] at isNumber
  cases isNumber

theorem Parted.append {before after : List Token} {token : Token} (parted : Parted before)
    (noNumber : token.isNumber = false) (partedAfter : Parted after) :
    Parted (before ++ token :: after) := by
  apply List.isChain_append.mpr
  refine ⟨parted, partedAfter.cons noNumber, ?_⟩
  rintro last - first isFirst ⟨-, isNumber⟩
  cases isFirst
  rw [noNumber] at isNumber
  cases isNumber

/-- Nothing broken, and no numbers. -/
def Plain (sequence : List Token) : Prop :=
  ∀ token ∈ sequence, token ≠ .malformed ∧ token.isNumber = false

theorem Plain.append {before after : List Token} (plainBefore : Plain before)
    (plainAfter : Plain after) : Plain (before ++ after) :=
  List.forall_mem_append.mpr ⟨plainBefore, plainAfter⟩

theorem Plain.parted {sequence : List Token} (plain : Plain sequence) : Parted sequence := by
  apply List.isChain_iff_forall_rel_of_append_cons_cons.mpr
  rintro first second before after rfl ⟨isNumber, -⟩
  have noNumber := (plain first (by simp)).2
  rw [isNumber] at noNumber
  cases noNumber

/-! ### Named values -/

/-- Types whose values are all listed, each under a name of its own. -/
class LawfulNamed (α : Type) [Named α] : Prop where
  mem_all : ∀ value : α, value ∈ Named.all
  name_injective : Function.Injective (Named.name : α → String)

/-- A name as a string, or as the only key of a record with `null` under it. -/
inductive NameTokens (name : String) : List Token → Prop where
  | text : NameTokens name [.text name]
  | record : NameTokens name [.openRecord, .text name, .colon, .null, .closeRecord]

theorem NameTokens.plain {name : String} {front : List Token} (spelled : NameTokens name front) :
    Plain front := by
  cases spelled with
  | text => simp [Plain, Token.isNumber]
  | record => simp [Plain, Token.isNumber]

namespace Named

theorem readUnit_eq_ok_iff {α : Type} {value found : α} {sequence rest : List Token} :
    readUnit value sequence = .ok (found, rest) ↔
      found = value ∧ sequence = .colon :: .null :: .closeRecord :: rest := by
  constructor
  · intro read
    unfold readUnit at read
    split at read
    · cases read
      exact ⟨rfl, rfl⟩
    · cases read
    · exact absurd read refuse_ne_ok
    · cases read
  · rintro ⟨rfl, rfl⟩
    rfl

section

variable {α : Type} [Named α] [LawfulNamed α]

theorem ofName?_eq_some_iff {wanted : String} {value : α} :
    ofName? wanted = some value ↔ name value = wanted := by
  constructor
  · intro found
    simpa using List.find?_some found
  · rintro rfl
    cases found : ofName? (α := α) (name value) with
    | none =>
        have unknown := List.find?_eq_none.mp found value (LawfulNamed.mem_all value)
        exact absurd (decide_eq_true rfl) unknown
    | some other =>
        have same : name other = name value := by simpa using List.find?_some found
        rw [LawfulNamed.name_injective same]

theorem ofName_eq_ok_iff {wanted : String} {value : α} :
    ofName wanted = .ok value ↔ name value = wanted := by
  rw [← ofName?_eq_some_iff, ofName]
  cases ofName? (α := α) wanted with
  | none => simp
  | some found => simp

/-- A named value is read from exactly the two forms of its name. -/
theorem readBy_eq_ok_iff {rule : KeyRule} {sequence rest : List Token} {value : α} :
    readBy rule sequence = .ok (value, rest) ↔
      ∃ front, NameTokens (name value) front ∧ sequence = front ++ rest := by
  constructor
  · intro given
    unfold readBy at given
    split at given
    · rename_i wanted after
      cases found : ofName (α := α) wanted with
      | error fault =>
          rw [found] at given
          cases given
      | ok inner =>
          rw [found] at given
          cases given
          exact ⟨_, .text, by rw [ofName_eq_ok_iff.mp found]; rfl⟩
    · rename_i wanted after
      cases found : ofName (α := α) wanted with
      | error fault =>
          rw [found] at given
          cases given
      | ok inner =>
          rw [found] at given
          obtain ⟨rfl, rfl⟩ := readUnit_eq_ok_iff.mp given
          exact ⟨_, .record, by rw [ofName_eq_ok_iff.mp found]; rfl⟩
    · exact absurd given KeyRule.refuseKey_ne_ok
    · cases given
  · rintro ⟨front, spelled, rfl⟩
    have known : ofName (name value) = .ok value := ofName_eq_ok_iff.mpr rfl
    cases spelled with
    | text =>
        change (ofName (name value)).map (·, rest) = _
        rw [known]
        rfl
    | record =>
        change (ofName (name value)).bind (readUnit · (.colon :: .null :: .closeRecord :: rest)) = _
        rw [known]
        rfl

end

end Named

end SpreadFlow.Json
