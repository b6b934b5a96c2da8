/-
Module: SpreadFlow.Proofs.Config.Formats
Purpose: The same entries give the same configuration in TOML, YAML and JSON.
Main exports: Zip.Configuration.ofSettings?_eq_some_iff, Zip.Configuration.ofToml?_toToml,
  Zip.Configuration.ofYaml?_toYaml, Zip.Configuration.formats_agree
-/
import SpreadFlow.Config.Toml
import SpreadFlow.Config.Yaml
import SpreadFlow.Proofs.Config.Language
import SpreadFlow.Proofs.Json.RoundTrip
import SpreadFlow.Proofs.Toml.Entries
import SpreadFlow.Proofs.Yaml.Entries

namespace SpreadFlow.Zip.Configuration

open Layout
open Json (Token Plain)

/-!
The readers of the three formats have nothing in common but the keys and names they look for.  TOML
and YAML documents are read as all their entries, and then the keys are judged.  In JSON the judging
goes on while the text is read.  Each reader is compared with the judging of the entries, and so the
readers are compared with each other.  The only word that is read otherwise in one format is a key
too long for YAML, and no such key is the field's.
-/

/-! ### Judging keys and names -/

theorem ofSettings?_singleton (key name : String) :
    ofSettings? [(key, name)] =
      if key = fieldName then (Json.Named.ofName? name).map (⟨·⟩) else none := by
  by_cases isField : key = fieldName
  · simp only [ofSettings?, List.foldlM_cons, List.foldlM_nil, addSetting?, isField, and_self,
      if_true]
    cases (Json.Named.ofName? name : Option Policy) with
    | none => rfl
    | some policy => rfl
  · simp [ofSettings?, addSetting?, isField]

/-- The second of two keys is refused, since it is unknown or was there before. -/
theorem ofSettings?_cons_cons (first second : String × String) (others : List (String × String)) :
    ofSettings? (first :: second :: others) = none := by
  have settled (policy : Policy) (setting : String × String) :
      addSetting? (some policy) setting = none := by
    simp [addSetting?]
  have given (known : Option Policy) (read : addSetting? none first = some known) :
      ∃ policy, known = some policy := by
    simp only [addSetting?, Option.ite_none_right_eq_some, Option.map_eq_some_iff] at read
    obtain ⟨-, policy, -, rfl⟩ := read
    exact ⟨policy, rfl⟩
  rw [ofSettings?, List.foldlM_cons]
  cases read : addSetting? none first with
  | none => rfl
  | some known =>
      obtain ⟨policy, rfl⟩ := given known read
      simp [settled]

/-- Some settings give a configuration only if they are the one setting for its policy. -/
theorem ofSettings?_eq_some_iff {settings : List (String × String)} (nonempty : settings ≠ [])
    {policy : Policy} :
    ofSettings? settings = some ⟨policy⟩ ↔ settings = [(fieldName, Json.Named.name policy)] := by
  match settings with
  | [] => exact absurd rfl nonempty
  | [(key, name)] =>
      have named : Json.Named.ofName? name = some policy ↔ name = Json.Named.name policy :=
        Json.Named.ofName?_eq_some_iff.trans eq_comm
      simp [ofSettings?_singleton, named]
  | first :: second :: others => simp [ofSettings?_cons_cons]

/-- Some settings give a configuration only if they are the one setting for one of the policies. -/
theorem ofSettings?_isSome_iff {settings : List (String × String)} (nonempty : settings ≠ []) :
    (ofSettings? settings).isSome ↔
      settings = [(fieldName, "reject")] ∨ settings = [(fieldName, "empty")] := by
  rw [Option.isSome_iff_exists]
  constructor
  · rintro ⟨⟨policy⟩, given⟩
    have only := (ofSettings?_eq_some_iff nonempty).mp given
    cases policy with
    | reject => exact .inl only
    | empty => exact .inr only
  · rintro (only | only)
    · exact ⟨⟨.reject⟩, (ofSettings?_eq_some_iff nonempty).mpr only⟩
    · exact ⟨⟨.empty⟩, (ofSettings?_eq_some_iff nonempty).mpr only⟩

/-- An unknown key is refused, wherever it is. -/
theorem ofSettings?_eq_none_of_mem {settings : List (String × String)} {key name : String}
    (member : (key, name) ∈ settings) (unknown : key ≠ fieldName) :
    ofSettings? settings = none := by
  cases given : ofSettings? settings with
  | none => rfl
  | some configuration =>
      have only := (ofSettings?_eq_some_iff (List.ne_nil_of_mem member)).mp given
      rw [only, List.mem_singleton, Prod.mk.injEq] at member
      exact absurd member.1 unknown

/-! ### The three readers -/

/-- In TOML every entry is a statement of its own, and all are judged. -/
theorem ofToml?_source (lines : List (Line Toml.Style × Toml.Ending)) :
    ofToml? (String.ofList (Toml.source lines)) =
      ofSettings? ((entries (lines.map Prod.fst)).map Entry.setting) := by
  rw [ofToml?, String.toList_ofList, Toml.statements?_source, Option.bind_some,
    Toml.settings?_map_statement]
  rfl

/-- The name of the field is short enough for a key, even between marks. -/
theorem ne_fieldName_of_far {style : Yaml.Style} {given : Entry}
    (far : ¬ Yaml.isNear (.entry style given) = true) : given.key.text ≠ fieldName := by
  intro isField
  have same : given.key.characters = fieldName.toList := by
    rw [← isField, Name.text, String.toList_ofList]
  apply far
  rw [Yaml.isNear, same]
  cases style.key with
  | none => decide
  | some mark => cases mark <;> decide

/-- The value of an entry is the name that it gives, since it has no tag. -/
theorem mapM_setting?_filterMap_readLine? (lines : List (Line Yaml.Style)) :
    (lines.filterMap Yaml.readLine?).mapM Yaml.Entry.setting? =
      some ((entries lines).map Entry.setting) := by
  induction lines with
  | nil => rfl
  | cons line lines inductionHypothesis =>
      cases line with
      | blank | comment => exact inductionHypothesis
      | entry style given =>
          have first : (Yaml.asRead style given).setting? = some given.setting := rfl
          simp [Yaml.readLine?, entries, Line.entry?, first, inductionHypothesis]

/-- In YAML the entries are judged, too, unless one of their keys is too long to be known. -/
theorem ofYaml?_source (lines : List (Line Yaml.Style)) :
    ofYaml? (String.ofList (Yaml.source lines)) =
      ofSettings? ((entries lines).map Entry.setting) := by
  rw [ofYaml?, String.toList_ofList, Yaml.document?_source]
  split
  case isTrue =>
    rw [Option.bind_eq_bind, Option.bind_some, mapM_setting?_filterMap_readLine?]
    rfl
  case isFalse refused =>
    simp only [List.all_eq_true, not_forall] at refused
    obtain ⟨line, member, far⟩ := refused
    cases line with
    | blank | comment => exact absurd rfl far
    | entry style given =>
        have mem_entries : given ∈ entries lines := List.mem_filterMap.mpr ⟨_, member, rfl⟩
        have mem_settings :
            (given.key.text, given.value.text) ∈ (entries lines).map Entry.setting :=
          List.mem_map.mpr ⟨given, mem_entries, rfl⟩
        exact (ofSettings?_eq_none_of_mem mem_settings (ne_fieldName_of_far far)).symm

/-- The entries as the tokens of a JSON record. -/
def recordTokens (entries : List Entry) : List Token :=
  Json.record (entries.map fun entry => (entry.key.text, [.text entry.value.text]))

theorem plain_separate {items : List (List Token)} (plain : ∀ item ∈ items, Plain item) :
    Plain (Json.separate items) := by
  match items with
  | [] => exact nofun
  | [item] => exact plain item List.mem_cons_self
  | item :: next :: items =>
      obtain ⟨first, others⟩ := List.forall_mem_cons.mp plain
      have comma : Plain [.comma] := by simp [Plain, Token.isNumber]
      exact first.append (comma.append (plain_separate others))

theorem plain_recordTokens (entries : List Entry) : Plain (recordTokens entries) := by
  have opening : Plain [.openRecord] := by simp [Plain, Token.isNumber]
  have closing : Plain [.closeRecord] := by simp [Plain, Token.isNumber]
  refine opening.append ((plain_separate ?_).append closing)
  intro item member
  simp only [List.map_map, List.mem_map, Function.comp_apply] at member
  obtain ⟨entry, -, rfl⟩ := member
  simp [Plain, Token.isNumber]

theorem readPolicy_text (rule : Json.KeyRule) (name : String) (rest : List Token)
    (readEnd : Configuration → List Token → Json.Reading Configuration) :
    readPolicy rule (.text name :: rest) readEnd =
      match (Json.Named.ofName? name : Option Policy) with
      | some policy => readEnd ⟨policy⟩ rest
      | none => .error (.mismatch (.unknownVariant name (Json.Named.names Policy))) := by
  have read : (Json.Named.readBy rule (.text name :: rest) : Json.Reading Policy) =
      (Json.Named.ofName name).map (·, rest) := rfl
  rw [readPolicy, read, Json.Named.ofName]
  cases (Json.Named.ofName? name : Option Policy) with
  | none => rfl
  | some policy => rfl

/-- The record of a field is judged by its name, then by its value, then by what follows. -/
theorem readBy_field (rule : Json.KeyRule) (name value : String) (rest : List Token) :
    (readBy rule (.openRecord :: .text name :: .colon :: .text value :: rest)).toOption =
      (ofSettings? [(name, value)]).bind fun configuration =>
        (readRecordEnd configuration rest).toOption := by
  rw [readBy, ofSettings?_singleton]
  split
  case isTrue =>
    simp only [readPolicy_text]
    cases (Json.Named.ofName? value : Option Policy) with
    | none => rfl
    | some policy => rfl
  case isFalse => rfl

theorem toOption_decode (text : String) :
    (Json.decode text : Except Json.Fault Configuration).toOption =
      (readBy .inUse (Json.tokens text.toList)).toOption.bind fun (configuration, rest) =>
        if rest.isEmpty then some configuration else none := by
  have same : (Json.Read.read (Json.tokens text.toList) : Json.Reading Configuration) =
      readBy .inUse (Json.tokens text.toList) := rfl
  rw [Json.decode, same]
  cases readBy .inUse (Json.tokens text.toList) with
  | error fault => rfl
  | ok pair =>
      obtain ⟨configuration, rest⟩ := pair
      cases rest with
      | nil => rfl
      | cons token rest => rfl

/-- In JSON the fields decide one after the other, as soon as each is read. -/
theorem toOption_decode_of_spaced {entries : List Entry} {text : String}
    (spaced : Json.Spaced (recordTokens entries) text.toList) :
    (Json.decode text : Except Json.Fault Configuration).toOption =
      ofSettings? (entries.map Entry.setting) := by
  rw [toOption_decode, Json.tokens_of_spaced spaced (plain_recordTokens entries).parted]
  match entries with
  | [] => rfl
  | [entry] =>
      have tokens : recordTokens [entry] = .openRecord :: .text entry.key.text :: .colon ::
          .text entry.value.text :: [.closeRecord] := rfl
      rw [tokens, readBy_field, List.map_singleton, Entry.setting]
      cases ofSettings? [(entry.key.text, entry.value.text)] with
      | none => rfl
      | some configuration => rfl
  | first :: second :: others =>
      -- If the first field is read at all, the name of the second is refused after the comma.
      obtain ⟨more, tokens⟩ : ∃ more, recordTokens (first :: second :: others) =
          .openRecord :: .text first.key.text :: .colon :: .text first.value.text ::
            (.comma :: .text second.key.text :: more) := by
        cases others with
        | nil => exact ⟨_, rfl⟩
        | cons third others => exact ⟨_, rfl⟩
      rw [tokens, readBy_field, List.map_cons, List.map_cons, ofSettings?_cons_cons]
      cases ofSettings? [(first.key.text, first.value.text)] with
      | none => rfl
      | some configuration =>
          have refused : (readRecordEnd configuration
              (.comma :: .text second.key.text :: more)).toOption = none := by
            rw [readRecordEnd, furtherField]
            split
            · rfl
            · rfl
          rw [Option.bind_some, refused]
          rfl

/-! ### Written configurations -/

/-- The entry that a configuration is written as. -/
def policyEntry (policy : Policy) : Entry where
  key := ⟨fieldName.toList, by decide, List.all_eq_true.mp rfl⟩
  value := {
    characters := (Json.Named.name policy).toList
    nonempty := by cases policy <;> decide
    letters := List.all_eq_true.mp (by cases policy <;> rfl) }

theorem ofSettings?_policyEntry (policy : Policy) :
    ofSettings? [(policyEntry policy).setting] = some ⟨policy⟩ := by
  apply (ofSettings?_eq_some_iff (List.cons_ne_nil _ _)).mpr
  simp [Entry.setting, Name.text, policyEntry]

/-- A configuration that is written as TOML is read back. -/
theorem ofToml?_toToml (configuration : Configuration) :
    ofToml? configuration.toToml = some configuration := by
  obtain ⟨policy⟩ := configuration
  have written : toToml ⟨policy⟩ = String.ofList
      (Toml.source [(.entry ⟨none, .double⟩ (policyEntry policy), .feed)]) := by
    cases policy with
    | reject => rfl
    | empty => rfl
  rw [written, ofToml?_source]
  exact ofSettings?_policyEntry policy

/-- A configuration that is written as YAML is read back. -/
theorem ofYaml?_toYaml (configuration : Configuration) :
    ofYaml? configuration.toYaml = some configuration := by
  obtain ⟨policy⟩ := configuration
  have written : toYaml ⟨policy⟩ = String.ofList
      (Yaml.source [.entry ⟨none, none⟩ (policyEntry policy)]) := by
    cases policy with
    | reject => rfl
    | empty => rfl
  rw [written, ofYaml?_source]
  exact ofSettings?_policyEntry policy

/-! ### Agreement -/

/-- A TOML, a YAML and a JSON document with the same entries are read as the same configuration, or
all three are refused.  They are a configuration only if there is one entry, of the field's name,
and its value is the name of a policy.  It makes no difference how the documents are laid out and
quoted, nor whether a word would stand for something else than a text in one of the formats. -/
theorem formats_agree {given : List Entry} (nonempty : given ≠ [])
    {toml : List (Line Toml.Style × Toml.Ending)} (inToml : entries (toml.map Prod.fst) = given)
    {yaml : List (Line Yaml.Style)} (inYaml : entries yaml = given)
    {json : String} (inJson : Json.Spaced (recordTokens given) json.toList) :
    ∃ outcome : Option Configuration,
      ofToml? (String.ofList (Toml.source toml)) = outcome ∧
      ofYaml? (String.ofList (Yaml.source yaml)) = outcome ∧
      (Json.decode json : Except Json.Fault Configuration).toOption = outcome ∧
      (∀ policy, outcome = some ⟨policy⟩ ↔
        given.map Entry.setting = [("absent_positions", Json.Named.name policy)]) ∧
      (outcome.isSome ↔ given.map Entry.setting = [("absent_positions", "reject")] ∨
        given.map Entry.setting = [("absent_positions", "empty")]) := by
  have some_setting : given.map Entry.setting ≠ [] := mt List.map_eq_nil_iff.mp nonempty
  refine ⟨ofSettings? (given.map Entry.setting), ?_, ?_, toOption_decode_of_spaced inJson,
    fun _ => ofSettings?_eq_some_iff some_setting, ofSettings?_isSome_iff some_setting⟩
  · rw [ofToml?_source, inToml]
  · rw [ofYaml?_source, inYaml]

/-- One entry between comments and blank lines. -/
theorem formats_agree_amid_comments :
    ofToml? "# slices\r\n\n\"absent_positions\" = 'empty'\r\n  #\n" = some ⟨.empty⟩ ∧
    ofYaml? "  \n# slices\nabsent_positions: \"empty\"\n # 1\n\n" = some ⟨.empty⟩ ∧
    (Json.decode "\x7b\"absent_positions\": \"empty\"\n\x7d" :
      Except Json.Fault Configuration).toOption = some ⟨.empty⟩ := by
  have spaced : Json.Spaced (recordTokens [policyEntry .empty])
      "\x7b\"absent_positions\": \"empty\"\n\x7d".toList := by
    have key := Json.spells_flatMap_writeCharacter "absent_positions".toList
    have value := Json.spells_flatMap_writeCharacter "empty".toList
    have space : Json.AllBlank [' '] := by simp [Json.AllBlank, Json.isBlank]
    have line : Json.AllBlank ['\n'] := by simp [Json.AllBlank, Json.isBlank]
    exact .cons .nil .openRecord <| .cons .nil (.text key) <| .cons .nil .colon <|
      .cons space (.text value) <| .cons line .closeRecord <| .nil .nil
  obtain ⟨outcome, toml, yaml, json, only, -⟩ := @formats_agree [policyEntry .empty] (by simp)
    [(.comment 0 ⟨" slices".toList, List.all_eq_true.mp rfl⟩, .returnFeed), (.blank 0, .feed),
      (.entry ⟨some .double, .single⟩ (policyEntry .empty), .returnFeed),
      (.comment 2 ⟨[], List.all_eq_true.mp rfl⟩, .feed)]
    rfl
    [.blank 2, .comment 0 ⟨" slices".toList, List.all_eq_true.mp rfl⟩,
      .entry ⟨none, some .double⟩ (policyEntry .empty),
      .comment 1 ⟨" 1".toList, List.all_eq_true.mp rfl⟩, .blank 0]
    rfl _ spaced
  have settled : outcome = some ⟨.empty⟩ := (only .empty).mpr rfl
  rw [settled] at toml yaml json
  exact ⟨toml, yaml, json⟩

end SpreadFlow.Zip.Configuration
