/-
Module: SpreadFlow.Config.Json
Purpose: The zip node's configuration as JSON.
Main exports: Zip.Configuration.readBy, Zip.Configuration.reader
-/
import SpreadFlow.Zip.Policy

namespace SpreadFlow.Zip.Configuration

open Json (Token Reading Fault KeyRule)

/-!
The configuration is a record with at most one field, or a list with at most the value of that
field.  What is missing has its default.  A field's name is judged as soon as it is read, before
the colon after it.
-/

/-- The name of the configuration's type in messages. -/
def typeName : String := "ZipValuesConfig"

/-- The names of all fields. -/
def fieldNames : List String := [fieldName]

/-- The fault of a field after the first one: its name is unknown or was there before. -/
def furtherField {α : Type} (name : String) : Except Fault α :=
  if name = fieldName then .error (.mismatch (.duplicateField name))
  else .error (.mismatch (.unknownField name fieldNames))

/-- What follows the value of the field. -/
def readRecordEnd (configuration : Configuration) : List Token → Reading Configuration
  | .closeRecord :: rest => .ok (configuration, rest)
  | .comma :: .text name :: _ => furtherField name
  | _ => .error .malformed

/-- What follows the value in the list form. -/
def readListEnd (configuration : Configuration) : List Token → Reading Configuration
  | .closeList :: rest => .ok (configuration, rest)
  | _ => .error .malformed

/-- A policy, and then the end of the form it stands in. -/
def readPolicy (rule : KeyRule) (sequence : List Token)
    (readEnd : Configuration → List Token → Reading Configuration) : Reading Configuration :=
  match Json.Named.readBy rule sequence with
  | .ok (policy, rest) => readEnd ⟨policy⟩ rest
  | .error fault => .error fault

/-- Reads a configuration in either form. -/
def readBy (rule : KeyRule) : List Token → Reading Configuration
  | .openRecord :: .closeRecord :: rest => .ok ({}, rest)
  | .openRecord :: .text name :: sequence =>
      if name = fieldName then
        match sequence with
        | .colon :: value => readPolicy rule value readRecordEnd
        | _ => .error .malformed
      else .error (.mismatch (.unknownField name fieldNames))
  | .openRecord :: _ => .error .malformed
  | .openList :: .closeList :: rest => .ok ({}, rest)
  | .openList :: sequence => readPolicy rule sequence readListEnd
  | sequence => Json.refuse (.record typeName) sequence

theorem readRecordEnd_shorter {configuration value : Configuration} {sequence rest : List Token}
    (given : readRecordEnd configuration sequence = .ok (value, rest)) :
    rest.length < sequence.length := by
  unfold readRecordEnd at given
  split at given
  · simp only [Except.ok.injEq, Prod.mk.injEq] at given
    simp [given.2]
  · unfold furtherField at given
    split at given <;> simp at given
  · simp at given

theorem readListEnd_shorter {configuration value : Configuration} {sequence rest : List Token}
    (given : readListEnd configuration sequence = .ok (value, rest)) :
    rest.length < sequence.length := by
  unfold readListEnd at given
  split at given
  · simp only [Except.ok.injEq, Prod.mk.injEq] at given
    simp [given.2]
  · simp at given

theorem readPolicy_shorter {rule : KeyRule} {sequence rest : List Token} {value : Configuration}
    {readEnd : Configuration → List Token → Reading Configuration}
    (end_shorter : ∀ {configuration value : Configuration} {sequence rest : List Token},
      readEnd configuration sequence = .ok (value, rest) → rest.length < sequence.length)
    (given : readPolicy rule sequence readEnd = .ok (value, rest)) :
    rest.length < sequence.length := by
  unfold readPolicy at given
  split at given
  · rename_i policy after inner
    exact Nat.lt_trans (end_shorter given) (Json.Named.readBy_shorter inner)
  · simp at given

/-- A configuration takes at least its brackets. -/
theorem readBy_shorter {rule : KeyRule} {sequence rest : List Token} {value : Configuration}
    (given : readBy rule sequence = .ok (value, rest)) : rest.length < sequence.length := by
  unfold readBy at given
  split at given
  · simp only [Except.ok.injEq, Prod.mk.injEq] at given
    simp only [List.length_cons, ← given.2]
    omega
  · split at given
    · split at given
      · have := readPolicy_shorter readRecordEnd_shorter given
        simp only [List.length_cons]
        omega
      · simp at given
    · simp at given
  · simp at given
  · simp only [Except.ok.injEq, Prod.mk.injEq] at given
    simp only [List.length_cons, ← given.2]
    omega
  · exact Nat.lt_succ_of_lt (readPolicy_shorter readListEnd_shorter given)
  · exact absurd given Json.refuse_ne_ok

/-- The reader of configurations under a rule for the keys of policies. -/
@[reducible]
def reader (rule : KeyRule) : Json.Read Configuration where
  read := readBy rule
  read_shorter := readBy_shorter

instance : Json.Read Configuration :=
  reader .inUse

instance : Json.Write Configuration where
  tokens configuration :=
    Json.record [(fieldName, Json.Write.tokens configuration.absentPositions)]

end SpreadFlow.Zip.Configuration
