/-
Module: SpreadFlow.Json.Codec
Purpose: Values as JSON texts: what can be written, what can be read, and the common types.
Main exports: Json.Write, Json.Read, Json.encode, Json.decode, Json.Named, Json.KeyRule
-/
import SpreadFlow.Json.Mismatch
import SpreadFlow.Spread.Basic
import SpreadFlow.Word

namespace SpreadFlow.Json

/-!
A type is written as tokens and read from tokens.  Reading takes the tokens of one value from the
front and stops at the first fault.  Every value takes at least one token, which is why the reader
of a list ends.
-/

/-- A reader's result: the value with the tokens after it, or the first fault. -/
abbrev Reading (α : Type) := Except Fault (α × List Token)

/-- Types whose values are written as JSON. -/
class Write (α : Type) where
  tokens : α → List Token

/-- Types whose values are read from JSON. -/
class Read (α : Type) where
  read : List Token → Reading α
  read_shorter : ∀ {sequence : List Token} {value : α} {rest : List Token},
    read sequence = .ok (value, rest) → rest.length < sequence.length

/-- The compact text of a value. -/
def encode {α : Type} [Write α] (value : α) : String :=
  compact (Write.tokens value)

/-- The value that a text spells.  After it only blanks may stand. -/
def decode {α : Type} [Read α] (text : String) : Except Fault α :=
  match Read.read (tokens text.toList) with
  | .ok (value, []) => .ok value
  | .ok (_, _ :: _) => .error .malformed
  | .error fault => .error fault

/-- Refuses the value that comes next as of the wrong type.  If no value begins there the text is
malformed. -/
def refuse {α : Type} (expected : Expected) (sequence : List Token) : Except Fault α :=
  match sequence.head?.bind Token.found? with
  | some found => .error (.mismatch (.type found expected))
  | none => .error .malformed

/-- Refusing gives no value. -/
@[simp] theorem refuse_ne_ok {α : Type} {expected : Expected} {sequence : List Token} {value : α} :
    refuse expected sequence ≠ .ok value := by
  unfold refuse
  split <;> simp

/-! ### Integers and strings -/

/-- Reads an integer of 32 bits.  An integer beyond them is out of range, a float is no integer. -/
def readInt32 : List Token → Reading Int32
  | .number (.integer value) :: rest =>
      match int32? value with
      | some word => .ok (word, rest)
      | none => .error (.mismatch (.range value .int32))
  | sequence => refuse .int32 sequence

instance : Write Int32 where
  tokens value := [.number (.integer value.toInt)]

instance : Read Int32 where
  read := readInt32
  read_shorter := by
    intro sequence value rest read
    unfold readInt32 at read
    split at read
    · split at read
      · simp only [Except.ok.injEq, Prod.mk.injEq] at read
        simp [← read.2]
      · simp at read
    · exact absurd read refuse_ne_ok

/-- Reads a string. -/
def readText : List Token → Reading String
  | .text value :: rest => .ok (value, rest)
  | sequence => refuse .text sequence

instance : Write String where
  tokens value := [.text value]

instance : Read String where
  read := readText
  read_shorter := by
    intro sequence value rest read
    unfold readText at read
    split at read
    · simp only [Except.ok.injEq, Prod.mk.injEq] at read
      simp [← read.2]
    · exact absurd read refuse_ne_ok

/-! ### Absent values -/

/-- Reads `null` as absence and anything else as a value. -/
def readOption {α : Type} [Read α] : List Token → Reading (Option α)
  | .null :: rest => .ok (none, rest)
  | sequence => (Read.read sequence).map fun (value, rest) => (some value, rest)

instance {α : Type} [Write α] : Write (Option α) where
  tokens
    | none => [.null]
    | some value => Write.tokens value

instance {α : Type} [Read α] : Read (Option α) where
  read := readOption
  read_shorter := by
    intro sequence value rest read
    unfold readOption at read
    split at read
    · simp only [Except.ok.injEq, Prod.mk.injEq] at read
      simp [← read.2]
    · cases inner : Read.read (α := α) sequence with
      | error fault => simp [inner, Except.map] at read
      | ok pair =>
          simp only [inner, Except.map, Except.ok.injEq, Prod.mk.injEq] at read
          exact read.2 ▸ Read.read_shorter inner

/-! ### Lists -/

/-- Reads values parted by commas up to the closing bracket, which takes at least one value. -/
def readItems {α : Type} [Read α] (sequence : List Token) : Reading (List α) :=
  match _ : Read.read (α := α) sequence with
  | .error fault => .error fault
  | .ok (value, .closeList :: rest) => .ok ([value], rest)
  | .ok (value, .comma :: rest) =>
      (readItems rest).map fun (values, after) => (value :: values, after)
  | .ok _ => .error .malformed
termination_by sequence.length
decreasing_by
  rename_i read
  have := Read.read_shorter read
  simp only [List.length_cons] at this
  omega

/-- The items of a list take at least their closing bracket. -/
theorem readItems_shorter {α : Type} [Read α] {sequence rest : List Token} {values : List α}
    (read : readItems sequence = .ok (values, rest)) : rest.length < sequence.length := by
  fun_induction readItems (α := α) sequence generalizing values rest with
  | case1 => simp at read
  | case2 sequence value after inner =>
      have := Read.read_shorter inner
      simp only [Except.ok.injEq, Prod.mk.injEq] at read
      simp only [List.length_cons, ← read.2] at *
      omega
  | case3 sequence value after inner inductionHypothesis =>
      have shorter := Read.read_shorter inner
      cases tail : readItems (α := α) after with
      | error fault => simp [tail, Except.map] at read
      | ok pair =>
          have := inductionHypothesis tail
          simp only [tail, Except.map, Except.ok.injEq, Prod.mk.injEq] at read
          simp only [List.length_cons, ← read.2] at *
          omega
  | case4 => simp at read

/-- Reads a list. -/
def readList {α : Type} [Read α] : List Token → Reading (List α)
  | .openList :: .closeList :: rest => .ok ([], rest)
  | .openList :: sequence => readItems sequence
  | sequence => refuse .list sequence

/-- A list takes at least its brackets. -/
theorem readList_shorter {α : Type} [Read α] {sequence rest : List Token} {values : List α}
    (read : readList sequence = .ok (values, rest)) : rest.length < sequence.length := by
  unfold readList at read
  split at read
  · simp only [Except.ok.injEq, Prod.mk.injEq] at read
    simp only [List.length_cons, ← read.2]
    omega
  · exact Nat.lt_succ_of_lt (readItems_shorter read)
  · exact absurd read refuse_ne_ok

/-- Token sequences with a comma between each two. -/
def separate : List (List Token) → List Token
  | [] => []
  | [last] => last
  | item :: items => item ++ .comma :: separate items

instance {α : Type} [Write α] : Write (List α) where
  tokens values := .openList :: separate (values.map Write.tokens) ++ [.closeList]

instance {α : Type} [Read α] : Read (List α) where
  read := readList
  read_shorter := readList_shorter

instance {α : Type} [Write α] : Write (Spread α) where
  tokens spread := Write.tokens spread.toList

instance {α : Type} [Read α] : Read (Spread α) where
  read sequence := (readList sequence).map fun (values, rest) => (.ofList values, rest)
  read_shorter := by
    intro sequence value rest read
    cases inner : readList (α := α) sequence with
    | error fault => simp [inner, Except.map] at read
    | ok pair =>
        simp only [inner, Except.map, Except.ok.injEq, Prod.mk.injEq] at read
        exact read.2 ▸ readList_shorter inner

/-! ### Records -/

/-- The fields of a record in order, each written as its name and value. -/
def record (fields : List (String × List Token)) : List Token :=
  .openRecord ::
    separate (fields.map fun (name, value) => .text name :: .colon :: value) ++ [.closeRecord]

/-! ### Named values -/

/-- Types of a few values, each known by its own name. -/
class Named (α : Type) where
  all : List α
  name : α → String

/-- How a record is refused that should have a name as its only key and begins with a value of
another kind.  Libraries differ in this: to some the key is misspelled, as it is in every record, to
others it is a value of the wrong type.  Both accept the same texts. -/
inductive KeyRule where
  | misspelled
  | mistyped
deriving Repr, DecidableEq

namespace KeyRule

/-- The rule of the readers in use, which call `{[` and `{true: null}` misspelled. -/
def inUse : KeyRule := .misspelled

/-- Refuses what stands in the place of the key. -/
def refuseKey {α : Type} (rule : KeyRule) (sequence : List Token) : Except Fault α :=
  match rule with
  | .misspelled => .error .malformed
  | .mistyped => refuse .variant sequence

@[simp] theorem refuseKey_ne_ok {α : Type} {rule : KeyRule} {sequence : List Token} {value : α} :
    rule.refuseKey sequence ≠ .ok value := by
  cases rule with
  | misspelled => nofun
  | mistyped => exact refuse_ne_ok

end KeyRule

namespace Named

variable {α : Type} [Named α]

/-- The names of all values. -/
def names (α : Type) [Named α] : List String :=
  (all : List α).map name

/-- The value of exactly this name. -/
def ofName? (wanted : String) : Option α :=
  all.find? fun value => name value = wanted

/-- The value of a name, or the mismatch of an unknown one. -/
def ofName (wanted : String) : Except Fault α :=
  match ofName? wanted with
  | some value => .ok value
  | none => .error (.mismatch (.unknownVariant wanted (names α)))

/-- Reads what follows the name in the record form: a colon, `null` and the closing bracket. -/
def readUnit (value : α) : List Token → Reading α
  | .colon :: .null :: .closeRecord :: rest => .ok (value, rest)
  | .colon :: .null :: _ => .error .malformed
  | .colon :: sequence => refuse .unit sequence
  | _ => .error .malformed

/-- Reads a named value: its name as a string, or a record with the name as its only key and `null`
under it. -/
def readBy (rule : KeyRule) : List Token → Reading α
  | .text wanted :: rest => (ofName wanted).map (·, rest)
  | .openRecord :: .text wanted :: rest => (ofName wanted).bind (readUnit · rest)
  | .openRecord :: sequence => rule.refuseKey sequence
  | _ => .error .malformed

/-- A named value takes at least one token. -/
theorem readBy_shorter {rule : KeyRule} {sequence rest : List Token} {value : α}
    (given : readBy rule sequence = .ok (value, rest)) : rest.length < sequence.length := by
  unfold readBy at given
  split at given
  · rename_i wanted _
    cases found : ofName (α := α) wanted with
    | error fault => simp [found, Except.map] at given
    | ok inner =>
        simp only [found, Except.map, Except.ok.injEq, Prod.mk.injEq] at given
        simp [given.2]
  · rename_i wanted _
    cases found : ofName (α := α) wanted with
    | error fault => simp [found, Except.bind] at given
    | ok inner =>
        simp only [found, Except.bind, readUnit] at given
        split at given
        · simp only [Except.ok.injEq, Prod.mk.injEq] at given
          simp only [List.length_cons, ← given.2]
          omega
        · simp at given
        · exact absurd given refuse_ne_ok
        · simp at given
  · exact absurd given KeyRule.refuseKey_ne_ok
  · simp at given

/-- The reader of named values under a rule for keys. -/
@[reducible]
def reader (rule : KeyRule) : Read α where
  read := readBy rule
  read_shorter := readBy_shorter

end Named

end SpreadFlow.Json
