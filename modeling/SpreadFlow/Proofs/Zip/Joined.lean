/-
Module: SpreadFlow.Proofs.Zip.Joined
Purpose: Rows joined to lines of text are found again in the lines.
Main exports: Zip.IsField, Zip.rowLine, Zip.fields, Zip.fields_rowLine, Zip.joined_splits
-/
import SpreadFlow.Proofs.Decimal.IntegerText
import SpreadFlow.Proofs.Zip.Refill
import SpreadFlow.Zip.Composed

namespace SpreadFlow.Zip

/-!
A line does not tell in general what was joined in it: an empty row and a row of one empty text give
the same line, and a text with a comma looks like two.  Neither comes from the zip node.  Its texts
are those of numbers, which are words or are made of digits, a minus sign and a point, and every row
has at least the text of its index.
-/

/-- A text that commas part from its neighbours. -/
structure IsField (text : String) : Prop where
  nonempty : text ≠ ""
  no_comma : ',' ∉ text.toList

/-- The texts of a row with commas between them. -/
def rowLine (row : Spread String) : String :=
  String.intercalate "," row.toList

/-- The texts between the commas of a line. -/
def fields (line : String) : List String :=
  (line.split ',').toList.map (·.copy)

/-! ### Texts of numbers -/

theorem isField_of_parts {text : String} {parts : Decimal.Parts}
    (written : text.toList = parts.text) : IsField text where
  nonempty := by
    rintro rfl
    have empty := List.append_eq_nil_iff.mp written.symm
    exact parts.isWhole.nonempty (List.append_eq_nil_iff.mp empty.1).2
  no_comma := by
    rw [written]
    intro member
    rcases Decimal.Parts.mem_text member with digit | ⟨minus, -⟩ | ⟨point, -⟩
    · exact absurd digit (by decide)
    · exact absurd minus (by decide)
    · exact absurd point (by decide)

theorem isField_of_mem_words : ∀ word ∈ Binary.words, word.1 ≠ "" ∧ ',' ∉ word.1.toList := by
  decide

theorem isField_binary {format : BinaryFormat} (number : Binary format) :
    IsField (decimalText number) := by
  by_cases finite : number.IsFinite
  · obtain ⟨parts, written, -⟩ := Binary.exists_parts_decimalText finite
    exact isField_of_parts written
  · obtain ⟨nonempty, noComma⟩ := isField_of_mem_words _ (Binary.mem_words finite)
    exact ⟨nonempty, noComma⟩

theorem isField_int32 (index : Int32) : IsField (decimalText index) := by
  have written : (decimalText index).toList = Decimal.integer index.toInt := String.toList_ofList
  exact isField_of_parts (written.trans (Decimal.integer_eq_text index.toInt))

/-! ### Rows -/

/-- The index is in every row, also in that of an absent slice. -/
theorem pairRow_ne_nil (values : Option (Spread Binary64)) (index : Int32) :
    (pairRow values index).toList ≠ [] :=
  List.append_ne_nil_of_right_ne_nil _ (List.cons_ne_nil _ _)

theorem isField_of_mem_pairRow {values : Option (Spread Binary64)} {index : Int32} {text : String}
    (member : text ∈ (pairRow values index).toList) : IsField text := by
  rcases List.mem_append.mp member with position | last
  · cases values with
    | none => cases position
    | some present =>
        obtain ⟨number, -, rfl⟩ := List.mem_map.mp position
        exact isField_binary number
  · rw [List.mem_singleton.mp last]
    exact isField_int32 index

/-- The line of a row has the row's texts between its commas. -/
theorem fields_rowLine {row : Spread String} (nonempty : row.toList ≠ [])
    (allFields : ∀ text ∈ row.toList, IsField text) : fields (rowLine row) = row.toList := by
  have comma : "," = String.singleton ',' := rfl
  have noComma : ∀ text ∈ row.toList, ',' ∉ text.toList :=
    fun text member => (allFields text member).no_comma
  rw [fields, rowLine, comma, String.toList_split_intercalate noComma, if_neg nonempty]

/-! ### Lines -/

/-- Joining cannot fail and logs nothing. -/
theorem evaluate_joined (configuration : Configuration) (input : Input) :
    (joined configuration).evaluate input =
      ⟨(evaluate configuration input).trace,
        (evaluate configuration input).result.map fun rows => rows.map rowLine⟩ := by
  rw [joined, Node.evaluate_andThen, node]
  cases (evaluate configuration input).result with
  | error absent => rfl
  | ok rows =>
      rw [Outcome.mk.injEq]
      exact ⟨List.append_nil _, rfl⟩

/-- The chain fails as the zip node does and logs the same.  Otherwise it has a line for each row,
and the texts between the commas of a line are those of its row. -/
theorem joined_splits (configuration : Configuration) (input : Input) :
    ((∃ absent, (evaluate configuration input).result = .error absent ∧
        ((joined configuration).evaluate input).result = .error absent) ∨
      ∃ rows lines, (evaluate configuration input).result = .ok rows ∧
        ((joined configuration).evaluate input).result = .ok lines ∧
        lines.count = rows.count ∧
        ∀ slot < rows.count, ∃ row line, rows.get? slot = some row ∧
          lines.get? slot = some line ∧ row.toList ≠ [] ∧ fields line = row.toList) ∧
      ((joined configuration).evaluate input).trace = (evaluate configuration input).trace ∧
      (∀ number : Binary64, IsField (decimalText number)) ∧
      ∀ index : Int32, IsField (decimalText index) := by
  rw [evaluate_joined]
  refine ⟨?_, rfl, isField_binary, isField_int32⟩
  rcases evaluate_cases configuration input with ⟨slice, -, refused⟩ | ⟨-, filled⟩
  · left
    rw [refused]
    exact ⟨⟨slice⟩, rfl, rfl⟩
  · right
    rw [filled]
    refine ⟨_, _, rfl, rfl, Spread.count_map _ _, ?_⟩
    intro slot below
    rw [count_rows] at below
    obtain ⟨values, index, -, -, rowAt⟩ := get?_rows below
    refine ⟨_, rowLine (pairRow values index), rowAt, ?_, pairRow_ne_nil values index, ?_⟩
    · rw [Spread.get?_map, rowAt, Option.map_some]
    · exact fields_rowLine (pairRow_ne_nil values index) fun _ => isField_of_mem_pairRow

/-- The rows of two numbers and of an absent slice, each with its index, are found again between the
commas.  The strict node has no lines. -/
theorem joined_splits_at_gap :
    let input : Input :=
      ⟨.ofList [some (.ofList [⟨0xbfe0000000000000⟩, ⟨0x7ff8000000000000⟩]), none], .ofList [4, -5]⟩
    (∃ lines, ((joined ⟨.empty⟩).evaluate input).result = .ok lines ∧ lines.count = 2 ∧
      (∃ line, lines.get? 0 = some line ∧ fields line = ["-0.5", "NaN", "4"]) ∧
      ∃ line, lines.get? 1 = some line ∧ fields line = ["-5"]) ∧
      ((joined ⟨.reject⟩).evaluate input).result = .error ⟨1⟩ := by
  intro input
  have filled : (evaluate ⟨.empty⟩ input).result =
      .ok (.ofList [.ofList ["-0.5", "NaN", "4"], .ofList ["-5"]]) := by decide +kernel
  have refused : (evaluate ⟨.reject⟩ input).result = .error ⟨1⟩ := rfl
  constructor
  · rcases (joined_splits ⟨.empty⟩ input).1 with
      ⟨absent, failed, -⟩ | ⟨rows, lines, same, joined, count, split⟩
    · cases filled.symm.trans failed
    · cases filled.symm.trans same
      obtain ⟨_, first, firstRow, firstLine, -, firstFields⟩ := split 0 (by decide)
      obtain ⟨_, second, secondRow, secondLine, -, secondFields⟩ := split 1 (by decide)
      cases firstRow
      cases secondRow
      exact ⟨lines, joined, count, ⟨first, firstLine, firstFields⟩,
        second, secondLine, secondFields⟩
  · rcases (joined_splits ⟨.reject⟩ input).1 with ⟨absent, failed, joined⟩ | ⟨rows, lines, same, -⟩
    · cases refused.symm.trans failed
      exact joined
    · cases refused.symm.trans same

end SpreadFlow.Zip
