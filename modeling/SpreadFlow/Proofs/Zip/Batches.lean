/-
Module: SpreadFlow.Proofs.Zip.Batches
Purpose: An input evaluated in two batches has the rows of both, and a refusal has its place in the
  whole.
Main exports: Zip.Input.append, Zip.rows_append, Zip.refused?_append, Zip.evaluate_append
-/
import SpreadFlow.Proofs.Zip.Refill

namespace SpreadFlow.Zip

/-!
Where the first batch has as many slices as indices, no slice of it meets an index of the second.
Then the pairs of the whole are those of the first batch and, moved by its length, those of the
second.  Both the rows and the search for an absent slice go over the pairs in order, so each of
them is split at the same place.
-/

/-- One input and then another. -/
def Input.append (first second : Input) : Input :=
  ⟨first.positions.append second.positions.toList, first.index.append second.index.toList⟩

/-! ### Pairs of the whole -/

section

variable {first second : Input}

/-- With as many slices as indices every one has a partner. -/
theorem paired_of_even (even : first.positions.count = first.index.count) :
    first.paired = first.positions.count := by
  rw [Input.paired, even, Nat.min_self]

theorem paired_append (even : first.positions.count = first.index.count) :
    (first.append second).paired = first.positions.count + second.paired := by
  have positions : (first.append second).positions.count =
      first.positions.count + second.positions.count := List.length_append
  have index : (first.append second).index.count = first.index.count + second.index.count :=
    List.length_append
  rw [Input.paired, positions, index, ← even, Nat.add_min_add_left, Input.paired]

/-- The rows of the first batch and then those of the second. -/
theorem rows_append (even : first.positions.count = first.index.count) :
    (first.append second).rows = first.rows.append second.rows.toList := by
  apply Spread.ext
  exact List.zipWith_append even

/-- An absent slice of the first batch comes first.  One of the second comes after all its
slices. -/
theorem firstAbsent?_append (even : first.positions.count = first.index.count) :
    (first.append second).firstAbsent? =
      first.firstAbsent?.or (second.firstAbsent?.map (· + first.positions.count)) := by
  have whole : first.positions.toList.take first.paired = first.positions.toList := by
    rw [paired_of_even even]
    exact List.take_length
  have taken : (first.append second).positions.toList.take (first.append second).paired =
      first.positions.toList ++ second.positions.toList.take second.paired := by
    rw [paired_append even]
    exact List.take_length_add_append _
  rw [Input.firstAbsent?, taken, List.findIdx?_append, Input.firstAbsent?, whole,
    Input.firstAbsent?]
  rfl

theorem refused?_append (configuration : Configuration)
    (even : first.positions.count = first.index.count) :
    refused? configuration (first.append second) =
      (refused? configuration first).or
        ((refused? configuration second).map (· + first.positions.count)) := by
  rw [refused?, refused?, refused?]
  cases configuration.absentPositions with
  | reject => exact firstAbsent?_append even
  | empty => rfl

end

/-- Two batches of which the first has as many slices as indices succeed together exactly if each of
them does, with the rows of both.  Otherwise the whole refuses what the first refuses, or what the
second does if the first refuses nothing, at its place in the whole. -/
theorem evaluate_append (configuration : Configuration) {first second : Input}
    (even : first.positions.count = first.index.count) :
    ((∃ rows, (evaluate configuration (first.append second)).result = .ok rows) ↔
        (∃ rows, (evaluate configuration first).result = .ok rows) ∧
        ∃ rows, (evaluate configuration second).result = .ok rows) ∧
      (evaluate configuration (first.append second)).result =
        match (evaluate configuration first).result, (evaluate configuration second).result with
        | .ok rows, .ok further => .ok (rows.append further.toList)
        | .error absent, _ => .error absent
        | .ok _, .error absent => .error ⟨absent.slice + first.positions.count⟩ := by
  rw [result_evaluate, result_evaluate, result_evaluate, refused?_append configuration even]
  cases refused? configuration first with
  | some slice => simp
  | none =>
      cases refused? configuration second with
      | some slice => simp
      | none => simp [rows_append even]

/-- A second batch in which a slice is refused and another has no partner.  The policy that refuses
nothing gives the rows of both batches. -/
theorem evaluate_append_refused_later :
    let first : Input :=
      ⟨.ofList [some (.ofList [⟨0x3ff8000000000000⟩]), some .empty], .ofList [1, 2]⟩
    let second : Input := ⟨.ofList [some .empty, none, none], .ofList [3, 4]⟩
    first.positions.count = first.index.count ∧
      (evaluate ⟨.reject⟩ first).result = .ok first.rows ∧
      (evaluate ⟨.reject⟩ second).result = .error ⟨1⟩ ∧
      (evaluate ⟨.reject⟩ (first.append second)).result = .error ⟨3⟩ ∧
      (evaluate ⟨.empty⟩ (first.append second)).result =
        .ok (first.rows.append second.rows.toList) := by
  intro first second
  have even : first.positions.count = first.index.count := rfl
  have accepted (configuration : Configuration)
      (nothing : refused? configuration first = none) :
      (evaluate configuration first).result = .ok first.rows := by
    rw [result_evaluate, nothing]
  have refused : (evaluate ⟨.reject⟩ second).result = .error ⟨1⟩ := by
    rw [result_evaluate]
    rfl
  have lenient : (evaluate ⟨.empty⟩ second).result = .ok second.rows := by
    rw [result_evaluate]
    rfl
  refine ⟨even, accepted ⟨.reject⟩ rfl, refused, ?_, ?_⟩
  · rw [(evaluate_append ⟨.reject⟩ even).2, accepted ⟨.reject⟩ rfl, refused]
    rfl
  · rw [(evaluate_append ⟨.empty⟩ even).2, accepted ⟨.empty⟩ rfl, lenient]

end SpreadFlow.Zip
