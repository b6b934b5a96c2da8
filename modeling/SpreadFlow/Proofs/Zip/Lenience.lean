/-
Module: SpreadFlow.Proofs.Zip.Lenience
Purpose: What changes for an input when absent slices are taken for empty ones.
Main exports: Zip.Input.fillAbsent, Zip.Input.cut, Zip.lenient_extends_strict
-/
import SpreadFlow.Proofs.Zip.Refill

namespace SpreadFlow.Zip

/-!
An absent slice and an empty one make the same row.  So filling the absent slices of an input
changes neither its rows nor its counts, and leaves nothing to refuse: under either policy the
filled input has the outcome that the input has when nothing is refused.

A refusal names the first absent slice with a partner.  The pairs before it are all present, and
their rows are those that the evaluation without refusals begins with.
-/

/-- The input with every absent slice replaced by a present one without positions. -/
def Input.fillAbsent (input : Input) : Input :=
  ⟨input.positions.map fun values => some (values.getD .empty), input.index⟩

/-- The first slices and the first indices of an input. -/
def Input.cut (input : Input) (count : Nat) : Input :=
  ⟨.ofList (input.positions.toList.take count), .ofList (input.index.toList.take count)⟩

variable {input : Input}

/-! ### Filled inputs -/

theorem mismatch_fillAbsent : input.fillAbsent.mismatch = input.mismatch := by
  simp [Input.mismatch, Input.fillAbsent, Input.paired]

theorem paired_fillAbsent : input.fillAbsent.paired = input.paired := by
  simp [Input.paired, Input.fillAbsent]

theorem pairRow_getD (values : Option (Spread Binary64)) (index : Int32) :
    pairRow (some (values.getD .empty)) index = pairRow values index := by
  cases values with
  | none => rfl
  | some present => rfl

theorem rows_fillAbsent : input.fillAbsent.rows = input.rows := by
  apply Spread.ext
  simp only [Input.rows, Input.fillAbsent, Spread.toList_map, List.zipWith_map_left, pairRow_getD]

theorem not_absentAt_fillAbsent (slice : Nat) : ¬ input.fillAbsent.AbsentAt slice := by
  rintro ⟨-, absent⟩
  rw [Input.fillAbsent, Spread.get?_map] at absent
  simp at absent

theorem not_refuses_fillAbsent (configuration : Configuration) (slice : Nat) :
    ¬ Refuses configuration input.fillAbsent slice := by
  rintro ⟨-, found⟩
  exact not_absentAt_fillAbsent slice (firstAbsent?_eq_some_iff.mp found).1

theorem not_refuses_lenient (slice : Nat) : ¬ Refuses ⟨.empty⟩ input slice := by
  rintro ⟨reject, -⟩
  cases reject

/-- Whatever the policy, the filled input is treated as the input is when nothing is refused. -/
theorem refill_fillAbsent (configuration : Configuration) :
    refill configuration input.fillAbsent = refill ⟨.empty⟩ input := by
  funext output
  rw [refill_of_accepted output (not_refuses_fillAbsent configuration),
    refill_of_accepted output not_refuses_lenient, mismatch_fillAbsent, paired_fillAbsent,
    rows_fillAbsent]

/-- Where nothing is refused the policy makes no difference. -/
theorem refill_lenient_of_accepted {configuration : Configuration}
    (accepted : ∀ slice, ¬ Refuses configuration input slice) :
    refill ⟨.empty⟩ input = refill configuration input := by
  funext output
  rw [refill_of_accepted output accepted, refill_of_accepted output not_refuses_lenient]

/-- An evaluation into a new output ends as one into any output does. -/
theorem evaluate_eq_of_refill_eq {configuration other : Configuration} {first second : Input}
    (same : refill configuration first = refill other second) :
    evaluate configuration first = evaluate other second := by
  rw [evaluate, evaluate, same]

/-! ### Cut inputs -/

/-- The rows of the first pairs are the first rows. -/
theorem rows_cut (count : Nat) :
    (input.cut count).rows = .ofList (input.rows.toList.take count) := by
  apply Spread.ext
  exact List.take_zipWith.symm

theorem paired_cut (count : Nat) : (input.cut count).paired = min count input.paired := by
  simp only [Input.paired, Input.cut, Spread.count, List.length_take]
  omega

theorem absentAt_cut {count slice : Nat} :
    (input.cut count).AbsentAt slice ↔ slice < count ∧ input.AbsentAt slice := by
  rw [Input.AbsentAt, paired_cut, Nat.lt_min, and_assoc, Input.AbsentAt]
  apply and_congr_right
  intro before
  have kept : (input.cut count).positions.get? slice = input.positions.get? slice :=
    List.getElem?_take_of_lt before
  rw [kept]

/-- Before the slice that is refused there is nothing to refuse. -/
theorem not_refuses_cut {configuration : Configuration} {slice : Nat}
    (found : input.firstAbsent? = some slice) (other : Nat) :
    ¬ Refuses configuration (input.cut slice) other := by
  rintro ⟨-, foundInCut⟩
  obtain ⟨before, absent⟩ := absentAt_cut.mp (firstAbsent?_eq_some_iff.mp foundInCut).1
  exact (firstAbsent?_eq_some_iff.mp found).2 other before absent

/-! ### Both policies -/

/-- The row of an absent slice has the index alone. -/
theorem get?_rows_of_absentAt {slice : Nat} (absent : input.AbsentAt slice) :
    ∃ index, input.index.get? slice = some index ∧
      input.rows.get? slice = some (.ofList [decimalText index]) := by
  obtain ⟨values, index, valuesAt, indexAt, rowAt⟩ := get?_rows absent.1
  rw [absent.2] at valuesAt
  cases valuesAt
  exact ⟨index, indexAt, rowAt⟩

/-- Taking absent slices for empty ones gives what either policy gives for the input with empty
slices in their place.  It changes nothing where the strict policy succeeds.  Where that refuses a
slice, the row of the slice has the index alone, and the rows before it are those that the strict
policy gives for the input cut off there. -/
theorem lenient_extends_strict (input : Input) :
    (∀ configuration, refill configuration input.fillAbsent = refill ⟨.empty⟩ input ∧
        evaluate configuration input.fillAbsent = evaluate ⟨.empty⟩ input) ∧
      (∀ rows, (evaluate ⟨.reject⟩ input).result = .ok rows →
        refill ⟨.empty⟩ input = refill ⟨.reject⟩ input ∧
        evaluate ⟨.empty⟩ input = evaluate ⟨.reject⟩ input) ∧
      ∀ absent, (evaluate ⟨.reject⟩ input).result = .error absent →
        ∃ rows index, (evaluate ⟨.empty⟩ input).result = .ok rows ∧
          input.index.get? absent.slice = some index ∧
          rows.get? absent.slice = some (.ofList [decimalText index]) ∧
          (evaluate ⟨.reject⟩ (input.cut absent.slice)).result =
            .ok (.ofList (rows.toList.take absent.slice)) := by
  refine ⟨?_, ?_, ?_⟩
  · intro configuration
    have same : refill configuration input.fillAbsent = refill ⟨.empty⟩ input :=
      refill_fillAbsent configuration
    exact ⟨same, evaluate_eq_of_refill_eq same⟩
  · intro rows evaluated
    have same := refill_lenient_of_accepted (accepted_of_evaluate evaluated)
    exact ⟨same, evaluate_eq_of_refill_eq same⟩
  · intro absent failed
    have found := (result_evaluate_eq_error_iff.mp failed).2
    obtain ⟨index, indexAt, rowAt⟩ := get?_rows_of_absentAt (firstAbsent?_eq_some_iff.mp found).1
    refine ⟨input.rows, index, evaluate_of_accepted not_refuses_lenient, indexAt, rowAt, ?_⟩
    rw [evaluate_of_accepted (not_refuses_cut found), rows_cut]

/-- The second slice is absent and has a partner, the third is absent without one.  Cut before the
second, the input is the same under both policies. -/
theorem lenient_extends_strict_at_gap :
    let input : Input :=
      ⟨.ofList [some (.ofList [⟨0x3ff8000000000000⟩]), none, none], .ofList [1, 2]⟩
    (evaluate ⟨.reject⟩ input).result = .error ⟨1⟩ ∧
      (∃ rows, (evaluate ⟨.empty⟩ input).result = .ok rows ∧
        rows.get? 1 = some (.ofList [decimalText (2 : Int32)]) ∧
        (evaluate ⟨.reject⟩ (input.cut 1)).result = .ok (.ofList (rows.toList.take 1))) ∧
      evaluate ⟨.empty⟩ (input.cut 1) = evaluate ⟨.reject⟩ (input.cut 1) := by
  intro input
  have failed : (evaluate ⟨.reject⟩ input).result = .error ⟨1⟩ := by
    rw [result_evaluate]
    rfl
  obtain ⟨rows, index, lenient, indexAt, rowAt, strictOfCut⟩ :=
    (lenient_extends_strict input).2.2 ⟨1⟩ failed
  cases indexAt
  refine ⟨failed, ⟨rows, lenient, rowAt, strictOfCut⟩, ?_⟩
  exact ((lenient_extends_strict (input.cut 1)).2.1 _ strictOfCut).2

end SpreadFlow.Zip
