/-
Module: SpreadFlow.Proofs.Zip.Determined
Purpose: How much of its input the output of the zip node determines.
Main exports: Zip.Input.positionsAt, Zip.Input.AgreeAt, Zip.rows_eq_iff_agree,
  Zip.evaluate_determines
-/
import SpreadFlow.Proofs.Decimal.Distinct
import SpreadFlow.Proofs.Zip.Refill

namespace SpreadFlow

namespace Binary

/-- The zero of a sign. -/
def zero (format : BinaryFormat) (negative : Bool) : Binary format :=
  ofCode format negative 0

/-- The two zeros are equal as numbers and told apart by their texts. -/
theorem zero_beq_not_indistinct (negative : Bool) :
    (zero .double negative == zero .double (!negative)) = true ∧
      ¬ (zero .double negative).Indistinct (zero .double (!negative)) := by
  cases negative with
  | false => decide
  | true => decide

end Binary

namespace Zip

open Binary (Indistinct)

/-!
The rows of an input tell how many pairs there are, and each row tells its pair: the last text is
that of the index, the others are those of the positions, one by one.  So the output determines the
pairs up to what texts do not tell, which NaN it was, and up to whether a slice was absent or
empty.  It says nothing about what had no partner.
-/

/-- The positions at a slot.  An absent slice counts as an empty one. -/
def Input.positionsAt (input : Input) (slot : Nat) : List Binary64 :=
  match input.positions.get? slot with
  | some (some present) => present.toList
  | _ => []

/-- At this slot both inputs have the same index and as many positions, none of which its text tells
from the other. -/
structure Input.AgreeAt (first second : Input) (slot : Nat) : Prop where
  index : first.index.get? slot = second.index.get? slot
  positions : List.Forall₂ Indistinct (first.positionsAt slot) (second.positionsAt slot)

/-! ### One row -/

/-- The index stands at the end of a row, so a row is split in one way only. -/
theorem row_eq_iff {first second : List Binary64} {index index' : Int32} :
    first.map decimalText ++ [decimalText index] = second.map decimalText ++ [decimalText index'] ↔
      index = index' ∧ List.Forall₂ Indistinct first second := by
  rw [← Binary.map_decimalText_eq_iff]
  constructor
  · intro same
    obtain ⟨positions, last⟩ := List.append_inj' same
      (List.length_singleton.trans List.length_singleton.symm)
    exact ⟨decimalText_int32_eq_iff.mp (List.cons.inj last).1, positions⟩
  · rintro ⟨rfl, positions⟩
    rw [positions]

/-- The row of a slot is made of its positions and its index. -/
theorem get?_rows_eq {input : Input} {slot : Nat} (below : slot < input.paired) :
    ∃ index, input.index.get? slot = some index ∧
      input.rows.get? slot =
        some (.ofList ((input.positionsAt slot).map decimalText ++ [decimalText index])) := by
  obtain ⟨values, index, valuesAt, indexAt, rowAt⟩ := get?_rows below
  refine ⟨index, indexAt, ?_⟩
  rw [rowAt, Input.positionsAt, valuesAt]
  cases values with
  | none => rfl
  | some present => rfl

/-- Where both inputs have a pair, their rows are equal exactly when they agree. -/
theorem get?_rows_eq_iff {first second : Input} {slot : Nat} (below : slot < first.paired)
    (belowToo : slot < second.paired) :
    first.rows.get? slot = second.rows.get? slot ↔ first.AgreeAt second slot := by
  obtain ⟨index, indexAt, rowAt⟩ := get?_rows_eq below
  obtain ⟨index', indexAt', rowAt'⟩ := get?_rows_eq belowToo
  rw [rowAt, rowAt', Option.some.injEq, Spread.ofList.injEq, row_eq_iff]
  constructor
  · rintro ⟨rfl, positions⟩
    exact ⟨indexAt.trans indexAt'.symm, positions⟩
  · rintro ⟨index, positions⟩
    rw [indexAt, indexAt'] at index
    exact ⟨Option.some.inj index, positions⟩

/-! ### All rows -/

theorem rows_eq_iff_agree {first second : Input} :
    first.rows = second.rows ↔
      first.paired = second.paired ∧ ∀ slot < first.paired, first.AgreeAt second slot := by
  rw [Input.rows_eq_iff]
  apply and_congr_right
  intro paired
  apply forall₂_congr
  intro slot below
  exact get?_rows_eq_iff below (paired ▸ below)

/-- An evaluation that succeeds gives the rows of its input. -/
theorem eq_rows_of_evaluate {configuration : Configuration} {input : Input} {rows : Rows}
    (evaluated : (evaluate configuration input).result = .ok rows) : rows = input.rows := by
  rcases evaluate_cases configuration input with ⟨slice, -, refused⟩ | ⟨-, filled⟩
  · rw [refused] at evaluated
    cases evaluated
  · rw [filled] at evaluated
    exact (Except.ok.inj evaluated).symm

/-- Two evaluations that succeed, under whatever policies, have equal outputs exactly when they pair
as many slices and agree at each of them.  The two zeros, which are equal as numbers, always make a
difference, and all that the text of a number leaves open is which NaN it was. -/
theorem evaluate_determines {configuration other : Configuration} {first second : Input}
    {rows otherRows : Rows} (evaluated : (evaluate configuration first).result = .ok rows)
    (evaluatedToo : (evaluate other second).result = .ok otherRows) :
    (rows = otherRows ↔
        first.paired = second.paired ∧ ∀ slot < first.paired, first.AgreeAt second slot) ∧
      (∀ negative, (Binary.zero .double negative == Binary.zero .double (!negative)) = true ∧
        ∀ slot < first.paired, ∀ place : Nat,
          (first.positionsAt slot)[place]? = some (Binary.zero .double negative) →
          (second.positionsAt slot)[place]? = some (Binary.zero .double (!negative)) →
          rows ≠ otherRows) ∧
      ∀ number number' : Binary64,
        decimalText number = decimalText number' ↔ number.Indistinct number' := by
  rw [eq_rows_of_evaluate evaluated, eq_rows_of_evaluate evaluatedToo]
  refine ⟨rows_eq_iff_agree, fun negative => ?_, fun _ _ => Binary.decimalText_eq_iff⟩
  obtain ⟨equal, apart⟩ := Binary.zero_beq_not_indistinct negative
  refine ⟨equal, fun slot below place here there same => apart ?_⟩
  have agree := ((rows_eq_iff_agree.mp same).2 slot below).positions
  obtain ⟨inside, here⟩ := List.getElem?_eq_some_iff.mp here
  obtain ⟨insideToo, there⟩ := List.getElem?_eq_some_iff.mp there
  rw [← here, ← there]
  exact agree.get inside insideToo

/-- Two different NaNs, and a slice that is absent in one input and empty in the other, make no
difference, and neither does a slice without a partner.  A zero of the other sign does. -/
theorem evaluate_determines_nan_and_zero :
    let lenient : Input :=
      ⟨.ofList [some (.ofList [⟨0x7ff8000000000001⟩, .zero .double false]), none], .ofList [1, 2]⟩
    let strict : Input :=
      ⟨.ofList [some (.ofList [⟨0xfff0000000000002⟩, .zero .double false]), some .empty, none],
        .ofList [1, 2]⟩
    let signed : Input :=
      ⟨.ofList [some (.ofList [⟨0x7ff8000000000001⟩, .zero .double true]), none], .ofList [1, 2]⟩
    (evaluate ⟨.empty⟩ lenient).result = .ok lenient.rows ∧
      (evaluate ⟨.reject⟩ strict).result = .ok strict.rows ∧
      (evaluate ⟨.empty⟩ signed).result = .ok signed.rows ∧
      lenient.rows = strict.rows ∧ lenient.rows ≠ signed.rows := by
  intro lenient strict signed
  have isLenient (input : Input) : (evaluate ⟨.empty⟩ input).result = .ok input.rows := by
    apply evaluate_of_accepted
    rintro slice ⟨reject, -⟩
    cases reject
  have isStrict : (evaluate ⟨.reject⟩ strict).result = .ok strict.rows := by
    have present : strict.firstAbsent? = none := by decide
    apply evaluate_of_accepted
    rintro slice ⟨-, absent⟩
    rw [present] at absent
    cases absent
  refine ⟨isLenient lenient, isStrict, isLenient signed, ?_, ?_⟩
  · refine (evaluate_determines (isLenient lenient) isStrict).1.mpr ⟨rfl, ?_⟩
    intro slot below
    match slot, below with
    | 0, _ => exact ⟨rfl, .cons (.inr (by decide)) (.cons (.inl rfl) .nil)⟩
    | 1, _ => exact ⟨rfl, .nil⟩
  · have apart := (evaluate_determines (isLenient lenient) (isLenient signed)).2.1 false
    exact apart.2 0 (by decide) 1 rfl rfl

end Zip

end SpreadFlow
