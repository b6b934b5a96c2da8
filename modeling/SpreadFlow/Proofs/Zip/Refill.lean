/-
Module: SpreadFlow.Proofs.Zip.Refill
Purpose: What an evaluation of the zip node makes of an output that held something before, and when
  it refuses its input.
Main exports: Zip.pairRow, Zip.Input.rows, Zip.Input.AbsentAt, Zip.Input.SamePairs, Zip.refused?,
  Zip.refill_cases, Zip.evaluate_cases, Zip.result_evaluate, Zip.refill_overwrites,
  Zip.refill_refuses_iff
-/
import SpreadFlow.Zip.Basic

namespace SpreadFlow.Zip

/-!
The rows of an input are said without any output: one for each pair, and nothing else.  Refilling
agrees with them whatever the output held, because the resized output has a row for every pair and
each row is cleared before it is filled.

An evaluation therefore has two endings only.  Either a slice that has a partner is absent and
refused, and the output is the one that was lent, or the output is the rows of the input.
-/

/-- The row of a pair: the texts of the positions in order, none of them for an absent slice, and
then the text of the index. -/
def pairRow (values : Option (Spread Binary64)) (index : Int32) : Spread String :=
  .ofList ((values.elim [] fun present => present.toList.map decimalText) ++ [decimalText index])

/-- The rows of all pairs. -/
def Input.rows (input : Input) : Rows :=
  .ofList (List.zipWith pairRow input.positions.toList input.index.toList)

/-- The slice has a partner and is absent. -/
def Input.AbsentAt (input : Input) (slice : Nat) : Prop :=
  slice < input.paired ∧ input.positions.get? slice = some none

/-- Both inputs have the same pairs.  What has no partner may differ. -/
structure Input.SamePairs (first second : Input) : Prop where
  paired : first.paired = second.paired
  positions : ∀ slot < first.paired, first.positions.get? slot = second.positions.get? slot
  index : ∀ slot < first.paired, first.index.get? slot = second.index.get? slot

/-- The event of inputs that differ in length, if they do. -/
def Input.mismatch (input : Input) : List Event :=
  if input.positions.count = input.index.count then []
  else [.dropping input.paired input.positions.count input.index.count]

/-! ### The rows of an input -/

@[simp] theorem count_rows (input : Input) : input.rows.count = input.paired := by
  simp [Input.rows, Input.paired, Spread.count]

/-- Below the paired count there is a pair, and its row stands at its place. -/
theorem get?_rows {input : Input} {slot : Nat} (below : slot < input.paired) :
    ∃ values index, input.positions.get? slot = some values ∧
      input.index.get? slot = some index ∧
      input.rows.get? slot = some (pairRow values index) := by
  have both : slot < input.positions.toList.length ∧ slot < input.index.toList.length :=
    Nat.lt_min.mp below
  refine ⟨input.positions.toList[slot], input.index.toList[slot], ?_, ?_, ?_⟩
  · exact List.getElem?_eq_getElem both.1
  · exact List.getElem?_eq_getElem both.2
  · change (List.zipWith pairRow input.positions.toList input.index.toList)[slot]? = _
    rw [List.getElem?_zipWith, List.getElem?_eq_getElem both.1, List.getElem?_eq_getElem both.2]

/-- Rows are equal when there are as many and they are equal one by one. -/
theorem Input.rows_eq_iff {first second : Input} :
    first.rows = second.rows ↔
      first.paired = second.paired ∧
        ∀ slot < first.paired, first.rows.get? slot = second.rows.get? slot := by
  constructor
  · intro same
    refine ⟨?_, fun slot _ => by rw [same]⟩
    rw [← count_rows, same, count_rows]
  · rintro ⟨paired, same⟩
    apply Spread.ext
    apply List.ext_getElem?
    intro slot
    by_cases below : slot < first.paired
    · exact same slot below
    · have past : first.rows.count ≤ slot := by
        rw [count_rows]
        exact Nat.le_of_not_lt below
      have past' : second.rows.count ≤ slot := by
        rw [count_rows, ← paired]
        exact Nat.le_of_not_lt below
      rw [List.getElem?_eq_none past, List.getElem?_eq_none past']

/-- Inputs with the same pairs have the same rows. -/
theorem Input.SamePairs.rows_eq {first second : Input} (same : first.SamePairs second) :
    first.rows = second.rows := by
  refine Input.rows_eq_iff.mpr ⟨same.paired, ?_⟩
  intro slot below
  obtain ⟨values, index, valuesAt, indexAt, rowAt⟩ := get?_rows below
  obtain ⟨values', index', valuesAt', indexAt', rowAt'⟩ := get?_rows (same.paired ▸ below)
  rw [same.positions slot below, valuesAt'] at valuesAt
  rw [same.index slot below, indexAt'] at indexAt
  cases valuesAt
  cases indexAt
  rw [rowAt, rowAt']

/-! ### Refilling -/

/-- Nothing of what a row held is left in it. -/
theorem refillRow_eq_pairRow (row : Spread String) (values : Option (Spread Binary64))
    (index : Int32) : refillRow row values index = pairRow values index := by
  cases values with
  | none => rfl
  | some present => rfl

/-- The resized output has a row for every pair, so it decides nothing. -/
theorem refillRows_eq_rows (input : Input) (output : Rows) :
    refillRows input output = input.rows := by
  have rowsLength : (output.resize input.paired).toList.length = input.paired :=
    Spread.count_resize output input.paired
  have pairsLength :
      (input.positions.toList.zip input.index.toList).length = input.paired := by
    simp [Input.paired, Spread.count]
  apply Spread.ext
  apply List.ext_getElem
  · simp only [refillRows, Input.rows, List.length_zipWith, rowsLength, pairsLength]
    simp [Input.paired, Spread.count]
  · intro slot _ _
    simp [refillRows, Input.rows, refillRow_eq_pairRow]

/-! ### Absent slices -/

theorem absentAt_iff {input : Input} {slice : Nat} :
    input.AbsentAt slice ↔ (input.positions.toList.take input.paired)[slice]? = some none := by
  rw [List.getElem?_take, Input.AbsentAt, Spread.get?]
  by_cases below : slice < input.paired
  · simp [below]
  · simp [below]

/-- The slice that is reported is the least that has a partner and is absent. -/
theorem firstAbsent?_eq_some_iff {input : Input} {slice : Nat} :
    input.firstAbsent? = some slice ↔
      input.AbsentAt slice ∧ ∀ earlier < slice, ¬ input.AbsentAt earlier := by
  simp only [absentAt_iff, Input.firstAbsent?, List.findIdx?_eq_some_iff_getElem,
    Option.isNone_iff_eq_none]
  constructor
  · rintro ⟨inside, absent, least⟩
    refine ⟨by rw [List.getElem?_eq_getElem inside, absent], ?_⟩
    intro earlier before absentBefore
    rw [List.getElem?_eq_getElem (Nat.lt_trans before inside)] at absentBefore
    exact least earlier before (Option.some.inj absentBefore)
  · rintro ⟨absent, least⟩
    obtain ⟨inside, absentHere⟩ := List.getElem?_eq_some_iff.mp absent
    refine ⟨inside, absentHere, ?_⟩
    intro earlier before absentBefore
    apply least earlier before
    rw [List.getElem?_eq_getElem (Nat.lt_trans before inside), absentBefore]

theorem firstAbsent?_eq_none_iff {input : Input} :
    input.firstAbsent? = none ↔ ∀ slice, ¬ input.AbsentAt slice := by
  simp only [absentAt_iff, Input.firstAbsent?, List.findIdx?_eq_none_iff]
  constructor
  · intro present slice absent
    have isPresent := present none (List.mem_of_getElem? absent)
    simp at isPresent
  · intro never value member
    obtain ⟨slice, found⟩ := List.mem_iff_getElem?.mp member
    cases value with
    | none => exact absurd found (never slice)
    | some present => rfl

/-- Inputs with the same pairs have the same first absent slice. -/
theorem Input.SamePairs.firstAbsent?_eq {first second : Input} (same : first.SamePairs second) :
    first.firstAbsent? = second.firstAbsent? := by
  have taken : first.positions.toList.take first.paired =
      second.positions.toList.take second.paired := by
    apply List.ext_getElem?
    intro slot
    rw [List.getElem?_take, List.getElem?_take, ← same.paired]
    by_cases below : slot < first.paired
    · simpa [below, Spread.get?] using same.positions slot below
    · simp [below]
  rw [Input.firstAbsent?, Input.firstAbsent?, taken]

/-! ### The two endings of an evaluation -/

/-- The configuration refuses the input at this slice. -/
def Refuses (configuration : Configuration) (input : Input) (slice : Nat) : Prop :=
  configuration.absentPositions = .reject ∧ input.firstAbsent? = some slice

/-- Everything an evaluation can do: it is refused and has touched nothing, or it leaves the rows
of the input. -/
theorem refill_cases (configuration : Configuration) (input : Input) (output : Rows) :
    (∃ slice, Refuses configuration input slice ∧
      refill configuration input output = (⟨input.mismatch, .error ⟨slice⟩⟩, output)) ∨
    ((∀ slice, ¬ Refuses configuration input slice) ∧
      refill configuration input output =
        (⟨input.mismatch ++ [.zipped input.paired], .ok ()⟩, input.rows)) := by
  -- Only under `reject` is it asked whether a slice is absent.
  rw [← refillRows_eq_rows input output]
  cases policy : configuration.absentPositions with
  | reject =>
      cases absent : input.firstAbsent? with
      | some slice =>
          left
          exact ⟨slice, ⟨policy, absent⟩, by simp only [refill, policy, absent, Input.mismatch]⟩
      | none =>
          right
          refine ⟨?_, by simp only [refill, policy, absent, Input.mismatch]⟩
          rintro slice ⟨-, found⟩
          rw [absent] at found
          cases found
  | empty =>
      right
      refine ⟨?_, by simp only [refill, policy, Input.mismatch]⟩
      rintro slice ⟨refused, -⟩
      rw [policy] at refused
      cases refused

/-- Without a refusal the output is the rows of the input. -/
theorem refill_of_accepted {configuration : Configuration} {input : Input} (output : Rows)
    (accepted : ∀ slice, ¬ Refuses configuration input slice) :
    refill configuration input output =
      (⟨input.mismatch ++ [.zipped input.paired], .ok ()⟩, input.rows) := by
  rcases refill_cases configuration input output with ⟨slice, refused, -⟩ | ⟨-, filled⟩
  · exact absurd refused (accepted slice)
  · exact filled

/-- A refusal names the slice and leaves the output. -/
theorem refill_of_refused {configuration : Configuration} {input : Input} {slice : Nat}
    (output : Rows) (refused : Refuses configuration input slice) :
    refill configuration input output = (⟨input.mismatch, .error ⟨slice⟩⟩, output) := by
  rcases refill_cases configuration input output with ⟨other, refusedToo, untouched⟩ | ⟨accepted, -⟩
  · cases refused.2.symm.trans refusedToo.2
    exact untouched
  · exact absurd refused (accepted slice)

/-- An evaluation into a new output has the same endings and gives the rows away. -/
theorem evaluate_cases (configuration : Configuration) (input : Input) :
    (∃ slice, Refuses configuration input slice ∧
      evaluate configuration input = ⟨input.mismatch, .error ⟨slice⟩⟩) ∨
    ((∀ slice, ¬ Refuses configuration input slice) ∧
      evaluate configuration input =
        ⟨input.mismatch ++ [.zipped input.paired], .ok input.rows⟩) := by
  rcases refill_cases configuration input .empty with
    ⟨slice, refused, untouched⟩ | ⟨accepted, filled⟩
  · left
    refine ⟨slice, refused, ?_⟩
    rw [evaluate, untouched]
    rfl
  · right
    refine ⟨accepted, ?_⟩
    rw [evaluate, filled]
    simp only [Outcome.bind, Outcome.ok, List.append_nil]

/-- The slice that is refused, if there is one. -/
def refused? (configuration : Configuration) (input : Input) : Option Nat :=
  match configuration.absentPositions with
  | .reject => input.firstAbsent?
  | .empty => none

theorem refused?_eq_some_iff {configuration : Configuration} {input : Input} {slice : Nat} :
    refused? configuration input = some slice ↔ Refuses configuration input slice := by
  rw [refused?, Refuses]
  cases configuration.absentPositions with
  | reject => simp
  | empty => simp

/-- What is refused decides between the two endings. -/
theorem result_evaluate (configuration : Configuration) (input : Input) :
    (evaluate configuration input).result =
      match refused? configuration input with
      | some slice => .error ⟨slice⟩
      | none => .ok input.rows := by
  rcases evaluate_cases configuration input with ⟨slice, refused, failed⟩ | ⟨accepted, succeeded⟩
  · rw [failed, refused?_eq_some_iff.mpr refused]
  · have none : refused? configuration input = none :=
      Option.eq_none_iff_forall_ne_some.mpr fun slice found =>
        accepted slice (refused?_eq_some_iff.mp found)
    rw [succeeded, none]

/-- An evaluation into a new output gives the rows of the input unless it is refused. -/
theorem evaluate_of_accepted {configuration : Configuration} {input : Input}
    (accepted : ∀ slice, ¬ Refuses configuration input slice) :
    (evaluate configuration input).result = .ok input.rows := by
  rcases evaluate_cases configuration input with ⟨slice, refused, -⟩ | ⟨-, evaluated⟩
  · exact absurd refused (accepted slice)
  · rw [evaluated]

/-- An evaluation fails with what is refused. -/
theorem result_evaluate_eq_error_iff {configuration : Configuration} {input : Input}
    {absent : AbsentSlice} :
    (evaluate configuration input).result = .error absent ↔
      Refuses configuration input absent.slice := by
  rw [result_evaluate, ← refused?_eq_some_iff]
  cases refused? configuration input with
  | none => simp
  | some slice =>
      obtain ⟨other⟩ := absent
      simp

/-- An evaluation that succeeded refused nothing. -/
theorem accepted_of_evaluate {configuration : Configuration} {input : Input} {rows : Rows}
    (evaluated : (evaluate configuration input).result = .ok rows) (slice : Nat) :
    ¬ Refuses configuration input slice := by
  intro refused
  have failed : (evaluate configuration input).result = .error ⟨slice⟩ :=
    result_evaluate_eq_error_iff.mpr refused
  rw [failed] at evaluated
  cases evaluated

/-- A success was no refusal. -/
theorem accepted_of_success {configuration : Configuration} {input : Input} {output : Rows}
    (success : (refill configuration input output).1.result = .ok ()) :
    ∀ slice, ¬ Refuses configuration input slice := by
  rcases refill_cases configuration input output with ⟨slice, -, untouched⟩ | ⟨accepted, -⟩
  · rw [untouched] at success
    cases success
  · exact accepted

/-- A refusal depends on the pairs only. -/
theorem Input.SamePairs.refuses_iff {first second : Input} (same : first.SamePairs second)
    (configuration : Configuration) (slice : Nat) :
    Refuses configuration first slice ↔ Refuses configuration second slice := by
  rw [Refuses, Refuses, same.firstAbsent?_eq]

/-- There is a refusal exactly when the policy asks for it and a slice with a partner is absent. -/
theorem exists_refuses_iff {configuration : Configuration} {input : Input} :
    (∃ slice, Refuses configuration input slice) ↔
      configuration.absentPositions = .reject ∧ ∃ slice, input.AbsentAt slice := by
  constructor
  · rintro ⟨slice, reject, found⟩
    exact ⟨reject, slice, (firstAbsent?_eq_some_iff.mp found).1⟩
  · rintro ⟨reject, slice, absent⟩
    cases found : input.firstAbsent? with
    | none => exact absurd absent (firstAbsent?_eq_none_iff.mp found slice)
    | some first => exact ⟨first, reject, found⟩

/-- A successful evaluation leaves one row for each pair, made of that pair alone.  What the output
held before and what has no partner in the input change nothing. -/
theorem refill_overwrites {configuration : Configuration} {input : Input} {output : Rows}
    (success : (refill configuration input output).1.result = .ok ()) :
    (refill configuration input output).2.count =
        min input.positions.count input.index.count ∧
      (∀ slot < min input.positions.count input.index.count, ∃ values index,
        input.positions.get? slot = some values ∧ input.index.get? slot = some index ∧
        (refill configuration input output).2.get? slot = some (pairRow values index)) ∧
      ∀ (changed : Input) (other : Rows), input.SamePairs changed →
        (refill configuration changed other).1.result = .ok () ∧
        (refill configuration changed other).2 = (refill configuration input output).2 := by
  have accepted := accepted_of_success success
  rw [refill_of_accepted output accepted]
  refine ⟨count_rows input, fun slot below => get?_rows below, ?_⟩
  intro changed other same
  have acceptedToo : ∀ slice, ¬ Refuses configuration changed slice := by
    intro slice
    rw [← same.refuses_iff configuration slice]
    exact accepted slice
  rw [refill_of_accepted other acceptedToo]
  exact ⟨rfl, same.rows_eq.symm⟩

/-- An output with more and longer rows than the input has pairs, and an absent slice without a
partner. -/
theorem refill_overwrites_longer_output :
    let input : Input := ⟨.ofList [some (.ofList [⟨0x4000000000000000⟩]), some .empty, none],
      .ofList [8, 9]⟩
    let output : Rows := .ofList
      [.ofList ["stale", "x"], .ofList ["stale"], .ofList ["a", "b", "c"], .empty]
    (refill {} input output).1.result = .ok () ∧
      (refill {} input output).2.count = 2 ∧
      (refill {} input output).2.get? 1 = some (.ofList [decimalText (9 : Int32)]) ∧
      (refill {} input output).2 = (refill {} input .empty).2 := by
  intro input output
  have success : (refill {} input output).1.result = .ok () := rfl
  obtain ⟨count, rows, unchanged⟩ := refill_overwrites success
  obtain ⟨values, index, valuesAt, indexAt, rowAt⟩ := rows 1 (by decide)
  cases valuesAt
  cases indexAt
  have repeated := unchanged input .empty ⟨rfl, fun _ _ => rfl, fun _ _ => rfl⟩
  exact ⟨success, count, rowAt, repeated.2.symm⟩

/-- The records that a length mismatch leaves in the log. -/
def Input.mismatchRecords (input : Input) : List Log.Record :=
  if input.positions.count = input.index.count then []
  else
    [{ level := .debug
       message :=
        "zipping " ++ toString input.paired ++ " slices, dropping the rest of "
          ++ toString input.positions.count ++ " positions and "
          ++ toString input.index.count ++ " indices" }]

theorem map_record_mismatch (input : Input) :
    input.mismatch.map Event.record = input.mismatchRecords := by
  by_cases same : input.positions.count = input.index.count
  · simp [Input.mismatch, Input.mismatchRecords, same]
  · simp [Input.mismatch, Input.mismatchRecords, same, Event.record]

/-- An evaluation fails exactly when the policy refuses absent slices and one with a partner is
absent.  It then names the first, leaves the output alone and logs at most the mismatch.  A success
logs the number of pairs after that. -/
theorem refill_refuses_iff (configuration : Configuration) (input : Input) (output : Rows) :
    ((∃ error, (refill configuration input output).1.result = .error error) ↔
        configuration.absentPositions = .reject ∧ ∃ slice, input.AbsentAt slice) ∧
      (∀ error, (refill configuration input output).1.result = .error error →
        (input.AbsentAt error.slice ∧ ∀ earlier < error.slice, ¬ input.AbsentAt earlier) ∧
        (refill configuration input output).2 = output ∧
        (refill configuration input output).1.trace.map Event.record = input.mismatchRecords) ∧
      ((refill configuration input output).1.result = .ok () →
        (refill configuration input output).1.trace.map Event.record =
          input.mismatchRecords ++
            [{ level := .trace, message := "zipped " ++ toString input.paired ++ " slices" }]) ∧
      (configuration.absentPositions = .empty ∨ (∀ slice, ¬ input.AbsentAt slice) →
        (refill configuration input output).1.result = .ok ()) := by
  rw [← exists_refuses_iff]
  rcases refill_cases configuration input output with
    ⟨slice, refused, untouched⟩ | ⟨accepted, filled⟩
  · rw [untouched]
    refine ⟨⟨fun _ => ⟨slice, refused⟩, fun _ => ⟨⟨slice⟩, rfl⟩⟩, ?_, ?_, ?_⟩
    · intro error failed
      cases failed
      exact ⟨firstAbsent?_eq_some_iff.mp refused.2, rfl, map_record_mismatch input⟩
    · intro success
      cases success
    · rintro (empty | never)
      · rw [refused.1] at empty
        cases empty
      · exact absurd (firstAbsent?_eq_some_iff.mp refused.2).1 (never slice)
  · rw [filled]
    refine ⟨⟨?_, fun ⟨slice, refused⟩ => absurd refused (accepted slice)⟩, ?_, ?_, fun _ => rfl⟩
    · rintro ⟨error, failed⟩
      cases failed
    · intro error failed
      cases failed
    · intro _
      rw [List.map_append, map_record_mismatch]
      rfl

end SpreadFlow.Zip
