/-
Module: SpreadFlow.Proofs.Zip.Agreement
Purpose: All the ways to run the zip node on an input end alike.
Main exports: Zip.EndsAlike, Zip.ends_alike
-/
import Mathlib.Data.Set.List
import SpreadFlow.Proofs.Zip.Refill
import SpreadFlow.Zip.Composed

namespace SpreadFlow.Zip

/-!
An evaluation is its events and its ending.  Refilling an output differs from it in where the rows
go, and each composition in what it makes of the ending: the index is added to the rows, the error
becomes a failure, notes are taken around.  So all of them are said by the events and the ending of
one evaluation, whatever the output held before.
-/

/-- Each way to run the node on the input has the same events and comes to the same ending: the same
rows, or the same absent slice that was refused. -/
structure EndsAlike (configuration : Configuration) (input : Input) (events : List Event)
    (ending : Except AbsentSlice Rows) : Prop where
  evaluated : (node configuration).evaluate input = ⟨events, ending⟩
  /-- The rows replace whatever the output held, and a refusal leaves it. -/
  refilled : ∀ output : Rows, refill configuration input output =
    (⟨events, ending.map fun _ => ()⟩, ending.toOption.getD output)
  /-- Any request from which the input is made, with any use of the request and the rows. -/
  adapted : ∀ {Request Answer : Type} (toInput : Request → Input)
    (toAnswer : Request → Rows → Answer) (request : Request), toInput request = input →
    ((node configuration).adapt toInput toAnswer).evaluate request =
      ⟨events, ending.map (toAnswer request)⟩
  /-- The index is given back as it came, also where the rows are fewer. -/
  withIndex : (withIndex configuration).evaluate input =
    ⟨events, ending.map fun rows => (rows, input.index)⟩
  /-- The counts of the input are noted first.  That of the output is noted last, if there is
  one. -/
  watched : (watched configuration).evaluate input =
    ⟨.inr (.received input.positions.count input.index.count) :: events.map .inl ++
      Node.noted (fun rows : Rows => [.inr (.produced rows.count)]) ending, ending⟩
  /-- The failure ends with the message of the error, and the error is its source. -/
  reported : (reporting configuration).evaluate input =
    ⟨events, ending.mapError fun absent =>
      .caused ("Node `ZipValues` failed: " ++ absent.message) (.plain absent.message)⟩
  ofPresent : ∀ positions, input.positions = positions.map some →
    (node configuration).evaluate (.ofPresent positions input.index) = ⟨events, ending⟩

theorem AbsentSlice.failure_eq (absent : AbsentSlice) :
    absent.failure =
      .caused ("Node `ZipValues` failed: " ++ absent.message) (.plain absent.message) := by
  have named : "Node `" ++ Failure.shortName typeName ++ "` failed: " =
      "Node `ZipValues` failed: " := by
    decide
  change Failure.caused ("Node `" ++ Failure.shortName typeName ++ "` failed: " ++ absent.message) _
    = _
  rw [named]

/-- Slices that are all present are those of positions in which none can be absent. -/
theorem none_not_mem_iff {positions : Spread (Option (Spread Binary64))} :
    none ∉ positions.toList ↔
      ∃ present : Spread (Spread Binary64), positions = present.map some := by
  constructor
  · intro allPresent
    have inRange : positions.toList ∈ Set.range (List.map some) := by
      rw [Set.range_list_map]
      intro slice member
      cases slice with
      | none => exact absurd member allPresent
      | some present => exact ⟨present, rfl⟩
    obtain ⟨present, same⟩ := inRange
    exact ⟨.ofList present, Spread.ext same.symm⟩
  · rintro ⟨present, rfl⟩
    simp

/-- Every composition is told by the events and the ending of a plain evaluation. -/
theorem endsAlike_of_evaluate {configuration : Configuration} {input : Input}
    {events : List Event} {ending : Except AbsentSlice Rows}
    (evaluated : (node configuration).evaluate input = ⟨events, ending⟩)
    (refilled : ∀ output : Rows, refill configuration input output =
      (⟨events, ending.map fun _ => ()⟩, ending.toOption.getD output)) :
    EndsAlike configuration input events ending where
  evaluated := evaluated
  refilled := refilled
  adapted toInput toAnswer request same := by
    rw [Node.evaluate_adapt, same, evaluated]
  withIndex := by
    rw [withIndex, Node.evaluate_adapt, id, evaluated]
  watched := by
    rw [watched, Node.evaluate_observe, Node.evaluate_mapTrace, evaluated]
    rfl
  reported := by
    have lifted : AbsentSlice.failure = fun absent : AbsentSlice =>
        .caused ("Node `ZipValues` failed: " ++ absent.message) (.plain absent.message) :=
      funext AbsentSlice.failure_eq
    rw [reporting, Node.evaluate_mapError, evaluated, lifted]
    rfl
  ofPresent positions same := by
    rw [Input.ofPresent, ← same]
    exact evaluated

/-- Whatever way the node is run on an input, either all of them refuse the same slice or all of
them succeed with the rows of the input, and they log the same.  The way that takes no absent slices
is open to the inputs without one. -/
theorem ends_alike (configuration : Configuration) (input : Input) :
    ((∃ slice, Refuses configuration input slice ∧
        EndsAlike configuration input input.mismatch (.error ⟨slice⟩)) ∨
      ((∀ slice, ¬ Refuses configuration input slice) ∧
        EndsAlike configuration input (input.mismatch ++ [.zipped input.paired])
          (.ok input.rows))) ∧
      (none ∉ input.positions.toList ↔
        ∃ positions : Spread (Spread Binary64), input.positions = positions.map some) := by
  refine ⟨?_, none_not_mem_iff⟩
  rcases evaluate_cases configuration input with ⟨slice, refused, failed⟩ | ⟨accepted, succeeded⟩
  · left
    refine ⟨slice, refused, endsAlike_of_evaluate failed ?_⟩
    intro output
    rw [refill_of_refused output refused]
    rfl
  · right
    refine ⟨accepted, endsAlike_of_evaluate succeeded ?_⟩
    intro output
    rw [refill_of_accepted output accepted]
    rfl

/-- Of two absent slices the first has a partner.  The strict node refuses it in every way, and the
lenient one gives its index alone in every way. -/
theorem ends_alike_at_gap :
    let input : Input := ⟨.ofList [some .empty, none, none], .ofList [4, -5]⟩
    EndsAlike ⟨.reject⟩ input [.dropping 2 3 2] (.error ⟨1⟩) ∧
      EndsAlike ⟨.empty⟩ input [.dropping 2 3 2, .zipped 2]
        (.ok (.ofList [.ofList ["4"], .ofList ["-5"]])) := by
  intro input
  have first : input.firstAbsent? = some 1 := rfl
  have rows : input.rows = .ofList [.ofList ["4"], .ofList ["-5"]] := by decide
  constructor
  · rcases (ends_alike ⟨.reject⟩ input).1 with ⟨slice, refused, alike⟩ | ⟨accepted, -⟩
    · obtain rfl : 1 = slice := Option.some.inj (first.symm.trans refused.2)
      exact alike
    · exact absurd ⟨rfl, first⟩ (accepted 1)
  · rcases (ends_alike ⟨.empty⟩ input).1 with ⟨slice, refused, -⟩ | ⟨-, alike⟩
    · cases refused.1
    · exact rows ▸ alike

end SpreadFlow.Zip
