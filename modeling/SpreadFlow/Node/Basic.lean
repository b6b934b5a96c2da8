/-
Module: SpreadFlow.Node.Basic
Purpose: Nodes and the four ways to build a node from others.
Main exports: Node, Node.andThen, Node.adapt, Node.mapError, Node.observe
-/
import SpreadFlow.Outcome

namespace SpreadFlow

/-!
A node takes an input to an output or an error, and may be observed while it does.  Nodes are built
from nodes by chaining, by adapting input and output, by mapping errors, and by observing.
-/

/-- A function that may fail and that may be observed. -/
@[ext]
structure Node (ω ε α β : Type) where
  evaluate : α → Outcome ω ε β

namespace Node

variable {ω ω' ε ε' α α' β β' γ : Type}

/-- The second node on the output of the first. -/
def andThen (first : Node ω ε α β) (second : Node ω ε β γ) : Node ω ε α γ where
  evaluate input := do
    let middle ← first.evaluate input
    second.evaluate middle

/-- A node for other types: `toInner` makes its input, and `toOuter` makes the output from the
outer input and the node's output. -/
def adapt (toInner : α' → α) (toOuter : α' → β → β') (inner : Node ω ε α β) :
    Node ω ε α' β' where
  evaluate input := do
    let output ← inner.evaluate (toInner input)
    pure (toOuter input output)

/-- A node with another type of errors. -/
def mapError (change : ε → ε') (inner : Node ω ε α β) : Node ω ε' α β where
  evaluate input := (inner.evaluate input).mapError change

/-- A node that is observed before it runs and, if it succeeds, after. -/
def observe (before : α → List ω) (after : β → List ω) (inner : Node ω ε α β) : Node ω ε α β where
  evaluate input := do
    Outcome.emit (before input)
    let output ← inner.evaluate input
    Outcome.emit (after output)
    pure output

/-- A node whose observations are of another type. -/
def mapTrace (change : ω → ω') (inner : Node ω ε α β) : Node ω' ε α β where
  evaluate input := (inner.evaluate input).mapTrace change

/-- What an observer notes after an evaluation.  It is nothing if the evaluation failed. -/
def noted (after : β → List ω) : Except ε β → List ω
  | .ok output => after output
  | .error _ => []

/-- A chain ends with the first node's error, or with what the second makes of the first's
output. -/
theorem evaluate_andThen (first : Node ω ε α β) (second : Node ω ε β γ) (input : α) :
    (first.andThen second).evaluate input =
      match (first.evaluate input).result with
      | .error error => ⟨(first.evaluate input).trace, .error error⟩
      | .ok middle =>
          ⟨(first.evaluate input).trace ++ (second.evaluate middle).trace,
            (second.evaluate middle).result⟩ := rfl

theorem evaluate_mapError (change : ε → ε') (inner : Node ω ε α β) (input : α) :
    (inner.mapError change).evaluate input = (inner.evaluate input).mapError change := rfl

theorem evaluate_mapTrace (change : ω → ω') (inner : Node ω ε α β) (input : α) :
    (inner.mapTrace change).evaluate input = (inner.evaluate input).mapTrace change := rfl

/-- An adapted node observes what the inner one does and adapts its output if there is one. -/
theorem evaluate_adapt (toInner : α' → α) (toOuter : α' → β → β') (inner : Node ω ε α β)
    (input : α') :
    (inner.adapt toInner toOuter).evaluate input =
      ⟨(inner.evaluate (toInner input)).trace,
        (inner.evaluate (toInner input)).result.map (toOuter input)⟩ := by
  change (inner.evaluate (toInner input)).bind _ = _
  rw [Outcome.bind]
  cases (inner.evaluate (toInner input)).result with
  | error error => rfl
  | ok output =>
      rw [Outcome.mk.injEq]
      exact ⟨List.append_nil _, rfl⟩

/-- An observed node gives what the inner one gives.  Its own observations are put around. -/
theorem evaluate_observe (before : α → List ω) (after : β → List ω) (inner : Node ω ε α β)
    (input : α) :
    (inner.observe before after).evaluate input =
      ⟨before input ++ (inner.evaluate input).trace ++ noted after (inner.evaluate input).result,
        (inner.evaluate input).result⟩ := by
  change (Outcome.emit (before input)).bind (fun _ => (inner.evaluate input).bind _) = _
  simp only [Outcome.bind, Outcome.emit]
  cases (inner.evaluate input).result with
  | error error => simp [noted]
  | ok output => simp [noted, Bind.bind, Outcome.bind, Pure.pure, Outcome.ok]

end Node

end SpreadFlow
