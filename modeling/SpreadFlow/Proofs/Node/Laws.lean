/-
Module: SpreadFlow.Proofs.Node.Laws
Purpose: Compositions that are built differently and behave alike wherever they stand.
Main exports: Node.andThen_assoc, Node.mapError_andThen, Node.mapError_mapError, Node.adapt_adapt,
  Node.observe_observe, Patch.evaluations, Patch.Interchangeable, Patch.compositions_agree
-/
import SpreadFlow.Proofs.Node.Propagation

namespace SpreadFlow

/-!
Outcomes are joined in the order in which things happen, and joining is associative.  So a chain of
three may be cut in either place, an error map goes to both parts of a chain, and two adapters, two
error maps or two observers around one node are a single one.

Two compositions are interchangeable if no patch around them makes a difference: the result is the
same, so is the trace, and the same base nodes are called on the same inputs in the same order.  The
last does not follow from the others, since a base node need not leave observations.
-/

namespace Outcome

variable {ω ε ε' ε'' α β : Type}

theorem mapError_bind (change : ε → ε') (first : Outcome ω ε α) (second : α → Outcome ω ε β) :
    (first >>= second).mapError change =
      first.mapError change >>= fun value => (second value).mapError change := by
  obtain ⟨trace, result⟩ := first
  cases result with
  | error error => rfl
  | ok value => rfl

theorem mapError_mapError (change : ε → ε') (later : ε' → ε'') (outcome : Outcome ω ε α) :
    (outcome.mapError change).mapError later = outcome.mapError (later ∘ change) := by
  obtain ⟨trace, result⟩ := outcome
  cases result with
  | error error => rfl
  | ok value => rfl

/-- Observations may be made one after the other. -/
theorem emit_append (earlier later : List ω) :
    (emit (earlier ++ later) : Outcome ω ε Unit) = emit earlier >>= fun _ => emit later := rfl

end Outcome

/-! ### Nodes -/

namespace Node

variable {ω ε ε' ε'' α α' α'' β β' β'' γ δ : Type}

theorem andThen_assoc (first : Node ω ε α β) (second : Node ω ε β γ) (third : Node ω ε γ δ) :
    (first.andThen second).andThen third = first.andThen (second.andThen third) := by
  apply Node.ext
  funext input
  exact bind_assoc (first.evaluate input) second.evaluate third.evaluate

theorem mapError_andThen (change : ε → ε') (first : Node ω ε α β) (second : Node ω ε β γ) :
    (first.andThen second).mapError change =
      (first.mapError change).andThen (second.mapError change) := by
  apply Node.ext
  funext input
  exact Outcome.mapError_bind change (first.evaluate input) second.evaluate

theorem mapError_mapError (change : ε → ε') (later : ε' → ε'') (inner : Node ω ε α β) :
    (inner.mapError change).mapError later = inner.mapError (later ∘ change) := by
  apply Node.ext
  funext input
  exact Outcome.mapError_mapError change later (inner.evaluate input)

/-- The outer adapter's input is mapped twice, and it is itself what the outer output map gets.  The
inner output map gets the input that was mapped once. -/
theorem adapt_adapt (toInner : α' → α) (toOuter : α' → β → β') (toMiddle : α'' → α')
    (toOutermost : α'' → β' → β'') (inner : Node ω ε α β) :
    (inner.adapt toInner toOuter).adapt toMiddle toOutermost =
      inner.adapt (toInner ∘ toMiddle) fun input output =>
        toOutermost input (toOuter (toMiddle input) output) := by
  apply Node.ext
  funext input
  simp only [adapt, bind_assoc, pure_bind, Function.comp_apply]

/-- The outer observer sees the input first and the output last. -/
theorem observe_observe (before outerBefore : α → List ω) (after outerAfter : β → List ω)
    (inner : Node ω ε α β) :
    (inner.observe before after).observe outerBefore outerAfter =
      inner.observe (fun input => outerBefore input ++ before input)
        (fun output => after output ++ outerAfter output) := by
  apply Node.ext
  funext input
  simp only [observe, Outcome.emit_append, bind_assoc, pure_bind]

end Node

/-! ### Base nodes that are called -/

namespace Patch

variable {ω ε ε' ε'' ε₀ α α' α'' α₀ β β' β'' β₀ γ δ : Type}

/-- The calls of base nodes, each with its input, in order. -/
def evaluations (patch : Patch ω ε α β) (input : α) : List (Action ω) :=
  ((patch.journal input).map Call.action).filter Action.isBase

theorem action_comp_under (position : Position) :
    (Call.action ∘ Call.under position : Call ω → Action ω) = Call.action := rfl

/-- The second node of a chain is called if the first succeeds. -/
theorem evaluations_chain (first : Patch ω ε α β) (second : Patch ω ε β γ) (input : α) :
    (chain first second).evaluations input =
      first.evaluations input ++
        (first.node.evaluate input).result.toOption.elim [] second.evaluations := by
  rw [evaluations, journal, List.map_append, List.map_map, action_comp_under, List.filter_append]
  cases (first.node.evaluate input).result with
  | error error => rfl
  | ok middle =>
      rw [onSuccess, List.map_map, action_comp_under]
      rfl

theorem evaluations_adapt (toInner : α' → α) (toOuter : α' → β → β') (inner : Patch ω ε α β)
    (input : α') : (adapt toInner toOuter inner).evaluations input =
      inner.evaluations (toInner input) := by
  rw [evaluations, journal]
  cases (inner.node.evaluate (toInner input)).result with
  | error error => simp [onSuccess, evaluations, Action.isBase, action_comp_under]
  | ok output => simp [onSuccess, evaluations, Action.isBase, action_comp_under]

theorem evaluations_mapError (change : ε → ε') (inner : Patch ω ε α β) (input : α) :
    (mapError change inner).evaluations input = inner.evaluations input := by
  rw [evaluations, journal]
  cases (inner.node.evaluate input).result with
  | error error => simp [onFailure, evaluations, Action.isBase, action_comp_under]
  | ok output => simp [onFailure, evaluations, action_comp_under]

theorem evaluations_observe (before : α → List ω) (after : β → List ω) (inner : Patch ω ε α β)
    (input : α) : (observe before after inner).evaluations input = inner.evaluations input := by
  rw [evaluations, journal]
  cases (inner.node.evaluate input).result with
  | error error => simp [onSuccess, evaluations, Action.isBase, action_comp_under]
  | ok output => simp [onSuccess, evaluations, Action.isBase, action_comp_under]

/-! ### Compositions in place of others -/

/-- In whatever patch the one stands, the other may stand in its place. -/
structure Interchangeable (one other : Patch ω ε₀ α₀ β₀) : Prop where
  evaluate_eq : ∀ {ε α β : Type} (context : Context ω ε₀ α₀ β₀ ε α β) (input : α),
    (context.plug one).node.evaluate input = (context.plug other).node.evaluate input
  evaluations_eq : ∀ {ε α β : Type} (context : Context ω ε₀ α₀ β₀ ε α β) (input : α),
    (context.plug one).evaluations input = (context.plug other).evaluations input

section

variable {one other : Patch ω ε₀ α₀ β₀}

theorem Context.node_plug_congr (sameNode : one.node = other.node)
    (context : Context ω ε₀ α₀ β₀ ε α β) : (context.plug one).node = (context.plug other).node := by
  induction context with
  | hole => exact sameNode
  | inFirst context second inductionHypothesis => rw [plug, plug, node, node, inductionHypothesis]
  | inSecond first context inductionHypothesis => rw [plug, plug, node, node, inductionHypothesis]
  | inAdapted toInner toOuter context inductionHypothesis =>
      rw [plug, plug, node, node, inductionHypothesis]
  | inMapped change context inductionHypothesis => rw [plug, plug, node, node, inductionHypothesis]
  | inObserved before after context inductionHypothesis =>
      rw [plug, plug, node, node, inductionHypothesis]

/-- Patches that compute the same node and call the same base nodes are interchangeable. -/
theorem Interchangeable.of_same (sameNode : one.node = other.node)
    (sameEvaluations : ∀ input, one.evaluations input = other.evaluations input) :
    Interchangeable one other where
  evaluate_eq context input := by rw [context.node_plug_congr sameNode]
  evaluations_eq context input := by
    induction context with
    | hole => exact sameEvaluations input
    | inFirst context second inductionHypothesis =>
        rw [Context.plug, Context.plug, evaluations_chain, evaluations_chain, inductionHypothesis,
          context.node_plug_congr sameNode]
    | inSecond first context inductionHypothesis =>
        rw [Context.plug, Context.plug, evaluations_chain, evaluations_chain,
          funext inductionHypothesis]
    | inAdapted toInner toOuter context inductionHypothesis =>
        rw [Context.plug, Context.plug, evaluations_adapt, evaluations_adapt, inductionHypothesis]
    | inMapped change context inductionHypothesis =>
        rw [Context.plug, Context.plug, evaluations_mapError, evaluations_mapError,
          inductionHypothesis]
    | inObserved before after context inductionHypothesis =>
        rw [Context.plug, Context.plug, evaluations_observe, evaluations_observe,
          inductionHypothesis]

end

theorem interchangeable_chain_chain (first : Patch ω ε α β) (second : Patch ω ε β γ)
    (third : Patch ω ε γ δ) :
    Interchangeable (chain (chain first second) third) (chain first (chain second third)) := by
  refine .of_same (Node.andThen_assoc first.node second.node third.node) ?_
  intro input
  rw [evaluations_chain, evaluations_chain, evaluations_chain, result_chain, List.append_assoc]
  cases (first.node.evaluate input).result with
  | error error => rfl
  | ok middle => exact congrArg _ (evaluations_chain second third middle).symm

theorem interchangeable_mapError_chain (change : ε → ε') (first : Patch ω ε α β)
    (second : Patch ω ε β γ) :
    Interchangeable (mapError change (chain first second))
      (chain (mapError change first) (mapError change second)) := by
  refine .of_same (Node.mapError_andThen change first.node second.node) ?_
  intro input
  rw [evaluations_mapError, evaluations_chain, evaluations_chain, evaluations_mapError,
    result_mapError, funext (evaluations_mapError change second)]
  cases (first.node.evaluate input).result with
  | error error => rfl
  | ok middle => rfl

/-- Chains may be grouped in either way; an error map around a chain may be put around each part;
and two error maps, two adapters or two observers, one around the other, are a single one: the inner
error map and then the outer; the outer input map and then the inner, while the outer output map
gets the outer input; the outer observer first on the input and last on the output. -/
theorem compositions_agree :
    (∀ (first : Patch ω ε α β) (second : Patch ω ε β γ) (third : Patch ω ε γ δ),
      Interchangeable (chain (chain first second) third) (chain first (chain second third))) ∧
    (∀ (change : ε → ε') (first : Patch ω ε α β) (second : Patch ω ε β γ),
      Interchangeable (mapError change (chain first second))
        (chain (mapError change first) (mapError change second))) ∧
    (∀ (change : ε → ε') (later : ε' → ε'') (inner : Patch ω ε α β),
      Interchangeable (mapError later (mapError change inner)) (mapError (later ∘ change) inner)) ∧
    (∀ (toInner : α' → α) (toOuter : α' → β → β') (toMiddle : α'' → α')
        (toOutermost : α'' → β' → β'') (inner : Patch ω ε α β),
      Interchangeable (adapt toMiddle toOutermost (adapt toInner toOuter inner))
        (adapt (toInner ∘ toMiddle)
          (fun input output => toOutermost input (toOuter (toMiddle input) output)) inner)) ∧
    ∀ (before outerBefore : α → List ω) (after outerAfter : β → List ω) (inner : Patch ω ε α β),
      Interchangeable (observe outerBefore outerAfter (observe before after inner))
        (observe (fun input => outerBefore input ++ before input)
          (fun output => after output ++ outerAfter output) inner) := by
  refine ⟨interchangeable_chain_chain, interchangeable_mapError_chain, ?_, ?_, ?_⟩
  · intro change later inner
    refine .of_same (Node.mapError_mapError change later inner.node) ?_
    intro input
    rw [evaluations_mapError, evaluations_mapError, evaluations_mapError]
  · intro toInner toOuter toMiddle toOutermost inner
    refine .of_same (Node.adapt_adapt toInner toOuter toMiddle toOutermost inner.node) ?_
    intro input
    rw [evaluations_adapt, evaluations_adapt, evaluations_adapt]
    rfl
  · intro before outerBefore after outerAfter inner
    refine .of_same (Node.observe_observe before outerBefore after outerAfter inner.node) ?_
    intro input
    rw [evaluations_observe, evaluations_observe, evaluations_observe]

/-- A chain that fails in its second part while it is watched, with its error map around it or
around each part, and two observers of one node or one that does the work of both. -/
theorem compositions_agree_under_watch :
    let half : Patch String String Nat Nat := .base ⟨fun number =>
      if number % 2 = 0 then ⟨["half"], .ok (number / 2)⟩ else ⟨["odd"], .error "stuck"⟩⟩
    let mark (error : String) : String := error ++ "!"
    let watched : Context String String Nat Nat String Nat Nat :=
      .inObserved (fun _ => ["in"]) (fun _ => ["out"]) .hole
    (watched.plug (mapError mark (chain half half))).node.evaluate 2 =
        ⟨["in", "half", "odd"], .error "stuck!"⟩ ∧
      (watched.plug (chain (mapError mark half) (mapError mark half))).node.evaluate 2 =
        ⟨["in", "half", "odd"], .error "stuck!"⟩ ∧
      (observe (fun _ => ["first"]) (fun _ => ["last"])
        (observe (fun _ => ["in"]) (fun _ => ["out"]) half)).node.evaluate 6 =
          ⟨["first", "in", "half", "out", "last"], .ok 3⟩ ∧
      (observe (fun _ => ["first"] ++ ["in"]) (fun _ => ["out"] ++ ["last"]) half).node.evaluate 6 =
        ⟨["first", "in", "half", "out", "last"], .ok 3⟩ := by
  intro half mark watched
  obtain ⟨-, maps, -, -, observers⟩ := @compositions_agree String String String String
    Nat Nat Nat Nat Nat Nat Nat Nat
  have failed : (watched.plug (mapError mark (chain half half))).node.evaluate 2 =
      ⟨["in", "half", "odd"], .error "stuck!"⟩ := rfl
  have seen : (observe (fun _ => ["first"]) (fun _ => ["last"])
      (observe (fun _ => ["in"]) (fun _ => ["out"]) half)).node.evaluate 6 =
        ⟨["first", "in", "half", "out", "last"], .ok 3⟩ := rfl
  refine ⟨failed, ?_, seen, ?_⟩
  · rw [← (maps mark half half).evaluate_eq watched 2, failed]
  · rw [← seen]
    exact ((observers _ _ _ _ half).evaluate_eq .hole 6).symm

end Patch

end SpreadFlow
