/-
Module: SpreadFlow.Proofs.Node.Journal
Purpose: Which functions of a patch an evaluation calls, on what, and in which order.
Main exports: Patch.Position, Patch.Action, Patch.Call, Patch.journal, Patch.trace_node
-/
import SpreadFlow.Node.Patch

namespace SpreadFlow.Patch

/-!
The outcome of an evaluation does not tell everything that happened on the way: functions that
adapt an input or change an error leave nothing in the trace.  The journal of an evaluation lists
the calls of all functions that the patch is built from.  Each call has its position in the patch,
so two places at which the same function stands are told apart.
-/

/-- The parts of a composition. -/
inductive Branch where
  | first
  | second
  | inner
deriving Repr, DecidableEq

/-- A place in a patch: the branches to take from the root. -/
abbrev Position := List Branch

variable {ω ε ε' α α' β β' γ : Type}

/-- A function of a patch, with what it is called on. -/
inductive Action (ω : Type) : Type 1 where
  | base {ε α β : Type} (node : Node ω ε α β) (input : α)
  | inputMap {α α' : Type} (toInner : α' → α) (input : α')
  | outputMap {α' β β' : Type} (toOuter : α' → β → β') (input : α') (output : β)
  | errorMap {ε ε' : Type} (change : ε → ε') (error : ε)
  | inputObserver {α : Type} (before : α → List ω) (input : α)
  | outputObserver {β : Type} (after : β → List ω) (output : β)

/-- What is observed while the function runs.  Maps leave no observations. -/
def Action.notes : Action ω → List ω
  | .base node input => (node.evaluate input).trace
  | .inputObserver before input => before input
  | .outputObserver after output => after output
  | .inputMap _ _ | .outputMap _ _ _ | .errorMap _ _ => []

/-- A call of a function that stands at a position. -/
structure Call (ω : Type) : Type 1 where
  position : Position
  action : Action ω

/-- The call as it is seen from further outside. -/
def Call.under (position : Position) (call : Call ω) : Call ω :=
  ⟨position ++ call.position, call.action⟩

/-- The calls that follow a success. -/
def onSuccess (result : Except ε β) (calls : β → List (Call ω)) : List (Call ω) :=
  match result with
  | .ok output => calls output
  | .error _ => []

/-- The calls that follow a failure. -/
def onFailure (result : Except ε β) (calls : ε → List (Call ω)) : List (Call ω) :=
  match result with
  | .ok _ => []
  | .error error => calls error

/-- The calls of an evaluation, in order. -/
def journal {ω ε α β : Type} : Patch ω ε α β → α → List (Call ω)
  | .base node, input => [⟨[], .base node input⟩]
  | .chain first second, input =>
      (first.journal input).map (Call.under [.first]) ++
        onSuccess (first.node.evaluate input).result fun middle =>
          (second.journal middle).map (Call.under [.second])
  | .adapt toInner toOuter inner, input =>
      ⟨[], .inputMap toInner input⟩ :: (inner.journal (toInner input)).map (Call.under [.inner]) ++
        onSuccess (inner.node.evaluate (toInner input)).result fun output =>
          [⟨[], .outputMap toOuter input output⟩]
  | .mapError change inner, input =>
      (inner.journal input).map (Call.under [.inner]) ++
        onFailure (inner.node.evaluate input).result fun error => [⟨[], .errorMap change error⟩]
  | .observe before after inner, input =>
      ⟨[], .inputObserver before input⟩ :: (inner.journal input).map (Call.under [.inner]) ++
        onSuccess (inner.node.evaluate input).result fun output =>
          [⟨[], .outputObserver after output⟩]

@[simp] theorem Call.under_root (position : Position) (action : Action ω) :
    Call.under position ⟨[], action⟩ = ⟨position, action⟩ := by
  rw [under, List.append_nil]

theorem Call.under_comp (outer inner : Position) :
    (Call.under outer ∘ Call.under inner : Call ω → Call ω) = Call.under (outer ++ inner) := by
  funext call
  simp [under, List.append_assoc]

theorem map_onSuccess (result : Except ε β) (calls : β → List (Call ω)) (change : Call ω → Call ω) :
    (onSuccess result calls).map change =
      onSuccess result fun output => (calls output).map change := by
  cases result with
  | error error => rfl
  | ok output => rfl

/-! ### The result of each composition -/

section

variable (toInner : α' → α) (toOuter : α' → β → β') (change : ε → ε') (before : α → List ω)
  (after : β → List ω)

theorem result_chain (first : Patch ω ε α β) (second : Patch ω ε β γ) (input : α) :
    ((chain first second).node.evaluate input).result =
      (first.node.evaluate input).result.bind fun middle =>
        (second.node.evaluate middle).result := by
  rw [node, Node.evaluate_andThen]
  cases (first.node.evaluate input).result with
  | error error => rfl
  | ok middle => rfl

theorem result_adapt (inner : Patch ω ε α β) (input : α') :
    ((adapt toInner toOuter inner).node.evaluate input).result =
      (inner.node.evaluate (toInner input)).result.map (toOuter input) := by
  rw [node, Node.evaluate_adapt]

theorem result_mapError (inner : Patch ω ε α β) (input : α) :
    ((mapError change inner).node.evaluate input).result =
      (inner.node.evaluate input).result.mapError change := rfl

theorem result_observe (inner : Patch ω ε α β) (input : α) :
    ((observe before after inner).node.evaluate input).result =
      (inner.node.evaluate input).result := by
  rw [node, Node.evaluate_observe]

end

/-! ### The journal tells the trace -/

theorem flatMap_notes_under (position : Position) (calls : List (Call ω)) :
    (calls.map (Call.under position)).flatMap (fun call => call.action.notes) =
      calls.flatMap fun call => call.action.notes := by
  rw [List.flatMap_map]
  rfl

/-- What an evaluation observes is what its calls observe, in order. -/
theorem trace_node (patch : Patch ω ε α β) (input : α) :
    (patch.node.evaluate input).trace =
      (patch.journal input).flatMap fun call => call.action.notes := by
  induction patch with
  | base node => simp [journal, Action.notes, Patch.node]
  | chain first second firstHypothesis secondHypothesis =>
      rw [node, Node.evaluate_andThen, journal, List.flatMap_append, flatMap_notes_under,
        ← firstHypothesis]
      cases (first.node.evaluate input).result with
      | error error => simp [onSuccess]
      | ok middle => simp only [onSuccess, flatMap_notes_under, secondHypothesis]
  | adapt toInner toOuter inner inductionHypothesis =>
      rw [node, Node.evaluate_adapt, journal, List.cons_append, List.flatMap_cons,
        List.flatMap_append, flatMap_notes_under, ← inductionHypothesis]
      cases (inner.node.evaluate (toInner input)).result with
      | error error => simp [onSuccess, Action.notes]
      | ok output => simp [onSuccess, Action.notes]
  | mapError change inner inductionHypothesis =>
      rw [node, Node.evaluate_mapError, journal, List.flatMap_append, flatMap_notes_under,
        ← inductionHypothesis]
      cases (inner.node.evaluate input).result with
      | error error => simp [onFailure, Action.notes, Outcome.mapError]
      | ok output => simp [onFailure, Outcome.mapError]
  | observe before after inner inductionHypothesis =>
      rw [node, Node.evaluate_observe, journal, List.cons_append, List.flatMap_cons,
        List.flatMap_append, flatMap_notes_under, ← inductionHypothesis]
      cases (inner.node.evaluate input).result with
      | error error => simp [onSuccess, Action.notes, Node.noted]
      | ok output => simp [onSuccess, Action.notes, Node.noted]

end SpreadFlow.Patch
