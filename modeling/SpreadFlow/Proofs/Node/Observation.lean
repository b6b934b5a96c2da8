/-
Module: SpreadFlow.Proofs.Node.Observation
Purpose: Observers have no say in what a patch computes, and each sees one evaluation as it happens.
Main exports: Patch.unobserved, Patch.result_unobserved, Patch.observers_only_watch
-/
import SpreadFlow.Proofs.Node.Context

namespace SpreadFlow.Patch

/-!
An observer passes on the result of the patch inside it, so it can be taken out at any depth.  Where
one is reached, its calls come around those of the patch inside, and no others are at its place.
The calls of a chain are those of its first node and then those of its second.
-/

variable {ω ε α β : Type}

/-- The patch without its observers. -/
def unobserved {ω ε α β : Type} : Patch ω ε α β → Patch ω ε α β
  | .base node => .base node
  | .chain first second => .chain first.unobserved second.unobserved
  | .adapt toInner toOuter inner => .adapt toInner toOuter inner.unobserved
  | .mapError change inner => .mapError change inner.unobserved
  | .observe _ _ inner => inner.unobserved

/-- Without its observers a patch comes to the same result. -/
theorem result_unobserved (patch : Patch ω ε α β) (input : α) :
    (patch.unobserved.node.evaluate input).result = (patch.node.evaluate input).result := by
  induction patch with
  | base node => rfl
  | chain first second firstHypothesis secondHypothesis =>
      rw [unobserved, result_chain, result_chain, firstHypothesis, funext secondHypothesis]
  | adapt toInner toOuter inner inductionHypothesis =>
      rw [unobserved, result_adapt, result_adapt, inductionHypothesis]
  | mapError change inner inductionHypothesis =>
      rw [unobserved, result_mapError, result_mapError, inductionHypothesis]
  | observe before after inner inductionHypothesis =>
      rw [unobserved, result_observe, inductionHypothesis]

/-! ### The order of calls -/

/-- No call at the one place is followed by a call at the other. -/
def Precedes (calls : List (Call ω)) (first second : Position) : Prop :=
  calls.Pairwise fun earlier later => ¬ (second <+: earlier.position ∧ first <+: later.position)

/-- Calls off one place, followed by calls off another. -/
theorem precedes_append {earlier later : List (Call ω)} {first second : Position}
    (avoidsSecond : Avoids earlier second) (avoidsFirst : Avoids later first) :
    Precedes (earlier ++ later) first second := by
  apply List.pairwise_append.mpr
  refine ⟨?_, ?_, ?_⟩
  · apply List.pairwise_of_forall_mem_list
    intro one oneMember other _ both
    exact avoidsSecond one oneMember both.1
  · apply List.pairwise_of_forall_mem_list
    intro one _ other otherMember both
    exact avoidsFirst other otherMember both.2
  · intro one oneMember other _ both
    exact avoidsSecond one oneMember both.1

namespace Context

variable {ε₀ α₀ β₀ γ₀ : Type}

/-- In a chain, wherever it stands, the first node is done before the second begins. -/
theorem precedes_chain (context : Context ω ε₀ α₀ γ₀ ε α β) (first : Patch ω ε₀ α₀ β₀)
    (second : Patch ω ε₀ β₀ γ₀) (input : α) :
    Precedes ((context.plug (.chain first second)).journal input) (context.position ++ [.first])
      (context.position ++ [.second]) := by
  cases reached : context.input? input with
  | none =>
      have avoids := context.journal_plug_of_unreached reached (.chain first second)
      rw [← List.append_nil (Patch.journal _ _)]
      exact precedes_append (avoids.deeper _) (avoids_nil _)
  | some received =>
      obtain ⟨earlier, later, split, avoidsEarlier, avoidsLater⟩ :=
        context.journal_plug_of_reached reached (.chain first second)
      rw [split, journal, List.map_append, ← List.append_assoc, List.append_assoc _ _ later]
      apply precedes_append
      · exact (avoidsEarlier.deeper _).append ((avoids_other (by decide) _).under _)
      · refine Avoids.append (Avoids.under ?_ _) (avoidsLater.deeper _)
        exact avoids_onSuccess fun _ => avoids_other (by decide) _

end Context

/-- Observers leave the result as it is.  Their observations and those of the base nodes, in the
order of the calls, are the trace.  An observer whose evaluation is reached is called once on the
input that the patch inside gets, before anything in that, and once on its output, after everything
in it, if there is an output.  Nothing else is called at its place, and nothing at all if it is not
reached.  The calls of a chain's first node are before those of its second. -/
theorem observers_only_watch (patch : Patch ω ε α β) (input : α) :
    (patch.unobserved.node.evaluate input).result = (patch.node.evaluate input).result ∧
      (patch.node.evaluate input).trace =
        (patch.journal input).flatMap (fun call => call.action.notes) ∧
      (∀ (ε₀ α₀ β₀ : Type) (context : Context ω ε₀ α₀ β₀ ε α β) (before : α₀ → List ω)
        (after : β₀ → List ω) (inner : Patch ω ε₀ α₀ β₀),
        patch = context.plug (.observe before after inner) →
        (context.input? input = none → Avoids (patch.journal input) context.position) ∧
        (∀ received, context.input? input = some received → ∃ earlier later,
          patch.journal input = earlier ++
            (⟨context.position, .inputObserver before received⟩ ::
              (inner.journal received).map (Call.under (context.position ++ [.inner])) ++
              onSuccess (inner.node.evaluate received).result fun output =>
                [⟨context.position, .outputObserver after output⟩]) ++ later ∧
          Avoids earlier context.position ∧ Avoids later context.position)) ∧
      (∀ (ε₀ α₀ β₀ γ₀ : Type) (context : Context ω ε₀ α₀ γ₀ ε α β) (first : Patch ω ε₀ α₀ β₀)
        (second : Patch ω ε₀ β₀ γ₀), patch = context.plug (.chain first second) →
        Precedes (patch.journal input) (context.position ++ [.first])
          (context.position ++ [.second])) := by
  refine ⟨result_unobserved patch input, trace_node patch input, ?_, ?_⟩
  · rintro ε₀ α₀ β₀ context before after inner rfl
    refine ⟨fun unreached => context.journal_plug_of_unreached unreached _, ?_⟩
    intro received reached
    obtain ⟨earlier, later, split, avoidsEarlier, avoidsLater⟩ :=
      context.journal_plug_of_reached reached (.observe before after inner)
    refine ⟨earlier, later, ?_, avoidsEarlier, avoidsLater⟩
    simp only [split, journal, List.cons_append, List.map_cons, List.map_append, List.map_map,
      Call.under_comp, map_onSuccess, Call.under_root, List.map_nil]
  · rintro ε₀ α₀ β₀ γ₀ context first second rfl
    exact context.precedes_chain first second input

end SpreadFlow.Patch
