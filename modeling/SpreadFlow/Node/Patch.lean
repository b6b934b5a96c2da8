/-
Module: SpreadFlow.Node.Patch
Purpose: Compositions of nodes as trees.
Main exports: Patch, Patch.node
-/
import SpreadFlow.Node.Basic

namespace SpreadFlow

/-!
A patch records how a node was built: base nodes at the leaves, and chaining, adapting, error maps
and observers above them.  The node of a patch is what the tree computes.
-/

/-- How a node is composed from base nodes. -/
inductive Patch (ω : Type) : Type → Type → Type → Type 1 where
  | base {ε α β : Type} (node : Node ω ε α β) : Patch ω ε α β
  | chain {ε α β γ : Type} (first : Patch ω ε α β) (second : Patch ω ε β γ) : Patch ω ε α γ
  | adapt {ε α α' β β' : Type} (toInner : α' → α) (toOuter : α' → β → β')
      (inner : Patch ω ε α β) : Patch ω ε α' β'
  | mapError {ε ε' α β : Type} (change : ε → ε') (inner : Patch ω ε α β) : Patch ω ε' α β
  | observe {ε α β : Type} (before : α → List ω) (after : β → List ω)
      (inner : Patch ω ε α β) : Patch ω ε α β

/-- The node that a patch describes. -/
def Patch.node {ω ε α β : Type} : Patch ω ε α β → Node ω ε α β
  | .base node => node
  | .chain first second => first.node.andThen second.node
  | .adapt toInner toOuter inner => inner.node.adapt toInner toOuter
  | .mapError change inner => inner.node.mapError change
  | .observe before after inner => inner.node.observe before after

end SpreadFlow
