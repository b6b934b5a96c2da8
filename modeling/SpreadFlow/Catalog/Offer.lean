/-
Module: SpreadFlow.Catalog.Offer
Purpose: Registering nodes one after the other.
Main exports: Catalog.Offer, Catalog.offer, Catalog.run
-/
import SpreadFlow.Catalog.Basic
import SpreadFlow.Zip.Basic

namespace SpreadFlow.Catalog

/-- A node offered to a catalog: any description, the zip node, or all nodes of this library. -/
inductive Offer where
  | insert (description : Description)
  | zip
  | library
deriving Repr, DecidableEq

/-- The description that is offered.  The zip node is the only one of the library. -/
def Offer.description : Offer → Description
  | .insert description => description
  | .zip | .library => Zip.description

/-- Offers a node: the outcome, and the catalog afterwards, which is the old one if the identifier
is taken. -/
def offer (catalog : Catalog) (given : Offer) : Outcome Event Duplicate Unit × Catalog :=
  let outcome := catalog.insert given.description
  match outcome.result with
  | .ok grown => (⟨outcome.trace, .ok ()⟩, grown)
  | .error error => (⟨outcome.trace, .error error⟩, catalog)

/-- The outcomes of a sequence of offers, and the catalog after the last. -/
def run (catalog : Catalog) : List Offer → List (Outcome Event Duplicate Unit) × Catalog
  | [] => ([], catalog)
  | given :: offers =>
      let (outcome, after) := catalog.offer given
      let (outcomes, last) := run after offers
      (outcome :: outcomes, last)

end SpreadFlow.Catalog
