/-
Module: SpreadFlow.Proofs.Catalog.Search
Purpose: What a catalog finds for a term, and that neither the case of the term's letters nor the
  order of the entries or offers shows in it.
Main exports: Catalog.mem_search, Catalog.search_congr, Catalog.search_eq_of_perm,
  Catalog.search_ascends
-/
import SpreadFlow.Proofs.Catalog.Listing
import SpreadFlow.Proofs.Text.LetterCase

namespace SpreadFlow.Catalog

/-!
A search keeps every entry that has some matching text, however many of its texts match, and sorts
what it keeps by identifier.  Entries are told apart by their identifiers, so the sort has no ties.
-/

variable {catalog : Catalog}

theorem foldCase_eq_iff {first second : String} :
    foldCase first = foldCase second ↔ Text.SameButCase first second :=
  Text.map_toLower_eq_iff

/-- An entry answers to a term that is its name or one of its tags, but for the case of letters. -/
theorem answers_iff {term : String} {entry : Description} :
    answers term entry = true ↔
      Text.SameButCase entry.name term ∨ ∃ tag ∈ entry.tags, Text.SameButCase tag term := by
  simp only [answers, List.any_eq_true, decide_eq_true_eq, foldCase_eq_iff,
    List.exists_mem_cons_iff]

theorem mem_search {term : String} {entry : Description} :
    entry ∈ catalog.search term ↔
      entry ∈ catalog.entries ∧
        (Text.SameButCase entry.name term ∨ ∃ tag ∈ entry.tags, Text.SameButCase tag term) := by
  rw [search_eq, List.mem_mergeSort, List.mem_filter, answers_iff]

theorem nodup_search (catalog : Catalog) (term : String) : (catalog.search term).Nodup := by
  rw [search_eq]
  exact (List.mergeSort_perm _ _).nodup_iff.mpr (catalog.nodup_entries.filter _)

/-- The identifier tells apart whatever a search can keep. -/
theorem toldApart_of_answers (catalog : Catalog) (term : String) :
    ∀ first ∈ catalog.entries.filter (answers term),
      ∀ second ∈ catalog.entries.filter (answers term), first.id = second.id → first = second :=
  fun _ firstMember _ secondMember =>
    eq_of_id_eq (List.mem_of_mem_filter firstMember) (List.mem_of_mem_filter secondMember)

/-- Terms that differ in nothing but case find the same. -/
theorem search_congr {term other : String} (same : Text.SameButCase other term) :
    catalog.search other = catalog.search term := by
  have folded : foldCase other = foldCase term := foldCase_eq_iff.mpr same
  have answersAlike : answers other = answers term := by
    funext entry
    simp only [answers, folded]
  rw [search, search, answersAlike]

/-- Two catalogs with the same entries find the same, in whatever order they keep them. -/
theorem search_eq_of_perm {reordered : Catalog}
    (sameEntries : reordered.entries.Perm catalog.entries) (term : String) :
    reordered.search term = catalog.search term := by
  rw [search_eq, search_eq]
  exact mergeSort_eq_of_perm (sameEntries.filter _) (toldApart_of_answers catalog term)

/-- What a search finds, with identifiers that strictly ascend in the order of their bytes.  Every
node whose name or some tag is the term but for the case of ASCII letters is there once, and no
other.  Neither that case nor the order in which the entries are kept or were offered shows in
it. -/
theorem search_ascends (offers : List Offer) (term : String) :
    (∀ entry, entry ∈ (run {} offers).2.search term ↔
        (run {} offers).2.get? entry.id = some entry ∧
          (Text.SameButCase entry.name term ∨ ∃ tag ∈ entry.tags, Text.SameButCase tag term)) ∧
      ((run {} offers).2.search term).Nodup ∧
      ((run {} offers).2.search term).Pairwise
        (fun left right => Text.bytes left.id < Text.bytes right.id) ∧
      (∀ other, Text.SameButCase other term →
        (run {} offers).2.search other = (run {} offers).2.search term) ∧
      (∀ stored : Catalog, stored.entries.Perm (run {} offers).2.entries →
        stored.search term = (run {} offers).2.search term) ∧
      (∀ reordered : List Offer, reordered.Perm offers →
        (offers.map fun given => given.description.id).Nodup →
        (run {} reordered).2.search term = (run {} offers).2.search term) := by
  refine ⟨?_, nodup_search _ term, ?_, fun other => search_congr, ?_, ?_⟩
  · intro entry
    rw [mem_search, get?_eq_some_iff]
    simp
  · rw [search_eq]
    exact pairwise_lt_mergeSort ((nodup_entries _).filter _) (toldApart_of_answers _ term)
  · intro stored sameEntries
    exact search_eq_of_perm sameEntries term
  · intro reordered sameOffers differentIds
    exact search_eq_of_perm (perm_entries_run sameOffers differentIds) term

/-- Capitals find what small letters find, whichever of two nodes was offered first. -/
theorem search_ascends_in_capitals :
    let sum := Offer.insert (Description.ofName "Sum" "Value")
    Text.SameButCase "SUM" "sum" ∧ [sum, .zip].Perm [.zip, sum] ∧
      ([Offer.zip, sum].map fun given => given.description.id).Nodup ∧
      (run {} [.zip, sum]).2.search "SUM" = (run {} [.zip, sum]).2.search "sum" ∧
      (run {} [sum, .zip]).2.search "sum" = (run {} [.zip, sum]).2.search "sum" := by
  intro sum
  have folded : Text.SameButCase "SUM" "sum" := by decide
  have swapped : [sum, .zip].Perm [.zip, sum] := .swap _ _ _
  have distinct : ([Offer.zip, sum].map fun given => given.description.id).Nodup := by decide
  obtain ⟨-, -, -, caseless, -, orderless⟩ := search_ascends [.zip, sum] "sum"
  exact ⟨folded, swapped, distinct, caseless _ folded, orderless _ swapped distinct⟩

end SpreadFlow.Catalog
