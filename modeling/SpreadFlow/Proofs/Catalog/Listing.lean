/-
Module: SpreadFlow.Proofs.Catalog.Listing
Purpose: What a catalog lists for a category, and that neither the order of its entries nor that of
  the offers shows in it.
Main exports: Catalog.pairwise_lt_mergeSort, Catalog.mergeSort_eq_of_perm, Catalog.perm_entries_run,
  Catalog.inCategory_ascends
-/
import SpreadFlow.Proofs.Catalog.Offers
import SpreadFlow.Proofs.Text.ByteOrder

namespace SpreadFlow.Catalog

/-!
A listing sorts some of the entries by a text.  If the text tells any two of them apart, the sorted
list is strictly ascending, and the entries alone determine it.  Names tell the nodes of one
category apart, since a node's identifier consists of its name and its category and no two entries
share it.
-/

/-! ### Sorting by a text that tells the entries apart -/

section

variable {key : Description → String} {entries : List Description}

theorem pairwise_le_mergeSort (key : Description → String) (entries : List Description) :
    (entries.mergeSort fun left right => key left ≤ key right).Pairwise
      fun left right => key left ≤ key right := by
  have transitive (first second third : Description) (before : decide (key first ≤ key second))
      (after : decide (key second ≤ key third)) : decide (key first ≤ key third) := by
    rw [decide_eq_true_eq] at before after ⊢
    exact le_trans before after
  have total (first second : Description) :
      (decide (key first ≤ key second) || decide (key second ≤ key first)) = true := by
    rw [Bool.or_eq_true, decide_eq_true_eq, decide_eq_true_eq]
    exact le_total (key first) (key second)
  apply (List.pairwise_mergeSort transitive total entries).imp
  intro first second before
  exact of_decide_eq_true before

/-- Entries that the text tells apart are listed in strictly ascending order of its bytes. -/
theorem pairwise_lt_mergeSort (distinct : entries.Nodup)
    (toldApart : ∀ first ∈ entries, ∀ second ∈ entries, key first = key second → first = second) :
    (entries.mergeSort fun left right => key left ≤ key right).Pairwise
      fun left right => Text.bytes (key left) < Text.bytes (key right) := by
  have sameEntries := List.mergeSort_perm entries fun left right => decide (key left ≤ key right)
  have listedDistinct := sameEntries.nodup_iff.mpr distinct
  apply ((pairwise_le_mergeSort key entries).and listedDistinct).imp_of_mem
  rintro first second firstListed secondListed ⟨notAfter, different⟩
  apply Text.bytes_lt_bytes_iff.mpr
  apply lt_of_le_of_ne notAfter
  intro same
  exact different (toldApart first (sameEntries.mem_iff.mp firstListed) second
    (sameEntries.mem_iff.mp secondListed) same)

/-- Whatever the order of the entries was, the sorted list is the same. -/
theorem mergeSort_eq_of_perm {reordered : List Description} (sameEntries : reordered.Perm entries)
    (toldApart : ∀ first ∈ entries, ∀ second ∈ entries, key first = key second → first = second) :
    (reordered.mergeSort fun left right => key left ≤ key right) =
      entries.mergeSort fun left right => key left ≤ key right := by
  have fromReordered :=
    List.mergeSort_perm reordered fun left right => decide (key left ≤ key right)
  have fromEntries := List.mergeSort_perm entries fun left right => decide (key left ≤ key right)
  have together := fromReordered.trans (sameEntries.trans fromEntries.symm)
  refine together.eq_of_pairwise ?_ (pairwise_le_mergeSort key reordered)
    (pairwise_le_mergeSort key entries)
  intro first second firstListed secondListed before after
  apply toldApart
  · exact sameEntries.mem_iff.mp (fromReordered.mem_iff.mp firstListed)
  · exact fromEntries.mem_iff.mp secondListed
  · exact le_antisymm before after

end

/-! ### Entries and their order -/

theorem nodup_entries (catalog : Catalog) : catalog.entries.Nodup :=
  (catalog.ids_eq ▸ catalog.ids_nodup : (catalog.entries.map Description.id).Nodup).of_map

/-- Offers with different identifiers all become entries, in order. -/
theorem entries_run {catalog : Catalog} {offers : List Offer}
    (distinct : (catalog.ids ++ offers.map fun given => given.description.id).Nodup) :
    (catalog.run offers).2.entries = catalog.entries ++ offers.map Offer.description := by
  induction offers generalizing catalog with
  | nil => exact (List.append_nil _).symm
  | cons given offers inductionHypothesis =>
      rcases catalog.offer_cases given with ⟨taken, -⟩ | ⟨-, -, grown⟩
      · have different := (List.nodup_append.mp distinct).2.2
        exact absurd rfl (different _ taken _ List.mem_cons_self)
      · have ids : (catalog.offer given).2.ids = catalog.ids ++ [given.description.id] := by
          rw [ids_eq, ids_eq, grown, List.map_append]
          rfl
        rw [run, inductionHypothesis, grown, List.append_assoc]
        · rfl
        · rw [ids, List.append_assoc]
          exact distinct

/-- The order of offers with different identifiers shows in nothing but the order of the entries. -/
theorem perm_entries_run {offers reordered : List Offer} (sameOffers : reordered.Perm offers)
    (distinct : (offers.map fun given => given.description.id).Nodup) :
    (run {} reordered).2.entries.Perm (run {} offers).2.entries := by
  rw [entries_run, entries_run]
  · exact sameOffers.map Offer.description
  · exact distinct
  · exact (sameOffers.map fun given => given.description.id).nodup_iff.mpr distinct

/-! ### Categories -/

theorem mem_inCategory {catalog : Catalog} {category : String} {entry : Description} :
    entry ∈ catalog.inCategory category ↔ entry ∈ catalog.entries ∧ entry.category = category := by
  rw [inCategory, List.mem_mergeSort, List.mem_filter, decide_eq_true_eq]

/-- In one category the name tells the nodes apart. -/
theorem toldApart_of_category (catalog : Catalog) (category : String) :
    ∀ first ∈ catalog.entries.filter fun entry => entry.category = category,
      ∀ second ∈ catalog.entries.filter fun entry => entry.category = category,
        first.name = second.name → first = second := by
  intro first firstMember second secondMember sameName
  rw [List.mem_filter, decide_eq_true_eq] at firstMember secondMember
  apply eq_of_id_eq firstMember.1 secondMember.1
  rw [Description.id, Description.id, sameName, firstMember.2, secondMember.2]

/-- The nodes of a category, with names that strictly ascend in the order of their bytes.  Every
node of exactly this category is there once, and no other.  Neither the order in which the entries
are gone through nor the one in which they were offered shows in it. -/
theorem inCategory_ascends (offers : List Offer) (category : String) :
    (∀ entry, entry ∈ (run {} offers).2.inCategory category ↔
        (run {} offers).2.get? entry.id = some entry ∧ entry.category = category) ∧
      ((run {} offers).2.inCategory category).Nodup ∧
      ((run {} offers).2.inCategory category).Pairwise
        (fun left right => Text.bytes left.name < Text.bytes right.name) ∧
      (∀ stored : List Description, stored.Perm (run {} offers).2.entries →
        ((stored.filter fun entry => entry.category = category).mergeSort
            fun left right => left.name ≤ right.name) =
          (run {} offers).2.inCategory category) ∧
      (∀ reordered : List Offer, reordered.Perm offers →
        (offers.map fun given => given.description.id).Nodup →
        (run {} reordered).2.inCategory category = (run {} offers).2.inCategory category) := by
  have distinct := (nodup_entries (run {} offers).2).filter fun entry => entry.category = category
  have toldApart := toldApart_of_category (run {} offers).2 category
  refine ⟨?_, ?_, pairwise_lt_mergeSort distinct toldApart, ?_, ?_⟩
  · intro entry
    rw [mem_inCategory, get?_eq_some_iff]
    simp
  · exact (List.mergeSort_perm _ _).nodup_iff.mpr distinct
  · intro stored sameEntries
    exact mergeSort_eq_of_perm (sameEntries.filter _) toldApart
  · intro reordered sameOffers differentIds
    exact mergeSort_eq_of_perm ((perm_entries_run sameOffers differentIds).filter _) toldApart

/-- Two nodes of one category and one of another, offered in two orders. -/
theorem inCategory_ascends_reordered :
    let sum := Description.ofName "Sum" "Value"
    let mean := Description.ofName "Mean" "Statistics"
    let offers : List Offer := [.zip, .insert mean, .insert sum]
    [.insert sum, .insert mean, .zip].Perm offers ∧
      (offers.map fun given => given.description.id).Nodup ∧
      (run {} offers).2.inCategory "Value" = [sum, Zip.description] ∧
      (run {} [.insert sum, .insert mean, .zip]).2.inCategory "Value" = [sum, Zip.description] := by
  intro sum mean offers
  have sameOffers : [.insert sum, .insert mean, .zip].Perm offers := List.reverse_perm offers
  have distinct : (offers.map fun given => given.description.id).Nodup := by decide
  have entries : (run {} offers).2.entries = [Zip.description, mean, sum] := by decide
  have listed : (run {} offers).2.inCategory "Value" = [sum, Zip.description] := by
    rw [inCategory, entries]
    simp [List.mergeSort, sum, mean, Description.ofName, Zip.description]
  obtain ⟨-, -, -, -, orderless⟩ := inCategory_ascends offers "Value"
  exact ⟨sameOffers, distinct, listed, (orderless _ sameOffers distinct).trans listed⟩

end SpreadFlow.Catalog
