/-
Module: SpreadFlow.Proofs.Catalog.Offers
Purpose: What a catalog holds, answers and logs after any sequence of offers.
Main exports: Catalog.offer_cases, Catalog.run_append, Catalog.mem_ids_run, Catalog.get?_run,
  Catalog.toFinset_ids_run, Catalog.run_keeps_first
-/
import Mathlib.Data.Finset.Card
import SpreadFlow.Catalog.Offer

namespace SpreadFlow.Catalog

/-!
An offer has two endings.  Either its identifier is taken, and nothing happens, or the description
becomes the last entry and one event says so.  The identifiers of a catalog after a run are
therefore those it had and those that were offered, and a look-up finds the oldest of them first.
-/

/-! ### One offer -/

theorem mem_ids {catalog : Catalog} {id : String} :
    id ∈ catalog.ids ↔ ∃ entry ∈ catalog.entries, entry.id = id := by
  rw [ids_eq, List.mem_map]

/-- Entries are told apart by their identifiers. -/
theorem eq_of_id_eq {catalog : Catalog} {first second : Description}
    (firstMember : first ∈ catalog.entries) (secondMember : second ∈ catalog.entries)
    (same : first.id = second.id) : first = second := by
  have distinct : (catalog.entries.map Description.id).Nodup := catalog.ids_eq ▸ catalog.ids_nodup
  exact List.inj_on_of_nodup_map distinct firstMember secondMember same

/-- Everything an offer can do. -/
theorem offer_cases (catalog : Catalog) (given : Offer) :
    (given.description.id ∈ catalog.ids ∧
      catalog.offer given = (⟨[], .error ⟨given.description.id⟩⟩, catalog)) ∨
    (given.description.id ∉ catalog.ids ∧
      (catalog.offer given).1 = ⟨[.registered given.description.id], .ok ()⟩ ∧
      (catalog.offer given).2.entries = catalog.entries ++ [given.description]) := by
  by_cases taken : given.description.id ∈ catalog.ids
  · left
    refine ⟨taken, ?_⟩
    simp only [offer, insert, dif_pos taken]
    rfl
  · right
    refine ⟨taken, ?_, ?_⟩
    · simp only [offer, insert, dif_neg taken]
    · simp only [offer, insert, dif_neg taken, entries, List.map_append, List.map_cons,
        List.map_nil]

theorem mem_ids_offer {catalog : Catalog} {given : Offer} {id : String} :
    id ∈ (catalog.offer given).2.ids ↔ id ∈ catalog.ids ∨ given.description.id = id := by
  rcases catalog.offer_cases given with ⟨taken, unchanged⟩ | ⟨-, -, grown⟩
  · rw [unchanged]
    constructor
    · exact .inl
    · rintro (old | rfl)
      · exact old
      · exact taken
  · simp [ids_eq, grown, eq_comm]

/-- The oldest entry of an identifier is found, and only then the one that was offered. -/
theorem get?_offer (catalog : Catalog) (given : Offer) (id : String) :
    (catalog.offer given).2.get? id =
      (catalog.get? id).or ([given.description].find? fun entry => entry.id = id) := by
  rcases catalog.offer_cases given with ⟨taken, unchanged⟩ | ⟨-, -, grown⟩
  · rw [unchanged]
    by_cases same : given.description.id = id
    · obtain ⟨entry, member, entryId⟩ := mem_ids.mp taken
      have found : (catalog.get? id).isSome := by
        rw [get?_eq]
        exact List.find?_isSome.mpr ⟨entry, member, by simp [entryId, same]⟩
      obtain ⟨first, firstFound⟩ := Option.isSome_iff_exists.mp found
      rw [firstFound, Option.some_or]
    · simp [same]
  · rw [get?_eq, get?_eq, grown, List.find?_append]

/-- What is found under an identifier has it, and every entry is found under its own. -/
theorem get?_eq_some_iff {catalog : Catalog} {id : String} {entry : Description} :
    catalog.get? id = some entry ↔ entry ∈ catalog.entries ∧ entry.id = id := by
  rw [get?_eq]
  constructor
  · intro found
    exact ⟨List.mem_of_find?_eq_some found, by simpa using List.find?_some found⟩
  · rintro ⟨member, rfl⟩
    have found : (catalog.entries.find? fun other => other.id = entry.id).isSome :=
      List.find?_isSome.mpr ⟨entry, member, by simp⟩
    obtain ⟨first, firstFound⟩ := Option.isSome_iff_exists.mp found
    have firstId : first.id = entry.id := by simpa using List.find?_some firstFound
    rw [firstFound, eq_of_id_eq (List.mem_of_find?_eq_some firstFound) member firstId]

/-- The table holds under an identifier what is found there. -/
theorem mem_table_iff {catalog : Catalog} {id : String} {entry : Description} :
    (id, entry) ∈ catalog.table ↔ catalog.get? id = some entry := by
  rw [get?_eq_some_iff, entries, List.mem_map]
  constructor
  · intro member
    exact ⟨⟨_, member, rfl⟩, (catalog.keyed _ member).symm⟩
  · rintro ⟨⟨row, member, rfl⟩, rfl⟩
    rwa [← catalog.keyed row member]

/-! ### A run of offers -/

theorem length_run (catalog : Catalog) (offers : List Offer) :
    (catalog.run offers).1.length = offers.length := by
  induction offers generalizing catalog with
  | nil => rfl
  | cons given offers inductionHypothesis =>
      exact congrArg Nat.succ (inductionHypothesis (catalog.offer given).2)

/-- A run is the run of its first part and then that of the rest. -/
theorem run_append (catalog : Catalog) (earlier later : List Offer) :
    catalog.run (earlier ++ later) =
      ((catalog.run earlier).1 ++ ((catalog.run earlier).2.run later).1,
        ((catalog.run earlier).2.run later).2) := by
  induction earlier generalizing catalog with
  | nil => rfl
  | cons given earlier inductionHypothesis =>
      simp only [List.cons_append, run, inductionHypothesis]

theorem run_singleton (catalog : Catalog) (given : Offer) :
    catalog.run [given] = ([(catalog.offer given).1], (catalog.offer given).2) := rfl

theorem mem_ids_run {catalog : Catalog} {offers : List Offer} {id : String} :
    id ∈ (catalog.run offers).2.ids ↔
      id ∈ catalog.ids ∨ ∃ given ∈ offers, given.description.id = id := by
  induction offers generalizing catalog with
  | nil => simp [run]
  | cons given offers inductionHypothesis =>
      rw [run, inductionHypothesis, mem_ids_offer, or_assoc, List.exists_mem_cons_iff]

theorem get?_run (catalog : Catalog) (offers : List Offer) (id : String) :
    (catalog.run offers).2.get? id =
      (catalog.get? id).or ((offers.map Offer.description).find? fun entry => entry.id = id) := by
  induction offers generalizing catalog with
  | nil => simp [run]
  | cons given offers inductionHypothesis =>
      rw [run, inductionHypothesis, get?_offer, Option.or_assoc, ← List.find?_append]
      rfl

theorem toFinset_ids_run (offers : List Offer) :
    (run {} offers).2.ids.toFinset =
      (offers.map fun given => given.description.id).toFinset := by
  ext id
  have none : id ∉ ({} : Catalog).ids := List.not_mem_nil
  simp [mem_ids_run, none]

/-- The log of a run has one record for each success, in order. -/
theorem records_run (catalog : Catalog) (offers : List Offer) :
    ((catalog.run offers).1.flatMap Outcome.trace).map Event.record =
      ((offers.zip (catalog.run offers).1).filter fun pair => pair.2.result = .ok ()).map
        fun pair =>
          { level := .debug
            message := "registered node `" ++ pair.1.description.id ++ "`" } := by
  induction offers generalizing catalog with
  | nil => rfl
  | cons given offers inductionHypothesis =>
      have later := inductionHypothesis (catalog.offer given).2
      rcases catalog.offer_cases given with ⟨-, unchanged⟩ | ⟨-, registered, -⟩
      · rw [unchanged] at later
        simpa [run, unchanged] using later
      · simpa [run, registered, Event.record] using later

/-- An offer succeeds exactly when none before has its identifier.  Otherwise it is refused by that
identifier, and the catalog and the log are as they were. -/
theorem offer_after_run (earlier : List Offer) (given : Offer) :
    (((run {} earlier).2.offer given).1.result = .ok () ↔
        ∀ old ∈ earlier, old.description.id ≠ given.description.id) ∧
      (((run {} earlier).2.offer given).1.result ≠ .ok () →
        (run {} earlier).2.offer given =
          (⟨[], .error ⟨given.description.id⟩⟩, (run {} earlier).2)) := by
  have none : given.description.id ∉ ({} : Catalog).ids := List.not_mem_nil
  have taken_iff : given.description.id ∈ (run {} earlier).2.ids ↔
      ∃ old ∈ earlier, old.description.id = given.description.id := by
    simp [mem_ids_run, none]
  rcases (run {} earlier).2.offer_cases given with ⟨taken, refused⟩ | ⟨free, registered, -⟩
  · rw [refused]
    refine ⟨⟨?_, ?_⟩, fun _ => rfl⟩
    · intro success
      cases success
    · intro never
      obtain ⟨old, member, same⟩ := taken_iff.mp taken
      exact absurd same (never old member)
  · rw [registered]
    refine ⟨⟨?_, fun _ => rfl⟩, fun failed => absurd rfl failed⟩
    intro _ old member same
    exact free (taken_iff.mpr ⟨old, member, same⟩)

/-- The first description offered under an identifier is kept, whatever is offered later.  A run
answers each offer by whether its identifier was offered before.  Afterwards the catalog finds the
first description of every identifier and nothing else, keeps each under its own identifier, counts
the identifiers, and has logged the successes. -/
theorem run_keeps_first (offers : List Offer) :
    (run {} offers).1.length = offers.length ∧
      (∀ earlier given later, offers = earlier ++ given :: later → ∃ outcome,
        (run {} offers).1[earlier.length]? = some outcome ∧
        (outcome.result = .ok () ↔
          ∀ old ∈ earlier, old.description.id ≠ given.description.id) ∧
        (outcome.result ≠ .ok () →
          outcome.result = .error ⟨given.description.id⟩ ∧ outcome.trace = [] ∧
          (run {} (earlier ++ [given])).2 = (run {} earlier).2)) ∧
      (∀ id, (run {} offers).2.get? id =
        (offers.map Offer.description).find? fun entry => entry.id = id) ∧
      (run {} offers).2.size =
        (offers.map fun given => given.description.id).toFinset.card ∧
      ((run {} offers).2.isEmpty = true ↔ (run {} offers).2.size = 0) ∧
      (∀ entry id, (run {} offers).2.get? id = some entry ↔
        entry ∈ (run {} offers).2.entries ∧ entry.id = id) ∧
      (∀ id entry, (id, entry) ∈ (run {} offers).2.table ↔
        (run {} offers).2.get? id = some entry) ∧
      (∀ id entry, (id, entry) ∈ (run {} offers).2.table → id = entry.id) ∧
      ((run {} offers).1.flatMap Outcome.trace).map Event.record =
        ((offers.zip (run {} offers).1).filter fun pair => pair.2.result = .ok ()).map
          fun pair =>
            { level := .debug
              message := "registered node `" ++ pair.1.description.id ++ "`" } := by
  refine ⟨length_run {} offers, ?_, ?_, ?_, ?_, fun _ _ => get?_eq_some_iff,
    fun _ _ => mem_table_iff, fun id entry => (run {} offers).2.keyed (id, entry),
    records_run {} offers⟩
  · rintro earlier given later rfl
    obtain ⟨success, refused⟩ := offer_after_run earlier given
    refine ⟨((run {} earlier).2.offer given).1, ?_, success, ?_⟩
    · rw [run_append, List.getElem?_append_right (Nat.le_of_eq (length_run {} earlier)), length_run,
        Nat.sub_self]
      rfl
    · intro failed
      rw [run_append, run_singleton, refused failed]
      exact ⟨rfl, rfl, rfl⟩
  · intro id
    rw [get?_run]
    rfl
  · have distinct : (run {} offers).2.ids.Nodup := (run {} offers).2.ids_nodup
    rw [← toFinset_ids_run, List.toFinset_card_of_nodup distinct]
    exact (List.length_map _).symm
  · rw [isEmpty, size, List.isEmpty_iff, List.length_eq_zero_iff]

end SpreadFlow.Catalog
