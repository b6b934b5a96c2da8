/-
Module: SpreadFlow.Proofs.Catalog.Identifier
Purpose: Which nodes have one identifier, and when a catalog therefore refuses a node.
Main exports: Description.Shifted, Description.id_eq_iff, Catalog.insert_eq_error_iff,
  Catalog.ids_clash_iff_shifted
-/
import SpreadFlow.Proofs.Catalog.Offers

namespace SpreadFlow

/-!
An identifier joins name and category by a space and an opening parenthesis, and escapes neither.
It can be cut in two wherever these two characters stand.  Two nodes share an identifier exactly if
one is cut later than the other: what lies between the cuts ends the name of one node and begins the
category of the other.  The two characters differ, so two cuts never overlap.
-/

namespace Description

/-- The text contains a space directly followed by an opening parenthesis. -/
def HasOpening (text : String) : Prop :=
  [' ', '('] <:+: text.toList

instance (text : String) : Decidable (HasOpening text) :=
  inferInstanceAs (Decidable (_ <:+: _))

/-- The same name and the same category. -/
def Alike (first second : Description) : Prop :=
  first.name = second.name ∧ first.category = second.category

instance (first second : Description) : Decidable (first.Alike second) :=
  inferInstanceAs (Decidable (_ ∧ _))

/-- The second name goes on past the first one and its opening, and takes with it what comes before
an opening in the first category. -/
def Shifted (first second : Description) : Prop :=
  ∃ between : String, second.name = first.name ++ " (" ++ between ∧
    first.category = between ++ " (" ++ second.category

theorem toList_id (description : Description) :
    description.id.toList =
      description.name.toList ++ ([' ', '('] ++ description.category.toList) ++ [')'] := by
  have opening : " (".toList = [' ', '('] := rfl
  have closing : ")".toList = [')'] := rfl
  rw [id, String.toList_append, String.toList_append, String.toList_append, opening, closing]
  simp only [List.append_assoc]

theorem shifted_iff {first second : Description} :
    first.Shifted second ↔
      ∃ between, second.name.toList = first.name.toList ++ ([' ', '('] ++ between) ∧
        first.category.toList = between ++ ([' ', '('] ++ second.category.toList) := by
  have opening : " (".toList = [' ', '('] := rfl
  simp only [Shifted, ← String.toList_inj, String.toList_append, opening, List.append_assoc]
  constructor
  · rintro ⟨between, name, category⟩
    exact ⟨between.toList, name, category⟩
  · rintro ⟨between, name, category⟩
    exact ⟨String.ofList between, by rwa [String.toList_ofList], by rwa [String.toList_ofList]⟩

/-- An opening cannot begin within another one, so what is before a later one holds it whole. -/
theorem opening_append_eq_iff {between early late : List Char} :
    [' ', '('] ++ early = between ++ ([' ', '('] ++ late) ↔
      (between = [] ∧ early = late) ∨
      ∃ rest, between = [' ', '('] ++ rest ∧ early = rest ++ ([' ', '('] ++ late) := by
  constructor
  · intro same
    match between, same with
    | [], same => exact .inl ⟨rfl, List.append_cancel_left same⟩
    | [_], same => simp at same
    | first :: second :: rest, same =>
        have heads : first = ' ' ∧ second = '(' ∧ early = rest ++ ([' ', '('] ++ late) := by
          simpa [eq_comm] using same
        obtain ⟨rfl, rfl, tail⟩ := heads
        exact .inr ⟨rest, rfl, tail⟩
  · rintro (⟨rfl, rfl⟩ | ⟨rest, rfl, rfl⟩)
    · rfl
    · rw [List.append_assoc]

/-- One side of a common text of two identifiers, cut at the first name's end or later. -/
theorem exists_between_iff {first second : Description} :
    (∃ between, second.name.toList = first.name.toList ++ between ∧
      [' ', '('] ++ first.category.toList = between ++ ([' ', '('] ++ second.category.toList)) ↔
    first.Alike second ∨ first.Shifted second := by
  rw [shifted_iff, Alike, ← String.toList_inj, ← String.toList_inj]
  constructor
  · rintro ⟨between, name, text⟩
    rcases opening_append_eq_iff.mp text with ⟨rfl, category⟩ | ⟨rest, rfl, category⟩
    · exact .inl ⟨by rw [name, List.append_nil], category⟩
    · exact .inr ⟨rest, name, category⟩
  · rintro (⟨name, category⟩ | ⟨rest, name, category⟩)
    · exact ⟨[], by rw [name, List.append_nil], by rw [category, List.nil_append]⟩
    · exact ⟨_, name, opening_append_eq_iff.mpr (.inr ⟨rest, rfl, category⟩)⟩

theorem alike_comm {first second : Description} : first.Alike second ↔ second.Alike first := by
  rw [Alike, Alike, eq_comm, @eq_comm _ first.category]

/-- Identifiers are the same if the nodes are, or if one is cut later than the other. -/
theorem id_eq_iff {first second : Description} :
    first.id = second.id ↔ first.Alike second ∨ first.Shifted second ∨ second.Shifted first := by
  rw [← String.toList_inj, toList_id, toList_id, List.append_left_inj, List.append_eq_append_iff,
    exists_between_iff, exists_between_iff, @alike_comm second]
  constructor
  · rintro ((alike | later) | (alike | earlier))
    · exact .inl alike
    · exact .inr (.inl later)
    · exact .inl alike
    · exact .inr (.inr earlier)
  · rintro (alike | later | earlier)
    · exact .inl (.inl alike)
    · exact .inl (.inr later)
    · exact .inr (.inr earlier)

theorem id_eq_of_alike {first second : Description} (alike : first.Alike second) :
    first.id = second.id :=
  id_eq_iff.mpr (.inl alike)

/-- Only a category with an opening in it can be cut later. -/
theorem Shifted.hasOpening {first second : Description} (shifted : first.Shifted second) :
    HasOpening first.category := by
  obtain ⟨between, -, category⟩ := shifted_iff.mp shifted
  exact ⟨between, second.category.toList, by rw [category, List.append_assoc]⟩

/-- Where no category has an opening, the identifier tells name and category. -/
theorem alike_of_id_eq {first second : Description} (firstPlain : ¬ HasOpening first.category)
    (secondPlain : ¬ HasOpening second.category) (same : first.id = second.id) :
    first.Alike second := by
  rcases id_eq_iff.mp same with alike | later | earlier
  · exact alike
  · exact absurd later.hasOpening firstPlain
  · exact absurd earlier.hasOpening secondPlain

end Description

namespace Catalog

/-- A description is refused exactly if its identifier is taken. -/
theorem insert_eq_error_iff {catalog : Catalog} {description : Description} :
    (catalog.insert description).result = .error ⟨description.id⟩ ↔
      ∃ entry ∈ catalog.entries, entry.id = description.id := by
  rw [← mem_ids, insert]
  split
  · rename_i taken
    exact iff_of_true rfl taken
  · rename_i free
    exact iff_of_false (fun refused => by cases refused) free

/-- Every entry after a run from an empty catalog was offered. -/
theorem exists_offer_of_mem_entries {offers : List Offer} {entry : Description}
    (stored : entry ∈ (run {} offers).2.entries) : ∃ given ∈ offers, given.description = entry := by
  have found := get?_eq_some_iff.mpr ⟨stored, rfl⟩
  rw [get?_run] at found
  exact List.mem_map.mp (List.mem_of_find?_eq_some found)

/-- Different nodes share an identifier exactly if one is cut later than the other.  Where no
category has a space directly followed by an opening parenthesis, only equal names and categories
do, and a catalog refuses a node only for one of the same name and category. -/
theorem ids_clash_iff_shifted :
    (∀ first second : Description, ¬ first.Alike second →
        (first.id = second.id ↔ first.Shifted second ∨ second.Shifted first)) ∧
      (∀ first second : Description, ¬ Description.HasOpening first.category →
        ¬ Description.HasOpening second.category →
        (first.id = second.id ↔ first.Alike second)) ∧
      (∀ (offers : List Offer) (description : Description),
        (∀ given ∈ offers ++ [.insert description],
          ¬ Description.HasOpening given.description.category) →
        (((run {} offers).2.insert description).result = .error ⟨description.id⟩ ↔
          ∃ entry ∈ (run {} offers).2.entries, entry.Alike description)) := by
  refine ⟨?_, ?_, ?_⟩
  · intro first second different
    rw [Description.id_eq_iff, or_iff_right different]
  · intro first second firstPlain secondPlain
    exact ⟨Description.alike_of_id_eq firstPlain secondPlain, Description.id_eq_of_alike⟩
  · intro offers description plain
    have newPlain : ¬ Description.HasOpening description.category :=
      plain (.insert description) (List.mem_append_right offers List.mem_cons_self)
    rw [insert_eq_error_iff]
    constructor
    · rintro ⟨entry, stored, same⟩
      obtain ⟨given, offered, rfl⟩ := exists_offer_of_mem_entries stored
      have storedPlain := plain given (List.mem_append_left _ offered)
      exact ⟨given.description, stored, Description.alike_of_id_eq storedPlain newPlain same⟩
    · rintro ⟨entry, stored, alike⟩
      exact ⟨entry, stored, Description.id_eq_of_alike alike⟩

/-- What ends one name begins the other node's category, so the two share an identifier and the
second is refused.  Without an opening in any category a node is refused next to its like. -/
theorem ids_clash_iff_shifted_at_parenthesis :
    let wide := Description.ofName "Sum" "Value (Fast"
    let long := Description.ofName "Sum (Value" "Fast"
    let plain := Description.ofName "Sum" "Value"
    (¬ wide.Alike long ∧ wide.Shifted long ∧ wide.id = long.id ∧
        ((run {} [.zip, .insert wide]).2.insert long).result = .error ⟨wide.id⟩) ∧
      (∀ given ∈ [Offer.zip, .insert plain] ++ [.insert plain],
        ¬ Description.HasOpening given.description.category) ∧
      plain ∈ (run {} [.zip, .insert plain]).2.entries ∧
      ((run {} [.zip, .insert plain]).2.insert plain).result = .error ⟨plain.id⟩ := by
  intro wide long plain
  have different : ¬ wide.Alike long := by decide
  have shifted : wide.Shifted long := ⟨"Value", by decide, by decide⟩
  have sameId : wide.id = long.id :=
    (ids_clash_iff_shifted.1 wide long different).mpr (.inl shifted)
  have wideStored : wide ∈ (run {} [.zip, .insert wide]).2.entries := by decide
  have refused : ((run {} [.zip, .insert wide]).2.insert long).result = .error ⟨long.id⟩ :=
    insert_eq_error_iff.mpr ⟨wide, wideStored, sameId⟩
  have noOpening : ∀ given ∈ [Offer.zip, .insert plain] ++ [.insert plain],
      ¬ Description.HasOpening given.description.category := by decide
  have plainStored : plain ∈ (run {} [.zip, .insert plain]).2.entries := by decide
  have plainRefused := (ids_clash_iff_shifted.2.2 [.zip, .insert plain] plain noOpening).mpr
    ⟨plain, plainStored, rfl, rfl⟩
  exact ⟨⟨different, shifted, sameId, sameId ▸ refused⟩, noOpening, plainStored, plainRefused⟩

end Catalog

end SpreadFlow
