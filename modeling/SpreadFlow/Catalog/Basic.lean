/-
Module: SpreadFlow.Catalog.Basic
Purpose: The descriptions of all nodes a host can place, found by identifier, category or term.
Main exports: Catalog, Catalog.entries, Catalog.insert, Catalog.get?, Catalog.inCategory,
  Catalog.search
-/
import SpreadFlow.Description
import SpreadFlow.Log
import SpreadFlow.Outcome

namespace SpreadFlow

/-!
A catalog is a table from identifiers to descriptions.  The identifier is the text `Name (Category)`
alone.  Two nodes that agree in it cannot both be registered, also when their names and categories
differ.  The first one stays.
-/

/-- Descriptions under their identifiers, in the order in which they were registered. -/
structure Catalog where
  table : List (String × Description) := []
  ids_nodup : (table.map Prod.fst).Nodup := by simp
  keyed : ∀ row ∈ table, row.1 = row.2.id := by simp
deriving Repr, DecidableEq

namespace Catalog

instance : Inhabited Catalog := ⟨{}⟩

/-- What a catalog logs. -/
inductive Event where
  | registered (id : String)
deriving Repr, DecidableEq

/-- The log record of an event. -/
def Event.record : Event → Log.Record
  | .registered id => { level := .debug, message := "registered node `" ++ id ++ "`" }

/-- An identifier that is taken. -/
structure Duplicate where
  id : String
deriving Repr, DecidableEq

def Duplicate.message (error : Duplicate) : String :=
  "node `" ++ error.id ++ "` is already registered"

/-- The identifiers that are taken. -/
def ids (catalog : Catalog) : List String :=
  catalog.table.map Prod.fst

/-- All descriptions. -/
def entries (catalog : Catalog) : List Description :=
  catalog.table.map Prod.snd

def size (catalog : Catalog) : Nat :=
  catalog.table.length

def isEmpty (catalog : Catalog) : Bool :=
  catalog.table.isEmpty

/-- The description of an identifier. -/
def get? (catalog : Catalog) (id : String) : Option Description :=
  (catalog.table.find? fun row => row.1 = id).map Prod.snd

/-- The catalog with one more description, unless its identifier is taken. -/
def insert (catalog : Catalog) (description : Description) : Outcome Event Duplicate Catalog :=
  if taken : description.id ∈ catalog.ids then .fail ⟨description.id⟩
  else
    { trace := [.registered description.id]
      result := .ok
        { table := catalog.table ++ [(description.id, description)]
          ids_nodup := by
            rw [List.map_append, List.nodup_append]
            refine ⟨catalog.ids_nodup, by simp, ?_⟩
            intro old oldMember new newMember same
            simp only [List.map_cons, List.map_nil, List.mem_singleton] at newMember
            exact taken (newMember ▸ same ▸ oldMember)
          keyed := by
            intro row member
            rcases List.mem_append.mp member with old | new
            · exact catalog.keyed row old
            · rw [List.mem_singleton.mp new] } }

/-- The nodes of exactly this category, sorted by name. -/
def inCategory (catalog : Catalog) (category : String) : List Description :=
  (catalog.entries.filter fun entry => entry.category = category).mergeSort
    fun left right => left.name ≤ right.name

/-- Texts as they are compared in a search: ASCII letters in lower case, all else as it is. -/
def foldCase (text : String) : List Char :=
  text.toList.map Char.toLower

/-- Whether a term is the name or a tag of a node, but for the case of ASCII letters. -/
def answers (term : String) (entry : Description) : Bool :=
  (entry.name :: entry.tags).any fun text => foldCase text = foldCase term

/-- The nodes that answer to a term, sorted by identifier. -/
def search (catalog : Catalog) (term : String) : List Description :=
  ((catalog.table.filter fun row => answers term row.2).mergeSort
    fun left right => left.1 ≤ right.1).map Prod.snd

/-! ### The table told by its descriptions -/

theorem ids_eq (catalog : Catalog) : catalog.ids = catalog.entries.map Description.id := by
  rw [ids, entries, List.map_map]
  exact List.map_congr_left catalog.keyed

theorem get?_eq (catalog : Catalog) (id : String) :
    catalog.get? id = catalog.entries.find? fun entry => entry.id = id := by
  have sameRows : (catalog.table.filter fun row => row.1 = id) =
      catalog.table.filter fun row => row.2.id = id :=
    List.filter_congr fun row member => by rw [catalog.keyed row member]
  rw [get?, entries, List.find?_map, ← List.head?_filter, sameRows, List.head?_filter]
  rfl

theorem search_eq (catalog : Catalog) (term : String) :
    catalog.search term =
      (catalog.entries.filter (answers term)).mergeSort fun left right => left.id ≤ right.id := by
  rw [search, entries, List.filter_map]
  apply List.map_mergeSort
  intro left leftKept right rightKept
  rw [catalog.keyed left (List.mem_filter.mp leftKept).1,
    catalog.keyed right (List.mem_filter.mp rightKept).1]

end Catalog

end SpreadFlow
