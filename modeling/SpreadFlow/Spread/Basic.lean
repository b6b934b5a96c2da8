/-
Module: SpreadFlow.Spread.Basic
Purpose: Spreads, the ordered and resizable sequences that nodes exchange.
Main exports: Spread, Spread.resize, Spread.get?, Spread.set?, Spread.modify?
-/

namespace SpreadFlow

/-!
A spread is a list of *slices*.  Its own operation is resizing, which cuts at the end or grows there
with the element type's default.  Spreads are values: no two slots share anything, also when they
were filled from one value.
-/

/-- An ordered sequence of slices. -/
@[ext]
structure Spread (α : Type) where ofList ::
  toList : List α
deriving Repr, DecidableEq

namespace Spread

variable {α β : Type}

/-- The spread without slices. -/
def empty : Spread α := ofList []

instance : Inhabited (Spread α) := ⟨empty⟩

/-- Two spreads are equal when their slices are, one by one. -/
instance [BEq α] : BEq (Spread α) where
  beq left right := left.toList == right.toList

/-- The number of slices. -/
def count (spread : Spread α) : Nat :=
  spread.toList.length

def isEmpty (spread : Spread α) : Bool :=
  spread.toList.isEmpty

/-- The slice at an index, if the spread reaches that far. -/
def get? (spread : Spread α) (index : Nat) : Option α :=
  spread.toList[index]?

/-- One more slice at the end. -/
def push (spread : Spread α) (value : α) : Spread α :=
  ofList (spread.toList ++ [value])

/-- The slices of both, the receiver's first. -/
def append (spread : Spread α) (values : List α) : Spread α :=
  ofList (spread.toList ++ values)

/-- A spread without slices, whatever was there. -/
def clear (_spread : Spread α) : Spread α :=
  empty

/-- Exactly `count` slices: the first ones are kept, the rest is dropped, and what is missing is
the default value. -/
def resize [Inhabited α] (spread : Spread α) (count : Nat) : Spread α :=
  ofList (spread.toList.take count ++ List.replicate (count - spread.count) default)

/-- Every slice becomes the same value. -/
def fill (spread : Spread α) (value : α) : Spread α :=
  ofList (spread.toList.map fun _ => value)

/-- A function applied to one slice, if the spread reaches that far. -/
def modify? (spread : Spread α) (index : Nat) (change : α → α) : Option (Spread α) :=
  if index < spread.count then some (ofList (spread.toList.modify index change)) else none

/-- One slice replaced, if the spread reaches that far. -/
def set? (spread : Spread α) (index : Nat) (value : α) : Option (Spread α) :=
  spread.modify? index fun _ => value

/-- The slices in the opposite order. -/
def reverse (spread : Spread α) : Spread α :=
  ofList spread.toList.reverse

/-- A function applied to every slice. -/
def map (change : α → β) (spread : Spread α) : Spread β :=
  ofList (spread.toList.map change)

@[simp] theorem toList_empty : (empty : Spread α).toList = [] := rfl

@[simp] theorem toList_push (spread : Spread α) (value : α) :
    (spread.push value).toList = spread.toList ++ [value] := rfl

@[simp] theorem toList_append (spread : Spread α) (values : List α) :
    (spread.append values).toList = spread.toList ++ values := rfl

@[simp] theorem toList_clear (spread : Spread α) : spread.clear.toList = [] := rfl

@[simp] theorem toList_fill (spread : Spread α) (value : α) :
    (spread.fill value).toList = List.replicate spread.count value := by
  simp [fill, count, List.map_const']

@[simp] theorem toList_map (change : α → β) (spread : Spread α) :
    (spread.map change).toList = spread.toList.map change := rfl

@[simp] theorem count_map (change : α → β) (spread : Spread α) :
    (spread.map change).count = spread.count :=
  List.length_map change

@[simp] theorem get?_map (change : α → β) (spread : Spread α) (index : Nat) :
    (spread.map change).get? index = (spread.get? index).map change :=
  List.getElem?_map

@[simp] theorem count_resize [Inhabited α] (spread : Spread α) (size : Nat) :
    (spread.resize size).count = size := by
  simp only [resize, count, List.length_append, List.length_take, List.length_replicate]
  omega

end Spread

end SpreadFlow
