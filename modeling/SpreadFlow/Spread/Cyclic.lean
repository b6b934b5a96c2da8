/-
Module: SpreadFlow.Spread.Cyclic
Purpose: The cyclic read as a host of 64 bits computes it.
Main exports: cyclicSlot?, Spread.readCyclic, Spread.getCyclic?
-/
import SpreadFlow.Spread.Basic
import SpreadFlow.Word

namespace SpreadFlow

/-!
A cyclic read counts round and round in both directions, so every index is as good as one in range.
The index is a signed integer of 64 bits, and a count is unsigned.  So the count is first taken for
a signed integer, the index is reduced by it, and the remainder is taken for an unsigned one again.
Both conversions can find nothing, and the reduction can fault.

Slices that take memory are always fewer than `2 ^ 63`.  Those of a type without data take none, and
a host holds up to `2 ^ 64 - 1` of them.  Such a count may have no signed integer, and then the read
finds no slice.
-/

/-- The slot of a cyclic index among `count` slots.  There is none if the count has no positive
64-bit integer. -/
def cyclicSlot? (count : Nat) (index : Int64) : Except WordFault (Option Nat) :=
  match (int64? count).filter (0 < ·) with
  | none => return none
  | some divisor => do
      let remainder ← euclideanRemainder index divisor
      return natural? remainder

namespace Spread

variable {α : Type}

/-- The slice at a cyclic index, or what stopped the computation of its slot. -/
def readCyclic (spread : Spread α) (index : Int64) : Except WordFault (Option α) := do
  let slot ← cyclicSlot? spread.count index
  return slot.bind spread.get?

/-- The slice at a cyclic index.  A computation that was stopped would have found none. -/
def getCyclic? (spread : Spread α) (index : Int64) : Option α :=
  match spread.readCyclic index with
  | .ok slice => slice
  | .error _ => none

end Spread

end SpreadFlow
