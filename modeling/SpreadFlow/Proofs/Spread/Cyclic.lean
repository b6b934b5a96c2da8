/-
Module: SpreadFlow.Proofs.Spread.Cyclic
Purpose: Every cyclic index has one slot, and a host of 64 bits finds it without a fault, unless
  there are more slices than a signed integer can count.
Main exports: exists_euclideanRemainder, IsCyclicSlot, existsUnique_cyclicSlot, cyclicSlot?_eq,
  Spread.getCyclic?_of_isCyclicSlot, cyclic_reads
-/
import Mathlib.Algebra.Order.Group.Abs
import Mathlib.Algebra.Order.Ring.Int
import Mathlib.Data.Int.ModEq
import SpreadFlow.Spread.Cyclic
import SpreadFlow.Spread.Rows

namespace SpreadFlow

/-!
The reduction of a cyclic index could fault in two ways.  A divisor of zero is excluded because only
a positive count is divided by, and so is the divisor minus one, the only one by which the least
index has no quotient.  What is left is exact: the truncated remainder has the sign of the index,
and a negative one needs the count once more, which stays below it.

So the slot is found for every positive count that has a signed integer of 64 bits.  A spread of
slices without data can hold more, and then nothing is found although there are slots.
-/

/-! ### Checked words -/

theorem int64?_eq_some_iff {value : Int} {word : Int64} :
    int64? value = some word ↔ value = word.toInt := by
  have lower := word.le_toInt
  have upper := word.toInt_lt
  rw [int64?, Int64.toInt_minValue, Int64.toInt_maxValue]
  constructor
  · intro converted
    split at converted
    · rename_i inRange
      cases converted
      rw [Int64.toInt_ofInt_of_le inRange.1 (by omega)]
    · cases converted
  · rintro rfl
    rw [if_pos (by omega), Int64.ofInt_toInt]

theorem exists_int64? {value : Int} (lower : -2 ^ 63 ≤ value) (upper : value < 2 ^ 63) :
    ∃ word, int64? value = some word ∧ word.toInt = value := by
  have kept := Int64.toInt_ofInt_of_le lower upper
  exact ⟨Int64.ofInt value, int64?_eq_some_iff.mpr kept.symm, kept⟩

theorem exists_checkedInt64 {value : Int} (lower : -2 ^ 63 ≤ value) (upper : value < 2 ^ 63) :
    ∃ word, checkedInt64 value = .ok word ∧ word.toInt = value := by
  obtain ⟨word, converted, kept⟩ := exists_int64? lower upper
  exact ⟨word, by rw [checkedInt64, converted], kept⟩

theorem natural?_of_nonneg {word : Int64} (nonneg : 0 ≤ word.toInt) :
    natural? word = some word.toInt.toNat := by
  have unsigned : ¬ word < 0 := by
    rw [Int64.lt_iff_toInt_lt, Int64.toInt_zero]
    exact not_lt.mpr nonneg
  rw [natural?, if_neg unsigned]
  rfl

/-! ### Remainders -/

/-- A truncated remainder that is not negative is the Euclidean one.  A negative one is short of it
by the size of the divisor. -/
theorem emod_eq_of_tmod (dividend divisor : Int) :
    dividend % divisor =
      if dividend.tmod divisor < 0 then dividend.tmod divisor + |divisor|
      else dividend.tmod divisor := by
  by_cases zero : divisor = 0
  · rw [zero, Int.emod_zero, Int.tmod_zero, abs_zero, add_zero, ite_self]
  · have nonneg : 0 ≤ dividend % divisor := Int.emod_nonneg dividend zero
    have below : dividend % divisor < |divisor| := Int.emod_lt_abs dividend zero
    rw [Int.tmod_eq_emod]
    by_cases exact : 0 ≤ dividend ∨ divisor ∣ dividend
    · rw [if_pos exact, Nat.cast_zero, sub_zero, if_neg (not_lt.mpr nonneg)]
    · rw [if_neg exact, Int.natCast_natAbs, if_pos (sub_neg.mpr below), sub_add_cancel]

/-- What a division that is not refused leaves to be done. -/
theorem euclideanRemainder_eq {dividend divisor : Int64}
    (divided : truncatedRemainder dividend divisor = .ok (dividend % divisor)) :
    euclideanRemainder dividend divisor =
      if (dividend % divisor).toInt < 0 then
        checkedInt64 ((dividend % divisor).toInt + |divisor.toInt|)
      else .ok (dividend % divisor) := by
  have steps : euclideanRemainder dividend divisor =
      if dividend % divisor < 0 then
        if divisor < 0 then checkedInt64 ((dividend % divisor).toInt - divisor.toInt)
        else checkedInt64 ((dividend % divisor).toInt + divisor.toInt)
      else .ok (dividend % divisor) := by
    rw [euclideanRemainder, divided]
    rfl
  rw [steps]
  simp only [Int64.lt_iff_toInt_lt, Int64.toInt_zero]
  by_cases negative : divisor.toInt < 0
  · rw [if_pos negative, abs_of_neg negative, sub_eq_add_neg]
  · rw [if_neg negative, abs_of_nonneg (not_lt.mp negative)]

/-- Except for the two divisions that are refused, the steps in words give the remainder of the
integers. -/
theorem exists_euclideanRemainder {dividend divisor : Int64} (notZero : divisor ≠ 0)
    (hasQuotient : ¬ (dividend = Int64.minValue ∧ divisor = -1)) :
    ∃ remainder, euclideanRemainder dividend divisor = .ok remainder ∧
      remainder.toInt = dividend.toInt % divisor.toInt := by
  have divided : truncatedRemainder dividend divisor = .ok (dividend % divisor) := by
    rw [truncatedRemainder, if_neg notZero, if_neg hasQuotient]
  have corrected := emod_eq_of_tmod dividend.toInt divisor.toInt
  rw [← Int64.toInt_mod] at corrected
  rw [euclideanRemainder_eq divided]
  by_cases negative : (dividend % divisor).toInt < 0
  · rw [if_pos negative] at corrected ⊢
    rw [← corrected]
    have intNotZero : divisor.toInt ≠ 0 := by
      rw [← Int64.toInt_zero]
      exact fun zero => notZero (Int64.toInt_inj.mp zero)
    have nonneg := Int.emod_nonneg dividend.toInt intNotZero
    have below := Int.emod_lt_abs dividend.toInt intNotZero
    have size : |divisor.toInt| ≤ 2 ^ 63 :=
      abs_le.mpr ⟨divisor.le_toInt, divisor.toInt_lt.le⟩
    exact exists_checkedInt64 (by omega) (by omega)
  · rw [if_neg negative] at corrected ⊢
    exact ⟨dividend % divisor, rfl, corrected.symm⟩

/-! ### Slots -/

/-- The index differs from the slot by whole rounds. -/
structure IsCyclicSlot (count : Nat) (index : Int) (slot : Nat) : Prop where
  below : slot < count
  modEq : slot ≡ index [ZMOD count]

theorem isCyclicSlot_iff {count : Nat} {index : Int} {slot : Nat} :
    IsCyclicSlot count index slot ↔ 0 < count ∧ slot = (index % count).toNat := by
  constructor
  · rintro ⟨below, modEq⟩
    have reduced : (slot : Int) % count = slot :=
      Int.emod_eq_of_lt (Int.natCast_nonneg slot) (by exact_mod_cast below)
    refine ⟨Nat.zero_lt_of_lt below, ?_⟩
    rw [← modEq.eq, reduced, Int.toNat_natCast]
  · rintro ⟨positive, rfl⟩
    have intPositive : (0 : Int) < count := by exact_mod_cast positive
    have nonneg := Int.emod_nonneg index intPositive.ne'
    have below := Int.emod_lt_of_pos index intPositive
    refine ⟨by omega, ?_⟩
    rw [Int.toNat_of_nonneg nonneg]
    exact Int.mod_modEq index count

theorem existsUnique_cyclicSlot {count : Nat} (index : Int) (positive : 0 < count) :
    ∃! slot, IsCyclicSlot count index slot := by
  refine ⟨_, isCyclicSlot_iff.mpr ⟨positive, rfl⟩, ?_⟩
  intro slot other
  exact (isCyclicSlot_iff.mp other).2

/-- A positive word can divide every index. -/
theorem exists_remainder_of_positive {divisor : Int64} (positive : 0 < divisor.toInt)
    (index : Int64) :
    ∃ remainder, euclideanRemainder index divisor = .ok remainder ∧
      remainder.toInt = index.toInt % divisor.toInt := by
  apply exists_euclideanRemainder
  · rintro rfl
    exact absurd positive (by decide)
  · rintro ⟨-, rfl⟩
    exact absurd positive (by decide)

/-- Only a count that is positive and has a word is divided by. -/
theorem cyclicSlot?_eq (count : Nat) (index : Int64) :
    cyclicSlot? count index =
      .ok (if 0 < count ∧ count < 2 ^ 63 then some (index.toInt % count).toNat else none) := by
  by_cases held : count < 2 ^ 63
  · obtain ⟨divisor, converted, divisorIs⟩ :
        ∃ divisor, int64? count = some divisor ∧ divisor.toInt = count :=
      exists_int64? (by omega) (by exact_mod_cast held)
    have positive_iff : 0 < divisor ↔ 0 < count := by
      rw [Int64.lt_iff_toInt_lt, Int64.toInt_zero, divisorIs, Int.natCast_pos]
    rw [cyclicSlot?, converted, Option.filter_some]
    by_cases positive : 0 < count
    · obtain ⟨remainder, computed, remainderIs⟩ :=
        exists_remainder_of_positive (by rw [divisorIs]; exact_mod_cast positive) index
      have nonneg : 0 ≤ remainder.toInt := by
        rw [remainderIs]
        exact Int.emod_nonneg _ (by omega)
      rw [if_pos (decide_eq_true (positive_iff.mpr positive)), if_pos ⟨positive, held⟩,
        ← divisorIs, ← remainderIs, ← natural?_of_nonneg nonneg]
      change (do let remainder ← euclideanRemainder index divisor; return natural? remainder) = _
      rw [computed]
      rfl
    · rw [if_neg (by simpa [positive_iff] using positive), if_neg (by omega)]
      rfl
  · have far : int64? count = none := by
      rw [int64?, Int64.toInt_maxValue, if_neg (by omega)]
    rw [cyclicSlot?, far, if_neg (by omega)]
    rfl

/-- The host never faults, and what it finds is the slot of the index. -/
theorem exists_cyclicSlot? (count : Nat) (index : Int64) :
    ∃ slot, cyclicSlot? count index = .ok slot ∧
      ∀ found ∈ slot, IsCyclicSlot count index.toInt found := by
  refine ⟨_, cyclicSlot?_eq count index, ?_⟩
  intro found isFound
  rw [Option.mem_ite_none_right, Option.mem_some_iff] at isFound
  exact isCyclicSlot_iff.mpr ⟨isFound.1.1, isFound.2.symm⟩

/-! ### Slices -/

namespace Spread

variable {α : Type} {spread : Spread α}

/-- No step of a cyclic read faults, and it reads the slot if the count has a signed integer. -/
theorem readCyclic_eq (spread : Spread α) (index : Int64) :
    spread.readCyclic index =
      .ok (if 0 < spread.count ∧ spread.count < 2 ^ 63 then
        spread.get? (index.toInt % spread.count).toNat else none) := by
  rw [readCyclic, cyclicSlot?_eq]
  split
  · rfl
  · rfl

theorem readCyclic_eq_ok (spread : Spread α) (index : Int64) :
    spread.readCyclic index = .ok (spread.getCyclic? index) := by
  rw [getCyclic?, readCyclic_eq]

theorem getCyclic?_eq (spread : Spread α) (index : Int64) :
    spread.getCyclic? index =
      if 0 < spread.count ∧ spread.count < 2 ^ 63 then
        spread.get? (index.toInt % spread.count).toNat else none := by
  rw [getCyclic?, readCyclic_eq]

/-- The slice at a cyclic index is the one at its slot. -/
theorem getCyclic?_of_isCyclicSlot {index : Int64} {slot : Nat} (held : spread.count < 2 ^ 63)
    (isSlot : IsCyclicSlot spread.count index.toInt slot) :
    spread.getCyclic? index = spread.get? slot := by
  obtain ⟨positive, slotIs⟩ := isCyclicSlot_iff.mp isSlot
  rw [getCyclic?_eq, if_pos ⟨positive, held⟩, slotIs]

/-- No slice is found if there are none, or more than a signed integer can count. -/
theorem getCyclic?_eq_none_iff (spread : Spread α) (index : Int64) :
    spread.getCyclic? index = none ↔ spread.count = 0 ∨ 2 ^ 63 ≤ spread.count := by
  rw [getCyclic?_eq]
  by_cases counted : 0 < spread.count ∧ spread.count < 2 ^ 63
  · have isSlot : IsCyclicSlot spread.count index.toInt (index.toInt % spread.count).toNat :=
      isCyclicSlot_iff.mpr ⟨counted.1, rfl⟩
    have found : spread.get? (index.toInt % spread.count).toNat ≠ none :=
      fun missing => absurd isSlot.below (not_lt.mpr (List.getElem?_eq_none_iff.mp missing))
    rw [if_pos counted]
    exact iff_of_false found (by omega)
  · rw [if_neg counted]
    exact iff_of_true rfl (by omega)

/-- Whole rounds make no difference, however many slices there are. -/
theorem getCyclic?_congr {index other : Int64}
    (rounds : other.toInt ≡ index.toInt [ZMOD spread.count]) :
    spread.getCyclic? other = spread.getCyclic? index := by
  rw [getCyclic?_eq, getCyclic?_eq, rounds.eq]

end Spread

/-- Minus one is the last slot, and so on down to the first. -/
theorem isCyclicSlot_neg {count back : Nat} (positive : 1 ≤ back) (within : back ≤ count) :
    IsCyclicSlot count (-back) (count - back) := by
  refine ⟨by omega, Int.modEq_iff_dvd.mpr ⟨-1, ?_⟩⟩
  push_cast [within]
  omega

/-- A cell is missing if the cyclic read of the row, or the one in it, finds nothing. -/
theorem cell?_eq_none_iff {α : Type} {rows : Spread (Spread α)} {row column : Int64} :
    RowCommand.cell? rows row column = none ↔
      (rows.count = 0 ∨ 2 ^ 63 ≤ rows.count) ∨
        ∃ addressed, rows.getCyclic? row = some addressed ∧
          (addressed.count = 0 ∨ 2 ^ 63 ≤ addressed.count) := by
  rw [RowCommand.cell?, ← Spread.getCyclic?_eq_none_iff rows row]
  cases rows.getCyclic? row with
  | none => simp
  | some addressed => simp [Spread.getCyclic?_eq_none_iff]

/-- No step of a cyclic read faults, whatever the count and the index, and any slot it finds is that
of the index: the only one that differs from the index by whole rounds.  Of fewer than `2 ^ 63`
slices it finds the one at this slot.  So an index in range is its own slot, and negative ones count
back from the end.  It finds none if there are no slices, and also if there are as many as that or
more.  Whole rounds never make a difference.  A cell of a spread of rows is missing if nothing is
found among the rows or in the row. -/
theorem cyclic_reads {α : Type} (spread : Spread α) (index : Int64) :
    (∃ slot, cyclicSlot? spread.count index = .ok slot ∧
        ∀ found ∈ slot, IsCyclicSlot spread.count index.toInt found) ∧
      spread.readCyclic index = .ok (spread.getCyclic? index) ∧
      (spread.getCyclic? index = none ↔ spread.count = 0 ∨ 2 ^ 63 ≤ spread.count) ∧
      (spread.count ≠ 0 → ∃! slot, IsCyclicSlot spread.count index.toInt slot) ∧
      (spread.count < 2 ^ 63 →
        (∀ slot, IsCyclicSlot spread.count index.toInt slot →
          spread.getCyclic? index = spread.get? slot) ∧
        (∀ slot : Nat, slot < spread.count → index.toInt = slot →
          spread.getCyclic? index = spread.get? slot) ∧
        ∀ back : Nat, 1 ≤ back → back ≤ spread.count → index.toInt = -back →
          spread.getCyclic? index = spread.get? (spread.count - back)) ∧
      (∀ (other : Int64) (rounds : ℤ), other.toInt = index.toInt + rounds * spread.count →
        spread.getCyclic? other = spread.getCyclic? index) ∧
      ∀ (rows : Spread (Spread α)) (column : Int64),
        RowCommand.cell? rows index column = none ↔
          (rows.count = 0 ∨ 2 ^ 63 ≤ rows.count) ∨
            ∃ addressed, rows.getCyclic? index = some addressed ∧
              (addressed.count = 0 ∨ 2 ^ 63 ≤ addressed.count) := by
  refine ⟨exists_cyclicSlot? spread.count index, spread.readCyclic_eq_ok index,
    spread.getCyclic?_eq_none_iff index, ?_, ?_, ?_, fun _ _ => cell?_eq_none_iff⟩
  · intro notEmpty
    exact existsUnique_cyclicSlot index.toInt (Nat.pos_of_ne_zero notEmpty)
  · intro held
    refine ⟨fun slot => Spread.getCyclic?_of_isCyclicSlot held, ?_, ?_⟩
    · intro slot below same
      exact Spread.getCyclic?_of_isCyclicSlot held ⟨below, by rw [same]⟩
    · intro back positive within same
      exact Spread.getCyclic?_of_isCyclicSlot held (same ▸ isCyclicSlot_neg positive within)
  · intro other rounds same
    apply Spread.getCyclic?_congr
    rw [same]
    exact Int.add_mul_emod_self_right _ _ _

/-- Three slices at the least index, and at that index moved to the greatest by whole rounds. -/
theorem cyclic_reads_at_limits :
    let spread : Spread Nat := .ofList [10, 20, 30]
    spread.count ≠ 0 ∧ spread.count < 2 ^ 63 ∧
      (∃! slot, IsCyclicSlot spread.count Int64.minValue.toInt slot) ∧
      Int64.maxValue.toInt = Int64.minValue.toInt + 6148914691236517205 * spread.count ∧
      spread.getCyclic? Int64.minValue = some 20 ∧
      spread.getCyclic? Int64.maxValue = some 20 ∧
      (-1 : Int64).toInt = -(1 : Nat) ∧ spread.getCyclic? (-1) = some 30 := by
  intro spread
  have held : spread.count < 2 ^ 63 := by decide
  obtain ⟨-, -, -, unique, found, moved, -⟩ := cyclic_reads spread Int64.minValue
  have isSlot : IsCyclicSlot spread.count Int64.minValue.toInt 1 := ⟨by decide, by decide⟩
  have least : spread.getCyclic? Int64.minValue = some 20 := (found held).1 1 isSlot
  have rounds : Int64.maxValue.toInt =
      Int64.minValue.toInt + 6148914691236517205 * spread.count := by decide
  have last : (-1 : Int64).toInt = -(1 : Nat) := by decide
  have back := ((cyclic_reads spread (-1)).2.2.2.2.1 held).2.2 1 (by decide) (by decide) last
  exact ⟨by decide, held, unique (by decide), rounds, least,
    (moved Int64.maxValue 6148914691236517205 rounds).trans least, last, back⟩

/-- As many slices without data as a host of 64 bits can hold.  There is a first one and index zero
has its slot, but the cyclic read finds none. -/
theorem cyclic_read_misses :
    let spread : Spread Unit := .ofList (List.replicate (2 ^ 64 - 1) ())
    spread.count = 2 ^ 64 - 1 ∧ IsCyclicSlot spread.count (0 : Int64).toInt 0 ∧
      spread.get? 0 = some () ∧ spread.readCyclic 0 = .ok none := by
  intro spread
  have count : spread.count = 2 ^ 64 - 1 := List.length_replicate
  have missed : spread.getCyclic? 0 = none :=
    (spread.getCyclic?_eq_none_iff 0).mpr (.inr (by omega))
  refine ⟨count, ⟨by omega, .rfl⟩, ?_, ?_⟩
  · exact List.getElem?_replicate_of_lt (by omega)
  · rw [spread.readCyclic_eq_ok, missed]

end SpreadFlow
