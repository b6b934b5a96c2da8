/-
Module: SpreadFlow.Proofs.Text.LetterCase
Purpose: Which texts are the same once their ASCII letters are in lower case.
Main exports: Text.SameButCase, Text.toLower_eq_iff, Text.map_toLower_eq_iff
-/
import Mathlib.Data.List.Forall2

namespace SpreadFlow.Text

/-!
Lower case is known for the letters of ASCII alone.  Two texts have the same lower-case form exactly
if they are of one length and each two characters in one place are the same or a capital and a small
ASCII letter of one name.  Letters beyond ASCII have no second form: `Ä` is not `ä`.
-/

/-- A capital ASCII letter and the small one of the same name, which comes 32 places after it. -/
def AreForms (capital small : Char) : Prop :=
  'A' ≤ capital ∧ capital ≤ 'Z' ∧ small.toNat = capital.toNat + 32

/-- The same character, or the two forms of one ASCII letter. -/
def SameLetter (first second : Char) : Prop :=
  first = second ∨ AreForms first second ∨ AreForms second first

/-- Texts that differ in nothing but the case of ASCII letters. -/
def SameButCase (first second : String) : Prop :=
  List.Forall₂ SameLetter first.toList second.toList

instance (capital small : Char) : Decidable (AreForms capital small) :=
  inferInstanceAs (Decidable (_ ∧ _))

instance (first second : Char) : Decidable (SameLetter first second) :=
  inferInstanceAs (Decidable (_ ∨ _))

instance (first second : String) : Decidable (SameButCase first second) :=
  inferInstanceAs (Decidable (List.Forall₂ SameLetter _ _))

theorem toNat_toLower_of_capital {character : Char}
    (capital : 'A' ≤ character ∧ character ≤ 'Z') :
    character.toLower.toNat = character.toNat + 32 := by
  have atMost : character.val.toNat ≤ 90 := capital.2
  have noOverflow : character.val.toNat + 32 < 2 ^ 32 := by omega
  have lowered : character.toLower.val = character.val + 32 := congrArg Char.val (dif_pos capital)
  rw [← Char.toNat_val, lowered, UInt32.toNat_add]
  exact Nat.mod_eq_of_lt noOverflow

theorem toLower_eq_self {character : Char} (other : ¬ ('A' ≤ character ∧ character ≤ 'Z')) :
    character.toLower = character :=
  dif_neg other

theorem toNat_toLower (character : Char) :
    character.toLower.toNat =
      if 65 ≤ character.toNat ∧ character.toNat ≤ 90 then character.toNat + 32
      else character.toNat := by
  split
  · rename_i capital
    exact toNat_toLower_of_capital capital
  · rename_i other
    rw [toLower_eq_self other]

/-- Small letters are no capitals, so nothing else is brought together. -/
theorem toLower_eq_iff {first second : Char} :
    first.toLower = second.toLower ↔ SameLetter first second := by
  have capital (character : Char) :
      'A' ≤ character ∧ character ≤ 'Z' ↔ 65 ≤ character.toNat ∧ character.toNat ≤ 90 := Iff.rfl
  rw [← Char.toNat_inj, toNat_toLower, toNat_toLower, SameLetter, AreForms, AreForms, ← and_assoc,
    ← and_assoc, capital, capital, ← Char.toNat_inj]
  split_ifs <;> omega

/-- Texts have the same lower-case form exactly if they differ in nothing but case. -/
theorem map_toLower_eq_iff {first second : String} :
    first.toList.map Char.toLower = second.toList.map Char.toLower ↔ SameButCase first second := by
  rw [SameButCase, ← List.forall₂_eq_eq_eq, List.forall₂_map_left_iff, List.forall₂_map_right_iff]
  simp only [toLower_eq_iff]

end SpreadFlow.Text
