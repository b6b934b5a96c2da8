/-
Module: SpreadFlow.Proofs.Text.ByteOrder
Purpose: The order of texts by their characters is the order of their UTF-8 bytes.
Main exports: Text.bytes, Text.bytes_lt_bytes_iff
-/
import Mathlib.Data.String.Basic

namespace SpreadFlow.Text

/-!
Texts are compared character by character.  Their encodings come in the same order: a greater
character either has a longer form, and then its first byte is greater, or a form of the same
length, whose bytes are the digits of its number, the most significant first.  No form is the
beginning of another, so what follows never matters.
-/

/-- The UTF-8 bytes of a text. -/
def bytes (text : String) : List UInt8 :=
  text.toUTF8.data.toList

theorem bytes_eq_flatMap (text : String) :
    bytes text = text.toList.flatMap String.utf8EncodeChar := by
  rw [bytes, String.toUTF8_eq_toByteArray, ← String.utf8Encode_toList, List.utf8Encode]
  simp

/-- The form of a lesser character comes first, whatever follows the two forms. -/
theorem utf8EncodeChar_append_lt {lesser greater : Char} (less : lesser < greater)
    (afterLesser afterGreater : List UInt8) :
    String.utf8EncodeChar lesser ++ afterLesser <
      String.utf8EncodeChar greater ++ afterGreater := by
  have numbers : lesser.val.toNat < greater.val.toNat := less
  have bound : greater.val.toNat < 0x110000 := by
    have valid := greater.valid
    simp only [UInt32.isValidChar, Nat.isValidChar] at valid
    omega
  have digit (number : Nat) : (number % 64 + 128) % 2 ^ 8 = number % 64 + 128 := by omega
  have lead (number : Nat) : (number % 8 + 240) % 2 ^ 8 = number % 8 + 240 := by omega
  -- Each digit to the base 64 is told from the one before it, not from the whole number.
  have twoDigits (number : Nat) : number / 4096 = number / 64 / 64 := by omega
  have threeDigits (number : Nat) : number / 262144 = number / 64 / 64 / 64 := by omega
  simp only [String.utf8EncodeChar]
  generalize lesser.val.toNat = low at numbers ⊢
  generalize greater.val.toNat = high at numbers bound ⊢
  split_ifs <;>
    simp only [List.cons_append, List.nil_append, List.cons_lt_cons_iff, UInt8.lt_iff_toNat_lt,
      ← UInt8.toNat_inj, UInt8.toNat_ofNat', digit, lead, twoDigits, threeDigits] <;>
    omega

theorem flatMap_utf8EncodeChar_lt {lesser greater : List Char} (less : lesser < greater) :
    lesser.flatMap String.utf8EncodeChar < greater.flatMap String.utf8EncodeChar := by
  induction less with
  | nil =>
      rename_i first rest
      obtain ⟨byte, others, shape⟩ :=
        List.exists_cons_of_ne_nil (String.utf8EncodeChar_ne_nil (c := first))
      rw [List.flatMap_cons, shape]
      exact .nil
  | rel less =>
      rw [List.flatMap_cons, List.flatMap_cons]
      exact utf8EncodeChar_append_lt less _ _
  | cons rest inductionHypothesis =>
      rw [List.flatMap_cons, List.flatMap_cons]
      exact List.append_left_lt inductionHypothesis

/-- One text is before another exactly if its bytes are. -/
theorem bytes_lt_bytes_iff {first second : String} :
    bytes first < bytes second ↔ first < second := by
  rw [bytes_eq_flatMap, bytes_eq_flatMap, String.lt_iff_toList_lt]
  constructor
  · intro less
    rcases lt_trichotomy first.toList second.toList with before | same | behind
    · exact before
    · rw [same] at less
      exact absurd less (List.lt_irrefl _)
    · exact absurd less (List.lt_asymm (flatMap_utf8EncodeChar_lt behind))
  · exact flatMap_utf8EncodeChar_lt

end SpreadFlow.Text
