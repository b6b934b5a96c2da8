/-
Module: SpreadFlow.Text.Quotation
Purpose: Texts between double quotes, with escapes that begin with a backslash.
Main exports: Quotation, Quotation.read?
-/

namespace SpreadFlow

/-!
Several formats write strings between double quotes, with escapes for the characters that cannot
stand there.  They differ in which characters may stand for themselves and in the escapes, and
agree in all else: the first quote that is not part of an escape ends the text.
-/

/-- A format's rules for what is between the quotes. -/
structure Quotation where
  /-- The characters that may stand for themselves, quote and backslash apart. -/
  allows : Char → Bool
  /-- The characters that an escape stands for, read from after its backslash. -/
  escape? : List Char → Option (List Char × List Char)
  escape?_shorter : ∀ {text rest meaning : List Char},
    escape? text = some (meaning, rest) → rest.length < text.length

namespace Quotation

/-- The characters up to the closing quote, read from after the opening one, with what follows. -/
def read? (form : Quotation) (text : List Char) : Option (List Char × List Char) :=
  match text with
  | [] => none
  | '"' :: rest => some ([], rest)
  | '\\' :: rest =>
      match _ : form.escape? rest with
      | none => none
      | some (meaning, after) =>
          (form.read? after).map fun (characters, last) => (meaning ++ characters, last)
  | character :: rest =>
      if form.allows character then
        (form.read? rest).map fun (characters, last) => (character :: characters, last)
      else none
termination_by text.length
decreasing_by
  · have := form.escape?_shorter (by assumption)
    simp only [List.length_cons]
    omega
  · simp

/-- A quoted text takes at least its closing quote. -/
theorem read?_shorter {form : Quotation} {text rest characters : List Char}
    (read : form.read? text = some (characters, rest)) : rest.length < text.length := by
  fun_induction Quotation.read? form text generalizing characters rest with
  | case1 => simp at read
  | case2 tail =>
      simp only [Option.some.injEq, Prod.mk.injEq] at read
      obtain ⟨-, rfl⟩ := read
      simp
  | case3 => simp at read
  | case4 tail meaning after escape inductionHypothesis =>
      simp only [Option.map_eq_some_iff, Prod.mk.injEq] at read
      obtain ⟨⟨inner, last⟩, inside, -, rfl⟩ := read
      have := inductionHypothesis inside
      have := form.escape?_shorter escape
      simp only [List.length_cons]
      omega
  | case5 character tail _ _ _ inductionHypothesis =>
      simp only [Option.map_eq_some_iff, Prod.mk.injEq] at read
      obtain ⟨⟨inner, last⟩, inside, -, rfl⟩ := read
      have := inductionHypothesis inside
      simp only [List.length_cons]
      omega
  | case6 => simp at read

/-- Characters that stand for themselves are read as they are, up to the closing quote. -/
theorem read?_append {form : Quotation} {body : List Char}
    (plain : ∀ character ∈ body,
      form.allows character = true ∧ character ≠ '"' ∧ character ≠ '\\')
    (rest : List Char) : form.read? (body ++ '"' :: rest) = some (body, rest) := by
  induction body with
  | nil => rw [List.nil_append, read?]
  | cons character body inductionHypothesis =>
      obtain ⟨⟨allowed, noQuote, noBackslash⟩, others⟩ := List.forall_mem_cons.mp plain
      rw [List.cons_append, read?.eq_4 _ _ _ noQuote noBackslash, if_pos allowed,
        inductionHypothesis others]
      rfl

end Quotation

end SpreadFlow
