/-
Module: SpreadFlow.Outcome
Purpose: Results of evaluations that may fail and that are watched while they run.
Main exports: Outcome, Outcome.bind, Outcome.emit, Outcome.mapError, Outcome.mapTrace
-/

namespace SpreadFlow

/-!
An outcome is a value or an error together with the *trace*, what was observed on the way, in
order.  The trace of a failed evaluation holds what was observed before the failure.
-/

/-- A value or an error, and the observations made before it was there. -/
@[ext]
structure Outcome (ω ε α : Type) where
  trace : List ω
  result : Except ε α

namespace Outcome

variable {ω ω' ε ε' α β : Type}

/-- A value, with nothing observed. -/
def ok (value : α) : Outcome ω ε α :=
  ⟨[], .ok value⟩

/-- An error, with nothing observed. -/
def fail (error : ε) : Outcome ω ε α :=
  ⟨[], .error error⟩

/-- Observations alone. -/
def emit (observations : List ω) : Outcome ω ε Unit :=
  ⟨observations, .ok ()⟩

/-- The outcome of a second evaluation after a first.  An error of the first is the error of both,
and the second does not run. -/
def bind (first : Outcome ω ε α) (second : α → Outcome ω ε β) : Outcome ω ε β :=
  match first.result with
  | .error error => ⟨first.trace, .error error⟩
  | .ok value =>
      let next := second value
      ⟨first.trace ++ next.trace, next.result⟩

instance : Monad (Outcome ω ε) where
  pure := ok
  bind := bind

/-- A function applied to the error, if there is one. -/
def mapError (change : ε → ε') (outcome : Outcome ω ε α) : Outcome ω ε' α :=
  ⟨outcome.trace, outcome.result.mapError change⟩

/-- A function applied to every observation. -/
def mapTrace (change : ω → ω') (outcome : Outcome ω ε α) : Outcome ω' ε α :=
  ⟨outcome.trace.map change, outcome.result⟩

instance : LawfulMonad (Outcome ω ε) := by
  refine LawfulMonad.mk' _ ?_ ?_ ?_
  · rintro α ⟨trace, result⟩
    cases result <;> simp [Functor.map, bind, ok]
  · intro α β value second
    simp [Bind.bind, Pure.pure, bind, ok]
  · rintro α β γ ⟨trace, result⟩ second third
    cases result with
    | error error => rfl
    | ok value =>
        simp only [Bind.bind, bind]
        cases (second value).result <;> simp

end Outcome

end SpreadFlow
