/-
Module: SpreadFlow.Proofs.Node.Context
Purpose: Patches with a hole, and what an evaluation does in the hole and around it.
Main exports: Patch.Context, Patch.Context.plug, Patch.Context.input?,
  Patch.Context.journal_plug_of_reached, Patch.Context.journal_plug_of_unreached
-/
import SpreadFlow.Proofs.Node.Journal

namespace SpreadFlow.Patch

/-!
A part of a patch is what stands in the hole of a context.  The context alone decides whether an
evaluation reaches the hole and with which input, since only what runs before has a say in it.  The
calls of the part stand together in the journal.  All other calls are outside the part.
-/

/-- A patch with a hole for a part that has errors `ε₀`, inputs `α₀` and outputs `β₀`. -/
inductive Context (ω ε₀ α₀ β₀ : Type) : Type → Type → Type → Type 1 where
  | hole : Context ω ε₀ α₀ β₀ ε₀ α₀ β₀
  | inFirst {ε α β γ : Type} (context : Context ω ε₀ α₀ β₀ ε α β) (second : Patch ω ε β γ) :
      Context ω ε₀ α₀ β₀ ε α γ
  | inSecond {ε α β γ : Type} (first : Patch ω ε α β) (context : Context ω ε₀ α₀ β₀ ε β γ) :
      Context ω ε₀ α₀ β₀ ε α γ
  | inAdapted {ε α α' β β' : Type} (toInner : α' → α) (toOuter : α' → β → β')
      (context : Context ω ε₀ α₀ β₀ ε α β) : Context ω ε₀ α₀ β₀ ε α' β'
  | inMapped {ε ε' α β : Type} (change : ε → ε') (context : Context ω ε₀ α₀ β₀ ε α β) :
      Context ω ε₀ α₀ β₀ ε' α β
  | inObserved {ε α β : Type} (before : α → List ω) (after : β → List ω)
      (context : Context ω ε₀ α₀ β₀ ε α β) : Context ω ε₀ α₀ β₀ ε α β

namespace Context

variable {ω ε₀ α₀ β₀ ε α β γ : Type}

/-- The patch with a part in the hole. -/
def plug {ε α β : Type} (context : Context ω ε₀ α₀ β₀ ε α β) (part : Patch ω ε₀ α₀ β₀) :
    Patch ω ε α β :=
  match context with
  | .hole => part
  | .inFirst context second => .chain (context.plug part) second
  | .inSecond first context => .chain first (context.plug part)
  | .inAdapted toInner toOuter context => .adapt toInner toOuter (context.plug part)
  | .inMapped change context => .mapError change (context.plug part)
  | .inObserved before after context => .observe before after (context.plug part)

/-- The position of the hole. -/
def position {ε α β : Type} : Context ω ε₀ α₀ β₀ ε α β → Position
  | .hole => []
  | .inFirst context _ => .first :: context.position
  | .inSecond _ context => .second :: context.position
  | .inAdapted _ _ context | .inMapped _ context | .inObserved _ _ context =>
      .inner :: context.position

/-- The input of the hole, if an evaluation reaches it.  A failure of the first node of a chain
keeps it from the second. -/
def input? {ε α β : Type} : Context ω ε₀ α₀ β₀ ε α β → α → Option α₀
  | .hole, input => some input
  | .inFirst context _, input => context.input? input
  | .inSecond first context, input =>
      match (first.node.evaluate input).result with
      | .ok middle => context.input? middle
      | .error _ => none
  | .inAdapted toInner _ context, input => context.input? (toInner input)
  | .inMapped _ context, input => context.input? input
  | .inObserved _ _ context, input => context.input? input

/-- The hole behind a first node is reached from that node's output. -/
theorem exists_middle {first : Patch ω ε α γ} {context : Context ω ε₀ α₀ β₀ ε γ β} {input : α}
    {received : α₀} (reached : (inSecond first context).input? input = some received) :
    ∃ middle, (first.node.evaluate input).result = .ok middle ∧
      context.input? middle = some received := by
  rw [input?] at reached
  cases firstResult : (first.node.evaluate input).result with
  | error error =>
      rw [firstResult] at reached
      cases reached
  | ok middle =>
      rw [firstResult] at reached
      exact ⟨middle, rfl, reached⟩

end Context

/-! ### Calls in and around a part -/

variable {ω ε₀ α₀ β₀ ε α β : Type}

/-- None of the calls is in the part at the position. -/
def Avoids (calls : List (Call ω)) (position : Position) : Prop :=
  ∀ call ∈ calls, ¬ position <+: call.position

theorem avoids_nil (position : Position) : Avoids ([] : List (Call ω)) position :=
  fun _ member => absurd member List.not_mem_nil

theorem Avoids.append {earlier later : List (Call ω)} {position : Position}
    (avoidsEarlier : Avoids earlier position) (avoidsLater : Avoids later position) :
    Avoids (earlier ++ later) position :=
  List.forall_mem_append.mpr ⟨avoidsEarlier, avoidsLater⟩

/-- Calls that avoid a part of a place are still off it when the place is seen from outside. -/
theorem Avoids.under {calls : List (Call ω)} {position : Position} (avoids : Avoids calls position)
    (outer : Position) : Avoids (calls.map (Call.under outer)) (outer ++ position) := by
  intro call member inside
  obtain ⟨inner, innerMember, rfl⟩ := List.mem_map.mp member
  exact avoids inner innerMember ((List.prefix_append_right_inj outer).mp inside)

/-- What avoids a place avoids all parts of it. -/
theorem Avoids.deeper {calls : List (Call ω)} {position : Position} (avoids : Avoids calls position)
    (inner : Position) : Avoids calls (position ++ inner) := by
  intro call member inside
  exact avoids call member ((List.prefix_append position inner).trans inside)

theorem avoids_other {branch other : Branch} (different : branch ≠ other) (calls : List (Call ω)) :
    Avoids (calls.map (Call.under [other])) [branch] := by
  intro call member inside
  obtain ⟨inner, -, rfl⟩ := List.mem_map.mp member
  exact different (List.cons_prefix_cons.mp inside).1

/-- A function that stands at the root is in no branch. -/
theorem avoids_root (branch : Branch) (action : Action ω) : Avoids [⟨[], action⟩] [branch] := by
  intro call member inside
  rw [List.mem_singleton.mp member] at inside
  exact absurd inside (by simp)

/-- What a branch avoids is avoided by the composition, whatever is called around the branch. -/
theorem Avoids.around {calls front back : List (Call ω)} {position : Position} {branch : Branch}
    (avoids : Avoids calls position) (avoidsFront : Avoids front [branch])
    (avoidsBack : Avoids back [branch]) :
    Avoids (front ++ calls.map (Call.under [branch]) ++ back) (branch :: position) :=
  ((avoidsFront.deeper position).append (avoids.under [branch])).append (avoidsBack.deeper position)

theorem avoids_onSuccess {result : Except ε β} {calls : β → List (Call ω)} {position : Position}
    (avoids : ∀ output, Avoids (calls output) position) :
    Avoids (onSuccess result calls) position := by
  cases result with
  | error error => exact avoids_nil position
  | ok output => exact avoids output

theorem avoids_onFailure {result : Except ε β} {calls : ε → List (Call ω)} {position : Position}
    (avoids : ∀ error, Avoids (calls error) position) :
    Avoids (onFailure result calls) position := by
  cases result with
  | error error => exact avoids error
  | ok output => exact avoids_nil position

/-- The calls of a part stand together among others, which are all outside it. -/
def Encloses (calls : List (Call ω)) (position : Position) (part : List (Call ω)) : Prop :=
  ∃ earlier later, calls = earlier ++ part.map (Call.under position) ++ later ∧
    Avoids earlier position ∧ Avoids later position

/-- What a branch encloses is enclosed by the composition, whatever is called around the branch. -/
theorem Encloses.under {calls part front back : List (Call ω)} {position : Position}
    {branch : Branch} (encloses : Encloses calls position part)
    (avoidsFront : Avoids front [branch])
    (avoidsBack : Avoids back [branch]) :
    Encloses (front ++ calls.map (Call.under [branch]) ++ back) (branch :: position) part := by
  obtain ⟨earlier, later, rfl, avoidsEarlier, avoidsLater⟩ := encloses
  refine ⟨front ++ earlier.map (Call.under [branch]), later.map (Call.under [branch]) ++ back, ?_,
    (avoidsFront.deeper position).append (avoidsEarlier.under [branch]),
    (avoidsLater.under [branch]).append (avoidsBack.deeper position)⟩
  simp only [List.map_append, List.map_map, Call.under_comp, List.cons_append, List.nil_append,
    List.append_assoc]

namespace Context

/-- The calls of a part that is reached stand together in the journal. -/
theorem journal_plug_of_reached {context : Context ω ε₀ α₀ β₀ ε α β} {input : α} {received : α₀}
    (reached : context.input? input = some received) (part : Patch ω ε₀ α₀ β₀) :
    Encloses ((context.plug part).journal input) context.position (part.journal received) := by
  induction context with
  | hole =>
      cases reached
      refine ⟨[], [], ?_, avoids_nil _, avoids_nil _⟩
      have same : (part.journal received).map (Call.under []) = part.journal received :=
        List.map_id _
      rw [plug, position, same, List.nil_append, List.append_nil]
  | inFirst context second inductionHypothesis =>
      exact (inductionHypothesis reached).under (avoids_nil [.first])
        (avoids_onSuccess fun _ => avoids_other (by decide) _)
  | inSecond first context inductionHypothesis =>
      obtain ⟨middle, firstResult, reached⟩ := exists_middle reached
      have avoidsFirst : Avoids ((first.journal input).map (Call.under [.first])) [.second] :=
        avoids_other (by decide) _
      have enclosed := (inductionHypothesis reached).under avoidsFirst (avoids_nil _)
      rw [List.append_nil] at enclosed
      rw [plug, journal, firstResult]
      exact enclosed
  | inAdapted toInner toOuter context inductionHypothesis =>
      exact (inductionHypothesis reached).under (avoids_root .inner _)
        (avoids_onSuccess fun _ => avoids_root .inner _)
  | inMapped change context inductionHypothesis =>
      exact (inductionHypothesis reached).under (avoids_nil [.inner])
        (avoids_onFailure fun _ => avoids_root .inner _)
  | inObserved before after context inductionHypothesis =>
      exact (inductionHypothesis reached).under (avoids_root .inner _)
        (avoids_onSuccess fun _ => avoids_root .inner _)

/-- Of a part that is not reached nothing is called. -/
theorem journal_plug_of_unreached {context : Context ω ε₀ α₀ β₀ ε α β} {input : α}
    (unreached : context.input? input = none) (part : Patch ω ε₀ α₀ β₀) :
    Avoids ((context.plug part).journal input) context.position := by
  induction context with
  | hole => cases unreached
  | inFirst context second inductionHypothesis =>
      exact (inductionHypothesis unreached).around (avoids_nil [.first])
        (avoids_onSuccess fun _ => avoids_other (by decide) _)
  | inSecond first context inductionHypothesis =>
      rw [plug, journal]
      apply ((avoids_other (by decide) _).deeper _).append
      rw [input?] at unreached
      cases firstResult : (first.node.evaluate input).result with
      | error error => exact avoids_nil _
      | ok middle =>
          rw [firstResult] at unreached
          exact (inductionHypothesis unreached).under [.second]
  | inAdapted toInner toOuter context inductionHypothesis =>
      exact (inductionHypothesis unreached).around (avoids_root .inner _)
        (avoids_onSuccess fun _ => avoids_root .inner _)
  | inMapped change context inductionHypothesis =>
      exact (inductionHypothesis unreached).around (avoids_nil [.inner])
        (avoids_onFailure fun _ => avoids_root .inner _)
  | inObserved before after context inductionHypothesis =>
      exact (inductionHypothesis unreached).around (avoids_root .inner _)
        (avoids_onSuccess fun _ => avoids_root .inner _)

end Context

end SpreadFlow.Patch
