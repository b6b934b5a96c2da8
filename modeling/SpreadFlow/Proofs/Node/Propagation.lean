/-
Module: SpreadFlow.Proofs.Node.Propagation
Purpose: How the failure of a base node passes through a patch, and what is called before and after.
Main exports: Patch.leaves, Patch.Completes, Patch.FailsAt, Patch.Context.lifted,
  Patch.Context.errorCalls, Patch.failure_propagates
-/
import SpreadFlow.Proofs.Node.Context

namespace SpreadFlow.Patch

/-!
Only base nodes fail of themselves.  The first one that does ends the evaluation: from there on only
the error maps around it are called, from the innermost to the outermost.  Until then the base nodes
are called one after the other as they stand in the patch.
-/

variable {ω ε ε₀ α α₀ β β₀ γ : Type}

/-! ### Kinds of calls -/

/-- A base node that succeeds, or a map or observer that is called while nothing has failed. -/
def Action.Passes : Action ω → Prop
  | .base node input => ∃ output, (node.evaluate input).result = .ok output
  | .errorMap _ _ => False
  | .inputMap _ _ | .outputMap _ _ _ | .inputObserver _ _ | .outputObserver _ _ => True

/-- Whether the function is one that gets an output. -/
def Action.takesOutput : Action ω → Bool
  | .outputMap _ _ _ | .outputObserver _ _ => true
  | .base _ _ | .inputMap _ _ | .errorMap _ _ | .inputObserver _ _ => false

def Action.isBase : Action ω → Bool
  | .base _ _ => true
  | .inputMap _ _ | .outputMap _ _ _ | .errorMap _ _ | .inputObserver _ _ | .outputObserver _ _ =>
      false

/-- The positions of the base nodes among the calls, in order. -/
def evaluated (calls : List (Call ω)) : List Position :=
  (calls.filter fun call => call.action.isBase).map Call.position

/-- The positions of all base nodes of a patch, in the order of evaluation. -/
def leaves {ω ε α β : Type} : Patch ω ε α β → List Position
  | .base _ => [[]]
  | .chain first second =>
      first.leaves.map ([.first] ++ ·) ++ second.leaves.map ([.second] ++ ·)
  | .adapt _ _ inner | .mapError _ inner | .observe _ _ inner => inner.leaves.map ([.inner] ++ ·)

/-- All calls pass, and the base nodes among them are those at the given positions, in order. -/
structure Completes (calls : List (Call ω)) (positions : List Position) : Prop where
  passes : ∀ call ∈ calls, call.action.Passes
  evaluated_eq : evaluated calls = positions

theorem completes_nil : Completes ([] : List (Call ω)) [] :=
  ⟨fun _ member => absurd member List.not_mem_nil, rfl⟩

/-- A map or observer at the root. -/
theorem completes_root (action : Action ω) (passes : action.Passes)
    (noBase : action.isBase = false) : Completes [⟨[], action⟩] [] := by
  refine ⟨?_, by simp [evaluated, noBase]⟩
  intro call member
  rw [List.mem_singleton.mp member]
  exact passes

theorem Completes.append {earlier later : List (Call ω)} {first second : List Position}
    (completesEarlier : Completes earlier first) (completesLater : Completes later second) :
    Completes (earlier ++ later) (first ++ second) where
  passes := List.forall_mem_append.mpr ⟨completesEarlier.passes, completesLater.passes⟩
  evaluated_eq := by
    rw [evaluated, List.filter_append, List.map_append, ← completesEarlier.evaluated_eq,
      ← completesLater.evaluated_eq]
    rfl

theorem Completes.under {calls : List (Call ω)} {positions : List Position}
    (completes : Completes calls positions) (outer : Position) :
    Completes (calls.map (Call.under outer)) (positions.map (outer ++ ·)) where
  passes call member := by
    obtain ⟨inner, innerMember, rfl⟩ := List.mem_map.mp member
    exact completes.passes inner innerMember
  evaluated_eq := by
    rw [← completes.evaluated_eq, evaluated, evaluated, List.filter_map, List.map_map, List.map_map]
    rfl

/-- A composition completes if what it is made of does and the calls around that are no base
nodes. -/
theorem Completes.around {calls front back : List (Call ω)} {positions : List Position}
    (completes : Completes calls positions) (branch : Branch) (completesFront : Completes front [])
    (completesBack : Completes back []) :
    Completes (front ++ calls.map (Call.under [branch]) ++ back)
      (positions.map ([branch] ++ ·)) := by
  have all := (completesFront.append (completes.under [branch])).append completesBack
  rwa [List.nil_append, List.append_nil] at all

/-! ### Success -/

/-- In a successful evaluation all base nodes are called and succeed, and no error map is called. -/
theorem completes_of_success {patch : Patch ω ε α β} {input : α} {output : β}
    (success : (patch.node.evaluate input).result = .ok output) :
    Completes (patch.journal input) patch.leaves := by
  induction patch with
  | base node =>
      refine ⟨?_, rfl⟩
      intro call member
      rw [List.mem_singleton.mp member]
      exact ⟨output, success⟩
  | chain first second firstHypothesis secondHypothesis =>
      rw [result_chain] at success
      cases firstResult : (first.node.evaluate input).result with
      | error error =>
          rw [firstResult] at success
          cases success
      | ok middle =>
          rw [firstResult] at success
          rw [journal, firstResult]
          exact ((firstHypothesis firstResult).under [.first]).append
            ((secondHypothesis success).under [.second])
  | adapt toInner toOuter inner inductionHypothesis =>
      rw [result_adapt] at success
      cases innerResult : (inner.node.evaluate (toInner input)).result with
      | error error =>
          rw [innerResult] at success
          cases success
      | ok middle =>
          rw [journal, innerResult]
          exact (inductionHypothesis innerResult).around .inner
            (completes_root (.inputMap toInner input) trivial rfl)
            (completes_root (.outputMap toOuter input middle) trivial rfl)
  | mapError change inner inductionHypothesis =>
      rw [result_mapError] at success
      cases innerResult : (inner.node.evaluate input).result with
      | error error =>
          rw [innerResult] at success
          cases success
      | ok middle =>
          rw [journal, innerResult]
          exact (inductionHypothesis innerResult).around .inner completes_nil completes_nil
  | observe before after inner inductionHypothesis =>
      rw [result_observe] at success
      rw [journal, success]
      exact (inductionHypothesis success).around .inner
        (completes_root (.inputObserver before input) trivial rfl)
        (completes_root (.outputObserver after output) trivial rfl)

/-! ### Failure -/

/-- No function that gets an output is called around the part. -/
def NoneAround (calls : List (Call ω)) (part : Position) : Prop :=
  ∀ call ∈ calls, call.action.takesOutput = true → ¬ call.position <+: part

theorem noneAround_nil (part : Position) : NoneAround ([] : List (Call ω)) part :=
  fun _ member => absurd member List.not_mem_nil

theorem NoneAround.append {earlier later : List (Call ω)} {part : Position}
    (noneEarlier : NoneAround earlier part) (noneLater : NoneAround later part) :
    NoneAround (earlier ++ later) part :=
  List.forall_mem_append.mpr ⟨noneEarlier, noneLater⟩

theorem NoneAround.under {calls : List (Call ω)} {part : Position} (none : NoneAround calls part)
    (outer : Position) : NoneAround (calls.map (Call.under outer)) (outer ++ part) := by
  intro call member takesOutput around
  obtain ⟨inner, innerMember, rfl⟩ := List.mem_map.mp member
  exact none inner innerMember takesOutput ((List.prefix_append_right_inj outer).mp around)

/-- One branch is not around what is in another. -/
theorem noneAround_other {branch other : Branch} (different : other ≠ branch)
    (calls : List (Call ω)) (part : Position) :
    NoneAround (calls.map (Call.under [other])) (branch :: part) := by
  intro call member _ around
  obtain ⟨inner, -, rfl⟩ := List.mem_map.mp member
  exact different (List.cons_prefix_cons.mp around).1

/-- What gets no output may stand anywhere. -/
theorem noneAround_of_takesOutput {calls : List (Call ω)}
    (noOutput : ∀ call ∈ calls, call.action.takesOutput = false) (part : Position) :
    NoneAround calls part := by
  intro call member takesOutput
  rw [noOutput call member] at takesOutput
  cases takesOutput

theorem noneAround_root (action : Action ω) (noOutput : action.takesOutput = false)
    (part : Position) : NoneAround [⟨[], action⟩] part :=
  noneAround_of_takesOutput (List.forall_mem_singleton.mpr noOutput) part

/-- The calls of an evaluation that breaks off in a part.  Those before the part complete the base
nodes that stand before it, and none of them gets an output around it.  After it only `errors` are
called. -/
def BreaksOff (calls : List (Call ω)) (positions : List Position) (part : Position)
    (inPart : List (Call ω)) (partLeaves : List Position) (errors : List (Call ω)) : Prop :=
  ∃ earlier before after,
    calls = earlier ++ inPart.map (Call.under part) ++ errors ∧
    positions = before ++ partLeaves.map (part ++ ·) ++ after ∧
    Completes earlier before ∧ NoneAround earlier part

/-- If a branch breaks off in a part, so does the composition, behind all that is called before. -/
theorem BreaksOff.under {calls inPart errors front : List (Call ω)}
    {positions partLeaves frontPositions : List Position} {part : Position}
    (breaks : BreaksOff calls positions part inPart partLeaves errors) (branch : Branch)
    (completesFront : Completes front frontPositions)
    (noneFront : NoneAround front (branch :: part))
    (back : List (Call ω)) (backPositions : List Position) :
    BreaksOff (front ++ calls.map (Call.under [branch]) ++ back)
      (frontPositions ++ positions.map ([branch] ++ ·) ++ backPositions) (branch :: part) inPart
      partLeaves (errors.map (Call.under [branch]) ++ back) := by
  obtain ⟨earlier, before, after, rfl, rfl, completes, none⟩ := breaks
  refine ⟨front ++ earlier.map (Call.under [branch]), frontPositions ++ before.map ([branch] ++ ·),
    after.map ([branch] ++ ·) ++ backPositions, ?_, ?_, completesFront.append (completes.under _),
    noneFront.append (none.under [branch])⟩
  · simp only [List.map_append, List.map_map, Call.under_comp, List.cons_append, List.nil_append,
      List.append_assoc]
  · simp only [List.map_append, List.map_map, Function.comp_def, List.cons_append, List.nil_append,
      List.append_assoc]

namespace Context

/-- The error that comes out of a patch when one comes out of the part in the hole: the error maps
around the hole are applied, from the innermost to the outermost. -/
def lifted {ε α β : Type} : Context ω ε₀ α₀ β₀ ε α β → ε₀ → ε
  | .hole, error => error
  | .inFirst context _, error => context.lifted error
  | .inSecond _ context, error => context.lifted error
  | .inAdapted _ _ context, error => context.lifted error
  | .inMapped change context, error => change (context.lifted error)
  | .inObserved _ _ context, error => context.lifted error

/-- The calls of the error maps around the hole, from the innermost to the outermost. -/
def errorCalls {ε α β : Type} : Context ω ε₀ α₀ β₀ ε α β → ε₀ → List (Call ω)
  | .hole, _ => []
  | .inFirst context _, error => (context.errorCalls error).map (Call.under [.first])
  | .inSecond _ context, error => (context.errorCalls error).map (Call.under [.second])
  | .inAdapted _ _ context, error => (context.errorCalls error).map (Call.under [.inner])
  | .inMapped change context, error =>
      (context.errorCalls error).map (Call.under [.inner]) ++
        [⟨[], .errorMap change (context.lifted error)⟩]
  | .inObserved _ _ context, error => (context.errorCalls error).map (Call.under [.inner])

variable {context : Context ω ε₀ α₀ β₀ ε α β} {input : α} {received : α₀} {part : Patch ω ε₀ α₀ β₀}
  {error : ε₀}

/-- A failure in the hole is one of the whole patch. -/
theorem result_plug_of_failure (reached : context.input? input = some received)
    (failed : (part.node.evaluate received).result = .error error) :
    ((context.plug part).node.evaluate input).result = .error (context.lifted error) := by
  induction context with
  | hole =>
      cases reached
      exact failed
  | inFirst context second inductionHypothesis =>
      rw [plug, result_chain, inductionHypothesis reached]
      rfl
  | inSecond first context inductionHypothesis =>
      obtain ⟨middle, firstResult, reached⟩ := exists_middle reached
      rw [plug, result_chain, firstResult]
      exact inductionHypothesis reached
  | inAdapted toInner toOuter context inductionHypothesis =>
      rw [plug, result_adapt, inductionHypothesis reached]
      rfl
  | inMapped change context inductionHypothesis =>
      rw [plug, result_mapError, inductionHypothesis reached]
      rfl
  | inObserved before after context inductionHypothesis =>
      rw [plug, result_observe, inductionHypothesis reached]
      rfl

/-- If the part in the hole fails, the evaluation breaks off there, and only the error maps around
the hole are called after it. -/
theorem breaksOff_of_failure (reached : context.input? input = some received)
    (failed : (part.node.evaluate received).result = .error error) :
    BreaksOff ((context.plug part).journal input) (context.plug part).leaves context.position
      (part.journal received) part.leaves (context.errorCalls error) := by
  induction context with
  | hole =>
      cases reached
      refine ⟨[], [], [], ?_, ?_, completes_nil, ?_⟩
      · exact (List.map_id _).symm.trans (List.append_nil _).symm
      · exact (List.map_id _).symm.trans (List.append_nil _).symm
      · exact fun _ member => absurd member List.not_mem_nil
  | inFirst context second inductionHypothesis =>
      have innerResult : ((context.plug part).node.evaluate _).result =
          .error (context.lifted error) :=
        context.result_plug_of_failure reached failed
      have breaks := (inductionHypothesis reached).under .first completes_nil (noneAround_nil _) []
        (second.leaves.map ([.second] ++ ·))
      simpa [plug, journal, innerResult, onSuccess, leaves, position, errorCalls] using breaks
  | inSecond first context inductionHypothesis =>
      obtain ⟨middle, firstResult, reached⟩ := exists_middle reached
      have completesFirst := (completes_of_success firstResult).under [.first]
      have different : Branch.first ≠ .second := by decide
      have breaks := (inductionHypothesis reached).under .second completesFirst
        (noneAround_other different _ _) [] []
      simpa [plug, journal, firstResult, onSuccess, leaves, position, errorCalls] using breaks
  | inAdapted toInner toOuter context inductionHypothesis =>
      have innerResult : ((context.plug part).node.evaluate _).result =
          .error (context.lifted error) :=
        context.result_plug_of_failure reached failed
      have breaks := (inductionHypothesis reached).under .inner
        (completes_root (.inputMap toInner input) trivial rfl)
        (noneAround_root (.inputMap toInner input) rfl _) [] []
      simpa [plug, journal, innerResult, onSuccess, leaves, position, errorCalls] using breaks
  | inMapped change context inductionHypothesis =>
      have innerResult : ((context.plug part).node.evaluate _).result =
          .error (context.lifted error) :=
        context.result_plug_of_failure reached failed
      have breaks := (inductionHypothesis reached).under .inner completes_nil (noneAround_nil _)
        [⟨[], .errorMap change (context.lifted error)⟩] []
      simpa [plug, journal, innerResult, onFailure, leaves, position, errorCalls] using breaks
  | inObserved before after context inductionHypothesis =>
      have innerResult : ((context.plug part).node.evaluate _).result =
          .error (context.lifted error) :=
        context.result_plug_of_failure reached failed
      have breaks := (inductionHypothesis reached).under .inner
        (completes_root (.inputObserver before input) trivial rfl)
        (noneAround_root (.inputObserver before input) rfl _) [] []
      simpa [plug, journal, innerResult, onSuccess, leaves, position, errorCalls] using breaks

/-- Error maps get no output. -/
theorem takesOutput_errorCalls (context : Context ω ε₀ α₀ β₀ ε α β) (error : ε₀) :
    ∀ call ∈ context.errorCalls error, call.action.takesOutput = false := by
  induction context with
  | hole => exact fun _ member => absurd member List.not_mem_nil
  | inFirst _ _ inductionHypothesis | inSecond _ _ inductionHypothesis
  | inAdapted _ _ _ inductionHypothesis | inObserved _ _ _ inductionHypothesis =>
      exact List.forall_mem_map.mpr inductionHypothesis
  | inMapped _ _ inductionHypothesis =>
      exact List.forall_mem_append.mpr
        ⟨List.forall_mem_map.mpr inductionHypothesis, List.forall_mem_singleton.mpr rfl⟩

end Context

/-! ### Failing base nodes -/

/-- The evaluation reaches the base node in the hole of the context, and there it fails. -/
structure FailsAt (patch : Patch ω ε α β) (input : α) (context : Context ω ε₀ α₀ β₀ ε α β)
    (node : Node ω ε₀ α₀ β₀) (received : α₀) (error : ε₀) : Prop where
  stands : patch = context.plug (.base node)
  reached : context.input? input = some received
  failed : (node.evaluate received).result = .error error

/-- A failure comes from a base node. -/
theorem exists_failsAt {patch : Patch ω ε α β} {input : α} {error : ε}
    (failure : (patch.node.evaluate input).result = .error error) :
    ∃ (ε₀ α₀ β₀ : Type) (context : Context ω ε₀ α₀ β₀ ε α β) (node : Node ω ε₀ α₀ β₀)
      (received : α₀) (cause : ε₀), FailsAt patch input context node received cause := by
  induction patch with
  | base node => exact ⟨_, _, _, .hole, node, input, error, ⟨rfl, rfl, failure⟩⟩
  | chain first second firstHypothesis secondHypothesis =>
      rw [result_chain] at failure
      cases firstResult : (first.node.evaluate input).result with
      | error cause =>
          obtain ⟨_, _, _, context, node, received, cause, rfl, reached, failed⟩ :=
            firstHypothesis firstResult
          exact ⟨_, _, _, .inFirst context second, node, received, cause, ⟨rfl, reached, failed⟩⟩
      | ok middle =>
          rw [firstResult] at failure
          obtain ⟨_, _, _, context, node, received, cause, rfl, reached, failed⟩ :=
            secondHypothesis failure
          refine ⟨_, _, _, .inSecond first context, node, received, cause, ⟨rfl, ?_, failed⟩⟩
          rw [Context.input?, firstResult]
          exact reached
  | adapt toInner toOuter inner inductionHypothesis =>
      rw [result_adapt] at failure
      cases innerResult : (inner.node.evaluate (toInner input)).result with
      | error cause =>
          obtain ⟨_, _, _, context, node, received, cause, rfl, reached, failed⟩ :=
            inductionHypothesis innerResult
          exact ⟨_, _, _, .inAdapted toInner toOuter context, node, received, cause,
            ⟨rfl, reached, failed⟩⟩
      | ok output =>
          rw [innerResult] at failure
          cases failure
  | mapError change inner inductionHypothesis =>
      rw [result_mapError] at failure
      cases innerResult : (inner.node.evaluate input).result with
      | error cause =>
          obtain ⟨_, _, _, context, node, received, cause, rfl, reached, failed⟩ :=
            inductionHypothesis innerResult
          exact ⟨_, _, _, .inMapped change context, node, received, cause, ⟨rfl, reached, failed⟩⟩
      | ok output =>
          rw [innerResult] at failure
          cases failure
  | observe before after inner inductionHypothesis =>
      rw [result_observe] at failure
      obtain ⟨_, _, _, context, node, received, cause, rfl, reached, failed⟩ :=
        inductionHypothesis failure
      exact ⟨_, _, _, .inObserved before after context, node, received, cause,
        ⟨rfl, reached, failed⟩⟩

/-- An evaluation fails exactly if a base node that it reaches does.  Then the error is that of the
base node, changed by the error maps around it from the innermost to the outermost.  Before it every
base node that comes earlier was called and succeeded; after it nothing is called but those error
maps, each once.  No function that gets an output is called around the base node.  Without a failure
all base nodes are called and no error map is.  The calls are those of the evaluation: what they
observe, in their order, is its trace. -/
theorem failure_propagates (patch : Patch ω ε α β) (input : α) :
    ((∃ error, (patch.node.evaluate input).result = .error error) ↔
        ∃ (ε₀ α₀ β₀ : Type) (context : Context ω ε₀ α₀ β₀ ε α β) (node : Node ω ε₀ α₀ β₀)
          (received : α₀) (error : ε₀), FailsAt patch input context node received error) ∧
      (∀ (ε₀ α₀ β₀ : Type) (context : Context ω ε₀ α₀ β₀ ε α β) (node : Node ω ε₀ α₀ β₀)
        (received : α₀) (error : ε₀), FailsAt patch input context node received error →
        (patch.node.evaluate input).result = .error (context.lifted error) ∧
        ∃ earlier before after,
          patch.journal input =
            earlier ++ ⟨context.position, .base node received⟩ :: context.errorCalls error ∧
          patch.leaves = before ++ context.position :: after ∧
          Completes earlier before ∧
          NoneAround (patch.journal input) context.position) ∧
      ((∃ output, (patch.node.evaluate input).result = .ok output) →
        Completes (patch.journal input) patch.leaves) ∧
      (patch.node.evaluate input).trace =
        (patch.journal input).flatMap (fun call => call.action.notes) := by
  have propagates {ε₀ α₀ β₀ : Type} {context : Context ω ε₀ α₀ β₀ ε α β} {node : Node ω ε₀ α₀ β₀}
      {received : α₀} {error : ε₀} (fails : FailsAt patch input context node received error) :
      (patch.node.evaluate input).result = .error (context.lifted error) := by
    rw [fails.stands]
    exact context.result_plug_of_failure fails.reached fails.failed
  refine ⟨⟨?_, ?_⟩, ?_, ?_, trace_node patch input⟩
  · rintro ⟨error, failure⟩
    exact exists_failsAt failure
  · rintro ⟨_, _, _, context, _, _, error, fails⟩
    exact ⟨context.lifted error, propagates fails⟩
  · intro ε₀ α₀ β₀ context node received error fails
    refine ⟨propagates fails, ?_⟩
    obtain ⟨rfl, reached, failed⟩ := fails
    have breaks :
        BreaksOff _ _ _ (Patch.journal (.base node) received) (Patch.base node).leaves _ :=
      context.breaksOff_of_failure reached failed
    obtain ⟨earlier, before, after, calls, positions, completes, none⟩ := breaks
    have calls : (context.plug (.base node)).journal input =
        earlier ++ ⟨context.position, .base node received⟩ :: context.errorCalls error := by
      rw [calls, journal, List.map_singleton, Call.under_root, List.append_assoc]
      rfl
    refine ⟨earlier, before, after, calls, ?_, completes, ?_⟩
    · rw [positions, leaves, List.map_singleton, List.append_nil, List.append_assoc]
      rfl
    · rw [calls]
      exact none.append ((noneAround_of_takesOutput
        (List.forall_mem_cons.mpr ⟨rfl, context.takesOutput_errorCalls error⟩)) _)
  · rintro ⟨output, success⟩
    exact completes_of_success success

end SpreadFlow.Patch
