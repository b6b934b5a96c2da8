/-
Module: SpreadFlow.Proofs.Failure.Naming
Purpose: For which types the short name in a failure's message names the node that failed.
Main exports: TypeName, TypeName.spelling, TypeName.Unqualified, AnglesMatch,
  TypeName.anglesMatch_spelling, TypeName.ofNode_names_iff, TypeName.chain_misnamed
-/
import SpreadFlow.Failure

namespace SpreadFlow

/-!
The full name of a type is a path that ends in the type's own identifier, and its arguments behind
that.  They are full names too, so there may be a `::` in them.  What follows the last `::` of the
name is then cut out of an argument: it begins with that argument's identifier, and it has the
brackets that were opened before it closed but not opened.

So a node is named by its own identifier, with its arguments, exactly if none of these is written
with a path, however deep it stands.
-/

/-! ### Full names of types -/

/-- A name of one word.  Nothing in it could be taken for a mark of a path or of arguments. -/
structure Identifier where
  text : List Char
  nonempty : text ≠ []
  unmarked : ∀ mark ∈ [':', '<', '>'], mark ∉ text

/-- The full name of a type: the modules that lead to it, its own identifier and its arguments. -/
inductive TypeName where
  | mk (modules : List Identifier) (identifier : Identifier) (arguments : List TypeName)

namespace TypeName

/-- The modules on the way to an identifier, each with the `::` behind it. -/
def path (modules : List Identifier) : List Char :=
  modules.flatMap fun word => word.text ++ [':', ':']

mutual

/-- The written form of a full name. -/
def spelling : TypeName → List Char
  | ⟨modules, identifier, arguments⟩ => path modules ++ (identifier.text ++ angled arguments)

/-- Arguments between angle brackets. -/
def angled : List TypeName → List Char
  | [] => []
  | first :: others => '<' :: (first.spelling ++ (further others ++ ['>']))

/-- Further arguments, each after a comma. -/
def further : List TypeName → List Char
  | [] => []
  | next :: others => ',' :: ' ' :: (next.spelling ++ further others)

end

def identifier : TypeName → Identifier
  | ⟨_, identifier, _⟩ => identifier

def arguments : TypeName → List TypeName
  | ⟨_, _, arguments⟩ => arguments

/-- The name is written without a path, and so are its arguments and theirs. -/
inductive Unqualified : TypeName → Prop where
  | mk {identifier : Identifier} {arguments : List TypeName}
      (all : ∀ argument ∈ arguments, Unqualified argument) : Unqualified ⟨[], identifier, arguments⟩

/-- What holds of a name if it holds of its arguments holds of every name. -/
@[induction_eliminator]
theorem induction {motive : TypeName → Prop}
    (mk : ∀ modules identifier arguments, (∀ argument ∈ arguments, motive argument) →
      motive ⟨modules, identifier, arguments⟩) (name : TypeName) : motive name :=
  @TypeName.rec motive (fun arguments => ∀ argument ∈ arguments, motive argument) mk
    (fun _ member => nomatch member)
    (fun _ _ first others => List.forall_mem_cons.mpr ⟨first, others⟩) name

end TypeName

/-! ### Angle brackets -/

/-- Every closing bracket has an opening one before it, and every opening one is closed. -/
structure AnglesMatch (text : List Char) : Prop where
  count_le : ∀ front, front <+: text → front.count '>' ≤ front.count '<'
  count_eq : text.count '<' = text.count '>'

theorem anglesMatch_of_unmarked {text : List Char} (noOpen : '<' ∉ text) (noClose : '>' ∉ text) :
    AnglesMatch text where
  count_le front isFront := by
    rw [List.count_eq_zero_of_not_mem fun member => noClose (isFront.subset member)]
    exact Nat.zero_le _
  count_eq := by rw [List.count_eq_zero_of_not_mem noOpen, List.count_eq_zero_of_not_mem noClose]

theorem AnglesMatch.append {first second : List Char} (one : AnglesMatch first)
    (two : AnglesMatch second) : AnglesMatch (first ++ second) where
  count_le front isFront := by
    rcases List.prefix_or_prefix_of_prefix isFront (List.prefix_append first second) with
      within | beyond
    · exact one.count_le front within
    · obtain ⟨rest, rfl⟩ := beyond
      have inSecond := two.count_le rest ((List.prefix_append_right_inj first).mp isFront)
      rw [List.count_append, List.count_append, one.count_eq]
      exact Nat.add_le_add_left inSecond _
  count_eq := by rw [List.count_append, List.count_append, one.count_eq, two.count_eq]

theorem AnglesMatch.enclosed {text : List Char} (inside : AnglesMatch text) :
    AnglesMatch ('<' :: (text ++ ['>'])) where
  count_le front isFront := by
    rcases List.prefix_cons_iff.mp isFront with rfl | ⟨rest, rfl, isRest⟩
    · exact Nat.le_refl 0
    · rcases List.prefix_concat_iff.mp isRest with rfl | within
      · simp [inside.count_eq]
      · have inRest := inside.count_le rest within
        simp only [List.count_cons_self, List.count_cons_of_ne (by decide : '<' ≠ '>')]
        omega
  count_eq := by simp [inside.count_eq]

/-- From any place on to the end no bracket stays open. -/
theorem AnglesMatch.count_back_le {front back : List Char} (both : AnglesMatch (front ++ back)) :
    back.count '<' ≤ back.count '>' := by
  have inFront := both.count_le front (List.prefix_append front back)
  have all := both.count_eq
  rw [List.count_append, List.count_append] at all
  omega

/-! ### The last separator -/

namespace Failure

theorem beforeSeparator_of_not_mem {text : List Char} (noColon : ':' ∉ text) :
    beforeSeparator text = text := by
  induction text with
  | nil => rfl
  | cons character text inductionHypothesis =>
      rw [List.mem_cons, not_or] at noColon
      rw [beforeSeparator, inductionHypothesis noColon.2]
      rintro rest same
      exact absurd same.symm noColon.1

theorem beforeSeparator_append {front : List Char} (noColon : ':' ∉ front) (rest : List Char) :
    beforeSeparator (front ++ ':' :: ':' :: rest) = front := by
  induction front with
  | nil => rfl
  | cons character front inductionHypothesis =>
      rw [List.mem_cons, not_or] at noColon
      rw [List.cons_append, beforeSeparator, inductionHypothesis noColon.2]
      rintro rest same
      exact absurd same.symm noColon.1

theorem shortName_of_not_mem {text : List Char} (noColon : ':' ∉ text) :
    shortName (String.ofList text) = String.ofList text := by
  rw [shortName, String.toList_ofList,
    beforeSeparator_of_not_mem (fun member => noColon (List.mem_reverse.mp member)),
    List.reverse_reverse]

theorem shortName_append {back : List Char} (noColon : ':' ∉ back) (front : List Char) :
    shortName (String.ofList (front ++ ':' :: ':' :: back)) = String.ofList back := by
  rw [shortName, String.toList_ofList, List.reverse_append, List.reverse_cons, List.reverse_cons,
    List.append_assoc, List.append_assoc, List.singleton_append, List.singleton_append,
    beforeSeparator_append (fun member => noColon (List.mem_reverse.mp member)),
    List.reverse_reverse]

end Failure

/-! ### Names as texts -/

/-- Colons stand in pairs, at least the last of them. -/
def PairedColons (text : List Char) : Prop :=
  ':' ∈ text → ∃ front back, text = front ++ ':' :: ':' :: back ∧ ':' ∉ back

theorem PairedColons.append {first second : List Char} (one : PairedColons first)
    (two : PairedColons second) : PairedColons (first ++ second) := by
  intro member
  by_cases inSecond : ':' ∈ second
  · obtain ⟨front, back, rfl, noColon⟩ := two inSecond
    exact ⟨first ++ front, back, (List.append_assoc ..).symm, noColon⟩
  · obtain ⟨front, back, rfl, noColon⟩ := one ((List.mem_append.mp member).resolve_right inSecond)
    refine ⟨front, back ++ second, by simp, ?_⟩
    rw [List.mem_append, not_or]
    exact ⟨noColon, inSecond⟩

theorem pairedColons_of_not_mem {text : List Char} (noColon : ':' ∉ text) : PairedColons text :=
  fun member => absurd member noColon

namespace Identifier

variable (word : Identifier)

theorem colon_not_mem : ':' ∉ word.text :=
  word.unmarked ':' (by decide)

theorem anglesMatch : AnglesMatch word.text :=
  anglesMatch_of_unmarked (word.unmarked '<' (by decide)) (word.unmarked '>' (by decide))

end Identifier

namespace TypeName

theorem anglesMatch_path (modules : List Identifier) : AnglesMatch (path modules) := by
  induction modules with
  | nil => exact anglesMatch_of_unmarked List.not_mem_nil List.not_mem_nil
  | cons word modules inductionHypothesis =>
      have separator : AnglesMatch [':', ':'] := anglesMatch_of_unmarked (by decide) (by decide)
      exact (word.anglesMatch.append separator).append inductionHypothesis

theorem pairedColons_path (modules : List Identifier) : PairedColons (path modules) := by
  induction modules with
  | nil => exact pairedColons_of_not_mem List.not_mem_nil
  | cons word modules inductionHypothesis =>
      have separator : PairedColons [':', ':'] := fun _ => ⟨[], [], rfl, List.not_mem_nil⟩
      exact ((pairedColons_of_not_mem word.colon_not_mem).append separator).append
        inductionHypothesis

/-- What holds of the arguments' spellings and of what is put between them holds of all together. -/
theorem holds_inside {Holds : List Char → Prop} (nil : Holds []) (comma : Holds [',', ' '])
    (append : ∀ {first second : List Char}, Holds first → Holds second → Holds (first ++ second))
    {first : TypeName} {others : List TypeName}
    (all : ∀ argument ∈ first :: others, Holds argument.spelling) :
    Holds (first.spelling ++ further others) := by
  induction others generalizing first with
  | nil => exact append (all first List.mem_cons_self) nil
  | cons next others inductionHypothesis =>
      have later := inductionHypothesis fun argument member =>
        all argument (List.mem_cons_of_mem first member)
      exact append (all first List.mem_cons_self) (append comma later)

theorem anglesMatch_inside {first : TypeName} {others : List TypeName}
    (all : ∀ argument ∈ first :: others, AnglesMatch argument.spelling) :
    AnglesMatch (first.spelling ++ further others) :=
  holds_inside (anglesMatch_of_unmarked (by decide) (by decide))
    (anglesMatch_of_unmarked (by decide) (by decide)) .append all

theorem anglesMatch_angled {arguments : List TypeName}
    (all : ∀ argument ∈ arguments, AnglesMatch argument.spelling) :
    AnglesMatch (angled arguments) := by
  cases arguments with
  | nil => exact anglesMatch_of_unmarked List.not_mem_nil List.not_mem_nil
  | cons first others =>
      rw [angled, ← List.append_assoc]
      exact (anglesMatch_inside all).enclosed

theorem anglesMatch_spelling (name : TypeName) : AnglesMatch name.spelling := by
  induction name with
  | mk modules identifier arguments inductionHypothesis =>
      exact (anglesMatch_path modules).append
        (identifier.anglesMatch.append (anglesMatch_angled inductionHypothesis))

theorem pairedColons_inside {first : TypeName} {others : List TypeName}
    (all : ∀ argument ∈ first :: others, PairedColons argument.spelling) :
    PairedColons (first.spelling ++ further others) :=
  holds_inside (pairedColons_of_not_mem (by decide)) (pairedColons_of_not_mem (by decide)) .append
    all

theorem pairedColons_spelling (name : TypeName) : PairedColons name.spelling := by
  induction name with
  | mk modules identifier arguments inductionHypothesis =>
      have word := pairedColons_of_not_mem identifier.colon_not_mem
      have brackets : PairedColons (angled arguments) := by
        cases arguments with
        | nil => exact pairedColons_of_not_mem List.not_mem_nil
        | cons first others =>
            have opening : PairedColons ['<'] := pairedColons_of_not_mem (by decide)
            have closing : PairedColons ['>'] := pairedColons_of_not_mem (by decide)
            rw [angled, ← List.append_assoc]
            exact opening.append ((pairedColons_inside inductionHypothesis).append closing)
      exact (pairedColons_path modules).append (word.append brackets)

/-! ### Names without a path -/

theorem colon_not_mem_path_iff {modules : List Identifier} : ':' ∉ path modules ↔ modules = [] := by
  constructor
  · intro noColon
    cases modules with
    | nil => rfl
    | cons word modules => exact absurd (by simp [path]) noColon
  · rintro rfl
    exact List.not_mem_nil

theorem colon_not_mem_further_iff {others : List TypeName} :
    ':' ∉ further others ↔ ∀ argument ∈ others, ':' ∉ argument.spelling := by
  induction others with
  | nil => simp [further]
  | cons next others inductionHypothesis => simp [further, inductionHypothesis]

theorem colon_not_mem_angled_iff {arguments : List TypeName} :
    ':' ∉ angled arguments ↔ ∀ argument ∈ arguments, ':' ∉ argument.spelling := by
  cases arguments with
  | nil => simp [angled]
  | cons first others => simp [angled, colon_not_mem_further_iff]

theorem colon_not_mem_spelling_iff {name : TypeName} : ':' ∉ name.spelling ↔ name.Unqualified := by
  induction name with
  | mk modules identifier arguments inductionHypothesis =>
      have parts : ':' ∉ spelling ⟨modules, identifier, arguments⟩ ↔
          modules = [] ∧ ∀ argument ∈ arguments, ':' ∉ argument.spelling := by
        rw [← colon_not_mem_path_iff, ← colon_not_mem_angled_iff]
        simp [spelling, path, identifier.colon_not_mem]
      rw [parts]
      constructor
      · rintro ⟨rfl, all⟩
        exact .mk fun argument member =>
          (inductionHypothesis argument member).mp (all argument member)
      · rintro ⟨all⟩
        exact ⟨rfl, fun argument member =>
          (inductionHypothesis argument member).mpr (all argument member)⟩

/-! ### Short names -/

/-- If no argument is written with a path, the short name is the type's own identifier with its
arguments. -/
theorem shortName_of_unqualified {name : TypeName}
    (all : ∀ argument ∈ name.arguments, argument.Unqualified) :
    Failure.shortName (String.ofList name.spelling) =
      String.ofList (name.identifier.text ++ angled name.arguments) := by
  obtain ⟨modules, identifier, arguments⟩ := name
  have noColon : ':' ∉ identifier.text ++ angled arguments := by
    rw [List.mem_append, not_or, colon_not_mem_angled_iff]
    exact ⟨identifier.colon_not_mem, fun argument member =>
      colon_not_mem_spelling_iff.mpr (all argument member)⟩
  rcases List.eq_nil_or_concat modules with rfl | ⟨front, word, rfl⟩
  · exact Failure.shortName_of_not_mem noColon
  · have split : spelling ⟨front.concat word, identifier, arguments⟩ =
        path front ++ word.text ++ ':' :: ':' :: (identifier.text ++ angled arguments) := by
      simp [spelling, path]
    rw [split]
    exact Failure.shortName_append noColon _

/-- If some argument is written with a path, the short name is the end of an argument, and a bracket
is closed in it that was opened before. -/
theorem not_anglesMatch_shortName {name argument : TypeName} (member : argument ∈ name.arguments)
    (qualified : ¬ argument.Unqualified) :
    ¬ AnglesMatch (Failure.shortName (String.ofList name.spelling)).toList := by
  obtain ⟨modules, identifier, arguments⟩ := name
  cases arguments with
  | nil => cases member
  | cons first others =>
      have colonInside : ':' ∈ first.spelling ++ further others := by
        apply Decidable.byContradiction
        intro noColon
        have noneAngled : ':' ∉ angled (first :: others) := by simpa [angled] using noColon
        exact qualified (colon_not_mem_spelling_iff.mp
          (colon_not_mem_angled_iff.mp noneAngled argument member))
      obtain ⟨front, back, inside, noColon⟩ :=
        pairedColons_inside (fun argument _ => pairedColons_spelling argument) colonInside
      have closesMore : back.count '<' ≤ back.count '>' := by
        have matching := anglesMatch_inside fun argument (_ : argument ∈ first :: others) =>
          anglesMatch_spelling argument
        rw [inside, ← List.singleton_append, ← List.append_assoc, ← List.singleton_append,
          ← List.append_assoc] at matching
        exact matching.count_back_le
      have split : spelling ⟨modules, identifier, first :: others⟩ =
          path modules ++ (identifier.text ++ '<' :: front) ++ ':' :: ':' :: (back ++ ['>']) := by
        rw [spelling, angled, ← List.append_assoc first.spelling, inside]
        simp
      have noColonBack : ':' ∉ back ++ ['>'] := by simpa using noColon
      rw [split, Failure.shortName_append noColonBack, String.toList_ofList]
      intro matching
      have balance := matching.count_eq
      rw [List.count_append, List.count_append, List.count_singleton_self,
        List.count_eq_zero_of_not_mem (by decide : '<' ∉ ['>'])] at balance
      omega

/-- The report of a failed node ends with the message of the failure and keeps the failure as its
source.  Between the quotes stands a short name, which begins with the identifier of the node's own
type and has matching brackets exactly if no type argument is written with a path; then it is that
identifier with the arguments. -/
theorem ofNode_names_iff (name : TypeName) (failure : Failure) :
    ∃ short : List Char,
      (Failure.ofNode (String.ofList name.spelling) failure).message =
        "Node `" ++ String.ofList short ++ "` failed: " ++ failure.message ∧
      (Failure.ofNode (String.ofList name.spelling) failure).sources =
        failure.message :: failure.sources ∧
      (name.identifier.text <+: short ∧ AnglesMatch short ↔
        ∀ argument ∈ name.arguments, argument.Unqualified) ∧
      (short = name.identifier.text ++ angled name.arguments ↔
        ∀ argument ∈ name.arguments, argument.Unqualified) := by
  have unqualified_of_matching
      (matching : AnglesMatch (Failure.shortName (String.ofList name.spelling)).toList) :
      ∀ argument ∈ name.arguments, argument.Unqualified := by
    intro argument member
    apply Classical.byContradiction
    intro qualified
    exact not_anglesMatch_shortName member qualified matching
  have own_of_unqualified (all : ∀ argument ∈ name.arguments, argument.Unqualified) :
      (Failure.shortName (String.ofList name.spelling)).toList =
        name.identifier.text ++ angled name.arguments := by
    rw [shortName_of_unqualified all, String.toList_ofList]
  have ownMatches : AnglesMatch (name.identifier.text ++ angled name.arguments) :=
    name.identifier.anglesMatch.append
      (anglesMatch_angled fun argument _ => anglesMatch_spelling argument)
  refine ⟨(Failure.shortName (String.ofList name.spelling)).toList, ?_, rfl, ?_, ?_⟩
  · rw [String.ofList_toList]
    rfl
  · constructor
    · exact fun both => unqualified_of_matching both.2
    · intro all
      rw [own_of_unqualified all]
      exact ⟨List.prefix_append _ _, ownMatches⟩
  · constructor
    · intro own
      exact unqualified_of_matching (own ▸ ownMatches)
    · exact own_of_unqualified

/-- A chain of two nodes, each in a module of its own, is reported under the name of the second,
with the bracket that closes the chain's arguments. -/
theorem chain_misnamed :
    let flow : Identifier := ⟨['f', 'l', 'o', 'w'], by decide, by simp⟩
    let chain : Identifier := ⟨['C', 'h', 'a', 'i', 'n'], by decide, by simp⟩
    let app : Identifier := ⟨['a', 'p', 'p'], by decide, by simp⟩
    let scale : Identifier := ⟨['S', 'c', 'a', 'l', 'e'], by decide, by simp⟩
    let clamp : Identifier := ⟨['C', 'l', 'a', 'm', 'p'], by decide, by simp⟩
    let name : TypeName := ⟨[flow], chain, [⟨[app], scale, []⟩, ⟨[app], clamp, []⟩]⟩
    String.ofList name.spelling = "flow::Chain<app::Scale, app::Clamp>" ∧
      (Failure.ofNode (String.ofList name.spelling) (.plain "stuck")).message =
        "Node `Clamp>` failed: stuck" ∧
      ¬ (name.identifier.text <+: "Clamp>".toList) ∧ ¬ AnglesMatch "Clamp>".toList := by
  intro flow chain app scale clamp name
  have short : Failure.shortName (String.ofList name.spelling) = "Clamp>" := by
    rw [Failure.shortName, String.toList_ofList]
    rfl
  refine ⟨rfl, ?_, by decide, ?_⟩
  · rw [Failure.ofNode, short]
    rfl
  · intro matching
    exact absurd matching.count_eq (by decide)

end TypeName

end SpreadFlow
