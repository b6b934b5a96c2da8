/-
Module: SpreadFlow.Yaml.Property
Purpose: What stands before YAML values and documents: anchors, tags and directives.
Main exports: Yaml.Properties, Yaml.readProperty?, Yaml.Directives, Yaml.readDirective?
-/
import SpreadFlow.Yaml.Tag

namespace SpreadFlow.Yaml

/-! ### Properties -/

/-- What stands before a value: at most one anchor and at most one tag.  The anchor's name is not
kept, since nothing in a configuration can refer to it. -/
structure Properties where
  anchored : Bool := false
  tag : Option Tag := none
deriving Repr, DecidableEq

/-- Whether there are neither an anchor nor a tag. -/
def Properties.isEmpty (properties : Properties) : Bool :=
  !properties.anchored && properties.tag.isNone

/-- Whether an anchor's name may end here. -/
def endsAnchor (text : List Char) : Bool :=
  isParted text || text.head?.any (· ∈ "?:,]\x7d%@`".toList)

/-- Whether a tag may end here. -/
def endsTag (context : Context) (text : List Char) : Bool :=
  isParted text || (context = .flow && text.head? = some ',')

/-- One more property than those that are known. -/
def readProperty? (handles : Handles) (context : Context) (known : Properties) :
    List Char → Option (Properties × List Char)
  | '&' :: text =>
      let rest := text.dropWhile isWord
      if known.anchored || (text.takeWhile isWord).isEmpty || !endsAnchor rest then none
      else some ({ known with anchored := true }, rest)
  | '!' :: text => do
      let (tag, rest) ← readTag? handles text
      if known.tag.isSome || !endsTag context rest then none
      else some ({ known with tag := some tag }, rest)
  | _ => none

/-- A property takes at least its mark. -/
theorem readProperty?_shorter {handles : Handles} {context : Context}
    {known properties : Properties} {text rest : List Char}
    (read : readProperty? handles context known text = some (properties, rest)) :
    rest.length < text.length := by
  unfold readProperty? at read
  split at read
  · simp only [Option.ite_none_left_eq_some, Option.some.injEq, Prod.mk.injEq] at read
    obtain ⟨-, -, rfl⟩ := read
    exact Nat.lt_succ_of_le (List.dropWhile_sublist isWord).length_le
  · simp only [Option.bind_eq_bind, Option.bind_eq_some_iff, Option.ite_none_left_eq_some,
      Option.some.injEq, Prod.mk.injEq] at read
    obtain ⟨⟨tag, last⟩, inner, -, -, rfl⟩ := read
    exact Nat.lt_succ_of_le (readTag?_length_le inner)
  · simp at read

/-! ### Directives -/

/-- What the directives before a document say: whether they tell a version, and the handles that
they define. -/
structure Directives where
  versioned : Bool := false
  handles : Handles := []
deriving Repr, DecidableEq

/-- The handles of a document.  Two are defined unless a directive defines them otherwise. -/
def Directives.allHandles (directives : Directives) : Handles :=
  directives.handles ++ [(['!'], Tag.ofText "!"), (['!', '!'], Tag.ofText "tag:yaml.org,2002:")]

/-- A number of at most nine digits, without the zeros before it. -/
def readVersionPart? (text : List Char) : Option (List Char × List Char) :=
  let digits := text.takeWhile Char.isDigit
  if digits.isEmpty || 9 < digits.length then none
  else some (digits.dropWhile (· = '0'), text.dropWhile Char.isDigit)

/-- What follows the version 1.1 or 1.2. -/
def afterVersion? (text : List Char) : Option (List Char) :=
  match readVersionPart? text with
  | some (['1'], '.' :: afterPoint) =>
      match readVersionPart? afterPoint with
      | some ([minor], rest) => if minor = '1' ∨ minor = '2' then some rest else none
      | _ => none
  | _ => none

/-- A handle with what it stands for. -/
def readDefinition? : List Char → Option ((List Char × Tag) × List Char)
  | '!' :: text =>
      let (handle, afterHandle) := (readHandle? text).getD (['!'], text)
      let spelling := afterHandle.dropWhile isBlank
      match readPart? true spelling with
      | some (tag, rest) =>
          if spelling.length < afterHandle.length && isParted rest then some ((handle, tag), rest)
          else none
      | none => none
  | _ => none

/-- One more directive than those that are known, from the rest of its line after the percent sign.
A version is told once, and a handle is defined once. -/
def readDirective? (known : Directives) (line : List Char) : Option Directives := do
  let afterName := line.dropWhile isWord
  let parameter := afterName.dropWhile isBlank
  let (directives, rest) ←
    if !isParted afterName then none
    else if line.takeWhile isWord = "YAML".toList then
      if known.versioned then none
      else (afterVersion? parameter).map ({ known with versioned := true }, ·)
    else if line.takeWhile isWord = "TAG".toList then
      match readDefinition? parameter with
      | some ((handle, tag), rest) =>
          if (known.handles.lookup handle).isSome then none
          else some ({ known with handles := known.handles ++ [(handle, tag)] }, rest)
      | none => none
    else none
  if afterLine? rest = some [] then some directives else none

end SpreadFlow.Yaml
