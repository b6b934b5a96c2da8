/-
Module: SpreadFlow.Yaml.Document
Purpose: YAML documents that give scalars to keys, as their entries.
Main exports: Yaml.Node, Yaml.Entry, Yaml.document?
-/
import SpreadFlow.Yaml.Property
import SpreadFlow.Yaml.Scalar

namespace SpreadFlow.Yaml

/-!
A configuration is a record whose keys and values are scalars.  The record is in block form, each
entry on lines of its own, or in flow form between brackets.  It may be left out, and then it is
empty.  Everything else is refused: collections inside others, references to anchors, a second
document.
-/

/-! ### Keys and values -/

/-- A scalar with the tag that was given to it. -/
structure Node where
  tag : Option Tag := none
  scalar : Scalar
deriving Repr, DecidableEq

/-- A key with its value. -/
structure Entry where
  key : List Char
  value : Node
deriving Repr, DecidableEq

/-- A key or value, with the place of what follows it.  Its properties may be on lines of their own,
and properties alone stand for an empty scalar.  At most `left` more properties are read. -/
def readNode? (handles : Handles) (context : Context) (left : Nat) (known : Properties)
    (place : Place) : Option (Node × Place) :=
  let here := place.next (context = .flow)
  let property := match left with
    | 0 => none
    | _ + 1 =>
        if context.admits here.column then readProperty? handles context known here.rest else none
  match left, property with
  | left + 1, some (properties, rest) => readNode? handles context left properties (.after rest)
  | _, _ =>
      match readScalar? context here with
      | some (scalar, last) => some (⟨known.tag, scalar⟩, last)
      | none => if known.isEmpty then none else some (⟨known.tag, ⟨[], true⟩⟩, here)

theorem readNode?_length_le {handles : Handles} {context : Context} {left : Nat}
    {known : Properties} {place last : Place} {node : Node}
    (read : readNode? handles context left known place = some (node, last)) :
    last.rest.length ≤ place.rest.length := by
  fun_induction readNode? handles context left known place with
  | case1 known place here property left properties rest propertyRead inductionHypothesis =>
      have property_lt := readProperty?_shorter (Option.ite_none_right_eq_some.mp propertyRead).2
      have here_le := place.next_length_le (context = .flow)
      exact Nat.le_trans (inductionHypothesis read)
        (Nat.le_trans (Nat.le_of_lt property_lt) here_le)
  | case2 left known place here property scalar after scalarRead =>
      simp only [Option.some.injEq, Prod.mk.injEq] at read
      have here_le := place.next_length_le (context = .flow)
      exact read.2 ▸ Nat.le_trans (readScalar?_length_le scalarRead) here_le
  | case3 => simp at read
  | case4 left known place here =>
      simp only [Option.some.injEq, Prod.mk.injEq] at read
      exact read.2 ▸ place.next_length_le (context = .flow)

/-- A scalar that may be a key, with what follows it.  It must be on one line. -/
def readLineScalar? (context : Context) (text : List Char) : Option (List Char × List Char) :=
  match text with
  | '"' :: rest => (doubleQuoted false).read? rest
  | '\'' :: rest => readSingleQuoted? rest
  | _ => if beginsWord text then some (takeWord (context = .flow) text) else none

theorem readLineScalar?_length_le {context : Context} {text rest characters : List Char}
    (read : readLineScalar? context text = some (characters, rest)) :
    rest.length ≤ text.length := by
  unfold readLineScalar? at read
  split at read
  · exact Nat.le_succ_of_le (Nat.le_of_lt (Quotation.read?_shorter read))
  · exact Nat.le_succ_of_le (readSingleQuoted?_length_le read)
  · have taken := takeWord_length_le (context = .flow) text
    rw [Option.some.inj (Option.ite_none_right_eq_some.mp read).2] at taken
    exact taken

/-- A scalar and the colon that makes it a key, with what follows the colon.  In flow form a quoted
key needs nothing between its colon and the value. -/
def readColoned? (context : Context) (text : List Char) : Option (List Char × List Char) := do
  let (key, afterKey) ← readLineScalar? context text
  match afterKey.dropWhile isBlank with
  | ':' :: rest =>
      if isParted rest || (context = .flow && !beginsWord text) then some (key, rest) else none
  | _ => none

theorem readColoned?_shorter {context : Context} {text rest key : List Char}
    (read : readColoned? context text = some (key, rest)) : rest.length < text.length := by
  simp only [readColoned?, Option.bind_eq_bind, Option.bind_eq_some_iff] at read
  obtain ⟨⟨word, afterKey⟩, keyRead, read⟩ := read
  split at read
  · rename_i shape
    have colon := (List.dropWhile_sublist isBlank (l := afterKey)).length_le
    simp only [Option.ite_none_right_eq_some, Option.some.injEq, Prod.mk.injEq] at read
    rw [shape, List.length_cons, read.2.2] at colon
    exact Nat.lt_of_lt_of_le colon (readLineScalar?_length_le keyRead)
  · simp at read

/-- A key and its colon after the key's properties, all on one line.  At most `left` more properties
are read. -/
def readKeyAhead? (handles : Handles) (context : Context) (left : Nat) (known : Properties)
    (text : List Char) : Option (List Char × List Char) :=
  match left, readProperty? handles context known text with
  | left + 1, some (properties, rest) =>
      readKeyAhead? handles context left properties (rest.dropWhile isBlank)
  | _, _ => readColoned? context text

theorem readKeyAhead?_shorter {handles : Handles} {context : Context} {left : Nat}
    {known : Properties} {text rest key : List Char}
    (read : readKeyAhead? handles context left known text = some (key, rest)) :
    rest.length < text.length := by
  fun_induction readKeyAhead? handles context left known text with
  | case1 known text left properties after propertyRead inductionHypothesis =>
      have property_lt := readProperty?_shorter propertyRead
      have blanks_le := (List.dropWhile_sublist isBlank (l := after)).length_le
      exact Nat.lt_trans (inductionHypothesis read) (Nat.lt_of_le_of_lt blanks_le property_lt)
  | case2 => exact readColoned?_shorter read

/-- The greatest number of characters from the beginning of a key to its colon. -/
def keyLimit : Nat := 1024

/-- A key that only its colon shows to be one, with what follows the colon, which is not too far
from where the key begins. -/
def readKey? (handles : Handles) (context : Context) (text : List Char) :
    Option (List Char × List Char) :=
  match readKeyAhead? handles context 2 {} text with
  | some (key, rest) => if text.length ≤ rest.length + 1 + keyLimit then some (key, rest) else none
  | none => none

/-- A key takes at least its colon. -/
theorem readKey?_shorter {handles : Handles} {context : Context} {text rest key : List Char}
    (read : readKey? handles context text = some (key, rest)) : rest.length < text.length := by
  unfold readKey? at read
  split at read
  · rename_i ahead
    simp only [Option.ite_none_right_eq_some, Option.some.injEq, Prod.mk.injEq] at read
    exact read.2.2 ▸ readKeyAhead?_shorter ahead
  · simp at read

/-! ### Records -/

/-- An entry in block form that begins with a question mark, read from after that.  Its colon stands
in the same column, on a later line. -/
def readMarked? (handles : Handles) (column : Nat) (text : List Char) :
    Option (Entry × Place) := do
  let (key, afterKey) ← readNode? handles (.block column) 2 {} ⟨none, false, text⟩
  let here := afterKey.next false
  match here.rest with
  | ':' :: rest =>
      if here.column = some column && isParted rest then
        let (value, last) ← readNode? handles (.block column) 2 {} ⟨none, false, rest⟩
        some (⟨key.scalar.text, value⟩, last)
      else none
  | _ => none

theorem readMarked?_length_le {handles : Handles} {column : Nat} {text : List Char} {entry : Entry}
    {last : Place} (read : readMarked? handles column text = some (entry, last)) :
    last.rest.length ≤ text.length := by
  simp only [readMarked?, Option.bind_eq_bind, Option.bind_eq_some_iff] at read
  obtain ⟨⟨key, afterKey⟩, keyRead, read⟩ := read
  split at read
  · rename_i rest shape
    simp only [Option.ite_none_right_eq_some, Option.bind_eq_some_iff, Option.some.injEq,
      Prod.mk.injEq] at read
    obtain ⟨-, ⟨value, place⟩, valueRead, -, rfl⟩ := read
    have := readNode?_length_le keyRead
    have := readNode?_length_le valueRead
    have := afterKey.next_length_le false
    simp only [shape, List.length_cons] at *
    omega
  · simp at read

/-- An entry in block form that begins in a column, with the place of what follows. -/
def readBlockPair? (handles : Handles) (column : Nat) (text : List Char) :
    Option (Entry × Place) :=
  match readKey? handles (.block column) text, text with
  | some (key, rest), _ =>
      (readNode? handles (.block column) 2 {} (.after rest)).map fun (value, last) =>
        (⟨key, value⟩, last)
  | none, '?' :: rest => if isParted rest then readMarked? handles column rest else none
  | none, _ => none

/-- An entry in block form takes at least its colon or its question mark. -/
theorem readBlockPair?_shorter {handles : Handles} {column : Nat} {text : List Char}
    {entry : Entry} {last : Place}
    (read : readBlockPair? handles column text = some (entry, last)) :
    last.rest.length < text.length := by
  unfold readBlockPair? at read
  split at read
  · rename_i keyRead
    simp only [Option.map_eq_some_iff, Prod.mk.injEq] at read
    obtain ⟨⟨value, place⟩, valueRead, -, rfl⟩ := read
    exact Nat.lt_of_le_of_lt (readNode?_length_le valueRead) (readKey?_shorter keyRead)
  · exact Nat.lt_succ_of_le
      (readMarked?_length_le (Option.ite_none_right_eq_some.mp read).2)
  · simp at read

/-- The entries in block form that begin in a column, as far as they go, with the place of what
follows.  A marker of the document's end begins no entry. -/
def readBlockPairs (handles : Handles) (column : Nat) (place : Place) : List Entry × Place :=
  let here := place.next false
  if here.column = some column && !here.isMarker '.' then
    match _ : readBlockPair? handles column here.rest with
    | some (entry, last) =>
        let (entries, final) := readBlockPairs handles column last
        (entry :: entries, final)
    | none => ([], place)
  else ([], place)
termination_by place.rest.length
decreasing_by
  rename_i read
  exact Nat.lt_of_lt_of_le (readBlockPair?_shorter read) (place.next_length_le false)

/-- A key in flow form, with what follows its colon.  After a question mark the colon may be on
another line than the key. -/
def readFlowKey? (handles : Handles) : List Char → Option (List Char × List Char)
  | '?' :: text =>
      match readNode? handles .flow 2 {} (.after text) with
      | some (key, afterKey) =>
          match (afterKey.next true).rest with
          | ':' :: rest => some (key.scalar.text, rest)
          | _ => none
      | none => none
  | text => readKey? handles .flow text

theorem readFlowKey?_shorter {handles : Handles} {text rest key : List Char}
    (read : readFlowKey? handles text = some (key, rest)) : rest.length < text.length := by
  unfold readFlowKey? at read
  split at read
  · split at read
    · rename_i afterKey keyRead
      split at read
      · rename_i shape
        have := readNode?_length_le keyRead
        have := afterKey.next_length_le true
        simp only [Option.some.injEq, Prod.mk.injEq] at read
        simp only [shape, Place.after, List.length_cons, read.2] at *
        omega
      · simp at read
    · simp at read
  · exact readKey?_shorter read

/-- An entry in flow form, with the place of what follows. -/
def readFlowPair? (handles : Handles) (text : List Char) : Option (Entry × Place) := do
  let (key, rest) ← readFlowKey? handles text
  let (value, last) ← readNode? handles .flow 2 {} (.after rest)
  some (⟨key, value⟩, last)

/-- An entry in flow form takes at least its colon. -/
theorem readFlowPair?_shorter {handles : Handles} {text : List Char} {entry : Entry}
    {last : Place} (read : readFlowPair? handles text = some (entry, last)) :
    last.rest.length < text.length := by
  simp only [readFlowPair?, Option.bind_eq_bind, Option.bind_eq_some_iff, Option.some.injEq,
    Prod.mk.injEq] at read
  obtain ⟨⟨key, rest⟩, keyRead, ⟨value, place⟩, valueRead, -, rfl⟩ := read
  exact Nat.lt_of_le_of_lt (readNode?_length_le valueRead) (readFlowKey?_shorter keyRead)

/-- The entries of a record in flow form up to its closing bracket, with what follows the bracket.
Commas part the entries, and one may stand after the last. -/
def readFlowPairs? (handles : Handles) (text : List Char) : Option (List Entry × List Char) :=
  match _ : ((Place.after text).next true).rest with
  | '\x7d' :: rest => some ([], rest)
  | inside =>
      match _ : readFlowPair? handles inside with
      | none => none
      | some (entry, last) =>
          match _ : (last.next true).rest with
          | '\x7d' :: rest => some ([entry], rest)
          | ',' :: rest =>
              (readFlowPairs? handles rest).map fun (entries, final) => (entry :: entries, final)
          | _ => none
termination_by text.length
decreasing_by
  rename_i start pairRead comma
  have inside_le : inside.length ≤ text.length := start ▸ (Place.after text).next_length_le true
  have pair_lt := readFlowPair?_shorter pairRead
  have comma_le := last.next_length_le true
  rw [comma, List.length_cons] at comma_le
  omega

/-- The record of a document, with the place of what follows.  Properties on lines above a key
belong to the record, those on the line of the key to the key.  A record may be left out if
something stands in its place: a property, the marker of the document's start, or the end of the
text. -/
def readRecord? (handles : Handles) (marked : Bool) (left : Nat) (known : Properties)
    (place : Place) : Option (List Entry × Place) :=
  let here := place.next false
  let block := here.column.map fun column => readBlockPairs handles column here
  match block, left, readProperty? handles (.block 0) known here.rest with
  | some (entry :: entries, last), _, _ => some (entry :: entries, last)
  | _, left + 1, some (properties, rest) =>
      readRecord? handles marked left properties (.after rest)
  | _, _, _ =>
      match here.rest with
      | '\x7b' :: rest =>
          (readFlowPairs? handles rest).map fun (entries, last) => (entries, .after last)
      | rest => if marked || !known.isEmpty || rest.isEmpty then some ([], here) else none

/-! ### Documents -/

/-- Whether nothing follows but comments and markers of the document's end. -/
def isFinished (place : Place) : Bool :=
  match _ : (place.next false).rest with
  | [] => true
  | character :: rest =>
      (place.next false).isMarker '.' && isFinished (.after ((character :: rest).drop 3))
termination_by place.rest.length
decreasing_by
  rename_i shape
  have := place.next_length_le false
  simp only [shape, Place.after, List.length_drop, List.length_cons] at *
  omega

/-- The directives before a document, whether a marker starts it, and the place of its record.
After a directive the marker must stand. -/
def readStart? (known : Directives) (place : Place) : Option (Directives × Bool × Place) :=
  let here := place.next false
  if here.isMarker '-' then some (known, true, .after (here.rest.drop 3))
  else
    match _ : here.rest, here.column with
    | '%' :: text, some 0 =>
        match readDirective? known (text.takeWhile (· ≠ '\n')) with
        | none => none
        | some directives =>
            readStart? directives ⟨some 0, true, (text.dropWhile (· ≠ '\n')).drop 1⟩
    | _, _ => if known = {} then some (known, false, here) else none
termination_by place.rest.length
decreasing_by
  rename_i shape
  have := place.next_length_le false
  have := (List.dropWhile_sublist (· ≠ '\n') (l := text)).length_le
  have := congrArg List.length shape
  simp only [here, List.length_drop, List.length_cons] at *
  omega

/-- The entries of the document that a text holds, in order. -/
def document? (text : List Char) : Option (List Entry) := do
  if text.all isPrintable then
    let (directives, marked, start) ← readStart? {} ⟨some 0, false, unifyBreaks text⟩
    let (entries, last) ← readRecord? directives.allHandles marked 2 {} start
    if isFinished last then some entries else none
  else none

end SpreadFlow.Yaml
