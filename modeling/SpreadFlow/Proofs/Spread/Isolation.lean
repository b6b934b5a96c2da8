/-
Module: SpreadFlow.Proofs.Spread.Isolation
Purpose: What is done to one row of a spread shows in no other, however long the run.
Main exports: RowCommand.row?, RowCommand.changed, RowCommand.kept, RowCommand.addressedTo,
  RowCommand.runRow, RowCommand.get?_apply_of_row?, RowCommand.Stays,
  RowCommand.get?_run_of_stays, RowCommand.rows_isolated
-/
import SpreadFlow.Spread.Rows

namespace SpreadFlow

/-!
A command addresses one row by its number, or none.  If it addresses one it makes something of that
row and leaves all others, and if there is no such row it leaves everything.  A command that
addresses none keeps a front part of the rows as they are.

So the history of a row is its own.  As long as no command takes the row away or puts another in its
place, it is what the commands addressed to it have made of it, one after the other.  What stood in
other rows, and which rows began as copies of one value, has no part in it.
-/

namespace Spread

variable {α : Type}

theorem get?_eq_none_iff {spread : Spread α} {slot : Nat} :
    spread.get? slot = none ↔ spread.count ≤ slot :=
  List.getElem?_eq_none_iff

theorem get?_append_of_lt {spread : Spread α} {slot : Nat} (within : slot < spread.count)
    (values : List α) : (spread.append values).get? slot = spread.get? slot :=
  List.getElem?_append_left within

/-- After resizing, a slot that was there before holds what it did, and a new one the default. -/
theorem get?_resize [Inhabited α] (spread : Spread α) (size slot : Nat) :
    (spread.resize size).get? slot =
      if slot < min size spread.count then spread.get? slot
      else if slot < size then some default else none := by
  have front : (spread.toList.take size).length = min size spread.count := List.length_take
  by_cases old : slot < min size spread.count
  · rw [if_pos old, get?, resize, List.getElem?_append_left (front ▸ old),
      List.getElem?_take_of_lt (Nat.lt_min.mp old).1]
    rfl
  · rw [if_neg old, get?, resize, List.getElem?_append_right (front ▸ Nat.le_of_not_lt old), front,
      List.getElem?_replicate]
    by_cases new : slot < size
    · rw [if_pos new, if_pos (by omega)]
    · rw [if_neg new, if_neg (by omega)]

end Spread

namespace RowCommand

variable {α : Type}

/-- The row that a command addresses by its number.  A look-up that may miss and a cyclic read take
any number, so they address none. -/
def row? : RowCommand α → Option Nat
  | .whole (.set row _) | .whole (.read row) | .push row _ | .resize row _ | .clear row => some row
  | .whole _ | .readCyclic _ _ => none

/-- What a command makes of the row that it addresses. -/
def changed [Inhabited α] : RowCommand α → Spread α → Spread α
  | .whole (.set _ value) => fun _ => value
  | .push _ value => (·.push value)
  | .resize _ size => (·.resize size)
  | .clear _ => (·.clear)
  | .whole _ | .readCyclic _ _ => id

/-- How many rows, counted from the first, a command leaves in their places. -/
def kept (count : Nat) : RowCommand α → Nat
  | .whole (.replace _) | .whole .clear | .whole (.fill _) | .whole .drain => 0
  | .whole (.resize size) => min size count
  | .whole _ | .push _ _ | .resize _ _ | .clear _ | .readCyclic _ _ => count

/-- The commands of a run that address a row, in order. -/
def addressedTo (slot : Nat) (commands : List (RowCommand α)) : List (RowCommand α) :=
  commands.filter fun command => command.row? = some slot

/-- What a run of commands, all addressed to one row, makes of it. -/
def runRow [Inhabited α] (commands : List (RowCommand α)) (row : Spread α) : Spread α :=
  commands.foldl (fun current command => command.changed current) row

section

variable {rows : Spread (Spread α)} {row : Nat}

theorem changeRow_of_within (within : row < rows.count) (change : Spread α → Spread α) :
    changeRow rows row change = (.whole .done, .ofList (rows.toList.modify row change)) := by
  rw [changeRow, Spread.modify?, if_pos within]

theorem changeRow_of_past (past : rows.count ≤ row) (change : Spread α → Spread α) :
    changeRow rows row change = (.whole (.outOfBounds ⟨rows.count, row⟩), rows) := by
  rw [changeRow, Spread.modify?, if_neg (Nat.not_lt_of_le past)]

end

variable [BEq α] [Inhabited α] {rows : Spread (Spread α)} {command : RowCommand α} {row slot : Nat}

/-! ### One command -/

theorem apply_whole (command : Command (Spread α)) (rows : Spread (Spread α)) :
    (whole command).apply rows = (.whole (command.apply rows).1, (command.apply rows).2) := rfl

/-- Setting a row changes it in place. -/
theorem apply_set (row : Nat) (value : Spread α) (rows : Spread (Spread α)) :
    (whole (.set row value)).apply rows = changeRow rows row fun _ => value := by
  rw [apply_whole, Command.apply, changeRow, Spread.set?]
  cases rows.modify? row fun _ => value with
  | none => rfl
  | some after => rfl

theorem apply_read_of_within (within : row < rows.count) :
    (whole (.read row)).apply rows = (.whole (.slice (rows.get? row)), rows) := by
  have found : rows.get? row = some rows.toList[row] := List.getElem?_eq_getElem within
  rw [apply_whole, Command.apply, found]

theorem apply_read_of_past (past : rows.count ≤ row) :
    (whole (.read row)).apply rows = (.whole (.outOfBounds ⟨rows.count, row⟩), rows) := by
  rw [apply_whole, Command.apply, Spread.get?_eq_none_iff.mpr past]

/-- A command addressed to a row reads it or changes it in place. -/
theorem read_or_changeRow (addressed : command.row? = some row) (rows : Spread (Spread α)) :
    command = .whole (.read row) ∨ command.apply rows = changeRow rows row command.changed := by
  cases command with
  | whole command =>
      cases command with
      | set row value =>
          cases addressed
          exact .inr (apply_set row value rows)
      | read row =>
          cases addressed
          exact .inl rfl
      | _ => cases addressed
  | readCyclic row column => cases addressed
  | _ =>
      cases addressed
      exact .inr rfl

/-- A command addressed to a row that is there changes it in place, if at all. -/
theorem apply_of_within (addressed : command.row? = some row) (within : row < rows.count) :
    (∀ fault, (command.apply rows).1 ≠ .whole (.outOfBounds fault)) ∧
      (command.apply rows).2 = .ofList (rows.toList.modify row command.changed) := by
  rcases read_or_changeRow addressed rows with rfl | changes
  · have unchanged : (whole (.read row) : RowCommand α).changed = id := rfl
    rw [apply_read_of_within within, unchanged, List.modify_id]
    exact ⟨nofun, rfl⟩
  · rw [changes, changeRow_of_within within]
    exact ⟨nofun, rfl⟩

/-- A command addressed past the last row reports that and leaves everything as it is. -/
theorem apply_of_past (addressed : command.row? = some row) (past : rows.count ≤ row) :
    command.apply rows = (.whole (.outOfBounds ⟨rows.count, row⟩), rows) := by
  rcases read_or_changeRow addressed rows with rfl | changes
  · exact apply_read_of_past past
  · rw [changes, changeRow_of_past past]

/-- A command that addresses no row never is out of bounds. -/
theorem answer_ne_outOfBounds (unaddressed : command.row? = none) (fault : OutOfBounds) :
    (command.apply rows).1 ≠ .whole (.outOfBounds fault) := by
  cases command with
  | push _ _ | resize _ _ | clear _ => cases unaddressed
  | readCyclic _ _ => nofun
  | whole command =>
      rw [apply_whole, Ne, RowAnswer.whole.injEq]
      cases command with
      | set _ _ | read _ => cases unaddressed
      | _ => nofun

/-- A command addressed to a row keeps their number. -/
theorem count_apply_of_row? (addressed : command.row? = some row) (rows : Spread (Spread α)) :
    (command.apply rows).2.count = rows.count := by
  rcases Nat.lt_or_ge row rows.count with within | past
  · rw [(apply_of_within addressed within).2]
    exact List.length_modify command.changed rows.toList row
  · rw [apply_of_past addressed past]

/-- A command addressed to a row changes that and no other. -/
theorem get?_apply_of_row? (addressed : command.row? = some row) (rows : Spread (Spread α))
    (slot : Nat) :
    (command.apply rows).2.get? slot =
      if row = slot then (rows.get? slot).map command.changed else rows.get? slot := by
  rcases Nat.lt_or_ge row rows.count with within | past
  · rw [(apply_of_within addressed within).2]
    by_cases here : row = slot
    · rw [if_pos here, here]
      exact List.getElem?_modify_eq command.changed slot rows.toList
    · rw [if_neg here]
      exact List.getElem?_modify_ne command.changed rows.toList here
  · rw [apply_of_past addressed past]
    by_cases here : row = slot
    · rw [if_pos here, Spread.get?_eq_none_iff.mpr (here ▸ past)]
      rfl
    · rw [if_neg here]

/-- Only a command addressed past the last row reports that an index is out of bounds. -/
theorem apply_eq_outOfBounds_iff {fault : OutOfBounds} :
    (command.apply rows).1 = .whole (.outOfBounds fault) ↔
      ∃ row, command.row? = some row ∧ rows.count ≤ row ∧ fault = ⟨rows.count, row⟩ := by
  constructor
  · intro reported
    cases addressed : command.row? with
    | none => exact absurd reported (answer_ne_outOfBounds addressed fault)
    | some row =>
        refine ⟨row, rfl, ?_⟩
        rcases Nat.lt_or_ge row rows.count with within | past
        · exact absurd reported ((apply_of_within addressed within).1 fault)
        · rw [apply_of_past addressed past] at reported
          cases reported
          exact ⟨past, rfl⟩
  · rintro ⟨row, addressed, past, rfl⟩
    rw [apply_of_past addressed past]

/-- A command that addresses no row leaves those that it keeps as they are. -/
theorem get?_apply_of_unaddressed (unaddressed : command.row? = none)
    (keeps : slot < command.kept rows.count) :
    (command.apply rows).2.get? slot = rows.get? slot := by
  cases command with
  | push _ _ | resize _ _ | clear _ => cases unaddressed
  | readCyclic _ _ => rfl
  | whole command =>
      cases command with
      | set _ _ | read _ => cases unaddressed
      | replace _ | clear | fill _ | drain => exact absurd keeps (Nat.not_lt_zero slot)
      | push value => exact Spread.get?_append_of_lt keeps [value]
      | append values => exact Spread.get?_append_of_lt keeps values
      | appendSelf => exact Spread.get?_append_of_lt keeps rows.toList
      | resize size => exact (rows.get?_resize size slot).trans (if_pos keeps)
      | _ => rfl

/-! ### Runs -/

/-- No command of the run takes the row in this place away or puts another there unasked. -/
def Stays (slot : Nat) : List (RowCommand α) → Spread (Spread α) → Prop
  | [], rows => slot < rows.count
  | command :: commands, rows =>
      slot < command.kept rows.count ∧ Stays slot commands (command.apply rows).2

instance decidableStays (slot : Nat) :
    (commands : List (RowCommand α)) → (rows : Spread (Spread α)) →
      Decidable (Stays slot commands rows)
  | [], rows => inferInstanceAs (Decidable (slot < rows.count))
  | command :: commands, rows =>
      have := decidableStays slot commands (command.apply rows).2
      inferInstanceAs (Decidable (slot < command.kept rows.count ∧ _))

theorem run_append (before after : List (RowCommand α)) (rows : Spread (Spread α)) :
    run (before ++ after) rows = run after (run before rows) :=
  List.foldl_append

/-- A row that stays is what the commands addressed to it make of it, in order. -/
theorem get?_run_of_stays {commands : List (RowCommand α)} (stays : Stays slot commands rows) :
    (run commands rows).get? slot = (rows.get? slot).map (runRow (addressedTo slot commands)) := by
  induction commands generalizing rows with
  | nil => exact Option.map_id'.symm
  | cons command commands inductionHypothesis =>
      obtain ⟨keeps, staysLater⟩ := stays
      have later := inductionHypothesis staysLater
      change (run commands (command.apply rows).2).get? slot = _
      rw [later]
      cases addressed : command.row? with
      | none =>
          rw [get?_apply_of_unaddressed addressed keeps, addressedTo, addressedTo,
            List.filter_cons_of_neg (by simp [addressed])]
      | some row =>
          rw [get?_apply_of_row? addressed]
          by_cases here : row = slot
          · subst here
            rw [if_pos rfl, addressedTo, addressedTo, List.filter_cons_of_pos (by simp [addressed]),
              Option.map_map]
            rfl
          · rw [if_neg here, addressedTo, addressedTo,
              List.filter_cons_of_neg (by simp [addressed, here])]

/-- In every state that a run from nothing comes to, a command addressed to a row makes what it does
of that row and leaves the number of rows and all other rows as they are.  If there is no such row
the answer says so, with the number of rows and the index, and nothing changes; no other command is
ever out of bounds.  Resizing keeps the first rows, and further ones are empty whatever once stood
there.  In a longer run a row that stays depends on nothing but the commands addressed to it. -/
theorem rows_isolated (history : List (RowCommand α)) :
    let rows := run history .empty
    (∀ (command : RowCommand α) (row : Nat), command.row? = some row →
      (row < rows.count →
        (command.apply rows).2.count = rows.count ∧
          (command.apply rows).2.get? row = (rows.get? row).map command.changed ∧
          ∀ other ≠ row, (command.apply rows).2.get? other = rows.get? other) ∧
      (rows.count ≤ row →
        command.apply rows = (.whole (.outOfBounds ⟨rows.count, row⟩), rows))) ∧
    (∀ (command : RowCommand α) (fault : OutOfBounds),
      (command.apply rows).1 = .whole (.outOfBounds fault) ↔
        ∃ row, command.row? = some row ∧ rows.count ≤ row ∧ fault = ⟨rows.count, row⟩) ∧
    (∀ size slot : Nat, ((whole (.resize size)).apply rows).2.get? slot =
      if slot < min size rows.count then rows.get? slot
      else if slot < size then some .empty else none) ∧
    ∀ (later : List (RowCommand α)) (slot : Nat), Stays slot later rows →
      (run (history ++ later) .empty).get? slot =
        (rows.get? slot).map (runRow (addressedTo slot later)) := by
  intro rows
  refine ⟨?_, fun _ _ => apply_eq_outOfBounds_iff, rows.get?_resize, ?_⟩
  · intro command row addressed
    refine ⟨fun _ => ⟨count_apply_of_row? addressed rows, ?_, ?_⟩, apply_of_past addressed⟩
    · rw [get?_apply_of_row? addressed, if_pos rfl]
    · intro other different
      rw [get?_apply_of_row? addressed, if_neg different.symm]
  · intro later slot stays
    rw [run_append]
    exact get?_run_of_stays stays

/-- Three copies of one row.  The second is changed, cut off together with the third, and grown
again.  It is empty then, and only what is pushed onto it shows in it. -/
theorem rows_isolated_after_regrowth :
    let history : List (RowCommand Int32) :=
      [.whole (.resize 3), .whole (.fill (.ofList [1])), .push 1 9, .whole (.resize 1),
        .whole (.resize 3)]
    let later : List (RowCommand Int32) :=
      [.push 0 7, .whole .appendSelf, .push 2 5, .push 1 4, .clear 6, .whole (.resize 2)]
    let rows := run history .empty
    (push 2 5 : RowCommand Int32).row? = some 2 ∧ 2 < rows.count ∧ 1 ≠ 2 ∧
      ((push 2 5).apply rows).2.get? 1 = some .empty ∧
      (clear 3 : RowCommand Int32).row? = some 3 ∧ rows.count ≤ 3 ∧
      (clear 3).apply rows = (.whole (.outOfBounds ⟨3, 3⟩), rows) ∧
      Stays 1 later rows ∧ (run (history ++ later) .empty).get? 1 = some (.ofList [4]) := by
  intro history later rows
  obtain ⟨addressed, -, -, longer⟩ := rows_isolated history
  have second : rows.get? 1 = some .empty := by decide
  have stays : Stays 1 later rows := by decide
  have within : 2 < rows.count := by decide
  have past : rows.count ≤ 3 := by decide
  refine ⟨rfl, within, by decide, ?_, rfl, past, (addressed (clear 3) 3 rfl).2 past, stays, ?_⟩
  · rw [((addressed (push 2 5) 2 rfl).1 within).2.2 1 (by decide), second]
  · rw [longer later 1 stays, second]
    rfl

end RowCommand

end SpreadFlow
