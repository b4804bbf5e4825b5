/-!
# Undo histories

A history is a bounded sequence of snapshots with a cursor on the current one. Recording a
snapshot discards those after the cursor, and, once the history is full, the oldest one.

## Main definitions

* `History.ofCapacity` is the history without snapshots.
* `History.push` records a snapshot and makes it the current one.
* `History.undo?` and `History.redo?` move the cursor by one snapshot, if there is one.
-/

namespace PageLayout

/-- Snapshots, the oldest first, and which of them is current. -/
structure History (α : Type) where
  states : List α
  /-- The place of the current snapshot, if there is any. -/
  cursor : Option Nat
  /-- The greatest number of snapshots. -/
  capacity : Nat
deriving DecidableEq, Repr

namespace History

variable {α : Type}

/-- How many snapshots are kept if nothing else is said. -/
def defaultCapacity : Nat := 50

/-- The history without snapshots that keeps at most the given number, and at least one. -/
def ofCapacity (capacity : Nat) : History α :=
  ⟨[], none, max capacity 1⟩

/-- The number of snapshots. -/
def size (history : History α) : Nat :=
  history.states.length

/-- Whether there are no snapshots. -/
def isEmpty (history : History α) : Bool :=
  history.states.isEmpty

/-- The number of snapshots up to the current one. -/
def reached (history : History α) : Nat :=
  match history.cursor with
  | some cursor => cursor + 1
  | none => 0

/-- The current snapshot. -/
def current? (history : History α) : Option α :=
  history.cursor.bind fun cursor => history.states[cursor]?

/-- Records a snapshot after the current one. -/
def push (history : History α) (state : α) : History α :=
  let kept := history.states.take history.reached ++ [state]
  -- At most one snapshot is too many, since there was room for all others.
  let states := if history.capacity < kept.length then kept.drop 1 else kept
  { history with states, cursor := some (states.length - 1) }

/-- Whether there is a snapshot before the current one. -/
def canUndo (history : History α) : Bool :=
  1 < history.reached

/-- Whether there is a snapshot after the current one. -/
def canRedo (history : History α) : Bool :=
  history.reached < history.size

/-- The snapshot before the current one, and the history in which it is current. -/
def undo? (history : History α) : Option (α × History α) :=
  match history.cursor with
  | some (cursor + 1) =>
    history.states[cursor]?.map fun state => (state, { history with cursor := some cursor })
  | _ => none

/-- The snapshot after the current one, and the history in which it is current. -/
def redo? (history : History α) : Option (α × History α) :=
  history.cursor.bind fun cursor =>
    history.states[cursor + 1]?.map fun state =>
      (state, { history with cursor := some (cursor + 1) })

/-- Forgets all snapshots. -/
def clear (history : History α) : History α :=
  { history with states := [], cursor := none }

end History

end PageLayout
