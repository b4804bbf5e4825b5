import PageLayout.Toml.Failure
import PageLayout.Toml.Spelling

/-!
# Building TOML tables

A table is given once. A header may lead through tables that other headers implied, and may then
give them; a dotted key may only lead through tables that dotted keys or headers implied. What is
built here is the table of the whole text, one statement at a time.
-/

namespace PageLayout.Toml

/-- The places in which keys lead through tables. -/
inductive Passage where
  /-- The name in a header. -/
  | header
  /-- The key of a statement. -/
  | dotted
  /-- The key of a pair in braces. -/
  | inline
deriving DecidableEq, Repr

/-- How the tables come about that are missing on the way. -/
def Passage.origin : Passage → Origin
  | .header => .implied
  | _ => .dotted

namespace Entries

/-- The value of a key. -/
def get? (entries : Entries) (name : String) : Option Node :=
  (entries.find? fun entry => entry.1.name == name).map Prod.snd

/-- The entries with another value for a key they have. -/
def replace (entries : Entries) (name : String) (node : Node) : Entries :=
  entries.map fun entry => if entry.1.name == name then (entry.1, node) else entry

/-- The entries without a key. -/
def erase (entries : Entries) (name : String) : Entries :=
  entries.filter fun entry => entry.1.name != name

/-- Makes a change in the table to which a path of keys leads. The tables on the way are made if
they are missing; of the tables of a header in double brackets, the last one is on the way. The
change sees how the table came about, and may take something out of it. -/
def change {α : Type} (passage : Passage) (act : Origin → Entries → Except Fault (Entries × α))
    (passed : List String) : List Key → Origin → Entries → Except Fault (Entries × α)
  | [], origin, entries => act origin entries
  | key :: path, _, entries =>
    let passed := passed ++ [key.name]
    match entries.get? key.name with
    | none => do
      let (inner, taken) ← change passage act passed path passage.origin []
      return (entries ++ [(key, .table none passage.origin inner)], taken)
    | some (.table extent origin inner) =>
      -- A dotted key may not reach into a table that has a header of its own.
      if passage != .header && origin == .header then .error (.duplicateKey key.name none)
      else do
        let (inner, taken) ← change passage act passed path origin inner
        return (entries.replace key.name (.table extent origin inner), taken)
    | some (.tables extent items) =>
      match items.getLast? with
      | some (.table last origin inner) => do
        let (inner, taken) ← change passage act passed path origin inner
        let items := items.dropLast ++ [.table last origin inner]
        return (entries.replace key.name (.tables extent items), taken)
      | _ => .error (.notTable passed "array of tables")
    | some node =>
      -- Inside braces, a table in braces is a table that is given already.
      match passage, node with
      | .inline, .inlineTable .. => .error (.duplicateKey key.name none)
      | _, _ => .error (.notTable passed node.kindName)

/-- Gives a value to a dotted key of a table with the given name, if it has one. A table that
dotted keys made takes values from dotted keys only, and any other table from plain keys only. -/
def add (entries : Entries) (passage : Passage) (table : Option (List String)) (path : List Key)
    (key : Key) (node : Node) : Except Fault Entries := do
  let act (origin : Origin) (entries : Entries) : Except Fault (Entries × Unit) :=
    -- The table reached is one that dotted keys made, exactly if keys lead to it.
    if (origin == .dotted) == path.isEmpty then .error (.duplicateKey key.name none)
    else if (entries.get? key.name).isSome then .error (.duplicateKey key.name table)
    else .ok (entries ++ [(key, node)], ())
  let (entries, _) ← change passage act [] path .header entries
  return entries

end Entries

/-- The table of a text in the course of building: the table that statements add to is kept apart
from the others until the next header. -/
structure Builder where
  /-- The table of the whole text without the current one. -/
  root : Entries
  /-- The keys that lead to the current table, the last of them apart; none if it is the table of
  the whole text. -/
  path : Option (List Key × Key)
  /-- Whether the current table is one of several. -/
  isItem : Bool
  /-- The part of the text that gives the current table. -/
  extent : Option Extent
  /-- The current table. -/
  entries : Entries

namespace Builder

/-- The builder at the beginning of a text. -/
def start : Builder :=
  ⟨[], none, false, none, []⟩

/-- The table of the whole text, with the current table in its place. -/
def close (builder : Builder) : Except Fault Entries :=
  match builder.path with
  | none => .ok builder.entries
  | some (path, key) => do
    let table : Node := .table builder.extent .header builder.entries
    let act (_ : Origin) (entries : Entries) : Except Fault (Entries × Unit) :=
      match builder.isItem, entries.get? key.name with
      | true, some (.tables extent items) =>
        let extent := (Extent.join <$> extent <*> builder.extent).or builder.extent
        .ok (entries.replace key.name (.tables extent (items ++ [table])), ())
      | _, _ => .ok (entries.erase key.name ++ [(key, table)], ())
    let (root, _) ← Entries.change .header act [] path .header builder.root
    return root

/-- Begins the table of a header. A table that was implied so far goes on; any other table of
that name is in the way. -/
def openTable (builder : Builder) (path : List Key) (key : Key) (extent : Extent) :
    Except Fault Builder := do
  let root ← builder.close
  let act (_ : Origin) (entries : Entries) : Except Fault (Entries × Entries) :=
    match entries.get? key.name with
    | none => .ok (entries, [])
    -- What was implied so far is taken out, and put back when the table is closed.
    | some (.table _ .implied inner) => .ok (entries.erase key.name, inner)
    | some _ => .error (.duplicateKey key.spelling (some (path.map Key.name)))
  let (root, entries) ← Entries.change .header act [] path .header root
  return ⟨root, some (path, key), false, some extent, entries⟩

/-- Begins one more table of a header in double brackets. -/
def openItem (builder : Builder) (path : List Key) (key : Key) (extent : Extent) :
    Except Fault Builder := do
  let root ← builder.close
  let act (_ : Origin) (entries : Entries) : Except Fault (Entries × Unit) :=
    match entries.get? key.name with
    | none => .ok (entries ++ [(key, .tables none [])], ())
    | some (.tables ..) => .ok (entries, ())
    | some _ => .error (.duplicateKey key.spelling (some (path.map Key.name)))
  let (root, _) ← Entries.change .header act [] path .header root
  return ⟨root, some (path, key), true, some extent, []⟩

/-- Gives a value to a dotted key of the current table. -/
def add (builder : Builder) (path : List Key) (key : Key) (node : Node) :
    Except Fault Builder := do
  let table := match builder.path with
    | none => []
    | some (path, key) => (path ++ [key]).map Key.name
  let entries ← builder.entries.add .dotted (some table) path key node
  let extent := builder.extent.map fun extent => (node.extent?.map extent.join).getD extent
  return { builder with entries, extent }

end Builder

end PageLayout.Toml
