import PageLayout.Json.Skip

/-!
# Reading records

A record is written as an object or as an array. In an object its fields stand in any order,
each at most once, among members of other names, which are passed over. In an array all fields
stand in the order in which the record declares them.

## Main definitions

* `RecordType σ` says what the fields of a record are and how each is read into a `σ`.
* `readRecord` reads a record in either form.
-/

namespace PageLayout.Json

variable {σ : Type}

/-- A field of a record: its name, and how its value is read into the record. -/
structure Field (σ : Type) where
  name : String
  read : σ → Reader σ

/-- A record type: its name in error messages, its fields, and the record that has none of them
yet. -/
structure RecordType (σ : Type) where
  name : String
  fields : List (Field σ)
  blank : σ

namespace RecordType

/-- The record type in an error message about the length of an array. -/
def arrayName (type : RecordType σ) : String :=
  type.name ++ " with " ++ Decimal.intText type.fields.length ++ " elements"

/-- The text after an object that is given up at its first fault: past its end, if the end comes
next. -/
def afterFault (cs : List Char) : List Char :=
  match skipSpace cs with
  | '\x7d' :: rest => rest
  | rest => rest

/-- Reads a member of an object, from after its key, into a record that has been given the fields
with the names in the state. -/
def readMember (type : RecordType σ) (state : List String × σ) (key : String) :
    Reader (List String × σ) := fun cs =>
  match type.fields.find? fun field => field.name == key with
  | none => do return (state, ← skipValue (← readColon cs))
  | some field =>
    -- A field given before is refused before its value is looked at.
    if state.1.contains key then failAt (.duplicateField key) (afterFault cs)
    else do
      let (record, rest) ← field.read state.2 (← readColon cs)
      return ((key :: state.1, record), rest)

/-- Reads the remaining fields from an array, the first of them from the item at `index`. -/
def readSlots (type : RecordType σ) : Nat → List (Field σ) → σ → Reader σ
  | _, [], record, cs =>
    match skipSpace cs with
    | [] => failPast .eofInList 1 []
    | ']' :: rest => .ok (record, rest)
    | ',' :: rest =>
      match skipSpace rest with
      | ']' :: rest => failPast .trailingComma 1 (']' :: rest)
      | rest => failPast .trailingCharacters 1 rest
    | rest => failPast .trailingCharacters 1 rest
  | index, field :: fields, record, cs => do
    match ← nextItem (index == 0) cs with
    | .done rest => failAt (.invalidLength index type.arrayName) rest
    | .more rest =>
      let (record, rest) ← field.read record rest
      readSlots type (index + 1) fields record rest

end RecordType

/-- Reads a record. Its fields are declared for the levels that are left inside it. -/
def readRecord (type : Nat → RecordType σ) (levels : Nat) : Reader σ := fun cs =>
  match skipSpace cs, levels with
  | '[' :: rest, 0 => failPast .recursionLimit 1 ('[' :: rest)
  | '\x7b' :: rest, 0 => failPast .recursionLimit 1 ('\x7b' :: rest)
  | '[' :: rest, levels + 1 =>
    (type levels).readSlots 0 (type levels).fields (type levels).blank rest
  | '\x7b' :: rest, levels + 1 =>
    (readMembers (type levels).readMember ([], (type levels).blank) rest).map fun (state, rest) =>
      (state.2, rest)
  | rest, levels => failType (type levels).name rest

end PageLayout.Json
