import PageLayout.Json.Token

/-!
# Reading JSON values

Arrays and objects are read by two folds, `foldItems` and `foldMembers`, which know the brackets,
the commas and what may go wrong between them; what an item or a member is, and what becomes of
it, is left to their arguments. A value may nest at most as many levels as the reader is given.

## Main definitions

* `readValue levels` reads a value of at most that many levels.
* `readItems` and `readMembers` read the parts of an array or an object into a state.
* `readText`, `readFloat`, `readList` and `readOptional` read values of one kind, and fail with
  that kind's name at any other value.
* `readWhole` reads a whole text, with nothing but blanks after the value.
-/

namespace PageLayout.Json

/-- How many levels of arrays and objects a text may nest. -/
def maxLevels : Nat := 127

/-- What follows in an array or an object: one more part, which begins at `rest`, or the end,
after which comes `rest`. -/
inductive Next where
  | more (rest : List Char)
  | done (rest : List Char)

/-- Looks for the next item of an array. -/
def nextItem (first : Bool) (cs : List Char) : Except Failure Next :=
  match skipSpace cs with
  | [] => failPast .eofInList 1 []
  | ']' :: rest => .ok (.done rest)
  | ',' :: rest =>
    if first then .ok (.more (',' :: rest))
    else match skipSpace rest with
      | [] => failPast .eofInValue 1 []
      | ']' :: rest => failPast .trailingComma 1 (']' :: rest)
      | rest => .ok (.more rest)
  | rest => if first then .ok (.more rest) else failPast .expectedListCommaOrEnd 1 rest

/-- Looks for the next member of an object; its key begins at `rest`, after the quote. -/
def nextMember (first : Bool) (cs : List Char) : Except Failure Next :=
  match skipSpace cs with
  | [] => failPast .eofInObject 1 []
  | '\x7d' :: rest => .ok (.done rest)
  | ',' :: rest =>
    if first then failPast .keyMustBeString 1 (',' :: rest)
    else match skipSpace rest with
      | [] => failPast .eofInValue 1 []
      | '"' :: rest => .ok (.more rest)
      | '\x7d' :: rest => failPast .trailingComma 1 ('\x7d' :: rest)
      | rest => failPast .keyMustBeString 1 rest
  | c :: rest =>
    if !first then failPast .expectedObjectCommaOrEnd 1 (c :: rest)
    else if c = '"' then .ok (.more rest)
    else failPast .keyMustBeString 1 (c :: rest)

/-- Reads the colon after a key. -/
def readColon (cs : List Char) : Except Failure (List Char) :=
  match skipSpace cs with
  | [] => failPast .eofInObject 1 []
  | ':' :: rest => .ok rest
  | rest => failPast .expectedColon 1 rest

section Folds

variable {σ : Type}

/-- Reads the items of an array up to its closing bracket, each into the state left by the one
before. The first argument bounds the number of items, one for each of its characters; since an
item has at least one character, the text itself will do. -/
def foldItems (item : σ → Reader σ) : List Char → Bool → σ → Reader σ
  | [], _, _, _ => failPast .eofInList 1 []
  | _ :: bound, first, state, cs => do
    match ← nextItem first cs with
    | .done rest => return (state, rest)
    | .more rest =>
      let (state, rest) ← item state rest
      foldItems item bound false state rest

/-- Reads the members of an object up to its closing bracket, each into the state left by the one
before; a member is read from after its key. The first argument bounds the number of members, one
for each of its characters. -/
def foldMembers (member : σ → String → Reader σ) : List Char → Bool → σ → Reader σ
  | [], _, _, _ => failPast .eofInObject 1 []
  | _ :: bound, first, state, cs => do
    match ← nextMember first cs with
    | .done rest => return (state, rest)
    | .more rest =>
      let (key, rest) ← readString rest
      let (state, rest) ← member state key rest
      foldMembers member bound false state rest

/-- Reads an array after its opening bracket. -/
def readItems (item : σ → Reader σ) (start : σ) : Reader σ := fun cs =>
  foldItems item cs true start cs

/-- Reads an object after its opening bracket. -/
def readMembers (member : σ → String → Reader σ) (start : σ) : Reader σ := fun cs =>
  foldMembers member cs true start cs

end Folds

/-- Reads a value without parts. -/
def readScalar : Reader Value
  | [] => failPast .eofInValue 1 []
  | 'n' :: cs => (readWord ['u', 'l', 'l'] cs).map fun r => (.null, r.2)
  | 't' :: cs => (readWord ['r', 'u', 'e'] cs).map fun r => (.boolean true, r.2)
  | 'f' :: cs => (readWord ['a', 'l', 's', 'e'] cs).map fun r => (.boolean false, r.2)
  | '"' :: cs => (readString cs).map fun r => (.string r.1, r.2)
  | c :: cs =>
    if c = '-' ∨ c.isDigit then (readNumber (c :: cs)).map fun r => (.number r.1, r.2)
    else failPast .expectedValue 1 (c :: cs)

/-- Adds an item in front of those read before it. -/
def pushItem {α : Type} (item : Reader α) (done : List α) : Reader (List α) := fun cs =>
  (item cs).map fun (value, rest) => (value :: done, rest)

/-- Reads a value that nests at most the given number of levels. -/
def readValue : Nat → Reader Value
  | 0, cs =>
    match skipSpace cs with
    | '[' :: rest => failPast .recursionLimit 1 ('[' :: rest)
    | '\x7b' :: rest => failPast .recursionLimit 1 ('\x7b' :: rest)
    | rest => readScalar rest
  | levels + 1, cs =>
    match skipSpace cs with
    | '[' :: rest =>
      (readItems (pushItem (readValue levels)) [] rest).map fun (items, rest) =>
        (.array items.reverse, rest)
    | '\x7b' :: rest =>
      let member (members : List (String × Value)) (key : String) :
          Reader (List (String × Value)) := fun cs => do
        let (value, rest) ← readValue levels (← readColon cs)
        return (Value.insertMember key value members, rest)
      (readMembers member [] rest).map fun (members, rest) => (.object members, rest)
    | rest => readScalar rest

/-- Fails because the value at the front of the text is not of the expected type. A value without
parts is read first, and may fail for another reason. -/
def failType {α : Type} (expected : String) : List Char → Except Failure α
  | '[' :: cs => failAt (.invalidType .sequence expected) ('[' :: cs)
  | '\x7b' :: cs => failAt (.invalidType .map expected) ('\x7b' :: cs)
  | cs => do
    let (value, rest) ← readScalar cs
    let found : Found := match value with
      | .boolean b => .boolean b
      | .number (.whole n) => .integer n
      | .number (.real x) => .real x
      | .string s => .string s
      | _ => .null
    failAt (.invalidType found expected) rest

/-- Reads `null` as an absent value, and anything else as a value of the given kind. -/
def readOptional {α : Type} (read : Reader α) : Reader (Option α) := fun cs =>
  match skipSpace cs with
  | 'n' :: rest => (readWord ['u', 'l', 'l'] rest).map fun r => (none, r.2)
  | rest => (read rest).map fun (value, rest) => (some value, rest)

/-- Reads a value that must be a string. -/
def readText : Reader String := fun cs =>
  match skipSpace cs with
  | '"' :: rest => readString rest
  | rest => failType "a string" rest

/-- Reads a value that must be a number, as a double. -/
def readFloat : Reader Float := fun cs =>
  match skipSpace cs with
  | c :: rest =>
    if c = '-' ∨ c.isDigit then (readNumber (c :: rest)).map fun r => (r.1.toFloat, r.2)
    else failType "f64" (c :: rest)
  | [] => failType "f64" []

/-- Reads a value that must be an array, whose items see one level less. -/
def readList {α : Type} (item : Nat → Reader α) (levels : Nat) : Reader (List α) := fun cs =>
  match skipSpace cs with
  | '[' :: rest =>
    match levels with
    | 0 => failPast .recursionLimit 1 ('[' :: rest)
    | levels + 1 =>
      (readItems (pushItem (item levels)) [] rest).map fun (items, rest) => (items.reverse, rest)
  | rest => failType "a sequence" rest

/-- Reads a whole text as one value. -/
def readWhole {α : Type} (read : Reader α) (source : String) : Except Error α :=
  let text := source.toList
  let result := do
    let (value, rest) ← read text
    match skipSpace rest with
    | [] => return value
    | rest => failPast .trailingCharacters 1 rest
  result.mapError (Failure.toError text)

/-- Reads a whole text as a JSON value. -/
def Value.read (source : String) : Except Error Value :=
  readWhole (readValue maxLevels) source

end PageLayout.Json
