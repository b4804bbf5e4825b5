import PageLayout.Toml.Number
import PageLayout.Toml.Table

/-!
# Reading TOML

A text is a list of statements, one a line: headers and keys with their values. Values may go
over several lines only inside square brackets and triple quotes.

## Main definitions

* `readValue levels` reads a value of at most that many levels.
* `readStatement` reads one statement and makes the change to the tables that it asks for.
* `readTable` reads a whole text.
-/

namespace PageLayout.Toml

/-- Failing where a word stands that should be a string. -/
def failUnquoted {α : Type} (cs : List Char) : Except Failure α :=
  failIn "string" ["`\"`", "`\x27`"] cs

/-- Reads a word that must come next. -/
def readWord (word : List Char) (value : Scalar) : Reader Scalar := fun cs =>
  if word.isPrefixOf cs then .ok (value, cs.drop word.length) else failUnquoted cs

/-- Whether a text begins with a value, be it a broken one. -/
def beginsValue : List Char → Bool
  | [] => false
  | c :: cs =>
    let beginsNamed (cs : List Char) : Bool :=
      ['i', 'n', 'f'].isPrefixOf cs || ['n', 'a', 'n'].isPrefixOf cs
    if c = '+' ∨ c = '-' then cs.head?.any Char.isDigit || beginsNamed cs
    else ['"', '\x27', '[', '\x7b', 't', 'f'].contains c || c.isDigit || beginsNamed (c :: cs)

/-- Reads a value without parts. -/
def readScalar : Reader Scalar := fun cs =>
  match cs with
  | '"' :: _ | '\x27' :: _ => (readString cs).map fun (s, rest) => (.string s, rest)
  | 't' :: _ => readWord ['t', 'r', 'u', 'e'] (.boolean true) cs
  | 'f' :: _ => readWord ['f', 'a', 'l', 's', 'e'] (.boolean false) cs
  | 'i' :: _ => readWord ['i', 'n', 'f'] (.real (1.0 / 0.0)) cs
  | 'n' :: _ => readWord ['n', 'a', 'n'] (.real (0.0 / 0.0)) cs
  -- These look like numbers that lack a digit in front.
  | '_' :: _ => failIn "integer" ["leading digit"] cs
  | '.' :: _ => failIn "floating-point number" ["leading digit"] cs
  | c :: _ => if c.isDigit || c == '+' || c == '-' then readNumber cs else failUnquoted cs
  | [] => failExpecting [] []

/-- Reads the items of an array after its opening bracket, with those read before (in reverse).
The first argument bounds their number, one for each of its characters. -/
def readItems (item : Reader Node) : List Char → List Node → Reader (List Node)
  | [], _, cs => failIn "array" ["`]`"] cs
  | _ :: bound, done, cs => do
    match ← readGap cs cs with
    | ']' :: rest => return (done.reverse, rest)
    | cs =>
      if beginsValue cs then
        let (node, rest) ← item cs
        match readGap rest rest with
        | .ok (',' :: rest) => readItems item bound (node :: done) rest
        | .ok (']' :: rest) => return ((node :: done).reverse, rest)
        | .ok rest => failIn "array" ["`]`"] rest
        -- What comes after an item belongs to it, and spoils it as an item.
        | .error _ => failIn "array" ["`]`"] cs
      else failIn "array" ["`]`"] cs

/-- A pair of a dotted key and its value. -/
abbrev Pair := (List Key × Key) × Node

/-- Reads a dotted key, an equals sign and a value, with blanks around each. -/
def readPair (value : Reader Node) : Reader Pair := fun cs => do
  let (key, rest) ← readDottedKey cs
  match rest with
  | '=' :: rest =>
    let (node, rest) ← value (skipSpace rest)
    return ((key, node), skipSpace rest)
  | rest => failExpecting ["`.`", "`=`"] rest

/-- Whether a text begins with a pair, be it a broken one. Too many keys are not a key. -/
def beginsPair (cs : List Char) : Bool :=
  beginsKey (skipSpace cs) &&
    match readKeys cs cs with
    | .ok (keys, _) => keys.length < maxDepth
    | .error _ => true

/-- Reads pairs with commas between them, as long as a pair comes next. The first argument bounds
their number, one for each of its characters. -/
def readPairs (value : Reader Node) : List Char → Reader (List Pair)
  | [], cs => .ok ([], cs)
  | _ :: bound, cs =>
    if beginsPair cs then do
      let (pair, rest) ← readPair value cs
      match rest with
      | ',' :: next =>
        -- A comma with no pair after it does not belong to the pairs.
        if beginsPair next then
          let (pairs, rest) ← readPairs value bound next
          return (pair :: pairs, rest)
        else return ([pair], rest)
      | rest => return ([pair], rest)
    else .ok ([], skipSpace cs)

/-- The table of the given pairs. -/
def tableOfPairs (pairs : List Pair) : Except Fault Entries :=
  pairs.foldlM (fun entries ((path, key), node) => entries.add .inline none path key node) []

/-- Blames a fault on what stands at the front of a text. -/
def blame {α : Type} (text : List Char) (result : Except Fault α) : Except Failure α :=
  match result with
  | .ok value => .ok value
  | .error fault => failWith fault text

/-- Reads the pairs of a table in braces after its opening brace, and the closing brace. -/
def readInlineTable (value : Reader Node) : Reader Entries := fun cs => do
  let (pairs, rest) ← readPairs value cs cs
  let entries ← blame cs (tableOfPairs pairs)
  match rest with
  | '\x7d' :: rest => return (entries, rest)
  | rest => failIn "inline table" ["`\x7d`"] rest

/-- Reads a value that nests at most the given number of levels. -/
def readValue : Nat → Reader Node
  | 0, cs =>
    match cs with
    | '[' :: _ | '\x7b' :: _ => failWith .recursionLimit cs
    | _ => (readScalar cs).map fun (value, rest) => (.scalar (.between cs rest) value, rest)
  | levels + 1, cs =>
    match cs with
    | '[' :: rest =>
      (readItems (readValue levels) cs [] rest).map fun (items, rest) =>
        (.array (.between cs rest) items, rest)
    | '\x7b' :: rest =>
      (readInlineTable (readValue levels) rest).map fun (entries, rest) =>
        (.inlineTable (.between cs rest) entries, rest)
    | _ => (readScalar cs).map fun (value, rest) => (.scalar (.between cs rest) value, rest)

/-- Reads the closing brackets of a header and the end of its line. -/
def readHeaderEnd (whole closing : List Char) (rest : List Char) :
    Except Failure (Extent × List Char) :=
  if rest.take closing.length = closing then do
    let after := rest.drop closing.length
    return (.between whole after, ← readLineEnd after)
  else failExpecting ["`.`", "`" ++ String.ofList closing ++ "`"] rest

/-- Reads one statement. -/
def readStatement (builder : Builder) : Reader Builder := fun cs =>
  match cs with
  | ['['] => failIn "table header" [] cs
  | '[' :: '[' :: rest => within "table header" do
    let ((path, key), rest) ← readDottedKey rest
    let (extent, rest) ← readHeaderEnd cs [']', ']'] rest
    return (← blame cs (builder.openItem path key extent), rest)
  | '[' :: rest => within "table header" do
    let ((path, key), rest) ← readDottedKey rest
    let (extent, rest) ← readHeaderEnd cs [']'] rest
    return (← blame cs (builder.openTable path key extent), rest)
  | _ => do
    let (((path, key), node), rest) ← readPair (readValue (maxDepth - 1)) cs
    let rest ← readLineEnd rest
    return (← blame cs (builder.add path key node), rest)

/-- Reads statements to the end of the text. The first argument bounds the number of lines, one
for each of its characters. -/
def readStatements : List Char → Builder → List Char → Except Failure Entries
  | [], builder, _ => blame [] builder.close
  | _ :: bound, builder, cs =>
    match skipSpace cs with
    | [] => blame [] builder.close
    | c :: rest => do
      if c = '#' ∨ c = '\n' ∨ c = '\r' then
        readStatements bound builder (← readBlankLine (c :: rest))
      else
        let (builder, rest) ← readStatement builder (c :: rest)
        readStatements bound builder rest

/-- Reads a whole text. A byte order mark in front of it is passed over. -/
def readTable (source : List Char) : Except Failure Entries :=
  let text := match source with
    | c :: cs => if c.toNat = 0xFEFF then cs else source
    | [] => []
  readStatements text .start text

end PageLayout.Toml
