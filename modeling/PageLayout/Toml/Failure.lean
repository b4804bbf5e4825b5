import PageLayout.Toml.Value

/-!
# Why and where a TOML text is refused

A text is refused because it is not TOML, or because its values are not what they are read for.
Either way a part of the text is to blame, and the message shows it under its line.

## Main definitions

* `Cause` and `Cause.message` say why, `Failure` says where as well.
* `failIn`, `failExpecting` and `failWith` are the ways in which readers fail; `within` names the
  larger part that a failure spoils.
* `Failure.display` shows a failure under its line.
-/

namespace PageLayout.Toml

/-- What is wrong with a text that has the form of TOML. -/
inductive Fault where
  /-- A key that its table has already, and the name of the table, if it is known. -/
  | duplicateKey (key : String) (table : Option (List String))
  /-- A dotted key that leads through a value. -/
  | notTable (path : List String) (kind : String)
  /-- A part of a date that there is not, or a code point that is no character. -/
  | outOfRange
  /-- An integer of more than 64 bits. -/
  | tooLarge
  /-- A negative integer of more than 64 bits. -/
  | tooSmall
  /-- Values that are nested too deeply, or keys of too many parts. -/
  | recursionLimit
deriving DecidableEq, Repr

/-- Why a text is refused. -/
inductive Cause where
  /-- The text is not TOML: what is spoilt, what might have been there in place of the text, and
  what is wrong if the form is right. -/
  | malformed (spoilt : Option String) (instead : List String) (fault : Option Fault)
  /-- A key that names no field, and the fields there are. -/
  | unknownField (name : String) (known : List String)
  /-- A word that names no choice, and the choices there are. -/
  | unknownVariant (name : String) (known : List String)
  /-- A value of another type than the expected one. -/
  | invalidType (found wanted : String)
  /-- A choice that is neither a word nor a table. -/
  | notVariant
  /-- A choice given by a table with no key, or with several. -/
  | variantCount (several : Bool)
  /-- A choice given by a table that says more than the choice, and what it may say. -/
  | variantContent (instead : String)
deriving DecidableEq, Repr

/-- A list of names in words: one, two with `or`, or `one of` several. -/
def namesText (names : List String) : String :=
  match names.map fun name => "`" ++ name ++ "`" with
  | [a, b] => a ++ " or " ++ b
  | [a] => a
  | quoted => "one of " ++ ", ".intercalate quoted

/-- The fault in words. -/
def Fault.message : Fault → String
  | .duplicateKey key none => "duplicate key `" ++ key ++ "`"
  | .duplicateKey key (some []) => "duplicate key `" ++ key ++ "` in document root"
  | .duplicateKey key (some table) =>
    "duplicate key `" ++ key ++ "` in table `" ++ ".".intercalate table ++ "`"
  | .notTable path kind =>
    "dotted key `" ++ ".".intercalate path ++ "` attempted to extend non-table type (" ++ kind ++
      ")"
  | .outOfRange => "value is out of range"
  | .tooLarge => "number too large to fit in target type"
  | .tooSmall => "number too small to fit in target type"
  | .recursionLimit => "recursion limit exceeded"

/-- The cause in words, of which there may be none. -/
def Cause.message : Cause → String
  | .malformed spoilt instead fault =>
    let first := (spoilt.map fun s => "invalid " ++ s).toList
    let second := if instead.isEmpty then [] else ["expected " ++ ", ".intercalate instead]
    "\n".intercalate (first ++ second ++ (fault.map Fault.message).toList)
  | .unknownField name known => "unknown field `" ++ name ++ "`, expected " ++ namesText known
  | .unknownVariant name known => "unknown variant `" ++ name ++ "`, expected " ++ namesText known
  | .invalidType found wanted => "invalid type: " ++ found ++ ", expected " ++ wanted
  | .notVariant => "wanted string or table"
  | .variantCount false => "wanted exactly 1 element, found 0 elements"
  | .variantCount true => "wanted exactly 1 element, more than 1 element"
  | .variantContent instead => "expected " ++ instead

/-- A cause and the part of the text to blame. -/
structure Failure where
  cause : Cause
  extent : Extent
deriving DecidableEq, Repr

/-- A reader takes a value off the front of a text and leaves the rest. -/
abbrev Reader (α : Type) := List Char → Except Failure (α × List Char)

/-- Failing at the front of the text because of a fault. -/
def failWith {α : Type} (fault : Fault) (rest : List Char) : Except Failure α :=
  .error ⟨.malformed none [] (some fault), Extent.front rest⟩

/-- Failing because one of several things should be at the front of the text. -/
def failExpecting {α : Type} (instead : List String) (rest : List Char) : Except Failure α :=
  .error ⟨.malformed none instead none, Extent.front rest⟩

/-- Failing because something of a kind cannot go on like the text. -/
def failIn {α : Type} (spoilt : String) (instead : List String) (rest : List Char) :
    Except Failure α :=
  .error ⟨.malformed (some spoilt) instead none, Extent.front rest⟩

/-- The cause with what is spoilt, unless that is known. -/
def Cause.within (spoilt : String) : Cause → Cause
  | .malformed none instead fault => .malformed (some spoilt) instead fault
  | cause => cause

/-- Reading a part of something: a failure spoils the whole, unless it is known to spoil less. -/
def within {α : Type} (spoilt : String) (result : Except Failure α) : Except Failure α :=
  result.mapError fun failure => { failure with cause := failure.cause.within spoilt }

namespace Failure

/-- The line of a text, counted from zero, in which a character stands, and the part of that line
before the character. The end of the text counts as one more character of its last line, even
behind a line feed. -/
def place (source : List Char) (offset : Nat) : Nat × List Char :=
  let last := min offset (source.length - 1)
  let before := source.take last
  let column := (before.reverse.takeWhile (· != '\n')).reverse
  (before.count '\n', column ++ (source.drop last).take (offset - last))

/-- The failure under the line of the text in which it lies. In front of a character of several
bytes the column counts bytes, and otherwise characters. -/
def display (failure : Failure) (source : List Char) : String :=
  let start := source.length - failure.extent.start
  let (line, before) := place source start
  let content := (source.drop (start - before.length)).takeWhile (· != '\n')
  let bytes (cs : List Char) : Nat := cs.foldr (fun c n => c.utf8Size + n) 0
  let column :=
    if (source.drop start).head?.any (1 < ·.utf8Size) then bytes before else before.length
  let number := Decimal.intText (line + 1 : Nat)
  let marked := (source.drop start).take (failure.extent.start - failure.extent.stop)
  let width := min (bytes marked) (bytes content - column)
  let blanks (n : Nat) : String := String.ofList (List.replicate n ' ')
  "TOML parse error at line " ++ number ++
    ", column " ++ Decimal.intText (column + 1 : Nat) ++ "\n" ++
  blanks (number.length + 1) ++ "|\n" ++
  number ++ " | " ++ String.ofList content ++ "\n" ++
  blanks (number.length + 1) ++ "|" ++ blanks (column + 1) ++
    String.ofList (List.replicate (max width 1) '^') ++ "\n" ++
  failure.cause.message ++ "\n"

end Failure

end PageLayout.Toml
