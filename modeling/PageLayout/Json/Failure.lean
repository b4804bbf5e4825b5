import PageLayout.Decimal.Spelling
import PageLayout.Text.Quoted

/-!
# Why and where reading JSON fails

A failure has a cause and a place. A reader only knows the text that it has not read yet, so the
place is kept as that text, together with how many of its bytes the reader had looked at; the
line and the column are counted once, from the whole source, when the failure is reported.
Columns count bytes.
-/

namespace PageLayout.Json

/-- What was found where a value of some type was expected. -/
inductive Found where
  | null
  | boolean (b : Bool)
  | integer (n : Int)
  | real (x : Float)
  | string (s : String)
  | sequence
  | map
deriving DecidableEq, Repr

/-- What was found, in the words of an error message. -/
def Found.text : Found → String
  | .null => "null"
  | .boolean b => if b then "boolean `true`" else "boolean `false`"
  | .integer n => "integer `" ++ Decimal.intText n ++ "`"
  | .real x => "floating point `" ++ Decimal.Spelling.json.text x ++ "`"
  | .string s => "string " ++ Text.quoted s
  | .sequence => "sequence"
  | .map => "map"

/-- The three classes of causes. -/
inductive Category where
  /-- The text is not JSON. -/
  | syntactic
  /-- The text is JSON, but not of the expected form. -/
  | data
  /-- The text ends too early. -/
  | eof
deriving DecidableEq, Repr

/-- The name of a class in a report. -/
def Category.name : Category → String
  | .syntactic => "Syntax"
  | .data => "Data"
  | .eof => "Eof"

/-- Why reading fails. -/
inductive Cause where
  | eofInList
  | eofInObject
  | eofInString
  | eofInValue
  | expectedColon
  | expectedListCommaOrEnd
  | expectedObjectCommaOrEnd
  | expectedIdent
  | expectedValue
  | invalidEscape
  | invalidNumber
  | numberOutOfRange
  | controlCharacter
  | keyMustBeString
  | loneSurrogate
  | unexpectedEndOfHexEscape
  | trailingComma
  | trailingCharacters
  | recursionLimit
  /-- A value of another type than the expected one. -/
  | invalidType (found : Found) (expected : String)
  /-- An array with too few items to give every field of a record. -/
  | invalidLength (length : Nat) (expected : String)
  /-- A field of a record that is given twice. -/
  | duplicateField (name : String)
  /-- A value that is refused for a reason of its own. -/
  | refused (reason : String)
deriving DecidableEq, Repr

namespace Cause

/-- The cause in words. -/
def message : Cause → String
  | .eofInList => "EOF while parsing a list"
  | .eofInObject => "EOF while parsing an object"
  | .eofInString => "EOF while parsing a string"
  | .eofInValue => "EOF while parsing a value"
  | .expectedColon => "expected `:`"
  | .expectedListCommaOrEnd => "expected `,` or `]`"
  | .expectedObjectCommaOrEnd => "expected `,` or `\x7d`"
  | .expectedIdent => "expected ident"
  | .expectedValue => "expected value"
  | .invalidEscape => "invalid escape"
  | .invalidNumber => "invalid number"
  | .numberOutOfRange => "number out of range"
  | .controlCharacter => "control character (\\u0000-\\u001F) found while parsing a string"
  | .keyMustBeString => "key must be a string"
  | .loneSurrogate => "lone leading surrogate in hex escape"
  | .unexpectedEndOfHexEscape => "unexpected end of hex escape"
  | .trailingComma => "trailing comma"
  | .trailingCharacters => "trailing characters"
  | .recursionLimit => "recursion limit exceeded"
  | .invalidType found expected => "invalid type: " ++ found.text ++ ", expected " ++ expected
  | .invalidLength length expected =>
    "invalid length " ++ Decimal.intText length ++ ", expected " ++ expected
  | .duplicateField name => "duplicate field `" ++ name ++ "`"
  | .refused reason => reason

/-- The class of a cause. -/
def category : Cause → Category
  | .eofInList | .eofInObject | .eofInString | .eofInValue => .eof
  | .invalidType .. | .invalidLength .. | .duplicateField .. | .refused .. => .data
  | _ => .syntactic

end Cause

/-- A place in a source: the line, counted from one, and how many bytes of the line precede the
place. -/
structure Position where
  line : Nat
  column : Nat
deriving DecidableEq, Repr

/-- The length of a text in bytes. -/
def byteLength (cs : List Char) : Nat :=
  cs.foldr (fun c n => c.utf8Size + n) 0

namespace Position

/-- The position that many bytes further on in the text that starts at a position. -/
def advance (p : Position) : Nat → List Char → Position
  | _, [] => p
  | bytes, c :: cs =>
    if bytes < c.utf8Size then ⟨p.line, p.column + bytes⟩
    else if c = '\n' then advance ⟨p.line + 1, 0⟩ (bytes - 1) cs
    else advance ⟨p.line, p.column + c.utf8Size⟩ (bytes - c.utf8Size) cs

/-- The position after the first bytes of a source. -/
def ofOffset (source : List Char) (bytes : Nat) : Position :=
  advance ⟨1, 0⟩ bytes source

end Position

/-- A failure of a reader. -/
structure Failure where
  cause : Cause
  /-- The text not read yet. -/
  rest : List Char
  /-- How many bytes of that text the reader looked at to see the failure. -/
  ahead : Nat
deriving DecidableEq, Repr

/-- A failure to read a source, with its place if it has one. -/
structure Error where
  cause : Cause
  position : Option Position
deriving DecidableEq, Repr

namespace Failure

/-- The failure with its place in the source. At the end of the source there is no further byte
to look at. -/
def toError (source : List Char) (failure : Failure) : Error where
  cause := failure.cause
  position := some (Position.ofOffset source
    (byteLength source - (byteLength failure.rest - failure.ahead)))

end Failure

namespace Error

/-- The error in words, with its place. -/
def message (e : Error) : String :=
  match e.position with
  | none => e.cause.message
  | some p =>
    e.cause.message ++ " at line " ++ Decimal.intText p.line ++ " column " ++
      Decimal.intText p.column

end Error

/-- A reader takes a value off the front of a text and leaves the rest. -/
abbrev Reader (α : Type) := List Char → Except Failure (α × List Char)

/-- Failing at the front of the text. -/
def failAt {α : Type} (cause : Cause) (rest : List Char) : Except Failure α :=
  .error ⟨cause, rest, 0⟩

/-- Failing after a look at the first bytes of the text. -/
def failPast {α : Type} (cause : Cause) (bytes : Nat) (rest : List Char) : Except Failure α :=
  .error ⟨cause, rest, bytes⟩

end PageLayout.Json
