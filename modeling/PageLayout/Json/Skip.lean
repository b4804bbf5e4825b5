import PageLayout.Json.Reader

/-!
# Passing over values

The value of a field that a record does not have is passed over. Its text must have the form of a
value, but nothing is kept of it, so neither the number of levels nor the size of numbers nor the
pairing of hexadecimal escapes matters. A `SkipState` holds the brackets that are open, so that
passing over a value needs one loop and no recursion into its parts.
-/

namespace PageLayout.Json

/-- The two kinds of brackets. -/
inductive Bracket where
  | list
  | object
deriving DecidableEq, Repr

namespace Bracket

/-- The closing bracket. -/
def closing : Bracket → Char
  | .list => ']'
  | .object => '\x7d'

/-- The failure at the end of the text within the brackets. -/
def eof : Bracket → Cause
  | .list => .eofInList
  | .object => .eofInObject

/-- The failure at a part that is followed by neither a comma nor the closing bracket. -/
def unclosed : Bracket → Cause
  | .list => .expectedListCommaOrEnd
  | .object => .expectedObjectCommaOrEnd

end Bracket

/-- Passes over a string after its opening quote. -/
def skipString : List Char → Except Failure (List Char)
  | [] => failAt .eofInString []
  | '"' :: cs => .ok cs
  | '\\' :: 'u' :: a :: b :: c :: d :: cs =>
    if (hexUnit? a b c d).isSome then skipString cs else failHex (a :: b :: c :: d :: cs)
  | '\\' :: 'u' :: cs => failHex cs
  | ['\\'] => failAt .eofInString []
  | '\\' :: c :: cs =>
    if (shortEscape? c).isSome then skipString cs else failPast .invalidEscape 1 (c :: cs)
  | c :: cs => if c < ' ' then failAt .controlCharacter (c :: cs) else skipString cs

/-- Passes over digits, of which there must be one. -/
def skipDigits (cs : List Char) : Except Failure (List Char) :=
  if (cs.takeWhile Char.isDigit).isEmpty then failPast .invalidNumber 1 cs
  else .ok (cs.dropWhile Char.isDigit)

/-- Passes over a power of ten, if there is one. -/
def skipPower : List Char → Except Failure (List Char)
  | 'e' :: '+' :: cs | 'e' :: '-' :: cs | 'e' :: cs => skipDigits cs
  | 'E' :: '+' :: cs | 'E' :: '-' :: cs | 'E' :: cs => skipDigits cs
  | cs => .ok cs

/-- Passes over a number after its sign. -/
def skipUnsigned (cs : List Char) : Except Failure (List Char) := do
  let rest ← skipDigits cs
  if cs.head? = some '0' ∧ (cs.drop 1).head?.any Char.isDigit then
    failPast .invalidNumber 1 (cs.drop 1)
  else match rest with
    | '.' :: rest => skipPower (← skipDigits rest)
    | rest => skipPower rest

/-- Passes over a value without parts. -/
def skipScalar : List Char → Except Failure (List Char)
  | [] => failPast .eofInValue 1 []
  | 'n' :: cs => (readWord ['u', 'l', 'l'] cs).map Prod.snd
  | 't' :: cs => (readWord ['r', 'u', 'e'] cs).map Prod.snd
  | 'f' :: cs => (readWord ['a', 'l', 's', 'e'] cs).map Prod.snd
  | '"' :: cs => skipString cs
  | '-' :: cs => skipUnsigned cs
  | c :: cs => if c.isDigit then skipUnsigned (c :: cs) else failPast .expectedValue 1 (c :: cs)

/-- Passes over the key that comes before a value within the brackets, if they are those of an
object. -/
def skipKey (bracket : Bracket) (cs : List Char) : Except Failure (List Char) :=
  match bracket with
  | .list => .ok cs
  | .object =>
    match skipSpace cs with
    | [] => failPast .eofInObject 1 []
    | '"' :: rest => do readColon (← skipString rest)
    | rest => failPast .keyMustBeString 1 rest

/-- How far passing over a value has come. -/
structure SkipState where
  /-- Whether a value comes next; otherwise one has just been passed. -/
  expectsValue : Bool
  /-- The open brackets, the innermost first. -/
  brackets : List Bracket
  /-- The text that is left. -/
  rest : List Char
deriving DecidableEq, Repr

namespace SkipState

/-- The state after an opening bracket: before the first value within it, or past it if it closes
at once. -/
def opened (bracket : Bracket) (brackets : List Bracket) (cs : List Char) :
    Except Failure SkipState :=
  match skipSpace cs with
  | [] => failPast bracket.eof 1 []
  | c :: rest =>
    if c = bracket.closing then .ok ⟨false, brackets, rest⟩
    else do return ⟨true, bracket :: brackets, ← skipKey bracket (c :: rest)⟩

/-- The state after a value within a bracket: before the next value, or past the closing
bracket. -/
def continued (bracket : Bracket) (brackets : List Bracket) (cs : List Char) :
    Except Failure SkipState :=
  match skipSpace cs with
  | [] => failPast bracket.eof 1 []
  | c :: rest =>
    if c = bracket.closing then .ok ⟨false, brackets, rest⟩
    else if c = ',' then do return ⟨true, bracket :: brackets, ← skipKey bracket rest⟩
    else failPast bracket.unclosed 1 (c :: rest)

/-- The state once the value that comes next has been passed, or its opening bracket. -/
def entered (brackets : List Bracket) (cs : List Char) : Except Failure SkipState :=
  match skipSpace cs with
  | '[' :: rest => opened .list brackets rest
  | '\x7b' :: rest => opened .object brackets rest
  | rest => do return ⟨false, brackets, ← skipScalar rest⟩

end SkipState

/-- Passes over what is left of a value. The first argument bounds the number of steps, one for
each of its characters; since a step passes over at least one character, the text will do. -/
def skipFrom : List Char → SkipState → Except Failure (List Char)
  | _, ⟨false, [], cs⟩ => .ok cs
  | [], ⟨false, bracket :: _, _⟩ => failPast bracket.eof 1 []
  | [], ⟨true, _, _⟩ => failPast .eofInValue 1 []
  | _ :: bound, ⟨false, bracket :: brackets, cs⟩ => do
    skipFrom bound (← SkipState.continued bracket brackets cs)
  | _ :: bound, ⟨true, brackets, cs⟩ => do
    skipFrom bound (← SkipState.entered brackets cs)

/-- Passes over a value. -/
def skipValue (cs : List Char) : Except Failure (List Char) :=
  skipFrom cs ⟨true, [], cs⟩

end PageLayout.Json
