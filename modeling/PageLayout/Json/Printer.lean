import PageLayout.Json.Value
import PageLayout.Text.Quoted

/-!
# JSON text

Two ways to write a JSON value: on one line, as in error messages, and over several lines with
two spaces for each level, as in saved documents. The two differ in nothing but blanks.
-/

namespace PageLayout.Json

/-- Four lower-case hexadecimal digits, for a number below `16 ^ 4`. -/
def fourHexDigits (n : Nat) : List Char :=
  let digits := Text.hexDigits n
  List.replicate (4 - digits.length) '0' ++ digits

/-- One character inside a JSON string: only quotes, backslashes and the characters below space
are escaped. -/
def escapedChar (c : Char) : List Char :=
  if c = '"' then ['\\', '"']
  else if c = '\\' then ['\\', '\\']
  else if c = '\n' then ['\\', 'n']
  else if c = '\r' then ['\\', 'r']
  else if c = '\t' then ['\\', 't']
  else if c.toNat = 0x08 then ['\\', 'b']
  else if c.toNat = 0x0C then ['\\', 'f']
  else if c.toNat < 0x20 then '\\' :: 'u' :: fourHexDigits c.toNat
  else [c]

/-- A text as a JSON string. -/
def stringText (s : String) : List Char :=
  '"' :: s.toList.flatMap escapedChar ++ ['"']

namespace Number

/-- The text of a number in JSON; a double that is not finite has none and is written `null`. -/
def jsonText : Number → List Char
  | .whole n => Decimal.intDigits n
  | .real x => if x.isFinite then (Decimal.Spelling.json.text x).toList else ['n', 'u', 'l', 'l']

end Number

namespace Value

/-- The text of a value without parts. -/
def atomText : Value → List Char
  | .boolean true => ['t', 'r', 'u', 'e']
  | .boolean false => ['f', 'a', 'l', 's', 'e']
  | .number n => n.jsonText
  | .string s => stringText s
  | _ => ['n', 'u', 'l', 'l']

mutual

/-- A value on one line, without blanks. -/
def compact : Value → List Char
  | .array items => '[' :: compactItems items
  | .object members => '\x7b' :: compactMembers members
  | value => value.atomText

/-- The items of an array on one line, and its end. -/
def compactItems : List Value → List Char
  | [] => [']']
  | [value] => compact value ++ [']']
  | value :: values => compact value ++ ',' :: compactItems values

/-- The members of an object on one line, and its end. -/
def compactMembers : List (String × Value) → List Char
  | [] => ['\x7d']
  | [(key, value)] => stringText key ++ ':' :: compact value ++ ['\x7d']
  | (key, value) :: members =>
    stringText key ++ ':' :: compact value ++ ',' :: compactMembers members

end

/-- The beginning of a line at a level of nesting. -/
def newLine (level : Nat) : List Char :=
  '\n' :: List.replicate (2 * level) ' '

mutual

/-- A value over several lines, standing at a level of nesting. -/
def pretty (level : Nat) : Value → List Char
  | .array items => '[' :: prettyItems level items
  | .object members => '\x7b' :: prettyMembers level members
  | value => value.atomText

/-- The items of an array that stands at a level of nesting, one a line, and its end. -/
def prettyItems (level : Nat) : List Value → List Char
  | [] => [']']
  | [value] => newLine (level + 1) ++ pretty (level + 1) value ++ newLine level ++ [']']
  | value :: values =>
    newLine (level + 1) ++ pretty (level + 1) value ++ ',' :: prettyItems level values

/-- The members of an object that stands at a level of nesting, one a line, and its end. -/
def prettyMembers (level : Nat) : List (String × Value) → List Char
  | [] => ['\x7d']
  | [(key, value)] =>
    newLine (level + 1) ++ stringText key ++ ':' :: ' ' :: pretty (level + 1) value ++
      newLine level ++ ['\x7d']
  | (key, value) :: members =>
    newLine (level + 1) ++ stringText key ++ ':' :: ' ' :: pretty (level + 1) value ++
      ',' :: prettyMembers level members

end

/-- The value on one line. -/
def toCompact (value : Value) : String :=
  String.ofList value.compact

/-- The value over several lines. -/
def toPretty (value : Value) : String :=
  String.ofList (value.pretty 0)

end Value

end PageLayout.Json
