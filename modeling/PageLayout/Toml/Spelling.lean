import PageLayout.Toml.Value

/-!
# How keys are spelled

A key may be any text. It is spelled without quotes if it can be, then in double quotes if nothing
in it needs a backslash, then in single quotes if they can hold it, and in double quotes with
backslashes otherwise.
-/

namespace PageLayout.Toml

/-- The characters of keys without quotes. -/
def isBareChar (c : Char) : Bool :=
  c.isAlphanum || c == '_' || c == '-'

/-- The control characters, which stand in no string as they are. The tab is none of them. -/
def isControlChar (c : Char) : Bool :=
  c != '\t' && (c.toNat < 0x20 || c.toNat == 0x7F)

/-- A character that double quotes hold only after a backslash, or that ends them. -/
def needsBackslash (c : Char) : Bool :=
  c == '"' || c == '\\' || isControlChar c

/-- A character of a key in double quotes. -/
def spelledChar (c : Char) : List Char :=
  if c = '"' ∨ c = '\\' then ['\\', c]
  else if c.toNat = 0x08 then ['\\', 'b']
  else if c = '\t' then ['\\', 't']
  else if c = '\n' then ['\\', 'n']
  else if c.toNat = 0x0C then ['\\', 'f']
  else if c = '\r' then ['\\', 'r']
  else if isControlChar c then
    let digits := (Nat.toDigits 16 c.toNat).map Char.toUpper
    '\\' :: 'u' :: List.replicate (4 - digits.length) '0' ++ digits
  else [c]

/-- A key as it is spelled wherever it came from. -/
def Key.spelling (key : Key) : String :=
  let chars := key.name.toList
  let inDoubleQuotes := '"' :: chars.flatMap spelledChar ++ ['"']
  String.ofList <|
    if !chars.isEmpty && chars.all isBareChar then chars
    else if !chars.any needsBackslash then inDoubleQuotes
    else if !chars.any fun c => c == '\x27' || isControlChar c then '\x27' :: chars ++ ['\x27']
    else inDoubleQuotes

end PageLayout.Toml
