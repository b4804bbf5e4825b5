import PageLayout.Text.Hexadecimal

/-!
# Identifiers in selectors

An identifier may be any text. In a selector its letters, digits, dashes, underscores and
characters beyond ASCII stand for themselves, save a digit in front; control characters and that
digit are written as a backslash, their hexadecimal code point and a space, and any other
character after a backslash.
-/

namespace PageLayout.Style

/-- The characters that stand for themselves inside an identifier. -/
def isNameChar (c : Char) : Bool :=
  c.isAlphanum || c == '-' || c == '_' || 0x80 ≤ c.toNat

/-- A character written by its code point. The space ends the digits. -/
def codePointEscape (c : Char) : List Char :=
  '\\' :: Text.hexDigits c.toNat ++ [' ']

/-- One character of an identifier after the first. -/
def nameChar (c : Char) : List Char :=
  if isNameChar c then [c]
  else if c.toNat < 0x20 || c.toNat == 0x7F then codePointEscape c
  else ['\\', c]

/-- The characters of an identifier as they are written. -/
def identifierChars : List Char → List Char
  | [] => []
  | c :: cs => (if c.isDigit then codePointEscape c else nameChar c) ++ cs.flatMap nameChar

/-- Whether a character of an identifier does not stand for itself. -/
def needsEscape (cs : List Char) : Bool :=
  cs.any (fun c => !isNameChar c) || cs.head?.any Char.isDigit

/-- An identifier as it is written in a selector. One that needs no escape is left alone. -/
def identifier (id : String) : String :=
  if needsEscape id.toList then String.ofList (identifierChars id.toList) else id

end PageLayout.Style
