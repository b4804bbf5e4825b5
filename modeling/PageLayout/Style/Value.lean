import PageLayout.Text.Search

/-!
# Style values that stay inside their declaration

A style value may be any text. Before it is written, everything is dropped that could end the
declaration, the rule or the style sheet, open a comment or close one. The result holds none of
the delimiters `;`, `{`, `}`, `<`, `>` and `\`, and neither `/*` nor `*/`.
-/

namespace PageLayout.Style

/-- The characters that no written value holds. -/
def isDelimiter (c : Char) : Bool :=
  c == ';' || c == '\x7b' || c == '\x7d' || c == '<' || c == '>' || c == '\\'

/-- Whether a character would open or close a comment after the last character kept. -/
def joinsComment (last : Option Char) (c : Char) : Bool :=
  (last == some '/' && c == '*') || (last == some '*' && c == '/')

/-- The characters of a value that are kept, where `last` is the last one kept before them. -/
def keptChars (last : Option Char) : List Char → List Char
  | [] => []
  | c :: cs =>
    if isDelimiter c || joinsComment last c then keptChars last cs
    else c :: keptChars (some c) cs

/-- Whether all characters of a value are kept. -/
def isClean (cs : List Char) : Bool :=
  !cs.any isDelimiter && !Text.contains ['/', '*'] cs && !Text.contains ['*', '/'] cs

/-- A style value as it is written. One that is clean is not gone through. -/
def sanitize (value : String) : String :=
  if isClean value.toList then value else String.ofList (keptChars none value.toList)

end PageLayout.Style
