import PageLayout.Text.Search

/-!
# Escaping text for markup

Running text, attribute values and the text of templates replace the characters that would be
read as markup by entities; comments have a space put between any two dashes. Each character is
replaced on its own, so that escaping a text in parts is escaping it as a whole. A text in which
there is nothing to escape is looked through, but not written anew.
-/

namespace PageLayout.Markup

/-- A character of running text. -/
def textChar (c : Char) : List Char :=
  if c = '&' then ['&', 'a', 'm', 'p', ';']
  else if c = '<' then ['&', 'l', 't', ';']
  else if c = '>' then ['&', 'g', 't', ';']
  else [c]

/-- A character of an attribute value, which stands between double quotes. -/
def attributeChar (c : Char) : List Char :=
  if c = '"' then ['&', 'q', 'u', 'o', 't', ';'] else textChar c

/-- A character of the running text of a template, where double braces open an expression. -/
def templateChar (c : Char) : List Char :=
  if c = '\x7b' then ['&', '#', '1', '2', '3', ';']
  else if c = '\x7d' then ['&', '#', '1', '2', '5', ';']
  else textChar c

/-- A text with each character replaced by what is written for it. If every character is written
as itself, the text is left alone. -/
def replaceChars (written : Char → List Char) (text : String) : String :=
  if text.toList.any fun c => written c != [c] then String.ofList (text.toList.flatMap written)
  else text

/-- Running text. -/
def escapeText (text : String) : String :=
  replaceChars textChar text

/-- The value of an attribute. -/
def escapeAttribute (value : String) : String :=
  replaceChars attributeChar value

/-- The running text of a template. -/
def escapeTemplate (text : String) : String :=
  replaceChars templateChar text

/-- The characters of a comment, with a space between any two dashes, where `afterDash` says
whether a dash comes before them. -/
def commentChars (afterDash : Bool) : List Char → List Char
  | [] => []
  | c :: cs =>
    if c = '-' then (if afterDash then [' ', '-'] else ['-']) ++ commentChars true cs
    else c :: commentChars false cs

/-- The text of a comment. It cannot end the comment. If no two dashes are adjacent, it is left
alone. -/
def escapeComment (text : String) : String :=
  if Text.contains ['-', '-'] text.toList then String.ofList (commentChars false text.toList)
  else text

end PageLayout.Markup
