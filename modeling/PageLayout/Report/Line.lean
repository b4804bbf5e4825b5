import PageLayout.Text.Blank
import PageLayout.Text.Width

/-!
# Lines of a source on a terminal

A report shows the line of the source in which an error lies. Here a line ends at every character
that Unicode calls a line ending, and a carriage return followed by a line feed ends one line
only. A text that ends with a line ending has no further line.
-/

namespace PageLayout.Report

/-- A line of a source. -/
structure Line where
  /-- The number of the line, counted from one. -/
  number : Nat
  /-- How many characters of the source come before the line. -/
  start : Nat
  /-- The source from the beginning of the line. -/
  text : List Char
deriving DecidableEq, Repr

namespace Line

/-- The characters that end lines. -/
def isTerminator (c : Char) : Bool :=
  (0x0A ≤ c.toNat && c.toNat ≤ 0x0D) || c.toNat == 0x85 ||
    c.toNat == 0x2028 || c.toNat == 0x2029

/-- Whether a line ends at a character before the given text. -/
def endsAt (c : Char) (cs : List Char) : Bool :=
  isTerminator c && !(c == '\r' && cs.head? == some '\n')

/-- The line of the character at `offset`, where `line` is the line of the character at `index`,
with which the text begins. -/
def findFrom (offset : Nat) (line : Line) (index : Nat) : List Char → Line
  | [] => line
  | c :: cs =>
    if offset ≤ index then line
    else if endsAt c cs && !cs.isEmpty then
      findFrom offset ⟨line.number + 1, index + 1, cs⟩ (index + 1) cs
    else findFrom offset line (index + 1) cs

/-- The line of the character at `offset`; the last line, if the offset is the end of the
source. -/
def find (source : List Char) (offset : Nat) : Line :=
  findFrom offset ⟨1, 0, source⟩ 0 source

/-- The characters of the line that are shown: without its end and without blanks before it. -/
def shown (line : Line) : List Char :=
  ((line.text.takeWhile fun c => !isTerminator c).reverse.dropWhile Text.isBlank).reverse

end Line

/-- A character as it is shown in a line, at a column counted in characters: a tab fills up four
columns, and other blanks are single spaces. The second part is the number of cells. -/
def cell (column : Nat) (c : Char) : Char × Nat :=
  if c = '\t' then (' ', 4 - column % 4)
  else if Text.isBlank c then (' ', 1)
  else (c, if Text.isControl c then 1 else Text.cellWidth c)

end PageLayout.Report
