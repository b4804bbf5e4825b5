import PageLayout.Document.Load

/-!
# Where in a text an error lies

Errors in the form of a text have a line and a column. Here they become a range of characters:
the one character at that place, or no character at the end of the text. A column past the end of
its line counts as the end of the line, and a line past the end of the text as the end of the
text.
-/

namespace PageLayout

/-- A range of characters of a text. -/
structure Span where
  /-- The place of the first character. -/
  start : Nat
  /-- The place after the last character. -/
  stop : Nat
deriving DecidableEq, Repr

namespace Span

/-- How many characters of a text come before a line and column, both counted from one. -/
def charOffset : Nat → Nat → List Char → Nat
  | 0, _, cs => cs.length
  | 1, column, cs => min (column - 1) (cs.takeWhile (· != '\n')).length
  | line + 2, column, cs =>
    match cs.dropWhile (· != '\n') with
    | [] => cs.length
    | _ :: rest => cs.length - rest.length + charOffset (line + 1) column rest

/-- The character at a position. -/
def ofPosition (source : List Char) (position : Json.Position) : Span :=
  let start := charOffset position.line position.column source
  ⟨start, max (min (start + 1) source.length) start⟩

end Span

/-- The range of an error, if the error has a place. -/
def LoadError.span? (source : String) : LoadError → Option Span
  | .json ⟨_, some position⟩ => some (Span.ofPosition source.toList position)
  | _ => none

end PageLayout
