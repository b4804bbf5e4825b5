import PageLayout.Document.Span
import PageLayout.Report.Line

/-!
# Reports of errors

An error that has a place in the source is shown under the line in which it lies, in colors, with
an arrow from the place to the message. Other errors are shown as plain text.

## Main definitions

* `Note` is what a report says and where; `Note.draw` draws it over its source.
* `LoadError.report` is the report of an error of loading a document.
-/

namespace PageLayout.Report

/-- The colors of a report. -/
inductive Ink where
  /-- What is wrong. -/
  | red
  /-- The frame. -/
  | margin
  /-- The frame beside the arrow. -/
  | shade
  /-- The rest of the line. -/
  | source
deriving DecidableEq, Repr

/-- The control sequence that chooses a color. -/
def Ink.start : Ink → String
  | .red => "\x1b[31m"
  | .margin => "\x1b[38;5;246m"
  | .shade => "\x1b[38;5;240m"
  | .source => "\x1b[38;5;249m"

/-- A text in a color. -/
def Ink.paint (ink : Ink) (text : String) : String :=
  ink.start ++ text ++ "\x1b[0m"

/-- A number of spaces. -/
def spaces (n : Nat) : String :=
  String.ofList (List.replicate n ' ')

/-- A text a number of times. -/
def times (n : Nat) (text : String) : String :=
  String.join (List.replicate n text)

/-- The cells of the given width in which an arrow begins: `head` in the first one and `tail` in
the others. -/
def arrowCells (head tail : String) : Nat → String
  | 0 => ""
  | width + 1 => Ink.red.paint head ++ times width (Ink.red.paint tail)

/-- What a report says and where. -/
structure Note where
  /-- The class of the error. -/
  title : String
  /-- The error. -/
  message : String
  filename : String
  span : Span
deriving DecidableEq, Repr

namespace Note

/-- The line of the source in its colors. -/
def sourceText (note : Note) (line : Line) : String :=
  String.join <| line.shown.zipIdx.map fun (c, column) =>
    let (shown, width) := cell column c
    let offset := line.start + column
    let marked := note.span.start ≤ offset ∧ offset < note.span.stop
    let ink : Ink := if marked then .red else .source
    -- A tab is as many spaces, each in the color; other characters are written once.
    times (if Text.isBlank c then width else 1) (ink.paint (String.ofList [shown]))

/-- The widths of the columns over which the arrow is drawn: those of the line up to two after
the span. -/
def widths (note : Note) (line : Line) : List Nat :=
  let count := note.span.stop - line.start + 2
  let shown := (line.shown.take count).zipIdx.map fun (c, column) => (cell column c).2
  -- Past the end of the line every column is one cell wide.
  shown ++ List.replicate (count - shown.length) 1

/-- The head of the arrow, under the first character of the span. -/
def arrowText (note : Note) (line : Line) : String :=
  String.join <| (note.widths line).zipIdx.map fun (width, column) =>
    if column + line.start = note.span.start then
      if note.span.start < note.span.stop then arrowCells "┬" "─" width
      else arrowCells "│" " " width
    else spaces width

/-- The tail of the arrow, and the message at its end. -/
def messageText (note : Note) (line : Line) : String :=
  let cells := (note.widths line).zipIdx.map fun (width, column) =>
    if column + line.start < note.span.start then spaces width
    else if column + line.start = note.span.start then arrowCells "╰" "─" width
    else times width (Ink.red.paint "─")
  String.join cells ++ " " ++ note.message

/-- The frame around the line and the arrow. -/
def frame (note : Note) (line : Line) : String :=
  let number := Decimal.intText line.number
  let gutter := number.length
  let column := Decimal.intText (note.span.start - line.start + 1 : Nat)
  let margin := Ink.margin.paint
  let shade := Ink.shade.paint (spaces (gutter + 1) ++ "│")
  spaces (gutter + 2) ++ margin "╭" ++ margin "─" ++ margin "[" ++
    note.filename ++ ":" ++ number ++ ":" ++ column ++ margin "]" ++ "\n" ++
  spaces (gutter + 2) ++ margin "│" ++ "\n" ++
  " " ++ margin (number ++ " │") ++ " " ++ note.sourceText line ++ "\n" ++
  " " ++ shade ++ " " ++ note.arrowText line ++ "\n" ++
  " " ++ shade ++ " " ++ note.messageText line ++ "\n" ++
  margin (times (gutter + 2) "─" ++ "╯") ++ "\n"

/-- The report. An empty source has no line to show. -/
def draw (note : Note) (source : List Char) : String :=
  Ink.red.paint "Error:" ++ " " ++ note.title ++ "\n" ++
    if source.isEmpty then "" else note.frame (Line.find source note.span.start)

end Note

end PageLayout.Report

namespace PageLayout.LoadError

/-- The class of an error in the title of a report. -/
def title : LoadError → String
  | .json error => error.cause.category.name ++ " error in document"
  | error => error.message

/-- The report of an error over its source. -/
def report (error : LoadError) (source filename : String) : String :=
  match error.span? source with
  | none => "Error: " ++ error.message
  | some span =>
    Report.Note.draw ⟨error.title, error.message, filename, span⟩ source.toList

end PageLayout.LoadError
