import PageLayout.Page.Generate

/-!
# Exporting pages

A page to be stored or shown comes with a file name made from the name of the document, and with
its media type.
-/

namespace PageLayout

/-- A page with the name of its file and its media type. -/
structure Export where
  content : String
  filename : String
  mediaType : String
deriving DecidableEq, Repr

namespace Export

/-- A character of a file name: separators of paths and control characters become dashes. -/
def filenameChar (c : Char) : Char :=
  if c = '/' ∨ c = '\\' ∨ c = ':' ∨ Text.isControl c then '-' else c

/-- The file name without its extension. -/
def stem (name : String) : String :=
  let chars := (Text.trimBlanks name.toList).map filenameChar
  if chars.isEmpty then "untitled" else String.ofList chars

/-- The file name for a document of some name. -/
def filenameFor (name : String) (format : Format) : String :=
  stem name ++ "." ++ format.extension

end Export

namespace Document

/-- Exports a document with the built-in types of elements. -/
def toExport (document : Document) (format : Format) (options : Options) :
    Except MalformedElement Export := do
  let content ← document.render .builtin format options
  return ⟨content, Export.filenameFor document.name format, format.mediaType⟩

/-- The page to look at before exporting. -/
def preview (document : Document) (options : Options) : Except MalformedElement Export :=
  document.toExport .html options

end Document

end PageLayout
