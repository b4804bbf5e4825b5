import PageLayout.Page.Format
import PageLayout.Page.Html
import PageLayout.Page.React
import PageLayout.Page.Vue

/-!
# Generating pages

All formats accept the same documents, and refuse a document because of the same element.
-/

namespace PageLayout

/-- Why no page is generated. -/
inductive GenerateError where
  /-- The word names no format. -/
  | unsupportedFormat (word : String)
  /-- An element is malformed. -/
  | malformed (error : MalformedElement)

/-- The error in words. -/
def GenerateError.message : GenerateError → String
  | .unsupportedFormat word => "unsupported format: " ++ word
  | .malformed error => error.message

namespace Format

/-- The format that a word names. -/
def parse (word : String) : Except GenerateError Format :=
  match ofName? word with
  | some format => .ok format
  | none => .error (.unsupportedFormat word)

end Format

namespace Document

/-- The page of a document in a format, with the types of elements of a registry. -/
def render (document : Document) (registry : Registry) (format : Format) (options : Options) :
    Except MalformedElement String :=
  match format with
  | .html => Html.page registry options document
  | .vue => Vue.component registry options document
  | .react => React.component registry document

/-- The page of a document in the format that a word names, with the built-in types. -/
def generate (document : Document) (word : String) (options : Options) :
    Except GenerateError String := do
  let format ← Format.parse word
  (document.render .builtin format options).mapError .malformed

end Document

end PageLayout
