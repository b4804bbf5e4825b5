import PageLayout.Kind.Registry
import PageLayout.Page.Options

/-!
# Vue components

A component holds one fragment for each element, in the order of the elements, with the style of
the element in an attribute.
-/

namespace PageLayout.Vue

variable (registry : Registry) (options : Options)

/-- What text is escaped for. -/
def escaping : Markup.Escaping :=
  if options.escape then .vue else .none

/-- The fragment of an element, on a line of its own. -/
def fragmentLine (element : Element) : Except MalformedElement String := do
  let markup ← registry.markup element
  let style := Style.inlineText options.escape (registry.resolve element)
  return options.indent 4 ++ markup.fragment (escaping options) ("style", style) ++ "\n"

/-- The fragments of a list of elements. -/
def canvas (elements : List Element) : Except MalformedElement String :=
  (elements.mapM (fragmentLine registry options)).map String.join

/-- The component up to the canvas. -/
def head : String :=
  "<template>\n" ++
  "  <div class=\"canvas\">\n"

/-- The component after the canvas. -/
def foot : String :=
  "  </div>\n" ++
  "</template>\n" ++
  "\n" ++
  "<script setup>\n" ++
  "// Generated Vue component\n" ++
  "</script>\n"

/-- The component of a document. -/
def component (document : Document) : Except MalformedElement String := do
  let canvas ← canvas registry options document.elements
  return head ++ canvas ++ foot

end PageLayout.Vue
