import PageLayout.Kind.Registry
import PageLayout.Page.Options

/-!
# HTML pages

A page holds one style rule and one fragment for each element, in the order of the elements. The
rules stand together in the style block of the head, the fragments in the canvas of the body; all
else depends on the name of the document and on the options only.
-/

namespace PageLayout.Html

variable (registry : Registry) (options : Options)

/-- What text is escaped for. -/
def escaping : Markup.Escaping :=
  if options.escape then .html else .none

/-- The rule of an element, on a line of its own. -/
def ruleLine (element : Element) : String :=
  options.indent 8 ++ Style.rule options.escape element.id (registry.resolve element)

/-- The fragment of an element, on a line of its own. -/
def fragmentLine (element : Element) : Except MalformedElement String := do
  let markup ← registry.markup element
  return options.indent 8 ++ markup.fragment (escaping options) ("id", element.id) ++ "\n"

/-- The rules of a list of elements. -/
def rules (elements : List Element) : String :=
  String.join (elements.map (ruleLine registry options))

/-- The fragments of a list of elements. -/
def canvas (elements : List Element) : Except MalformedElement String :=
  (elements.mapM (fragmentLine registry options)).map String.join

/-- The page up to the style block. -/
def head (name : String) : String :=
  "<!DOCTYPE html>\n" ++
  "<html lang=\"" ++
    (if options.escape then Markup.escapeAttribute options.lang else options.lang) ++
    "\">\n" ++
  "<head>\n" ++
  "    <meta charset=\"UTF-8\">\n" ++
  "    <meta name=\"viewport\" content=\"width=device-width, initial-scale=1.0\">\n" ++
  "    <title>" ++ (if options.escape then Markup.escapeText name else name) ++ "</title>\n" ++
  "    <style>\n"

/-- The rules that every page has. -/
def baseRules : String :=
  "        * \x7b box-sizing: border-box; margin: 0; padding: 0; \x7d\n" ++
  "        body \x7b font-family: " ++
    (if options.escape then Style.sanitize options.fontFamily else options.fontFamily) ++
    "; \x7d\n" ++
  "        .canvas \x7b position: relative; min-height: 100vh; \x7d\n"

/-- The page between the style block and the canvas. -/
def middle : String :=
  "    </style>\n" ++
  "</head>\n" ++
  "<body>\n" ++
  "    <div class=\"canvas\">\n"

/-- The page after the canvas. -/
def foot : String :=
  "    </div>\n" ++
  "</body>\n" ++
  "</html>\n"

/-- The page of a document. -/
def page (document : Document) : Except MalformedElement String := do
  let canvas ← canvas registry options document.elements
  return head options document.name ++ baseRules options ++
    rules registry options document.elements ++ middle ++ canvas ++ foot

end PageLayout.Html
