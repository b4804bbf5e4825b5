import PageLayout.Breakpoint
import PageLayout.Document.Properties
import PageLayout.Json.Printer

/-!
# Page layout documents

A document is a named page: a list of elements, each placed absolutely on the page and of some
type, and settings that generation does not look at.
-/

namespace PageLayout

/-- One element of a page. -/
structure Element where
  /-- What identifies the element on the page. -/
  id : String
  /-- The type of the element; any text will do. -/
  kind : String
  /-- The distance from the left edge of the page, in pixels. -/
  x : Float
  /-- The distance from the upper edge of the page. -/
  y : Float
  width : Float
  height : Float
  /-- What else the type of the element asks for. -/
  properties : Properties
deriving Inhabited

/-- A named page of elements. -/
structure Document where
  name : String
  /-- The elements, in the order in which they are written. -/
  elements : List Element
  /-- What the editor keeps with the document. -/
  settings : Properties
deriving Inhabited

namespace Element

/-- The value of a property; `null` counts as absent. -/
def property? (element : Element) (key : String) : Option Json.Value :=
  (element.properties.get? key).filter fun value => !value.isNull

/-- A property that can stand in a style: a string as it is, or a number. -/
def styleProperty? (element : Element) (key : String) : Option String :=
  match element.property? key with
  | some (.string s) => some s
  | some (.number n) => some n.text
  | _ => none

/-- A property that can stand in running text: also `true` and `false`. -/
def textProperty? (element : Element) (key : String) : Option String :=
  match element.property? key with
  | some (.boolean b) => some (if b then "true" else "false")
  | _ => element.styleProperty? key

/-- The element as saved. Empty properties are left out. -/
def toValue (element : Element) : Json.Value :=
  .object <|
    [("id", .string element.id), ("type", .string element.kind),
      ("x", .number (.real element.x)), ("y", .number (.real element.y)),
      ("width", .number (.real element.width)), ("height", .number (.real element.height))] ++
    if element.properties.isEmpty then [] else [("properties", element.properties.toValue)]

end Element

namespace Document

/-- The breakpoint at which the document was last edited, as the settings name it; desktop, if
they do not name one. -/
def activeBreakpoint (document : Document) : Breakpoint :=
  (((document.settings.get? "breakpoint").bind Json.Value.string?).bind Breakpoint.ofId?).getD
    .desktop

/-- The document as saved. Empty settings are left out. -/
def toValue (document : Document) : Json.Value :=
  .object <|
    [("name", .string document.name),
      ("elements", .array (document.elements.map Element.toValue))] ++
    if document.settings.isEmpty then [] else [("settings", document.settings.toValue)]

/-- The text of a saved document. -/
def save (document : Document) : String :=
  document.toValue.toPretty

end Document

end PageLayout
