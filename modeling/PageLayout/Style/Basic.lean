import PageLayout.Document.Basic
import PageLayout.Style.Selector
import PageLayout.Style.Value

/-!
# Styles

A style is a list of declarations. It is written either as a rule for the element with some
identifier, or on one line for the `style` attribute of the element itself.
-/

namespace PageLayout

/-- A style property and its value. -/
structure Declaration where
  property : String
  value : String
deriving DecidableEq, Repr

/-- The declarations of a style, in the order in which they apply. -/
abbrev Style := List Declaration

namespace Declaration

/-- A declaration of a value that may be absent. -/
def ofOption (property : String) (value : Option String) : Style :=
  (value.map fun value => ⟨property, value⟩).toList

/-- A declaration without its end. -/
def text (escape : Bool) (declaration : Declaration) : String :=
  declaration.property ++ ": " ++
    if escape then Style.sanitize declaration.value else declaration.value

end Declaration

namespace Style

/-- A number of pixels. -/
def pixels (length : Float) : String :=
  Decimal.Spelling.plain.text length ++ "px"

/-- The declarations that place an element on the page. -/
def geometry (element : Element) : Style :=
  [⟨"position", "absolute"⟩, ⟨"left", pixels element.x⟩, ⟨"top", pixels element.y⟩,
    ⟨"width", pixels element.width⟩, ⟨"height", pixels element.height⟩]

/-- The declarations with a separator between any two. -/
def body (escape : Bool) (style : Style) : String :=
  "; ".intercalate (style.map (Declaration.text escape))

/-- The selector of the element with an identifier. -/
def selector (escape : Bool) (id : String) : String :=
  "#" ++ if escape then identifier id else id

/-- The style as a rule for the element with an identifier. -/
def rule (escape : Bool) (id : String) (style : Style) : String :=
  selector escape id ++ " \x7b " ++ body escape style ++ " \x7d\n"

/-- The style as the value of an attribute. -/
def inlineText (escape : Bool) (style : Style) : String :=
  " ".intercalate (style.map fun declaration => declaration.text escape ++ ";")

end Style

end PageLayout
