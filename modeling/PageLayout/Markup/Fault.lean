import PageLayout.Json.Printer

/-!
# Elements that cannot be written

An element is malformed if a property that its type needs is missing or of the wrong form.
-/

namespace PageLayout

/-- What keeps an element from being written. -/
inductive MarkupFault where
  /-- A property that the type of the element needs is absent. -/
  | missingProperty (key : String) (kind : String)
  /-- The level of a heading is not one of the six. -/
  | invalidLevel (level : Json.Value)
  /-- A reason that a type of element gives in its own words. -/
  | other (reason : String)

/-- The fault in words. -/
def MarkupFault.reason : MarkupFault → String
  | .missingProperty key kind =>
    "missing required property '" ++ key ++ "' for type '" ++ kind ++ "'"
  | .invalidLevel level => "heading level must be an integer from 1 to 6, got " ++ level.toCompact
  | .other reason => reason

/-- A malformed element, by its identifier. -/
structure MalformedElement where
  id : String
  fault : MarkupFault

/-- The error in words. -/
def MalformedElement.message (error : MalformedElement) : String :=
  "malformed element '" ++ error.id ++ "': " ++ error.fault.reason

end PageLayout
