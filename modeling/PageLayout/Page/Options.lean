/-!
# Options of generated pages
-/

namespace PageLayout

/-- What can be chosen about the text of a page. -/
structure Options where
  /-- Whether texts, attributes, identifiers and style values are escaped. -/
  escape : Bool := true
  /-- The fonts of the page. -/
  fontFamily : String := "-apple-system, BlinkMacSystemFont, 'Segoe UI', sans-serif"
  /-- The language of the page. -/
  lang : String := "en"
  /-- Whether the parts of a page are indented to their level. -/
  prettyPrint : Bool := true
deriving DecidableEq, Repr, Inhabited

/-- The beginning of the line of a part that is indented by a number of spaces. -/
def Options.indent (options : Options) (spaces : Nat) : String :=
  if options.prettyPrint then String.ofList (List.replicate spaces ' ') else ""

end PageLayout
