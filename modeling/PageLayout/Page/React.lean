import PageLayout.Kind.Registry

/-!
# React components

The component is the same for all documents, but only documents whose elements are well formed
have one.
-/

namespace PageLayout.React

/-- The component. -/
def shell : String :=
  "import React from 'react';\n" ++
  "\n" ++
  "export default function GeneratedComponent() \x7b\n" ++
  "  return (\n" ++
  "    <div className=\"canvas\">\n" ++
  "      \x7b/* Generated React component */\x7d\n" ++
  "    </div>\n" ++
  "  );\n" ++
  "\x7d\n"

/-- The component of a document. -/
def component (registry : Registry) (document : Document) : Except MalformedElement String := do
  registry.validate document
  return shell

end PageLayout.React
