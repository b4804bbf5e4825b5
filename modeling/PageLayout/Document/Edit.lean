import PageLayout.Document.Basic

/-!
# Editing documents

The changes that an editor makes to a document. An element is named by its place in the list; a
place past the end names no element, and there is then no changed document.
-/

namespace PageLayout

namespace Element

/-- The element with a property given. -/
def setProperty (element : Element) (key : String) (value : Json.Value) : Element :=
  { element with properties := element.properties.insert key value }

/-- The element at another place of the page. -/
def moveTo (element : Element) (x y : Float) : Element :=
  { element with x, y }

end Element

namespace Document

/-- The document of some name without elements and settings. -/
def ofName (name : String) : Document :=
  ⟨name, [], .empty⟩

/-- The document under another name. -/
def rename (document : Document) (name : String) : Document :=
  { document with name }

/-- The document with one more element, the last one. -/
def addElement (document : Document) (element : Element) : Document :=
  { document with elements := document.elements ++ [element] }

/-- The document with a setting given. -/
def setSetting (document : Document) (key : String) (value : Json.Value) : Document :=
  { document with settings := document.settings.insert key value }

/-- The document with a change to one element. -/
def modifyElement? (document : Document) (index : Nat) (change : Element → Element) :
    Option Document :=
  document.elements[index]?.map fun element =>
    { document with elements := document.elements.set index (change element) }

/-- The document without one of its elements. -/
def removeElement? (document : Document) (index : Nat) : Option Document :=
  if index < document.elements.length then
    some { document with elements := document.elements.eraseIdx index }
  else none

end Document

end PageLayout
