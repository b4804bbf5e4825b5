import PageLayout.Markup.Escape

/-!
# Markup of one element

What an element becomes in a page: a tag with attributes, around a text, around a comment, or
around nothing and without an end. The element's own attribute, its identifier or its style, is
written first.
-/

namespace PageLayout

/-- What stands inside a tag. -/
inductive Markup.Body where
  | text (content : String)
  | comment (content : String)
  /-- Nothing, and the tag has no end. -/
  | void
deriving DecidableEq, Repr

/-- The markup of an element. -/
structure Markup where
  tag : String
  attributes : List (String × String)
  body : Markup.Body
deriving DecidableEq, Repr

namespace Markup

/-- The language that running text is escaped for. -/
inductive Escaping where
  | html
  | vue
  /-- Nothing is escaped, neither text nor attributes nor comments. -/
  | none
deriving DecidableEq, Repr

namespace Escaping

/-- Running text. -/
def text : Escaping → String → String
  | .html => escapeText
  | .vue => escapeTemplate
  | .none => id

/-- The value of an attribute. -/
def attributeValue : Escaping → String → String
  | .none => id
  | _ => escapeAttribute

/-- The text of a comment. -/
def comment : Escaping → String → String
  | .none => id
  | _ => escapeComment

end Escaping

/-- A tag around a text, without attributes. -/
def ofText (tag content : String) : Markup :=
  ⟨tag, [], .text content⟩

/-- An attribute as it is written in a tag. -/
def attributeText (escaping : Escaping) (named : String × String) : String :=
  " " ++ named.1 ++ "=\"" ++ escaping.attributeValue named.2 ++ "\""

/-- What comes after the opening tag. -/
def bodyText (escaping : Escaping) (markup : Markup) : String :=
  match markup.body with
  | .void => ""
  | .text content => escaping.text content ++ "</" ++ markup.tag ++ ">"
  | .comment content =>
    "<!-- " ++ escaping.comment content ++ " -->" ++ "</" ++ markup.tag ++ ">"

/-- The markup as text, with one more attribute in front. -/
def fragment (escaping : Escaping) (lead : String × String) (markup : Markup) : String :=
  "<" ++ markup.tag ++ String.join ((lead :: markup.attributes).map (attributeText escaping)) ++
    ">" ++ markup.bodyText escaping

end Markup

end PageLayout
