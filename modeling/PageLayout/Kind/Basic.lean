import PageLayout.Decimal.Nearest
import PageLayout.Markup.Basic
import PageLayout.Markup.Fault
import PageLayout.Style.Basic
import PageLayout.Text.Blank

/-!
# Types of elements

A type of element says which declarations its elements add to those that place them, and what
markup they become. Four types are built in; elements of any other type become a placeholder that
names the type in a comment.
-/

namespace PageLayout

/-- A type of element. -/
structure Kind where
  /-- The declarations that the type appends after those that place the element. It is part of the
  contract of a type that it only appends, and neither reads nor changes what stands in front. -/
  style : Element → Style
  /-- The markup of an element. It is part of the contract of a type that it fails for malformed
  elements only, as when a required property is missing; the other error of generating a page, an
  unknown format, is none of its errors. -/
  markup : Element → Except MalformedElement Markup

namespace Kind

/-- All declarations of an element. -/
def resolve (kind : Kind) (element : Element) : Style :=
  Style.geometry element ++ kind.style element

/-- The text of a property that must be there. -/
def require (element : Element) (key : String) : Except MalformedElement String :=
  match element.textProperty? key with
  | some text => .ok text
  | none => .error ⟨element.id, .missingProperty key element.kind⟩

/-! ## Headings -/

/-- The number that a text writes, if it fits into 64 bits: an optional plus sign and decimal
digits, between blanks. -/
def readLevel? (text : String) : Option UInt64 :=
  let digits := match Text.trimBlanks text.toList with
    | '+' :: digits => digits
    | digits => digits
  if !digits.isEmpty && digits.all Char.isDigit then
    Decimal.bounded? (Decimal.ofDigits digits)
  else none

/-- The level that a value stands for. A number that is no integer of 64 bits without a sign is
taken as a double: it must be whole and not below zero, and is cut off if it is too large. An
integer below zero is below zero as a double, too. -/
def level? : Json.Value → Option UInt64
  | .number n => n.uint64?.or (n.nat?.map .ofNatClamp)
  | .string s => readLevel? s
  | _ => none

/-- The level of a heading: a whole number from one to six, as a number or in digits. -/
def headingLevel (element : Element) : Except MalformedElement Nat :=
  match element.property? "level" with
  | none => .error ⟨element.id, .missingProperty "level" "heading"⟩
  | some value =>
    match level? value with
    | some level =>
      if 1 ≤ level ∧ level ≤ 6 then .ok level.toNat
      else .error ⟨element.id, .invalidLevel value⟩
    | none => .error ⟨element.id, .invalidLevel value⟩

/-! ## The built-in types -/

/-- The size and the color of a text. -/
def typography (element : Element) : Style :=
  Declaration.ofOption "font-size" ((element.styleProperty? "fontSize").map (· ++ "px")) ++
    Declaration.ofOption "color" (element.styleProperty? "color")

/-- A text. -/
def text : Kind where
  style := typography
  markup := fun element => do return .ofText "div" (← require element "content")

/-- A heading of some level. -/
def heading : Kind where
  style := typography
  markup := fun element => do
    let level ← headingLevel element
    return .ofText ("h" ++ Decimal.intText level) (← require element "content")

/-- A button. -/
def button : Kind where
  style := fun element =>
    Declaration.ofOption "background-color" (element.styleProperty? "backgroundColor") ++
      Declaration.ofOption "color" (element.styleProperty? "textColor") ++
      [⟨"border", "none"⟩, ⟨"border-radius", "4px"⟩, ⟨"cursor", "pointer"⟩,
        ⟨"padding", "10px 20px"⟩]
  markup := fun element => do return .ofText "button" (← require element "text")

/-- An image. -/
def image : Kind where
  style := fun _ => []
  markup := fun element => do
    let src ← require element "src"
    let alt ← require element "alt"
    return ⟨"img", [("src", src), ("alt", alt)], .void⟩

/-- What elements of an unknown type become. -/
def placeholder : Kind where
  style := fun _ => []
  markup := fun element => return ⟨"div", [], .comment element.kind⟩

/-- The built-in types under their names. -/
def builtins : List (String × Kind) :=
  [("text", text), ("heading", heading), ("button", button), ("image", image)]

end Kind

end PageLayout
