import PageLayout.Proofs.Kind.Requirements

/-!
# What types look at

A type may look at some properties of its elements. What it does with an element then depends on
the identifier, the name of the type, the place on the page and the values of these properties,
where `null` counts as no value: all else about the element could be otherwise.

- `Element.AgreesOn`: elements that differ in nothing that is looked at.
- `Kind.LooksAt`: types that look at no more than some properties.
- `Registry.looksAt_builtin`: the properties that the built-in types look at.
-/

namespace PageLayout

/-- Elements that are the same but for their properties, and the same also in the properties with
some names. A property that is `null` is as good as absent. -/
structure Element.AgreesOn (keys : List String) (element element' : Element) : Prop where
  id : element.id = element'.id
  kind : element.kind = element'.kind
  x : element.x = element'.x
  y : element.y = element'.y
  width : element.width = element'.width
  height : element.height = element'.height
  property : ∀ key ∈ keys, element.property? key = element'.property? key

/-- A type looks at no properties but those with some names. -/
structure Kind.LooksAt (kind : Kind) (keys : List String) : Prop where
  style : ∀ {element element'}, element.AgreesOn keys element' →
    kind.style element = kind.style element'
  markup : ∀ {element element'}, element.AgreesOn keys element' →
    kind.markup element = kind.markup element'

namespace Element.AgreesOn

variable {keys : List String} {element element' : Element} {key : String}

theorem styleProperty? (h : element.AgreesOn keys element') (hkey : key ∈ keys) :
    element.styleProperty? key = element'.styleProperty? key := by
  rw [Element.styleProperty?, Element.styleProperty?, h.property key hkey]

theorem textProperty? (h : element.AgreesOn keys element') (hkey : key ∈ keys) :
    element.textProperty? key = element'.textProperty? key := by
  rw [Element.textProperty?, Element.textProperty?, h.property key hkey, h.styleProperty? hkey]

/-- A required property is found or missed alike. -/
theorem require (h : element.AgreesOn keys element') (hkey : key ∈ keys) :
    Kind.require element key = Kind.require element' key := by
  rw [Kind.require, Kind.require, h.textProperty? hkey, h.id, h.kind]

/-- A level is found or refused alike, with the same words about the same value. -/
theorem headingLevel (h : element.AgreesOn keys element') (hkey : "level" ∈ keys) :
    Kind.headingLevel element = Kind.headingLevel element' := by
  rw [Kind.headingLevel, Kind.headingLevel, h.property "level" hkey, h.id]

theorem typography (h : element.AgreesOn keys element') (hsize : "fontSize" ∈ keys)
    (hcolor : "color" ∈ keys) : Kind.typography element = Kind.typography element' := by
  rw [Kind.typography, Kind.typography, h.styleProperty? hsize, h.styleProperty? hcolor]

theorem geometry (h : element.AgreesOn keys element') :
    Style.geometry element = Style.geometry element' := by
  rw [Style.geometry, Style.geometry, h.x, h.y, h.width, h.height]

end Element.AgreesOn

namespace Kind

theorem looksAt_text : text.LooksAt ["content", "fontSize", "color"] where
  style h := h.typography (by simp) (by simp)
  markup h := by simp only [text, h.require (show "content" ∈ _ by simp)]

theorem looksAt_heading : heading.LooksAt ["level", "content", "fontSize", "color"] where
  style h := h.typography (by simp) (by simp)
  markup h := by
    simp only [heading, h.headingLevel (by simp), h.require (show "content" ∈ _ by simp)]

theorem looksAt_button : button.LooksAt ["text", "backgroundColor", "textColor"] where
  style h := by
    simp only [button, h.styleProperty? (show "backgroundColor" ∈ _ by simp),
      h.styleProperty? (show "textColor" ∈ _ by simp)]
  markup h := by simp only [button, h.require (show "text" ∈ _ by simp)]

theorem looksAt_image : image.LooksAt ["src", "alt"] where
  style _ := rfl
  markup h := by
    simp only [image, h.require (show "src" ∈ _ by simp), h.require (show "alt" ∈ _ by simp)]

/-- The placeholder names the type and looks at no property. -/
theorem looksAt_placeholder : placeholder.LooksAt [] where
  style _ := rfl
  markup h := by simp only [placeholder, h.kind]

/-- The names of the properties that the built-in type with a name looks at. -/
def recognizedKeys (tag : String) : List String :=
  if tag = "text" then ["content", "fontSize", "color"]
  else if tag = "heading" then ["level", "content", "fontSize", "color"]
  else if tag = "button" then ["text", "backgroundColor", "textColor"]
  else if tag = "image" then ["src", "alt"]
  else []

end Kind

/-- The built-in types look at the properties that they recognize, and the placeholder, to which all
other names belong, looks at none. -/
theorem Registry.looksAt_builtin (tag : String) :
    (builtin.get tag).LooksAt (Kind.recognizedKeys tag) := by
  obtain ⟨rfl, hget⟩ | ⟨rfl, hget⟩ | ⟨rfl, hget⟩ | ⟨rfl, hget⟩ | ⟨htag, hget⟩ :=
    get_builtin_cases tag
  · exact Kind.looksAt_text
  · exact Kind.looksAt_heading
  · exact Kind.looksAt_button
  · exact Kind.looksAt_image
  · have hkeys : Kind.recognizedKeys tag = [] := by
      simp only [List.mem_cons, List.not_mem_nil, or_false, not_or] at htag
      simp [Kind.recognizedKeys, htag]
    rw [hget, hkeys]
    exact Kind.looksAt_placeholder

end PageLayout
