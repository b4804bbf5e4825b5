import PageLayout.Proofs.Kind.Members

/-!
# Which properties types declare

The names of the properties that the built-in types declare are fixed, whatever the elements are,
and so are those of the properties that place an element. A property of names that all of these have
is thus one of all declarations of an element.

- `Kind.Declares`: the names that a type keeps to.
- `Registry.declares_builtin`: those that the built-in types keep to.
- `Registry.All.forall_resolve`: what holds of all names holds throughout the style of an element.
-/

namespace PageLayout

/-- The names of all properties that a type declares are as `p` says. -/
def Kind.Declares (p : String → Prop) (kind : Kind) : Prop :=
  ∀ element, ∀ d ∈ kind.style element, p d.property

namespace Kind

/-- The names of the properties that the built-in types declare. -/
def builtinProperties : List String :=
  ["font-size", "color", "background-color", "border", "border-radius", "cursor", "padding"]

/-- The name of a property that may be declared is known even if its value is not. -/
theorem property_of_mem_ofOption {property : String} {value : Option String} {d : Declaration}
    (hd : d ∈ Declaration.ofOption property value) : d.property = property := by
  cases value with
  | none => simp [Declaration.ofOption] at hd
  | some value =>
    obtain rfl : d = ⟨property, value⟩ := by simpa [Declaration.ofOption] using hd
    rfl

theorem declares_text : text.Declares (· ∈ builtinProperties) := by
  intro element d hd
  rcases List.mem_append.1 hd with hd | hd
  · rw [property_of_mem_ofOption hd]
    decide
  · rw [property_of_mem_ofOption hd]
    decide

theorem declares_button : button.Declares (· ∈ builtinProperties) := by
  intro element d hd
  rcases List.mem_append.1 hd with hd | hd
  · rcases List.mem_append.1 hd with hd | hd
    · rw [property_of_mem_ofOption hd]
      decide
    · rw [property_of_mem_ofOption hd]
      decide
  · have hall : ∀ d ∈ ([⟨"border", "none"⟩, ⟨"border-radius", "4px"⟩, ⟨"cursor", "pointer"⟩,
        ⟨"padding", "10px 20px"⟩] : Style), d.property ∈ builtinProperties := by decide
    exact hall d hd

/-- Images and placeholders are placed, and nothing more is declared for them. -/
theorem declares_of_style_eq_nil {kind : Kind} (h : ∀ element, kind.style element = [])
    (p : String → Prop) : kind.Declares p := by
  intro element d hd
  rw [h] at hd
  cases hd

end Kind

namespace Registry

/-- What all types of a registry have, they have of any weaker property, too. -/
theorem All.imp {p q : Kind → Prop} {registry : Registry} (h : registry.All p)
    (hpq : ∀ kind, p kind → q kind) : registry.All q where
  kinds entry hentry := hpq entry.2 (h.kinds entry hentry)
  placeholder := hpq .placeholder h.placeholder

/-- The built-in types keep to names that are fixed. -/
theorem declares_builtin {p : String → Prop} (hp : ∀ property ∈ Kind.builtinProperties, p property) :
    builtin.All (Kind.Declares p) := by
  have hall : builtin.All (Kind.Declares (· ∈ Kind.builtinProperties)) :=
    all_builtin Kind.declares_text Kind.declares_text Kind.declares_button
      (Kind.declares_of_style_eq_nil (fun _ => rfl) _)
      (Kind.declares_of_style_eq_nil (fun _ => rfl) _)
  exact hall.imp fun kind hkind element d hd => hp d.property (hkind element d hd)

/-- The names of the properties that place an element. -/
def geometryProperties : List String :=
  ["position", "left", "top", "width", "height"]

/-- What holds of the names that the types of a registry keep to, and of those that place an
element, holds of all properties of the element. -/
theorem All.forall_resolve {p : String → Prop} {registry : Registry}
    (h : registry.All (Kind.Declares p)) (hgeometry : ∀ property ∈ geometryProperties, p property)
    (element : Element) : ∀ d ∈ registry.resolve element, p d.property := by
  intro d hd
  rcases List.mem_append.1 hd with hd | hd
  · refine hgeometry d.property ?_
    simp only [Style.geometry, List.mem_cons, List.not_mem_nil, or_false] at hd
    rcases hd with rfl | rfl | rfl | rfl | rfl
    all_goals simp [geometryProperties]
  · exact h.kindOf element element d hd

end Registry

end PageLayout
