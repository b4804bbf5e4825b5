import PageLayout.Kind.Registry

/-!
# What holds of all types of a registry

An element is treated by one of the registered types or by the placeholder. A property that all
of these have is had by the type of every element, and it is kept when a type that has it is
registered.
-/

namespace PageLayout.Registry

variable {p : Kind → Prop} {registry : Registry}

/-- Every type that elements may turn out to have, the placeholder included, has a property. -/
structure All (p : Kind → Prop) (registry : Registry) : Prop where
  kinds : ∀ entry ∈ registry.kinds, p entry.2
  placeholder : p .placeholder

/-- The type of every element has the property. -/
theorem All.kindOf (h : registry.All p) (element : Element) : p (registry.kindOf element) := by
  rw [Registry.kindOf, get]
  cases hkind : registry.kinds.lookup element.kind with
  | none => exact h.placeholder
  | some kind =>
    obtain ⟨before, after, hkinds, -⟩ := List.lookup_eq_some_iff.1 hkind
    exact h.kinds (element.kind, kind) (by simp [hkinds])

/-- The empty registry has only the placeholder. -/
theorem all_empty (h : p .placeholder) : empty.All p where
  kinds := by simp [empty]
  placeholder := h

/-- The built-in registry has the four built-in types and the placeholder. -/
theorem all_builtin (htext : p .text) (hheading : p .heading) (hbutton : p .button)
    (himage : p .image) (hplaceholder : p .placeholder) : builtin.All p where
  kinds := by simp [builtin, Kind.builtins, htext, hheading, hbutton, himage]
  placeholder := hplaceholder

/-- Registering a type with the property keeps it. -/
theorem All.register (h : registry.All p) {tag : String} {kind : Kind} (hkind : p kind)
    {registry' : Registry} (hregister : registry.register tag kind = .ok registry') :
    registry'.All p := by
  rw [Registry.register] at hregister
  split at hregister
  · cases hregister
  · cases hregister
    refine ⟨fun entry hentry => ?_, h.placeholder⟩
    obtain hold | hnew := List.mem_append.1 hentry
    · exact h.kinds entry hold
    · rw [List.mem_singleton.1 hnew]
      exact hkind

end PageLayout.Registry
