import PageLayout.Page.Generate
import PageLayout.Proofs.Kind.Requirements

/-!
# Which documents have pages

A document has a page in a format if all of its elements have markup. Otherwise the page is refused
because of the first element that has none, in every format and with all options alike. A word that
names no format is refused whatever the document is.

- `Registry.validate_eq_error_iff` and `Registry.validate_eq_ok_iff`: the check of a document.
- `Document.render_map_eq_validate`: every format accepts and refuses what the check does.
- `Document.generate_eq_unsupported_iff`: words that name no format.
- `Document.render_and_generate`: all of this together.
-/

namespace PageLayout

variable {registry : Registry} {document : Document}

namespace Registry

/-- The check of a document stops at the first element that has no markup. -/
theorem validate_eq_error_iff {error : MalformedElement} :
    registry.validate document = .error error ↔
      ∃ i, FirstFailure registry.markup document.elements i error := by
  simp only [validate, forM_eq_error_iff]
  exact exists_congr fun i => firstFailure_map_iff

/-- A document passes the check if all of its elements have markup. -/
theorem validate_eq_ok_iff :
    registry.validate document = .ok () ↔
      ∀ element ∈ document.elements, ∃ markup, registry.markup element = .ok markup := by
  rw [validate, forM_eq_map_mapM, map_eq_ok_iff]
  simp only [and_true, exists_mapM_eq_ok_iff]
  exact forall₂_congr fun element _ => exists_map_eq_ok_iff

end Registry

namespace Document

variable {format : Format} {options : Options}

/-- A page in any format is refused because of the first element that has no markup. -/
theorem render_eq_error_iff {error : MalformedElement} :
    document.render registry format options = .error error ↔
      ∃ i, FirstFailure registry.markup document.elements i error := by
  cases format with
  | html =>
    have hpage : document.render registry .html options = .error error ↔
        (document.elements.mapM (Html.fragmentLine registry options)).map String.join =
          .error error := map_eq_error_iff
    rw [hpage, map_eq_error_iff, mapM_eq_error_iff]
    exact exists_congr fun i => firstFailure_map_iff
  | vue =>
    have hcomponent : document.render registry .vue options = .error error ↔
        (document.elements.mapM (Vue.fragmentLine registry options)).map String.join =
          .error error := map_eq_error_iff
    rw [hcomponent, map_eq_error_iff, mapM_eq_error_iff]
    exact exists_congr fun i => firstFailure_map_iff
  | react =>
    have hcomponent : document.render registry .react options = .error error ↔
        registry.validate document = .error error := map_eq_error_iff
    rw [hcomponent, Registry.validate_eq_error_iff]

/-- A page in any format is accepted or refused as the check of the document is. -/
theorem render_map_eq_validate (registry : Registry) (document : Document) (format : Format)
    (options : Options) :
    ((document.render registry format options).map fun _ => ()) = registry.validate document := by
  refine eq_of_error_iff fun error => ?_
  rw [map_eq_error_iff, render_eq_error_iff, Registry.validate_eq_error_iff]

/-- A document has a page in a format if it passes the check. -/
theorem exists_render_eq_ok_iff :
    (∃ text, document.render registry format options = .ok text) ↔
      ∀ element ∈ document.elements, ∃ markup, registry.markup element = .ok markup := by
  rw [← exists_map_eq_ok_iff (f := fun _ => ()), render_map_eq_validate,
    ← Registry.validate_eq_ok_iff]
  exact ⟨fun ⟨_, h⟩ => h, fun h => ⟨_, h⟩⟩

/-- A page in a format that is named by its word is the page in that format. -/
theorem generate_name :
    document.generate format.name options =
      (document.render .builtin format options).mapError .malformed := by
  simp only [generate, Format.parse, Format.ofName?_name]
  rfl

/-- A word is refused if it names no format, and no element is looked at then. -/
theorem generate_eq_unsupported_iff {word word' : String} :
    document.generate word options = .error (.unsupportedFormat word') ↔
      word' = word ∧ word ∉ ["html", "vue", "react"] := by
  by_cases hword : ∃ format : Format, format.name = word
  · obtain ⟨format, rfl⟩ := hword
    have hmem : format.name ∈ ["html", "vue", "react"] := by cases format <;> decide
    rw [generate_name, mapError_eq_error_iff]
    constructor
    · rintro ⟨error, -, ⟨⟩⟩
    · rintro ⟨-, hword⟩
      exact absurd hmem hword
  · have hnone : Format.ofName? word = none := by
      refine List.find?_eq_none.2 fun format _ hname => hword ⟨format, ?_⟩
      exact beq_iff_eq.1 hname
    have hnotMem : word ∉ ["html", "vue", "react"] := by
      simp only [List.mem_cons, List.not_mem_nil, or_false]
      rintro (rfl | rfl | rfl)
      · exact hword ⟨.html, rfl⟩
      · exact hword ⟨.vue, rfl⟩
      · exact hword ⟨.react, rfl⟩
    have hgenerate : document.generate word options = .error (.unsupportedFormat word) := by
      simp only [generate, Format.parse, hnone]
      rfl
    rw [hgenerate, Except.error.injEq, GenerateError.unsupportedFormat.injEq, eq_comm]
    exact (and_iff_left hnotMem).symm

/-- Pages in all formats are accepted and refused as the check of the document is, whatever the
options are. The check reports the first element that has no markup. Elements of types that are not
registered always have markup, and elements of the built-in types do if they have what their types
ask for. Words that name no format are refused whatever the document is, and no other words are. -/
theorem render_and_generate (registry : Registry) (document : Document) :
    (∀ format options, ((document.render registry format options).map fun _ => ()) =
      registry.validate document) ∧
    (∀ error, registry.validate document = .error error ↔
      ∃ i, FirstFailure registry.markup document.elements i error) ∧
    (∀ element, registry.contains element.kind = false →
      ∃ markup, registry.markup element = .ok markup) ∧
    (∀ format options, (∃ text, document.render .builtin format options = .ok text) ↔
      ∀ element ∈ document.elements, element.MeetsType) ∧
    (∀ word options word', document.generate word options = .error (.unsupportedFormat word') ↔
      word' = word ∧ word ∉ ["html", "vue", "react"]) := by
  refine ⟨render_map_eq_validate registry document, fun error => Registry.validate_eq_error_iff,
    fun element => Registry.exists_markup_of_not_contains, fun format options => ?_,
    fun word options word' => generate_eq_unsupported_iff⟩
  rw [exists_render_eq_ok_iff]
  simp only [Registry.exists_markup_builtin_iff]

end Document

end PageLayout
