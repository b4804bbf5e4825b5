import PageLayout.Page.Html
import PageLayout.Page.Vue
import PageLayout.Proofs.Markup.Reader
import PageLayout.Proofs.Results

/-!
# How pages are put together

A page is written if every element has markup. It then consists of a part that the elements do
not reach, of one line for each element, and of an end. The canvases of HTML pages and of Vue
components differ in the leading attribute, the indentation and the way of escaping only.

- `Html.page_eq_ok_iff` and `Vue.component_eq_ok_iff`: the parts of a page.
- `Html.canvas_eq_ok_iff` and `Vue.canvas_eq_ok_iff`: the lines of a canvas.
-/

namespace PageLayout

/-! ## Lines of fragments -/

/-- Markup for each of the elements, with a leading attribute made from the element. -/
def Registry.Writes (registry : Registry) (lead : Element → String × String)
    (elements : List Element) (written : List ((String × String) × Markup)) : Prop :=
  List.Forall₂ (fun element w => registry.markup element = .ok w.2 ∧ w.1 = lead element)
    elements written

section Lines

variable (registry : Registry) (escaping : Markup.Escaping) (indent : String)
  (lead : Element → String × String)

/-- The lines of elements are those of the markup that is written for them. -/
theorem forall₂_line_iff {elements : List Element} {lines : List String} :
    List.Forall₂ (fun element line => (registry.markup element).map (fun markup =>
        indent ++ markup.fragment escaping (lead element) ++ "\n") = .ok line) elements lines ↔
      ∃ written, registry.Writes lead elements written ∧
        lines = written.map fun w => indent ++ w.2.fragment escaping w.1 ++ "\n" := by
  constructor
  · intro h
    induction h with
    | nil => exact ⟨[], .nil, rfl⟩
    | @cons element line elements lines hline _ ih =>
      obtain ⟨markup, hmarkup, rfl⟩ := map_eq_ok_iff.1 hline
      obtain ⟨written, hwritten, rfl⟩ := ih
      exact ⟨(lead element, markup) :: written, .cons ⟨hmarkup, rfl⟩ hwritten, rfl⟩
  · rintro ⟨written, hwritten, rfl⟩
    rw [List.forall₂_map_right_iff]
    refine hwritten.imp fun element w hw => ?_
    rw [hw.1, ← hw.2]
    rfl

/-- The lines of fragments of elements stand together in a canvas. -/
theorem mapM_line_eq_ok_iff {elements : List Element} {canvas : String} :
    (elements.mapM fun element => (registry.markup element).map fun markup =>
        indent ++ markup.fragment escaping (lead element) ++ "\n").map String.join = .ok canvas ↔
      ∃ written, registry.Writes lead elements written ∧
        canvas = Markup.fragmentLines escaping indent written := by
  rw [map_eq_ok_iff]
  constructor
  · rintro ⟨lines, hlines, rfl⟩
    obtain ⟨written, hwritten, rfl⟩ :=
      (forall₂_line_iff registry escaping indent lead).1 (mapM_eq_ok_iff.1 hlines)
    exact ⟨written, hwritten, rfl⟩
  · rintro ⟨written, hwritten, rfl⟩
    exact ⟨_, mapM_eq_ok_iff.2
      ((forall₂_line_iff registry escaping indent lead).2 ⟨written, hwritten, rfl⟩), rfl⟩

end Lines

/-! ## The two canvases -/

variable {registry : Registry} {options : Options}

namespace Html

/-- The leading attribute of the fragments of a page. -/
def lead (element : Element) : String × String :=
  ("id", element.id)

theorem canvas_eq_ok_iff {elements : List Element} {canvas : String} :
    Html.canvas registry options elements = .ok canvas ↔
      ∃ written, registry.Writes lead elements written ∧
        canvas = Markup.fragmentLines (escaping options) (options.indent 8) written :=
  mapM_line_eq_ok_iff registry (escaping options) (options.indent 8) lead

/-- A page is written around its canvas. -/
theorem page_eq_ok_iff {document : Document} {text : String} :
    page registry options document = .ok text ↔
      ∃ canvas, Html.canvas registry options document.elements = .ok canvas ∧
        text = head options document.name ++ baseRules options ++
          rules registry options document.elements ++ middle ++ canvas ++ foot := by
  rw [page, bind_eq_ok_iff]
  simp only [pure, Except.pure, Except.ok.injEq, eq_comm (b := text)]

end Html

namespace Vue

/-- The leading attribute of the fragments of a component. -/
def lead (registry : Registry) (options : Options) (element : Element) : String × String :=
  ("style", Style.inlineText options.escape (registry.resolve element))

theorem canvas_eq_ok_iff {elements : List Element} {canvas : String} :
    Vue.canvas registry options elements = .ok canvas ↔
      ∃ written, registry.Writes (lead registry options) elements written ∧
        canvas = Markup.fragmentLines (escaping options) (options.indent 4) written :=
  mapM_line_eq_ok_iff registry (escaping options) (options.indent 4) (lead registry options)

/-- A component is written around its canvas. -/
theorem component_eq_ok_iff {document : Document} {text : String} :
    component registry options document = .ok text ↔
      ∃ canvas, Vue.canvas registry options document.elements = .ok canvas ∧
        text = head ++ canvas ++ foot := by
  rw [component, bind_eq_ok_iff]
  simp only [pure, Except.pure, Except.ok.injEq, eq_comm (b := text)]

end Vue

end PageLayout
