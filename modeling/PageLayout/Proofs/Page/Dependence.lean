import PageLayout.Document.Edit
import PageLayout.Page.Generate
import PageLayout.Proofs.Kind.Reach
import PageLayout.Proofs.Results

/-!
# What pages depend on

A page depends on the name of the document, on the order of the elements and on what their types
look at. Settings, and with them the active breakpoint, other properties, the order in which
properties were given and properties that are `null` change neither the page nor the reason for
which it is refused.

- `Document.render_eq_of_treatsAlike`: pages of elements that get the same markup and style.
- `Document.AgreesOn`: documents that differ in nothing that is looked at.
- `Document.render_eq_of_agreesOn`: pages with any types.
- `Document.render_builtin_eq`: pages with the built-in types.
-/

namespace PageLayout

variable {registry : Registry} {keys : String → List String}

/-- Lists whose members agree are walked over alike. -/
theorem map_eq_of_forall₂ {α β : Type} {r : α → α → Prop} {f g : α → β}
    (hfg : ∀ x y, r x y → f x = g y) {xs ys : List α} (h : List.Forall₂ r xs ys) :
    xs.map f = ys.map g := by
  induction h with
  | nil => rfl
  | cons hxy _ ih => rw [List.map_cons, List.map_cons, hfg _ _ hxy, ih]

/-- Two registries treat two elements alike: both have the same identifier and get the same markup
and the same style. -/
structure Registry.TreatsAlike (registry registry' : Registry) (element element' : Element) :
    Prop where
  id : element.id = element'.id
  markup : registry.markup element = registry'.markup element'
  resolve : registry.resolve element = registry'.resolve element'

theorem Element.AgreesOn.treatsAlike {element element' : Element}
    (h : element.AgreesOn (keys element.kind) element')
    (hkeys : ∀ tag, (registry.get tag).LooksAt (keys tag)) :
    registry.TreatsAlike registry element element' where
  id := h.id
  markup := by
    rw [Registry.markup, Registry.markup, Registry.kindOf, Registry.kindOf, ← h.kind]
    exact (hkeys element.kind).markup h
  resolve := by
    rw [Registry.resolve, Registry.resolve, Registry.kindOf, Registry.kindOf, ← h.kind,
      Kind.resolve, Kind.resolve, h.geometry, (hkeys element.kind).style h]

namespace Document

variable {registry' : Registry} {document document' : Document}

/-- Documents whose elements are treated alike one by one are both well formed, or are refused for
the same reason. -/
theorem validate_eq_of_treatsAlike
    (h : List.Forall₂ (registry.TreatsAlike registry') document.elements document'.elements) :
    registry.validate document = registry'.validate document' := by
  rw [Registry.validate, Registry.validate, forM_eq_map_mapM, forM_eq_map_mapM]
  congr 1
  exact mapM_eq_of_forall₂ (fun _ _ h => by rw [h.markup]) h

/-- Documents of the same name whose elements are treated alike one by one have the same pages, or
are refused for the same reason. -/
theorem render_eq_of_treatsAlike (hname : document.name = document'.name)
    (h : List.Forall₂ (registry.TreatsAlike registry') document.elements document'.elements)
    (format : Format) (options : Options) :
    document.render registry format options = document'.render registry' format options := by
  cases format with
  | html =>
    have hrules : Html.rules registry options document.elements =
        Html.rules registry' options document'.elements := by
      rw [Html.rules, Html.rules]
      congr 1
      refine map_eq_of_forall₂ (fun _ _ h => ?_) h
      rw [Html.ruleLine, Html.ruleLine, h.id, h.resolve]
    have hcanvas : Html.canvas registry options document.elements =
        Html.canvas registry' options document'.elements := by
      rw [Html.canvas, Html.canvas]
      congr 1
      refine mapM_eq_of_forall₂ (fun _ _ h => ?_) h
      rw [Html.fragmentLine, Html.fragmentLine, h.id, h.markup]
    rw [render, render, Html.page, Html.page, hrules, hcanvas, hname]
  | vue =>
    have hcanvas : Vue.canvas registry options document.elements =
        Vue.canvas registry' options document'.elements := by
      rw [Vue.canvas, Vue.canvas]
      congr 1
      refine mapM_eq_of_forall₂ (fun _ _ h => ?_) h
      rw [Vue.fragmentLine, Vue.fragmentLine, h.markup, h.resolve]
    rw [render, render, Vue.component, Vue.component, hcanvas]
  | react =>
    rw [render, render, React.component, React.component, validate_eq_of_treatsAlike h]

/-- Documents with the same name and with as many elements, which agree one by one on the properties
that are looked at in elements of their types. -/
structure AgreesOn (keys : String → List String) (document document' : Document) : Prop where
  name : document.name = document'.name
  elements : List.Forall₂ (fun element => Element.AgreesOn (keys element.kind) element)
    document.elements document'.elements

/-- Documents that agree on all properties that are looked at have the same pages, or are refused
for the same reason. -/
theorem render_eq_of_agreesOn (hkeys : ∀ tag, (registry.get tag).LooksAt (keys tag))
    (h : document.AgreesOn keys document') (format : Format) (options : Options) :
    document.render registry format options = document'.render registry format options :=
  render_eq_of_treatsAlike h.name (h.elements.imp fun _ _ h => h.treatsAlike hkeys) format options

/-- With the built-in types, documents that agree on the properties that these recognize have the
same pages, or are refused for the same reason. -/
theorem render_builtin_eq (h : document.AgreesOn Kind.recognizedKeys document') (format : Format)
    (options : Options) :
    document.render .builtin format options = document'.render .builtin format options :=
  render_eq_of_agreesOn Registry.looksAt_builtin h format options

/-- A document with nothing in it that does not show. -/
def sparse : Document where
  name := "Page"
  elements :=
    [⟨"a", "text", 1, 2.5, 3, 4, .ofList [("content", .string "A"), ("color", .string "red")]⟩,
      ⟨"b", "heading", 1, 2.5, 3, 4, .ofList [("level", .number (.whole 7))]⟩,
      ⟨"c", "widget", 1, 2.5, 3, 4, .empty⟩]
  settings := .empty

/-- The same document with settings, and with properties in another order, of other types, of no
type at all, and without a value. -/
def cluttered : Document where
  name := "Page"
  elements :=
    [⟨"a", "text", 1, 2.5, 3, 4,
        .ofList [("color", .string "red"), ("fontSize", .null), ("level", .number (.whole 2)),
          ("content", .string "A"), ("note", .array [.null])]⟩,
      ⟨"b", "heading", 1, 2.5, 3, 4,
        .ofList [("content", .null), ("src", .string "B"), ("level", .number (.whole 7))]⟩,
      ⟨"c", "widget", 1, 2.5, 3, 4, .ofList [("content", .string "C")]⟩]
  settings := .ofList [("breakpoint", .string "mobile"), ("zoom", .number (.real 1.5))]

theorem agreesOn_sparse_cluttered : sparse.AgreesOn Kind.recognizedKeys cluttered where
  name := rfl
  elements := by
    refine .cons ⟨rfl, rfl, rfl, rfl, rfl, rfl, ?_⟩ (.cons ⟨rfl, rfl, rfl, rfl, rfl, rfl, ?_⟩
      (.cons ⟨rfl, rfl, rfl, rfl, rfl, rfl, ?_⟩ .nil))
    · show ∀ key ∈ ["content", "fontSize", "color"], _
      simp only [List.forall_mem_cons]
      exact ⟨rfl, rfl, rfl, nofun⟩
    · show ∀ key ∈ ["level", "content", "fontSize", "color"], _
      simp only [List.forall_mem_cons]
      exact ⟨rfl, rfl, rfl, rfl, nofun⟩
    · exact nofun

theorem render_builtin_cluttered :
    sparse.AgreesOn Kind.recognizedKeys cluttered ∧
      sparse.render .builtin .html {} = cluttered.render .builtin .html {} :=
  ⟨agreesOn_sparse_cluttered, render_builtin_eq agreesOn_sparse_cluttered .html {}⟩

end Document

end PageLayout
