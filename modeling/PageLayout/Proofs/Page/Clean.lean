import PageLayout.Proofs.Kind.Declares
import PageLayout.Proofs.Page.Composition
import PageLayout.Proofs.Style.Clean

/-!
# Pages that need no escaping

If every text of a page is clean for the place where it is written, it makes no difference to the
page whether texts are escaped. This takes one condition for each place: running text, attribute
values, comments, style values and identifiers. In a component, styles stand in attributes, so what
is reserved there must not come up in them either, also not in the names of properties.

- `Html.IsClean` and `Vue.IsClean`: what is asked of the texts.
- `Html.page_eq_of_isClean` and `Vue.component_eq_of_isClean`: the same page with escaping and
  without.
- `page_component_unescaped`: both together.
- `Vue.component_eq_iff_of_elements_eq_singleton`: the names of properties cannot be left out.
-/

namespace PageLayout

variable {registry : Registry} {options : Options} {document : Document}

/-- Every text of an HTML page is clean for the place where it is written. The places of elements
always are. -/
structure Html.IsClean (registry : Registry) (options : Options) (document : Document) : Prop where
  name : Text.IsFreeOf ['&', '<', '>'] document.name
  lang : Text.IsFreeOf ['&', '<', '>', '"'] options.lang
  fontFamily : Style.IsCleanValue options.fontFamily
  ids : ∀ element ∈ document.elements, Style.IsCleanIdentifier element.id
  values : ∀ element ∈ document.elements, ∀ d ∈ (registry.kindOf element).style element,
    Style.IsCleanValue d.value
  markup : ∀ element ∈ document.elements, ∀ markup, registry.markup element = .ok markup →
    markup.IsClean .html

/-- Every text of a Vue component is clean for the place where it is written. Declarations stand in
attributes, so neither their values nor the names that a type gives to its properties may hold what
is reserved there; the angle brackets are no part of clean values anyway. -/
structure Vue.IsClean (registry : Registry) (document : Document) : Prop where
  properties : ∀ element ∈ document.elements, ∀ d ∈ (registry.kindOf element).style element,
    Text.IsFreeOf ['&', '<', '>', '"'] d.property
  values : ∀ element ∈ document.elements, ∀ d ∈ (registry.kindOf element).style element,
    Style.IsCleanValue d.value ∧ Text.IsFreeOf ['&', '"'] d.value
  markup : ∀ element ∈ document.elements, ∀ markup, registry.markup element = .ok markup →
    markup.IsClean .vue

/-! ## What both languages share -/

/-- All values of the style of an element are clean if those that its type declares are. -/
theorem Registry.isCleanValue_resolve {element : Element}
    (h : ∀ d ∈ (registry.kindOf element).style element, Style.IsCleanValue d.value) :
    ∀ d ∈ registry.resolve element, Style.IsCleanValue d.value := by
  have hgeometry : ∀ d ∈ Style.geometry element, Style.IsCleanValue d.value :=
    fun d hd => Style.isCleanValue_of_isNumberText (Style.isNumberText_geometry element d hd).2
  rw [Registry.resolve, Kind.resolve, List.forall_mem_append]
  exact ⟨hgeometry, h⟩

/-- The names that the built-in types give to properties hold nothing that attributes reserve. -/
theorem Registry.isFreeOf_property_builtin :
    builtin.All (Kind.Declares (Text.IsFreeOf Markup.attributeMarks)) :=
  declares_builtin (by decide)

/-- The fragment of an element whose markup is clean is the same with escaping and without. -/
theorem Registry.map_fragment_eq_of_isClean {element : Element} {escaping : Markup.Escaping}
    (hmarkup : ∀ markup, registry.markup element = .ok markup → markup.IsClean escaping)
    (name : String) {value : String} (hvalue : Text.IsFreeOf Markup.attributeMarks value) :
    ((registry.markup element).map fun markup =>
        markup.fragment escaping (name, value) ++ "\n") =
      (registry.markup element).map fun markup => markup.fragment .none (name, value) ++ "\n" := by
  rcases hresult : registry.markup element with error | markup
  · rfl
  · show Except.ok (markup.fragment escaping (name, value) ++ "\n") =
      Except.ok (markup.fragment .none (name, value) ++ "\n")
    rw [Markup.fragment_eq_of_isClean (hmarkup markup hresult) hvalue]

/-! ## HTML pages -/

namespace Html

theorem head_eq_of_isFreeOf {name : String} (hname : Text.IsFreeOf Markup.textMarks name)
    (hlang : Text.IsFreeOf Markup.attributeMarks options.lang) :
    head { options with escape := true } name = head { options with escape := false } name := by
  unfold head
  rw [if_pos rfl, if_pos rfl, Markup.escapeAttribute_eq_self_iff.2 hlang,
    Markup.escapeText_eq_self_iff.2 hname, if_neg Bool.false_ne_true, if_neg Bool.false_ne_true]

theorem baseRules_eq_of_isCleanValue (h : Style.IsCleanValue options.fontFamily) :
    baseRules { options with escape := true } = baseRules { options with escape := false } := by
  unfold baseRules
  rw [if_pos rfl, Style.sanitize_eq_self_iff.2 h, if_neg Bool.false_ne_true]

/-- Whether texts are escaped makes no difference to how a page of clean texts is put together. -/
theorem IsClean.agreesOn (h : IsClean registry options document) :
    (assembly registry { options with escape := true } document.name).AgreesOn
      (assembly registry { options with escape := false } document.name) document.elements where
  front := by
    show head _ _ ++ baseRules _ = head _ _ ++ baseRules _
    rw [head_eq_of_isFreeOf h.name h.lang, baseRules_eq_of_isCleanValue h.fontFamily]
  middle := rfl
  back := rfl
  ruleIndent := rfl
  fragmentIndent := rfl
  rule element helement := Style.rule_eq_of_isClean (h.ids element helement)
    (Registry.isCleanValue_resolve (h.values element helement))
  fragment element helement := Registry.map_fragment_eq_of_isClean (h.markup element helement)
    "id" (h.ids element helement).isFreeOf

/-- A page of clean texts is the same with escaping and without. -/
theorem page_eq_of_isClean (h : IsClean registry options document) :
    page registry { options with escape := true } document =
      page registry { options with escape := false } document := by
  rw [page_eq_write, page_eq_write]
  exact h.agreesOn.write_eq options.prettyPrint

end Html

/-! ## Vue components -/

namespace Vue

/-- Nothing that attributes reserve comes up in the declarations of an element. -/
theorem IsClean.isFreeOf_resolve (h : IsClean registry document) {element : Element}
    (helement : element ∈ document.elements) :
    ∀ d ∈ registry.resolve element, Text.IsFreeOf Markup.attributeMarks d.property ∧
      Text.IsFreeOf Markup.attributeMarks d.value := by
  rw [Registry.resolve, Kind.resolve, List.forall_mem_append]
  constructor
  · intro d hd
    obtain ⟨hproperty, hvalue⟩ := Style.isNumberText_geometry element d hd
    exact ⟨Style.isFreeOf_of_isNumberText (by decide) hproperty,
      Style.isFreeOf_of_isNumberText (by decide) hvalue⟩
  · intro d hd
    obtain ⟨hvalue, hquoted⟩ := h.values element helement d hd
    exact ⟨h.properties element helement d hd, hvalue.isFreeOf hquoted⟩

theorem IsClean.agreesOn (options : Options) (h : IsClean registry document) :
    (assembly registry { options with escape := true }).AgreesOn
      (assembly registry { options with escape := false }) document.elements where
  front := rfl
  middle := rfl
  back := rfl
  ruleIndent := rfl
  fragmentIndent := rfl
  rule _ _ := rfl
  fragment element helement := by
    have hstyle : Style.inlineText true (registry.resolve element) =
        Style.inlineText false (registry.resolve element) :=
      Style.inlineText_eq_of_isClean
        (Registry.isCleanValue_resolve fun d hd => (h.values element helement d hd).1)
    have hfree : Text.IsFreeOf Markup.attributeMarks
        (Style.inlineText false (registry.resolve element)) :=
      (Style.isFreeOf_inlineText_iff (by decide)).2 (h.isFreeOf_resolve helement)
    show ((registry.markup element).map fun markup => markup.fragment .vue
        ("style", Style.inlineText true (registry.resolve element)) ++ "\n") = _
    rw [hstyle]
    exact Registry.map_fragment_eq_of_isClean (h.markup element helement) "style" hfree

/-- A component of clean texts is the same with escaping and without. -/
theorem component_eq_of_isClean (options : Options) (h : IsClean registry document) :
    component registry { options with escape := true } document =
      component registry { options with escape := false } document := by
  rw [component_eq_write, component_eq_write]
  exact (h.agreesOn options).write_eq options.prettyPrint

end Vue

/-- Escaping does not show in pages and components all of whose texts are clean. -/
theorem page_component_unescaped (registry : Registry) (options : Options) (document : Document) :
    (Html.IsClean registry options document →
      Html.page registry { options with escape := true } document =
        Html.page registry { options with escape := false } document) ∧
    (Vue.IsClean registry document →
      Vue.component registry { options with escape := true } document =
        Vue.component registry { options with escape := false } document) :=
  ⟨Html.page_eq_of_isClean, Vue.component_eq_of_isClean options⟩

/-- A page whose texts hold much that is escaped in some places, but nothing in its own place. -/
def Document.clean : Document where
  name := "\"Start\" -- \x7b1\x7d"
  elements :=
    [⟨"Größe_1", "text", 0, 0, 1, 1,
      .ofList [("content", .string "it's 5/6; \\ \"--\""), ("color", .string "a/b * c // 'd' --")]⟩,
    ⟨"--x", "image", 0, 0, 1, 1,
      .ofList [("src", .string "/a?b=\x7bc\x7d;*/"), ("alt", .string "")]⟩,
    ⟨"_9", "-bar & \"<chart>\"-", 0, 0, 1, 1, .ofList []⟩]
  settings := .ofList []

theorem page_component_clean :
    (Html.IsClean .builtin {} .clean ∧ Vue.IsClean .builtin .clean) ∧
    (Html.page .builtin { escape := true } .clean = Html.page .builtin { escape := false } .clean ∧
      Vue.component .builtin { escape := true } .clean =
        Vue.component .builtin { escape := false } .clean) := by
  have hhtml : Html.IsClean .builtin {} .clean := {
    name := by decide
    lang := by decide
    fontFamily := by decide
    ids := by decide
    values := by decide
    markup := by
      simp only [Document.clean, List.forall_mem_cons]
      refine ⟨?_, ?_, ?_, by simp⟩
      all_goals
        rintro markup ⟨⟩
        decide }
  have hvue : Vue.IsClean .builtin .clean := {
    properties := fun element _ => Registry.isFreeOf_property_builtin.kindOf element element
    values := by decide
    markup := by
      simp only [Document.clean, List.forall_mem_cons]
      refine ⟨?_, ?_, ?_, by simp⟩
      all_goals
        rintro markup ⟨⟩
        decide }
  obtain ⟨hpage, hcomponent⟩ := page_component_unescaped .builtin {} .clean
  exact ⟨⟨hhtml, hvue⟩, hpage hhtml, hcomponent hvue⟩

/-! ## Names of properties -/

/-- The component of a single element is its fragment on a line of the canvas. -/
theorem Vue.component_of_elements_eq_singleton {element : Element} {markup : Markup}
    (helements : document.elements = [element]) (hmarkup : registry.markup element = .ok markup) :
    component registry options document =
      .ok (head ++ (options.indent 4 ++ markup.fragment (escaping options)
        ("style", Style.inlineText options.escape (registry.resolve element)) ++ "\n") ++
          foot) := by
  simp [component, canvas, helements, fragmentLine, hmarkup, bind, Except.bind, pure, Except.pure,
    Except.map]

/-- The component of a single element whose markup and values are clean is the same with escaping
and without just if attributes reserve nothing in its declarations, the names of properties
included. -/
theorem Vue.component_eq_iff_of_elements_eq_singleton (options : Options) {element : Element}
    {markup : Markup} (helements : document.elements = [element])
    (hmarkup : registry.markup element = .ok markup) (hclean : markup.IsClean .vue)
    (hvalues : ∀ d ∈ (registry.kindOf element).style element, Style.IsCleanValue d.value) :
    component registry { options with escape := true } document =
        component registry { options with escape := false } document ↔
      ∀ d ∈ registry.resolve element, Text.IsFreeOf Markup.attributeMarks d.property ∧
        Text.IsFreeOf Markup.attributeMarks d.value := by
  have hstyle : Style.inlineText true (registry.resolve element) =
      Style.inlineText false (registry.resolve element) :=
    Style.inlineText_eq_of_isClean (Registry.isCleanValue_resolve hvalues)
  rw [component_of_elements_eq_singleton helements hmarkup,
    component_of_elements_eq_singleton helements hmarkup, hstyle, Except.ok.injEq,
    ← Style.isFreeOf_inlineText_iff (by decide), ← Markup.escapeAttribute_eq_self_iff]
  generalize Style.inlineText false (registry.resolve element) = value
  -- The two components differ in the fragment only.
  simp only [String.append_left_inj, String.append_right_inj]
  show options.indent 4 ++ markup.fragment .vue ("style", value) =
    options.indent 4 ++ markup.fragment .none ("style", value) ↔ _
  rw [String.append_right_inj]
  exact Markup.fragment_eq_iff_of_isClean hclean ("style", value)

/-- A type with nothing to escape but a double quote in the name of a property. -/
def Kind.quotedName : Kind where
  style := fun _ => [⟨"a\"b", "1"⟩]
  markup := fun _ => return .ofText "div" "c"

/-- The registry of that type. -/
def Registry.quotedName : Registry :=
  ⟨[("note", .quotedName)], by decide⟩

/-- A document with an element of that type. -/
def Document.quotedName : Document where
  name := "A"
  elements := [⟨"e", "note", 0, 0, 1, 1, .ofList []⟩]
  settings := .ofList []

/-- The names of properties cannot be left out of what is asked of a component: all else may be
clean, and one double quote in a name is escaped nevertheless. -/
theorem not_component_unescaped_quotedName :
    Html.IsClean .quotedName {} .quotedName ∧
    (∀ element ∈ Document.quotedName.elements,
      ∀ d ∈ (Registry.quotedName.kindOf element).style element,
        Style.IsCleanValue d.value ∧ Text.IsFreeOf ['&', '"'] d.value) ∧
    (∀ element ∈ Document.quotedName.elements, ∀ markup,
      Registry.quotedName.markup element = .ok markup → markup.IsClean .vue) ∧
    Vue.component .quotedName { escape := true } .quotedName ≠
      Vue.component .quotedName { escape := false } .quotedName := by
  have hvalues : ∀ element ∈ Document.quotedName.elements,
      ∀ d ∈ (Registry.quotedName.kindOf element).style element,
        Style.IsCleanValue d.value ∧ Text.IsFreeOf ['&', '"'] d.value := by decide
  have hhtml : Html.IsClean .quotedName {} .quotedName := {
    name := by decide
    lang := by decide
    fontFamily := by decide
    ids := by decide
    values := fun element helement d hd => (hvalues element helement d hd).1
    markup := by
      simp only [Document.quotedName, List.forall_mem_singleton]
      rintro markup ⟨⟩
      decide }
  refine ⟨hhtml, hvalues, ?_, fun heq => ?_⟩
  · simp only [Document.quotedName, List.forall_mem_singleton]
    rintro markup ⟨⟩
    decide
  · have hfree := (Vue.component_eq_iff_of_elements_eq_singleton {} rfl rfl (by decide)
      fun d hd => (hvalues _ List.mem_cons_self d hd).1).1 heq
    obtain ⟨hname, -⟩ := hfree ⟨"a\"b", "1"⟩ (List.mem_append_right _ List.mem_cons_self)
    exact absurd hname (by decide)

end PageLayout
