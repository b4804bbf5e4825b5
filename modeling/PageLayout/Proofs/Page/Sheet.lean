import PageLayout.Proofs.Kind.Declares
import PageLayout.Proofs.Page.Canvas
import PageLayout.Proofs.Style.Reader

/-!
# Style sheets read back

The rules of a page are one for each element. A reader of style sheets finds them all, in the order
of the elements and nothing else, whatever the identifiers and the values of style properties are:
each rule selects its own element and holds all of its declarations, geometry first.

- `Kind.StylesPlain`: a type keeps to properties without delimiters.
- `readSheet?_rules`: the rules of elements read back.
- `readSheet?_page`: the rules of a page read back, under the identifiers of its fragments.
-/

namespace PageLayout

/-- All properties that a type declares are plain. -/
def Kind.StylesPlain (kind : Kind) : Prop :=
  ∀ element, ∀ d ∈ kind.style element, d.hasPlainProperty

/-- The built-in types and the placeholder keep to plain properties. -/
theorem Registry.stylesPlain_builtin : builtin.All Kind.StylesPlain :=
  declares_builtin (p := fun property => (⟨property, ""⟩ : Declaration).hasPlainProperty) (by decide)

variable {registry : Registry}

/-- The properties of the geometry are plain, too. -/
theorem Registry.All.hasPlainProperty (hplain : registry.All Kind.StylesPlain) {element : Element}
    {d : Declaration} (hd : d ∈ registry.resolve element) : d.hasPlainProperty :=
  hplain.forall_resolve (p := fun property => (⟨property, ""⟩ : Declaration).hasPlainProperty)
    (by decide) element d hd

/-! ## The rules of elements -/

/-- What a reader finds as the rules of elements. -/
def Registry.sheet (registry : Registry) (elements : List Element) : List (String × Style) :=
  elements.map fun element => (element.id, (registry.resolve element).map Declaration.sanitized)

variable {options : Options}

theorem Html.toList_rules (hescape : options.escape = true) (elements : List Element) :
    (Html.rules registry options elements).toList =
      Text.lines (options.indent 8).toList
        (elements.map fun element => Style.ruleChars element.id (registry.resolve element)) := by
  simp [Html.rules, Html.ruleLine, Text.lines, List.flatMap_map, hescape, Style.toList_rule]

theorem Registry.resolve_ne_nil (registry : Registry) (element : Element) :
    registry.resolve element ≠ [] := by
  simp [Registry.resolve, Kind.resolve, Style.geometry]

/-- The rules of elements read back up to the tag after them: one for each element, in their
order, with the identifier of the element and all of its declarations. -/
theorem readSheet?_rules (hplain : registry.All Kind.StylesPlain)
    (hescape : options.escape = true) (elements : List Element) {foot rest : String}
    (hfoot : foot.toList.dropWhile Text.isBlank = rest.toList) (hrest : ['<'] <+: rest.toList) :
    Style.readSheet? (Html.rules registry options elements ++ foot) =
      some (registry.sheet elements, rest) := by
  have hreads : ∀ element ∈ elements, Text.ReadsAs ['<'] Style.readRule?
      (Style.ruleChars element.id (registry.resolve element))
      (element.id, (registry.resolve element).map Declaration.sanitized) :=
    fun element _ => Style.readsAs_ruleChars element.id (registry.resolve_ne_nil element)
      fun d hd => hplain.hasPlainProperty hd
  have hread := Text.readLines?_lines (options.isBlank_of_mem_indent 8) _ _ hreads (hfoot ▸ hrest)
  rw [Style.readSheet?, String.toList_append, Html.toList_rules hescape, hread, hfoot]
  simp [Registry.sheet]

/-! ## The rules of a page -/

/-- A line opens the tag of an element, and the first attribute in that tag reads back as the
identifier of the element. -/
def Registry.Identifies (registry : Registry) (options : Options) (element : Element)
    (line : String) : Prop :=
  ∃ markup opening rest, registry.markup element = .ok markup ∧
    line = options.indent 8 ++ "<" ++ markup.tag ++ opening ∧
    Markup.readAttribute? opening.toList = some (("id", element.id), rest)

/-- The line of a fragment begins with the identifier of its element. -/
theorem Registry.identifies_fragment (hescape : options.escape = true) {element : Element}
    {markup : Markup} (hmarkup : registry.markup element = .ok markup) :
    registry.Identifies options element (options.indent 8 ++
      markup.fragment (Html.escaping options) (Html.lead element) ++ "\n") := by
  have hescaping : Html.escaping options ≠ .none := by simp [Html.escaping, hescape]
  have hname : Markup.IsPlainName (Html.lead element).1 := show Markup.IsPlainName "id" by decide
  -- The leading attribute comes right after the name of the tag.
  obtain ⟨more, hmore⟩ : ∃ more, markup.fragment (Html.escaping options) (Html.lead element) =
      "<" ++ markup.tag ++ (Markup.attributeText (Html.escaping options) (Html.lead element) ++
        more) := by
    rw [Markup.fragment, List.map_cons, String.join_cons]
    exact ⟨_, by simp only [String.append_assoc]; rfl⟩
  refine ⟨markup, Markup.attributeText (Html.escaping options) (Html.lead element) ++ more ++ "\n",
    (more ++ "\n").toList, hmarkup, ?_, ?_⟩
  · simp only [hmore, String.append_assoc]
  · rw [String.append_assoc, String.toList_append]
    exact Markup.readAttribute?_attributeText hescaping hname _

/-- If the types of a registry keep to plain properties and texts are escaped, the rules of every
page read back up to the end of the style block: one for each element, in the order of the
elements, under the identifier that the fragment of the element has, and with all declarations of
the element, their values as they are written. -/
theorem readSheet?_page (hplain : registry.All Kind.StylesPlain) (hescape : options.escape = true)
    {document : Document} {page : String} (hpage : Html.page registry options document = .ok page) :
    ∃ lines rest,
      page = Html.head options document.name ++ Html.baseRules options ++
        Html.rules registry options document.elements ++ Html.middle ++ String.join lines ++
          Html.foot ∧
      Html.middle ++ String.join lines ++ Html.foot = "    " ++ rest ∧
      Style.readSheet? (Html.rules registry options document.elements ++ ("    " ++ rest)) =
        some (registry.sheet document.elements, rest) ∧
      List.Forall₂ (registry.Identifies options) document.elements lines := by
  obtain ⟨canvas, hcanvas, rfl⟩ := Html.page_eq_ok_iff.1 hpage
  obtain ⟨written, hwritten, rfl⟩ := Html.canvas_eq_ok_iff.1 hcanvas
  -- Behind some spaces, what follows the rules begins with the tag that ends the style block.
  obtain ⟨rest, hmiddle, hstop⟩ : ∃ rest, Html.middle = "    " ++ rest ∧ ['<'] <+: rest.toList :=
    ⟨"</style>\n</head>\n<body>\n    <div class=\"canvas\">\n", by decide, by decide⟩
  obtain ⟨tail, htail⟩ := hstop
  refine ⟨written.map fun w => options.indent 8 ++ w.2.fragment (Html.escaping options) w.1 ++ "\n",
    rest ++ Markup.fragmentLines (Html.escaping options) (options.indent 8) written ++ Html.foot,
    ?_, ?_, ?_, ?_⟩
  · rw [Markup.fragmentLines]
  · rw [Markup.fragmentLines, hmiddle]
    simp only [String.append_assoc]
  · refine readSheet?_rules hplain hescape _ ?_ ?_
    · simp [← htail, Text.isBlank]
    · simp [← htail]
  · rw [List.forall₂_map_right_iff]
    refine hwritten.imp fun element w hw => ?_
    rw [hw.2]
    exact Registry.identifies_fragment hescape hw.1

theorem readSheet?_hostile :
    ∃ page, Html.page .builtin {} .hostile = .ok page ∧
      ∃ lines rest,
        page = Html.head {} Document.hostile.name ++ Html.baseRules {} ++
          Html.rules .builtin {} Document.hostile.elements ++ Html.middle ++ String.join lines ++
            Html.foot ∧
        Html.middle ++ String.join lines ++ Html.foot = "    " ++ rest ∧
        Style.readSheet? (Html.rules .builtin {} Document.hostile.elements ++ ("    " ++ rest)) =
          some (Registry.builtin.sheet Document.hostile.elements, rest) ∧
        List.Forall₂ (Registry.builtin.Identifies {}) Document.hostile.elements lines := by
  have hescape : ({} : Options).escape = true := rfl
  exact ⟨_, rfl, readSheet?_page Registry.stylesPlain_builtin hescape rfl⟩

end PageLayout
