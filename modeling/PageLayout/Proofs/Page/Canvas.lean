import PageLayout.Proofs.Kind.Plain
import PageLayout.Proofs.Page.Assembly

/-!
# Canvases read back

The canvas of a page or of a component is all that the elements of a document contribute to its
markup. A reader of markup finds one fragment in it for each element, in their order, and nothing
else, whatever the identifiers, properties and types of the elements are: no text, attribute or
comment can end a fragment early or begin another one.

- `readsBack_fragmentLines`: lines of plain markup read back.
- `readsBack_page_component`: the canvases of both languages do.
-/

namespace PageLayout

variable {isVoid : String → Bool} {registry : Registry}

/-- A text reads back as the fragments of elements: the reader finds one fragment for each of
them, in their order, with the names and attributes of the markup of the element behind a leading
attribute, and with its text or comment. It stops at `rest`. -/
def Registry.ReadsBack (registry : Registry) (isVoid : String → Bool)
    (lead : Element → String × String) (elements : List Element) (text rest : String) : Prop :=
  ∃ fragments, Markup.readCanvas? isVoid text = some (fragments, rest) ∧
    List.Forall₂ (fun element fragment => ∃ markup,
      registry.markup element = .ok markup ∧ fragment = markup.asRead (lead element))
      elements fragments

/-- Lines of fragments read back up to the closing tag after them. -/
theorem readsBack_fragmentLines (hplain : registry.All (Kind.WritesPlain isVoid))
    {escaping : Markup.Escaping} (hescaping : escaping ≠ .none) {indent : String}
    (hindent : ∀ c ∈ indent.toList, Text.isBlank c) {lead : Element → String × String}
    (hlead : ∀ element, Markup.IsPlainName (lead element).1) {elements : List Element}
    {written : List ((String × String) × Markup)}
    (hwritten : registry.Writes lead elements written) {foot rest : String}
    (hfoot : foot.toList.dropWhile Text.isBlank = rest.toList)
    (hrest : ['<', '/'] <+: rest.toList) :
    registry.ReadsBack isVoid lead elements (Markup.fragmentLines escaping indent written ++ foot)
      rest := by
  have hmembers : ∀ w ∈ written, Markup.IsPlainName w.1.1 ∧ w.2.IsPlain isVoid := by
    intro w hw
    obtain ⟨element, -, hmarkup, hw⟩ := exists_mem_of_forall₂_right hwritten hw
    rw [hw]
    exact ⟨hlead element, hplain.kindOf element element w.2 hmarkup⟩
  -- What is read is told from the markup that was written, member by member.
  refine ⟨written.map fun w => w.2.asRead w.1, ?_, ?_⟩
  · exact Markup.readCanvas?_fragmentLines hescaping hindent hmembers hfoot hrest
  · rw [List.forall₂_map_right_iff]
    exact hwritten.imp fun element w hw => ⟨w.2, hw.1, by rw [hw.2]⟩

/-- The beginning of a line is made of spaces. -/
theorem Options.eq_space_of_mem_indent (options : Options) (spaces : Nat) :
    ∀ c ∈ (options.indent spaces).toList, c = ' ' := by
  intro c hc
  rw [Options.indent] at hc
  split at hc
  · rw [String.toList_ofList] at hc
    exact List.eq_of_mem_replicate hc
  · simp at hc

theorem Options.isBlank_of_mem_indent (options : Options) (spaces : Nat) :
    ∀ c ∈ (options.indent spaces).toList, Text.isBlank c := by
  intro c hc
  rw [options.eq_space_of_mem_indent spaces c hc]
  decide

/-- If the types of a registry write plain markup and texts are escaped, the canvas of every page
and of every component reads back, indented or not: one fragment for each element, led by the
identifier of the element in a page and by its style in a component. -/
theorem readsBack_page_component (hplain : registry.All (Kind.WritesPlain isVoid))
    {options : Options} (hescape : options.escape = true) (document : Document) :
    (∀ page, Html.page registry options document = .ok page →
      ∃ canvas, page = Html.head options document.name ++ Html.baseRules options ++
          Html.rules registry options document.elements ++ Html.middle ++ canvas ++ Html.foot ∧
        registry.ReadsBack isVoid (fun element => ("id", element.id)) document.elements
          (canvas ++ Html.foot) "</div>\n</body>\n</html>\n") ∧
    (∀ component, Vue.component registry options document = .ok component →
      ∃ canvas, component = Vue.head ++ canvas ++ Vue.foot ∧
        registry.ReadsBack isVoid
          (fun element => ("style", Style.inlineText true (registry.resolve element)))
          document.elements (canvas ++ Vue.foot)
          "</div>\n</template>\n\n<script setup>\n// Generated Vue component\n</script>\n") := by
  constructor
  · intro page hpage
    obtain ⟨canvas, hcanvas, htext⟩ := Html.page_eq_ok_iff.1 hpage
    obtain ⟨written, hwritten, rfl⟩ := Html.canvas_eq_ok_iff.1 hcanvas
    refine ⟨_, htext, readsBack_fragmentLines hplain ?_ (options.isBlank_of_mem_indent 8) ?_
      hwritten ?_ ?_⟩
    · simp [Html.escaping, hescape]
    · exact fun _ => show Markup.IsPlainName "id" by decide
    · decide
    · decide
  · intro component hcomponent
    obtain ⟨canvas, hcanvas, htext⟩ := Vue.component_eq_ok_iff.1 hcomponent
    obtain ⟨written, hwritten, rfl⟩ := Vue.canvas_eq_ok_iff.1 hcanvas
    -- The style is written for an attribute with its values escaped, as the texts are.
    have hlead : Vue.lead registry options =
        fun element => ("style", Style.inlineText true (registry.resolve element)) := by
      funext element
      rw [Vue.lead, hescape]
    rw [hlead] at hwritten
    refine ⟨_, htext, readsBack_fragmentLines hplain ?_ (options.isBlank_of_mem_indent 4) ?_
      hwritten ?_ ?_⟩
    · simp [Vue.escaping, hescape]
    · exact fun _ => show Markup.IsPlainName "style" by decide
    · decide
    · decide

/-- A document whose texts look like markup, entities, comments, templates and rules. -/
def Document.hostile : Document where
  name := "</title><!--"
  elements :=
    [⟨"\" onload=\"x", "text", 1, 2.5, 3, 4,
        .ofList [("content", .string "</div>&lt;\x7b\x7bx\x7d\x7d"),
          ("color", .string "red;\x7d #a \x7b top: 0\"")]⟩,
      ⟨"7 \x7b\n", "image", 1, 2.5, 3, 4,
        .ofList [("src", .string "\"><"), ("alt", .number (.whole 3))]⟩,
      ⟨"", "-->--!>-", 1, 2.5, 3, 4, .empty⟩]
  settings := .empty

theorem readsBack_hostile :
    (∃ page, Html.page .builtin {} .hostile = .ok page ∧
      ∃ canvas, page = Html.head {} Document.hostile.name ++ Html.baseRules {} ++
          Html.rules .builtin {} Document.hostile.elements ++ Html.middle ++ canvas ++ Html.foot ∧
        Registry.builtin.ReadsBack Markup.isImageTag (fun element => ("id", element.id))
          Document.hostile.elements (canvas ++ Html.foot) "</div>\n</body>\n</html>\n") ∧
    (∃ component, Vue.component .builtin {} .hostile = .ok component ∧
      ∃ canvas, component = Vue.head ++ canvas ++ Vue.foot ∧
        Registry.builtin.ReadsBack Markup.isImageTag
          (fun element => ("style", Style.inlineText true (Registry.builtin.resolve element)))
          Document.hostile.elements (canvas ++ Vue.foot)
          "</div>\n</template>\n\n<script setup>\n// Generated Vue component\n</script>\n") := by
  have hescape : ({} : Options).escape = true := rfl
  obtain ⟨hpage, hcomponent⟩ :=
    readsBack_page_component Registry.writesPlain_builtin hescape Document.hostile
  exact ⟨⟨_, rfl, hpage _ rfl⟩, ⟨_, rfl, hcomponent _ rfl⟩⟩

end PageLayout
