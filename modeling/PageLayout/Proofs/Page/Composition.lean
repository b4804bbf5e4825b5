import PageLayout.Page.Html
import PageLayout.Page.Vue
import PageLayout.Proofs.Results

/-!
# Pages are put together element by element

A page is a frame around the lines of its elements: a rule for each of them, if the language has
rules, and a fragment for each of them. The frame does not depend on the elements, and a line
depends on one element only. Whether lines are indented is decided for the page as a whole, and the
indentation stands in front of a line, also if there are line breaks inside.

- `Assembly`: what a language decides about its pages.
- `Assembly.Composes`: what it means that pages are put together in this way.
- `Assembly.composes_write`: it follows from how the lines are written.
- `composes_page_component`: it holds of HTML pages and of Vue components.
-/

namespace PageLayout

/-- What a language decides about its pages. -/
structure Assembly where
  /-- The page up to the rules. -/
  front : String
  /-- The page between the rules and the fragments. -/
  middle : String
  /-- The page behind the fragments. -/
  back : String
  /-- What stands in front of a rule if lines are indented. -/
  ruleIndent : String
  /-- The rule of an element with the end of its line; empty if the language has no rules. -/
  rule : Element → String
  /-- What stands in front of a fragment if lines are indented. -/
  fragmentIndent : String
  /-- The fragment of an element with the end of its line. -/
  fragment : Element → Except MalformedElement String

namespace Assembly

/-- A text in its place, indented or not. -/
def place (indent : String) (indented : Bool) (text : String) : String :=
  (if indented then indent else "") ++ text

/-- Texts in their places, one after the other. -/
def lines (indent : String) (indented : Bool) (texts : List String) : String :=
  String.join (texts.map (place indent indented))

/-- The rules of elements. -/
def rules (a : Assembly) (indented : Bool) (elements : List Element) : String :=
  lines a.ruleIndent indented (elements.map a.rule)

/-- Fragments that have been written. -/
def canvas (a : Assembly) (indented : Bool) (fragments : List String) : String :=
  lines a.fragmentIndent indented fragments

/-- The page around a text of rules and a text of fragments. -/
def around (a : Assembly) (rules canvas : String) : String :=
  a.front ++ rules ++ a.middle ++ canvas ++ a.back

/-- The page of elements. -/
def write (a : Assembly) (indented : Bool) (elements : List Element) :
    Except MalformedElement String :=
  (elements.mapM a.fragment).map fun fragments =>
    a.around (a.rules indented elements) (a.canvas indented fragments)

/-- Pages of elements, indented or not, are put together from a frame and from what is written for
each element. -/
structure Composes (a : Assembly)
    (page : Bool → List Element → Except MalformedElement String) : Prop where
  /-- Elements are accepted if those up to some place are and those behind it are. -/
  accepts_append : ∀ indented xs ys, (∃ text, page indented (xs ++ ys) = .ok text) ↔
    (∃ text, page indented xs = .ok text) ∧ ∃ text, page indented ys = .ok text
  /-- Otherwise they are refused as the former are or, if these are accepted, as the latter are. -/
  refuses_append : ∀ indented xs ys error, page indented (xs ++ ys) = .error error ↔
    page indented xs = .error error ∨
      (∃ text, page indented xs = .ok text) ∧ page indented ys = .error error
  /-- The rules follow each other, and so do the fragments. The frame is the same. -/
  sections_append : ∀ indented xs ys text, page indented (xs ++ ys) = .ok text →
    ∃ canvas canvas', page indented xs = .ok (a.around (a.rules indented xs) canvas) ∧
      page indented ys = .ok (a.around (a.rules indented ys) canvas') ∧
      text = a.around (a.rules indented xs ++ a.rules indented ys) (canvas ++ canvas')
  /-- If one element is replaced by another, so are its rule and its fragment, and nothing else. -/
  replace : ∀ indented xs x x' ys text text', page indented (xs ++ x :: ys) = .ok text →
    page indented (xs ++ x' :: ys) = .ok text' →
    ∃ before between after fragment fragment',
      a.fragment x = .ok fragment ∧ a.fragment x' = .ok fragment' ∧
      text = before ++ a.rule x ++ between ++ fragment ++ after ∧
      text' = before ++ a.rule x' ++ between ++ fragment' ++ after
  /-- Elements are refused alike with indentation and without, or else the two pages differ in what
  stands in front of each rule and each fragment only. -/
  indentation : ∀ elements,
    (∃ error, ∀ indented, page indented elements = .error error) ∨
    ∃ fragments, List.Forall₂ (fun element fragment => a.fragment element = .ok fragment)
        elements fragments ∧
      page true elements = .ok (a.around
        (String.join (elements.map fun element => a.ruleIndent ++ a.rule element))
        (String.join (fragments.map fun fragment => a.fragmentIndent ++ fragment))) ∧
      page false elements = .ok (a.around
        (String.join (elements.map a.rule)) (String.join fragments))

variable {a : Assembly} {indented : Bool} {xs ys : List Element}

/-! ## Lines -/

theorem lines_append (indent : String) (texts texts' : List String) :
    lines indent indented (texts ++ texts') =
      lines indent indented texts ++ lines indent indented texts' := by
  unfold lines
  rw [List.map_append, String.join_append]

theorem lines_cons (indent text : String) (texts : List String) :
    lines indent indented (text :: texts) =
      (if indented then indent else "") ++ text ++ lines indent indented texts := by
  unfold lines
  rw [List.map_cons, String.join_cons, place]

/-- A line of a canvas is a fragment in its place. -/
theorem line_eq_map_place (registry : Registry) (options : Options) (spaces : Nat)
    (escaping : Markup.Escaping) (lead : String × String) (element : Element) :
    (do
      let markup ← registry.markup element
      return options.indent spaces ++ markup.fragment escaping lead ++ "\n") =
        ((registry.markup element).map fun markup =>
          markup.fragment escaping lead ++ "\n").map
            (place (String.ofList (List.replicate spaces ' ')) options.prettyPrint) := by
  rcases registry.markup element with error | markup
  · rfl
  · show Except.ok _ = Except.ok (options.indent spaces ++ _)
    rw [String.append_assoc]

/-- Fragments that are indented while they are written make the same canvas. -/
theorem map_join_eq {line : Element → Except MalformedElement String}
    (hline : ∀ element, line element = (a.fragment element).map (place a.fragmentIndent indented))
    {elements : List Element} :
    (elements.mapM line).map String.join =
      (elements.mapM a.fragment).map (a.canvas indented) := by
  rw [funext hline, mapM_map]
  rcases elements.mapM a.fragment with error | fragments
  · rfl
  · rfl

/-- Without indentation, lines are just put together. -/
theorem lines_false (indent : String) (texts : List String) :
    lines indent false texts = String.join texts := by
  have hplace : place indent false = id := by
    funext text
    exact String.empty_append
  rw [lines, hplace, List.map_id]

theorem rules_append (a : Assembly) (xs ys : List Element) :
    a.rules indented (xs ++ ys) = a.rules indented xs ++ a.rules indented ys := by
  unfold rules
  rw [List.map_append, lines_append]

/-! ## Elements behind elements -/

/-- The page of two lists of elements is written around the lines of both. -/
theorem write_append_eq_ok_iff {text : String} :
    a.write indented (xs ++ ys) = .ok text ↔
      ∃ fragments fragments', xs.mapM a.fragment = .ok fragments ∧
        ys.mapM a.fragment = .ok fragments' ∧
        text = a.around (a.rules indented xs ++ a.rules indented ys)
          (a.canvas indented fragments ++ a.canvas indented fragments') := by
  rw [write, map_eq_ok_iff]
  constructor
  · rintro ⟨_, hfragments, rfl⟩
    obtain ⟨fragments, fragments', hxs, hys, rfl⟩ := mapM_append_eq_ok_iff.1 hfragments
    refine ⟨fragments, fragments', hxs, hys, ?_⟩
    rw [rules_append, canvas, lines_append]
    rfl
  · rintro ⟨fragments, fragments', hxs, hys, rfl⟩
    refine ⟨fragments ++ fragments', mapM_append_eq_ok_iff.2 ⟨_, _, hxs, hys, rfl⟩, ?_⟩
    rw [rules_append, canvas, lines_append]
    rfl

theorem exists_write_append_iff :
    (∃ text, a.write indented (xs ++ ys) = .ok text) ↔
      (∃ text, a.write indented xs = .ok text) ∧ ∃ text, a.write indented ys = .ok text := by
  unfold write
  simp only [exists_map_eq_ok_iff, exists_mapM_eq_ok_iff, List.forall_mem_append]

theorem write_append_eq_error_iff {error : MalformedElement} :
    a.write indented (xs ++ ys) = .error error ↔
      a.write indented xs = .error error ∨
        (∃ text, a.write indented xs = .ok text) ∧ a.write indented ys = .error error := by
  unfold write
  simp only [map_eq_error_iff, exists_map_eq_ok_iff, mapM_append_eq_error_iff]

/-! ## One element among others -/

/-- The text in front of the rule of an element that comes behind others. -/
def beforeRule (a : Assembly) (indented : Bool) (xs : List Element) : String :=
  a.front ++ a.rules indented xs ++ (if indented then a.ruleIndent else "")

/-- The text between the rule of an element and its fragment, if the fragments of the elements in
front of it are written already. -/
def betweenLines (a : Assembly) (indented : Bool) (fragments : List String) (ys : List Element) :
    String :=
  a.rules indented ys ++ a.middle ++ a.canvas indented fragments ++
    (if indented then a.fragmentIndent else "")

/-- The text behind the fragment of an element. -/
def afterFragment (a : Assembly) (indented : Bool) (fragments : List String) : String :=
  a.canvas indented fragments ++ a.back

/-- A page holds the rule and the fragment of each of its elements in a text that depends on the
other elements only. -/
theorem exists_of_write_eq_ok {x : Element} {text : String}
    (h : a.write indented (xs ++ x :: ys) = .ok text) :
    ∃ fragments fragment fragments', xs.mapM a.fragment = .ok fragments ∧
      a.fragment x = .ok fragment ∧ ys.mapM a.fragment = .ok fragments' ∧
      text = a.beforeRule indented xs ++ a.rule x ++ a.betweenLines indented fragments ys ++
        fragment ++ a.afterFragment indented fragments' := by
  obtain ⟨fragments, rest, hxs, hrest, rfl⟩ := write_append_eq_ok_iff.1 h
  rw [List.mapM_cons] at hrest
  obtain ⟨fragment, hx, hrest⟩ := bind_eq_ok_iff.1 hrest
  obtain ⟨fragments', hys, hrest⟩ := bind_eq_ok_iff.1 hrest
  obtain rfl := Except.ok.inj hrest
  refine ⟨fragments, fragment, fragments', hxs, hx, hys, ?_⟩
  have hrules : a.rules indented (x :: ys) =
      (if indented then a.ruleIndent else "") ++ a.rule x ++ a.rules indented ys :=
    lines_cons a.ruleIndent (a.rule x) (ys.map a.rule)
  have hcanvas : a.canvas indented (fragment :: fragments') =
      (if indented then a.fragmentIndent else "") ++ fragment ++ a.canvas indented fragments' :=
    lines_cons a.fragmentIndent fragment fragments'
  rw [hrules, hcanvas]
  simp only [around, beforeRule, betweenLines, afterFragment, String.append_assoc]

/-! ## The same page -/

/-- Two languages decide alike about the pages of some elements. -/
structure AgreesOn (a b : Assembly) (elements : List Element) : Prop where
  front : a.front = b.front
  middle : a.middle = b.middle
  back : a.back = b.back
  ruleIndent : a.ruleIndent = b.ruleIndent
  fragmentIndent : a.fragmentIndent = b.fragmentIndent
  rule : ∀ element ∈ elements, a.rule element = b.rule element
  fragment : ∀ element ∈ elements, a.fragment element = b.fragment element

/-- The pages of these elements are the same then, or are refused alike. -/
theorem AgreesOn.write_eq {b : Assembly} (h : a.AgreesOn b xs) (indented : Bool) :
    a.write indented xs = b.write indented xs := by
  have hrules : a.rules indented xs = b.rules indented xs := by
    rw [rules, rules, h.ruleIndent, List.map_congr_left h.rule]
  have hcanvas : a.canvas indented = b.canvas indented := by
    unfold canvas
    rw [h.fragmentIndent]
  unfold write around
  rw [mapM_congr h.fragment, hrules, hcanvas, h.front, h.middle, h.back]

/-! ## All of this together -/

/-- What an assembly writes is put together element by element. -/
theorem composes_write (a : Assembly) : a.Composes a.write where
  accepts_append _ _ _ := exists_write_append_iff
  refuses_append _ _ _ _ := write_append_eq_error_iff
  sections_append indented xs ys text h := by
    obtain ⟨fragments, fragments', hxs, hys, rfl⟩ := write_append_eq_ok_iff.1 h
    exact ⟨a.canvas indented fragments, a.canvas indented fragments',
      map_eq_ok_iff.2 ⟨fragments, hxs, rfl⟩, map_eq_ok_iff.2 ⟨fragments', hys, rfl⟩, rfl⟩
  replace indented xs x x' ys text text' h h' := by
    obtain ⟨fragments, fragment, fragments', hxs, hx, hys, rfl⟩ := exists_of_write_eq_ok h
    obtain ⟨others, fragment', others', hxs', hx', hys', rfl⟩ := exists_of_write_eq_ok h'
    -- The elements around the one that is replaced have the same fragments on both pages.
    obtain rfl : fragments = others := Except.ok.inj (hxs.symm.trans hxs')
    obtain rfl : fragments' = others' := Except.ok.inj (hys.symm.trans hys')
    exact ⟨_, _, _, fragment, fragment', hx, hx', rfl, rfl⟩
  indentation elements := by
    rcases hresult : elements.mapM a.fragment with error | fragments
    · left
      refine ⟨error, fun indented => ?_⟩
      rw [write, hresult]
      rfl
    · right
      refine ⟨fragments, mapM_eq_ok_iff.1 hresult, ?_, ?_⟩
      · rw [write, hresult, rules, lines, List.map_map]
        rfl
      · rw [write, hresult, rules, lines_false]
        show Except.ok (a.around _ (lines _ _ _)) = _
        rw [lines_false]

end Assembly

/-! ## HTML pages and Vue components -/

variable (registry : Registry) (options : Options)

namespace Html

/-- How HTML pages are put together. Lines are indented by eight spaces. -/
def assembly (name : String) : Assembly where
  front := head options name ++ baseRules options
  middle := middle
  back := foot
  ruleIndent := "        "
  rule element := Style.rule options.escape element.id (registry.resolve element)
  fragmentIndent := "        "
  fragment element := (registry.markup element).map fun markup =>
    markup.fragment (escaping options) ("id", element.id) ++ "\n"

theorem rules_eq (name : String) (elements : List Element) :
    rules registry options elements =
      (assembly registry options name).rules options.prettyPrint elements := by
  rw [rules, Assembly.rules, Assembly.lines, List.map_map]
  rfl

theorem fragmentLine_eq (name : String) (element : Element) :
    fragmentLine registry options element =
      ((assembly registry options name).fragment element).map
        (Assembly.place "        " options.prettyPrint) :=
  Assembly.line_eq_map_place registry options 8 (escaping options) _ element

/-- A page is written as its assembly says. -/
theorem page_eq_write (document : Document) :
    page registry options document =
      (assembly registry options document.name).write options.prettyPrint document.elements := by
  rw [page, canvas, Assembly.map_join_eq (fragmentLine_eq registry options document.name),
    rules_eq registry options document.name, Assembly.write]
  rcases document.elements.mapM (assembly registry options document.name).fragment
    with error | fragments
  · rfl
  · rfl

end Html

namespace Vue

/-- How Vue components are put together. There are no rules; fragments are indented by four
spaces. -/
def assembly : Assembly where
  front := head
  middle := ""
  back := foot
  ruleIndent := ""
  rule _ := ""
  fragmentIndent := "    "
  fragment element := (registry.markup element).map fun markup =>
    markup.fragment (escaping options)
      ("style", Style.inlineText options.escape (registry.resolve element)) ++ "\n"

theorem rules_assembly (elements : List Element) :
    (assembly registry options).rules options.prettyPrint elements = "" := by
  unfold Assembly.rules
  induction elements with
  | nil => rfl
  | cons element elements ih =>
    rw [List.map_cons, Assembly.lines_cons, ih]
    simp [assembly]

theorem fragmentLine_eq (element : Element) :
    fragmentLine registry options element =
      ((assembly registry options).fragment element).map
        (Assembly.place "    " options.prettyPrint) :=
  Assembly.line_eq_map_place registry options 4 (escaping options) _ element

/-- A component is written as its assembly says. -/
theorem component_eq_write (document : Document) :
    component registry options document =
      (assembly registry options).write options.prettyPrint document.elements := by
  rw [component, canvas, Assembly.map_join_eq (fragmentLine_eq registry options), Assembly.write]
  rcases document.elements.mapM (assembly registry options).fragment with error | fragments
  · rfl
  · show Except.ok (head ++ _ ++ foot) =
      Except.ok (head ++ (assembly registry options).rules _ _ ++ "" ++ _ ++ foot)
    rw [rules_assembly, String.append_empty, String.append_empty]

end Vue

/-- HTML pages and Vue components are put together element by element. -/
theorem composes_page_component (document : Document) :
    (Html.assembly registry options document.name).Composes (fun indented elements =>
      Html.page registry { options with prettyPrint := indented }
        { document with elements := elements }) ∧
    (Vue.assembly registry options).Composes (fun indented elements =>
      Vue.component registry { options with prettyPrint := indented }
        { document with elements := elements }) := by
  -- Neither assembly depends on whether lines are indented.
  have hpage : (fun indented elements => Html.page registry { options with prettyPrint := indented }
      { document with elements := elements }) =
        (Html.assembly registry options document.name).write := by
    funext indented elements
    exact Html.page_eq_write registry _ _
  have hcomponent : (fun indented elements => Vue.component registry
      { options with prettyPrint := indented } { document with elements := elements }) =
        (Vue.assembly registry options).write := by
    funext indented elements
    exact Vue.component_eq_write registry _ _
  rw [hpage, hcomponent]
  exact ⟨Assembly.composes_write _, Assembly.composes_write _⟩

end PageLayout
