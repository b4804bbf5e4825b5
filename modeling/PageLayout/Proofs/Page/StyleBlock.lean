import PageLayout.Proofs.Kind.Declares
import PageLayout.Proofs.Page.Canvas
import PageLayout.Proofs.Style.Inert

/-!
# The style block ends where the page ends it

The style block of a page holds the rules that every page has and one rule for each element. The
fonts of the page, the identifiers of the elements and the values of their styles may be any texts:
none of them ends the block, opens a comment or closes one. What a reader of tags takes for the
style block, from the first `<style>` to the first `</`, is therefore the block that was written.

- `isInert_styleBlock`: the block holds neither `</` nor a delimiter of comments.
- `breakAt?_head`: the block begins at the first `<style>` of the page.
- `breakAt?_page_styleBlock`: the block ends at the first `</` behind its beginning.
-/

namespace PageLayout

/-- The names of all properties that a type declares are inert. So are plain names, which hold no
slash. -/
def Kind.StylesInert (kind : Kind) : Prop :=
  kind.Declares fun property => Style.IsInert property.toList

/-- The built-in types and the placeholder declare properties with inert names. -/
theorem Registry.stylesInert_builtin : builtin.All Kind.StylesInert :=
  declares_builtin (p := fun property => Style.IsInert property.toList) (by decide)

namespace Html

variable {registry : Registry} {options : Options}

/-- The text of the style block. -/
def styleBlock (registry : Registry) (options : Options) (elements : List Element) : String :=
  baseRules options ++ rules registry options elements

/-! ## The block -/

/-- The rules that every page has are inert, whatever its fonts are. -/
theorem isInert_baseRules (hescape : options.escape = true) :
    Style.IsInert (baseRules options).toList := by
  have hfront : Style.IsInert
      "        * \x7b box-sizing: border-box; margin: 0; padding: 0; \x7d\n".toList :=
    Style.isInert_of_slash_notMem (by decide)
  have hbody : Style.IsSealed "        body \x7b font-family: ".toList :=
    Style.isSealed_of_isNeutral (by decide)
  have hclose : Style.IsSealed "; \x7d\n".toList := Style.isSealed_of_isNeutral (by decide)
  have hcanvas : Style.IsSealed
      "        .canvas \x7b position: relative; min-height: 100vh; \x7d\n".toList :=
    Style.isSealed_of_isNeutral (by decide)
  -- A space stands in front of the fonts, so their first character meets nothing.
  have hfonts := (hfront.append hbody).append_of_getLast? (by decide)
    (Style.isInert_sanitize options.fontFamily)
  unfold baseRules
  rw [if_pos hescape]
  simp only [String.toList_append]
  exact (hfonts.append hclose).append hcanvas

/-- The rules of elements are inert, whatever their identifiers and values are. -/
theorem isSealed_rules (hinert : registry.All Kind.StylesInert) (hescape : options.escape = true)
    (elements : List Element) : Style.IsSealed (rules registry options elements).toList := by
  have hline : ∀ element ∈ elements, Style.IsSealed (ruleLine registry options element).toList := by
    intro element _
    -- The blanks in front of a rule belong to no pair, so what stands before them does not matter.
    have hindent : Style.IsSealed (options.indent 8).toList := by
      refine Style.isSealed_of_isNeutral (List.all_eq_true.2 fun c hc => ?_)
      rw [options.eq_space_of_mem_indent 8 c hc]
      decide
    have hproperties : ∀ d ∈ registry.resolve element, Style.IsInert d.property.toList :=
      hinert.forall_resolve (p := fun property => Style.IsInert property.toList) (by decide) element
    rw [ruleLine, String.toList_append, hescape]
    exact hindent.append (Style.isSealed_rule element.id hproperties)
  simpa [rules, List.flatMap_map] using Style.IsSealed.flatMap hline

/-- Neither `</` nor a delimiter of comments stands in the style block. -/
theorem isInert_styleBlock (hinert : registry.All Kind.StylesInert)
    (hescape : options.escape = true) (elements : List Element) :
    Style.IsInert (styleBlock registry options elements).toList := by
  rw [styleBlock, String.toList_append]
  exact (isInert_baseRules hescape).append (isSealed_rules hinert hescape elements)

/-! ## The page around it -/

/-- The page in front of the tag that begins the style block, with a language and a title as they
are written. -/
def front (lang title : String) : String :=
  "<!DOCTYPE html>\n<html lang=\"" ++ lang ++
    ("\">\n" ++
  "<head>\n" ++
  "    <meta charset=\"UTF-8\">\n" ++
  "    <meta name=\"viewport\" content=\"width=device-width, initial-scale=1.0\">\n" ++
  "    <title>") ++ title ++ "</title>\n    "

theorem head_eq (hescape : options.escape = true) (name : String) :
    head options name =
      front (Markup.escapeAttribute options.lang) (Markup.escapeText name) ++ "<style>\n" := by
  unfold head front
  rw [if_pos hescape, if_pos hescape]
  simp only [String.append_assoc]
  rfl

/-- If neither the language nor the title opens a tag, no tag in front of the style block begins as
its own does. -/
theorem lacks_front {lang title : String} (hlang : '<' ∉ lang.toList)
    (htitle : '<' ∉ title.toList) : Text.Lacks '<' 's' (front lang title).toList := by
  have hdoctype : Text.Lacks '<' 's' "<!DOCTYPE html>\n<html lang=\"".toList :=
    ⟨by decide +kernel, by decide +kernel⟩
  have hmeta : Text.Lacks '<' 's' ("\">\n" ++ "<head>\n" ++ "    <meta charset=\"UTF-8\">\n" ++
      "    <meta name=\"viewport\" content=\"width=device-width, initial-scale=1.0\">\n" ++
      "    <title>").toList :=
    ⟨by decide +kernel, by decide +kernel⟩
  have hclose : Text.Lacks '<' 's' "</title>\n    ".toList :=
    ⟨by decide +kernel, by decide +kernel⟩
  unfold front
  rw [String.toList_append, String.toList_append, String.toList_append, String.toList_append]
  exact (((hdoctype.append (.of_notMem hlang)).append hmeta).append (.of_notMem htitle)).append
    hclose

/-- The style block begins at the first `<style>` of a page: the language and the title in front of
it open no tag. -/
theorem breakAt?_head (hescape : options.escape = true) (name : String) (rest : List Char) :
    ∃ before, Text.breakAt? "<style>".toList ((head options name).toList ++ rest) =
      some (before, '\n' :: rest) := by
  have hlacks := lacks_front (Markup.lt_notMem_escapeAttribute options.lang)
    (Markup.lt_notMem_escapeText name)
  rw [head_eq hescape, String.toList_append, List.append_assoc]
  exact ⟨_, Text.breakAt?_append_of_pair hlacks.absent hlacks.getLast?
    ['t', 'y', 'l', 'e', '>'] ('\n' :: rest)⟩

/-- An inert text ends at the first `</` behind it, if there is only white space in between. -/
theorem breakAt?_endTag {block : List Char} (hblock : Style.IsInert block) (rest : List Char) :
    Text.breakAt? "</".toList (block ++ ("    ".toList ++ ("</".toList ++ rest))) =
      some (block ++ "    ".toList, rest) := by
  have hindent : Style.IsSealed "    ".toList := Style.isSealed_of_isNeutral (by decide)
  have hlast : (block ++ "    ".toList).getLast? ≠ some '<' := by
    rw [List.getLast?_append]
    exact nofun
  -- No `</` is in the block or the blanks, and none begins at their last character.
  rw [← List.append_assoc]
  exact Text.breakAt?_append_of_pair (hblock.append hindent ('<', '/') (by decide)) hlast [] rest

/-- The style block of a page neither ends early nor has a part that is a comment. Neither `</` nor
a delimiter of comments stands in it, so the block that a reader of tags finds, from the first
`<style>` of the page to the first `</` behind it, is the one that was written, up to the
indentation of its end tag. So it is for every document and all fonts, if the text is escaped and
the types name properties as they are named in style sheets. -/
theorem breakAt?_page_styleBlock (hinert : registry.All Kind.StylesInert)
    (hescape : options.escape = true) {document : Document} {text : String}
    (hpage : page registry options document = .ok text) :
    let block := (styleBlock registry options document.elements).toList
    Style.IsInert block ∧
    ∃ before after,
      Text.breakAt? "<style>".toList text.toList =
        some (before, '\n' :: block ++ "    </style>\n".toList ++ after) ∧
      Text.breakAt? "</".toList ('\n' :: block ++ "    </style>\n".toList ++ after) =
        some ('\n' :: block ++ "    ".toList, "style>\n".toList ++ after) := by
  intro block
  have hblock : Style.IsInert block := isInert_styleBlock hinert hescape document.elements
  refine ⟨hblock, ?_⟩
  obtain ⟨canvas, -, rfl⟩ := page_eq_ok_iff.1 hpage
  -- The page, cut where its style block begins and where the end tag of the block ends.
  let after :=
    "</head>\n<body>\n    <div class=\"canvas\">\n".toList ++ canvas.toList ++ foot.toList
  have hmiddle : middle.toList =
      "    </style>\n".toList ++ "</head>\n<body>\n    <div class=\"canvas\">\n".toList := by
    decide +kernel
  have htext : (head options document.name ++ baseRules options ++
      rules registry options document.elements ++ middle ++ canvas ++ foot).toList =
        (head options document.name).toList ++ (block ++ "    </style>\n".toList ++ after) := by
    simp only [block, after, styleBlock, String.toList_append, hmiddle, List.append_assoc]
  obtain ⟨before, hbefore⟩ :=
    breakAt?_head hescape document.name (block ++ "    </style>\n".toList ++ after)
  refine ⟨before, after, ?_, ?_⟩
  · rw [htext]
    exact hbefore
  · have htag : "    </style>\n".toList = "    ".toList ++ ("</".toList ++ "style>\n".toList) := by
      decide
    have hline : Style.IsInert ('\n' :: block) := (hblock.cons (by decide)).inert
    rw [htag, List.append_assoc, List.append_assoc, List.append_assoc]
    exact breakAt?_endTag hline ("style>\n".toList ++ after)

/-- Options whose texts look like tags and comments. -/
def hostileOptions : Options where
  fontFamily := "</style>/*"
  lang := "\"><style>"

theorem breakAt?_hostile_styleBlock :
    ∃ page, Html.page .builtin hostileOptions .hostile = .ok page ∧
      let block := (styleBlock .builtin hostileOptions Document.hostile.elements).toList
      Style.IsInert block ∧
      ∃ before after,
        Text.breakAt? "<style>".toList page.toList =
          some (before, '\n' :: block ++ "    </style>\n".toList ++ after) ∧
        Text.breakAt? "</".toList ('\n' :: block ++ "    </style>\n".toList ++ after) =
          some ('\n' :: block ++ "    ".toList, "style>\n".toList ++ after) :=
  ⟨_, rfl, breakAt?_page_styleBlock Registry.stylesInert_builtin rfl rfl⟩

end Html

end PageLayout
