import PageLayout.Proofs.Style.Name
import PageLayout.Proofs.Style.Sanitize
import PageLayout.Proofs.Text.Lines
import PageLayout.Style.Basic

/-!
# Reading rules back

A reader of style sheets takes a rule apart: behind `#` a name and an opening brace, then the text
up to the first closing brace, which is cut at every semicolon; each piece but the first has one
space in front, and holds a property and a value with the first `: ` between them.

- `readPieces?_splitOn_body`: the declarations of a style read back from where they are cut.
- `readRule?_ruleChars`: so does a rule, and nothing after it is touched.
- `readsAs_ruleChars`: so do rules on lines of their own, indented or not.
-/

namespace PageLayout

/-! ## The reader -/

namespace Style

/-- Reads a property and its value. -/
def readDeclaration? (cs : List Char) : Option Declaration :=
  (Text.breakAt? [':', ' '] cs).map fun (property, value) =>
    ⟨String.ofList property, String.ofList value⟩

/-- Reads declarations that have been cut apart: all but the first have a space in front. -/
def readPieces? : List (List Char) → Option Style
  | [] => some []
  | first :: others => do
    let first ← readDeclaration? first
    let others ← others.mapM fun piece => ([' '].isPrefixOf? piece).bind readDeclaration?
    return first :: others

/-- Reads declarations with a separator between any two. -/
def readDeclarations? (cs : List Char) : Option Style :=
  readPieces? (cs.splitOn ';')

/-- Reads a rule for the element with some identifier. -/
def readRule? : List Char → Option ((String × Style) × List Char)
  | '#' :: cs => do
    let (id, cs) := readName cs
    let cs ← [' ', '\x7b', ' '].isPrefixOf? cs
    let (block, rest) ← Text.breakAt? ['\x7d'] cs
    if block.getLast? = some ' ' then
      let style ← readDeclarations? block.dropLast
      return ((String.ofList id, style), rest)
    else none
  | _ => none

/-- Reads rules between blanks, up to a tag. -/
def readSheet? (text : String) : Option (List (String × Style) × String) :=
  (Text.readLines? ['<'] readRule? (text.toList.dropWhile Text.isBlank)).map
    fun (rules, rest) => (rules, String.ofList rest)

end Style

/-! ## What it finds -/

namespace Declaration

/-- Whether a property holds no delimiter of rules and declarations. -/
def hasPlainProperty (declaration : Declaration) : Bool :=
  declaration.property.toList.all fun c => c != ':' && c != ';' && c != '\x7b' && c != '\x7d'

theorem hasPlainProperty_iff {declaration : Declaration} : declaration.hasPlainProperty ↔
    ∀ c ∈ declaration.property.toList, c ≠ ':' ∧ c ≠ ';' ∧ c ≠ '\x7b' ∧ c ≠ '\x7d' := by
  simp [hasPlainProperty, and_assoc]

/-- A plain property holds none of the delimiters. -/
theorem notMem_property {declaration : Declaration} (hplain : declaration.hasPlainProperty)
    {c : Char} (hc : c ∈ [':', ';', '\x7b', '\x7d']) : c ∉ declaration.property.toList := by
  intro hmem
  have hne := hasPlainProperty_iff.1 hplain c hmem
  simp [hne] at hc

/-- The declaration with its value as it is written. -/
def sanitized (declaration : Declaration) : Declaration :=
  ⟨declaration.property, Style.sanitize declaration.value⟩

end Declaration

namespace Style

/-! ## Declarations -/

variable {style : Style}

/-- A declaration reads back. -/
theorem readDeclaration?_text {declaration : Declaration}
    (hcolon : ':' ∉ declaration.property.toList) :
    readDeclaration? (declaration.text true).toList = some declaration.sanitized := by
  have hbreak := Text.breakAt?_append hcolon [' '] (sanitize declaration.value).toList
  rw [readDeclaration?, toList_text]
  simp only [List.cons_append, List.nil_append] at hbreak
  rw [hbreak]
  simp [Declaration.sanitized]

/-- No delimiter stands in a declaration if none stands in its property. -/
theorem notMem_text {declaration : Declaration} {d : Char} (hd : isDelimiter d)
    (hproperty : d ∉ declaration.property.toList) : d ∉ (declaration.text true).toList := by
  have hmark : d ≠ ':' ∧ d ≠ ' ' := by
    constructor
    all_goals
      rintro rfl
      exact absurd hd (by decide)
  rw [toList_text]
  simp only [List.mem_append, List.mem_cons, not_or]
  exact ⟨hproperty, hmark.1, hmark.2, notMem_sanitize hd declaration.value⟩

/-- The text of a style is cut into its declarations. -/
theorem splitOn_body {declaration : Declaration} {others : Style}
    (hsemicolon : ∀ d ∈ declaration :: others, ';' ∉ d.property.toList) :
    (body true (declaration :: others)).toList.splitOn ';' =
      (declaration.text true).toList :: others.map fun d => ' ' :: (d.text true).toList := by
  obtain ⟨hfirst, hothers⟩ := List.forall_mem_cons.1 hsemicolon
  have hpieces : ∀ piece ∈ others.map fun d => (d.text true).toList, ';' ∉ piece := by
    intro piece hpiece
    obtain ⟨d, hd, rfl⟩ := List.mem_map.1 hpiece
    exact notMem_text (by decide) (hothers d hd)
  have hsplit := Text.splitOn_intercalate_pair ';' ' ' (by decide)
    (notMem_text (by decide) hfirst) hpieces
  rw [body, String.toList_intercalate, List.map_map, List.map_cons]
  rw [List.map_map] at hsplit
  exact hsplit

/-- Declarations with a space in front of each read back. -/
theorem mapM_readDeclaration? (hcolon : ∀ d ∈ style, ':' ∉ d.property.toList) :
    (style.map fun d => ' ' :: (d.text true).toList).mapM
      (fun piece => ([' '].isPrefixOf? piece).bind readDeclaration?) =
      some (style.map Declaration.sanitized) := by
  induction style with
  | nil => rfl
  | cons d style ih =>
    obtain ⟨hd, hcolon⟩ := List.forall_mem_cons.1 hcolon
    have hread : ([' '].isPrefixOf? (' ' :: (d.text true).toList)).bind readDeclaration? =
        some d.sanitized := readDeclaration?_text hd
    rw [List.map_cons, List.mapM_cons, hread, ih hcolon]
    rfl

/-- The declarations of a style read back from where it is cut. -/
theorem readPieces?_splitOn_body (hne : style ≠ [])
    (hcolon : ∀ d ∈ style, ':' ∉ d.property.toList)
    (hsemicolon : ∀ d ∈ style, ';' ∉ d.property.toList) :
    readPieces? ((body true style).toList.splitOn ';') =
      some (style.map Declaration.sanitized) := by
  obtain ⟨declaration, others, rfl⟩ := List.exists_cons_of_ne_nil hne
  obtain ⟨hfirst, hothers⟩ := List.forall_mem_cons.1 hcolon
  -- Only the first piece has no space in front.
  rw [splitOn_body hsemicolon, readPieces?, readDeclaration?_text hfirst,
    mapM_readDeclaration? hothers]
  rfl

/-- The declarations of a style with plain properties read back. -/
theorem readDeclarations?_body (hne : style ≠ []) (hplain : ∀ d ∈ style, d.hasPlainProperty) :
    readDeclarations? (body true style).toList = some (style.map Declaration.sanitized) := by
  have hcolon : ∀ d ∈ style, ':' ∉ d.property.toList :=
    fun d hd => Declaration.notMem_property (hplain d hd) (by decide)
  have hsemicolon : ∀ d ∈ style, ';' ∉ d.property.toList :=
    fun d hd => Declaration.notMem_property (hplain d hd) (by decide)
  exact readPieces?_splitOn_body hne hcolon hsemicolon

/-- No closing brace stands among the declarations of a style. -/
theorem brace_notMem_body (hplain : ∀ d ∈ style, d.hasPlainProperty) :
    '\x7d' ∉ (body true style).toList := by
  rw [body, String.toList_intercalate]
  intro hmem
  obtain hseparator | ⟨piece, hpiece, hbrace⟩ := Text.mem_intercalate hmem
  · exact absurd hseparator (by decide)
  · rw [List.map_map] at hpiece
    obtain ⟨d, hd, rfl⟩ := List.mem_map.1 hpiece
    exact notMem_text (by decide) (Declaration.notMem_property (hplain d hd) (by decide)) hbrace

/-! ## Rules -/

/-- The text of a rule without its line break. -/
def ruleChars (id : String) (style : Style) : List Char :=
  '#' :: (identifierChars id.toList ++
    ' ' :: '\x7b' :: ' ' :: ((body true style).toList ++ [' ', '\x7d']))

theorem toList_rule (id : String) (style : Style) :
    (rule true id style).toList = ruleChars id style ++ ['\n'] := by
  simp [rule, selector, toList_identifier, ruleChars]

/-- A rule reads back, and nothing after it is touched. -/
theorem readRule?_ruleChars (id : String) (hne : style ≠ [])
    (hplain : ∀ d ∈ style, d.hasPlainProperty) (rest : List Char) :
    readRule? (ruleChars id style ++ rest) =
      some ((id, style.map Declaration.sanitized), rest) := by
  have hbrace : '\x7d' ∉ (body true style).toList ++ [' '] := by
    simpa using brace_notMem_body hplain
  have hblock := Text.breakAt?_append hbrace [] rest
  simp only [List.append_assoc, List.cons_append, List.nil_append] at hblock
  rw [ruleChars]
  simp only [List.cons_append, List.append_assoc, List.nil_append, readRule?]
  -- The name ends at the space behind it, and the block at the first closing brace.
  rw [readName_identifierChars (by decide) (by decide)]
  simp [List.isPrefixOf?, hblock, readDeclarations?_body hne hplain]

/-- A rule is one thing on a line. -/
theorem readsAs_ruleChars (id : String) (hne : style ≠ [])
    (hplain : ∀ d ∈ style, d.hasPlainProperty) :
    Text.ReadsAs ['<'] readRule? (ruleChars id style) (id, style.map Declaration.sanitized) where
  head := ⟨'#', _, rfl, by decide⟩
  not_stop := by
    intro rest hstop
    simp [ruleChars] at hstop
  read := readRule?_ruleChars id hne hplain

end Style

end PageLayout
