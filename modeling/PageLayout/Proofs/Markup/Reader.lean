import PageLayout.Proofs.Markup.Comment
import PageLayout.Proofs.Markup.Entity
import PageLayout.Proofs.Text.Lines

/-!
# Reading markup back

A reader of pages scans markup from left to right: an opening tag with attributes in double
quotes, then text up to the next `<` or a comment up to the first `-->`, then the closing tag,
unless the tag is one that has none. Which tags have none is a parameter, `isVoid`.

The reader takes apart again what `Markup.fragment` puts together, whatever the texts are, as long
as the names of tags and attributes are plain ones.

- `readFragment?_fragment`: one fragment reads back, and nothing after it is touched.
- `readCanvas?_fragmentLines`: so do fragments on lines of their own, indented or not, up to the
  closing tag that comes after them.
-/

namespace PageLayout

/-! ## The reader -/

namespace Markup

/-- A character that a reader takes for part of the name of a tag or an attribute. -/
def isNameChar (c : Char) : Bool :=
  !(Text.isBlank c || c == '"' || c == '\'' || c == '<' || c == '>' || c == '/' || c == '=')

/-- Reads a name. -/
def readName? (cs : List Char) : Option (String × List Char) :=
  if cs.takeWhile isNameChar = [] then none
  else some (String.ofList (cs.takeWhile isNameChar), cs.dropWhile isNameChar)

/-- Reads a space and an attribute. -/
def readAttribute? : List Char → Option ((String × String) × List Char)
  | ' ' :: cs => do
    let (name, cs) ← readName? cs
    let cs ← ['=', '"'].isPrefixOf? cs
    let (value, rest) ← Text.breakAt? ['"'] cs
    return ((name, String.ofList (decode entities value)), rest)
  | _ => none

/-- Reads attributes up to the end of the tag that they stand in. -/
def readAttributes? (cs : List Char) : Option (List (String × String) × List Char) :=
  match cs with
  | '>' :: rest => some ([], rest)
  | cs => do
    let (named, rest) ← readAttribute? cs
    if rest.length < cs.length then
      let (attributes, rest) ← readAttributes? rest
      return (named :: attributes, rest)
    else none
termination_by cs.length

/-- Reads what stands inside a tag: a comment, or a text up to the next tag. -/
def readBody? (cs : List Char) : Option (Body × List Char) :=
  match ['<', '!', '-', '-'].isPrefixOf? cs with
  | some cs => do
    let (content, rest) ← Text.breakAt? ['-', '-', '>'] cs
    return (.comment (String.ofList content), rest)
  | none =>
    some (.text (String.ofList (decode entities (cs.takeWhile (· != '<')))),
      cs.dropWhile (· != '<'))

/-- Reads one fragment. The leading attribute is the first one of the result. -/
def readFragment? (isVoid : String → Bool) : List Char → Option (Markup × List Char)
  | '<' :: cs => do
    let (tag, cs) ← readName? cs
    let (attributes, cs) ← readAttributes? cs
    if isVoid tag then return (⟨tag, attributes, .void⟩, cs)
    let (body, cs) ← readBody? cs
    let rest ← ('<' :: '/' :: (tag.toList ++ ['>'])).isPrefixOf? cs
    return (⟨tag, attributes, body⟩, rest)
  | _ => none

/-- Reads a canvas from behind its opening tag: fragments between blanks, up to the closing tag
of the canvas. -/
def readCanvas? (isVoid : String → Bool) (text : String) : Option (List Markup × String) :=
  (Text.readLines? ['<', '/'] (readFragment? isVoid) (text.toList.dropWhile Text.isBlank)).map
    fun (fragments, rest) => (fragments, String.ofList rest)

/-! ## What it finds -/

/-- A name that a reader reads to its end and not beyond. -/
def IsPlainName (name : String) : Prop :=
  name ≠ "" ∧ name.toList.all isNameChar = true

instance (name : String) : Decidable (IsPlainName name) :=
  inferInstanceAs (Decidable (_ ∧ _ = true))

/-- Markup whose names are plain, and which is without an end just if its tag has none. -/
structure IsPlain (isVoid : String → Bool) (markup : Markup) : Prop where
  tag : IsPlainName markup.tag
  attributes : ∀ named ∈ markup.attributes, IsPlainName named.1
  void : isVoid markup.tag = true ↔ markup.body = .void

/-- What is read inside a tag: texts as they were before escaping, comments as they are written,
with the spaces around them. -/
def Body.asRead : Body → Body
  | .comment content => .comment (" " ++ escapeComment content ++ " ")
  | body => body

/-- What is read of a fragment with a leading attribute. -/
def asRead (lead : String × String) (markup : Markup) : Markup :=
  ⟨markup.tag, lead :: markup.attributes, markup.body.asRead⟩

/-! ## One fragment -/

/-- A plain name is read up to the first character that cannot belong to it. -/
theorem readName?_append {name : String} (hname : IsPlainName name) {d : Char}
    (hd : isNameChar d = false) (rest : List Char) :
    readName? (name.toList ++ d :: rest) = some (name, d :: rest) := by
  have hne : name.toList ≠ [] := by simpa using hname.1
  have hall := List.all_eq_true.1 hname.2
  rw [readName?, Text.takeWhile_append_cons hall hd, Text.dropWhile_append_cons hall hd,
    if_neg hne, String.ofList_toList]

/-- An attribute is read in front of the attributes that come after it. -/
theorem readAttributes?_of_read {named : String × String} {cs rest : List Char}
    (hread : readAttribute? cs = some (named, rest)) (hhead : cs.head? ≠ some '>')
    (hlength : rest.length < cs.length) :
    readAttributes? cs =
      (readAttributes? rest).map fun (attributes, rest) => (named :: attributes, rest) := by
  rw [readAttributes?]
  · simp only [hread, hlength, Option.bind_eq_bind, Option.bind_some, if_true]
    cases readAttributes? rest <;> rfl
  · rintro rest rfl
    exact hhead rfl

/-- A text is read up to the closing tag. -/
theorem readBody?_text {escaped : List Char} (hlt : '<' ∉ escaped) (rest : List Char) :
    readBody? (escaped ++ '<' :: '/' :: rest) =
      some (.text (String.ofList (decode entities escaped)), '<' :: '/' :: rest) := by
  have hall : ∀ c ∈ escaped, (c != '<') = true := by
    intro c hc
    simpa using ne_of_mem_of_not_mem hc hlt
  -- No comment begins here: the text holds no `<`, and after it comes a closing tag.
  have hnone : ['<', '!', '-', '-'].isPrefixOf? (escaped ++ '<' :: '/' :: rest) = none := by
    cases escaped with
    | nil => simp [List.isPrefixOf?]
    | cons c cs =>
      exact Text.isPrefixOf?_cons_of_ne (List.ne_and_not_mem_of_not_mem_cons hlt).1 _ _
  rw [readBody?, hnone]
  simp only
  rw [Text.takeWhile_append_cons hall (by decide), Text.dropWhile_append_cons hall (by decide)]

/-- A comment is read up to where it is closed. -/
theorem readBody?_comment (content : String) (rest : List Char) :
    readBody? ('<' :: '!' :: '-' :: '-' :: ' ' :: ((escapeComment content).toList ++
        ' ' :: '-' :: '-' :: '>' :: rest)) =
      some (.comment (" " ++ escapeComment content ++ " "), rest) := by
  have hcontent : String.ofList (' ' :: ((escapeComment content).toList ++ [' '])) =
      " " ++ escapeComment content ++ " " := by
    simp [← String.toList_inj]
  simp [readBody?, List.isPrefixOf?, breakAt?_comment, hcontent]

section Escaped

variable {escaping : Escaping} (hescaping : escaping ≠ .none)

include hescaping

/-- The text of an attribute, taken apart. -/
theorem toList_attributeText (named : String × String) :
    (attributeText escaping named).toList =
      ' ' :: (named.1.toList ++ '=' :: '"' :: ((escapeAttribute named.2).toList ++ ['"'])) := by
  simp [attributeText, Escaping.attributeValue_eq hescaping]

/-- An attribute reads back. -/
theorem readAttribute?_attributeText {named : String × String} (hname : IsPlainName named.1)
    (rest : List Char) :
    readAttribute? ((attributeText escaping named).toList ++ rest) = some (named, rest) := by
  have hvalue : Text.breakAt? ['"'] ((escapeAttribute named.2).toList ++ '"' :: rest) =
      some ((escapeAttribute named.2).toList, rest) :=
    Text.breakAt?_append (quote_notMem_escapeAttribute named.2) [] rest
  rw [toList_attributeText hescaping]
  simp only [List.cons_append, List.append_assoc, List.nil_append, readAttribute?]
  rw [readName?_append hname (by decide)]
  simp [List.isPrefixOf?, hvalue, decode_escapeAttribute]

/-- Attributes read back up to the end of their tag. -/
theorem readAttributes?_join {attributes : List (String × String)}
    (hnames : ∀ named ∈ attributes, IsPlainName named.1) (rest : List Char) :
    readAttributes? ((String.join (attributes.map (attributeText escaping))).toList ++
      '>' :: rest) = some (attributes, rest) := by
  induction attributes with
  | nil => simp [readAttributes?]
  | cons named attributes ih =>
    obtain ⟨hname, hnames⟩ := List.forall_mem_cons.1 hnames
    rw [List.map_cons, String.join_cons, String.toList_append, List.append_assoc]
    have hread := readAttribute?_attributeText hescaping hname
      ((String.join (attributes.map (attributeText escaping))).toList ++ '>' :: rest)
    rw [readAttributes?_of_read hread (by simp [toList_attributeText hescaping]), ih hnames]
    · rfl
    · simp only [toList_attributeText hescaping, List.length_append, List.length_cons]
      omega

/-- What stands inside a tag reads back up to the closing tag. -/
theorem readBody?_bodyText {markup : Markup} (hbody : markup.body ≠ .void) (rest : List Char) :
    readBody? ((markup.bodyText escaping).toList ++ rest) =
      some (markup.body.asRead, '<' :: '/' :: (markup.tag.toList ++ ['>']) ++ rest) := by
  obtain ⟨tag, attributes, body⟩ := markup
  cases body with
  | void => exact absurd rfl hbody
  | text content =>
    have hread := readBody?_text (Escaping.lt_notMem_text hescaping content)
      (tag.toList ++ '>' :: rest)
    rw [Escaping.decode_text hescaping, String.ofList_toList] at hread
    simpa [bodyText, Body.asRead] using hread
  | comment content =>
    have hread := readBody?_comment content ('<' :: '/' :: (tag.toList ++ '>' :: rest))
    simpa [bodyText, Body.asRead, Escaping.comment_eq hescaping] using hread

/-- A fragment reads back, and nothing after it is touched. -/
theorem readFragment?_fragment {isVoid : String → Bool} {markup : Markup}
    (hplain : markup.IsPlain isVoid) {lead : String × String} (hlead : IsPlainName lead.1)
    (rest : List Char) :
    readFragment? isVoid ((markup.fragment escaping lead).toList ++ rest) =
      some (markup.asRead lead, rest) := by
  have hnames : ∀ named ∈ lead :: markup.attributes, IsPlainName named.1 :=
    List.forall_mem_cons.2 ⟨hlead, hplain.attributes⟩
  -- After the name of the tag comes the space in front of the leading attribute.
  obtain ⟨opening, hopening⟩ : ∃ opening,
      (String.join ((lead :: markup.attributes).map (attributeText escaping))).toList =
        ' ' :: opening := by
    rw [List.map_cons, String.join_cons, String.toList_append, toList_attributeText hescaping]
    exact ⟨_, rfl⟩
  have hattributes := readAttributes?_join hescaping hnames
    ((markup.bodyText escaping).toList ++ rest)
  have htext : (markup.fragment escaping lead).toList ++ rest =
      '<' :: (markup.tag.toList ++ ' ' :: (opening ++
        '>' :: ((markup.bodyText escaping).toList ++ rest))) := by
    rw [fragment, String.toList_append, String.toList_append, String.toList_append,
      String.toList_append, hopening]
    simp
  rw [hopening, List.cons_append] at hattributes
  -- The reader knows from the tag whether anything stands inside it.
  rw [htext, readFragment?, readName?_append hplain.tag (by decide)]
  simp only [hattributes, Option.bind_eq_bind, Option.bind_some]
  by_cases hvoid : isVoid markup.tag = true
  · have hbody : markup.body = .void := hplain.void.1 hvoid
    simp [hvoid, hbody, bodyText, asRead, Body.asRead]
  · have hbody : markup.body ≠ .void := fun h => hvoid (hplain.void.2 h)
    rw [readBody?_bodyText hescaping hbody]
    simp only [hvoid, Option.bind_some]
    rw [← List.cons_append, ← List.cons_append, Text.isPrefixOf?_append]
    rfl

end Escaped

/-! ## Fragments on lines -/

/-- Fragments with their leading attributes, on lines of their own. -/
def fragmentLines (escaping : Escaping) (indent : String)
    (written : List ((String × String) × Markup)) : String :=
  String.join (written.map fun w => indent ++ w.2.fragment escaping w.1 ++ "\n")

theorem toList_fragmentLines (escaping : Escaping) (indent : String)
    (written : List ((String × String) × Markup)) :
    (fragmentLines escaping indent written).toList =
      Text.lines indent.toList (written.map fun w => (w.2.fragment escaping w.1).toList) := by
  simp [fragmentLines, Text.lines, List.flatMap_map]

/-- A fragment is one thing on a line. -/
theorem readsAs_fragment {escaping : Escaping} (hescaping : escaping ≠ .none)
    {isVoid : String → Bool} {lead : String × String} (hlead : IsPlainName lead.1)
    {markup : Markup} (hplain : markup.IsPlain isVoid) :
    Text.ReadsAs ['<', '/'] (readFragment? isVoid) (markup.fragment escaping lead).toList
      (markup.asRead lead) := by
  obtain ⟨hne, hall⟩ := hplain.tag
  obtain ⟨c, cs, htag⟩ := List.exists_cons_of_ne_nil (mt String.toList_eq_nil_iff.1 hne)
  obtain ⟨fragment, hfragment⟩ : ∃ fragment,
      (markup.fragment escaping lead).toList = '<' :: c :: fragment := by
    rw [Markup.fragment]
    simp only [String.toList_append, htag]
    exact ⟨_, rfl⟩
  refine ⟨⟨'<', _, hfragment, by decide⟩, fun rest hstop => ?_,
    readFragment?_fragment hescaping hplain hlead⟩
  rw [hfragment] at hstop
  -- A fragment begins with the name of its tag, and no name begins with a slash.
  have hslash : '/' = c := by simpa using hstop
  have hc := List.all_eq_true.1 hall c (by simp [htag])
  rw [← hslash] at hc
  exact absurd hc (by decide)

/-- Fragments on lines of their own, indented or not, read back up to the closing tag that comes
after them. -/
theorem readCanvas?_fragmentLines {escaping : Escaping} (hescaping : escaping ≠ .none)
    {isVoid : String → Bool} {indent : String} (hindent : ∀ c ∈ indent.toList, Text.isBlank c)
    {written : List ((String × String) × Markup)}
    (hwritten : ∀ w ∈ written, IsPlainName w.1.1 ∧ w.2.IsPlain isVoid) {foot rest : String}
    (hfoot : foot.toList.dropWhile Text.isBlank = rest.toList)
    (hrest : ['<', '/'] <+: rest.toList) :
    readCanvas? isVoid (fragmentLines escaping indent written ++ foot) =
      some (written.map fun w => w.2.asRead w.1, rest) := by
  have hread := Text.readLines?_lines hindent (fun w => (w.2.fragment escaping w.1).toList)
    (fun w => w.2.asRead w.1)
    (fun w hw => readsAs_fragment hescaping (hwritten w hw).1 (hwritten w hw).2) (hfoot ▸ hrest)
  rw [readCanvas?, String.toList_append, toList_fragmentLines, hread, hfoot]
  simp

end Markup

end PageLayout
