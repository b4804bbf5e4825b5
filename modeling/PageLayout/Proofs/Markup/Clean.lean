import PageLayout.Proofs.Markup.Comment
import PageLayout.Proofs.Markup.Entity
import PageLayout.Proofs.Text.Replaced

/-!
# Markup that needs no escaping

Every way of escaping leaves some texts as they are: those without the characters that it replaces,
and among comments those without adjacent dashes. All other texts are changed. Markup that holds
only such texts is written alike whether it is escaped or not.

- `escapeText_eq_self_iff`, `escapeAttribute_eq_self_iff`, `escapeTemplate_eq_self_iff` and
  `escapeComment_eq_self_iff`: those of each way of escaping.
- `Markup.IsClean` and `fragment_eq_of_isClean`: markup of such texts.
-/

namespace PageLayout

/-- None of some characters is in a text. -/
def Text.IsFreeOf (marks : List Char) (text : String) : Prop :=
  ∀ c ∈ text.toList, c ∉ marks

instance (marks : List Char) (text : String) : Decidable (Text.IsFreeOf marks text) :=
  List.decidableBAll (· ∉ marks) text.toList

namespace Text

/-- A replacement that is only made of certain characters leaves a text without them as it is. -/
theorem ofList_flatMap_eq_self_iff {f : Char → List Char} {marks : List Char} (hf : ∀ c, f c ≠ [])
    (hmarks : ∀ c, f c = [c] ↔ c ∉ marks) {text : String} :
    String.ofList (text.toList.flatMap f) = text ↔ IsFreeOf marks text := by
  rw [← String.toList_inj, String.toList_ofList, flatMap_eq_self_iff hf]
  exact forall₂_congr fun c _ => hmarks c

/-! ## Texts without certain characters -/

variable {marks : List Char}

/-- A text of characters of a class holds none of the characters outside of it. -/
theorem isFreeOf_of_class {p : Char → Bool} (hmarks : marks.any p = false) {text : String}
    (h : ∀ c ∈ text.toList, p c) : IsFreeOf marks text := by
  intro c hc hmark
  exact List.any_eq_false.1 hmarks c hmark (h c hc)

theorem IsFreeOf.of_subset {text text' : String} (h : IsFreeOf marks text)
    (hsubset : text'.toList ⊆ text.toList) : IsFreeOf marks text' :=
  fun c hc => h c (hsubset hc)

theorem isFreeOf_append_iff {text text' : String} :
    IsFreeOf marks (text ++ text') ↔ IsFreeOf marks text ∧ IsFreeOf marks text' := by
  simp only [IsFreeOf, String.toList_append, List.forall_mem_append]

theorem IsFreeOf.intercalate_iff {separator : String} (hseparator : IsFreeOf marks separator)
    {texts : List String} :
    IsFreeOf marks (separator.intercalate texts) ↔ ∀ text ∈ texts, IsFreeOf marks text := by
  induction texts with
  | nil => simp [IsFreeOf]
  | cons text texts ih =>
    rcases texts with _ | ⟨next, texts⟩
    · simp
    · rw [String.intercalate_cons_cons, isFreeOf_append_iff, isFreeOf_append_iff, ih,
        List.forall_mem_cons (p := fun text => IsFreeOf marks text)]
      simp [hseparator]

end Text

namespace Markup

/-! ## Running text and attribute values -/

/-- The characters that are replaced in running text. -/
def textMarks : List Char :=
  ['&', '<', '>']

/-- The characters that are replaced in attribute values. -/
def attributeMarks : List Char :=
  ['&', '<', '>', '"']

/-- The characters that are replaced in the running text of templates. -/
def templateMarks : List Char :=
  ['&', '<', '>', '\x7b', '\x7d']

theorem encodeChar_ne_nil (table : List Entity) (c : Char) : encodeChar table c ≠ [] := by
  obtain ⟨-, hwrite⟩ | ⟨entity, -, -, hwrite⟩ := encodeChar_cases table c
  · rw [hwrite]
    exact List.cons_ne_nil _ _
  · rw [hwrite]
    exact List.cons_ne_nil _ _

/-- A character is left as it is if it has no entity, since an ampersand is not all of an entity. -/
theorem encodeChar_eq_singleton_iff {table : List Entity}
    (hnames : ∀ entity ∈ table, entity.name ≠ []) (c : Char) :
    encodeChar table c = [c] ↔ c ∉ charsOf table := by
  obtain ⟨hc, hwrite⟩ | ⟨entity, hentity, rfl, hwrite⟩ := encodeChar_cases table c
  · simp [hwrite, hc]
  · have hmem : entity.char ∈ charsOf table := List.mem_map_of_mem hentity
    simp [hwrite, hmem, hnames entity hentity]

variable {text : String}

/-- Running text is left as it is if it holds no ampersands and no angle brackets. -/
theorem escapeText_eq_self_iff : escapeText text = text ↔ Text.IsFreeOf textMarks text := by
  rw [escapeText, replaceChars_eq, textChar_eq]
  exact Text.ofList_flatMap_eq_self_iff (encodeChar_ne_nil _)
    (encodeChar_eq_singleton_iff (by decide))

/-- The value of an attribute must not hold double quotes either. -/
theorem escapeAttribute_eq_self_iff :
    escapeAttribute text = text ↔ Text.IsFreeOf attributeMarks text := by
  rw [escapeAttribute, replaceChars_eq, attributeChar_eq]
  exact Text.ofList_flatMap_eq_self_iff (encodeChar_ne_nil _)
    (encodeChar_eq_singleton_iff (by decide))

/-- The running text of a template must not hold braces. -/
theorem escapeTemplate_eq_self_iff :
    escapeTemplate text = text ↔ Text.IsFreeOf templateMarks text := by
  rw [escapeTemplate, replaceChars_eq, templateChar_eq]
  exact Text.ofList_flatMap_eq_self_iff (encodeChar_ne_nil _)
    (encodeChar_eq_singleton_iff (by decide))

/-! ## Comments -/

/-- A comment is left as it is if it holds no two adjacent dashes. -/
theorem escapeComment_eq_self_iff :
    escapeComment text = text ↔ ¬ ['-', '-'] <:+: text.toList := by
  rw [← String.toList_inj, toList_escapeComment, commentChars_eq_self_iff]
  simp

/-! ## Markup -/

/-- The characters that are replaced in running text, by the language that it is escaped for. -/
def Escaping.textMarks : Escaping → List Char
  | .html => Markup.textMarks
  | .vue => templateMarks
  | .none => []

theorem Escaping.text_eq_self {escaping : Escaping} (h : Text.IsFreeOf escaping.textMarks text) :
    escaping.text text = text := by
  cases escaping with
  | html => exact escapeText_eq_self_iff.2 h
  | vue => exact escapeTemplate_eq_self_iff.2 h
  | none => rfl

theorem Escaping.attributeValue_eq_self (escaping : Escaping)
    (h : Text.IsFreeOf attributeMarks text) : escaping.attributeValue text = text := by
  cases escaping with
  | html => exact escapeAttribute_eq_self_iff.2 h
  | vue => exact escapeAttribute_eq_self_iff.2 h
  | none => rfl

theorem Escaping.comment_eq_self (escaping : Escaping) (h : ¬ ['-', '-'] <:+: text.toList) :
    escaping.comment text = text := by
  cases escaping with
  | html => exact escapeComment_eq_self_iff.2 h
  | vue => exact escapeComment_eq_self_iff.2 h
  | none => rfl

/-- What stands inside a tag needs no escaping. -/
def Body.IsClean (escaping : Escaping) : Body → Prop
  | .text content => Text.IsFreeOf escaping.textMarks content
  | .comment content => ¬ ['-', '-'] <:+: content.toList
  | .void => True

instance (escaping : Escaping) (body : Body) : Decidable (body.IsClean escaping) :=
  match body with
  | .text content => inferInstanceAs (Decidable (Text.IsFreeOf escaping.textMarks content))
  | .comment content => inferInstanceAs (Decidable (¬ ['-', '-'] <:+: content.toList))
  | .void => inferInstanceAs (Decidable True)

/-- Markup needs no escaping. -/
structure IsClean (escaping : Escaping) (markup : Markup) : Prop where
  attributes : ∀ named ∈ markup.attributes, Text.IsFreeOf attributeMarks named.2
  body : markup.body.IsClean escaping

instance (escaping : Escaping) (markup : Markup) : Decidable (markup.IsClean escaping) :=
  decidable_of_iff ((∀ named ∈ markup.attributes, Text.IsFreeOf attributeMarks named.2) ∧
      markup.body.IsClean escaping)
    ⟨fun h => ⟨h.1, h.2⟩, fun h => ⟨h.attributes, h.body⟩⟩

variable {escaping : Escaping} {markup : Markup}

theorem attributeText_eq_of_isFreeOf (escaping : Escaping) {named : String × String}
    (h : Text.IsFreeOf attributeMarks named.2) :
    attributeText escaping named = attributeText .none named := by
  rw [attributeText, escaping.attributeValue_eq_self h]
  rfl

theorem bodyText_eq_of_isClean (h : markup.body.IsClean escaping) :
    markup.bodyText escaping = markup.bodyText .none := by
  obtain ⟨tag, attributes, body⟩ := markup
  unfold bodyText
  rcases body with content | content | _
  · show escaping.text content ++ _ ++ _ ++ _ = _
    rw [Escaping.text_eq_self h]
    rfl
  · show _ ++ escaping.comment content ++ _ ++ _ ++ _ ++ _ = _
    rw [escaping.comment_eq_self h]
    rfl
  · rfl

/-- Markup that needs no escaping is written alike with it and without just if the attribute in
front of the others is. -/
theorem fragment_eq_iff_of_isClean (h : markup.IsClean escaping) (lead : String × String) :
    markup.fragment escaping lead = markup.fragment .none lead ↔
      escaping.attributeValue lead.2 = lead.2 := by
  have hattributes : markup.attributes.map (attributeText escaping) =
      markup.attributes.map (attributeText .none) :=
    List.map_congr_left fun named hnamed =>
      attributeText_eq_of_isFreeOf escaping (h.attributes named hnamed)
  rw [fragment, fragment, List.map_cons, List.map_cons, hattributes, bodyText_eq_of_isClean h.body,
    String.join_cons, String.join_cons]
  -- All that comes before and behind the value is the same.
  simp only [String.append_left_inj, String.append_right_inj, attributeText]
  rfl

/-- Markup that needs no escaping is written alike with it and without. -/
theorem fragment_eq_of_isClean (h : markup.IsClean escaping) {lead : String × String}
    (hlead : Text.IsFreeOf attributeMarks lead.2) :
    markup.fragment escaping lead = markup.fragment .none lead :=
  (fragment_eq_iff_of_isClean h lead).2 (escaping.attributeValue_eq_self hlead)

end Markup

end PageLayout
