import PageLayout.Proofs.Decimal.Characters
import PageLayout.Proofs.Markup.Clean
import PageLayout.Proofs.Style.Inert

/-!
# Styles that need no escaping

A value is written as it is just if it holds none of the delimiters and neither opens nor closes a
comment, and an identifier just if all of its characters stand for themselves and no digit is in
front. Styles of such values are written alike whether they are escaped or not. In an attribute, the
characters that attributes reserve must not come up either, also not in the names of properties.

- `sanitize_eq_self_iff` and `identifier_eq_self_iff`: the texts that are written as they are.
- `rule_eq_of_isClean` and `inlineText_eq_of_isClean`: styles of such texts.
- `isFreeOf_inlineText_iff`: styles that may stand in an attribute as they are.
- `isNumberText_geometry`: the declarations that place an element are made of such texts.
-/

namespace PageLayout.Style

/-! ## Values -/

/-- A value needs no escaping. -/
structure IsCleanValue (value : String) : Prop where
  delimiters : Text.IsFreeOf [';', '\x7b', '\x7d', '<', '>', '\\'] value
  opens : ¬ ['/', '*'] <:+: value.toList
  closes : ¬ ['*', '/'] <:+: value.toList

instance (value : String) : Decidable (IsCleanValue value) :=
  decidable_of_iff (Text.IsFreeOf [';', '\x7b', '\x7d', '<', '>', '\\'] value ∧
      ¬ ['/', '*'] <:+: value.toList ∧ ¬ ['*', '/'] <:+: value.toList)
    ⟨fun h => ⟨h.1, h.2.1, h.2.2⟩, fun h => ⟨h.delimiters, h.opens, h.closes⟩⟩

theorem isDelimiter_eq_false_iff (c : Char) :
    isDelimiter c = false ↔ c ∉ [';', '\x7b', '\x7d', '<', '>', '\\'] := by
  simp [isDelimiter, and_assoc]

/-- A value is written as it is just if it needs no escaping. -/
theorem sanitize_eq_self_iff {value : String} : sanitize value = value ↔ IsCleanValue value := by
  rw [← String.toList_inj, toList_sanitize, keptChars_eq_self_iff]
  constructor
  · rintro ⟨hdelimiters, hopens, hcloses⟩
    exact ⟨fun c hc => (isDelimiter_eq_false_iff c).1 (hdelimiters c hc), hopens, hcloses⟩
  · rintro ⟨hdelimiters, hopens, hcloses⟩
    exact ⟨fun c hc => (isDelimiter_eq_false_iff c).2 (hdelimiters c hc), hopens, hcloses⟩

/-- Attributes reserve angle brackets, which are delimiters, and two more characters. -/
theorem IsCleanValue.isFreeOf {value : String} (h : IsCleanValue value)
    (hquoted : Text.IsFreeOf ['&', '"'] value) :
    Text.IsFreeOf Markup.attributeMarks value := by
  intro c hc hmark
  simp only [Markup.attributeMarks, List.mem_cons, List.not_mem_nil, or_false] at hmark
  rcases hmark with rfl | rfl | rfl | rfl
  · exact hquoted '&' hc (by decide)
  · exact h.delimiters '<' hc (by decide)
  · exact h.delimiters '>' hc (by decide)
  · exact hquoted '"' hc (by decide)

/-! ## Identifiers -/

/-- An identifier needs no escaping: it has letters, digits, dashes, underscores and characters
beyond ASCII, and no digit in front. -/
structure IsCleanIdentifier (id : String) : Prop where
  names : ∀ c ∈ id.toList, c.isAlphanum ∨ c = '-' ∨ c = '_' ∨ 0x80 ≤ c.toNat
  head : id.toList.head?.any Char.isDigit = false

instance (id : String) : Decidable (IsCleanIdentifier id) :=
  have : Decidable (∀ c ∈ id.toList, c.isAlphanum ∨ c = '-' ∨ c = '_' ∨ 0x80 ≤ c.toNat) :=
    List.decidableBAll _ _
  decidable_of_iff ((∀ c ∈ id.toList, c.isAlphanum ∨ c = '-' ∨ c = '_' ∨ 0x80 ≤ c.toNat) ∧
      id.toList.head?.any Char.isDigit = false)
    ⟨fun h => ⟨h.1, h.2⟩, fun h => ⟨h.names, h.head⟩⟩

theorem isNameChar_iff (c : Char) :
    isNameChar c ↔ c.isAlphanum ∨ c = '-' ∨ c = '_' ∨ 0x80 ≤ c.toNat := by
  simp [isNameChar, or_assoc]

/-- No character of such an identifier is reserved in attributes. -/
theorem IsCleanIdentifier.isFreeOf {id : String} (h : IsCleanIdentifier id) :
    Text.IsFreeOf Markup.attributeMarks id :=
  Text.isFreeOf_of_class (p := isNameChar) (by decide)
    fun c hc => (isNameChar_iff c).2 (h.names c hc)

/-- An identifier is written as it is just if it needs no escaping. -/
theorem identifier_eq_self_iff {id : String} : identifier id = id ↔ IsCleanIdentifier id := by
  rw [← String.toList_inj, toList_identifier, identifierChars_eq_self_iff]
  simp only [isNameChar_iff]
  exact ⟨fun h => ⟨h.1, h.2⟩, fun h => ⟨h.names, h.head⟩⟩

/-! ## The two forms of a style -/

theorem text_eq_of_isCleanValue {declaration : Declaration}
    (h : IsCleanValue declaration.value) : declaration.text true = declaration.text false := by
  show _ ++ sanitize declaration.value = _
  rw [sanitize_eq_self_iff.2 h]
  rfl

variable {style : Style}

theorem rule_eq_of_isClean {id : String} (hid : IsCleanIdentifier id)
    (hstyle : ∀ d ∈ style, IsCleanValue d.value) : rule true id style = rule false id style := by
  have htexts : style.map (Declaration.text true) = style.map (Declaration.text false) :=
    List.map_congr_left fun d hd => text_eq_of_isCleanValue (hstyle d hd)
  rw [rule, body, htexts, selector, if_pos rfl, identifier_eq_self_iff.2 hid]
  rfl

theorem inlineText_eq_of_isClean (hstyle : ∀ d ∈ style, IsCleanValue d.value) :
    inlineText true style = inlineText false style := by
  have htexts : (style.map fun d => d.text true ++ ";") = style.map fun d => d.text false ++ ";" :=
    List.map_congr_left fun d hd => by rw [text_eq_of_isCleanValue (hstyle d hd)]
  rw [inlineText, htexts, inlineText]

/-- A style on one line holds none of some characters, which are no punctuation, just if its
properties and its values do not. -/
theorem isFreeOf_inlineText_iff {marks : List Char} (hmarks : Text.IsFreeOf marks ": ;") :
    Text.IsFreeOf marks (inlineText false style) ↔
      ∀ d ∈ style, Text.IsFreeOf marks d.property ∧ Text.IsFreeOf marks d.value := by
  have hcolon : Text.IsFreeOf marks ": " := hmarks.of_subset (by decide)
  have hsemicolon : Text.IsFreeOf marks ";" := hmarks.of_subset (by decide)
  have hspace : Text.IsFreeOf marks " " := hmarks.of_subset (by decide)
  rw [inlineText, hspace.intercalate_iff, List.forall_mem_map]
  simp [Declaration.text, Text.isFreeOf_append_iff, hcolon, hsemicolon]

/-! ## The declarations that place an element -/

/-- The characters of numbers are not reserved. -/
theorem isFreeOf_of_isNumberText {marks : List Char}
    (hmarks : marks.any Decimal.isNumberChar = false) {text : String}
    (h : Decimal.IsNumberText text.toList) : Text.IsFreeOf marks text :=
  Text.isFreeOf_of_class hmarks (List.all_eq_true.1 h)

/-- Values of characters of numbers need no escaping. -/
theorem isCleanValue_of_isNumberText {value : String} (h : Decimal.IsNumberText value.toList) :
    IsCleanValue value := by
  have hnotMem : '/' ∉ value.toList :=
    fun hmem => absurd (List.all_eq_true.1 h '/' hmem) (by decide)
  exact {
    delimiters := isFreeOf_of_isNumberText (by decide) h
    opens := fun hpair => hnotMem (hpair.subset List.mem_cons_self)
    closes := fun hpair => hnotMem (hpair.subset (List.mem_cons_of_mem _ List.mem_cons_self)) }

/-- The place of an element is given in letters and numbers. -/
theorem isNumberText_geometry (element : Element) :
    ∀ d ∈ geometry element,
      Decimal.IsNumberText d.property.toList ∧ Decimal.IsNumberText d.value.toList := by
  have hpixels : ∀ length, Decimal.IsNumberText (pixels length).toList := by
    intro length
    rw [pixels, String.toList_append]
    exact (Decimal.isNumberText_text _ length).append (by decide)
  intro d hd
  simp only [geometry, List.mem_cons, List.not_mem_nil, or_false] at hd
  rcases hd with rfl | rfl | rfl | rfl | rfl
  · exact ⟨by decide, by decide⟩
  · exact ⟨show Decimal.IsNumberText "left".toList by decide, hpixels element.x⟩
  · exact ⟨show Decimal.IsNumberText "top".toList by decide, hpixels element.y⟩
  · exact ⟨show Decimal.IsNumberText "width".toList by decide, hpixels element.width⟩
  · exact ⟨show Decimal.IsNumberText "height".toList by decide, hpixels element.height⟩

end PageLayout.Style
