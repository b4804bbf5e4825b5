import PageLayout.Kind.Registry
import PageLayout.Proofs.Decimal.Integral
import PageLayout.Proofs.Results
import PageLayout.Proofs.Text.Trim

/-!
# What types ask of their elements

An element has markup if it has what its type asks for: a text needs a content, a heading also a
level, a button its text, and an image a source and a text in place of it. The placeholder, and so
every type that is not registered, asks for nothing.

- `Element.HasText` and `Element.HasLevel`: the two things that may be asked for.
- `Kind.exists_require_iff` and `Kind.headingLevel_eq_ok_iff`: how they are looked for.
- `Kind.level?_eq_some_iff`: levels are read in 64 bits, which makes no difference to small ones.
- `Registry.exists_markup_builtin_iff`: the built-in types.
- `Registry.exists_markup_of_not_contains`: types that are not registered.
-/

namespace PageLayout

/-! ## Texts -/

/-- Values that can stand in running text. -/
def Json.Value.IsText : Json.Value → Prop
  | .string _ | .number _ | .boolean _ => True
  | .null | .array _ | .object _ => False

theorem Json.Value.IsText.isNull_eq_false {value : Json.Value} (h : value.IsText) :
    value.isNull = false := by
  cases value with
  | null => exact h.elim
  | _ => rfl

/-- An element has a property that can stand in running text. -/
def Element.HasText (element : Element) (key : String) : Prop :=
  ∃ value ∈ element.properties.get? key, value.IsText

/-! ## Levels -/

/-- A text writes a number: an optional plus sign and decimal digits, between blanks. -/
def Text.WritesNat (text : List Char) (n : Nat) : Prop :=
  ∃ before sign digits after, text = before ++ (sign ++ digits) ++ after ∧
    (∀ c ∈ before, isBlank c) ∧ (∀ c ∈ after, isBlank c) ∧ (sign = [] ∨ sign = ['+']) ∧
    digits ≠ [] ∧ (∀ c ∈ digits, c.isDigit) ∧ Decimal.ofDigits digits = n

/-- A value stands for a natural number: it is the number, or a text that writes it. -/
inductive Json.Value.StandsFor (n : Nat) : Json.Value → Prop
  | number {number : Json.Number} (h : number.toRat? = some (n : ℚ)) : StandsFor n (.number number)
  | string {s : String} (h : Text.WritesNat s.toList n) : StandsFor n (.string s)

/-- An element has a level from one to six. -/
def Element.HasLevel (element : Element) : Prop :=
  ∃ value ∈ element.properties.get? "level", ∃ level, 1 ≤ level ∧ level ≤ 6 ∧
    value.StandsFor level

/-- The level of an element, which is one from one to six. -/
def Element.LevelIs (element : Element) (level : Nat) : Prop :=
  1 ≤ level ∧ level ≤ 6 ∧ ∃ value ∈ element.properties.get? "level", value.StandsFor level

theorem Element.hasLevel_iff {element : Element} :
    element.HasLevel ↔ ∃ level, element.LevelIs level := by
  constructor
  · rintro ⟨value, hvalue, level, hlow, hhigh, hstands⟩
    exact ⟨level, hlow, hhigh, value, hvalue, hstands⟩
  · rintro ⟨level, hlow, hhigh, value, hvalue, hstands⟩
    exact ⟨value, hvalue, level, hlow, hhigh, hstands⟩

/-- An element has what the built-in type with its name asks for. -/
@[mk_iff]
structure Element.MeetsType (element : Element) : Prop where
  text : element.kind = "text" → element.HasText "content"
  heading : element.kind = "heading" → element.HasLevel ∧ element.HasText "content"
  button : element.kind = "button" → element.HasText "text"
  image : element.kind = "image" → element.HasText "src" ∧ element.HasText "alt"

/-- A property is the value given for it, unless that is `null`. -/
theorem Element.property?_eq_some_iff {element : Element} {key : String} {value : Json.Value} :
    element.property? key = some value ↔
      element.properties.get? key = some value ∧ value.isNull = false := by
  rw [Element.property?, Option.filter_eq_some_iff]
  simp

namespace Kind

variable {element : Element}

/-- The text of a property is found if the property can stand in running text. -/
theorem exists_textProperty?_iff {key : String} :
    (∃ text, element.textProperty? key = some text) ↔ element.HasText key := by
  constructor
  · rintro ⟨text, h⟩
    rw [Element.textProperty?, Element.styleProperty?] at h
    cases hproperty : element.property? key with
    | none => simp [hproperty] at h
    | some value =>
      refine ⟨value, (Element.property?_eq_some_iff.1 hproperty).1, ?_⟩
      cases value <;> simp_all [Json.Value.IsText]
  · rintro ⟨value, hvalue, htext⟩
    have hproperty : element.property? key = some value :=
      Element.property?_eq_some_iff.2 ⟨hvalue, htext.isNull_eq_false⟩
    rw [Element.textProperty?, Element.styleProperty?, hproperty]
    cases value with
    | string s => exact ⟨s, rfl⟩
    | number n => exact ⟨n.text, rfl⟩
    | boolean b => exact ⟨_, rfl⟩
    | _ => exact htext.elim

/-- A required property is found if it can stand in running text. -/
theorem exists_require_iff {key : String} :
    (∃ text, require element key = .ok text) ↔ element.HasText key := by
  rw [← exists_textProperty?_iff, require]
  cases element.textProperty? key <;> simp

theorem isBlank_eq_false_of_isDigit {c : Char} (h : c.isDigit) : Text.isBlank c = false := by
  have hbounds : 48 ≤ c.toNat ∧ c.toNat ≤ 57 := Char.isDigit_iff_toNat.1 h
  simp only [Text.isBlank, Bool.or_eq_false_iff, Bool.and_eq_false_iff, beq_eq_false_iff_ne,
    decide_eq_false_iff_not]
  omega

/-- The digits of a level are what follows its sign. -/
theorem readLevel?_eq {text : String} {sign digits : List Char} (hsign : sign = [] ∨ sign = ['+'])
    (hplus : sign = [] → digits.head? ≠ some '+')
    (htrim : Text.trimBlanks text.toList = sign ++ digits) :
    readLevel? text =
      if !digits.isEmpty && digits.all Char.isDigit then
        Decimal.bounded? (Decimal.ofDigits digits)
      else none := by
  rw [readLevel?, htrim]
  obtain rfl | rfl := hsign
  · rw [List.nil_append]
    split
    · exact absurd rfl (hplus rfl)
    · rfl
  · rfl

/-- A level is read off the text that writes it. -/
theorem readLevel?_eq_some_iff {text : String} {level : UInt64} :
    readLevel? text = some level ↔ Text.WritesNat text.toList level.toNat := by
  constructor
  · intro h
    obtain ⟨before, after, hbefore, hafter, htext⟩ := Text.exists_eq_append_trimBlanks text.toList
    -- A sign is one in front only.
    obtain ⟨sign, digits, hsign, hplus, htrim⟩ : ∃ sign digits, (sign = [] ∨ sign = ['+']) ∧
        (sign = [] → digits.head? ≠ some '+') ∧ Text.trimBlanks text.toList = sign ++ digits := by
      by_cases hhead : (Text.trimBlanks text.toList).head? = some '+'
      · obtain ⟨digits, htrim⟩ := List.head?_eq_some_iff.1 hhead
        exact ⟨['+'], digits, .inr rfl, nofun, htrim⟩
      · exact ⟨[], _, .inl rfl, fun _ => hhead, rfl⟩
    rw [readLevel?_eq hsign hplus htrim] at h
    split at h
    · next hall =>
      obtain ⟨hne, hall⟩ : digits ≠ [] ∧ ∀ c ∈ digits, c.isDigit := by simpa using hall
      rw [htrim] at htext
      exact ⟨before, sign, digits, after, htext, hbefore, hafter, hsign, hne, hall,
        Decimal.bounded?_eq_some_iff.1 h⟩
    · cases h
  · rintro ⟨before, sign, digits, after, htext, hbefore, hafter, hsign, hne, hall, hlevel⟩
    -- Neither the sign nor a digit is a blank, so that trimming leaves them all.
    have htrim : Text.trimBlanks text.toList = sign ++ digits := by
      rw [htext]
      refine Text.trimBlanks_append hbefore hafter ?_ ?_
      · intro c hc
        obtain rfl | rfl := hsign
        · exact isBlank_eq_false_of_isDigit (hall c (List.mem_of_mem_head? hc))
        · obtain rfl : '+' = c := by simpa using hc
          decide
      · intro c hc
        rw [List.getLast?_append_of_ne_nil _ hne] at hc
        exact isBlank_eq_false_of_isDigit (hall c (List.mem_of_getLast? hc))
    have hplus : sign = [] → digits.head? ≠ some '+' := by
      intro _ hhead
      have hdigit : '+'.isDigit := hall '+' (List.mem_of_mem_head? hhead)
      cases hdigit
    rw [readLevel?_eq hsign hplus htrim, if_pos (by simpa [hne] using hall)]
    exact Decimal.bounded?_eq_some_iff.2 hlevel

/-- A level is taken from the number that it is, unless that is cut off. -/
theorem or_map_ofNatClamp_eq_some_iff {n : Json.Number} {level : UInt64}
    (hlevel : level.toNat < UInt64.size - 1) :
    n.uint64?.or (n.nat?.map .ofNatClamp) = some level ↔ n.nat? = some level.toNat := by
  rcases hbounded : n.uint64? with _ | w
  · -- Only the greatest number of 64 bits may have been cut off.
    rw [Option.none_or, Option.map_eq_some_iff]
    simp [Decimal.ofNatClamp_eq_iff hlevel]
  · rw [Option.some_or, Json.Number.nat?_eq_of_uint64? hbounded, Option.some.injEq,
      Option.some.injEq, UInt64.toNat_inj]

/-- A level is what a value stands for, unless it is the greatest number of 64 bits, which may stand
for a number beyond it. -/
theorem level?_eq_some_iff {value : Json.Value} {level : UInt64}
    (hlevel : level.toNat < UInt64.size - 1) :
    level? value = some level ↔ value.StandsFor level.toNat := by
  cases value with
  | number n =>
    rw [level?, or_map_ofNatClamp_eq_some_iff hlevel, Json.Number.nat?_eq_some_iff]
    exact ⟨.number, fun | .number h => h⟩
  | string s =>
    rw [level?, readLevel?_eq_some_iff]
    exact ⟨.string, fun | .string h => h⟩
  | null => exact ⟨nofun, nofun⟩
  | boolean b => exact ⟨nofun, nofun⟩
  | array items => exact ⟨nofun, nofun⟩
  | object members => exact ⟨nofun, nofun⟩

/-- The level that is found is the one that the property stands for. -/
theorem headingLevel_eq_ok_iff {level : Nat} :
    headingLevel element = .ok level ↔ element.LevelIs level := by
  constructor
  · intro h
    rw [headingLevel] at h
    split at h
    · cases h
    · next value hproperty =>
      split at h
      · next level' hlevel =>
        split at h
        · next hbounds =>
          obtain rfl : level'.toNat = level := Except.ok.inj h
          rw [UInt64.le_iff_toNat_le, UInt64.le_iff_toNat_le] at hbounds
          have hsmall : level'.toNat < UInt64.size - 1 := hbounds.2.trans_lt (by decide)
          exact ⟨hbounds.1, hbounds.2, value, (Element.property?_eq_some_iff.1 hproperty).1,
            (level?_eq_some_iff hsmall).1 hlevel⟩
        · cases h
      · cases h
  · rintro ⟨hlow, hhigh, value, hvalue, hstands⟩
    have hproperty : element.property? "level" = some value :=
      Element.property?_eq_some_iff.2 ⟨hvalue, by cases hstands <;> rfl⟩
    obtain ⟨w, rfl⟩ : ∃ w : UInt64, w.toNat = level :=
      ⟨.ofNat level, UInt64.toNat_ofNat_of_lt' (hhigh.trans_lt (by decide))⟩
    have hlevel : level? value = some w :=
      (level?_eq_some_iff (hhigh.trans_lt (by decide))).2 hstands
    have hbounds : 1 ≤ w ∧ w ≤ 6 :=
      ⟨UInt64.le_iff_toNat_le.2 hlow, UInt64.le_iff_toNat_le.2 hhigh⟩
    simp [headingLevel, hproperty, hlevel, hbounds]

/-- A heading has a level if its property stands for one. -/
theorem exists_headingLevel_iff :
    (∃ level, headingLevel element = .ok level) ↔ element.HasLevel := by
  rw [Element.hasLevel_iff]
  exact exists_congr fun level => headingLevel_eq_ok_iff

/-! ## The built-in types -/

theorem exists_markup_text_iff :
    (∃ markup, text.markup element = .ok markup) ↔ element.HasText "content" := by
  simp [text, exists_bind_eq_ok_iff, ← exists_require_iff, pure, Except.pure]

theorem exists_markup_heading_iff :
    (∃ markup, heading.markup element = .ok markup) ↔
      element.HasLevel ∧ element.HasText "content" := by
  simp [heading, exists_bind_eq_ok_iff, ← exists_require_iff, ← exists_headingLevel_iff, pure,
    Except.pure]

theorem exists_markup_button_iff :
    (∃ markup, button.markup element = .ok markup) ↔ element.HasText "text" := by
  simp [button, exists_bind_eq_ok_iff, ← exists_require_iff, pure, Except.pure]

theorem exists_markup_image_iff :
    (∃ markup, image.markup element = .ok markup) ↔
      element.HasText "src" ∧ element.HasText "alt" := by
  simp [image, exists_bind_eq_ok_iff, ← exists_require_iff, pure, Except.pure]

/-- The placeholder asks for nothing. -/
theorem exists_markup_placeholder (element : Element) :
    ∃ markup, placeholder.markup element = .ok markup :=
  ⟨_, rfl⟩

end Kind

namespace Registry

/-- Types that are not registered belong to the placeholder. -/
theorem get_of_notMem {registry : Registry} {tag : String}
    (h : tag ∉ registry.kinds.map Prod.fst) : registry.get tag = .placeholder := by
  have hlookup : registry.kinds.lookup tag = none := by
    rw [List.lookup_eq_none_iff]
    intro entry hentry
    rw [bne_iff_ne]
    rintro rfl
    exact h (List.mem_map_of_mem hentry)
  rw [get, hlookup]
  rfl

/-- The built-in types are found under their names, and the placeholder under all others. -/
theorem get_builtin_cases (tag : String) :
    (tag = "text" ∧ builtin.get tag = .text) ∨ (tag = "heading" ∧ builtin.get tag = .heading) ∨
      (tag = "button" ∧ builtin.get tag = .button) ∨ (tag = "image" ∧ builtin.get tag = .image) ∨
      (tag ∉ ["text", "heading", "button", "image"] ∧ builtin.get tag = .placeholder) := by
  by_cases htag : tag ∈ ["text", "heading", "button", "image"]
  · simp only [List.mem_cons, List.not_mem_nil, or_false] at htag
    obtain rfl | rfl | rfl | rfl := htag
    · exact .inl ⟨rfl, rfl⟩
    · exact .inr (.inl ⟨rfl, rfl⟩)
    · exact .inr (.inr (.inl ⟨rfl, rfl⟩))
    · exact .inr (.inr (.inr (.inl ⟨rfl, rfl⟩)))
  · exact .inr (.inr (.inr (.inr ⟨htag, get_of_notMem htag⟩)))

/-- An element of a type that is not registered becomes a placeholder. -/
theorem markup_of_not_contains {registry : Registry} {element : Element}
    (h : registry.contains element.kind = false) :
    registry.markup element = Kind.placeholder.markup element := by
  have hget : registry.get element.kind = .placeholder := by
    refine get_of_notMem fun hmem => ?_
    rw [contains, List.contains_iff_mem.2 hmem] at h
    cases h
  rw [markup, kindOf, hget]

/-- A type that is not registered asks for nothing. -/
theorem exists_markup_of_not_contains {registry : Registry} {element : Element}
    (h : registry.contains element.kind = false) :
    ∃ markup, registry.markup element = .ok markup := by
  rw [markup_of_not_contains h]
  exact Kind.exists_markup_placeholder element

/-- An element has markup by the built-in types if it has what its type asks for. -/
theorem exists_markup_builtin_iff {element : Element} :
    (∃ markup, builtin.markup element = .ok markup) ↔ element.MeetsType := by
  rw [Registry.markup, kindOf, element.meetsType_iff]
  obtain ⟨hkind, hget⟩ | ⟨hkind, hget⟩ | ⟨hkind, hget⟩ | ⟨hkind, hget⟩ | ⟨hkind, hget⟩ :=
    get_builtin_cases element.kind
  · rw [hget, Kind.exists_markup_text_iff]
    simp [hkind]
  · rw [hget, Kind.exists_markup_heading_iff]
    simp [hkind]
  · rw [hget, Kind.exists_markup_button_iff]
    simp [hkind]
  · rw [hget, Kind.exists_markup_image_iff]
    simp [hkind]
  · simp only [List.mem_cons, List.not_mem_nil, or_false, not_or] at hkind
    rw [hget]
    simp [hkind, Kind.exists_markup_placeholder]

end Registry

end PageLayout
