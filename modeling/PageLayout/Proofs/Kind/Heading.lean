import PageLayout.Proofs.Kind.Requirements

/-!
# Headings

The level of a heading is one from one to six. It is given as a number, however that is spelled, or
as a text that writes it. No other number is brought into this range: a negative number keeps its
sign, a fraction is not cut off, and what is too large, as a number or in digits, stays too large.
The level is looked at before the content.

- `Decimal.intText_injective`: the tags of two levels are different.
- `Kind.headingLevel_eq_error_iff` and `Kind.require_eq_error_iff`: what is said about an element
  without a level, and about one without a text.
- `Kind.exists_tag_iff` and `Kind.heading_eq_error_iff`: the two steps that lead to the markup.
- `Kind.markup_heading`: the tag of a heading, and why a heading is refused.
-/

namespace PageLayout

/-- Different numbers are written with different digits. -/
theorem Decimal.intText_injective {m n : Nat} (h : intText m = intText n) : m = n := by
  have hdigits : Nat.toDigits 10 m = Nat.toDigits 10 n := String.ofList_injective h
  calc
    m = Nat.ofDigitChars 10 (Nat.toDigits 10 m) 0 := Nat.ofDigitChars_ten_toDigits.symm
    _ = Nat.ofDigitChars 10 (Nat.toDigits 10 n) 0 := by rw [hdigits]
    _ = n := Nat.ofDigitChars_ten_toDigits

namespace Kind

variable {element : Element} {error : MalformedElement}

/-- A required property that cannot stand in running text is missing. -/
theorem require_eq_error_iff {key : String} :
    require element key = .error error ↔
      ¬ element.HasText key ∧ error = ⟨element.id, .missingProperty key element.kind⟩ := by
  rw [← exists_textProperty?_iff, require]
  cases element.textProperty? key with
  | none => simp [eq_comm]
  | some text => simp

/-- A level that is given is found, or the value given for it is refused. -/
theorem headingLevel_of_property {value : Json.Value} (h : element.property? "level" = some value) :
    (∃ level, headingLevel element = .ok level) ∨
      headingLevel element = .error ⟨element.id, .invalidLevel value⟩ := by
  simp only [headingLevel, h]
  -- Whether the value is no number at all or one out of range, it is refused in the same words.
  split
  · split
    · exact .inl ⟨_, rfl⟩
    · exact .inr rfl
  · exact .inr rfl

/-- A level is missing, or what is given is none of the six; `null` counts as missing. -/
theorem headingLevel_eq_error_iff :
    headingLevel element = .error error ↔
      (element.property? "level" = none ∧
        error = ⟨element.id, .missingProperty "level" "heading"⟩) ∨
      ∃ value, element.property? "level" = some value ∧ (∀ level, ¬ element.LevelIs level) ∧
        error = ⟨element.id, .invalidLevel value⟩ := by
  constructor
  · intro h
    rcases hproperty : element.property? "level" with _ | value
    · rw [headingLevel, hproperty] at h
      exact .inl ⟨rfl, (Except.error.inj h).symm⟩
    · have hnone : ∀ level, ¬ element.LevelIs level := by
        intro level hlevel
        rw [headingLevel_eq_ok_iff.2 hlevel] at h
        cases h
      rcases headingLevel_of_property hproperty with ⟨level, hok⟩ | hrefused
      · exact absurd (headingLevel_eq_ok_iff.1 hok) (hnone level)
      · rw [hrefused] at h
        exact .inr ⟨value, rfl, hnone, (Except.error.inj h).symm⟩
  · rintro (⟨hproperty, rfl⟩ | ⟨value, hproperty, hnone, rfl⟩)
    · rw [headingLevel, hproperty]
    · rcases headingLevel_of_property hproperty with ⟨level, hok⟩ | hrefused
      · exact absurd (headingLevel_eq_ok_iff.1 hok) (hnone level)
      · exact hrefused

/-- A heading has the tag of some level just if the level and the content are both there. -/
theorem exists_tag_iff {level : Nat} :
    (∃ markup, heading.markup element = .ok markup ∧ markup.tag = "h" ++ Decimal.intText level) ↔
      element.LevelIs level ∧ element.HasText "content" := by
  rw [← headingLevel_eq_ok_iff, ← exists_require_iff]
  constructor
  · rintro ⟨markup, hmarkup, htag⟩
    obtain ⟨level', hlevel, hrest⟩ := bind_eq_ok_iff.1 hmarkup
    obtain ⟨content, hcontent, hresult⟩ := bind_eq_ok_iff.1 hrest
    obtain rfl := Except.ok.inj hresult
    -- The tag tells the level.
    have htext : Decimal.intText level' = Decimal.intText level :=
      (String.append_right_inj "h").1 htag
    obtain rfl : level' = level := Decimal.intText_injective htext
    exact ⟨hlevel, content, hcontent⟩
  · rintro ⟨hlevel, content, hcontent⟩
    refine ⟨.ofText ("h" ++ Decimal.intText level) content, ?_, rfl⟩
    exact bind_eq_ok_iff.2 ⟨level, hlevel, bind_eq_ok_iff.2 ⟨content, hcontent, rfl⟩⟩

/-- A heading is refused for its level or, if there is nothing wrong with that, for its content. -/
theorem heading_eq_error_iff :
    heading.markup element = .error error ↔
      headingLevel element = .error error ∨
        (∃ level, headingLevel element = .ok level) ∧
          require element "content" = .error error := by
  rw [heading, bind_eq_error_iff, ← exists_and_right]
  refine or_congr_right (exists_congr fun level => and_congr_right fun _ => ?_)
  -- Nothing can go wrong once there is a content.
  rw [bind_eq_error_iff]
  simp [pure, Except.pure]

/-- A heading is written with the tag of some level just if the property `level` stands for that
level, which is one from one to six, and the property `content` has a text. A heading without a
level is refused for that, whatever its content is: either no level is given, or what is given
stands for none of the six. Only then is a heading without a content refused. All errors name the
element. -/
theorem markup_heading (element : Element) :
    (∀ level : Nat, (∃ markup, heading.markup element = .ok markup ∧
        markup.tag = "h" ++ Decimal.intText level) ↔
      element.LevelIs level ∧ element.HasText "content") ∧
    (∀ error, heading.markup element = .error error ↔
      (element.property? "level" = none ∧
        error = ⟨element.id, .missingProperty "level" "heading"⟩) ∨
      (∃ value, element.property? "level" = some value ∧ (∀ level, ¬ element.LevelIs level) ∧
        error = ⟨element.id, .invalidLevel value⟩) ∨
      ((∃ level, element.LevelIs level) ∧ ¬ element.HasText "content" ∧
        error = ⟨element.id, .missingProperty "content" element.kind⟩)) := by
  refine ⟨fun level => exists_tag_iff, fun error => ?_⟩
  rw [heading_eq_error_iff, headingLevel_eq_error_iff, require_eq_error_iff, or_assoc]
  simp only [headingLevel_eq_ok_iff]

end Kind

end PageLayout
