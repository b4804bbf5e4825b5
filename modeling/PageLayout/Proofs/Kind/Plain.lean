import PageLayout.Proofs.Kind.Members
import PageLayout.Proofs.Markup.Reader

/-!
# Types that write plain markup

A page can be read back if the types of its elements keep to plain names of tags and attributes
and to a fixed set of tags without an end. The built-in types do, and so does every registry made
from them by adding types that do.
-/

namespace PageLayout

/-- All markup that a type writes is plain. -/
def Kind.WritesPlain (isVoid : String → Bool) (kind : Kind) : Prop :=
  ∀ element markup, kind.markup element = .ok markup → markup.IsPlain isVoid

/-- Text in a tag with a plain name that has an end. -/
theorem Markup.isPlain_ofText {isVoid : String → Bool} {tag : String} (htag : IsPlainName tag)
    (hvoid : isVoid tag = false) (content : String) : (ofText tag content).IsPlain isVoid where
  tag := htag
  attributes := by simp [ofText]
  void := by simp [ofText, hvoid]

/-- The only tag that the built-in types leave without an end. -/
def Markup.isImageTag (tag : String) : Bool :=
  tag == "img"

namespace Kind

open Markup

/-- The text of a required property leads to the same markup as before, or to none. -/
theorem exists_of_require_bind {element : Element} {key : String} {α : Type}
    {f : String → Except MalformedElement α} {result : α}
    (h : require element key >>= f = .ok result) : ∃ content, f content = .ok result := by
  cases hrequire : require element key with
  | error e => simp [hrequire, bind, Except.bind] at h
  | ok content =>
    rw [hrequire] at h
    exact ⟨content, h⟩

theorem writesPlain_text : text.WritesPlain isImageTag := by
  intro element markup h
  obtain ⟨content, hcontent⟩ := exists_of_require_bind h
  cases hcontent
  exact isPlain_ofText (by decide) (by decide) content

theorem writesPlain_button : button.WritesPlain isImageTag := by
  intro element markup h
  obtain ⟨content, hcontent⟩ := exists_of_require_bind h
  cases hcontent
  exact isPlain_ofText (by decide) (by decide) content

/-- The level of a heading is one of six. -/
theorem headingLevel_bounds {element : Element} {level : Nat}
    (h : headingLevel element = .ok level) : 1 ≤ level ∧ level ≤ 6 := by
  rw [headingLevel] at h
  split at h
  · cases h
  · split at h
    · split at h
      · next hbounds =>
        obtain rfl := Except.ok.inj h
        exact ⟨UInt64.le_iff_toNat_le.1 hbounds.1, UInt64.le_iff_toNat_le.1 hbounds.2⟩
      · cases h
    · cases h

theorem writesPlain_heading : heading.WritesPlain isImageTag := by
  intro element markup h
  simp only [heading] at h
  cases hlevel : headingLevel element with
  | error e => simp [hlevel, bind, Except.bind] at h
  | ok level =>
    rw [hlevel] at h
    obtain ⟨content, hcontent⟩ := exists_of_require_bind h
    cases hcontent
    obtain ⟨hlow, hhigh⟩ := headingLevel_bounds hlevel
    -- There are six tags of headings, and each has a plain name.
    obtain rfl | rfl | rfl | rfl | rfl | rfl :
        level = 1 ∨ level = 2 ∨ level = 3 ∨ level = 4 ∨ level = 5 ∨ level = 6 := by omega
    all_goals exact isPlain_ofText (by decide) (by decide) content

theorem writesPlain_image : image.WritesPlain isImageTag := by
  intro element markup h
  obtain ⟨src, hsrc⟩ := exists_of_require_bind h
  obtain ⟨alt, halt⟩ := exists_of_require_bind hsrc
  cases halt
  exact
    { tag := show IsPlainName "img" by decide
      attributes := by simp only [List.forall_mem_cons]; decide
      void := by simp [isImageTag] }

theorem writesPlain_placeholder : placeholder.WritesPlain isImageTag := by
  intro element markup h
  cases h
  exact
    { tag := show IsPlainName "div" by decide
      attributes := by simp
      void := by simp [isImageTag] }

end Kind

/-- The built-in types and the placeholder write plain markup. -/
theorem Registry.writesPlain_builtin : builtin.All (Kind.WritesPlain Markup.isImageTag) :=
  all_builtin Kind.writesPlain_text Kind.writesPlain_heading Kind.writesPlain_button
    Kind.writesPlain_image Kind.writesPlain_placeholder

end PageLayout
