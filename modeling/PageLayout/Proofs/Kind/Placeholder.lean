import PageLayout.Proofs.Kind.Requirements
import PageLayout.Proofs.Markup.Dashes

/-!
# Placeholders

An element of a type that is not registered is written as a placeholder, whose comment names the
type. A type may have any name. Whatever it is, the comment ends where it is closed.

- `Registry.exists_fragment_of_not_contains`: what is written for such an element.
- `Markup.escapeComment_keepsApart`: all that is known of the comment.
-/

namespace PageLayout

/-- The fragment of an element of a type that is not registered. -/
theorem Registry.exists_fragment_of_not_contains {registry : Registry} {element : Element}
    (h : registry.contains element.kind = false) {escaping : Markup.Escaping}
    (hescaping : escaping ≠ .none) (lead : String × String) :
    ∃ markup, registry.markup element = .ok markup ∧
      markup.fragment escaping lead = "<div" ++ Markup.attributeText escaping lead ++ ">" ++
        ("<!-- " ++ Markup.escapeComment element.kind ++ " -->") ++ "</div>" := by
  refine ⟨⟨"div", [], .comment element.kind⟩, registry.markup_of_not_contains h, ?_⟩
  have hcomment := Markup.Escaping.comment_eq hescaping element.kind
  simp [Markup.fragment, Markup.bodyText, hcomment, String.append_assoc]

namespace Markup

/-- A text is escaped for a comment by setting its dashes apart: it is cut wherever two dashes stand
side by side, with a space at each cut and nothing else changed. So it stays as it is just if it has
no adjacent dashes, which is so after the first time. The only adjacent dashes of the comment are
then those at its two ends, and it ends where it is closed: the name of a type that is not
registered cannot end the comment of a placeholder any earlier. -/
theorem escapeComment_keepsApart (text : String) :
    ¬ ['-', '-'] <:+: (escapeComment text).toList ∧
    (∀ written : String,
      (∃ pieces, Text.IsCutBetween '-' '-' pieces text.toList ∧
        written.toList = [' '].intercalate pieces) ↔ written = escapeComment text) ∧
    (escapeComment text = text ↔ ¬ ['-', '-'] <:+: text.toList) ∧
    escapeComment (escapeComment text) = escapeComment text ∧
    (∀ before after,
      ("<!-- " ++ escapeComment text ++ " -->").toList = before ++ '-' :: '-' :: after ↔
        before = ['<', '!'] ∧ after = (" " ++ escapeComment text ++ " -->").toList ∨
        before = ("<!-- " ++ escapeComment text ++ " ").toList ∧ after = ['>']) ∧
    (∀ rest, HasContent (" " ++ escapeComment text ++ " ").toList
      ((" " ++ escapeComment text ++ " -->").toList ++ rest)) ∧
    ∀ (registry : Registry) (element : Element), element.kind = text →
      registry.contains text = false → ∀ escaping : Escaping, escaping ≠ .none →
      ∀ lead : String × String, ∃ markup, registry.markup element = .ok markup ∧
        markup.fragment escaping lead = "<div" ++ attributeText escaping lead ++ ">" ++
          ("<!-- " ++ escapeComment text ++ " -->") ++ "</div>" := by
  have hapart : ¬ ['-', '-'] <:+: (escapeComment text).toList := by
    rw [toList_escapeComment]
    exact pair_not_infix_commentChars false text.toList
  refine ⟨hapart, fun written => exists_isCutBetween_iff, escapeComment_eq_self_iff,
    escapeComment_eq_self_iff.2 hapart, fun before after => comment_eq_append_pair_iff,
    hasContent_escapeComment text, ?_⟩
  rintro registry element rfl hcontains escaping hescaping lead
  exact Registry.exists_fragment_of_not_contains hcontains hescaping lead

theorem escapeComment_keepsApart_hostile :
    Registry.builtin.contains "-->--!>-" = false ∧ Escaping.html ≠ .none ∧
    ∃ markup, Registry.builtin.markup ⟨"e1", "-->--!>-", 1, 2, 3, 4, .empty⟩ = .ok markup ∧
      markup.fragment .html ("id", "e1") = "<div id=\"e1\"><!-- - ->- -!>- --></div>" := by
  have hcontains : Registry.builtin.contains "-->--!>-" = false := by decide
  have hescaping : Escaping.html ≠ .none := by decide
  obtain ⟨-, -, -, -, -, -, hfragment⟩ := escapeComment_keepsApart "-->--!>-"
  obtain ⟨markup, hmarkup, htext⟩ := hfragment .builtin ⟨"e1", "-->--!>-", 1, 2, 3, 4, .empty⟩ rfl
    hcontains .html hescaping ("id", "e1")
  exact ⟨hcontains, hescaping, markup, hmarkup, htext.trans (by decide)⟩

/-- Dashes are kept apart also in a text of dashes only. -/
example : escapeComment "---" = "- - -" := by
  decide

end Markup

end PageLayout
