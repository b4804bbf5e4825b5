import PageLayout.Proofs.Style.Reader

/-!
# The two forms of a style

A style is written as a rule or on one line. Both forms hold the same text: it stands between the
braces of the rule, and on the line with one more semicolon behind it. A rule separates its
declarations, whereas on a line each declaration is ended; a reader who knows this finds the same
declarations in both, whatever their values are.

- `inlineText_eq`: the one form in terms of the other.
- `readBody?_body` and `readInline?_inlineText`: both forms read back.
- `rule_inlineText`: all of this together.
-/

namespace PageLayout.Style

/-! ## The readers -/

/-- Reads declarations with a separator between any two off a text, which may be empty. -/
def readBody? (text : String) : Option Style :=
  readPieces? (Text.pieces ';' text.toList)

/-- Reads declarations each of which ends in a semicolon. -/
def readInline? (text : String) : Option Style :=
  (Text.endedPieces? ';' text.toList).bind readPieces?

/-! ## The text that both forms hold -/

/-- Texts that are ended have the same end behind them as texts that are separated, if their
separator begins with that end. -/
theorem intercalate_map_append (last space : String) {texts : List String} (hne : texts ≠ []) :
    space.intercalate (texts.map (· ++ last)) =
      (last ++ space).intercalate texts ++ last := by
  induction texts with
  | nil => exact absurd rfl hne
  | cons text texts ih =>
    rcases texts with _ | ⟨next, texts⟩
    · simp
    · have hrest := ih (List.cons_ne_nil next texts)
      rw [List.map_cons] at hrest
      -- The end of the first text is the beginning of the first separator.
      rw [List.map_cons, List.map_cons, String.intercalate_cons_cons, hrest,
        String.intercalate_cons_cons]
      simp only [String.append_assoc]

/-- On one line, a style has a semicolon behind its declarations if there are any. -/
theorem inlineText_eq (escape : Bool) {style : Style} (hne : style ≠ []) :
    inlineText escape style = body escape style ++ ";" := by
  have htexts : style.map (Declaration.text escape) ≠ [] := by simpa using hne
  have hline := intercalate_map_append ";" " " htexts
  rw [List.map_map] at hline
  exact hline

/-! ## Reading it -/

variable {style : Style}

/-- A declaration has a colon, so there is no empty text of declarations. -/
theorem toList_body_ne_nil (hne : style ≠ []) : (body true style).toList ≠ [] := by
  obtain ⟨declaration, others, rfl⟩ := List.exists_cons_of_ne_nil hne
  have htext : (declaration.text true).toList ≠ [] := by
    rw [toList_text]
    exact List.append_ne_nil_of_right_ne_nil _ (List.cons_ne_nil _ _)
  rw [body, String.toList_intercalate, List.map_cons, List.map_cons]
  rcases others with _ | ⟨next, others⟩
  · simpa using htext
  · rw [List.map_cons, List.map_cons, List.intercalate_cons_cons, List.append_assoc]
    exact List.append_ne_nil_of_left_ne_nil htext _

/-- The text between the braces of a rule reads back as the declarations of the style. -/
theorem readBody?_body (hcolon : ∀ d ∈ style, ':' ∉ d.property.toList)
    (hsemicolon : ∀ d ∈ style, ';' ∉ d.property.toList) :
    readBody? (body true style) = some (style.map Declaration.sanitized) := by
  by_cases hne : style = []
  · subst hne
    rfl
  · rw [readBody?, Text.pieces, if_neg (toList_body_ne_nil hne)]
    exact readPieces?_splitOn_body hne hcolon hsemicolon

/-- A style on one line reads back as its declarations. -/
theorem readInline?_inlineText (hcolon : ∀ d ∈ style, ':' ∉ d.property.toList)
    (hsemicolon : ∀ d ∈ style, ';' ∉ d.property.toList) :
    readInline? (inlineText true style) = some (style.map Declaration.sanitized) := by
  by_cases hne : style = []
  · subst hne
    rfl
  · -- The semicolon at the end leaves the pieces between the braces of the rule.
    rw [readInline?, inlineText_eq true hne, String.toList_append]
    show (Text.endedPieces? ';' ((body true style).toList ++ [';'])).bind readPieces? = _
    rw [Text.endedPieces?_concat]
    exact readPieces?_splitOn_body hne hcolon hsemicolon

/-- Whether values are escaped or not, one text stands between the braces of the rule and, with a
semicolon behind it, on the line; without declarations both are empty. If values are escaped and
properties hold neither colons nor semicolons, both forms read back as the declarations of the style
in their order, with their values as they are written. -/
theorem rule_inlineText (style : Style) (id : String) (escape : Bool) :
    ∃ text,
      rule escape id style =
        "#" ++ (if escape then identifier id else id) ++ " \x7b " ++ text ++ " \x7d\n" ∧
      inlineText escape style = (if style = [] then "" else text ++ ";") ∧
      (style = [] → text = "") ∧
      (escape = true → (∀ d ∈ style, ':' ∉ d.property.toList ∧ ';' ∉ d.property.toList) →
        readBody? text = some (style.map Declaration.sanitized) ∧
        readInline? (inlineText escape style) = some (style.map Declaration.sanitized)) := by
  refine ⟨body escape style, rfl, ?_, ?_, ?_⟩
  · split
    · next hnil =>
      subst hnil
      rfl
    · next hne => exact inlineText_eq escape hne
  · rintro rfl
    rfl
  · rintro rfl hplain
    have hcolon : ∀ d ∈ style, ':' ∉ d.property.toList := fun d hd => (hplain d hd).1
    have hsemicolon : ∀ d ∈ style, ';' ∉ d.property.toList := fun d hd => (hplain d hd).2
    exact ⟨readBody?_body hcolon hsemicolon, readInline?_inlineText hcolon hsemicolon⟩

/-- A style that gives one property twice and one without a name, with values that look like
declarations, are nothing but spaces, or of which nothing is left. -/
def spaced : Style :=
  [⟨"color", " red: x; top: 1px\n"⟩, ⟨"color", ";;"⟩, ⟨"", "  "⟩]

theorem rule_inlineText_spaced :
    ∃ text, inlineText true spaced = text ++ ";" ∧
      readBody? text = some (spaced.map Declaration.sanitized) ∧
      readInline? (inlineText true spaced) = some (spaced.map Declaration.sanitized) := by
  obtain ⟨text, -, hline, -, hread⟩ := rule_inlineText spaced "a" true
  have hplain : ∀ d ∈ spaced, ':' ∉ d.property.toList ∧ ';' ∉ d.property.toList := by decide
  exact ⟨text, hline, hread rfl hplain⟩

end PageLayout.Style
