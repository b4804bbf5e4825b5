/-!
# Looking for a word

A text is looked through for a word from its beginning, at one place after the other.
-/

namespace PageLayout.Text

/-- Whether a word stands somewhere in a text. -/
def contains (word : List Char) : List Char → Bool
  | [] => word.isEmpty
  | c :: cs => word.isPrefixOf (c :: cs) || contains word cs

theorem contains_iff {word cs : List Char} : contains word cs ↔ word <:+: cs := by
  induction cs with
  | nil => simp [contains]
  | cons c cs ih =>
    rw [contains, Bool.or_eq_true, List.isPrefixOf_iff_prefix, ih, List.infix_cons_iff]

end PageLayout.Text
