import PageLayout.Markup.Escape
import PageLayout.Proofs.Text.Cut

/-!
# Comments end where they are closed

A comment is read up to the first `-->`. No two dashes stand side by side in an escaped comment,
and a space comes after it, so the first `-->` is the one that closes the comment.

- `toList_escapeComment`: looking for dashes first makes no difference.
- `pair_not_infix_commentChars`: an escaped comment holds no two adjacent dashes.
- `lacks_content`: neither does it with the spaces around it, and there is no dash at its end.
- `breakAt?_comment`: what is read as the comment is the escaped comment between two spaces.
-/

namespace PageLayout.Markup

/-- The characters of a comment are left as they are if no two of them are adjacent dashes and,
after a dash, the first is none. -/
theorem commentChars_eq_self_iff (afterDash : Bool) (cs : List Char) :
    commentChars afterDash cs = cs ↔
      ¬ ['-', '-'] <:+: cs ∧ ¬ (afterDash ∧ cs.head? = some '-') := by
  induction cs generalizing afterDash with
  | nil => simp [commentChars]
  | cons c cs ih =>
    by_cases hc : c = '-'
    · subst hc
      rcases afterDash with _ | _
      · simp [commentChars, ih, Text.pair_infix_cons_iff, and_comm]
      · simp [commentChars]
    · simp [commentChars, ih, Text.pair_infix_cons_iff, hc]

/-- An escaped comment is what is written for its characters, also if it is left alone for want of
adjacent dashes. -/
theorem toList_escapeComment (text : String) :
    (escapeComment text).toList = commentChars false text.toList := by
  rw [escapeComment]
  split
  · rw [String.toList_ofList]
  · next hnone =>
    rw [Text.contains_iff] at hnone
    exact ((commentChars_eq_self_iff false text.toList).2 ⟨hnone, by simp⟩).symm

/-- After a dash, the next character written is no dash. -/
theorem head?_commentChars_true (cs : List Char) : (commentChars true cs).head? ≠ some '-' := by
  cases cs with
  | nil => simp [commentChars]
  | cons c cs =>
    by_cases hc : c = '-'
    · simp [commentChars, hc]
    · simp [commentChars, hc]

/-- An escaped comment holds no two adjacent dashes. -/
theorem pair_not_infix_commentChars (afterDash : Bool) (cs : List Char) :
    ¬ ['-', '-'] <:+: commentChars afterDash cs := by
  induction cs generalizing afterDash with
  | nil => simp [commentChars]
  | cons c cs ih =>
    by_cases hc : c = '-'
    -- What follows a dash was written after a dash, so it begins with a space, if with anything.
    · have hdash : ¬ ['-', '-'] <:+: '-' :: commentChars true cs := by
        rw [Text.pair_infix_cons_iff, not_or]
        exact ⟨fun h => head?_commentChars_true cs h.2, ih true⟩
      cases afterDash with
      | true => simpa [commentChars, hc, Text.pair_infix_cons_iff (c := ' ')] using hdash
      | false => simpa [commentChars, hc] using hdash
    · rw [commentChars, if_neg hc, Text.pair_infix_cons_iff, not_or]
      exact ⟨fun h => hc h.1, ih false⟩

/-- What a comment holds, an escaped text between two spaces, has no two adjacent dashes and does not
end in a dash. -/
theorem lacks_content (content : String) :
    Text.Lacks '-' '-' (' ' :: ((escapeComment content).toList ++ [' '])) where
  absent := by
    -- The two spaces are no dashes, so they make no pair either.
    rw [toList_escapeComment, Text.pair_infix_cons_iff, Text.pair_infix_append_iff]
    simp [pair_not_infix_commentChars, List.infix_cons_iff]
  getLast? := by
    rw [← List.cons_append, List.getLast?_concat]
    decide

/-- What is read as a comment is the escaped text between two spaces. -/
theorem breakAt?_comment (content : String) (rest : List Char) :
    Text.breakAt? ['-', '-', '>'] (' ' :: ((escapeComment content).toList ++ ' ' ::
        ('-' :: '-' :: '>' :: rest))) =
      some (' ' :: ((escapeComment content).toList ++ [' ']), rest) := by
  have hcontent := lacks_content content
  simpa using Text.breakAt?_append_of_pair hcontent.absent hcontent.getLast? ['>'] rest

end PageLayout.Markup
