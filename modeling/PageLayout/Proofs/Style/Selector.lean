import Mathlib.Tactic.SplitIfs
import PageLayout.Proofs.Text.Replaced
import PageLayout.Style.Selector

/-!
# What is written for an identifier

- `identifierChars_eq_self_iff`: the identifiers whose characters all stand for themselves.
- `toList_identifier`: looking for a character to escape first makes no difference.
-/

namespace PageLayout.Style

theorem codePointEscape_ne_singleton (c : Char) : codePointEscape c ≠ [c] := by
  intro h
  have hlength := congrArg List.length h
  simp [codePointEscape] at hlength

theorem codePointEscape_ne_nil (c : Char) : codePointEscape c ≠ [] := by
  simp [codePointEscape]

theorem nameChar_ne_nil (c : Char) : nameChar c ≠ [] := by
  unfold nameChar
  split_ifs
  · exact List.cons_ne_nil _ _
  · exact codePointEscape_ne_nil c
  · exact List.cons_ne_nil _ _

theorem nameChar_eq_singleton_iff (c : Char) : nameChar c = [c] ↔ isNameChar c := by
  unfold nameChar
  split_ifs with hname hcontrol
  · simp [hname]
  · simp [hname, codePointEscape_ne_singleton]
  · simp [hname]

/-- The characters of an identifier are written as they are if all of them stand for themselves and
the first is no digit, for which the same escape is used as for control characters. -/
theorem identifierChars_eq_self_iff (cs : List Char) :
    identifierChars cs = cs ↔
      (∀ c ∈ cs, isNameChar c) ∧ cs.head?.any Char.isDigit = false := by
  rcases cs with _ | ⟨c, cs⟩
  · simp [identifierChars]
  · rw [identifierChars, Text.append_flatMap_eq_cons_iff nameChar_ne_nil,
      Text.flatMap_eq_self_iff nameChar_ne_nil]
    · by_cases hdigit : c.isDigit
      · simp [hdigit, codePointEscape_ne_singleton]
      · simp [hdigit, nameChar_eq_singleton_iff]
    · -- Something is written for the first character in either way.
      split_ifs
      · exact codePointEscape_ne_nil c
      · exact nameChar_ne_nil c

theorem needsEscape_eq_false_iff {cs : List Char} :
    needsEscape cs = false ↔ (∀ c ∈ cs, isNameChar c) ∧ cs.head?.any Char.isDigit = false := by
  simp [needsEscape]

/-- A written identifier is what is written for its characters, also if it is left alone because
they all stand for themselves. -/
theorem toList_identifier (id : String) : (identifier id).toList = identifierChars id.toList := by
  rw [identifier]
  split
  · rw [String.toList_ofList]
  · next hnone =>
    have hself := needsEscape_eq_false_iff.1 (Bool.not_eq_true _ ▸ hnone)
    exact ((identifierChars_eq_self_iff _).2 hself).symm

end PageLayout.Style
