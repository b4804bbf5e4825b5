import PageLayout.Proofs.Style.Clean
import PageLayout.Proofs.Style.Name

/-!
# Identifiers and their selectors

A selector says which identifier it was made from. A reader finds the identifier in it, whatever
characters it has and whatever stands behind the selector, so there are no two identifiers with one
selector, and no rule begins with the selector of another element.

- `readName_identifier_append`: an identifier reads back in front of a space.
- `identifier_injective`: different identifiers are written differently.
- `selector_prefix_rule_iff`: a rule begins with the selector of its own element only.
- `readName_identifier`: what is known of written identifiers.
-/

namespace PageLayout.Style

/-- An identifier reads back in front of a space, which ends it. -/
theorem readName_identifier_append (id : String) (rest : List Char) :
    readName ((identifier id).toList ++ ' ' :: rest) = (id.toList, ' ' :: rest) := by
  rw [toList_identifier]
  exact readName_identifierChars (by decide) (by decide) id.toList rest

/-- What stands behind the space does not matter for the identifier in front of it. -/
theorem eq_of_identifier_append_eq {id id' : String} {rest rest' : List Char}
    (h : (identifier id).toList ++ ' ' :: rest = (identifier id').toList ++ ' ' :: rest') :
    id = id' := by
  have hread := congrArg readName h
  rw [readName_identifier_append, readName_identifier_append] at hread
  exact String.toList_injective (Prod.mk.inj hread).1

/-- Different identifiers are written differently. -/
theorem identifier_injective : Function.Injective identifier := by
  intro id id' h
  have happend : (identifier id).toList ++ [' '] = (identifier id').toList ++ [' '] := by rw [h]
  exact eq_of_identifier_append_eq happend

/-- A rule begins with the selector of its own element and with no other one, also if the identifier
of one element is the beginning of that of another. -/
theorem selector_prefix_rule_iff (id id' : String) (style : Style) :
    (selector true id' ++ " \x7b").toList <+: (rule true id style).toList ↔ id' = id := by
  constructor
  · rintro ⟨rest, hrest⟩
    have happend : (identifier id').toList ++ ' ' :: '\x7b' :: rest =
        (identifier id).toList ++ ' ' :: ("\x7b " ++ body true style ++ " \x7d\n").toList := by
      simpa [rule, selector, String.toList_append] using hrest
    exact eq_of_identifier_append_eq happend
  · rintro rfl
    refine ⟨(" " ++ body true style ++ " \x7d\n").toList, ?_⟩
    simp [rule, String.toList_append]

/-- A written identifier reads back, and the brace behind it is where the reader stops. So different
identifiers are written differently. An identifier is written as it is just if all of its characters
stand for themselves and no digit is in front. -/
theorem readName_identifier :
    (∀ id rest : String, readName (identifier id ++ " \x7b" ++ rest).toList =
      (id.toList, (" \x7b" ++ rest).toList)) ∧
    Function.Injective identifier ∧
    ∀ id : String, identifier id = id ↔ IsCleanIdentifier id := by
  refine ⟨fun id rest => ?_, identifier_injective, fun id => identifier_eq_self_iff⟩
  have hread := readName_identifier_append id ('\x7b' :: rest.toList)
  simpa [String.toList_append] using hread

/-- The space that ends a code point is its own, and the one behind it belongs to the rule. -/
example : identifier "1\t" = "\\31 \\9 " := by
  decide

end PageLayout.Style
