import PageLayout.Proofs.Decimal.Characters
import PageLayout.Proofs.Kind.Members
import PageLayout.Proofs.Style.Clean
import PageLayout.Proofs.Style.Scanner

/-!
# Delimiters of the rules of elements

Neither the identifier nor the place of an element keeps a reader of strings and brackets from the
delimiters of its rule, and a number in a style does not either. A string in a style does if it
leaves a quote or a bracket open, since neither of these is dropped from written values.

- `isBalanced_text_iff`: a declaration with a plain property is balanced if its written value is.
- `isBalanced_number`: numbers are.
- `meetsDelimiters_resolve_iff`: for the rule of an element, what its type declares decides.
-/

namespace PageLayout

open Style

/-- A declaration whose property opens nothing is read like its written value. -/
theorem isBalanced_text_iff {property value : String}
    (hproperty : property.toList.any openings.contains = false) :
    IsBalanced ((⟨property, value⟩ : Declaration).text true).toList ↔
      IsBalanced (sanitize value).toList := by
  have hcolon : IsBalanced [':', ' '] := rfl
  have htext : ((⟨property, value⟩ : Declaration).text true).toList =
      property.toList ++ [':', ' '] ++ (sanitize value).toList := by
    rw [toList_text]
    simp
  rw [htext, ((isBalanced_of_any_eq_false hproperty).append hcolon).append_iff]

/-- A written value made of characters of numbers is balanced. -/
theorem isBalanced_sanitize_of_isNumberText {value : String}
    (hvalue : Decimal.IsNumberText value.toList) : IsBalanced (sanitize value).toList :=
  isBalanced_of_class (show openings.any Decimal.isNumberChar = false by decide)
    fun c hc => List.all_eq_true.1 hvalue c (mem_sanitize hc).1

/-- A number in a style leaves nothing open. -/
theorem isBalanced_number (n : Json.Number) : IsBalanced (sanitize n.text).toList :=
  isBalanced_sanitize_of_isNumberText (Decimal.isNumberText_number n)

/-- The declarations that place an element leave nothing open. -/
theorem isBalanced_geometry (element : Element) :
    ∀ d ∈ geometry element, IsBalanced (d.text true).toList := by
  intro d hd
  obtain ⟨hproperty, hvalue⟩ := isNumberText_geometry element d hd
  have hopenings : d.property.toList.any openings.contains = false := by
    rw [List.any_eq_false]
    intro c hc hopens
    exact isFreeOf_of_isNumberText (by decide) hproperty c hc (List.contains_iff_mem.1 hopens)
  exact (isBalanced_text_iff hopenings).2 (isBalanced_sanitize_of_isNumberText hvalue)

/-- The reader meets the delimiters of the rule of an element just if every declaration that its
type adds is balanced. -/
theorem meetsDelimiters_resolve_iff (registry : Registry) (element : Element) :
    MeetsDelimiters element.id (registry.resolve element) ↔
      ∀ d ∈ (registry.kindOf element).style element, IsBalanced (d.text true).toList := by
  rw [meetsDelimiters_iff, Registry.resolve, Kind.resolve, List.forall_mem_append]
  exact ⟨And.right, And.intro (isBalanced_geometry element)⟩

/-- The color of this text opens a string, which ends neither at the brace behind it nor with the
rule. -/
theorem not_meetsDelimiters_quote :
    ¬ MeetsDelimiters "a" (Registry.builtin.resolve ⟨"a", "text", 0, 0, 1, 1,
      .ofList [("content", .string "A"), ("color", .string "\"")]⟩) := by
  rw [meetsDelimiters_iff]
  intro h
  have hcolor := h ⟨"color", "\""⟩ (List.mem_append_right _ (List.mem_singleton.2 rfl))
  revert hcolor
  decide

end PageLayout
