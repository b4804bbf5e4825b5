import PageLayout.Json.Value

/-!
# The characters of numbers

However a number is spelled, its text is made of letters, digits, signs and points.

- `isNumberText_text`: the texts of doubles, in every spelling.
- `isNumberText_number`: the texts of numbers in styles.
-/

namespace PageLayout.Decimal

/-- A character that the text of a number may hold. -/
def isNumberChar (c : Char) : Bool :=
  c.isAlphanum || c == '-' || c == '.' || c == '+'

/-- A text of characters that the text of a number may hold. -/
def IsNumberText (cs : List Char) : Prop :=
  cs.all isNumberChar = true

instance (cs : List Char) : Decidable (IsNumberText cs) :=
  inferInstanceAs (Decidable (_ = true))

namespace IsNumberText

variable {cs ds : List Char}

theorem append (hcs : IsNumberText cs) (hds : IsNumberText ds) : IsNumberText (cs ++ ds) := by
  rw [IsNumberText, List.all_append, hcs, hds]
  rfl

theorem cons {c : Char} (hc : isNumberChar c) (hcs : IsNumberText cs) :
    IsNumberText (c :: cs) := by
  rw [IsNumberText, List.all_cons, hc, hcs]
  rfl

theorem of_subset (hds : IsNumberText ds) (hsubset : cs ⊆ ds) : IsNumberText cs :=
  List.all_eq_true.2 fun c hc => List.all_eq_true.1 hds c (hsubset hc)

theorem zeros (n : Nat) : IsNumberText (List.replicate n '0') := by
  induction n with
  | zero => rfl
  | succ n ih => exact .cons (by decide) ih

end IsNumberText

theorem isNumberText_natDigits (n : Nat) : IsNumberText (natDigits n) := by
  refine List.all_eq_true.2 fun c hc => ?_
  have hdigit : c.isDigit := Nat.isDigit_of_mem_toDigits (by decide) (by decide) hc
  simp [isNumberChar, Char.isAlphanum, hdigit]

theorem isNumberText_intDigits (n : Int) : IsNumberText (intDigits n) := by
  cases n with
  | ofNat n => exact isNumberText_natDigits n
  | negSucc n => exact .cons (by decide) (isNumberText_natDigits (n + 1))

namespace Digits

theorem isNumberText_positional (d : Digits) (keepsPoint : Bool) :
    IsNumberText (d.positional keepsPoint) := by
  have hdigits := isNumberText_natDigits d.significand
  simp only [positional]
  -- The point comes after all digits, among them, or in front of them.
  split
  · refine (hdigits.append (.zeros _)).append ?_
    split <;> decide
  · split
    · exact (hdigits.of_subset (List.take_subset _ _)).append
        (.cons (by decide) (hdigits.of_subset (List.drop_subset _ _)))
    · exact .append (.cons (by decide) (.cons (by decide) (.zeros _))) hdigits

theorem isNumberText_scientific (d : Digits) : IsNumberText d.scientific := by
  have hdigits := isNumberText_natDigits d.significand
  have hfraction := hdigits.of_subset (List.drop_subset 1 _)
  have hexponent : IsNumberText ('e' :: (if d.leadingPower < 0 then [] else ['+'])) := by
    split <;> decide
  simp only [scientific]
  refine .append (.append (.append (hdigits.of_subset (List.take_subset _ _)) ?_) hexponent)
    (isNumberText_intDigits _)
  split
  · decide
  · exact .cons (by decide) hfraction

end Digits

/-- The text of a double is made of characters of numbers. -/
theorem isNumberText_text (s : Spelling) (x : Float) : IsNumberText (s.text x).toList := by
  have hsign : ∀ negative : Bool, IsNumberText (if negative then ['-'] else []) := by
    intro negative
    cases negative <;> decide
  rw [Spelling.text, String.toList_ofList]
  split
  · decide
  · exact (hsign _).append (by decide)
  · refine (hsign _).append ?_
    split
    · exact Digits.isNumberText_positional _ _
    · exact Digits.isNumberText_scientific _

/-- The text of a number in a style is made of characters of numbers. -/
theorem isNumberText_number (n : Json.Number) : IsNumberText n.text.toList := by
  cases n with
  | whole n =>
    rw [Json.Number.text, intText, String.toList_ofList]
    exact isNumberText_intDigits n
  | real x => exact isNumberText_text _ x

end PageLayout.Decimal
