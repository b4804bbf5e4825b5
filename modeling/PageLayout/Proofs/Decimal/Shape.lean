import PageLayout.Json.Value

/-!
# The shape of numbers

What the texts of numbers begin with and what they hold, however they are spelled.

- `head?_natDigits_ne_zero`: the digits of a number have no zero in front.
- `Spelling.text_ne_empty` and `Number.text_ne_empty`: no number has an empty text.
- `Spelling.exists_mark_mem_text`: a double that keeps its point is seen to be no integer.
-/

namespace PageLayout.Decimal

theorem natDigits_ne_nil (n : Nat) : natDigits n ≠ [] :=
  Nat.toDigits_ne_nil

/-- No zero stands in front of the digits of a number, unless it is the only one. -/
theorem head?_natDigits_ne_zero {n : Nat} (h : n ≠ 0) : (natDigits n).head? ≠ some '0' := by
  induction n using Nat.strongRecOn with
  | _ n ih =>
    rw [natDigits, Nat.toDigits_eq_if (by decide)]
    split
    · next hn =>
      have hdigit : ∀ d < 10, d ≠ 0 → Nat.digitChar d ≠ '0' := by decide
      simpa using hdigit n hn h
    · next hn =>
      have hquotient := ih (n / 10) (by omega) (by omega)
      rw [natDigits] at hquotient
      rwa [List.head?_append, Option.or_of_isSome (by simp [Nat.toDigits_ne_nil])]

theorem intDigits_ne_nil (n : Int) : intDigits n ≠ [] := by
  cases n with
  | ofNat n => exact natDigits_ne_nil n
  | negSucc n => exact List.cons_ne_nil _ _

namespace Digits

theorem positional_ne_nil (d : Digits) (keepsPoint : Bool) : d.positional keepsPoint ≠ [] := by
  simp only [positional]
  split
  · simp [natDigits_ne_nil]
  · split <;> simp

theorem scientific_ne_nil (d : Digits) : d.scientific ≠ [] := by
  simp [scientific]

theorem point_mem_positional (d : Digits) : '.' ∈ d.positional true := by
  simp only [positional]
  split
  · simp
  · split <;> simp

theorem e_mem_scientific (d : Digits) : 'e' ∈ d.scientific := by
  simp [scientific]

end Digits

/-- The text of a double that keeps its point holds a character that no integer has. -/
theorem Spelling.exists_mark_mem_text {s : Spelling} (hs : s.keepsPoint) (x : Float) :
    ∃ c ∈ (s.text x).toList, c ≠ '-' ∧ c.isDigit = false := by
  rw [Spelling.text, String.toList_ofList]
  split
  · exact ⟨'N', by decide, by decide, by decide⟩
  · exact ⟨'i', by simp, by decide, by decide⟩
  · have hmark : ∀ (d : Digits) (p : Bool), ∃ c ∈ if p then d.positional true else d.scientific,
        c ≠ '-' ∧ c.isDigit = false := by
      rintro d (_ | _)
      · exact ⟨'e', d.e_mem_scientific, by decide, by decide⟩
      · exact ⟨'.', d.point_mem_positional, by decide, by decide⟩
    obtain ⟨c, hc, hcs⟩ := hmark (shortest s.tie _ _) (s.isPositional _)
    rw [hs]
    exact ⟨c, List.mem_append_right _ hc, hcs⟩

/-- The text of a double is not empty. -/
theorem Spelling.text_ne_empty (s : Spelling) (x : Float) : s.text x ≠ "" := by
  rw [ne_eq, ← String.toList_eq_nil_iff, Spelling.text, String.toList_ofList]
  split
  · exact List.cons_ne_nil _ _
  · simp
  · refine List.append_ne_nil_of_right_ne_nil _ ?_
    split
    · exact Digits.positional_ne_nil _ _
    · exact Digits.scientific_ne_nil _

end PageLayout.Decimal

namespace PageLayout.Json

/-- The text of a number is not empty. -/
theorem Number.text_ne_empty (n : Number) : n.text ≠ "" := by
  cases n with
  | whole n => simp [text, Decimal.intText, Decimal.intDigits_ne_nil]
  | real x => exact Decimal.Spelling.text_ne_empty _ x

end PageLayout.Json
