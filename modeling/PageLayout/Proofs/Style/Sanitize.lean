import PageLayout.Proofs.Text.Pairs
import PageLayout.Style.Basic

/-!
# What is left of a style value

- `keptChars_sublist`: characters are only dropped, and all delimiters are.
- `keptChars_eq_self_iff`: the values of which nothing is dropped.
- `toList_sanitize`: looking for something to drop first makes no difference.
- `isDelimiter_of_mem_sanitize`: a written value holds none of the delimiters.
-/

namespace PageLayout.Style

/-- The characters that are kept stand in the value in the same order, and none is a delimiter. -/
theorem keptChars_sublist (last : Option Char) (cs : List Char) :
    (keptChars last cs).Sublist (cs.filter fun c => !isDelimiter c) := by
  induction cs generalizing last with
  | nil => exact List.Sublist.refl _
  | cons c cs ih =>
    rw [keptChars]
    by_cases hc : isDelimiter c
    · simpa [hc] using ih last
    · rw [List.filter_cons_of_pos (by simpa using hc)]
      split
      · exact (ih last).cons c
      · exact (ih (some c)).cons_cons c

theorem length_keptChars_le (last : Option Char) (cs : List Char) :
    (keptChars last cs).length ≤ cs.length :=
  ((keptChars_sublist last cs).trans List.filter_sublist).length_le

/-- A character joins the last one kept if the two of them open or close a comment. -/
theorem joinsComment_eq_true_iff {last : Option Char} {c : Char} :
    joinsComment last c = true ↔ (last = some '/' ∧ c = '*') ∨ (last = some '*' ∧ c = '/') := by
  simp [joinsComment]

/-- A pair stands where two texts meet or in the second of them, if the first is one character or
empty. -/
theorem pair_infix_toList_append_iff {a b c : Char} {last : Option Char} {cs : List Char} :
    [a, b] <:+: last.toList ++ c :: cs ↔ (last = some a ∧ c = b) ∨ [a, b] <:+: c :: cs := by
  rcases last with _ | l
  · simp
  · simp [Text.pair_infix_cons_iff (c := l)]

/-- All characters of a value are kept if none of them is a delimiter and they make up no pair, also
not with the character kept before them. -/
theorem keptChars_eq_self_iff (last : Option Char) (cs : List Char) :
    keptChars last cs = cs ↔ (∀ c ∈ cs, isDelimiter c = false) ∧
      ¬ ['/', '*'] <:+: last.toList ++ cs ∧ ¬ ['*', '/'] <:+: last.toList ++ cs := by
  induction cs generalizing last with
  | nil =>
    rcases last with _ | l
    · simp [keptChars]
    · simp [keptChars, Text.pair_infix_cons_iff]
  | cons c cs ih =>
    rw [keptChars, List.forall_mem_cons, pair_infix_toList_append_iff,
      pair_infix_toList_append_iff]
    by_cases hdrop : isDelimiter c || joinsComment last c
    · rw [if_pos hdrop]
      constructor
      · -- There are not enough characters left.
        intro h
        have hle := length_keptChars_le last cs
        rw [h, List.length_cons] at hle
        omega
      · rintro ⟨⟨hc, -⟩, hopens, hcloses⟩
        rw [hc, Bool.false_or, joinsComment_eq_true_iff] at hdrop
        rcases hdrop with hpair | hpair
        · exact absurd (.inl hpair) hopens
        · exact absurd (.inl hpair) hcloses
    · -- The first character is kept, so it makes up no pair with the one before it.
      rw [if_neg hdrop, List.cons_inj_right, ih (some c)]
      simp only [Bool.or_eq_true, joinsComment_eq_true_iff, not_or, Bool.not_eq_true] at hdrop
      obtain ⟨hc, hopens, hcloses⟩ := hdrop
      simp [hc, hopens, hcloses]

theorem isClean_iff {cs : List Char} :
    isClean cs ↔ (∀ c ∈ cs, isDelimiter c = false) ∧
      ¬ ['/', '*'] <:+: cs ∧ ¬ ['*', '/'] <:+: cs := by
  simp [isClean, and_assoc, ← Text.contains_iff]

/-- A written value is what is kept of its characters, also if it is left alone because it is
clean. -/
theorem toList_sanitize (value : String) :
    (sanitize value).toList = keptChars none value.toList := by
  rw [sanitize]
  split
  · next hclean => exact ((keptChars_eq_self_iff none _).2 (isClean_iff.1 hclean)).symm
  · rw [String.toList_ofList]

theorem mem_sanitize {value : String} {c : Char} (hc : c ∈ (sanitize value).toList) :
    c ∈ value.toList ∧ isDelimiter c = false := by
  rw [toList_sanitize] at hc
  simpa using (keptChars_sublist none value.toList).subset hc

/-- A written value holds none of the delimiters. -/
theorem isDelimiter_of_mem_sanitize {value : String} {c : Char}
    (hc : c ∈ (sanitize value).toList) : isDelimiter c = false :=
  (mem_sanitize hc).2

/-- A delimiter is in no written value. -/
theorem notMem_sanitize {d : Char} (hd : isDelimiter d) (value : String) :
    d ∉ (sanitize value).toList := by
  intro hmem
  rw [isDelimiter_of_mem_sanitize hmem] at hd
  cases hd

theorem toList_text (declaration : Declaration) :
    (declaration.text true).toList =
      declaration.property.toList ++ (':' :: ' ' :: (sanitize declaration.value).toList) := by
  simp [Declaration.text]

end PageLayout.Style
