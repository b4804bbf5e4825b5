import Mathlib.Data.List.TakeWhile
import PageLayout.Text.Blank

/-!
# Trimmed texts

Trimming takes the blanks off both ends of a text and nothing else.

- `trimBlanks_eq_nil_iff`: nothing is left of blanks only.
- `trimBlanks_append`: a text between blanks is what is left.
- `trimsTo_iff`: what is left, in terms of `TrimsTo`.
-/

namespace PageLayout.Text

/-- A text is what is left of it between blanks. -/
theorem exists_eq_append_trimBlanks (cs : List Char) :
    ∃ before after, (∀ c ∈ before, isBlank c) ∧ (∀ c ∈ after, isBlank c) ∧
      cs = before ++ trimBlanks cs ++ after := by
  refine ⟨cs.takeWhile isBlank, ((cs.dropWhile isBlank).reverse.takeWhile isBlank).reverse,
    fun c hc => List.mem_takeWhile_imp hc,
    fun c hc => List.mem_takeWhile_imp (List.mem_reverse.1 hc), ?_⟩
  rw [trimBlanks, List.append_assoc, ← List.reverse_append, List.takeWhile_append_dropWhile,
    List.reverse_reverse, List.takeWhile_append_dropWhile]

/-- Blanks are dropped up to the first character that is none. -/
theorem dropWhile_isBlank_append {before cs : List Char} (hbefore : ∀ c ∈ before, isBlank c)
    (hhead : ∀ c ∈ cs.head?, isBlank c = false) : (before ++ cs).dropWhile isBlank = cs := by
  rw [List.dropWhile_append_of_pos hbefore]
  cases cs with
  | nil => rfl
  | cons c cs => exact List.dropWhile_cons_of_neg (by simp [hhead c rfl])

/-- Blanks around a text that neither begins nor ends with one are taken off. -/
theorem trimBlanks_append {before cs after : List Char} (hbefore : ∀ c ∈ before, isBlank c)
    (hafter : ∀ c ∈ after, isBlank c) (hhead : ∀ c ∈ cs.head?, isBlank c = false)
    (hlast : ∀ c ∈ cs.getLast?, isBlank c = false) : trimBlanks (before ++ cs ++ after) = cs := by
  cases cs with
  | nil =>
    have hblank : (before ++ after).dropWhile isBlank = [] :=
      List.dropWhile_eq_nil_iff.2 (List.forall_mem_append.2 ⟨hbefore, hafter⟩)
    rw [trimBlanks, List.append_nil, hblank]
    rfl
  | cons c cs =>
    have hleft : (before ++ (c :: cs) ++ after).dropWhile isBlank = c :: cs ++ after := by
      rw [List.append_assoc]
      exact dropWhile_isBlank_append hbefore hhead
    have hright : (c :: cs ++ after).reverse.dropWhile isBlank = (c :: cs).reverse := by
      rw [List.reverse_append]
      refine dropWhile_isBlank_append (fun d hd => hafter d (List.mem_reverse.1 hd)) ?_
      rw [List.head?_reverse]
      exact hlast
    rw [trimBlanks, hleft, hright, List.reverse_reverse]

/-- A text is what is left of another one without the blanks at its two ends. -/
structure TrimsTo (cs trimmed : List Char) : Prop where
  around : ∃ before after, (∀ c ∈ before, isBlank c) ∧ (∀ c ∈ after, isBlank c) ∧
    cs = before ++ trimmed ++ after
  head : ∀ c ∈ trimmed.head?, isBlank c = false
  last : ∀ c ∈ trimmed.getLast?, isBlank c = false

/-- Behind the blanks at the beginning of a text there is no blank. -/
theorem isBlank_head?_dropWhile {cs : List Char} {c : Char}
    (hc : c ∈ (cs.dropWhile isBlank).head?) : isBlank c = false := by
  have hnot := List.head?_dropWhile_not isBlank cs
  rw [Option.mem_def.1 hc] at hnot
  exact hnot

theorem trimsTo_trimBlanks (cs : List Char) : TrimsTo cs (trimBlanks cs) where
  around := exists_eq_append_trimBlanks cs
  head c hc := by
    -- The second pass leaves the first character alone, unless it leaves nothing.
    have hbegins : trimBlanks cs <+: cs.dropWhile isBlank := by
      rw [← List.reverse_suffix, trimBlanks, List.reverse_reverse]
      exact List.dropWhile_suffix isBlank
    obtain ⟨rest, hrest⟩ := hbegins
    have hhead : c ∈ (cs.dropWhile isBlank).head? := by
      rw [← hrest, List.head?_append, Option.mem_def.1 hc]
      rfl
    exact isBlank_head?_dropWhile hhead
  last c hc := by
    rw [trimBlanks, List.getLast?_reverse] at hc
    exact isBlank_head?_dropWhile hc

/-- There is one text that is left. -/
theorem trimsTo_iff {cs trimmed : List Char} : TrimsTo cs trimmed ↔ trimBlanks cs = trimmed := by
  constructor
  · rintro ⟨⟨before, after, hbefore, hafter, rfl⟩, hhead, hlast⟩
    exact trimBlanks_append hbefore hafter hhead hlast
  · rintro rfl
    exact trimsTo_trimBlanks cs

/-- Nothing is left of a text if it consists of blanks. -/
theorem trimBlanks_eq_nil_iff {cs : List Char} : trimBlanks cs = [] ↔ ∀ c ∈ cs, isBlank c := by
  constructor
  · intro h
    obtain ⟨before, after, hbefore, hafter, hcs⟩ := exists_eq_append_trimBlanks cs
    rw [h, List.append_nil] at hcs
    rw [hcs]
    exact List.forall_mem_append.2 ⟨hbefore, hafter⟩
  · intro h
    rw [trimBlanks, List.dropWhile_eq_nil_iff.2 h]
    rfl

/-- Something is left of a text that holds a character other than a blank. -/
theorem trimBlanks_ne_nil {cs : List Char} {c : Char} (hc : c ∈ cs) (hblank : isBlank c = false) :
    trimBlanks cs ≠ [] := by
  rw [ne_eq, trimBlanks_eq_nil_iff]
  intro hall
  simp [hall c hc] at hblank

end PageLayout.Text
