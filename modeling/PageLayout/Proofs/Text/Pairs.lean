import Mathlib.Data.List.Chain
import Mathlib.Data.List.Infix

/-!
# Adjacent characters

Two characters stand side by side in a text if they do so in one of its parts, or if they meet
where one part ends and the next one begins.

- `pair_infix_cons_iff`: a text with one more character in front.
- `pair_infix_append_iff`: two texts, one after the other.
- `isChain_iff_pair_not_infix`: a pair is absent if no character is followed by the wrong one.
- `Lacks`: texts that neither hold a pair nor begin one.
- `Lacks.append_eq_iff`: behind such a text, a pair stands where it stands without the text.
-/

namespace PageLayout.Text

variable {a b c : Char} {cs ds : List Char}

theorem pair_prefix_cons_iff : [a, b] <+: c :: cs ↔ c = a ∧ cs.head? = some b := by
  cases cs with
  | nil => simp
  | cons d cs => simp [eq_comm]

/-- A pair stands in a text with one more character in front if that character begins it, or if it
stands in the text. -/
theorem pair_infix_cons_iff :
    [a, b] <:+: c :: cs ↔ (c = a ∧ cs.head? = some b) ∨ [a, b] <:+: cs := by
  rw [List.infix_cons_iff, pair_prefix_cons_iff]

/-- A pair stands in two texts that follow each other if it stands in one of them or where they
meet. -/
theorem pair_infix_append_iff :
    [a, b] <:+: cs ++ ds ↔
      [a, b] <:+: cs ∨ [a, b] <:+: ds ∨ (cs.getLast? = some a ∧ ds.head? = some b) := by
  induction cs with
  | nil => simp
  | cons c cs ih =>
    rw [List.cons_append, pair_infix_cons_iff, ih, pair_infix_cons_iff]
    -- The character in front meets the second text only if there is nothing between them.
    cases cs with
    | nil => simp [or_comm]
    | cons d cs =>
      rw [List.cons_append, List.head?_cons, List.head?_cons, List.getLast?_cons_cons]
      tauto

/-- A pair is absent from a text if the second character of the pair never follows the first. -/
theorem isChain_iff_pair_not_infix :
    cs.IsChain (fun c d => ¬ (c = a ∧ d = b)) ↔ ¬ [a, b] <:+: cs := by
  induction cs with
  | nil => simp
  | cons c cs ih =>
    rw [List.isChain_cons, ih, pair_infix_cons_iff, not_or]
    refine and_congr_left fun _ => ⟨fun h hpair => h b hpair.2 ⟨hpair.1, rfl⟩, ?_⟩
    rintro h d hd ⟨rfl, rfl⟩
    exact h ⟨rfl, hd⟩

/-- A pair does not stand in a text, and the text does not end in the first character of the pair,
so it does not begin the pair either. -/
structure Lacks (a b : Char) (cs : List Char) : Prop where
  absent : ¬ [a, b] <:+: cs
  getLast? : cs.getLast? ≠ some a

/-- A text without the first character of a pair lacks the pair. -/
theorem Lacks.of_notMem (ha : a ∉ cs) : Lacks a b cs where
  absent h := ha (h.subset List.mem_cons_self)
  getLast? h := ha (List.mem_of_getLast? h)

/-- Two texts that lack a pair lack it together. -/
theorem Lacks.append (hcs : Lacks a b cs) (hds : Lacks a b ds) : Lacks a b (cs ++ ds) where
  absent := by
    rw [pair_infix_append_iff]
    rintro (h | h | ⟨h, -⟩)
    · exact hcs.absent h
    · exact hds.absent h
    · exact hcs.getLast? h
  getLast? h := by
    rw [List.getLast?_append, Option.or_eq_some_iff] at h
    rcases h with h | ⟨-, h⟩
    · exact hds.getLast? h
    · exact hcs.getLast? h

/-- If the first of two texts lacks a pair, the pair stands in both together where it stands in the
second one, and nowhere else. -/
theorem Lacks.append_eq_iff (hcs : Lacks a b cs) {before after : List Char} :
    cs ++ ds = before ++ a :: b :: after ↔
      ∃ more, before = cs ++ more ∧ ds = more ++ a :: b :: after := by
  constructor
  · intro h
    rcases List.append_eq_append_iff.1 h with hmore | ⟨more, rfl, hmore⟩
    · exact hmore
    · -- The pair would begin within the first text, unless it begins right behind it.
      match more with
      | [] => exact ⟨[], by simp, hmore.symm⟩
      | [d] =>
        obtain ⟨rfl, -⟩ := List.cons.inj hmore
        exact absurd List.getLast?_concat hcs.getLast?
      | d :: e :: more =>
        simp only [List.cons_append, List.cons.injEq] at hmore
        obtain ⟨rfl, rfl, -⟩ := hmore
        exact absurd ⟨before, more, by simp⟩ hcs.absent
  · rintro ⟨more, rfl, rfl⟩
    rw [List.append_assoc]

end PageLayout.Text
