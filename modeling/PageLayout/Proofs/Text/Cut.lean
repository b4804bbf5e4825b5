import Mathlib.Data.List.Basic
import Mathlib.Data.List.SplitBy
import PageLayout.Proofs.Text.Pairs

/-!
# Cutting texts

A reader cuts a text where a character is met that cannot belong to what is being read, or where
a pattern stands for the first time. This module has the second kind of cut, and says what both
give on a text that was put together from the parts.

- `takeWhile_append_cons` and `dropWhile_append_cons`: a run of characters ends at the first one
  outside of its class.
- `breakAt?_append`: a text is cut at a pattern whose first character comes in front of it nowhere
  else.
- `breakAt?_append_of_pair`: a text is cut at a pattern if the text in front of it neither holds the
  first two characters of the pattern side by side nor ends in the first one.
- `splitOn_intercalate_pair`: texts with a separator between any two are cut apart again.
- `endedPieces?_concat`: so are texts with a mark at the end of each.
- `exists_isCutBetween`: a text can be cut just where two characters stand side by side.
-/

namespace PageLayout.Text

/-- The texts before and after the first occurrence of a pattern. -/
def breakAt? (pattern : List Char) : List Char → Option (List Char × List Char)
  | [] => none
  | c :: cs =>
    match pattern.isPrefixOf? (c :: cs) with
    | some rest => some ([], rest)
    | none => (breakAt? pattern cs).map fun (before, rest) => (c :: before, rest)

variable {p : Char → Bool} {before : List Char} {d : Char}

/-- A run of characters ends at the first one outside of its class. -/
theorem takeWhile_append_cons (hp : ∀ c ∈ before, p c) (hd : p d = false) (rest : List Char) :
    (before ++ d :: rest).takeWhile p = before := by
  rw [List.takeWhile_append_of_pos hp, List.takeWhile_cons_of_neg (by simp [hd]),
    List.append_nil]

/-- What follows a run of characters begins with the first one outside of its class. -/
theorem dropWhile_append_cons (hp : ∀ c ∈ before, p c) (hd : p d = false) (rest : List Char) :
    (before ++ d :: rest).dropWhile p = d :: rest := by
  rw [List.dropWhile_append_of_pos hp, List.dropWhile_cons_of_neg (by simp [hd])]

/-- A text begins with each of its prefixes. -/
theorem isPrefixOf?_append (pattern rest : List Char) :
    pattern.isPrefixOf? (pattern ++ rest) = some rest :=
  List.isPrefixOf?_eq_some_iff_append_eq.2 rfl

/-- A pattern is no prefix of a text that begins with another character. -/
theorem isPrefixOf?_cons_of_ne {a c : Char} (h : a ≠ c) (pattern rest : List Char) :
    (a :: pattern).isPrefixOf? (c :: rest) = none := by
  simp [List.isPrefixOf?, h]

/-- A text that begins with the pattern is cut at its beginning. -/
theorem breakAt?_self (a : Char) (pattern rest : List Char) :
    breakAt? (a :: pattern) (a :: pattern ++ rest) = some ([], rest) := by
  have hprefix := isPrefixOf?_append (a :: pattern) rest
  rw [List.cons_append] at hprefix ⊢
  rw [breakAt?, hprefix]

/-- A text is cut at a pattern whose first character comes in front of it nowhere else. -/
theorem breakAt?_append {a : Char} (ha : a ∉ before) (pattern rest : List Char) :
    breakAt? (a :: pattern) (before ++ (a :: pattern ++ rest)) = some (before, rest) := by
  induction before with
  | nil => exact breakAt?_self a pattern rest
  | cons c cs ih =>
    -- The pattern does not begin at `c`, because it begins with another character.
    obtain ⟨hac, hacs⟩ := List.ne_and_not_mem_of_not_mem_cons ha
    rw [List.cons_append, breakAt?, isPrefixOf?_cons_of_ne hac, ih hacs]
    rfl

/-- A text is cut at a pattern if the text in front of it neither holds the first two characters of
the pattern side by side nor ends in the first one. -/
theorem breakAt?_append_of_pair {a b : Char} (hpair : ¬ [a, b] <:+: before)
    (hlast : before.getLast? ≠ some a) (pattern rest : List Char) :
    breakAt? (a :: b :: pattern) (before ++ (a :: b :: pattern ++ rest)) = some (before, rest) := by
  induction before with
  | nil => exact breakAt?_self a (b :: pattern) rest
  | cons c cs ih =>
    rw [pair_infix_cons_iff, not_or] at hpair
    have htail : breakAt? (a :: b :: pattern) (cs ++ (a :: b :: pattern ++ rest)) =
        some (cs, rest) := by
      refine ih hpair.2 fun h => hlast ?_
      rw [List.getLast?_cons, h]
      rfl
    -- The pattern does not begin at `c`: the pair would stand in the text, or end it.
    have hnone : (a :: b :: pattern).isPrefixOf? (c :: (cs ++ (a :: b :: pattern ++ rest))) =
        none := by
      by_cases hc : a = c
      · subst hc
        cases cs with
        | nil => exact absurd rfl hlast
        | cons d ds =>
          have hd : b ≠ d := by
            rintro rfl
            exact hpair.1 ⟨rfl, rfl⟩
          simp [List.isPrefixOf?, hd]
      · exact isPrefixOf?_cons_of_ne hc _ _
    rw [List.cons_append, breakAt?, hnone, htail]
    rfl

/-- Texts with a two-character separator between any two are cut at its first character. The
second one is left in front of each text but the first. -/
theorem splitOn_intercalate_pair (a b : Char) (hab : a ≠ b) {first : List Char}
    (hfirst : a ∉ first) {others : List (List Char)} (hothers : ∀ text ∈ others, a ∉ text) :
    ([a, b].intercalate (first :: others)).splitOn a = first :: others.map (b :: ·) := by
  induction others generalizing first with
  | nil => simpa using List.splitOn_eq_singleton hfirst
  | cons second others ih =>
    obtain ⟨hsecond, hothers⟩ := List.forall_mem_cons.1 hothers
    -- The cut leaves `b` with the second text, which is the first one of what remains.
    rw [List.intercalate_cons_cons, List.append_assoc, List.cons_append, List.cons_append,
      List.nil_append, List.splitOn_append_cons_self_of_not_mem hfirst,
      ← List.intercalate_cons_cons_left, ih (by simp [hab, hsecond]) hothers]
    rfl

/-- The pieces between the marks of a text. The empty text has none. -/
def pieces (mark : Char) (cs : List Char) : List (List Char) :=
  if cs = [] then [] else cs.splitOn mark

/-- The pieces of a text in which a mark ends every piece. Nothing may be left behind the last
mark. -/
def endedPieces? (mark : Char) (cs : List Char) : Option (List (List Char)) :=
  if (cs.splitOn mark).getLast? = some [] then some (cs.splitOn mark).dropLast else none

/-- A mark behind a text ends the last of its pieces. -/
theorem endedPieces?_concat (mark : Char) (cs : List Char) :
    endedPieces? mark (cs ++ [mark]) = some (cs.splitOn mark) := by
  have hsplit : (cs ++ [mark]).splitOn mark = cs.splitOn mark ++ [[]] :=
    List.splitOn_append_cons_self cs []
  rw [endedPieces?, hsplit, if_pos List.getLast?_concat, List.dropLast_concat]

/-- A character of texts with a separator between any two is one of the separator or of a text. -/
theorem mem_intercalate {separator : List Char} {texts : List (List Char)} {c : Char}
    (hc : c ∈ separator.intercalate texts) : c ∈ separator ∨ ∃ text ∈ texts, c ∈ text := by
  induction texts with
  | nil => simp at hc
  | cons text texts ih =>
    cases texts with
    | nil => exact .inr ⟨text, List.mem_cons_self, by simpa using hc⟩
    | cons next texts =>
      rw [List.intercalate_cons_cons, List.mem_append, List.mem_append] at hc
      obtain (htext | hseparator) | hrest := hc
      · exact .inr ⟨text, List.mem_cons_self, htext⟩
      · exact .inl hseparator
      · refine (ih hrest).imp_right fun ⟨found, hfound, hmem⟩ => ?_
        exact ⟨found, List.mem_cons_of_mem _ hfound, hmem⟩

/-! ## Cuts between two characters -/

/-- The pieces of a text that is cut just where two characters stand side by side: no piece holds
the pair, and each piece meets the next one in it. -/
structure IsCutBetween (a b : Char) (pieces : List (List Char)) (cs : List Char) : Prop where
  flatten : pieces.flatten = cs
  nil_notMem : [] ∉ pieces
  uncut : ∀ piece ∈ pieces, ¬ [a, b] <:+: piece
  meet : pieces.IsChain fun piece next => piece.getLast? = some a ∧ next.head? = some b

/-- Every text can be cut in this way. -/
theorem exists_isCutBetween (a b : Char) (cs : List Char) :
    ∃ pieces, IsCutBetween a b pieces cs := by
  refine ⟨cs.splitBy fun c d => !(c == a && d == b), List.flatten_splitBy _ _,
    List.nil_notMem_splitBy _ _, fun piece hpiece => ?_, ?_⟩
  · rw [← isChain_iff_pair_not_infix]
    refine (List.isChain_of_mem_splitBy hpiece).imp fun c d hcd => ?_
    simpa only [Bool.not_eq_true', Bool.and_eq_false_iff, beq_eq_false_iff_ne, not_and_or]
      using hcd
  · refine (List.isChain_getLast_head_splitBy _ cs).imp fun piece next => ?_
    rintro ⟨hpiece, hnext, hpair⟩
    rw [List.getLast?_eq_getLast_of_ne_nil hpiece, List.head?_eq_some_head hnext]
    simpa using hpair

/-- The pieces behind the first one are those of the text behind it. -/
theorem IsCutBetween.tail {a b : Char} {piece : List Char} {pieces : List (List Char)}
    {cs : List Char} (h : IsCutBetween a b (piece :: pieces) cs) :
    IsCutBetween a b pieces pieces.flatten where
  flatten := rfl
  nil_notMem := List.not_mem_of_not_mem_cons h.nil_notMem
  uncut next hnext := h.uncut next (List.mem_cons_of_mem _ hnext)
  meet := h.meet.tail

end PageLayout.Text
