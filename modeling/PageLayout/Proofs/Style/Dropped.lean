import PageLayout.Proofs.Style.Clean

/-!
# What is dropped of a style value

Nothing is dropped of a value without a reason, and nothing is kept for which there is one. The
reason is the character itself, or the last character that was kept in front of it: two characters
that the value has apart may come to stand side by side, so it is what has been written that counts,
not what the value has there.

- `IsDropped`: the reasons.
- `Accounts`: a marking of the characters of a value that accounts for what is written of it.
- `keptChars_append`: a value is gone through from left to right.
- `exists_accounts_iff`: what is written is the only text that a marking accounts for.
- `sanitize_minimal`: all that is known of the written value.
-/

namespace PageLayout.Style

/-- Why a character is dropped: it is a delimiter, or it would open or close a comment with the last
character kept in front of it. -/
inductive IsDropped (last : Option Char) : Char → Prop
  | delimiter {c : Char} (hc : c ∈ [';', '\x7b', '\x7d', '<', '>', '\\']) : IsDropped last c
  | opens (hlast : last = some '/') : IsDropped last '*'
  | closes (hlast : last = some '*') : IsDropped last '/'

/-- The characters of a text, each with a mark that says whether it is kept. -/
abbrev Marking := List (Char × Bool)

namespace Marking

/-- The characters that are marked. -/
def kept (marking : Marking) : List Char :=
  (marking.filter Prod.snd).map Prod.fst

/-- A marking of a value accounts for what is written of it: just the marked characters are, and a
character is not marked just if there is a reason to drop it. -/
structure Accounts (marking : Marking) (value written : List Char) : Prop where
  value : marking.map Prod.fst = value
  written : marking.kept = written
  reason : ∀ (before : Marking) c mark after, marking = before ++ (c, mark) :: after →
    (mark = false ↔ IsDropped before.kept.getLast? c)

end Marking

/-! ## From left to right -/

theorem isDropped_iff {last : Option Char} {c : Char} :
    IsDropped last c ↔ (isDelimiter c || joinsComment last c) = true := by
  rw [Bool.or_eq_true, joinsComment_eq_true_iff]
  constructor
  · rintro (hc | hlast | hlast)
    · left
      by_contra hnot
      exact (isDelimiter_eq_false_iff c).1 (Bool.eq_false_iff.2 hnot) hc
    · exact .inr (.inl ⟨hlast, rfl⟩)
    · exact .inr (.inr ⟨hlast, rfl⟩)
  · rintro (hc | ⟨hlast, rfl⟩ | ⟨hlast, rfl⟩)
    · refine .delimiter ?_
      by_contra hnot
      rw [(isDelimiter_eq_false_iff c).2 hnot] at hc
      cases hc
    · exact .opens hlast
    · exact .closes hlast

/-- What is kept of the second of two texts depends on the first one only by the last character that
is kept of it. -/
theorem keptChars_append (last : Option Char) (cs ds : List Char) :
    keptChars last (cs ++ ds) =
      keptChars last cs ++ keptChars ((keptChars last cs).getLast?.or last) ds := by
  induction cs generalizing last with
  | nil => rfl
  | cons c cs ih =>
    rw [List.cons_append, keptChars, keptChars]
    split
    · exact ih last
    · -- Behind `c` there is always a last character, which is `c` or comes later.
      have hlast : (c :: keptChars (some c) cs).getLast?.or last =
          (keptChars (some c) cs).getLast?.or (some c) := by
        rw [List.getLast?_cons]
        cases (keptChars (some c) cs).getLast? <;> rfl
      rw [ih, hlast, List.cons_append]

/-- One more character is kept, unless there is a reason to drop it. -/
theorem keptChars_concat (cs : List Char) (c : Char) :
    (IsDropped (keptChars none cs).getLast? c ∧ keptChars none (cs ++ [c]) = keptChars none cs) ∨
      (¬ IsDropped (keptChars none cs).getLast? c ∧
        keptChars none (cs ++ [c]) = keptChars none cs ++ [c]) := by
  rw [keptChars_append, Option.or_none, isDropped_iff, keptChars]
  split
  · next hdrop => exact .inl ⟨hdrop, by simp [keptChars]⟩
  · next hkeep => exact .inr ⟨hkeep, by simp [keptChars]⟩

/-! ## Markings -/

namespace Marking

variable {marking : Marking} {value written : List Char} {c : Char} {mark : Bool}

theorem kept_concat (marking : Marking) (c : Char) (mark : Bool) :
    kept (marking ++ [(c, mark)]) = if mark then marking.kept ++ [c] else marking.kept := by
  cases mark <;> simp [kept]

/-- A marking is continued by a character with the mark that is due to it. -/
theorem Accounts.concat (h : marking.Accounts value written)
    (hmark : mark = false ↔ IsDropped written.getLast? c) :
    Accounts (marking ++ [(c, mark)]) (value ++ [c])
      (if mark then written ++ [c] else written) where
  value := by rw [List.map_append, h.value]; rfl
  written := by rw [kept_concat, h.written]
  reason before d mark' after heq := by
    rcases List.eq_nil_or_concat after with rfl | ⟨after, last, rfl⟩
    · obtain ⟨rfl, hsame⟩ := List.append_inj' heq rfl
      obtain ⟨rfl, rfl⟩ := Prod.mk.inj (List.cons.inj hsame).1
      rw [h.written]
      exact hmark
    · -- The character in question was there before.
      refine h.reason before d mark' after ?_
      rw [List.concat_eq_append, ← List.cons_append, ← List.append_assoc] at heq
      exact (List.append_inj' heq rfl).1

/-- A marking without its last character is a marking of the characters that are left. -/
theorem Accounts.of_concat (h : Accounts (marking ++ [(c, mark)]) value written) :
    marking.Accounts (marking.map Prod.fst) marking.kept where
  value := rfl
  written := rfl
  reason before d mark' after heq := by
    refine h.reason before d mark' (after ++ [(c, mark)]) ?_
    rw [heq, List.append_assoc, List.cons_append]

/-- There is a marking that accounts for what is kept. -/
theorem exists_accounts (value : List Char) :
    ∃ marking : Marking, marking.Accounts value (keptChars none value) := by
  induction value using List.reverseRecOn with
  | nil => exact ⟨[], rfl, rfl, by simp⟩
  | append_singleton value c ih =>
    obtain ⟨marking, h⟩ := ih
    rcases keptChars_concat value c with ⟨hdrop, hkept⟩ | ⟨hkeep, hkept⟩
    · rw [hkept]
      have hmark : false = false ↔ IsDropped (keptChars none value).getLast? c :=
        iff_of_true rfl hdrop
      exact ⟨_, h.concat hmark⟩
    · rw [hkept]
      have hmark : true = false ↔ IsDropped (keptChars none value).getLast? c :=
        iff_of_false (by decide) hkeep
      exact ⟨_, h.concat hmark⟩

/-- A marking accounts for nothing but what is kept. -/
theorem Accounts.eq_keptChars (h : marking.Accounts value written) :
    written = keptChars none value := by
  induction marking using List.reverseRecOn generalizing value written with
  | nil =>
    obtain rfl := h.value
    obtain rfl := h.written
    rfl
  | append_singleton marking marked ih =>
    obtain ⟨c, mark⟩ := marked
    have hkept : kept marking = keptChars none (marking.map Prod.fst) := ih h.of_concat
    have hreason := h.reason marking c mark [] rfl
    obtain rfl := h.value
    obtain rfl := h.written
    rw [kept_concat, List.map_append, hkept]
    rw [hkept] at hreason
    rcases keptChars_concat (marking.map Prod.fst) c with ⟨hdrop, hnext⟩ | ⟨hkeep, hnext⟩
    · rw [hreason.2 hdrop]
      exact hnext.symm
    · rw [(Bool.not_eq_false mark).mp (mt hreason.1 hkeep)]
      exact hnext.symm

/-- What is kept is the only text that a marking accounts for. -/
theorem exists_accounts_iff :
    (∃ marking : Marking, marking.Accounts value written) ↔ written = keptChars none value := by
  constructor
  · rintro ⟨marking, h⟩
    exact h.eq_keptChars
  · rintro rfl
    exact exists_accounts value

end Marking

/-! ## Written values -/

/-- A written value needs no escaping any more. -/
theorem isCleanValue_sanitize (value : String) : IsCleanValue (sanitize value) where
  delimiters c hc := (isDelimiter_eq_false_iff c).1 (isDelimiter_of_mem_sanitize hc)
  opens := isInert_sanitize value ('/', '*') (by decide)
  closes := isInert_sanitize value ('*', '/') (by decide)

/-- What is written of a value holds no delimiters, and neither opens nor closes a comment. It has
characters of the value in their order, all of them just if the value itself is like that, and is
written alike once more. No character is dropped but a delimiter and what would open or close a
comment with the last character kept in front of it, and these are always dropped. -/
theorem sanitize_minimal (value : String) :
    IsCleanValue (sanitize value) ∧
    (sanitize value).toList.Sublist value.toList ∧
    (sanitize value = value ↔ IsCleanValue value) ∧
    sanitize (sanitize value) = sanitize value ∧
    ∀ written : String, (∃ marking : Marking, marking.Accounts value.toList written.toList) ↔
      written = sanitize value := by
  refine ⟨isCleanValue_sanitize value, ?_, sanitize_eq_self_iff,
    sanitize_eq_self_iff.2 (isCleanValue_sanitize value), fun written => ?_⟩
  · rw [toList_sanitize]
    exact (keptChars_sublist none value.toList).trans List.filter_sublist
  · rw [Marking.exists_accounts_iff, ← String.toList_inj, toList_sanitize]

/-- What is dropped leaves two characters side by side that were apart, and then one of them goes
too. -/
example : sanitize "/;*" = "/" ∧ sanitize "*\\/<*" = "**" := by
  decide

end PageLayout.Style
