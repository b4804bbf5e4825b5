import Mathlib.Data.List.TakeWhile
import PageLayout.Document.Span
import PageLayout.Proofs.Json.Position

/-!
# Ranges of errors in a text

The range of an error is found line by line. It always lies in the text and on the line of the
error, whatever the column is. It is the one character at the place of the error only if every
character before it on its line is one byte long, because the columns of errors count bytes and
those of ranges count characters.

- `Span.charOffset_wholeLines`: the lines before the one with the error are passed as a whole.
- `Span.MarksLine`: a range is in bounds and on a line.
- `LoadError.span?_marksLine`: the range of any error marks the line of the error.
- `LoadError.span?_ofByte_iff`: when the range of an error is the character at its place.
-/

namespace PageLayout

/-! ## Offsets -/

namespace Span

variable {line column i : Nat} {c : Char} {cs whole : List Char}

theorem charOffset_nil (line column : Nat) : charOffset line column [] = 0 := by
  cases line with
  | zero => rfl
  | succ line => cases line <;> simp [charOffset]

/-- Before the last line, characters are passed one by one, and a line break ends a line. -/
theorem charOffset_cons (line column : Nat) (c : Char) (cs : List Char) :
    charOffset (line + 2) column (c :: cs) =
      charOffset (if c = '\n' then line + 1 else line + 2) column cs + 1 := by
  by_cases hc : c = '\n'
  · simp [charOffset, hc, Nat.add_comm]
  · have hdrop : (c :: cs).dropWhile (· != '\n') = cs.dropWhile (· != '\n') := by
      simp [hc]
    rw [if_neg hc, charOffset, charOffset, hdrop]
    split
    · rfl
    · next rest heq =>
      -- What is left is no longer than the text itself.
      have hlength := (List.dropWhile_sublist (· != '\n') (l := cs)).length_le
      rw [heq, List.length_cons] at hlength
      rw [List.length_cons]
      omega

/-- The lines before the one with the error are passed as a whole. -/
theorem charOffset_wholeLines (h : WholeLines whole) (column : Nat) (rest : List Char) :
    charOffset (whole.count '\n' + 1) column (whole ++ rest) =
      whole.length + charOffset 1 column rest := by
  induction whole with
  | nil => simp
  | cons c whole ih =>
    have ih := ih h.of_cons
    by_cases hc : c = '\n'
    · rw [hc, List.count_cons_self, List.cons_append, charOffset_cons, if_pos rfl, ih,
        List.length_cons]
      omega
    · -- There is a line break to come, so this is not the last line.
      obtain ⟨n, hn⟩ := Nat.exists_eq_add_one_of_ne_zero
        (List.count_pos_iff.2 (h.mem_of_cons hc)).ne'
      rw [hn] at ih
      rw [List.count_cons_of_ne hc, hn, List.cons_append, charOffset_cons, if_neg hc, ih,
        List.length_cons]
      omega

theorem charOffset_le_length (line column : Nat) (cs : List Char) :
    charOffset line column cs ≤ cs.length := by
  induction cs generalizing line with
  | nil => exact (charOffset_nil line column).le
  | cons c cs ih =>
    match line with
    | 0 => exact Nat.le_refl _
    | 1 => exact (Nat.min_le_right _ _).trans (List.takeWhile_sublist _).length_le
    | line + 2 =>
      rw [charOffset_cons, List.length_cons]
      exact Nat.succ_le_succ (ih _)

/-- On the first line, no line break comes before the offset. -/
theorem count_take_charOffset_one (column : Nat) (cs : List Char) :
    (cs.take (charOffset 1 column cs)).count '\n' = 0 := by
  rw [List.count_eq_zero, charOffset]
  intro hmem
  -- No more of the line is taken than it has.
  have hfront := List.prefix_of_prefix_length_le (List.take_prefix _ _)
    (List.takeWhile_prefix (· != '\n') (l := cs))
    ((List.length_take_le _ _).trans (Nat.min_le_right (column - 1) _))
  simpa using List.mem_takeWhile_imp (hfront.subset hmem)

/-- The offset lies on its line: the line breaks before it are those that end the lines before. -/
theorem count_take_charOffset (h : line ≤ cs.count '\n') (column : Nat) :
    (cs.take (charOffset (line + 1) column cs)).count '\n' = line := by
  induction cs generalizing line with
  | nil => simpa [eq_comm] using h
  | cons c cs ih =>
    cases line with
    | zero => exact count_take_charOffset_one column (c :: cs)
    | succ line =>
      rw [charOffset_cons, List.take_succ_cons]
      by_cases hc : c = '\n'
      · rw [hc, List.count_cons_self, Nat.succ_le_succ_iff] at h
        rw [hc, if_pos rfl, List.count_cons_self, ih h]
      · rw [List.count_cons_of_ne hc] at h
        rw [if_neg hc, List.count_cons_of_ne hc, ih h]

/-- A line that the text does not have counts as the end of the text. -/
theorem charOffset_of_count_lt (h : cs.count '\n' < line) (column : Nat) :
    charOffset (line + 1) column cs = cs.length := by
  induction cs generalizing line with
  | nil => exact charOffset_nil _ _
  | cons c cs ih =>
    obtain ⟨line, rfl⟩ := Nat.exists_eq_add_one_of_ne_zero (Nat.ne_zero_of_lt h)
    rw [charOffset_cons, List.length_cons]
    by_cases hc : c = '\n'
    · rw [hc, List.count_cons_self, Nat.succ_lt_succ_iff] at h
      rw [if_pos hc, ih h]
    · rw [List.count_cons_of_ne hc] at h
      rw [if_neg hc, ih h]

/-- A column leads to a character of its line if it counts the characters up to it. -/
theorem charOffset_eq_iff (hc : cs[i]? = some c) (hline : c ≠ '\n') (column : Nat) :
    charOffset ((cs.take i).count '\n' + 1) column cs = i ↔
      column - 1 = (lineBefore cs i).length := by
  obtain ⟨whole, after, hwhole, htake, hcs⟩ := exists_wholeLines_of_getElem? hc
  have hi : i = whole.length + (lineBefore cs i).length := by
    obtain ⟨hi, -⟩ := List.getElem?_eq_some_iff.1 hc
    rw [← List.length_append, ← htake, List.length_take, Nat.min_eq_left hi.le]
  have hoffset : charOffset ((cs.take i).count '\n' + 1) column cs =
      whole.length + min (column - 1) ((lineBefore cs i).length +
        (c :: after.takeWhile (· != '\n')).length) := by
    have hbefore : ∀ d ∈ lineBefore cs i, (d != '\n') = true := fun d hd =>
      List.mem_rtakeWhile_imp (p := (· != '\n')) hd
    rw [count_take_eq htake]
    nth_rewrite 1 [hcs]
    rw [charOffset_wholeLines hwhole, charOffset, List.takeWhile_append_of_pos hbefore,
      List.takeWhile_cons_of_pos (by simpa using hline), List.length_append]
  rw [hoffset, List.length_cons]
  omega

/-! ## Ranges -/

theorem length_splitOn_newLine (cs : List Char) :
    (cs.splitOn '\n').length = cs.count '\n' + 1 := by
  induction cs with
  | nil => rfl
  | cons c cs ih =>
    rw [List.splitOn] at ih ⊢
    rw [List.splitOnP_cons_eq_if_modifyHead]
    by_cases hc : c = '\n'
    · simp [hc, ih]
    · simp [hc, ih]

/-- A range is in bounds and on a line of a text, counted from one: it is one character or, at the
end of the text, none, and the line breaks before it are those that end the lines before. A line
that the text does not have is taken for its end. -/
structure MarksLine (source : List Char) (line : Nat) (span : Span) : Prop where
  start_le_stop : span.start ≤ span.stop
  stop_le_length : span.stop ≤ source.length
  stop_eq : span.stop = if span.start < source.length then span.start + 1 else span.start
  count_eq : line ≤ (source.splitOn '\n').length →
    (source.take span.start).count '\n' = line - 1
  start_eq : (source.splitOn '\n').length < line → span.start = source.length

theorem marksLine_ofPosition (source : List Char) {position : Json.Position}
    (hline : 1 ≤ position.line) : (ofPosition source position).MarksLine source position.line := by
  obtain ⟨line, column⟩ := position
  obtain ⟨line, rfl⟩ := Nat.exists_eq_add_of_le' hline
  have hstart := charOffset_le_length (line + 1) column source
  have hstop : (ofPosition source ⟨line + 1, column⟩).stop =
      if charOffset (line + 1) column source < source.length
        then charOffset (line + 1) column source + 1 else charOffset (line + 1) column source := by
    simp only [ofPosition]
    split
    · omega
    · omega
  refine ⟨?_, ?_, hstop, fun h => ?_, fun h => ?_⟩
  · exact Nat.le_max_right _ _
  · exact Nat.max_le.2 ⟨Nat.min_le_right _ _, hstart⟩
  · rw [length_splitOn_newLine] at h
    exact count_take_charOffset (Nat.succ_le_succ_iff.1 h) column
  · rw [length_splitOn_newLine] at h
    exact charOffset_of_count_lt (Nat.succ_lt_succ_iff.1 h) column

/-- The range of a position is one character if its offset is this character. -/
theorem ofPosition_eq_iff (hc : cs[i]? = some c) (position : Json.Position) :
    ofPosition cs position = ⟨i, i + 1⟩ ↔ charOffset position.line position.column cs = i := by
  obtain ⟨hi, -⟩ := List.getElem?_eq_some_iff.1 hc
  rw [ofPosition, Span.mk.injEq]
  omega

end Span

/-! ## Errors -/

/-- Whatever text it is looked for in, the range of an error is in bounds and on the line of the
error, if the text has this line. -/
theorem LoadError.span?_marksLine (source : String) (error : Json.Error) (position : Json.Position)
    (hposition : error.position = some position) (hline : 1 ≤ position.line) :
    ∃ span, (LoadError.json error).span? source = some span ∧
      span.MarksLine source.toList position.line := by
  obtain ⟨cause, _⟩ := error
  obtain rfl := hposition
  exact ⟨_, rfl, Span.marksLine_ofPosition source.toList hline⟩

/-- A column far beyond the second line. -/
theorem LoadError.span?_marksLine_second :
    ∃ span, (LoadError.json ⟨.expectedValue, some ⟨2, 80⟩⟩).span? "a\nb\nc" = some span ∧
      span.MarksLine "a\nb\nc".toList 2 :=
  LoadError.span?_marksLine "a\nb\nc" ⟨.expectedValue, some ⟨2, 80⟩⟩ ⟨2, 80⟩ rfl (by decide)

/-- The range of an error at a byte of a character is this character if no character before it on
its line is longer than a byte, and the byte is its first one. Otherwise the column counts too
much, and the range is further on in the line or at its end. -/
theorem LoadError.span?_ofByte_iff (source : String) (cause : Json.Cause) {i : Nat} {c : Char}
    (hc : source.toList[i]? = some c) (hline : c ≠ '\n') (k : Nat) :
    (LoadError.json ⟨cause, some (.ofByte source.toList i k)⟩).span? source = some ⟨i, i + 1⟩ ↔
      (∀ d ∈ lineBefore source.toList i, d.utf8Size = 1) ∧ k = 0 := by
  have hlength := Json.length_le_byteLength (lineBefore source.toList i)
  rw [span?, Option.some.injEq, Span.ofPosition_eq_iff hc]
  simp only [Json.Position.ofByte]
  rw [Span.charOffset_eq_iff hc hline, ← Json.byteLength_eq_length_iff]
  omega

/-- The first byte of a character behind letters that are one byte long. -/
theorem LoadError.span?_ofByte_plain :
    (LoadError.json ⟨.expectedValue, some (.ofByte "é\nabé".toList 4 0)⟩).span? "é\nabé" =
      some ⟨4, 5⟩ := by
  have hc : "é\nabé".toList[4]? = some 'é' := by decide
  have hbefore : lineBefore "é\nabé".toList 4 = ['a', 'b'] := by decide
  refine (LoadError.span?_ofByte_iff "é\nabé" .expectedValue hc (by decide) 0).2 ⟨?_, rfl⟩
  rw [hbefore, List.forall_mem_cons, List.forall_mem_singleton]
  exact ⟨rfl, rfl⟩

/-- A name with a letter of two bytes, and a comma too many behind it. -/
def Document.accentedText : String :=
  "\x7b\"name\":\"é\",\x7d"

/-- The error is seen at the closing bracket, which is the last character, but its range is at the
end of the text. -/
theorem Document.span?_accentedText :
    ∃ error, load accentedText = .error (.json error) ∧
      accentedText.toList[12]? = some '\x7d' ∧
        error.position = some (.ofByte accentedText.toList 12 0) ∧
          (LoadError.json error).span? accentedText = some ⟨13, 13⟩ :=
  ⟨⟨.trailingComma, some ⟨1, 14⟩⟩, by rfl, by decide, by decide, by decide⟩

end PageLayout
