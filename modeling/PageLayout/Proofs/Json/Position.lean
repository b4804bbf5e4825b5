import Mathlib.Data.List.DropRight
import PageLayout.Json.Failure

/-!
# Positions of bytes

A reader fails behind some byte of its text, and reports the line of this byte and how many bytes of
the line come up to it. Lines end with a line break, so the position of a byte is found from the
whole lines before it and the characters before it on its own line.

- `WholeLines`: a text that is empty or ends with a line break.
- `lineBefore`: the characters before a place on its line.
- `Json.Position.ofByte`: the position of a byte of a character.
- `Json.Position.ofOffset_eq_ofByte`: where a reader is that has looked at a text up to a byte.
- `Json.Failure.position_toError`: where a failure is reported.
-/

namespace PageLayout

/-! ## Lines -/

/-- A text of whole lines: it is empty or ends with a line break. -/
def WholeLines (cs : List Char) : Prop :=
  ∀ c, cs.getLast? = some c → c = '\n'

theorem WholeLines.of_cons {c : Char} {cs : List Char} (h : WholeLines (c :: cs)) :
    WholeLines cs := by
  intro d hd
  refine h d ?_
  rw [List.getLast?_cons, hd]
  rfl

/-- A line that is begun is ended. -/
theorem WholeLines.mem_of_cons {c : Char} {cs : List Char} (h : WholeLines (c :: cs))
    (hc : c ≠ '\n') : '\n' ∈ cs := by
  have hne : cs ≠ [] := by
    rintro rfl
    exact hc (h c rfl)
  have hlast := h.of_cons _ (List.getLast?_eq_some_getLast hne)
  exact hlast ▸ List.getLast_mem hne

/-- The characters of a line that come before the one at a place. -/
def lineBefore (cs : List Char) (i : Nat) : List Char :=
  (cs.take i).rtakeWhile (· != '\n')

theorem notMem_lineBefore (cs : List Char) (i : Nat) : '\n' ∉ lineBefore cs i := by
  intro hmem
  simpa using List.mem_rtakeWhile_imp hmem

/-- Before a place of a text come whole lines and the characters of its own line. -/
theorem exists_wholeLines_take (cs : List Char) (i : Nat) :
    ∃ whole, WholeLines whole ∧ cs.take i = whole ++ lineBefore cs i := by
  refine ⟨(cs.take i).rdropWhile (· != '\n'), fun c hc => ?_,
    List.rdropWhile_append_rtakeWhile.symm⟩
  obtain ⟨front, heq⟩ := List.getLast?_eq_some_iff.1 hc
  have hlast := List.rdropWhile_last_not (· != '\n') (cs.take i) (by simp [heq])
  simpa [heq] using hlast

/-- A text around one of its characters: whole lines, the characters before it on its own line, and
the rest. -/
theorem exists_wholeLines_of_getElem? {cs : List Char} {i : Nat} {c : Char} (hc : cs[i]? = some c) :
    ∃ whole after, WholeLines whole ∧ cs.take i = whole ++ lineBefore cs i ∧
      cs = whole ++ (lineBefore cs i ++ c :: after) := by
  obtain ⟨whole, hwhole, htake⟩ := exists_wholeLines_take cs i
  obtain ⟨hi, rfl⟩ := List.getElem?_eq_some_iff.1 hc
  refine ⟨whole, cs.drop (i + 1), hwhole, htake, ?_⟩
  rw [← List.append_assoc, ← htake, ← List.drop_eq_getElem_cons hi, List.take_append_drop]

/-- The line breaks before a place are those of the whole lines before it. -/
theorem count_take_eq {cs whole : List Char} {i : Nat} (h : cs.take i = whole ++ lineBefore cs i) :
    (cs.take i).count '\n' = whole.count '\n' := by
  rw [h, List.count_append, List.count_eq_zero.2 (notMem_lineBefore cs i), Nat.add_zero]

/-! ## Positions of bytes -/

namespace Json

theorem byteLength_cons (c : Char) (cs : List Char) :
    byteLength (c :: cs) = c.utf8Size + byteLength cs :=
  rfl

theorem byteLength_append (cs cs' : List Char) :
    byteLength (cs ++ cs') = byteLength cs + byteLength cs' := by
  induction cs with
  | nil => simp [byteLength]
  | cons c cs ih => rw [List.cons_append, byteLength_cons, byteLength_cons, ih, Nat.add_assoc]

theorem length_le_byteLength (cs : List Char) : cs.length ≤ byteLength cs := by
  induction cs with
  | nil => exact Nat.le_refl _
  | cons c cs ih =>
    have hc := c.utf8Size_pos
    rw [byteLength_cons, List.length_cons]
    omega

/-- A text has as many bytes as characters if each of them is one byte long. -/
theorem byteLength_eq_length_iff {cs : List Char} :
    byteLength cs = cs.length ↔ ∀ c ∈ cs, c.utf8Size = 1 := by
  induction cs with
  | nil => simp [byteLength]
  | cons c cs ih =>
    have hc := c.utf8Size_pos
    have hcs := length_le_byteLength cs
    rw [List.forall_mem_cons, ← ih, byteLength_cons, List.length_cons]
    omega

namespace Position

variable {cs whole : List Char} {i k : Nat} {c : Char}

/-- The position of a byte, counted from zero, of the character at a place: its line and its column
are counted from one, and the column counts the bytes of the line. -/
def ofByte (cs : List Char) (i k : Nat) : Position :=
  ⟨(cs.take i).count '\n' + 1, byteLength (lineBefore cs i) + k + 1⟩

theorem advance_zero (p : Position) (cs : List Char) : p.advance 0 cs = p := by
  cases cs with
  | nil => rfl
  | cons c cs => rw [advance, if_pos c.utf8Size_pos, Nat.add_zero]

/-- A character is passed with all of its bytes. -/
theorem advance_cons (p : Position) (c : Char) (bytes : Nat) (cs : List Char) :
    p.advance (c.utf8Size + bytes) (c :: cs) =
      if c = '\n' then advance ⟨p.line + 1, 0⟩ bytes cs
      else advance ⟨p.line, p.column + c.utf8Size⟩ bytes cs := by
  rw [advance, if_neg (by omega), Nat.add_sub_cancel_left]
  by_cases hc : c = '\n'
  · have hsize : c.utf8Size = 1 := hc ▸ rfl
    rw [if_pos hc, if_pos hc, hsize, Nat.add_sub_cancel_left]
  · rw [if_neg hc, if_neg hc]

/-- Characters that are no line breaks move the column on by their bytes. -/
theorem advance_line {line : List Char} (hline : '\n' ∉ line) (p : Position) (bytes : Nat)
    (rest : List Char) :
    p.advance (byteLength line + bytes) (line ++ rest) =
      advance ⟨p.line, p.column + byteLength line⟩ bytes rest := by
  induction line generalizing p with
  | nil => simp [byteLength]
  | cons c line ih =>
    rw [List.mem_cons, not_or] at hline
    rw [byteLength_cons, Nat.add_assoc, List.cons_append, advance_cons,
      if_neg (Ne.symm hline.1), ih hline.2, Nat.add_assoc]

/-- Behind whole lines, a line begins. -/
theorem advance_wholeLines (h : WholeLines whole) (p : Position) (bytes : Nat) (rest : List Char) :
    p.advance (byteLength whole + bytes) (whole ++ rest) =
      advance ⟨p.line + whole.count '\n', if whole = [] then p.column else 0⟩ bytes rest := by
  induction whole generalizing p with
  | nil => simp [byteLength]
  | cons c whole ih =>
    rw [byteLength_cons, Nat.add_assoc, List.cons_append, advance_cons,
      if_neg (List.cons_ne_nil _ _)]
    by_cases hc : c = '\n'
    · rw [if_pos hc, ih h.of_cons, hc, List.count_cons_self, ite_self, Nat.add_assoc,
        Nat.add_comm 1]
    -- The line goes on, and its break is still to come.
    · have hne : whole ≠ [] := List.ne_nil_of_mem (h.mem_of_cons hc)
      rw [if_neg hc, ih h.of_cons, List.count_cons_of_ne hc, if_neg hne]

/-- A reader that has looked at a text up to a byte of a character is at the position of this
byte. -/
theorem ofOffset_eq_ofByte (hc : cs[i]? = some c) (hline : c ≠ '\n') (hk : k < c.utf8Size) :
    ofOffset cs (byteLength (cs.take i) + (k + 1)) = ofByte cs i k := by
  obtain ⟨whole, after, hwhole, htake, hcs⟩ := exists_wholeLines_of_getElem? hc
  have hbytes : byteLength (cs.take i) + (k + 1) =
      byteLength whole + (byteLength (lineBefore cs i) + (k + 1)) := by
    rw [htake, byteLength_append, Nat.add_assoc]
  have hadvance : ofOffset cs (byteLength (cs.take i) + (k + 1)) =
      advance ⟨1 + whole.count '\n', byteLength (lineBefore cs i)⟩ (k + 1) (c :: after) := by
    rw [hbytes, ofOffset]
    nth_rewrite 2 [hcs]
    rw [advance_wholeLines hwhole, advance_line (notMem_lineBefore cs i), ite_self, Nat.zero_add]
  rw [hadvance, ofByte, count_take_eq htake, Nat.add_comm 1]
  -- The last byte of the character ends it, and no other one does.
  by_cases hlast : k + 1 < c.utf8Size
  · rw [advance, if_pos hlast]
    rfl
  · have hsize : k + 1 = c.utf8Size + 0 := by omega
    rw [hsize, advance_cons, if_neg hline, advance_zero, Nat.add_assoc, hsize]
    rfl

end Position

/-- A failure seen at a byte of the text that is left is reported at the position of this byte. -/
theorem Failure.position_toError {front rest : List Char} {c : Char} {k : Nat} (cause : Cause)
    (hline : c ≠ '\n') (hk : k < c.utf8Size) :
    (toError (front ++ c :: rest) ⟨cause, c :: rest, k + 1⟩).position =
      some (.ofByte (front ++ c :: rest) front.length k) := by
  have hc : (front ++ c :: rest)[front.length]? = some c := by simp
  rw [← Position.ofOffset_eq_ofByte hc hline hk, List.take_left, toError, byteLength_append]
  have hbytes : byteLength front + byteLength (c :: rest) - (byteLength (c :: rest) - (k + 1)) =
      byteLength front + (k + 1) := by
    rw [byteLength_cons]
    omega
  rw [hbytes]

end Json

end PageLayout
