import Mathlib.Data.String.Basic

/-!
# Splitting strings at a character

A string is split at the places where a separator stands. If the separator is a single character,
that is splitting the list of its characters, about which more is known.

- `positionAfter`: positions in a string, given by the characters in front of them.
- `splitOnAux_singleton`: one pass over a string, from any place in it.
- `splitOn_singleton`: a string and its characters are split alike.
-/

namespace PageLayout.Text

open String

/-- The position in a string behind some characters at its beginning. -/
def positionAfter (before : List Char) : Pos.Raw :=
  ⟨utf8Len before⟩

variable (before part after : List Char) (c : Char)

theorem atEnd_positionAfter_iff :
    Pos.Raw.atEnd (ofList (before ++ after)) (positionAfter before) ↔ after = [] := by
  rw [positionAfter, atEnd_iff, rawEndPos_ofList, utf8Len_append, Pos.Raw.mk_le_mk,
    ← utf8Len_eq_zero]
  omega

theorem get_positionAfter :
    Pos.Raw.get (ofList (before ++ c :: after)) (positionAfter before) = c :=
  get_of_valid before (c :: after)

theorem next_positionAfter :
    Pos.Raw.next (ofList (before ++ c :: after)) (positionAfter before) =
      positionAfter (before ++ [c]) := by
  rw [positionAfter, next_of_valid before c after]
  simp [positionAfter]

theorem extract_positionAfter :
    Pos.Raw.extract (ofList (before ++ part ++ after)) (positionAfter before)
      (positionAfter (before ++ part)) = ofList part := by
  rw [positionAfter, positionAfter, utf8Len_append]
  exact extract_of_valid before part after

theorem unoffsetBy_positionAfter :
    (positionAfter (before ++ part)).unoffsetBy (positionAfter part) = positionAfter before := by
  simp [positionAfter, Pos.Raw.unoffsetBy]

/-- A string is passed once, where `part` has been read since the last separator and `found` are the
parts before it, the latest first. -/
theorem splitOnAux_singleton (separator : Char) (before part after : List Char)
    (found : List String) :
    (ofList (before ++ part ++ after)).splitOnAux (ofList [separator]) (positionAfter before)
        (positionAfter (before ++ part)) 0 found =
      found.reverse ++
        (List.splitOnPPrepend (· == separator) after part.reverse).map ofList := by
  have hget : Pos.Raw.get (ofList [separator]) 0 = separator := get_positionAfter [] [] separator
  have hnext : Pos.Raw.next (ofList [separator]) 0 = positionAfter [separator] :=
    next_positionAfter [] [] separator
  have hend : Pos.Raw.atEnd (ofList [separator]) (positionAfter [separator]) :=
    (atEnd_positionAfter_iff [separator] []).2 rfl
  induction after generalizing before part found with
  | nil =>
    rw [splitOnAux, if_pos ((atEnd_positionAfter_iff _ _).2 rfl), extract_positionAfter]
    simp
  | cons c after ih =>
    have hmore : ¬ Pos.Raw.atEnd (ofList (before ++ part ++ c :: after))
        (positionAfter (before ++ part)) := by
      rw [atEnd_positionAfter_iff]
      exact List.cons_ne_nil c after
    have hmove : before ++ part ++ c :: after = before ++ part ++ [c] ++ after := by simp
    rw [splitOnAux, if_neg hmore, hget, get_positionAfter, next_positionAfter,
      List.splitOnPPrepend_cons_eq_if]
    split
    -- A separator ends the part, and the next one begins behind it.
    · next hc =>
      obtain rfl : c = separator := by simpa using hc
      have hrest := ih (before ++ part ++ [c]) [] (ofList part :: found)
      rw [List.append_nil, ← hmove] at hrest
      rw [hnext, if_pos hend, unoffsetBy_positionAfter, extract_positionAfter, hrest]
      simp
    -- Any other character is one more of the part.
    · have hrest := ih before (part ++ [c]) found
      rw [← List.append_assoc, ← hmove] at hrest
      have hsame : (positionAfter (before ++ part)).unoffsetBy 0 = positionAfter (before ++ part) :=
        rfl
      rw [hsame, next_positionAfter, hrest]
      simp

/-- A string is split at a character like the list of its characters. -/
theorem splitOn_singleton (s : String) (separator : Char) :
    s.splitOn (String.singleton separator) = (s.toList.splitOn separator).map ofList := by
  have hne : (String.singleton separator == "") = false := by simp
  have hpass := splitOnAux_singleton separator [] [] s.toList []
  rw [splitOn, hne]
  simpa [positionAfter, List.splitOn] using hpass

end PageLayout.Text
