import PageLayout.Proofs.Style.Selector
import PageLayout.Proofs.Text.Cut

/-!
# Identifiers in selectors read back

A reader of style sheets takes letters, digits, dashes, underscores and characters beyond ASCII for
parts of a name. A backslash before hexadecimal digits stands for the character with that code
point, and one space after the digits belongs to them; a backslash before another character stands
for that character. A name ends at the first other character.

- `hexNumber_hexDigits`: hexadecimal digits write the number that they were made from.
- `readEscape?_codePointEscape`: a character written by its code point reads back.
- `readName_identifierChars`: every identifier reads back, up to its end.
-/

namespace PageLayout.Style

/-! ## The reader -/

/-- A hexadecimal digit of either case. -/
def isHexDigit (c : Char) : Bool :=
  (Text.hexValue? c).isSome

/-- The number that hexadecimal digits write. -/
def hexNumber (digits : List Char) : Nat :=
  digits.foldl (fun n c => 16 * n + (Text.hexValue? c).getD 0) 0

/-- Reads the character that an escape stands for, from behind its backslash. -/
def readEscape? (cs : List Char) : Option (Char × List Char) :=
  let digits := (cs.takeWhile isHexDigit).take 6
  if digits = [] then
    match cs with
    | [] => none
    | c :: rest => some (c, rest)
  else
    let rest := cs.drop digits.length
    some (Char.ofNat (hexNumber digits), ([' '].isPrefixOf? rest).getD rest)

/-- Reads a name, up to the first character that cannot belong to it. -/
def readName : List Char → List Char × List Char
  | [] => ([], [])
  | c :: cs =>
    if c = '\\' then
      match readEscape? cs with
      | none => ([], c :: cs)
      | some (d, rest) =>
        if rest.length ≤ cs.length then (d :: (readName rest).1, (readName rest).2)
        else ([], c :: cs)
    else if isNameChar c then (c :: (readName cs).1, (readName cs).2)
    else ([], c :: cs)
termination_by cs => cs.length

/-! ## Numbers in hexadecimal digits -/

/-- Hexadecimal digits write the number that they were made from. -/
theorem hexNumber_hexDigits (n : Nat) : hexNumber (Text.hexDigits n) = n := by
  induction n using Nat.strongRecOn with
  | _ n ih =>
    rw [Text.hexDigits, Nat.toDigits_eq_if (by decide)]
    split
    · next hn => simp [hexNumber, Text.hexValue?_digitChar hn]
    · next hn =>
      -- The last digit writes the remainder, and those in front of it the quotient.
      have hrec : hexNumber (Nat.toDigits 16 (n / 16)) = n / 16 := ih (n / 16) (by omega)
      rw [hexNumber] at hrec ⊢
      rw [List.foldl_append, hrec]
      simp only [List.foldl_cons, List.foldl_nil,
        Text.hexValue?_digitChar (Nat.mod_lt n (by decide)), Option.getD_some]
      omega

theorem isHexDigit_of_mem_hexDigits (n : Nat) : ∀ c ∈ Text.hexDigits n, isHexDigit c := by
  induction n using Nat.strongRecOn with
  | _ n ih =>
    rw [Text.hexDigits, Nat.toDigits_eq_if (by decide)]
    split
    · next hn => simp [isHexDigit, Text.hexValue?_digitChar hn]
    · next hn =>
      intro c hc
      obtain hc | hc := List.mem_append.1 hc
      · exact ih (n / 16) (by omega) c hc
      · rw [List.mem_singleton.1 hc, isHexDigit,
          Text.hexValue?_digitChar (Nat.mod_lt n (by decide))]
        rfl

/-- Six hexadecimal digits are enough for every character. -/
theorem length_hexDigits_le (c : Char) : (Text.hexDigits c.toNat).length ≤ 6 := by
  have hvalid : c.toNat < 0xD800 ∨ (0xDFFF < c.toNat ∧ c.toNat < 0x110000) := c.valid
  exact (Nat.length_toDigits_le_iff (by decide) (by decide)).2 (by omega)

/-! ## Escapes -/

/-- A character written by its code point reads back: the space after the digits ends them. -/
theorem readEscape?_codePointEscape (c : Char) (rest : List Char) :
    readEscape? (Text.hexDigits c.toNat ++ ' ' :: rest) = some (c, rest) := by
  -- The space is no digit, so the digits are read whole, and there are not more than six.
  have hdigits : ((Text.hexDigits c.toNat ++ ' ' :: rest).takeWhile isHexDigit).take 6 =
      Text.hexDigits c.toNat := by
    rw [Text.takeWhile_append_cons (isHexDigit_of_mem_hexDigits c.toNat) (by decide),
      List.take_of_length_le (length_hexDigits_le c)]
  have hne : Text.hexDigits c.toNat ≠ [] := Nat.toDigits_ne_nil
  simp only [readEscape?, hdigits, hne, if_false, List.drop_left, hexNumber_hexDigits,
    Char.ofNat_toNat]
  rfl

/-- A hexadecimal digit stands for itself in a name. -/
theorem isNameChar_of_isHexDigit {c : Char} (hc : isHexDigit c) : isNameChar c := by
  have hcases : ('0' ≤ c ∧ c ≤ '9') ∨ ('a' ≤ c ∧ c ≤ 'f') ∨ ('A' ≤ c ∧ c ≤ 'F') := by
    simp only [isHexDigit, Text.hexValue?] at hc
    split at hc
    · exact .inl ‹_›
    · split at hc
      · exact .inr (.inl ‹_›)
      · split at hc
        · exact .inr (.inr ‹_›)
        · simp at hc
  have halnum : (c.isUpper || c.isLower) || c.isDigit := by
    obtain ⟨hlow, hhigh⟩ | ⟨hlow, hhigh⟩ | ⟨hlow, hhigh⟩ := hcases
    · have hdigit : c.isDigit :=
        Bool.and_eq_true_iff.2 ⟨decide_eq_true hlow, decide_eq_true hhigh⟩
      rw [hdigit, Bool.or_true]
    · have hlower : c.isLower := Bool.and_eq_true_iff.2
        ⟨decide_eq_true hlow, decide_eq_true (Char.le_trans hhigh (by decide))⟩
      rw [hlower, Bool.or_true, Bool.true_or]
    · have hletter : 'A' ≤ c ∧ c ≤ 'Z' := ⟨hlow, Char.le_trans hhigh (by decide)⟩
      have hupper : c.isUpper := decide_eq_true hletter
      rw [hupper, Bool.true_or, Bool.true_or]
  rw [isNameChar, show c.isAlphanum = true from halnum]
  rfl

/-- A character that does not stand for itself, nor is a hexadecimal digit then, reads back from
behind a backslash. -/
theorem readEscape?_cons {c : Char} (hc : isNameChar c = false) (rest : List Char) :
    readEscape? (c :: rest) = some (c, rest) := by
  have hdigit : ¬ isHexDigit c := by
    intro h
    rw [isNameChar_of_isHexDigit h] at hc
    cases hc
  simp [readEscape?, List.takeWhile_cons_of_neg hdigit]

/-! ## Names -/

/-- An escape takes a part of the text away. -/
theorem length_le_of_readEscape? {d : Char} {cs rest : List Char}
    (h : readEscape? cs = some (d, rest)) : rest.length ≤ cs.length := by
  unfold readEscape? at h
  simp only at h
  split at h
  · split at h
    · cases h
    · obtain ⟨-, rfl⟩ := Prod.mk.inj (Option.some.inj h)
      simp
  · obtain ⟨-, rfl⟩ := Prod.mk.inj (Option.some.inj h)
    generalize (List.takeWhile isHexDigit cs).take 6 = digits
    -- The space behind the digits is taken away if it is there.
    cases hspace : [' '].isPrefixOf? (cs.drop digits.length) with
    | none => simp
    | some rest =>
      have hlength := congrArg List.length (List.isPrefixOf?_eq_some_iff_append_eq.1 hspace)
      simp only [List.length_append, List.length_drop] at hlength
      simp only [Option.getD_some]
      omega

/-- An escape is read in front of the rest of a name. -/
theorem readName_escape {d : Char} {cs rest : List Char}
    (hescape : readEscape? cs = some (d, rest)) :
    readName ('\\' :: cs) = (d :: (readName rest).1, (readName rest).2) := by
  simp [readName, hescape, length_le_of_readEscape? hescape]

/-- A character that stands for itself is read in front of the rest of a name. -/
theorem readName_cons {c : Char} (hc : isNameChar c) (cs : List Char) :
    readName (c :: cs) = (c :: (readName cs).1, (readName cs).2) := by
  have hne : c ≠ '\\' := by
    rintro rfl
    exact absurd hc (by decide)
  rw [readName, if_neg hne, if_pos hc]

theorem readName_codePointEscape (c : Char) (rest : List Char) :
    readName (codePointEscape c ++ rest) = (c :: (readName rest).1, (readName rest).2) := by
  rw [codePointEscape, List.cons_append, List.cons_append, List.append_assoc]
  exact readName_escape (readEscape?_codePointEscape c rest)

/-- One character of an identifier reads back. -/
theorem readName_nameChar (c : Char) (rest : List Char) :
    readName (nameChar c ++ rest) = (c :: (readName rest).1, (readName rest).2) := by
  rw [nameChar]
  split
  · next hc => exact readName_cons hc rest
  · next hc =>
    split
    · exact readName_codePointEscape c rest
    · exact readName_escape (readEscape?_cons (by simpa using hc) rest)

/-- A name ends in front of a character that neither stands for itself nor begins an escape. -/
theorem readName_stop {d : Char} (hd : isNameChar d = false) (hescape : d ≠ '\\')
    (rest : List Char) : readName (d :: rest) = ([], d :: rest) := by
  simp [readName, hescape, hd]

/-- The characters of an identifier after the first read back, up to its end. -/
theorem readName_flatMap {d : Char} (hd : isNameChar d = false) (hescape : d ≠ '\\')
    (cs rest : List Char) :
    readName (cs.flatMap nameChar ++ d :: rest) = (cs, d :: rest) := by
  induction cs with
  | nil => exact readName_stop hd hescape rest
  | cons c cs ih => rw [List.flatMap_cons, List.append_assoc, readName_nameChar, ih]

/-- Every identifier reads back, up to its end. -/
theorem readName_identifierChars {d : Char} (hd : isNameChar d = false) (hescape : d ≠ '\\')
    (id rest : List Char) :
    readName (identifierChars id ++ d :: rest) = (id, d :: rest) := by
  cases id with
  | nil => exact readName_stop hd hescape rest
  | cons c cs =>
    rw [identifierChars, List.append_assoc]
    -- Only the first character is treated otherwise, if it is a digit.
    split
    · rw [readName_codePointEscape, readName_flatMap hd hescape]
    · rw [readName_nameChar, readName_flatMap hd hescape]

end PageLayout.Style
