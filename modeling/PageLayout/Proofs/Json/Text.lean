import PageLayout.Json.Printer
import PageLayout.Json.Token

/-!
# Strings in JSON text

A string reads back from its text: the characters that are escaped are those that the reader takes
from escapes, and the others stand for themselves. Nothing depends on what comes after the closing
quote.

- `readChars_escapedChar`: one character, however it is written.
- `readString_escaped`: a whole string.
-/

namespace PageLayout.Json

/-- A control character is written with two zeros in front. -/
theorem fourHexDigits_of_lt {n : Nat} (h : n < 0x20) :
    fourHexDigits n = ['0', '0', Nat.digitChar (n / 16), Nat.digitChar (n % 16)] := by
  have hall : ∀ n < 0x20,
      fourHexDigits n = ['0', '0', Nat.digitChar (n / 16), Nat.digitChar (n % 16)] := by decide
  exact hall n h

theorem hexUnit?_of_lt {n : Nat} (h : n < 0x20) :
    hexUnit? '0' '0' (Nat.digitChar (n / 16)) (Nat.digitChar (n % 16)) = some n := by
  have hzero : Text.hexValue? '0' = some 0 := by decide
  have hhigh : Text.hexValue? (Nat.digitChar (n / 16)) = some (n / 16) :=
    Text.hexValue?_digitChar (by omega)
  have hlow : Text.hexValue? (Nat.digitChar (n % 16)) = some (n % 16) :=
    Text.hexValue?_digitChar (by omega)
  simp only [hexUnit?, hzero, hhigh, hlow, Option.bind_eq_bind, Option.bind_some, Option.pure_def,
    Option.some.injEq]
  omega

/-- A character reads back, whether it is escaped or not. -/
theorem readChars_escapedChar (c : Char) (done rest : List Char) :
    readChars done (escapedChar c ++ rest) = readChars (c :: done) rest := by
  have hofNat : ∀ n, c.toNat = n → c = Char.ofNat n := by
    rintro _ rfl
    exact c.ofNat_toNat.symm
  rw [escapedChar]
  split
  · next h => subst h; rfl
  split
  · next h => subst h; rfl
  split
  · next h => subst h; rfl
  split
  · next h => subst h; rfl
  split
  · next h => subst h; rfl
  split
  · next h => rw [hofNat _ h]; rfl
  split
  · next h => rw [hofNat _ h]; rfl
  split
  · next h =>
    -- The code point of a control character is no half of a pair.
    have hhigh : isHighSurrogate c.toNat = false := by
      simp [isHighSurrogate]
      omega
    have hlow : isLowSurrogate c.toNat = false := by
      simp [isLowSurrogate]
      omega
    simp only [fourHexDigits_of_lt h, List.cons_append, List.nil_append]
    simp [readChars, hexUnit?_of_lt h, hhigh, hlow]
  · next hbackslash _ _ _ _ _ h =>
    have hspace : ¬ c < ' ' := h
    rw [List.singleton_append, readChars.eq_def]
    simp [hbackslash, hspace]

theorem readChars_flatMap (cs done rest : List Char) :
    readChars done (cs.flatMap escapedChar ++ '"' :: rest) = .ok (done.reverse ++ cs, rest) := by
  induction cs generalizing done with
  | nil => simp [readChars]
  | cons c cs ih =>
    rw [List.flatMap_cons, List.append_assoc, readChars_escapedChar, ih]
    simp

/-- A string reads back, whatever comes after its closing quote. -/
theorem readString_escaped (s : String) (rest : List Char) :
    readString (s.toList.flatMap escapedChar ++ '"' :: rest) = .ok (s, rest) := by
  rw [readString, readChars_flatMap]
  simp [Except.map]

/-- A string begins with a quote, from behind which it reads back. -/
theorem readString_stringText (key : String) (rest : List Char) :
    ∃ cs, stringText key ++ rest = '"' :: cs ∧ readString cs = .ok (key, rest) := by
  refine ⟨key.toList.flatMap escapedChar ++ '"' :: rest, ?_, readString_escaped key rest⟩
  simp [stringText]

end PageLayout.Json
