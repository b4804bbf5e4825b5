import Mathlib.Data.List.TakeWhile
import PageLayout.Json.Printer
import PageLayout.Json.Reader
import PageLayout.Proofs.Decimal.Characters
import PageLayout.Proofs.Decimal.Shape
import PageLayout.Proofs.Results

/-!
# Numbers in JSON text

Integers of 64 bits read back from their digits. The text of a double always shows that it is one,
so it is never read as an integer; which double it is read as is a question of rounding, and is
left open here. A number ends where a character follows that no number holds.

- `isInteger_of_readNumber`: the integers that are read are those of 64 bits.
- `readNumber_intDigits`: an integer of 64 bits reads back.
- `ReadsBack.readNumber`: a double whose text reads as the same double reads back as a double.
- `readNumber_append`: a number is read in the same way whatever comes after it.
-/

namespace PageLayout.Json

variable {negative : Bool} {significand : Nat} {exponent : Int} {cs rest : List Char}
  {number : Number}

/-! ## Digits -/

/-- Digits of which those in front fit are taken further from there. -/
theorem absorb_append {limit m n : Nat} {ds : List Char} (h : absorb limit m ds = (n, []))
    (es : List Char) : absorb limit m (ds ++ es) = absorb limit n es := by
  induction ds generalizing m with
  | nil => rw [absorb] at h; cases h; rfl
  | cons d ds ih =>
    rw [absorb] at h
    rw [List.cons_append, absorb]
    split at h
    · next hfits => rw [if_pos hfits, ih h]
    · cases h

/-- The digits of a number within the limit fit. -/
theorem absorb_natDigits {limit n : Nat} (h : n ≤ limit) :
    absorb limit 0 (Decimal.natDigits n) = (n, []) := by
  induction n using Nat.strongRecOn with
  | _ n ih =>
    have hdigit : ∀ d < 10, (Nat.digitChar d).toNat - '0'.toNat = d := by decide
    rw [Decimal.natDigits, Nat.toDigits_eq_if (by decide)]
    split
    · next hn =>
      rw [absorb, hdigit n hn, if_pos (by omega), absorb, Nat.mul_zero, Nat.zero_add]
    · next hn =>
      -- The digits in front write the quotient, and the last one the remainder.
      have hquotient := ih (n / 10) (by omega) (by omega)
      rw [Decimal.natDigits] at hquotient
      rw [absorb_append hquotient, absorb, hdigit _ (Nat.mod_lt n (by decide)),
        if_pos (by omega), absorb, Nat.div_add_mod]

/-- What is taken is within the limit. -/
theorem absorb_le {limit n : Nat} (h : n ≤ limit) (ds : List Char) :
    (absorb limit n ds).1 ≤ limit := by
  induction ds generalizing n with
  | nil => exact h
  | cons d ds ih =>
    rw [absorb]
    split
    · next hfits => exact ih hfits
    · exact h

/-! ## Ends of numbers -/

/-- A text at the beginning of which no number goes on. -/
def EndsNumber (rest : List Char) : Prop :=
  ∀ c ∈ rest.head?, Decimal.isNumberChar c = false

theorem endsNumber_nil : EndsNumber [] := by
  rintro _ ⟨⟩

theorem endsNumber_cons {c : Char} (h : Decimal.isNumberChar c = false) (cs : List Char) :
    EndsNumber (c :: cs) := by
  rintro _ ⟨⟩
  exact h

theorem not_endsNumber_cons {c : Char} (h : Decimal.isNumberChar c) (cs : List Char) :
    ¬ EndsNumber (c :: cs) := by
  intro hends
  rw [hends c rfl] at h
  cases h

theorem takeWhile_isDigit_append (cs : List Char) (hrest : EndsNumber rest) :
    (cs ++ rest).takeWhile Char.isDigit = cs.takeWhile Char.isDigit := by
  induction cs with
  | nil =>
    cases rest with
    | nil => rfl
    | cons c cs =>
      have hc := hrest c rfl
      have hdigit : c.isDigit = false := by
        rw [Decimal.isNumberChar, Char.isAlphanum] at hc
        cases h : c.isDigit <;> simp_all
      simp [hdigit]
  | cons c cs ih =>
    simp only [List.cons_append, List.takeWhile_cons, ih]

theorem dropWhile_isDigit_append (cs : List Char) (hrest : EndsNumber rest) :
    (cs ++ rest).dropWhile Char.isDigit = cs.dropWhile Char.isDigit ++ rest := by
  have htake := takeWhile_isDigit_append cs hrest
  have hall := List.takeWhile_append_dropWhile (p := Char.isDigit) (l := cs ++ rest)
  have hcs := List.takeWhile_append_dropWhile (p := Char.isDigit) (l := cs)
  rw [htake] at hall
  exact List.append_cancel_left (hall.trans (by rw [← List.append_assoc, hcs]))

/-! ## Numbers -/

theorem realNumber_eq_ok_iff :
    realNumber negative significand exponent cs = .ok (number, rest) ↔
      ∃ x, scaled? significand exponent = some x ∧ number = .real (signed negative x) ∧
        rest = cs := by
  rw [realNumber]
  cases scaled? significand exponent with
  | none => simp [failAt]
  | some x => simp [eq_comm]

theorem not_isEmpty_append (hcs : ¬ cs.isEmpty) (rest : List Char) : ¬ (cs ++ rest).isEmpty := by
  cases cs with
  | nil => exact absurd rfl hcs
  | cons c cs => simp

theorem readPower_append (h : readPower negative significand exponent cs = .ok (number, []))
    (hrest : EndsNumber rest) :
    readPower negative significand exponent (cs ++ rest) = .ok (number, rest) := by
  cases cs with
  | nil => cases h
  | cons c cs =>
    -- The sign is the same with the rest as without it.
    have hunsigned : ∀ b : Bool, (if b then cs ++ rest else c :: (cs ++ rest)) =
        (if b then cs else c :: cs) ++ rest := by
      intro b
      cases b <;> rfl
    simp only [readPower, List.cons_append, List.head?_cons, List.drop_succ_cons, List.drop_zero,
      hunsigned, takeWhile_isDigit_append _ hrest, dropWhile_isDigit_append _ hrest, failAt,
      failPast, ite_error_eq_ok_iff] at h ⊢
    obtain ⟨hne, hdigits, hread⟩ := h
    refine ⟨not_isEmpty_append hne rest, hdigits, ?_⟩
    split at hread
    · obtain ⟨x, hx, hnumber, hnil⟩ := realNumber_eq_ok_iff.1 hread
      rw [← hnil]
      exact realNumber_eq_ok_iff.2 ⟨x, hx, hnumber, rfl⟩
    · rw [ite_error_eq_ok_iff] at hread ⊢
      obtain ⟨hpower, hread⟩ := hread
      obtain ⟨rfl, hnil⟩ := Prod.mk.inj (Except.ok.inj hread)
      rw [hnil]
      exact ⟨hpower, rfl⟩

theorem readFraction_append (h : readFraction negative significand exponent cs = .ok (number, []))
    (hrest : EndsNumber rest) :
    readFraction negative significand exponent (cs ++ rest) = .ok (number, rest) := by
  simp only [readFraction, takeWhile_isDigit_append _ hrest, dropWhile_isDigit_append _ hrest,
    failPast, ite_error_eq_ok_iff] at h ⊢
  obtain ⟨hne, hdigits, hread⟩ := h
  refine ⟨not_isEmpty_append hne rest, hdigits, ?_⟩
  split at hread
  · next hdrop => simpa [hdrop] using readPower_append hread hrest
  · next hdrop => simpa [hdrop] using readPower_append hread hrest
  · -- The number ends with its digits, and what comes after it is no power.
    obtain ⟨x, hx, hnumber, hdrop⟩ := realNumber_eq_ok_iff.1 hread
    rw [← hdrop, List.nil_append]
    split
    · exact absurd hrest (not_endsNumber_cons (by decide) _)
    · exact absurd hrest (not_endsNumber_cons (by decide) _)
    · exact realNumber_eq_ok_iff.2 ⟨x, hx, hnumber, rfl⟩

theorem readUnsigned_append (h : readUnsigned negative cs = .ok (number, []))
    (hrest : EndsNumber rest) : readUnsigned negative (cs ++ rest) = .ok (number, rest) := by
  simp only [readUnsigned, takeWhile_isDigit_append _ hrest, dropWhile_isDigit_append _ hrest,
    failAt, failPast, ite_error_eq_ok_iff] at h ⊢
  obtain ⟨hne, hdigits, hzero, hread⟩ := h
  refine ⟨not_isEmpty_append hne rest, hdigits, hzero, ?_⟩
  split at hread
  · next hdrop => simpa [hdrop] using readFraction_append hread hrest
  · next hdrop => simpa [hdrop] using readPower_append hread hrest
  · next hdrop => simpa [hdrop] using readPower_append hread hrest
  · -- The number ends with its digits, and what comes after it is neither a point nor a power.
    have hdrop : cs.dropWhile Char.isDigit = [] := by
      split at hread
      · exact (Prod.mk.inj (Except.ok.inj hread)).2
      · obtain ⟨-, -, -, hdrop⟩ := realNumber_eq_ok_iff.1 hread
        exact hdrop.symm
    rw [hdrop] at hread
    rw [hdrop, List.nil_append]
    split
    · exact absurd hrest (not_endsNumber_cons (by decide) _)
    · exact absurd hrest (not_endsNumber_cons (by decide) _)
    · exact absurd hrest (not_endsNumber_cons (by decide) _)
    · split at hread
      · next habsorb =>
        obtain ⟨rfl, -⟩ := Prod.mk.inj (Except.ok.inj hread)
        rw [if_pos habsorb]
      · next habsorb =>
        obtain ⟨x, hx, hnumber, -⟩ := realNumber_eq_ok_iff.1 hread
        rw [if_neg habsorb]
        exact realNumber_eq_ok_iff.2 ⟨x, hx, hnumber, rfl⟩

theorem readNumber_cons_of_ne {c : Char} (hc : c ≠ '-') (cs : List Char) :
    readNumber (c :: cs) = readUnsigned false (c :: cs) := by
  rw [readNumber]
  simpa using hc

/-- A number is read in the same way whatever comes after it. -/
theorem readNumber_append (h : readNumber cs = .ok (number, [])) (hrest : EndsNumber rest) :
    readNumber (cs ++ rest) = .ok (number, rest) := by
  cases cs with
  | nil => cases h
  | cons c cs =>
    by_cases hc : c = '-'
    · subst hc
      exact readUnsigned_append h hrest
    · rw [readNumber_cons_of_ne hc] at h
      rw [List.cons_append, readNumber_cons_of_ne hc]
      exact readUnsigned_append h hrest

/-- What is read as a number begins with a minus sign or a digit. -/
theorem exists_cons_of_readNumber (h : readNumber cs = .ok (number, rest)) :
    ∃ c cs', cs = c :: cs' ∧ (c = '-' ∨ c.isDigit) := by
  cases cs with
  | nil => cases h
  | cons c cs =>
    refine ⟨c, cs, rfl, or_iff_not_imp_left.2 fun hc => ?_⟩
    simp only [readNumber_cons_of_ne hc, readUnsigned, failAt, failPast, ite_error_eq_ok_iff] at h
    -- There is a digit in front, or there would be none.
    by_contra hdigit
    exact h.2.1 (by simp [hdigit])

/-! ## Integers -/

/-- An integer that 64 bits hold, with or without a sign. -/
def IsInteger (n : Int) : Prop :=
  -(Nat.pow 2 63 : Nat) ≤ n ∧ n ≤ maxSignificand

theorem readPower_ne_whole {n : Int} :
    readPower negative significand exponent cs ≠ .ok (.whole n, rest) := by
  intro h
  simp only [readPower, failAt, failPast, ite_error_eq_ok_iff] at h
  obtain ⟨-, -, hread⟩ := h
  split at hread
  · obtain ⟨x, -, hnumber, -⟩ := realNumber_eq_ok_iff.1 hread
    cases hnumber
  · obtain ⟨-, hread⟩ := ite_error_eq_ok_iff.1 hread
    cases hread

theorem readFraction_ne_whole {n : Int} :
    readFraction negative significand exponent cs ≠ .ok (.whole n, rest) := by
  intro h
  simp only [readFraction, failPast, ite_error_eq_ok_iff] at h
  obtain ⟨-, -, hread⟩ := h
  split at hread
  · exact readPower_ne_whole hread
  · exact readPower_ne_whole hread
  · obtain ⟨x, -, hnumber, -⟩ := realNumber_eq_ok_iff.1 hread
    cases hnumber

/-- A number that is read as an integer has nothing but digits, and all of them were taken. -/
theorem wholeNumber_of_readUnsigned {n : Int}
    (h : readUnsigned negative cs = .ok (.whole n, rest)) :
    rest = cs.dropWhile Char.isDigit ∧
      wholeNumber negative (absorb maxSignificand 0 (cs.takeWhile Char.isDigit)).1 = .whole n := by
  simp only [readUnsigned, failAt, failPast, ite_error_eq_ok_iff] at h
  obtain ⟨-, -, -, hread⟩ := h
  split at hread
  · exact absurd hread readFraction_ne_whole
  · exact absurd hread readPower_ne_whole
  · exact absurd hread readPower_ne_whole
  · split at hread
    · obtain ⟨hnumber, hrest⟩ := Prod.mk.inj (Except.ok.inj hread)
      exact ⟨hrest.symm, hnumber⟩
    · obtain ⟨x, -, hnumber, -⟩ := realNumber_eq_ok_iff.1 hread
      cases hnumber

theorem isInteger_of_wholeNumber {n : Int} (hle : significand ≤ maxSignificand)
    (h : wholeNumber negative significand = .whole n) : IsInteger n := by
  simp only [wholeNumber] at h
  have hbound : Nat.pow 2 63 ≤ maxSignificand := by decide
  split at h
  · cases h
    constructor <;> omega
  · split at h
    · cases h
    · next hsmall =>
      cases h
      constructor <;> omega

/-- The integers that are read are those of 64 bits. -/
theorem isInteger_of_readNumber {n : Int} (h : readNumber cs = .ok (.whole n, rest)) :
    IsInteger n := by
  have hunsigned : ∃ negative cs, readUnsigned negative cs = .ok (.whole n, rest) := by
    rw [readNumber.eq_def] at h
    split at h
    · exact ⟨_, _, h⟩
    · exact ⟨_, _, h⟩
  obtain ⟨negative, cs, h⟩ := hunsigned
  exact isInteger_of_wholeNumber (absorb_le (Nat.zero_le _) _) (wholeNumber_of_readUnsigned h).2

theorem readUnsigned_natDigits (negative : Bool) {n : Nat} (h : n ≤ maxSignificand) :
    readUnsigned negative (Decimal.natDigits n) = .ok (wholeNumber negative n, []) := by
  have hall : ∀ c ∈ Decimal.natDigits n, c.isDigit := fun c hc =>
    Nat.isDigit_of_mem_toDigits (by decide) (by decide) hc
  have hne : ¬ (Decimal.natDigits n).isEmpty := by
    simpa using Decimal.natDigits_ne_nil n
  have hzero : ¬ ((Decimal.natDigits n).head? = some '0' ∧ 1 < (Decimal.natDigits n).length) := by
    rintro ⟨hhead, hlength⟩
    obtain rfl : n = 0 := by_contra fun hn => Decimal.head?_natDigits_ne_zero hn hhead
    exact absurd hlength (by decide)
  simp only [readUnsigned, List.takeWhile_eq_self_iff.2 hall, List.dropWhile_eq_nil_iff.2 hall,
    absorb_natDigits h, if_neg hne, if_neg hzero]
  rfl

/-- An integer of 64 bits reads back. -/
theorem readNumber_intDigits {n : Int} (h : IsInteger n) :
    readNumber (Decimal.intDigits n) = .ok (.whole n, []) := by
  obtain ⟨hlow, hhigh⟩ := h
  have hbound : Nat.pow 2 63 ≤ maxSignificand := by decide
  cases n with
  | ofNat n =>
    obtain ⟨c, cs, hcs⟩ := List.exists_cons_of_ne_nil (Decimal.natDigits_ne_nil n)
    have hdigit : c.isDigit :=
      Nat.isDigit_of_mem_toDigits (by decide) (by decide) (hcs ▸ List.mem_cons_self)
    have hread := readUnsigned_natDigits false (n := n) (by simpa using hhigh)
    rw [hcs] at hread
    rw [Decimal.intDigits, hcs, readNumber_cons_of_ne (by rintro rfl; cases hdigit), hread]
    rfl
  | negSucc n =>
    rw [Decimal.intDigits, readNumber, readUnsigned_natDigits true (by omega), wholeNumber]
    rw [if_neg (by simp), if_neg (by omega)]
    rfl

/-- The text of a number that is read as an integer holds nothing but digits and a sign. -/
theorem isDigit_of_readNumber {n : Int} (h : readNumber cs = .ok (.whole n, [])) :
    ∀ c ∈ cs, c = '-' ∨ c.isDigit := by
  have hdigits : ∀ {negative cs}, readUnsigned negative cs = .ok (.whole n, []) →
      ∀ c ∈ cs, c.isDigit := fun h =>
    List.dropWhile_eq_nil_iff.1 (wholeNumber_of_readUnsigned h).1.symm
  rw [readNumber.eq_def] at h
  split at h
  · simpa using fun c hc => Or.inr (hdigits h c hc)
  · exact fun c hc => .inr (hdigits h c hc)

/-! ## Doubles -/

/-- No value is of the type that a text is refused for not having. -/
theorem failType_ne_ok {α : Type} {expected : String} {r : α × List Char} :
    failType expected cs ≠ .ok r := by
  intro h
  rw [failType.eq_def] at h
  split at h
  · cases h
  · cases h
  · obtain ⟨_, -, hfail⟩ := bind_eq_ok_iff.1 h
    cases hfail

/-- Where a double is asked for, any number will do. -/
theorem readFloat_eq_ok_iff {x : Float} :
    readFloat cs = .ok (x, rest) ↔
      ∃ number : Number, readNumber (skipSpace cs) = .ok (number, rest) ∧ number.toFloat = x := by
  rw [readFloat]
  cases skipSpace cs with
  | nil => simp [failType_ne_ok, readNumber, readUnsigned, failAt]
  | cons c cs =>
    simp only
    by_cases hc : c = '-' ∨ c.isDigit
    · rw [if_pos hc, map_eq_ok_iff]
      simp [Prod.ext_iff]
    · rw [if_neg hc]
      refine ⟨fun h => absurd h failType_ne_ok, ?_⟩
      rintro ⟨number, h, -⟩
      obtain ⟨_, _, heq, hstart⟩ := exists_cons_of_readNumber h
      cases heq
      exact absurd hstart hc

theorem isNumberText_jsonText (number : Number) : Decimal.IsNumberText number.jsonText := by
  cases number with
  | whole n => exact Decimal.isNumberText_intDigits n
  | real x =>
    rw [Number.jsonText]
    split
    · exact Decimal.isNumberText_text _ x
    · decide

theorem jsonText_ne_nil (number : Number) : number.jsonText ≠ [] := by
  cases number with
  | whole n => exact Decimal.intDigits_ne_nil n
  | real x =>
    rw [Number.jsonText]
    split
    · simpa using Decimal.Spelling.text_ne_empty _ x
    · simp

/-- No blanks stand in the text of a number. -/
theorem isSpace_of_isNumberChar {c : Char} (hc : Decimal.isNumberChar c) : isSpace c = false := by
  by_contra hspace
  simp only [isSpace, Bool.not_eq_false, Bool.or_eq_true, beq_iff_eq] at hspace
  obtain ((rfl | rfl) | rfl) | rfl := hspace
  all_goals exact absurd hc (by decide)

theorem skipSpace_of_isNumberText (h : Decimal.IsNumberText cs) : skipSpace cs = cs := by
  cases cs with
  | nil => rfl
  | cons c cs =>
    have hspace := isSpace_of_isNumberChar (List.all_eq_true.1 h c List.mem_cons_self)
    rw [skipSpace, List.dropWhile_cons_of_neg (by simp [hspace])]

/-- The text printed for a double reads as the same double where a double is asked for. -/
def ReadsBack (x : Float) : Prop :=
  readFloat (Number.real x).jsonText = .ok (x, [])

/-- A double that reads back where a double is asked for is read as a double everywhere. -/
theorem ReadsBack.readNumber {x : Float} (h : ReadsBack x) :
    readNumber (Number.real x).jsonText = .ok (.real x, []) := by
  obtain ⟨number, hread, hx⟩ := readFloat_eq_ok_iff.1 h
  rw [skipSpace_of_isNumberText (isNumberText_jsonText _)] at hread
  cases number with
  | real y =>
    obtain rfl : y = x := hx
    exact hread
  | whole n =>
    -- The text holds a character that no integer has.
    have hmark : ∃ c ∈ (Number.real x).jsonText, c ≠ '-' ∧ c.isDigit = false := by
      rw [Number.jsonText]
      split
      · exact Decimal.Spelling.exists_mark_mem_text rfl x
      · exact ⟨'n', by decide, by decide, by decide⟩
    obtain ⟨c, hc, hsign, hdigit⟩ := hmark
    obtain rfl | hdigit' := isDigit_of_readNumber hread c hc
    · exact absurd rfl hsign
    · rw [hdigit] at hdigit'
      cases hdigit'

end PageLayout.Json
