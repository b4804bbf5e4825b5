import PageLayout.Proofs.Decimal.Shape
import PageLayout.Proofs.Style.Name
import PageLayout.Style.Basic

/-!
# Identifiers that start a selector

A reader of style sheets looks at the first characters behind a number sign to see whether a name
starts there, and drops the rule if none does. A digit in front of an identifier is escaped so that
a name starts, but a dash in front of a digit, or alone, is written as it is.

- `startsIdentifier`: whether a name starts in front of a text.
- `IsUsable`: what an identifier must be for its rule to be kept.
- `startsIdentifier_identifierChars_iff`: which identifiers start a name, whatever follows them.
- `startsIdentifier_identifier_iff`: which identifiers, and which rules, are kept.
- `not_isUsable_intText`: the texts of negative numbers are not among them.
-/

namespace PageLayout.Style

/-! ## Names in front of a text -/

/-- The characters that a name may begin with. -/
def isNameStart (c : Char) : Bool :=
  c.isAlpha || c == '_' || 0x80 ≤ c.toNat

/-- Whether an escape stands in front of a text: a backslash before anything but a line break. -/
def startsEscape : List Char → Bool
  | '\\' :: c :: _ => c != '\n' && c != '\r' && c != '\x0c'
  | _ => false

/-- Whether a name starts in front of a text: with a character that may begin one or with an escape,
in either case behind a dash or not, or with two dashes. -/
def startsIdentifier : List Char → Bool
  | '-' :: cs => cs.head?.any (fun c => isNameStart c || c == '-') || startsEscape cs
  | cs => cs.head?.any isNameStart || startsEscape cs

/-- Whether a text begins with the selector of an identifier. -/
def startsSelector : List Char → Bool
  | '#' :: cs => startsIdentifier cs
  | _ => false

/-- An identifier that still starts a name when it is written in a selector: it is more than a dash,
and does not begin with a dash and a digit. -/
def IsUsable (id : String) : Prop :=
  id ≠ "" ∧ id ≠ "-" ∧ ∀ d cs, id.toList = '-' :: d :: cs → d.isDigit = false

/-! ## Characters -/

variable {c : Char} {cs rest : List Char}

/-- A name goes on with the characters that may begin one, with digits and with dashes. -/
theorem isNameChar_eq (c : Char) :
    isNameChar c = (isNameStart c || c == '-' || c.isDigit) := by
  rw [isNameChar, isNameStart, Char.isAlphanum]
  ac_rfl

theorem isNameStart_of_isDigit (hc : c.isDigit) : isNameStart c = false := by
  obtain ⟨hlow, hhigh⟩ : 48 ≤ c.toNat ∧ c.toNat ≤ 57 := Char.isDigit_iff_toNat.1 hc
  -- The letters come after the digits, and so do the underscore and what is beyond ASCII.
  have hupper : c.isUpper = false := by
    apply decide_eq_false
    rintro ⟨hletter, -⟩
    have hletter : 65 ≤ c.toNat := UInt32.le_iff_toNat_le.1 hletter
    omega
  have hlower : c.isLower = false := by
    apply Bool.and_eq_false_iff.2
    left
    apply decide_eq_false
    intro hletter
    have hletter : 97 ≤ c.toNat := UInt32.le_iff_toNat_le.1 hletter
    omega
  have hunderscore : c ≠ '_' := by
    rintro rfl
    exact absurd hhigh (by decide)
  have halpha : c.isAlpha = false := by
    show (c.isUpper || c.isLower) = false
    rw [hupper, hlower]
    rfl
  have hlarge : ¬ 0x80 ≤ c.toNat := by omega
  simp [isNameStart, halpha, hunderscore, hlarge]

/-- No character that stands for itself in a name is a line break. -/
theorem startsEscape_cons (hc : isNameChar c) (cs : List Char) :
    startsEscape ('\\' :: c :: cs) := by
  have hne : c ≠ '\n' ∧ c ≠ '\r' ∧ c ≠ '\x0c' := by
    refine ⟨?_, ?_, ?_⟩
    all_goals
      rintro rfl
      exact absurd hc (by decide)
  simp [startsEscape, hne]

theorem startsEscape_codePointEscape (c : Char) (rest : List Char) :
    startsEscape (codePointEscape c ++ rest) := by
  obtain ⟨d, digits, hdigits⟩ := List.exists_cons_of_ne_nil
    (show Text.hexDigits c.toNat ≠ [] from Nat.toDigits_ne_nil)
  have hd : isHexDigit d := isHexDigit_of_mem_hexDigits c.toNat d (hdigits ▸ List.mem_cons_self)
  rw [codePointEscape, hdigits]
  exact startsEscape_cons (isNameChar_of_isHexDigit hd) _

/-- A character that does not stand for itself is written as an escape. -/
theorem startsEscape_nameChar (hc : isNameChar c = false) (rest : List Char) :
    startsEscape (nameChar c ++ rest) := by
  rw [nameChar, if_neg (by simp [hc])]
  split
  · exact startsEscape_codePointEscape c rest
  · next hcontrol =>
    -- Line breaks are control characters, which are written by their code points.
    have hne : c ≠ '\n' ∧ c ≠ '\r' ∧ c ≠ '\x0c' := by
      refine ⟨?_, ?_, ?_⟩
      all_goals
        rintro rfl
        exact absurd rfl hcontrol
    simp [startsEscape, hne]

/-! ## Beginnings -/

theorem startsIdentifier_of_startsEscape (h : startsEscape cs) : startsIdentifier cs := by
  rw [startsEscape.eq_def] at h
  split at h
  · simp [startsIdentifier, startsEscape, h]
  · cases h

theorem startsIdentifier_of_isNameStart (hc : isNameStart c) (cs : List Char) :
    startsIdentifier (c :: cs) := by
  have hdash : c ≠ '-' := by
    rintro rfl
    exact absurd hc (by decide)
  simp [startsIdentifier, hdash, hc]

/-- Behind a dash, every character goes on with the beginning of a name but a digit. -/
theorem startsIdentifier_dash (c : Char) (cs : List Char) :
    startsIdentifier ('-' :: (nameChar c ++ cs)) = !c.isDigit := by
  by_cases hc : isNameChar c
  · have hbackslash : c ≠ '\\' := by
      rintro rfl
      exact absurd hc (by decide)
    rw [nameChar, if_pos hc]
    rw [isNameChar_eq, Bool.or_eq_true] at hc
    by_cases hdigit : c.isDigit
    · have hdash : c ≠ '-' := by
        rintro rfl
        exact absurd hdigit (by decide)
      simp [startsIdentifier, startsEscape, isNameStart_of_isDigit hdigit, hdash, hbackslash,
        hdigit]
    · simp [startsIdentifier, hc.resolve_right hdigit, hdigit]
  · have hdigit : c.isDigit = false := by
      rw [isNameChar_eq, Bool.or_eq_true, not_or] at hc
      simpa using hc.2
    simp [startsIdentifier, startsEscape_nameChar (Bool.eq_false_iff.2 hc) cs, hdigit]

/-- What stands behind an identifier and does not belong to it: nothing, or something that begins
with no part of a name. -/
def StopsName (rest : List Char) : Prop :=
  ∀ c ∈ rest.head?, isNameChar c = false ∧ c ≠ '\\'

theorem StopsName.startsEscape_eq (h : StopsName rest) : startsEscape rest = false := by
  rw [startsEscape.eq_def]
  split
  · exact absurd rfl (h '\\' rfl).2
  · rfl

/-- A name neither begins where it stops nor with a dash in front of that. -/
theorem StopsName.startsIdentifier_eq (h : StopsName rest) :
    startsIdentifier rest = false ∧ startsIdentifier ('-' :: rest) = false := by
  have hescape := h.startsEscape_eq
  cases rest with
  | nil => exact ⟨rfl, rfl⟩
  | cons c rest =>
    have hc := (h c rfl).1
    have hdash : c ≠ '-' := by
      rintro rfl
      exact absurd hc (by decide)
    rw [isNameChar_eq, Bool.or_eq_false_iff, Bool.or_eq_false_iff] at hc
    simp [startsIdentifier, hdash, hc.1.1, hescape]

/-! ## Identifiers -/

/-- An identifier starts a name, whatever stands behind it, if it is usable. -/
theorem startsIdentifier_identifierChars_iff (hrest : StopsName rest) :
    startsIdentifier (identifierChars cs ++ rest) ↔
      cs ≠ [] ∧ cs ≠ ['-'] ∧ ∀ d ds, cs = '-' :: d :: ds → d.isDigit = false := by
  cases cs with
  | nil => simp [identifierChars, hrest.startsIdentifier_eq.1]
  | cons c cs =>
    by_cases hdash : c = '-'
    · subst hdash
      have hchars : identifierChars ('-' :: cs) ++ rest =
          '-' :: (cs.flatMap nameChar ++ rest) := rfl
      rw [hchars]
      -- What decides is the character behind the dash, if there is one.
      cases cs with
      | nil => simp [hrest.startsIdentifier_eq.2]
      | cons d ds =>
        rw [List.flatMap_cons, List.append_assoc, startsIdentifier_dash]
        simp
    -- Any other character starts a name, since digits are escaped here.
    · have hstarts : startsIdentifier (identifierChars (c :: cs) ++ rest) := by
        rw [identifierChars, List.append_assoc]
        split
        · exact startsIdentifier_of_startsEscape (startsEscape_codePointEscape c _)
        · next hdigit =>
          by_cases hc : isNameChar c
          · rw [nameChar, if_pos hc]
            rw [isNameChar_eq] at hc
            refine startsIdentifier_of_isNameStart ?_ _
            simpa [hdash, hdigit] using hc
          · exact startsIdentifier_of_startsEscape
              (startsEscape_nameChar (Bool.eq_false_iff.2 hc) _)
      simp [hstarts, hdash]

theorem isUsable_iff {id : String} :
    IsUsable id ↔ id.toList ≠ [] ∧ id.toList ≠ ['-'] ∧
      ∀ d ds, id.toList = '-' :: d :: ds → d.isDigit = false := by
  have hempty : id.toList = [] ↔ id = "" := String.toList_eq_nil_iff
  have hdash : id.toList = "-".toList ↔ id = "-" := String.toList_inj
  rw [IsUsable, Ne, Ne, ← hempty, ← hdash]
  rfl

/-- An identifier is written so that a name starts with it, and so that its rule begins with its
selector, if it is usable. -/
theorem startsIdentifier_identifier_iff (id : String) (style : Style) :
    (startsIdentifier (identifier id).toList ↔ IsUsable id) ∧
      (startsSelector (rule true id style).toList ↔ IsUsable id) := by
  have hrule : (rule true id style).toList =
      '#' :: (identifierChars id.toList ++
        ' ' :: ("\x7b " ++ body true style ++ " \x7d\n").toList) := by
    simp [rule, selector, toList_identifier, String.toList_append]
  have hnil : StopsName [] := fun _ => nofun
  have hspace : ∀ cs, StopsName (' ' :: cs) := by
    rintro cs _ ⟨⟩
    exact ⟨by decide, by decide⟩
  rw [isUsable_iff]
  constructor
  · rw [toList_identifier, ← List.append_nil (identifierChars _)]
    exact startsIdentifier_identifierChars_iff hnil
  · rw [hrule]
    exact startsIdentifier_identifierChars_iff (hspace _)

/-- The text of a negative number is written as it is, so no name starts with it. -/
theorem not_startsIdentifier_minusFive :
    (Json.Number.whole (-5)).text = "-5" ∧ identifier "-5" = "-5" ∧
      startsIdentifier (identifier "-5").toList = false := by
  decide

/-- No negative number is usable: its first digit stands behind the dash. -/
theorem not_isUsable_intText {n : Int} (hn : n < 0) : ¬ IsUsable (Decimal.intText n) := by
  obtain ⟨m, rfl⟩ := Int.eq_negSucc_of_lt_zero hn
  obtain ⟨d, ds, hds⟩ := List.exists_cons_of_ne_nil (Decimal.natDigits_ne_nil (m + 1))
  have hmem : d ∈ Decimal.natDigits (m + 1) := hds ▸ List.mem_cons_self
  have hd : d.isDigit := Nat.isDigit_of_mem_toDigits (by decide) (by decide) hmem
  rintro ⟨-, -, hdash⟩
  have hfalse : d.isDigit = false := by
    refine hdash d ds ?_
    rw [Decimal.intText, String.toList_ofList, Decimal.intDigits, hds]
  exact Bool.false_ne_true (hfalse.symm.trans hd)

end PageLayout.Style
