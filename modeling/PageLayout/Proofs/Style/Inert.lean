import PageLayout.Proofs.Style.Reader
import PageLayout.Proofs.Text.Pairs

/-!
# Nothing ends the style block or opens a comment

Three pairs of characters are not for a text inside a style block: `</` ends the block, `/*` opens
a comment and `*/` closes one. A rule holds none of them whatever its identifier and its values are,
provided that the names of its properties hold none. An identifier has a backslash between any two
characters that could meet, a value has lost the first character of one pair and one character of
each of the others, and where two parts of a rule meet there is always a character that belongs to
no pair.

- `IsInert`: a text without these pairs.
- `isInert_sanitize`: values.
- `isSealed_identifierChars`: identifiers.
- `isSealed_rule`: rules.
-/

namespace PageLayout.Style

/-- The pairs of characters that end a style block, open a comment or close one. -/
def hazards : List (Char × Char) :=
  [('<', '/'), ('/', '*'), ('*', '/')]

/-- No such pair stands in a text. -/
def IsInert (cs : List Char) : Prop :=
  ∀ pair ∈ hazards, ¬ [pair.1, pair.2] <:+: cs

/-- No such pair stands in a text, and the text completes none that begins in front of it. -/
structure IsSealed (cs : List Char) : Prop where
  inert : IsInert cs
  head : ∀ pair ∈ hazards, cs.head? ≠ some pair.2

/-- The characters that belong to no such pair. -/
def isNeutral (c : Char) : Bool :=
  hazards.all fun pair => c != pair.1 && c != pair.2

variable {cs ds : List Char} {c : Char}

instance (cs : List Char) : Decidable (IsInert cs) :=
  inferInstanceAs (Decidable (∀ pair ∈ hazards, ¬ [pair.1, pair.2] <:+: cs))

/-! ## Texts put together -/

theorem isInert_nil : IsInert [] :=
  fun _ _ h => absurd (List.infix_nil.1 h) (List.cons_ne_nil _ _)

theorem isSealed_nil : IsSealed [] :=
  ⟨isInert_nil, fun _ _ => nofun⟩

/-- A text without slashes is inert, since there is one in every pair. -/
theorem isInert_of_slash_notMem (h : '/' ∉ cs) : IsInert cs := by
  intro pair hpair hstands
  refine h (hstands.subset ?_)
  simp only [hazards, List.mem_cons, List.not_mem_nil, or_false] at hpair
  obtain rfl | rfl | rfl := hpair
  all_goals simp

theorem isNeutral_iff : isNeutral c ↔ ∀ pair ∈ hazards, c ≠ pair.1 ∧ c ≠ pair.2 := by
  simp [isNeutral]

/-- The characters of a class that has none of the pairs' characters belong to no pair. -/
theorem isNeutral_of_class {p : Char → Bool}
    (hp : (hazards.all fun pair => !p pair.1 && !p pair.2) = true) (hc : p c) : isNeutral c := by
  rw [isNeutral_iff]
  intro pair hpair
  have hnot : p pair.1 = false ∧ p pair.2 = false := by
    simpa using List.all_eq_true.1 hp pair hpair
  constructor
  · rintro rfl
    rw [hnot.1] at hc
    cases hc
  · rintro rfl
    rw [hnot.2] at hc
    cases hc

/-- A sealed text may follow any inert text. -/
theorem IsInert.append (hcs : IsInert cs) (hds : IsSealed ds) : IsInert (cs ++ ds) := by
  intro pair hpair hstands
  rcases Text.pair_infix_append_iff.1 hstands with h | h | ⟨-, hhead⟩
  · exact hcs pair hpair h
  · exact hds.inert pair hpair h
  · exact hds.head pair hpair hhead

/-- Any inert text may follow one that ends in a character that belongs to no pair. -/
theorem IsInert.append_of_getLast? (hcs : IsInert cs) (hlast : cs.getLast?.all isNeutral)
    (hds : IsInert ds) : IsInert (cs ++ ds) := by
  intro pair hpair hstands
  rcases Text.pair_infix_append_iff.1 hstands with h | h | ⟨hend, -⟩
  · exact hcs pair hpair h
  · exact hds pair hpair h
  · rw [hend] at hlast
    exact (isNeutral_iff.1 hlast pair hpair).1 rfl

theorem IsSealed.append (hcs : IsSealed cs) (hds : IsSealed ds) : IsSealed (cs ++ ds) where
  inert := hcs.inert.append hds
  head pair hpair := by
    cases cs with
    | nil => exact hds.head pair hpair
    | cons c cs => exact hcs.head pair hpair

/-- A character that belongs to no pair seals the inert text behind it. -/
theorem IsInert.cons (hcs : IsInert cs) (hc : isNeutral c) : IsSealed (c :: cs) where
  inert pair hpair hstands := by
    rcases Text.pair_infix_cons_iff.1 hstands with ⟨heq, -⟩ | h
    · exact (isNeutral_iff.1 hc pair hpair).1 heq
    · exact hcs pair hpair h
  head pair hpair h := (isNeutral_iff.1 hc pair hpair).2 (Option.some.inj h)

/-- A text of characters that belong to no pair is sealed. -/
theorem isSealed_of_isNeutral (h : cs.all isNeutral) : IsSealed cs := by
  induction cs with
  | nil => exact isSealed_nil
  | cons c cs ih =>
    rw [List.all_cons, Bool.and_eq_true] at h
    exact (ih h.2).inert.cons h.1

theorem IsSealed.flatMap {α : Type} {f : α → List Char} {xs : List α}
    (h : ∀ x ∈ xs, IsSealed (f x)) : IsSealed (xs.flatMap f) := by
  induction xs with
  | nil => exact isSealed_nil
  | cons x xs ih =>
    obtain ⟨hx, hxs⟩ := List.forall_mem_cons.1 h
    rw [List.flatMap_cons]
    exact hx.append (ih hxs)

/-! ## Values -/

/-- The characters that are kept of a value form no pair, neither among themselves nor with the one
kept before them. -/
theorem isInert_keptChars {last : Option Char} (hlast : ∀ c ∈ last, isDelimiter c = false)
    (cs : List Char) : IsInert (last.toList ++ keptChars last cs) := by
  induction cs generalizing last with
  | nil =>
    -- At most one character is there.
    rw [keptChars, List.append_nil]
    intro pair _ hstands
    have hlength := hstands.length_le
    cases last <;> simp at hlength
  | cons c cs ih =>
    rw [keptChars]
    split
    · exact ih hlast
    · next hkept =>
      simp only [Bool.or_eq_true, not_or, Bool.not_eq_true] at hkept
      obtain ⟨hdelimiter, hjoins⟩ := hkept
      have hc : ∀ d ∈ some c, isDelimiter d = false := by simpa using hdelimiter
      have hrest : IsInert (c :: keptChars (some c) cs) := ih hc
      cases last with
      | none => exact hrest
      | some a =>
        have ha : isDelimiter a = false := hlast a rfl
        intro pair hpair hstands
        rcases Text.pair_infix_cons_iff.1 hstands with ⟨rfl, hhead⟩ | h
        · -- The pair would be `a` and `c`, but then `c` had not been kept, or `a` had not.
          obtain rfl : c = pair.2 := Option.some.inj hhead
          simp only [hazards, List.mem_cons, List.not_mem_nil, or_false] at hpair
          rcases hpair with rfl | rfl | rfl
          · exact absurd ha (by decide)
          · exact absurd hjoins (by decide)
          · exact absurd hjoins (by decide)
        · exact hrest pair hpair h

/-- A written value is inert. -/
theorem isInert_sanitize (value : String) : IsInert (sanitize value).toList := by
  have hnone : ∀ c ∈ (none : Option Char), isDelimiter c = false := nofun
  rw [toList_sanitize]
  exact isInert_keptChars hnone value.toList

/-! ## Identifiers -/

/-- No character that stands for itself in an identifier belongs to a pair. -/
theorem isNeutral_of_isNameChar (h : isNameChar c) : isNeutral c :=
  isNeutral_of_class (by decide) h

theorem isSealed_codePointEscape (c : Char) : IsSealed (codePointEscape c) := by
  refine isSealed_of_isNeutral (List.all_eq_true.2 fun d hd => ?_)
  -- All characters of such an escape are digits, apart from its two ends.
  have hclass : d == '\\' || isHexDigit d || d == ' ' := by
    rw [codePointEscape, List.cons_append, List.mem_cons, List.mem_append, List.mem_singleton] at hd
    rcases hd with rfl | hdigit | rfl
    · rfl
    · rw [isHexDigit_of_mem_hexDigits c.toNat d hdigit, Bool.or_true, Bool.true_or]
    · rfl
  exact isNeutral_of_class (p := fun d => d == '\\' || isHexDigit d || d == ' ') (by decide) hclass

/-- A character of an identifier belongs to no pair, or it stands behind a backslash. -/
theorem isSealed_nameChar (c : Char) : IsSealed (nameChar c) := by
  rw [nameChar]
  split
  · next hname => exact isSealed_of_isNeutral (by simpa using isNeutral_of_isNameChar hname)
  · split
    · exact isSealed_codePointEscape c
    · refine IsInert.cons ?_ (by decide)
      intro pair _ hstands
      simpa using hstands.length_le

/-- An identifier is sealed, whatever characters it has. -/
theorem isSealed_identifierChars (id : List Char) : IsSealed (identifierChars id) := by
  cases id with
  | nil => exact isSealed_nil
  | cons c cs =>
    rw [identifierChars]
    refine IsSealed.append ?_ (.flatMap fun c _ => isSealed_nameChar c)
    split
    · exact isSealed_codePointEscape c
    · exact isSealed_nameChar c

/-! ## Rules -/

/-- A declaration is inert if the name of its property is. -/
theorem isInert_text {declaration : Declaration} (h : IsInert declaration.property.toList) :
    IsInert (declaration.text true).toList := by
  have hvalue : IsSealed (' ' :: (sanitize declaration.value).toList) :=
    (isInert_sanitize declaration.value).cons (by decide)
  rw [toList_text]
  exact h.append (hvalue.inert.cons (by decide))

/-- Inert texts with a separator between any two are inert together. -/
theorem isInert_intercalate {texts : List (List Char)} (h : ∀ text ∈ texts, IsInert text) :
    IsInert ([';', ' '].intercalate texts) := by
  induction texts with
  | nil => exact isInert_nil
  | cons text texts ih =>
    obtain ⟨htext, htexts⟩ := List.forall_mem_cons.1 h
    cases texts with
    | nil => simpa using htext
    | cons next texts =>
      rw [List.intercalate_cons_cons, List.append_assoc]
      exact htext.append (((ih htexts).cons (by decide)).inert.cons (by decide))

/-- A rule is sealed if the names of its properties are inert. -/
theorem isSealed_rule (id : String) {style : Style}
    (h : ∀ d ∈ style, IsInert d.property.toList) : IsSealed (rule true id style).toList := by
  have hbody : IsInert (body true style).toList := by
    rw [body, String.toList_intercalate]
    refine isInert_intercalate fun text htext => ?_
    rw [List.map_map] at htext
    obtain ⟨d, hd, rfl⟩ := List.mem_map.1 htext
    exact isInert_text (h d hd)
  have hclose : IsSealed [' ', '\x7d'] := isSealed_of_isNeutral (by decide)
  have hend : IsSealed ['\n'] := isSealed_of_isNeutral (by decide)
  -- Behind the identifier, every part begins with a character that belongs to no pair.
  have hblock : IsSealed (' ' :: '\x7b' :: ' ' :: ((body true style).toList ++ [' ', '\x7d'])) :=
    ((((hbody.append hclose).cons (by decide)).inert.cons (by decide)).inert.cons (by decide))
  rw [toList_rule, ruleChars]
  exact IsSealed.append
    (((isSealed_identifierChars id.toList).append hblock).inert.cons (by decide)) hend

end PageLayout.Style
