import Mathlib.Data.List.DropRight
import PageLayout.Proofs.Json.Layout

/-!
# Every value is passed over

The text of any value is passed over up to its end, however deep it nests: the open brackets stand
on a stack, and what is below a value on the stack is the same before and after it.

- `skipString_literal` and `skipUnsigned_isUnsigned`: values without parts.
- `passes_isValue`: a value within any open brackets.
- `skipValue_isValue`: a value by itself.
-/

namespace PageLayout.Json

variable {cs rest raw : List Char}

/-! ## Digits -/

/-- A text at the beginning of which there is no digit. -/
def EndsDigits (cs : List Char) : Prop :=
  ∀ c ∈ cs.head?, c.isDigit = false

theorem EndsNumber.endsDigits (h : EndsNumber cs) : EndsDigits cs := by
  intro c hc
  have hchar := h c hc
  rw [Decimal.isNumberChar, Char.isAlphanum] at hchar
  cases hdigit : c.isDigit <;> simp_all

theorem endsDigits_cons {c : Char} (hc : c.isDigit = false) (cs : List Char) :
    EndsDigits (c :: cs) := by
  rintro _ ⟨⟩
  exact hc

theorem takeWhile_isDigit (hcs : ∀ c ∈ cs, c.isDigit) (hrest : EndsDigits rest) :
    (cs ++ rest).takeWhile Char.isDigit = cs := by
  rw [List.takeWhile_append_of_pos hcs]
  cases rest with
  | nil => simp
  | cons c rest => simp [hrest c rfl]

theorem dropWhile_isDigit (hcs : ∀ c ∈ cs, c.isDigit) (hrest : EndsDigits rest) :
    (cs ++ rest).dropWhile Char.isDigit = rest := by
  rw [List.dropWhile_append_of_pos hcs]
  cases rest with
  | nil => rfl
  | cons c rest => simp [hrest c rfl]

theorem IsDigits.isEmpty (h : IsDigits cs) : cs.isEmpty = false := by
  simpa using h.ne_nil

theorem skipDigits_isDigits (h : IsDigits cs) (hrest : EndsDigits rest) :
    skipDigits (cs ++ rest) = .ok rest := by
  rw [skipDigits, takeWhile_isDigit h.isDigit hrest, dropWhile_isDigit h.isDigit hrest, h.isEmpty]
  rfl

/-! ## Values without parts -/

theorem skipString_literal (h : IsLiteral raw) (rest : List Char) :
    skipString (raw ++ '"' :: rest) = .ok rest := by
  induction h with
  | nil => rfl
  | plain hquote hbackslash hcontrol _ ih =>
    rw [List.cons_append, skipString.eq_def]
    simp [hbackslash, hcontrol, ih]
  | @short e c raw hescape _ ih =>
    -- Escapes of code units are no short ones.
    have he : e ≠ 'u' := by
      rintro rfl
      cases hescape
    rw [List.cons_append, List.cons_append, skipString.eq_def]
    simp [he, hescape, ih]
  | hex hunit _ ih =>
    simp only [List.cons_append, skipString, hunit, Option.isSome_some, if_true, ih]

theorem IsPower.endsDigits (h : IsPower cs) (hrest : EndsDigits rest) :
    EndsDigits (cs ++ rest) := by
  cases h with
  | none => exact hrest
  | digits he _ _ => rcases he with rfl | rfl <;> exact endsDigits_cons (by decide) _

theorem IsPower.append_ne_point (h : IsPower cs) (hrest : EndsNumber rest) (cs' : List Char) :
    cs ++ rest ≠ '.' :: cs' := by
  intro heq
  cases h with
  | none =>
    rw [List.nil_append] at heq
    exact not_endsNumber_cons (by decide) _ (heq ▸ hrest)
  | digits he _ _ =>
    rw [List.cons_append, List.cons.injEq] at heq
    rcases he with rfl | rfl
    · exact absurd heq.1 (by decide)
    · exact absurd heq.1 (by decide)

theorem skipPower_isPower (h : IsPower cs) (hrest : EndsNumber rest) :
    skipPower (cs ++ rest) = .ok rest := by
  cases h with
  | none =>
    rw [List.nil_append, skipPower.eq_def]
    split
    all_goals first
      | exact absurd hrest (not_endsNumber_cons (by decide) _)
      | rfl
  | @digits e sign cs he hsign hcs =>
    have hskip := skipDigits_isDigits hcs hrest.endsDigits
    obtain ⟨d, ds, rfl⟩ := List.exists_cons_of_ne_nil hcs.ne_nil
    have hd : d.isDigit := hcs.isDigit d List.mem_cons_self
    -- A digit is no sign.
    have hplus : d ≠ '+' := by rintro rfl; cases hd
    have hminus : d ≠ '-' := by rintro rfl; cases hd
    rcases he with rfl | rfl
    · cases hsign with
      | none => simpa [skipPower, hplus, hminus] using hskip
      | plus => exact hskip
      | minus => exact hskip
    · cases hsign with
      | none => simpa [skipPower, hplus, hminus] using hskip
      | plus => exact hskip
      | minus => exact hskip

theorem skipUnsigned_isUnsigned (h : IsUnsigned cs) (hrest : EndsNumber rest) :
    skipUnsigned (cs ++ rest) = .ok rest := by
  cases h with
  | @mk whole fraction power hwhole hfraction hpower =>
    -- The digits of the whole part end where the fraction, the power or the rest begins.
    have hafter : EndsDigits (fraction ++ (power ++ rest)) := by
      cases hfraction with
      | none => exact hpower.endsDigits hrest.endsDigits
      | digits _ => exact endsDigits_cons (by decide) _
    -- So a zero in front, which stands alone, has no digit behind it.
    have hzero : ¬ ((whole ++ (fraction ++ (power ++ rest))).head? = some '0' ∧
        ((whole ++ (fraction ++ (power ++ rest))).drop 1).head?.any Char.isDigit) := by
      rintro ⟨hhead, hnext⟩
      obtain rfl : whole = ['0'] := by
        refine hwhole.zero ?_
        rwa [List.head?_append_of_ne_nil _ hwhole.ne_nil] at hhead
      obtain ⟨c, hc, hdigit⟩ := (Option.any_eq_true _ _).1 hnext
      exact absurd hdigit (by simp [hafter c hc])
    rw [List.append_assoc, List.append_assoc, skipUnsigned,
      skipDigits_isDigits hwhole.toIsDigits hafter]
    simp only [bind, Except.bind, if_neg hzero]
    cases hfraction with
    | none =>
      rw [List.nil_append]
      split
      · next heq => exact absurd heq (hpower.append_ne_point hrest _)
      · exact skipPower_isPower hpower hrest
    | digits hdigits =>
      have hskip := skipDigits_isDigits hdigits (hpower.endsDigits hrest.endsDigits)
      simp only [List.cons_append, hskip]
      exact skipPower_isPower hpower hrest

/-- A number without a sign begins with a digit. -/
theorem IsUnsigned.exists_cons (h : IsUnsigned cs) : ∃ d ds, cs = d :: ds ∧ d.isDigit := by
  cases h with
  | mk hwhole _ _ =>
    obtain ⟨d, ds, rfl⟩ := List.exists_cons_of_ne_nil hwhole.ne_nil
    exact ⟨d, _, rfl, hwhole.isDigit d List.mem_cons_self⟩

/-- A number begins with its sign or a digit. -/
theorem IsNumber.exists_cons (h : IsNumber cs) :
    ∃ c cs', cs = c :: cs' ∧ (c = '-' ∨ c.isDigit) := by
  cases h with
  | unsigned hunsigned =>
    obtain ⟨d, ds, rfl, hd⟩ := hunsigned.exists_cons
    exact ⟨d, ds, rfl, .inr hd⟩
  | negative _ => exact ⟨'-', _, rfl, .inl rfl⟩

/-- A number begins with no other character. -/
theorem IsNumber.head?_ne (h : IsNumber cs) {c : Char} (hc : ¬ (c = '-' ∨ c.isDigit)) :
    cs.head? ≠ some c := by
  obtain ⟨d, ds, rfl, hd⟩ := h.exists_cons
  rw [List.head?_cons]
  rintro ⟨⟩
  exact hc hd

theorem skipScalar_digit {d : Char} (hd : d.isDigit) (cs : List Char) :
    skipScalar (d :: cs) = skipUnsigned (d :: cs) := by
  rw [skipScalar.eq_def]
  split
  all_goals first
    | cases ‹_ :: _ = []›
    | cases ‹d :: cs = _›; exact absurd hd (by decide)
    | cases ‹d :: cs = _›; exact if_pos hd

theorem skipScalar_isScalar (h : IsScalar cs) (hrest : EndsNumber rest) :
    skipScalar (cs ++ rest) = .ok rest := by
  cases h with
  | null => rfl
  | yes => rfl
  | no => rfl
  | string hraw =>
    rw [List.cons_append, List.append_assoc]
    exact skipString_literal hraw rest
  | number hnumber =>
    cases hnumber with
    | unsigned hunsigned =>
      obtain ⟨d, ds, rfl, hd⟩ := hunsigned.exists_cons
      rw [List.cons_append, skipScalar_digit hd]
      exact skipUnsigned_isUnsigned hunsigned hrest
    | negative hunsigned => exact skipUnsigned_isUnsigned hunsigned hrest

/-! ## Beginnings -/

/-- A value without parts does not begin with a blank, a bracket or a comma. -/
theorem IsScalar.exists_cons (h : IsScalar cs) :
    ∃ c cs', cs = c :: cs' ∧ isSpace c = false ∧ c ∉ ['[', ']', '\x7b', ','] := by
  cases h with
  | null => exact ⟨'n', _, rfl, by decide, by decide⟩
  | yes => exact ⟨'t', _, rfl, by decide, by decide⟩
  | no => exact ⟨'f', _, rfl, by decide, by decide⟩
  | string _ => exact ⟨'"', _, rfl, by decide, by decide⟩
  | number hnumber =>
    obtain ⟨c, cs', rfl, hc⟩ := hnumber.exists_cons
    rcases hc with rfl | hdigit
    · exact ⟨'-', cs', rfl, by decide, by decide⟩
    · have hchar : Decimal.isNumberChar c := by simp [Decimal.isNumberChar, Char.isAlphanum, hdigit]
      refine ⟨c, cs', rfl, isSpace_of_isNumberChar hchar, ?_⟩
      intro hmem
      simp only [List.mem_cons, List.not_mem_nil, or_false] at hmem
      rcases hmem with rfl | rfl | rfl | rfl
      all_goals exact absurd hdigit (by decide)

theorem IsValue.startsValue (h : IsValue cs) : StartsValue cs := by
  cases h with
  | scalar hscalar =>
    obtain ⟨c, cs, rfl, hspace, hc⟩ := hscalar.exists_cons
    simp only [List.mem_cons, not_or] at hc
    exact ⟨c, rfl, hspace, hc.2.1, hc.2.2.2.1⟩
  | within bracket _ _ _ _ => cases bracket <;> exact ⟨_, rfl, by decide, by decide, by decide⟩

/-! ## Arrays and objects -/

variable {bracket : Bracket} {part : Part} {gap trail : List Char}

theorem readColon_gap {after : List Char} (hafter : IsGap after) (cs : List Char) :
    readColon (after ++ ':' :: cs) = .ok cs := by
  rw [readColon, skipSpace_gap hafter, skipSpace_cons (by decide)]
  rfl

/-- The key of a part is passed over, if it has one, and leaves the blanks in front of the value. -/
theorem skipKey_lead (h : bracket.Admits part) :
    ∃ gap, IsGap gap ∧ gap.length ≤ part.lead.length ∧
      ∀ cs, skipKey bracket (part.lead ++ cs) = .ok (gap ++ cs) := by
  cases bracket with
  | list => exact ⟨part.lead, h, le_rfl, fun _ => rfl⟩
  | object =>
    obtain ⟨raw, hraw, hkey⟩ := h
    cases hkey with
    | @mk before after gap value trail hbefore hafter hgap =>
      refine ⟨gap, hgap, ?_, fun cs => ?_⟩
      · simp only [List.length_append, List.length_cons]
        omega
      · have hquote : skipSpace (before ++ '"' :: (raw ++ '"' :: (after ++ ':' :: (gap ++ cs)))) =
            '"' :: (raw ++ '"' :: (after ++ ':' :: (gap ++ cs))) := by
          rw [skipSpace_gap hbefore]
          exact skipSpace_cons (by decide) _
        simp only [List.append_assoc, List.cons_append, skipKey, hquote, skipString_literal hraw,
          bind, Except.bind, readColon_gap hafter]

theorem skipSpace_skipSpace (cs : List Char) : skipSpace (skipSpace cs) = skipSpace cs :=
  List.dropWhile_idempotent isSpace cs

theorem skipKey_skipSpace (cs : List Char) :
    skipKey .object (skipSpace cs) = skipKey .object cs := by
  rw [skipKey, skipKey, skipSpace_skipSpace]

/-- What stands in front of the value of a part does not begin with a closing bracket. -/
theorem exists_skipSpace_lead (h : bracket.Admits part) (hcs : StartsValue cs) :
    ∃ c cs', skipSpace (part.lead ++ cs) = c :: cs' ∧ c ≠ bracket.closing := by
  cases bracket with
  | list =>
    obtain ⟨c, hc, -, hclose, -⟩ := id hcs
    rw [skipSpace_gap h, hcs.skipSpace_eq]
    obtain ⟨cs', rfl⟩ := List.head?_eq_some_iff.1 hc
    exact ⟨c, cs', rfl, hclose⟩
  | object =>
    obtain ⟨raw, -, hkey⟩ := h
    cases hkey with
    | mk hbefore _ _ =>
      simp only [List.append_assoc, List.cons_append, skipSpace_gap hbefore]
      exact ⟨'"', _, skipSpace_cons (by decide) _, by decide⟩

/-- A part after an opening bracket. -/
theorem opened_lead (h : bracket.Admits part) (hcs : StartsValue cs) (brackets : List Bracket) :
    ∃ gap, IsGap gap ∧ gap.length ≤ part.lead.length ∧
      SkipState.opened bracket brackets (part.lead ++ cs) =
        .ok ⟨true, bracket :: brackets, gap ++ cs⟩ := by
  obtain ⟨c, cs', hskip, hclose⟩ := exists_skipSpace_lead h hcs
  have hopened : SkipState.opened bracket brackets (part.lead ++ cs) =
      (skipKey bracket (skipSpace (part.lead ++ cs))).map fun rest =>
        ⟨true, bracket :: brackets, rest⟩ := by
    rw [SkipState.opened, hskip]
    simp only [if_neg hclose]
    rfl
  rw [hopened]
  cases bracket with
  | list =>
    refine ⟨[], isGap_nil, Nat.zero_le _, ?_⟩
    rw [skipSpace_gap h, hcs.skipSpace_eq]
    rfl
  | object =>
    obtain ⟨gap, hgap, hlength, hkey⟩ := skipKey_lead h
    refine ⟨gap, hgap, hlength, ?_⟩
    rw [skipKey_skipSpace, hkey]
    rfl

/-- A part after a comma. -/
theorem continued_comma (h : bracket.Admits part) (htrail : IsGap trail) (brackets : List Bracket)
    (cs : List Char) :
    ∃ gap, IsGap gap ∧ gap.length ≤ part.lead.length ∧
      SkipState.continued bracket brackets (trail ++ ',' :: (part.lead ++ cs)) =
        .ok ⟨true, bracket :: brackets, gap ++ cs⟩ := by
  obtain ⟨gap, hgap, hlength, hkey⟩ := skipKey_lead h
  have hcomma : ',' ≠ bracket.closing := by cases bracket <;> decide
  refine ⟨gap, hgap, hlength, ?_⟩
  rw [SkipState.continued, skipSpace_gap htrail, skipSpace_cons (by decide)]
  simp only [if_neg hcomma, if_true, hkey]
  rfl

theorem skipSpace_closing (bracket : Bracket) (hgap : IsGap gap) (cs : List Char) :
    skipSpace (gap ++ bracket.closing :: cs) = bracket.closing :: cs := by
  rw [skipSpace_gap hgap, skipSpace_cons (by cases bracket <;> decide)]

/-- The end of a bracket that has parts. -/
theorem continued_closing (htrail : IsGap trail) (hgap : IsGap gap) (brackets : List Bracket)
    (cs : List Char) :
    SkipState.continued bracket brackets (trail ++ (gap ++ bracket.closing :: cs)) =
      .ok ⟨false, brackets, cs⟩ := by
  rw [SkipState.continued, skipSpace_gap htrail, skipSpace_closing bracket hgap]
  simp only [if_true]

/-- The end of a bracket that has none. -/
theorem opened_closing (hgap : IsGap gap) (brackets : List Bracket) (cs : List Char) :
    SkipState.opened bracket brackets (gap ++ bracket.closing :: cs) =
      .ok ⟨false, brackets, cs⟩ := by
  rw [SkipState.opened, skipSpace_closing bracket hgap]
  simp only [if_true]

/-- The beginning of a bracket. -/
theorem entered_opening (hgap : IsGap gap) (brackets : List Bracket) (cs : List Char) :
    SkipState.entered brackets (gap ++ bracket.opening :: cs) =
      SkipState.opened bracket brackets cs := by
  rw [SkipState.entered, skipSpace_gap hgap]
  cases bracket <;> rfl

/-- A value without parts. -/
theorem entered_isScalar {text : List Char} (h : IsScalar text) (hgap : IsGap gap)
    (hrest : EndsNumber rest) (brackets : List Bracket) :
    SkipState.entered brackets (gap ++ (text ++ rest)) = .ok ⟨false, brackets, rest⟩ := by
  have hskip := skipScalar_isScalar h hrest
  obtain ⟨c, cs, rfl, hspace, hc⟩ := h.exists_cons
  simp only [List.mem_cons, not_or] at hc
  rw [List.cons_append] at hskip
  rw [SkipState.entered, skipSpace_gap hgap, List.cons_append, skipSpace_cons hspace]
  -- It begins with no bracket.
  split
  · next heq => exact absurd (List.cons.inj heq).1 hc.1
  · next heq => exact absurd (List.cons.inj heq).1 hc.2.2.1
  · rw [hskip]; rfl

theorem endsNumber_gap (hgap : IsGap gap) (hcs : EndsNumber cs) : EndsNumber (gap ++ cs) := by
  cases gap with
  | nil => exact hcs
  | cons c gap =>
    have hspace : isSpace c := hgap c List.mem_cons_self
    refine endsNumber_cons ?_ _
    by_contra hchar
    rw [isSpace_of_isNumberChar (by simpa using hchar)] at hspace
    cases hspace

/-- No number goes on in what follows a part. -/
theorem endsNumber_tailText (bracket : Bracket) (htrail : IsGap trail) (hgap : IsGap gap)
    (parts : List Part) (rest : List Char) :
    EndsNumber (trail ++ (tailText bracket gap parts ++ rest)) := by
  refine endsNumber_gap htrail ?_
  cases parts with
  | nil =>
    rw [tailText, List.append_assoc]
    exact endsNumber_gap hgap (endsNumber_cons (by cases bracket <;> decide) _)
  | cons part parts => exact endsNumber_cons (by decide) _

/-- A text is passed over within any open brackets, up to what comes after it. -/
def Passes (text : List Char) : Prop :=
  ∀ brackets gap rest bound, IsGap gap → EndsNumber rest →
    (gap ++ (text ++ rest)).length ≤ bound.length →
      ∃ bound' : List Char, rest.length ≤ bound'.length ∧
        skipFrom bound ⟨true, brackets, gap ++ (text ++ rest)⟩ =
          skipFrom bound' ⟨false, brackets, rest⟩

/-- The parts after another one are passed over if each of their values is. -/
theorem skipFrom_tailText (hgap : IsGap gap) {parts : List Part}
    (hlead : ∀ part ∈ parts, bracket.Admits part) (htrails : ∀ part ∈ parts, IsGap part.trail)
    (hvalues : ∀ part ∈ parts, Passes part.value) (htrail : IsGap trail) (brackets : List Bracket)
    {bound : List Char}
    (hbound : (trail ++ (tailText bracket gap parts ++ rest)).length ≤ bound.length) :
    ∃ bound' : List Char, rest.length ≤ bound'.length ∧
      skipFrom bound ⟨false, bracket :: brackets, trail ++ (tailText bracket gap parts ++ rest)⟩ =
        skipFrom bound' ⟨false, brackets, rest⟩ := by
  -- Each part takes one step for its comma and key and those of its value, none of which is longer
  -- than what it passes over, so the bound never runs out.
  induction parts generalizing trail bound with
  | nil =>
    have htext : trail ++ (tailText bracket gap [] ++ rest) =
        trail ++ (gap ++ bracket.closing :: rest) := by
      simp [tailText]
    rw [htext] at hbound ⊢
    simp only [List.length_append, List.length_cons] at hbound
    obtain ⟨b, bound, rfl⟩ := List.exists_cons_of_length_pos (l := bound) (by omega)
    rw [List.length_cons] at hbound
    refine ⟨bound, by omega, ?_⟩
    rw [skipFrom, continued_closing htrail hgap]
    rfl
  | cons part parts ih =>
    rw [List.forall_mem_cons] at hlead htrails hvalues
    have htext : trail ++ (tailText bracket gap (part :: parts) ++ rest) =
        trail ++ ',' :: (part.lead ++ (part.value ++
          (part.trail ++ (tailText bracket gap parts ++ rest)))) := by
      simp [tailText]
    rw [htext] at hbound ⊢
    simp only [List.length_append, List.length_cons] at hbound
    obtain ⟨b, bound, rfl⟩ := List.exists_cons_of_length_pos (l := bound) (by omega)
    rw [List.length_cons] at hbound
    obtain ⟨gap', hgap', hlength, hcomma⟩ := continued_comma hlead.1 htrail brackets
      (part.value ++ (part.trail ++ (tailText bracket gap parts ++ rest)))
    have hbound' : (gap' ++ (part.value ++ (part.trail ++
        (tailText bracket gap parts ++ rest)))).length ≤ bound.length := by
      simp only [List.length_append]
      omega
    -- The value of the part is passed, and then the parts after it.
    obtain ⟨bound₁, hbound₁, hvalue⟩ := hvalues.1 (bracket :: brackets) gap' _ bound hgap'
      (endsNumber_tailText bracket htrails.1 hgap parts rest) hbound'
    obtain ⟨bound₂, hbound₂, htail⟩ := ih hlead.2 htrails.2 hvalues.2 htrails.1 hbound₁
    refine ⟨bound₂, hbound₂, ?_⟩
    rw [skipFrom, hcomma]
    exact hvalue.trans htail

/-- A value without parts is passed over in one step. -/
theorem passes_isScalar {text : List Char} (h : IsScalar text) : Passes text := by
  intro brackets gap rest bound hgap hrest hbound
  have hentered := entered_isScalar h hgap hrest brackets
  obtain ⟨c, cs, rfl, -, -⟩ := h.exists_cons
  simp only [List.length_append, List.length_cons] at hbound
  obtain ⟨b, bound, rfl⟩ := List.exists_cons_of_length_pos (l := bound) (by omega)
  rw [List.length_cons] at hbound
  refine ⟨bound, by omega, ?_⟩
  rw [skipFrom, hentered]
  rfl

/-- The text of a value is passed over. -/
theorem passes_isValue {text : List Char} (h : IsValue text) : Passes text := by
  -- The brackets around a value are arbitrary, so the hypothesis for a part also holds within the
  -- bracket that it stands in.
  induction h with
  | scalar h => exact passes_isScalar h
  | @within bracket gap' parts hgap' hlead htrail hvalue ih =>
    intro brackets gap rest bound hgap _ hbound
    simp only [List.length_append, List.length_cons] at hbound
    obtain ⟨b, bound, rfl⟩ := List.exists_cons_of_length_pos (l := bound) (by omega)
    rw [List.length_cons] at hbound
    rw [List.cons_append, skipFrom, entered_opening hgap]
    cases parts with
    | nil =>
      refine ⟨bound, by omega, ?_⟩
      rw [bodyText, List.append_assoc, List.singleton_append, opened_closing hgap']
      rfl
    | cons part parts =>
      rw [List.forall_mem_cons] at hlead htrail hvalue ih
      have htext : bodyText bracket gap' (part :: parts) ++ rest = part.lead ++ (part.value ++
          (part.trail ++ (tailText bracket gap' parts ++ rest))) := by
        simp [bodyText]
      rw [htext]
      simp only [bodyText, List.length_append] at hbound
      obtain ⟨gap₁, hgap₁, hlength, hopened⟩ :=
        opened_lead hlead.1 (hvalue.1.startsValue.append _) brackets
      have hbound₀ : (gap₁ ++ (part.value ++ (part.trail ++
          (tailText bracket gap' parts ++ rest)))).length ≤ bound.length := by
        simp only [List.length_append]
        omega
      obtain ⟨bound₁, hbound₁, hfirst⟩ := ih.1 (bracket :: brackets) gap₁ _ bound hgap₁
        (endsNumber_tailText bracket htrail.1 hgap' parts rest) hbound₀
      obtain ⟨bound₂, hbound₂, htail⟩ :=
        skipFrom_tailText hgap' hlead.2 htrail.2 ih.2 htrail.1 brackets hbound₁
      refine ⟨bound₂, hbound₂, ?_⟩
      rw [hopened]
      exact hfirst.trans htail

/-- Passing over a value leaves what comes after it, blanks in front of it or not. -/
theorem skipValue_isValue {text : List Char} (h : IsValue text) (hgap : IsGap gap)
    (hrest : EndsNumber rest) : skipValue (gap ++ (text ++ rest)) = .ok rest := by
  obtain ⟨bound, -, hskip⟩ := passes_isValue h [] gap rest _ hgap hrest le_rfl
  rw [skipValue, hskip]
  cases bound <;> rfl

end PageLayout.Json
