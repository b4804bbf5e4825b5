import PageLayout.Proofs.Json.RoundTrip
import PageLayout.Proofs.Json.Skipping

/-!
# Readers keep to values

A reader that stands in front of the text of a value either fails or reads this text to its end, and
what it makes of the text does not depend on what comes after it.

- `KeepsTo`: a reader keeps to a text.
- `Closes`: a reader keeps to a text that shows by itself where it ends.
- `spells_or_isRefused`: what stands between quotes spells characters or is refused.
- `keepsTo_readNumber` and `keepsTo_readScalar`: values without parts.
-/

namespace PageLayout.Json

variable {α β σ : Type} {read : Reader α} {text raw cs : List Char}

/-- A reader keeps to a text: whatever it reads at the front of a longer text is what it reads in
this text, and it leaves the rest. -/
def KeepsTo (read : Reader α) (text : List Char) : Prop :=
  ∀ ⦃rest⦄, EndsNumber rest → ∀ ⦃a rest'⦄, read (text ++ rest) = .ok (a, rest') →
    Reads read text a ∧ rest' = rest

theorem Reads.keepsTo {a : α} (h : Reads read text a) : KeepsTo read text := by
  intro rest hrest a' rest' hread
  rw [h hrest] at hread
  cases hread
  exact ⟨h, rfl⟩

/-- A reader that always fails at a text keeps to it. -/
theorem keepsTo_of_ne_ok (h : ∀ ⦃rest⦄, EndsNumber rest → ∀ r, read (text ++ rest) ≠ .ok r) :
    KeepsTo read text :=
  fun _ hrest _ _ hread => absurd hread (h hrest _)

theorem failAt_ne_ok {cause : Cause} {r : α} : failAt cause cs ≠ .ok r := by
  rintro ⟨⟩

theorem failPast_ne_ok {cause : Cause} {bytes : Nat} {r : α} : failPast cause bytes cs ≠ .ok r := by
  rintro ⟨⟩

/-- What becomes of a value makes no difference. -/
theorem KeepsTo.map (h : KeepsTo read text) (f : α → β) :
    KeepsTo (fun cs => (read cs).map fun r => (f r.1, r.2)) text := by
  intro rest hrest b rest' hread
  obtain ⟨⟨a, rest₁⟩, ha, heq⟩ := map_eq_ok_iff.1 hread
  obtain ⟨rfl, rfl⟩ := Prod.mk.inj heq
  obtain ⟨hreads, rfl⟩ := h hrest ha
  refine ⟨fun rest₂ hrest₂ => ?_, rfl⟩
  exact map_eq_ok_iff.2 ⟨_, hreads hrest₂, rfl⟩

/-- Readers that do the same at their texts keep to them alike. -/
theorem KeepsTo.congr {read' : Reader α} {text' : List Char} (h : KeepsTo read text)
    (heq : ∀ ⦃rest⦄, EndsNumber rest → read' (text' ++ rest) = read (text ++ rest)) :
    KeepsTo read' text' := by
  intro rest hrest a rest' hread
  rw [heq hrest] at hread
  obtain ⟨hreads, hrest'⟩ := h hrest hread
  exact ⟨fun rest₁ hrest₁ => (heq hrest₁).trans (hreads hrest₁), hrest'⟩

/-! ## Texts that end by themselves -/

/-- A reader closes a text: it keeps to the text whatever comes after it, so the text shows by
itself where it ends. -/
def Closes (read : Reader α) (text : List Char) : Prop :=
  ∀ ⦃rest a rest'⦄, read (text ++ rest) = .ok (a, rest') →
    (∀ rest, read (text ++ rest) = .ok (a, rest)) ∧ rest' = rest

theorem Closes.keepsTo (h : Closes read text) : KeepsTo read text := by
  intro rest _ a rest' hread
  obtain ⟨hreads, hrest⟩ := h hread
  exact ⟨fun rest _ => hreads rest, hrest⟩

/-- A reader that always fails at a text closes it. -/
theorem closes_of_ne_ok (h : ∀ rest r, read (text ++ rest) ≠ .ok r) : Closes read text :=
  fun _ _ _ hread => absurd hread (h _ _)

/-- Readers that do the same at their texts close them alike. -/
theorem Closes.congr {read' : Reader α} {text' : List Char} (h : Closes read text)
    (heq : ∀ rest, read' (text' ++ rest) = read (text ++ rest)) : Closes read' text' := by
  intro rest a rest' hread
  rw [heq] at hread
  obtain ⟨hreads, hrest⟩ := h hread
  exact ⟨fun rest => (heq rest).trans (hreads rest), hrest⟩

/-- Two texts in a row are closed if the first one is kept to and the second one, which no number
goes on in, is closed. -/
theorem KeepsTo.bind_closes {f : α → Reader β} {text' : List Char} (h : KeepsTo read text)
    (hends : ∀ rest, EndsNumber (text' ++ rest)) (hf : ∀ a, Closes (f a) text') :
    Closes (fun cs => read cs >>= fun r => f r.1 r.2) (text ++ text') := by
  intro rest b rest' hread
  rw [List.append_assoc] at hread
  obtain ⟨⟨a, rest₁⟩, ha, hb⟩ := bind_eq_ok_iff.1 hread
  obtain ⟨hreads, rfl⟩ := h (hends rest) ha
  obtain ⟨hreads', rfl⟩ := hf a hb
  refine ⟨fun rest => ?_, rfl⟩
  rw [List.append_assoc]
  exact bind_eq_ok_iff.2 ⟨_, hreads (hends rest), hreads' rest⟩

/-! ## Strings -/

theorem failHex_ne_ok {r : α} : failHex cs ≠ .ok r := by
  rw [failHex]
  split
  · exact failAt_ne_ok
  · exact failPast_ne_ok

theorem failPair_ne_ok {r : α} : failPair cs ≠ .ok r := by
  rw [failPair.eq_def]
  split
  all_goals first
    | exact failHex_ne_ok
    | exact failAt_ne_ok
    | exact failPast_ne_ok

section Characters

variable {done : List Char} {c : Char}

theorem readChars_plain (hquote : c ≠ '"') (hbackslash : c ≠ '\\') (hcontrol : ¬ c < ' ')
    (cs : List Char) : readChars done (c :: cs) = readChars (c :: done) cs := by
  rw [readChars.eq_def]
  simp [hbackslash, hcontrol]

theorem readChars_short {e : Char} (hescape : shortEscape? e = some c) (cs : List Char) :
    readChars done ('\\' :: e :: cs) = readChars (c :: done) cs := by
  have he : e ≠ 'u' := by
    rintro rfl
    cases hescape
  rw [readChars.eq_def]
  simp [he, hescape]

theorem readChars_hex {a b c d : Char} {unit : Nat} (hunit : hexUnit? a b c d = some unit)
    (hhigh : isHighSurrogate unit = false) (hlow : isLowSurrogate unit = false) (cs : List Char) :
    readChars done ('\\' :: 'u' :: a :: b :: c :: d :: cs) =
      readChars (Char.ofNat unit :: done) cs := by
  simp only [readChars, hunit, hhigh, hlow]
  rfl

theorem readChars_pair {a b c d e f g h : Char} {high low : Nat}
    (hunit : hexUnit? a b c d = some high) (hhigh : isHighSurrogate high = true)
    (hunit' : hexUnit? e f g h = some low) (hlow : isLowSurrogate low = true) (cs : List Char) :
    readChars done
        ('\\' :: 'u' :: a :: b :: c :: d :: '\\' :: 'u' :: e :: f :: g :: h :: cs) =
      readChars (surrogatePair high low :: done) cs := by
  simp only [readChars, hunit, hhigh, hunit', hlow]
  rfl

/-- The characters of a string are read from their spelling. -/
theorem readChars_spells {chars : List Char} (h : Spells raw chars) (done rest : List Char) :
    readChars done (raw ++ '"' :: rest) = .ok (done.reverse ++ chars, rest) := by
  induction h generalizing done with
  | nil => simp [readChars]
  | plain hquote hbackslash hcontrol _ ih =>
    rw [List.cons_append, readChars_plain hquote hbackslash hcontrol, ih]
    simp
  | short hescape _ ih =>
    rw [List.cons_append, List.cons_append, readChars_short hescape, ih]
    simp
  | hex hunit hhigh hlow _ ih =>
    simp only [List.cons_append, readChars_hex hunit hhigh hlow, ih]
    simp
  | pair hunit hhigh hunit' hlow _ ih =>
    simp only [List.cons_append, readChars_pair hunit hhigh hunit' hlow, ih]
    simp

theorem readString_spells {s : String} (h : Spells raw s.toList) (rest : List Char) :
    readString (raw ++ '"' :: rest) = .ok (s, rest) := by
  rw [readString, readChars_spells h]
  simp [Except.map]

/-- What stands before a closing quote is refused, whatever comes after the quote. -/
def IsRefused (raw : List Char) : Prop :=
  ∀ done rest r, readChars done (raw ++ '"' :: rest) ≠ .ok r

/-- A first half of a pair is followed by the second half, or refused. -/
theorem spells_or_isRefused_high {a b c d : Char} {unit : Nat}
    (hunit : hexUnit? a b c d = some unit) (hhigh : isHighSurrogate unit) (hraw : IsLiteral raw)
    (ih : ∀ raw', raw'.length < raw.length → IsLiteral raw' →
      (∃ chars, Spells raw' chars) ∨ IsRefused raw') :
    (∃ chars, Spells ('\\' :: 'u' :: a :: b :: c :: d :: raw) chars) ∨
      IsRefused ('\\' :: 'u' :: a :: b :: c :: d :: raw) := by
  -- The end of the string, a plain character and a short escape are no second half; of the escapes
  -- of code units, those of the low surrogates are.
  cases hraw with
  | nil =>
    refine .inr fun done rest r => ?_
    simp only [List.cons_append, List.nil_append, readChars, hunit, hhigh, if_true]
    exact failPair_ne_ok
  | @plain c' raw hquote hbackslash hcontrol _ =>
    refine .inr fun done rest r => ?_
    simp only [List.cons_append, readChars, hunit, hhigh, if_true]
    split
    · next heq => exact absurd (List.cons.inj heq).1 hbackslash
    · exact failPair_ne_ok
  | @short e c' raw hescape _ =>
    refine .inr fun done rest r => ?_
    have he : e ≠ 'u' := by
      rintro rfl
      cases hescape
    simp only [List.cons_append, readChars, hunit, hhigh, if_true]
    split
    · next heq => exact absurd (List.cons.inj (List.cons.inj heq).2).1 he
    · exact failPair_ne_ok
  | @hex e f g h low raw hunit' hraw =>
    by_cases hlow : isLowSurrogate low
    · rcases ih raw (by simp only [List.length_cons]; omega) hraw with ⟨chars, hchars⟩ | hrefused
      · exact .inl ⟨_, .pair hunit hhigh hunit' hlow hchars⟩
      · refine .inr fun done rest r => ?_
        simp only [List.cons_append, readChars_pair hunit hhigh hunit' hlow]
        exact hrefused _ rest r
    · refine .inr fun done rest r => ?_
      simp only [List.cons_append, readChars, hunit, hhigh, hunit', hlow]
      exact failAt_ne_ok

/-- What may stand between quotes spells some characters or is refused. The induction is on its
length, since two halves of a pair are read at once. -/
theorem spells_or_isRefused (h : IsLiteral raw) : (∃ chars, Spells raw chars) ∨ IsRefused raw := by
  induction hn : raw.length using Nat.strongRecOn generalizing raw with
  | _ n ih =>
    have ih' : ∀ raw', raw'.length < raw.length → IsLiteral raw' →
        (∃ chars, Spells raw' chars) ∨ IsRefused raw' :=
      fun raw' hlength hraw' => ih raw'.length (hn ▸ hlength) hraw' rfl
    clear ih
    cases h with
    | nil => exact .inl ⟨_, .nil⟩
    | @plain c raw hquote hbackslash hcontrol hraw =>
      rcases ih' raw (by simp) hraw with ⟨chars, hchars⟩ | hrefused
      · exact .inl ⟨_, .plain hquote hbackslash hcontrol hchars⟩
      · refine .inr fun done rest r => ?_
        rw [List.cons_append, readChars_plain hquote hbackslash hcontrol]
        exact hrefused _ rest r
    | @short e c raw hescape hraw =>
      rcases ih' raw (by simp only [List.length_cons]; omega) hraw with
        ⟨chars, hchars⟩ | hrefused
      · exact .inl ⟨_, .short hescape hchars⟩
      · refine .inr fun done rest r => ?_
        rw [List.cons_append, List.cons_append, readChars_short hescape]
        exact hrefused _ rest r
    | @hex a b c d unit raw hunit hraw =>
      have hshorter : raw.length < ('\\' :: 'u' :: a :: b :: c :: d :: raw).length := by
        simp only [List.length_cons]
        omega
      by_cases hhigh : isHighSurrogate unit
      · exact spells_or_isRefused_high hunit hhigh hraw
          fun raw' hlength => ih' raw' (hlength.trans hshorter)
      by_cases hlow : isLowSurrogate unit
      · refine .inr fun done rest r => ?_
        simp only [List.cons_append, readChars, hunit, hhigh, hlow]
        exact failAt_ne_ok
      rw [Bool.not_eq_true] at hhigh hlow
      rcases ih' raw hshorter hraw with ⟨chars, hchars⟩ | hrefused
      · exact .inl ⟨_, .hex hunit hhigh hlow hchars⟩
      · refine .inr fun done rest r => ?_
        simp only [List.cons_append, readChars_hex hunit hhigh hlow]
        exact hrefused _ rest r

end Characters

/-- A string is read up to its closing quote or refused, whatever comes after the quote. -/
theorem readString_literal (h : IsLiteral raw) :
    (∃ s : String, Spells raw s.toList) ∨
      ∀ rest r, readString (raw ++ '"' :: rest) ≠ .ok r := by
  rcases spells_or_isRefused h with ⟨chars, hchars⟩ | hrefused
  · exact .inl ⟨String.ofList chars, by rwa [String.toList_ofList]⟩
  · refine .inr fun rest r hread => ?_
    obtain ⟨r', hr', -⟩ := map_eq_ok_iff.1 hread
    exact hrefused _ rest r' hr'

theorem keepsTo_readString (h : IsLiteral raw) : KeepsTo readString (raw ++ ['"']) := by
  rcases readString_literal h with ⟨s, hs⟩ | hrefused
  · refine Reads.keepsTo (a := s) fun rest _ => ?_
    rw [List.append_assoc]
    exact readString_spells hs rest
  · refine keepsTo_of_ne_ok fun rest _ r => ?_
    rw [List.append_assoc]
    exact hrefused rest r

/-! ## Numbers -/

section Numbers

variable (negative : Bool) (significand : Nat) (exponent : Int)

theorem keepsTo_realNumber : KeepsTo (realNumber negative significand exponent) [] := by
  intro rest _ number rest' hread
  obtain ⟨x, hx, rfl, rfl⟩ := realNumber_eq_ok_iff.1 hread
  exact ⟨fun rest₁ _ => realNumber_eq_ok_iff.2 ⟨x, hx, rfl, rfl⟩, rfl⟩

theorem keepsTo_readPower {sign : List Char} (hsign : IsSign sign) (hcs : IsDigits cs) :
    KeepsTo (readPower negative significand exponent) (sign ++ cs) := by
  obtain ⟨d, ds, rfl⟩ := List.exists_cons_of_ne_nil hcs.ne_nil
  have hd : d.isDigit := hcs.isDigit d List.mem_cons_self
  -- A digit is no sign.
  have hplus : d ≠ '+' := by rintro rfl; cases hd
  have hminus : d ≠ '-' := by rintro rfl; cases hd
  have htake : ∀ {rest}, EndsNumber rest →
      (d :: (ds ++ rest)).takeWhile Char.isDigit = d :: ds := fun hrest =>
    takeWhile_isDigit hcs.isDigit hrest.endsDigits
  have hdrop : ∀ {rest}, EndsNumber rest → (d :: (ds ++ rest)).dropWhile Char.isDigit = rest :=
    fun hrest => dropWhile_isDigit hcs.isDigit hrest.endsDigits
  -- Digits that are dropped make a power out of range, unless the number is zero or the power
  -- negative.
  rcases habsorb : absorb maxPower 0 (d :: ds) with ⟨power, _ | ⟨e, dropped⟩⟩
  · have hread : ∀ ⦃rest⦄, EndsNumber rest →
        readPower negative significand exponent (sign ++ d :: ds ++ rest) =
          realNumber negative significand
            (if sign = ['-'] then exponent - power else exponent + power) ([] ++ rest) := by
      intro rest hrest
      cases hsign <;> simp [readPower, hplus, hminus, htake hrest, hdrop hrest, habsorb]
    exact (keepsTo_realNumber _ _ _).congr hread
  · have hread : ∀ ⦃rest⦄, EndsNumber rest →
        readPower negative significand exponent (sign ++ d :: ds ++ rest) =
          if significand ≠ 0 ∧ sign ≠ ['-'] then failAt .numberOutOfRange (dropped ++ rest)
          else .ok (.real (signed negative 0.0), rest) := by
      intro rest hrest
      cases hsign <;> simp [readPower, hplus, hminus, htake hrest, hdrop hrest, habsorb]
    by_cases hlarge : significand ≠ 0 ∧ sign ≠ ['-']
    · refine keepsTo_of_ne_ok fun rest hrest r => ?_
      rw [hread hrest, if_pos hlarge]
      exact failAt_ne_ok
    · exact Reads.keepsTo fun rest hrest => (hread hrest).trans (if_neg hlarge)

theorem keepsTo_readFraction {power : List Char} (hcs : IsDigits cs) (hpower : IsPower power) :
    KeepsTo (readFraction negative significand exponent) (cs ++ power) := by
  rcases habsorb : absorb maxSignificand significand cs with ⟨significand', dropped⟩
  have hne : ∀ rest, (cs ++ rest).isEmpty = false := by simp [hcs.ne_nil]
  have htake : ∀ {rest}, EndsDigits rest → (cs ++ rest).takeWhile Char.isDigit = cs := fun hrest =>
    takeWhile_isDigit hcs.isDigit hrest
  have hdrop : ∀ {rest}, EndsDigits rest → (cs ++ rest).dropWhile Char.isDigit = rest :=
    fun hrest => dropWhile_isDigit hcs.isDigit hrest
  cases hpower with
  | none =>
    refine (keepsTo_realNumber negative significand'
      (exponent - (cs.length - dropped.length : Nat))).congr fun rest hrest => ?_
    simp only [List.append_nil, List.nil_append, readFraction, hne, htake hrest.endsDigits,
      hdrop hrest.endsDigits, habsorb, hcs.isEmpty, Bool.false_eq_true, if_false]
    split
    · exact absurd hrest (not_endsNumber_cons (by decide) _)
    · exact absurd hrest (not_endsNumber_cons (by decide) _)
    · rfl
  | @digits e sign ds he hsign hds =>
    refine (keepsTo_readPower negative significand'
      (exponent - (cs.length - dropped.length : Nat)) hsign hds).congr fun rest hrest => ?_
    have hends : EndsDigits (e :: (sign ++ ds) ++ rest) :=
      (IsPower.digits he hsign hds).endsDigits hrest.endsDigits
    rw [List.append_assoc]
    simp only [readFraction, hne, htake hends, hdrop hends, habsorb, hcs.isEmpty,
      Bool.false_eq_true, if_false]
    rcases he with rfl | rfl
    · rfl
    · rfl

/-- Behind the digits of its whole part, a number ends or goes on with a fraction or a power of
ten. -/
theorem keepsTo_readUnsigned (h : IsUnsigned cs) : KeepsTo (readUnsigned negative) cs := by
  cases h with
  | @mk whole fraction power hwhole hfraction hpower =>
    rcases habsorb : absorb maxSignificand 0 whole with ⟨significand, dropped⟩
    have hne : ∀ rest, (whole ++ rest).isEmpty = false := by simp [hwhole.ne_nil]
    have htake : ∀ {rest}, EndsDigits rest → (whole ++ rest).takeWhile Char.isDigit = whole :=
      fun hrest => takeWhile_isDigit hwhole.isDigit hrest
    have hdrop : ∀ {rest}, EndsDigits rest → (whole ++ rest).dropWhile Char.isDigit = rest :=
      fun hrest => dropWhile_isDigit hwhole.isDigit hrest
    have hzero : ¬ (whole.head? = some '0' ∧ 1 < whole.length) := by
      rintro ⟨hhead, hlength⟩
      rw [hwhole.zero hhead] at hlength
      exact absurd hlength (by decide)
    cases hfraction with
    | digits hdigits =>
      refine (keepsTo_readFraction negative significand dropped.length hdigits hpower).congr
        fun rest hrest => ?_
      have hends : ∀ rest, EndsDigits ('.' :: rest) := endsDigits_cons (by decide)
      simp only [readUnsigned, List.append_assoc, List.cons_append, hne, htake (hends _),
        hdrop (hends _), habsorb, hwhole.isEmpty, if_neg hzero, Bool.false_eq_true, if_false]
    | none =>
      cases hpower with
      | none =>
        have hread : ∀ ⦃rest⦄, EndsNumber rest →
            readUnsigned negative (whole ++ ([] ++ []) ++ rest) =
              if dropped.isEmpty then .ok (wholeNumber negative significand, rest)
              else realNumber negative significand dropped.length ([] ++ rest) := by
          intro rest hrest
          simp only [readUnsigned, List.append_nil, List.nil_append, hne, htake hrest.endsDigits,
            hdrop hrest.endsDigits, habsorb, hwhole.isEmpty, if_neg hzero, Bool.false_eq_true,
            if_false]
          split
          · exact absurd hrest (not_endsNumber_cons (by decide) _)
          · exact absurd hrest (not_endsNumber_cons (by decide) _)
          · exact absurd hrest (not_endsNumber_cons (by decide) _)
          · rfl
        -- The number is whole if all of its digits have been taken in.
        by_cases hdropped : dropped.isEmpty
        · exact Reads.keepsTo fun rest hrest => (hread hrest).trans (if_pos hdropped)
        · exact (keepsTo_realNumber _ _ _).congr fun rest hrest =>
            (hread hrest).trans (if_neg hdropped)
      | @digits e sign ds he hsign hds =>
        refine (keepsTo_readPower negative significand dropped.length hsign hds).congr
          fun rest hrest => ?_
        have hends : EndsDigits (e :: (sign ++ ds) ++ rest) :=
          (IsPower.digits he hsign hds).endsDigits hrest.endsDigits
        simp only [readUnsigned, List.nil_append, List.append_assoc whole, hne, htake hends,
          hdrop hends, habsorb, hwhole.isEmpty, if_neg hzero, Bool.false_eq_true, if_false]
        rcases he with rfl | rfl
        · rfl
        · rfl

theorem keepsTo_readNumber (h : IsNumber cs) : KeepsTo readNumber cs := by
  cases h with
  | unsigned hunsigned =>
    refine (keepsTo_readUnsigned false hunsigned).congr fun rest _ => ?_
    obtain ⟨d, ds, rfl, hd⟩ := hunsigned.exists_cons
    exact readNumber_cons_of_ne (by rintro rfl; cases hd) _
  | negative hunsigned => exact (keepsTo_readUnsigned true hunsigned).congr fun _ _ => rfl

end Numbers

/-! ## Values without parts -/

theorem readScalar_cons_of_number {c : Char} (hc : c = '-' ∨ c.isDigit) (cs : List Char) :
    readScalar (c :: cs) = (readNumber (c :: cs)).map fun r => (.number r.1, r.2) := by
  rw [readScalar.eq_def]
  split
  all_goals first
    | cases ‹_ :: _ = []›
    | cases ‹c :: cs = _›; exact absurd hc (by decide)
    | cases ‹c :: cs = _›; exact if_pos hc

theorem keepsTo_readScalar (h : IsScalar text) : KeepsTo readScalar text := by
  cases h with
  | null => exact Reads.keepsTo (a := .null) fun _ _ => rfl
  | yes => exact Reads.keepsTo (a := .boolean true) fun _ _ => rfl
  | no => exact Reads.keepsTo (a := .boolean false) fun _ _ => rfl
  | string hraw => exact ((keepsTo_readString hraw).map Value.string).congr fun _ _ => rfl
  | number hnumber =>
    refine ((keepsTo_readNumber hnumber).map Value.number).congr fun rest _ => ?_
    obtain ⟨c, cs, rfl, hc⟩ := hnumber.exists_cons
    exact readScalar_cons_of_number hc _

/-! ## Beginnings of values -/

namespace IsValue

theorem eq_null (h : IsValue text) (hhead : text.head? = some 'n') :
    text = ['n', 'u', 'l', 'l'] := by
  cases h with
  | scalar hscalar =>
    cases hscalar with
    | null => rfl
    | number hnumber => exact absurd hhead (hnumber.head?_ne (by decide))
    | _ => exact absurd (Option.some.inj hhead) (by decide)
  | within bracket _ _ _ _ => cases bracket <;> exact absurd (Option.some.inj hhead) (by decide)

theorem exists_literal (h : IsValue text) (hhead : text.head? = some '"') :
    ∃ raw, IsLiteral raw ∧ text = '"' :: (raw ++ ['"']) := by
  cases h with
  | scalar hscalar =>
    cases hscalar with
    | string hraw => exact ⟨_, hraw, rfl⟩
    | number hnumber => exact absurd hhead (hnumber.head?_ne (by decide))
    | _ => exact absurd (Option.some.inj hhead) (by decide)
  | within bracket _ _ _ _ => cases bracket <;> exact absurd (Option.some.inj hhead) (by decide)

theorem isNumber (h : IsValue text) {c : Char} (hc : c = '-' ∨ c.isDigit)
    (hhead : text.head? = some c) : IsNumber text := by
  cases h with
  | scalar hscalar =>
    cases hscalar with
    | number hnumber => exact hnumber
    | _ =>
      obtain rfl := Option.some.inj hhead
      exact absurd hc (by decide)
  | within bracket _ _ _ _ =>
    obtain rfl := Option.some.inj hhead
    cases bracket <;> exact absurd hc (by decide)

end IsValue

end PageLayout.Json
