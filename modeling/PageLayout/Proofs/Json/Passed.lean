import PageLayout.Proofs.Json.Skipping

/-!
# What is passed over is a value

The values that the grammar describes are all that is passed over: where a value has been passed,
the text of one stood there, with nothing but blanks in front of it. What is still to be passed
within open brackets completes their parts, one bracket after another.

- `exists_isScalar_of_skipScalar`: values without parts.
- `Completes`: what is left of a value within open brackets.
- `exists_completes_of_skipFrom`: what is passed over completes the brackets.
- `BeginsValue`: a value stands at the front of a text.
- `skipValue_eq_ok_nil_iff`: values, and nothing else, are passed over.
-/

namespace PageLayout.Json

variable {cs rest : List Char}

theorem exists_isGap_append_skipSpace (cs : List Char) :
    ∃ gap, IsGap gap ∧ cs = gap ++ skipSpace cs :=
  ⟨cs.takeWhile isSpace, fun _ hc => List.mem_takeWhile_imp hc,
    (List.takeWhile_append_dropWhile (p := isSpace)).symm⟩

/-! ## Values without parts -/

/-- A reader did not take the branch for `a` in front of another character, so `c` is not `a`. -/
theorem ne_of_forall_cons {a c : Char} (hcs : cs ≠ [])
    (h : ∀ d ds, c = a → cs = d :: ds → False) : c ≠ a := by
  obtain ⟨d, ds, rfl⟩ := List.exists_cons_of_ne_nil hcs
  exact fun hc => h d ds hc rfl

theorem exists_isLiteral_of_skipString (h : skipString cs = .ok rest) :
    ∃ raw, IsLiteral raw ∧ cs = raw ++ '"' :: rest := by
  -- Three cases go on within the string, one is its end, and all others are refused.
  fun_induction skipString cs with
  | case2 cs =>
    cases h
    exact ⟨[], .nil, rfl⟩
  | case3 a b c d cs hunit ih =>
    obtain ⟨raw, hraw, rfl⟩ := ih h
    obtain ⟨unit, hunit⟩ := Option.isSome_iff_exists.1 hunit
    exact ⟨_, .hex hunit hraw, rfl⟩
  | case5 cs _ =>
    rw [failHex] at h
    split at h <;> cases h
  | case4 a b c d cs _ =>
    rw [failHex] at h
    split at h <;> cases h
  | case7 c cs _ _ hescape ih =>
    obtain ⟨raw, hraw, rfl⟩ := ih h
    obtain ⟨e, hescape⟩ := Option.isSome_iff_exists.1 hescape
    exact ⟨_, .short hescape hraw, rfl⟩
  | case10 c cs hquote _ _ hempty hcons hcontrol ih =>
    obtain ⟨raw, hraw, rfl⟩ := ih h
    -- The branches for escapes come first, so this one is for other characters.
    have hbackslash := ne_of_forall_cons (List.append_ne_nil_of_right_ne_nil raw (by simp)) hcons
    exact ⟨c :: raw, .plain hquote hbackslash hcontrol hraw, rfl⟩
  | _ => cases h

/-- The digits at the front of a text, if there are any. -/
theorem isDigits_takeWhile (h : ¬ (cs.takeWhile Char.isDigit).isEmpty) :
    IsDigits (cs.takeWhile Char.isDigit) where
  ne_nil := by simpa using h
  isDigit := fun _ hc => List.mem_takeWhile_imp hc

theorem eq_takeWhile_append_dropWhile (cs : List Char) :
    cs = cs.takeWhile Char.isDigit ++ cs.dropWhile Char.isDigit :=
  (List.takeWhile_append_dropWhile (p := Char.isDigit)).symm

theorem exists_isDigits_of_skipDigits (h : skipDigits cs = .ok rest) :
    ∃ ds, IsDigits ds ∧ cs = ds ++ rest := by
  obtain ⟨hdigits, h⟩ := ite_error_eq_ok_iff.1 h
  cases h
  exact ⟨_, isDigits_takeWhile hdigits, eq_takeWhile_append_dropWhile cs⟩

theorem exists_isPower_of_skipPower (h : skipPower cs = .ok rest) :
    ∃ power, IsPower power ∧ cs = power ++ rest := by
  rw [skipPower.eq_def] at h
  split at h
  · obtain ⟨ds, hds, rfl⟩ := exists_isDigits_of_skipDigits h
    exact ⟨_, .digits (.inl rfl) .plus hds, rfl⟩
  · obtain ⟨ds, hds, rfl⟩ := exists_isDigits_of_skipDigits h
    exact ⟨_, .digits (.inl rfl) .minus hds, rfl⟩
  · obtain ⟨ds, hds, rfl⟩ := exists_isDigits_of_skipDigits h
    exact ⟨_, .digits (.inl rfl) .none hds, rfl⟩
  · obtain ⟨ds, hds, rfl⟩ := exists_isDigits_of_skipDigits h
    exact ⟨_, .digits (.inr rfl) .plus hds, rfl⟩
  · obtain ⟨ds, hds, rfl⟩ := exists_isDigits_of_skipDigits h
    exact ⟨_, .digits (.inr rfl) .minus hds, rfl⟩
  · obtain ⟨ds, hds, rfl⟩ := exists_isDigits_of_skipDigits h
    exact ⟨_, .digits (.inr rfl) .none hds, rfl⟩
  · cases h
    exact ⟨[], .none, rfl⟩

theorem exists_isUnsigned_of_skipUnsigned (h : skipUnsigned cs = .ok rest) :
    ∃ text, IsUnsigned text ∧ cs = text ++ rest := by
  obtain ⟨rest₁, hdigits, h⟩ := bind_eq_ok_iff.1 h
  obtain ⟨whole, hwhole, rfl⟩ := exists_isDigits_of_skipDigits hdigits
  split at h
  · cases h
  · next hzero =>
    have hwhole' : IsWhole whole := by
      refine ⟨hwhole, fun hhead => ?_⟩
      obtain ⟨ds, rfl⟩ := List.head?_eq_some_iff.1 hhead
      cases ds with
      | nil => rfl
      | cons d ds =>
        -- The digit after a zero in front would have been refused.
        have hd : d.isDigit := hwhole.isDigit d (by simp)
        exact absurd ⟨rfl, by simpa using hd⟩ hzero
    split at h
    · obtain ⟨rest₂, hfraction, hrest⟩ := bind_eq_ok_iff.1 h
      obtain ⟨ds, hds, rfl⟩ := exists_isDigits_of_skipDigits hfraction
      obtain ⟨power, hpower, rfl⟩ := exists_isPower_of_skipPower hrest
      exact ⟨_, .mk hwhole' (.digits hds) hpower, by simp⟩
    · obtain ⟨power, hpower, rfl⟩ := exists_isPower_of_skipPower h
      exact ⟨_, .mk hwhole' .none hpower, by simp⟩

theorem eq_append_of_readWord {word : List Char} {r : Unit × List Char}
    (h : readWord word cs = .ok r) : cs = word ++ r.2 := by
  induction word generalizing cs with
  | nil =>
    cases h
    rfl
  | cons w word ih =>
    cases cs with
    | nil => cases h
    | cons c cs =>
      rw [readWord] at h
      split at h
      · next heq => rw [heq, ih h, List.cons_append]
      · cases h

theorem exists_isScalar_of_skipScalar (h : skipScalar cs = .ok rest) :
    ∃ text, IsScalar text ∧ cs = text ++ rest := by
  rw [skipScalar.eq_def] at h
  split at h
  · cases h
  · obtain ⟨r, hword, rfl⟩ := map_eq_ok_iff.1 h
    exact ⟨_, .null, by rw [eq_append_of_readWord hword]; rfl⟩
  · obtain ⟨r, hword, rfl⟩ := map_eq_ok_iff.1 h
    exact ⟨_, .yes, by rw [eq_append_of_readWord hword]; rfl⟩
  · obtain ⟨r, hword, rfl⟩ := map_eq_ok_iff.1 h
    exact ⟨_, .no, by rw [eq_append_of_readWord hword]; rfl⟩
  · obtain ⟨raw, hraw, rfl⟩ := exists_isLiteral_of_skipString h
    exact ⟨_, .string hraw, by simp⟩
  · obtain ⟨text, htext, rfl⟩ := exists_isUnsigned_of_skipUnsigned h
    exact ⟨_, .number (.negative htext), rfl⟩
  · split at h
    · obtain ⟨text, htext, heq⟩ := exists_isUnsigned_of_skipUnsigned h
      exact ⟨_, .number (.unsigned htext), heq⟩
    · cases h

/-! ## Open brackets -/

variable {bracket : Bracket} {brackets : List Bracket} {text : List Char} {state : SkipState}

/-- What is left of a value within open brackets, the innermost first: if a value comes next, this
value and what is left after it; otherwise, for each bracket, the parts that are left within it. -/
inductive Completes : Bool → List Bracket → List Char → Prop
  | value {brackets : List Bracket} {gap value text : List Char} (hgap : IsGap gap)
      (hvalue : IsValue value) (h : Completes false brackets text) :
      Completes true brackets (gap ++ (value ++ text))
  | nil : Completes false [] []
  | cons {bracket : Bracket} {brackets : List Bracket} {trail gap text : List Char}
      {parts : List Part} (htrail : IsGap trail) (hgap : IsGap gap)
      (hparts : ∀ part ∈ parts, bracket.Holds part) (h : Completes false brackets text) :
      Completes false (bracket :: brackets) (trail ++ (tailText bracket gap parts ++ text))

theorem eq_append_of_readColon (h : readColon cs = .ok rest) :
    ∃ after, IsGap after ∧ cs = after ++ ':' :: rest := by
  obtain ⟨after, hafter, hcs⟩ := exists_isGap_append_skipSpace cs
  rw [readColon] at h
  split at h
  · cases h
  · next heq =>
    cases h
    exact ⟨after, hafter, heq ▸ hcs⟩
  · cases h

/-- The key of a part has been passed over if there must be one. -/
theorem exists_lead_of_skipKey (h : skipKey bracket cs = .ok rest) :
    ∃ lead, cs = lead ++ rest ∧ ∀ {before gap value trail}, IsGap before → IsGap gap →
      bracket.Admits ⟨before ++ (lead ++ gap), value, trail⟩ := by
  cases bracket with
  | list =>
    cases h
    exact ⟨[], rfl, fun hbefore hgap => hbefore.append hgap⟩
  | object =>
    obtain ⟨before, hbefore, hcs⟩ := exists_isGap_append_skipSpace cs
    rw [skipKey] at h
    split at h
    · cases h
    · next heq =>
      obtain ⟨cs', hstring, hcolon⟩ := bind_eq_ok_iff.1 h
      obtain ⟨raw, hraw, rfl⟩ := exists_isLiteral_of_skipString hstring
      obtain ⟨after, hafter, rfl⟩ := eq_append_of_readColon hcolon
      refine ⟨before ++ '"' :: (raw ++ '"' :: (after ++ [':'])), ?_, ?_⟩
      · rw [hcs, heq]
        simp
      · intro before' gap value trail hbefore' hgap
        refine ⟨raw, hraw, ?_⟩
        have hkey : Part.HasKey raw ⟨(before' ++ before) ++ '"' :: (raw ++ '"' ::
            (after ++ ':' :: gap)), value, trail⟩ := .mk (hbefore'.append hbefore) hafter hgap
        simpa using hkey
    · cases h

/-- A part has been passed over, and then the parts after it within the same bracket. -/
theorem Completes.exists_parts (h : Completes true (bracket :: brackets) text) (lead : List Char)
    (hlead : ∀ {gap value trail}, IsGap gap → bracket.Admits ⟨lead ++ gap, value, trail⟩) :
    ∃ gap part parts text', IsGap gap ∧ (∀ p ∈ part :: parts, bracket.Holds p) ∧
      Completes false brackets text' ∧
        lead ++ text = part.lead ++ (part.value ++ (part.trail ++ tailText bracket gap parts)) ++
          text' := by
  cases h with
  | @value _ gap value _ hgap hvalue h =>
    cases h with
    | @cons _ _ trail gap' text' parts htrail hgap' hparts h =>
      refine ⟨gap', ⟨lead ++ gap, value, trail⟩, parts, text', hgap', ?_, h, by simp⟩
      exact List.forall_mem_cons.2 ⟨⟨hlead hgap, hvalue, htrail⟩, hparts⟩

theorem exists_completes_of_continued
    (h : SkipState.continued bracket brackets cs = .ok state)
    (htext : Completes state.expectsValue state.brackets text) (hrest : state.rest = text ++ rest) :
    ∃ text', Completes false (bracket :: brackets) text' ∧ cs = text' ++ rest := by
  obtain ⟨trail, htrail, hcs⟩ := exists_isGap_append_skipSpace cs
  rw [SkipState.continued] at h
  split at h
  · cases h
  · next c cs' heq =>
    split at h
    -- The bracket closes, and no part is left within it.
    · next hclosing =>
      cases h
      have hcompletes : Completes false (bracket :: brackets)
          (trail ++ (tailText bracket [] [] ++ text)) :=
        .cons htrail isGap_nil (fun _ => nofun) htext
      refine ⟨_, hcompletes, ?_⟩
      rw [hcs, heq, hclosing, show cs' = text ++ rest from hrest]
      simp [tailText]
    · split at h
      -- Another part follows, and those that are left after it.
      · next hcomma =>
        obtain ⟨rest', hkey, h⟩ := bind_eq_ok_iff.1 h
        cases h
        obtain ⟨lead, rfl, hlead⟩ := exists_lead_of_skipKey hkey
        obtain ⟨gap, part, parts, text', hgap, hparts, hcompletes, heq'⟩ :=
          htext.exists_parts lead fun hgap => hlead isGap_nil hgap
        refine ⟨_, .cons htrail hgap hparts hcompletes, ?_⟩
        rw [hcs, heq, hcomma, show rest' = text ++ rest from hrest, ← List.append_assoc lead,
          heq']
        simp [tailText]
      · cases h

theorem exists_completes_of_opened (h : SkipState.opened bracket brackets cs = .ok state)
    (htext : Completes state.expectsValue state.brackets text) (hrest : state.rest = text ++ rest) :
    ∃ body text', IsValue (bracket.opening :: body) ∧ Completes false brackets text' ∧
      cs = body ++ (text' ++ rest) := by
  obtain ⟨before, hbefore, hcs⟩ := exists_isGap_append_skipSpace cs
  rw [SkipState.opened] at h
  split at h
  · cases h
  · next c cs' heq =>
    split at h
    -- There is no part at all.
    · next hclosing =>
      cases h
      have hvalue : IsValue (bracket.opening :: bodyText bracket before []) :=
        .within bracket hbefore (fun _ => nofun) (fun _ => nofun) (fun _ => nofun)
      refine ⟨_, _, hvalue, htext, ?_⟩
      rw [hcs, heq, hclosing, show cs' = text ++ rest from hrest]
      simp [bodyText]
    -- The blanks before the key belong to what stands before the first value.
    · obtain ⟨rest', hkey, h⟩ := bind_eq_ok_iff.1 h
      cases h
      obtain ⟨lead, hlead', hlead⟩ := exists_lead_of_skipKey hkey
      obtain ⟨gap, part, parts, text', hgap, hparts, hcompletes, heq'⟩ :=
        htext.exists_parts (before ++ lead) fun hgap => by
          rw [List.append_assoc]
          exact hlead hbefore hgap
      have hvalue : IsValue (bracket.opening :: bodyText bracket gap (part :: parts)) :=
        .within bracket hgap (fun p hp => (hparts p hp).lead) (fun p hp => (hparts p hp).trail)
          fun p hp => (hparts p hp).value
      refine ⟨_, text', hvalue, hcompletes, ?_⟩
      rw [hcs, heq, hlead', show rest' = text ++ rest from hrest, ← List.append_assoc,
        ← List.append_assoc, heq']
      simp [bodyText]

/-- A bracket is opened, and what has been passed from there on completes a value that begins with
it. -/
theorem exists_completes_of_opening {gap : List Char} (hgap : IsGap gap)
    (h : SkipState.opened bracket brackets cs = .ok state)
    (htext : Completes state.expectsValue state.brackets text) (hrest : state.rest = text ++ rest) :
    ∃ text', Completes true brackets text' ∧ gap ++ bracket.opening :: cs = text' ++ rest := by
  obtain ⟨body, text', hvalue, hcompletes, rfl⟩ := exists_completes_of_opened h htext hrest
  exact ⟨_, .value hgap hvalue hcompletes, by simp⟩

theorem exists_completes_of_entered (h : SkipState.entered brackets cs = .ok state)
    (htext : Completes state.expectsValue state.brackets text) (hrest : state.rest = text ++ rest) :
    ∃ text', Completes true brackets text' ∧ cs = text' ++ rest := by
  obtain ⟨gap, hgap, hcs⟩ := exists_isGap_append_skipSpace cs
  rw [SkipState.entered] at h
  split at h
  · next heq =>
    rw [hcs, heq]
    exact exists_completes_of_opening hgap h htext hrest
  · next heq =>
    rw [hcs, heq]
    exact exists_completes_of_opening hgap h htext hrest
  · obtain ⟨rest', hscalar, h⟩ := bind_eq_ok_iff.1 h
    cases h
    obtain ⟨value, hvalue, heq⟩ := exists_isScalar_of_skipScalar hscalar
    refine ⟨_, .value hgap (.scalar hvalue) htext, ?_⟩
    rw [hcs, heq, show rest' = text ++ rest from hrest]
    simp

/-- What is passed over from some state completes the brackets that are open in it. -/
theorem exists_completes_of_skipFrom {bound : List Char} {expectsValue : Bool}
    (h : skipFrom bound ⟨expectsValue, brackets, cs⟩ = .ok rest) :
    ∃ text, Completes expectsValue brackets text ∧ cs = text ++ rest := by
  -- Each step passes over a bracket, a comma or a value, and the rest completes what is left open.
  induction bound generalizing expectsValue brackets cs with
  | nil =>
    cases expectsValue with
    | true => cases h
    | false =>
      cases brackets with
      | nil =>
        cases h
        exact ⟨[], .nil, rfl⟩
      | cons bracket brackets => cases h
  | cons b bound ih =>
    cases expectsValue with
    | true =>
      obtain ⟨⟨_, _, _⟩, hentered, h⟩ := bind_eq_ok_iff.1 h
      obtain ⟨text, htext, hrest⟩ := ih h
      exact exists_completes_of_entered hentered htext hrest
    | false =>
      cases brackets with
      | nil =>
        cases h
        exact ⟨[], .nil, rfl⟩
      | cons bracket brackets =>
        obtain ⟨⟨_, _, _⟩, hcontinued, h⟩ := bind_eq_ok_iff.1 h
        obtain ⟨text, htext, hrest⟩ := ih h
        exact exists_completes_of_continued hcontinued htext hrest

/-! ## Values -/

/-- A value stands at the front of a text, blanks in front of it or not, and then comes the rest. -/
def BeginsValue (cs rest : List Char) : Prop :=
  ∃ gap text, IsGap gap ∧ IsValue text ∧ cs = gap ++ (text ++ rest)

theorem beginsValue_of_skipValue (h : skipValue cs = .ok rest) : BeginsValue cs rest := by
  obtain ⟨text, hcompletes, rfl⟩ := exists_completes_of_skipFrom h
  cases hcompletes with
  | @value _ gap value _ hgap hvalue hdone =>
    cases hdone
    exact ⟨gap, value, hgap, hvalue, by simp⟩

/-- A text is passed over if it is a value, blanks in front of it or not, and only then. -/
theorem skipValue_eq_ok_nil_iff :
    skipValue cs = .ok [] ↔ ∃ gap text, IsGap gap ∧ IsValue text ∧ cs = gap ++ text := by
  constructor
  · intro h
    obtain ⟨gap, text, hgap, htext, heq⟩ := beginsValue_of_skipValue h
    exact ⟨gap, text, hgap, htext, by simpa using heq⟩
  · rintro ⟨gap, text, hgap, hvalue, rfl⟩
    simpa using skipValue_isValue hvalue hgap endsNumber_nil

/-- Whether a text is a value can be seen by passing over it. -/
theorem isValue_iff : IsValue cs ↔ skipValue cs = .ok [] ∧ skipSpace cs = cs := by
  constructor
  · intro h
    exact ⟨skipValue_eq_ok_nil_iff.2 ⟨[], cs, isGap_nil, h, rfl⟩, h.startsValue.skipSpace_eq⟩
  · rintro ⟨hskip, hspace⟩
    obtain ⟨gap, text, hgap, hvalue, rfl⟩ := skipValue_eq_ok_nil_iff.1 hskip
    rw [skipSpace_gap hgap, hvalue.startsValue.skipSpace_eq] at hspace
    exact hspace ▸ hvalue

instance (cs : List Char) : Decidable (IsValue cs) :=
  decidable_of_iff _ isValue_iff.symm

/-! ## Compact texts -/

/-- An array written without blanks. -/
def arrayText (items : List (List Char)) : List Char :=
  '[' :: bodyText .list [] (items.map fun item => ⟨[], item, []⟩)

theorem isArray_arrayText {items : List (List Char)} (h : ∀ item ∈ items, IsValue item) :
    IsArray items (arrayText items) := by
  refine ⟨[], items.map fun item => ⟨[], item, []⟩, isGap_nil, ?_, ?_, rfl⟩
  · intro part hpart
    obtain ⟨item, hitem, rfl⟩ := List.mem_map.1 hpart
    exact ⟨isGap_nil, h item hitem, isGap_nil⟩
  · exact List.map_map.trans (List.map_id _)

/-- An object written without blanks, its names as they are. -/
def objectText (members : List Member) : List Char :=
  '\x7b' :: bodyText .object [] (members.map fun member =>
    ⟨'"' :: (member.name.toList ++ ['"', ':']), member.value, []⟩)

/-- A character that stands for itself in a string. -/
def isPlain (c : Char) : Bool :=
  c ≠ '"' && c ≠ '\\' && !decide (c < ' ')

theorem spells_self {chars : List Char} (h : chars.all isPlain) : Spells chars chars := by
  induction chars with
  | nil => exact .nil
  | cons c chars ih =>
    simp only [List.all_cons, isPlain, Bool.and_eq_true, decide_eq_true_eq, Bool.not_eq_true',
      decide_eq_false_iff_not] at h
    obtain ⟨⟨⟨hquote, hbackslash⟩, hcontrol⟩, hchars⟩ := h
    exact .plain hquote hbackslash hcontrol (ih hchars)

theorem isObject_objectText {members : List Member}
    (h : ∀ member ∈ members, member.name.toList.all isPlain) :
    IsObject members (objectText members) := by
  refine ⟨[], _, isGap_nil, ?_, rfl⟩
  rw [List.forall₂_map_left_iff, List.forall₂_same]
  exact fun member hmember =>
    ⟨⟨_, spells_self (h member hmember), .mk isGap_nil isGap_nil isGap_nil⟩, rfl, isGap_nil⟩

end PageLayout.Json
