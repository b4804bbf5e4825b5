import PageLayout.Proofs.Json.Fields
import PageLayout.Proofs.Json.Passed

/-!
# What is read is a value

Readers accept nothing that is not a value: where one of them succeeds, the text of a value stood
there, with nothing but blanks in front of it. A record is moreover read to the end of this text,
whatever comes after it.

- `beginsValue_readScalar`: values without parts.
- `within_foldParts`: the parts of an array or an object.
- `TakesValues`: a reader accepts nothing but values.
- `takesValues_readValue` and `takesValues_readRecord`: values of any kind, and records.
- `exists_front_of_readRecord`: what is read of a record is read of its text alone.
-/

namespace PageLayout.Json

variable {α σ : Type} {cs cs₁ rest : List Char}

/-! ## Values without parts -/

theorem exists_isLiteral_of_readChars {done chars : List Char}
    (h : readChars done cs = .ok (chars, rest)) :
    ∃ raw, IsLiteral raw ∧ cs = raw ++ '"' :: rest := by
  -- One case is the end of the string, four go on within it, and all others are refused.
  fun_induction readChars done cs with
  | case2 done cs =>
    cases h
    exact ⟨[], .nil, rfl⟩
  | case5 done a b c d high hunit hhigh e f g i cs low hunit' hlow ih =>
    obtain ⟨raw, hraw, rfl⟩ := ih h
    exact ⟨_, .hex hunit (.hex hunit' hraw), rfl⟩
  | case9 done a b c d cs unit hunit hhigh hlow ih =>
    obtain ⟨raw, hraw, rfl⟩ := ih h
    exact ⟨_, .hex hunit hraw, rfl⟩
  | case12 done c cs _ _ escaped hescape ih =>
    obtain ⟨raw, hraw, rfl⟩ := ih h
    exact ⟨_, .short hescape hraw, rfl⟩
  | case15 done c cs hquote _ _ hempty hcons hcontrol ih =>
    obtain ⟨raw, hraw, rfl⟩ := ih h
    -- The branches for escapes come first, so this one is for other characters.
    have hbackslash := ne_of_forall_cons (List.append_ne_nil_of_right_ne_nil raw (by simp)) hcons
    exact ⟨c :: raw, .plain hquote hbackslash hcontrol hraw, rfl⟩
  | case3 => exact absurd h failHex_ne_ok
  | case4 => exact absurd h failHex_ne_ok
  | case7 => exact absurd h failPair_ne_ok
  | case10 => exact absurd h failHex_ne_ok
  | _ => cases h

theorem exists_isLiteral_of_readString {s : String} (h : readString cs = .ok (s, rest)) :
    ∃ raw, IsLiteral raw ∧ cs = raw ++ '"' :: rest := by
  obtain ⟨⟨chars, _⟩, hread, heq⟩ := map_eq_ok_iff.1 h
  cases heq
  exact exists_isLiteral_of_readChars hread

section Numbers

variable {negative : Bool} {significand : Nat} {exponent : Int} {number : Number}

theorem eq_of_realNumber (h : realNumber negative significand exponent cs = .ok (number, rest)) :
    cs = rest := by
  obtain ⟨_, -, -, rfl⟩ := realNumber_eq_ok_iff.1 h
  rfl

/-- The sign of a power of ten, if it has one. -/
theorem exists_isSign (cs : List Char) :
    ∃ sign, IsSign sign ∧
      cs = sign ++ if cs.head? == some '-' || cs.head? == some '+' then cs.drop 1 else cs := by
  cases cs with
  | nil => exact ⟨[], .none, rfl⟩
  | cons c cs =>
    by_cases hminus : c = '-'
    · exact ⟨['-'], .minus, by simp [hminus]⟩
    by_cases hplus : c = '+'
    · exact ⟨['+'], .plus, by simp [hplus]⟩
    · exact ⟨[], .none, by simp [hminus, hplus]⟩

theorem exists_of_readPower (h : readPower negative significand exponent cs = .ok (number, rest)) :
    ∃ sign ds, IsSign sign ∧ IsDigits ds ∧ cs = sign ++ (ds ++ rest) := by
  obtain ⟨sign, hsign, hcs⟩ := exists_isSign cs
  rw [readPower] at h
  revert h hcs
  generalize (if cs.head? == some '-' || cs.head? == some '+' then cs.drop 1 else cs) = unsigned
  intro h hcs
  obtain ⟨-, h⟩ := ite_error_eq_ok_iff.1 h
  obtain ⟨hdigits, h⟩ := ite_error_eq_ok_iff.1 h
  -- All digits are taken off, also those that are dropped from a power beyond all doubles.
  have hrest : unsigned.dropWhile Char.isDigit = rest := by
    split at h
    · exact eq_of_realNumber h
    · obtain ⟨-, h⟩ := ite_error_eq_ok_iff.1 h
      cases h
      rfl
  refine ⟨sign, unsigned.takeWhile Char.isDigit, hsign, isDigits_takeWhile hdigits, ?_⟩
  rw [← hrest, ← eq_takeWhile_append_dropWhile]
  exact hcs

theorem exists_of_readFraction
    (h : readFraction negative significand exponent cs = .ok (number, rest)) :
    ∃ ds power, IsDigits ds ∧ IsPower power ∧ cs = ds ++ (power ++ rest) := by
  rw [readFraction] at h
  obtain ⟨-, h⟩ := ite_error_eq_ok_iff.1 h
  obtain ⟨hdigits, h⟩ := ite_error_eq_ok_iff.1 h
  have hpower : ∃ power, IsPower power ∧ cs.dropWhile Char.isDigit = power ++ rest := by
    split at h
    · next heq =>
      obtain ⟨sign, ds, hsign, hds, rfl⟩ := exists_of_readPower h
      exact ⟨_, .digits (.inl rfl) hsign hds, by simp [heq]⟩
    · next heq =>
      obtain ⟨sign, ds, hsign, hds, rfl⟩ := exists_of_readPower h
      exact ⟨_, .digits (.inr rfl) hsign hds, by simp [heq]⟩
    · exact ⟨[], .none, eq_of_realNumber h⟩
  obtain ⟨power, hpower, heq⟩ := hpower
  exact ⟨_, power, isDigits_takeWhile hdigits, hpower, heq ▸ eq_takeWhile_append_dropWhile cs⟩

theorem exists_isUnsigned_of_readUnsigned (h : readUnsigned negative cs = .ok (number, rest)) :
    ∃ text, IsUnsigned text ∧ cs = text ++ rest := by
  rw [readUnsigned] at h
  obtain ⟨-, h⟩ := ite_error_eq_ok_iff.1 h
  obtain ⟨hdigits, h⟩ := ite_error_eq_ok_iff.1 h
  obtain ⟨hzero, h⟩ := ite_error_eq_ok_iff.1 h
  have hwhole : IsWhole (cs.takeWhile Char.isDigit) := by
    refine ⟨isDigits_takeWhile hdigits, fun hhead => ?_⟩
    obtain ⟨ds, hds⟩ := List.head?_eq_some_iff.1 hhead
    have hlength : ¬ 1 < (cs.takeWhile Char.isDigit).length := fun hlength => hzero ⟨hhead, hlength⟩
    rw [hds] at hlength ⊢
    simpa using hlength
  -- Behind the whole part come a fraction, a power of ten, both or none of them.
  have htail : ∃ fraction power, IsFraction fraction ∧ IsPower power ∧
      cs.dropWhile Char.isDigit = fraction ++ (power ++ rest) := by
    split at h
    · next heq =>
      obtain ⟨ds, power, hds, hpower, rfl⟩ := exists_of_readFraction h
      exact ⟨_, power, .digits hds, hpower, heq⟩
    · next heq =>
      obtain ⟨sign, ds, hsign, hds, rfl⟩ := exists_of_readPower h
      exact ⟨[], _, .none, .digits (.inl rfl) hsign hds, by simp [heq]⟩
    · next heq =>
      obtain ⟨sign, ds, hsign, hds, rfl⟩ := exists_of_readPower h
      exact ⟨[], _, .none, .digits (.inr rfl) hsign hds, by simp [heq]⟩
    · refine ⟨[], [], .none, .none, ?_⟩
      split at h
      · cases h
        rfl
      · exact eq_of_realNumber h
  obtain ⟨fraction, power, hfraction, hpower, heq⟩ := htail
  refine ⟨_, .mk hwhole hfraction hpower, ?_⟩
  rw [List.append_assoc, List.append_assoc, ← heq]
  exact eq_takeWhile_append_dropWhile cs

theorem exists_isNumber_of_readNumber (h : readNumber cs = .ok (number, rest)) :
    ∃ text, IsNumber text ∧ cs = text ++ rest := by
  rw [readNumber.eq_def] at h
  split at h
  · obtain ⟨text, htext, rfl⟩ := exists_isUnsigned_of_readUnsigned h
    exact ⟨_, .negative htext, rfl⟩
  · obtain ⟨text, htext, rfl⟩ := exists_isUnsigned_of_readUnsigned h
    exact ⟨text, .unsigned htext, rfl⟩

end Numbers

theorem IsScalar.beginsValue {text : List Char} (h : IsScalar text) (rest : List Char) :
    BeginsValue (text ++ rest) rest :=
  ⟨[], text, isGap_nil, .scalar h, rfl⟩

/-- Blanks in front of a value make no difference. -/
theorem BeginsValue.of_skipSpace (h : BeginsValue (skipSpace cs) rest) : BeginsValue cs rest := by
  obtain ⟨before, hbefore, hcs⟩ := exists_isGap_append_skipSpace cs
  obtain ⟨gap, text, hgap, htext, heq⟩ := h
  exact ⟨before ++ gap, text, hbefore.append hgap, htext, by rw [hcs, heq, List.append_assoc]⟩

theorem beginsValue_readScalar {value : Value} (h : readScalar cs = .ok (value, rest)) :
    BeginsValue cs rest := by
  rw [readScalar.eq_def] at h
  split at h
  · cases h
  · obtain ⟨_, hword, heq⟩ := map_eq_ok_iff.1 h
    cases heq
    rw [eq_append_of_readWord hword]
    exact IsScalar.null.beginsValue _
  · obtain ⟨_, hword, heq⟩ := map_eq_ok_iff.1 h
    cases heq
    rw [eq_append_of_readWord hword]
    exact IsScalar.yes.beginsValue _
  · obtain ⟨_, hword, heq⟩ := map_eq_ok_iff.1 h
    cases heq
    rw [eq_append_of_readWord hword]
    exact IsScalar.no.beginsValue _
  · obtain ⟨_, hread, heq⟩ := map_eq_ok_iff.1 h
    cases heq
    obtain ⟨raw, hraw, rfl⟩ := exists_isLiteral_of_readString hread
    simpa using (IsScalar.string hraw).beginsValue _
  · split at h
    · obtain ⟨_, hread, heq⟩ := map_eq_ok_iff.1 h
      cases heq
      obtain ⟨text, htext, heq⟩ := exists_isNumber_of_readNumber hread
      rw [heq]
      exact (IsScalar.number htext).beginsValue _
    · cases h

/-! ## Parts -/

section Parts

variable {bracket : Bracket}

/-- What stands between the blanks in front of a part and the place from where it is read: for a
member of an object, the first quote of its key. -/
def Bracket.mark : Bracket → List Char
  | .list => []
  | .object => ['"']

/-- A part, from the place from where it is read, stands at the front of a text, and then comes the
rest. -/
def BeginsPart (bracket : Bracket) (cs rest : List Char) : Prop :=
  ∃ lead value, IsValue value ∧
    (∀ before trail, IsGap before →
      bracket.Admits ⟨before ++ (bracket.mark ++ lead), value, trail⟩) ∧
        cs = lead ++ (value ++ rest)

/-- What is left within a bracket behind a part stands at the front of a text: other parts, and the
closing bracket. -/
def Continues (bracket : Bracket) (cs rest : List Char) : Prop :=
  ∃ trail gap parts, IsGap trail ∧ IsGap gap ∧ (∀ part ∈ parts, bracket.Holds part) ∧
    cs = trail ++ (tailText bracket gap parts ++ rest)

/-- What stands within a bracket, with the closing bracket, stands at the front of a text. -/
def Within (bracket : Bracket) (cs rest : List Char) : Prop :=
  ∃ gap parts, IsGap gap ∧ (∀ part ∈ parts, bracket.Holds part) ∧
    cs = bodyText bracket gap parts ++ rest

theorem Within.beginsValue (h : Within bracket cs rest) :
    BeginsValue (bracket.opening :: cs) rest := by
  obtain ⟨gap, parts, hgap, hparts, rfl⟩ := h
  exact ⟨[], _, isGap_nil, .within bracket hgap (fun part hpart => (hparts part hpart).lead)
    (fun part hpart => (hparts part hpart).trail) fun part hpart => (hparts part hpart).value, rfl⟩

theorem BeginsValue.beginsPart (h : BeginsValue cs rest) : BeginsPart .list cs rest := by
  obtain ⟨gap, text, hgap, htext, rfl⟩ := h
  exact ⟨gap, text, htext, fun _ _ hbefore => hbefore.append hgap, rfl⟩

/-- A member of an object is a key, a colon and a value. -/
theorem BeginsValue.beginsPart_object {key : String} {cs₂ : List Char} (h : BeginsValue cs₂ rest)
    (hkey : readString cs = .ok (key, cs₁)) (hcolon : readColon cs₁ = .ok cs₂) :
    BeginsPart .object cs rest := by
  obtain ⟨raw, hraw, rfl⟩ := exists_isLiteral_of_readString hkey
  obtain ⟨after, hafter, rfl⟩ := eq_append_of_readColon hcolon
  obtain ⟨gap, text, hgap, htext, rfl⟩ := h
  refine ⟨raw ++ '"' :: (after ++ ':' :: gap), text, htext, fun before trail hbefore => ?_, by simp⟩
  exact ⟨raw, hraw, .mk hbefore hafter hgap⟩

/-- The closing bracket stands behind blanks. -/
theorem exists_of_next_done {first : Bool} (h : bracket.next first cs = .ok (.done rest)) :
    ∃ gap, IsGap gap ∧ cs = gap ++ bracket.closing :: rest := by
  obtain ⟨gap, hgap, hcs⟩ := exists_isGap_append_skipSpace cs
  refine ⟨gap, hgap, hcs.trans ?_⟩
  -- All other characters are parts to be read, or refused.
  cases bracket with
  | list =>
    rw [Bracket.next, nextItem] at h
    split at h
    · cases h
    · next heq =>
      cases h
      rw [heq, Bracket.closing]
    · split at h
      · cases h
      · split at h <;> cases h
    · split at h <;> cases h
  | object =>
    rw [Bracket.next, nextMember] at h
    split at h
    · cases h
    · next heq =>
      cases h
      rw [heq, Bracket.closing]
    · split at h
      · cases h
      · split at h <;> cases h
    · split at h
      · cases h
      · split at h <;> cases h

/-- The first part stands behind blanks. -/
theorem exists_of_next_first (h : bracket.next true cs = .ok (.more rest)) :
    ∃ before, IsGap before ∧ cs = before ++ (bracket.mark ++ rest) := by
  obtain ⟨before, hbefore, hcs⟩ := exists_isGap_append_skipSpace cs
  refine ⟨before, hbefore, hcs.trans ?_⟩
  cases bracket with
  | list =>
    rw [Bracket.next, nextItem] at h
    split at h
    · cases h
    · cases h
    -- An item may not begin with a comma, but it is left to the reader of items to refuse it.
    · next heq =>
      cases h
      rw [heq, Bracket.mark, List.nil_append]
    · cases h
      rw [Bracket.mark, List.nil_append]
  | object =>
    rw [Bracket.next, nextMember] at h
    split at h
    · cases h
    · cases h
    · cases h
    · next heq =>
      obtain ⟨-, h⟩ := ite_error_eq_ok_iff.1 h
      split at h
      · next hquote =>
        cases h
        rw [heq, hquote, Bracket.mark, List.cons_append, List.nil_append]
      · cases h

/-- Any other part stands behind a comma between blanks. -/
theorem exists_of_next_comma (h : bracket.next false cs = .ok (.more rest)) :
    ∃ trail before, IsGap trail ∧ IsGap before ∧
      cs = trail ++ ',' :: (before ++ (bracket.mark ++ rest)) := by
  obtain ⟨trail, htrail, hcs⟩ := exists_isGap_append_skipSpace cs
  cases bracket with
  | list =>
    rw [Bracket.next, nextItem] at h
    split at h
    · cases h
    · cases h
    · next cs' heq =>
      obtain ⟨before, hbefore, hcs'⟩ := exists_isGap_append_skipSpace cs'
      refine ⟨trail, before, htrail, hbefore, ?_⟩
      rw [if_neg Bool.false_ne_true] at h
      split at h
      · cases h
      · cases h
      · cases h
        rw [Bracket.mark, List.nil_append, ← hcs', ← heq]
        exact hcs
    · cases h
  | object =>
    rw [Bracket.next, nextMember] at h
    split at h
    · cases h
    · cases h
    · next cs' heq =>
      obtain ⟨before, hbefore, hcs'⟩ := exists_isGap_append_skipSpace cs'
      refine ⟨trail, before, htrail, hbefore, ?_⟩
      rw [if_neg Bool.false_ne_true] at h
      split at h
      · cases h
      · next heq' =>
        cases h
        rw [heq'] at hcs'
        rw [Bracket.mark, List.cons_append, List.nil_append, ← hcs', ← heq]
        exact hcs
      · cases h
      · cases h
    · cases h

theorem within_closing (bracket : Bracket) {gap : List Char} (hgap : IsGap gap) (rest : List Char) :
    Within bracket (gap ++ bracket.closing :: rest) rest :=
  ⟨gap, [], hgap, fun _ => nofun, by simp [bodyText]⟩

theorem continues_closing (bracket : Bracket) {gap : List Char} (hgap : IsGap gap)
    (rest : List Char) : Continues bracket (gap ++ bracket.closing :: rest) rest :=
  ⟨[], gap, [], isGap_nil, hgap, fun _ => nofun, by simp [tailText]⟩

/-- A part and what is left behind it are parts of the same bracket. -/
theorem BeginsPart.exists_parts {before cs₂ : List Char} (h : BeginsPart bracket cs₁ cs₂)
    (hrest : Continues bracket cs₂ rest) (hbefore : IsGap before) :
    ∃ gap part parts, IsGap gap ∧ (∀ p ∈ part :: parts, bracket.Holds p) ∧
      before ++ (bracket.mark ++ cs₁) =
        part.lead ++ (part.value ++ (part.trail ++ (tailText bracket gap parts ++ rest))) := by
  obtain ⟨lead, value, hvalue, hlead, rfl⟩ := h
  obtain ⟨trail, gap, parts, htrail, hgap, hparts, rfl⟩ := hrest
  refine ⟨gap, ⟨before ++ (bracket.mark ++ lead), value, trail⟩, parts, hgap, ?_, by simp⟩
  exact List.forall_mem_cons.2 ⟨⟨hlead before trail hbefore, hvalue, htrail⟩, hparts⟩

theorem within_of_next_more {cs₂ : List Char} (h : bracket.next true cs = .ok (.more cs₁))
    (hpart : BeginsPart bracket cs₁ cs₂) (hrest : Continues bracket cs₂ rest) :
    Within bracket cs rest := by
  obtain ⟨before, hbefore, rfl⟩ := exists_of_next_first h
  obtain ⟨gap, part, parts, hgap, hparts, heq⟩ := hpart.exists_parts hrest hbefore
  exact ⟨gap, part :: parts, hgap, hparts, by simpa [bodyText] using heq⟩

theorem continues_of_next_more {cs₂ : List Char} (h : bracket.next false cs = .ok (.more cs₁))
    (hpart : BeginsPart bracket cs₁ cs₂) (hrest : Continues bracket cs₂ rest) :
    Continues bracket cs rest := by
  obtain ⟨trail, before, htrail, hbefore, rfl⟩ := exists_of_next_comma h
  obtain ⟨gap, part, parts, hgap, hparts, heq⟩ := hpart.exists_parts hrest hbefore
  exact ⟨trail, gap, part :: parts, htrail, hgap, hparts, by simp [tailText, heq]⟩

/-! ### Reading the parts -/

variable {step : σ → Reader σ} {state final : σ} {bound : List Char}

/-- One turn of the fold: the bracket closes, or a part is read and the fold goes on. -/
theorem foldParts_cons_eq_ok {first : Bool} {b : Char}
    (h : foldParts bracket step (b :: bound) first state cs = .ok (final, rest)) :
    bracket.next first cs = .ok (.done rest) ∨
      ∃ cs₁ state' cs₂, bracket.next first cs = .ok (.more cs₁) ∧
        step state cs₁ = .ok (state', cs₂) ∧
          foldParts bracket step bound false state' cs₂ = .ok (final, rest) := by
  obtain ⟨next, hnext, h⟩ := bind_eq_ok_iff.1 h
  cases next with
  | done rest' =>
    cases h
    exact .inl hnext
  | more cs₁ =>
    obtain ⟨⟨state', cs₂⟩, hstep, h⟩ := bind_eq_ok_iff.1 h
    exact .inr ⟨cs₁, state', cs₂, hnext, hstep, h⟩

/-- Behind a part, others are read, and the closing bracket. -/
theorem continues_foldParts
    (hstep : ∀ ⦃state cs state' rest⦄, step state cs = .ok (state', rest) →
      BeginsPart bracket cs rest)
    (h : foldParts bracket step bound false state cs = .ok (final, rest)) :
    Continues bracket cs rest := by
  -- The induction is on the bound, which loses one character for each part.
  induction bound generalizing state cs with
  | nil => cases h
  | cons b bound ih =>
    obtain hnext | ⟨cs₁, state', cs₂, hnext, hread, h⟩ := foldParts_cons_eq_ok h
    · obtain ⟨gap, hgap, rfl⟩ := exists_of_next_done hnext
      exact continues_closing bracket hgap rest
    · exact continues_of_next_more hnext (hstep hread) (ih h)

/-- Nothing but parts is read within a bracket. -/
theorem within_foldParts
    (hstep : ∀ ⦃state cs state' rest⦄, step state cs = .ok (state', rest) →
      BeginsPart bracket cs rest)
    (h : foldParts bracket step bound true state cs = .ok (final, rest)) :
    Within bracket cs rest := by
  cases bound with
  | nil => cases h
  | cons b bound =>
    obtain hnext | ⟨cs₁, state', cs₂, hnext, hread, h⟩ := foldParts_cons_eq_ok h
    · obtain ⟨gap, hgap, rfl⟩ := exists_of_next_done hnext
      exact within_closing bracket hgap rest
    · exact within_of_next_more hnext (hstep hread) (continues_foldParts hstep h)

end Parts

/-! ## Readers of values -/

/-- A reader takes nothing but values: wherever it succeeds, it has read one. -/
def TakesValues (read : Reader α) : Prop :=
  ∀ ⦃cs a rest⦄, read cs = .ok (a, rest) → BeginsValue cs rest

/-- A reader takes nothing but values behind a colon. -/
def TakesMembers (read : Reader α) : Prop :=
  ∀ ⦃cs a rest⦄, read cs = .ok (a, rest) → ∃ cs₁, readColon cs = .ok cs₁ ∧ BeginsValue cs₁ rest

section Brackets

variable {start final : σ}

theorem TakesValues.pushItem {item : Reader α} (h : TakesValues item) (done : List α) :
    TakesValues (pushItem item done) := by
  intro cs items rest hread
  obtain ⟨_, hitem, heq⟩ := map_eq_ok_iff.1 hread
  cases heq
  exact h hitem

theorem within_readItems {item : σ → Reader σ} (hitem : ∀ state, TakesValues (item state))
    (h : readItems item start cs = .ok (final, rest)) : Within .list cs rest := by
  rw [readItems, foldItems_eq_foldParts] at h
  exact within_foldParts (fun state _ _ _ hread => (hitem state hread).beginsPart) h

theorem within_readMembers {member : σ → String → Reader σ}
    (hmember : ∀ state key, TakesMembers (member state key))
    (h : readMembers member start cs = .ok (final, rest)) : Within .object cs rest := by
  rw [readMembers, foldMembers_eq_foldParts] at h
  refine within_foldParts (fun state _ _ _ hread => ?_) h
  obtain ⟨⟨key, _⟩, hkey, hread⟩ := bind_eq_ok_iff.1 hread
  obtain ⟨_, hcolon, hvalue⟩ := hmember state key hread
  exact hvalue.beginsPart_object hkey hcolon

theorem takesMembers_readMemberInto {insert : σ → String → Value → σ} {levels : Nat}
    (h : TakesValues (readValue levels)) (state : σ) (key : String) :
    TakesMembers (readMemberInto insert levels state key) := by
  intro cs final rest hread
  obtain ⟨cs₁, hcolon, hread⟩ := bind_eq_ok_iff.1 hread
  obtain ⟨⟨value, _⟩, hvalue, heq⟩ := bind_eq_ok_iff.1 hread
  cases heq
  exact ⟨cs₁, hcolon, h hvalue⟩

end Brackets

theorem takesValues_readValue (levels : Nat) : TakesValues (readValue levels) := by
  -- The parts of a value are read with one level less.
  induction levels with
  | zero =>
    intro cs value rest h
    refine BeginsValue.of_skipSpace ?_
    rw [readValue] at h
    split at h
    · cases h
    · cases h
    · exact beginsValue_readScalar h
  | succ levels ih =>
    intro cs value rest h
    refine BeginsValue.of_skipSpace ?_
    rw [readValue] at h
    split at h
    · next heq =>
      obtain ⟨_, hitems, hvalue⟩ := map_eq_ok_iff.1 h
      cases hvalue
      rw [heq]
      exact (within_readItems ih.pushItem hitems).beginsValue
    · next heq =>
      obtain ⟨⟨members, rest'⟩, hmembers, hvalue⟩ := map_eq_ok_iff.1 h
      cases hvalue
      have hmembers : readMembers (readMemberInto (fun members key value =>
          Value.insertMember key value members) levels) [] _ = .ok (members, rest) := hmembers
      rw [heq]
      exact (within_readMembers (takesMembers_readMemberInto ih) hmembers).beginsValue
    · exact beginsValue_readScalar h

theorem takesValues_readText : TakesValues readText := by
  intro cs s rest h
  refine BeginsValue.of_skipSpace ?_
  rw [readText] at h
  split at h
  · next heq =>
    obtain ⟨raw, hraw, hcs⟩ := exists_isLiteral_of_readString h
    rw [heq, hcs]
    simpa using (IsScalar.string hraw).beginsValue rest
  · exact absurd h failType_ne_ok

theorem takesValues_readFloat : TakesValues readFloat := by
  intro cs x rest h
  refine BeginsValue.of_skipSpace ?_
  rw [readFloat] at h
  split at h
  · next heq =>
    rw [heq]
    split at h
    · obtain ⟨_, hread, hx⟩ := map_eq_ok_iff.1 h
      cases hx
      obtain ⟨text, htext, hcs⟩ := exists_isNumber_of_readNumber hread
      rw [hcs]
      exact (IsScalar.number htext).beginsValue _
    · exact absurd h failType_ne_ok
  · exact absurd h failType_ne_ok

theorem TakesValues.readOptional {read : Reader α} (hread : TakesValues read) :
    TakesValues (readOptional read) := by
  intro cs a rest h
  refine BeginsValue.of_skipSpace ?_
  rw [Json.readOptional] at h
  split at h
  · next heq =>
    obtain ⟨_, hword, ha⟩ := map_eq_ok_iff.1 h
    cases ha
    rw [heq, eq_append_of_readWord hword]
    exact IsScalar.null.beginsValue _
  · obtain ⟨_, hvalue, ha⟩ := map_eq_ok_iff.1 h
    cases ha
    exact hread hvalue

theorem takesValues_readList {item : Nat → Reader α} (hitem : ∀ levels, TakesValues (item levels))
    (levels : Nat) : TakesValues (readList item levels) := by
  intro cs as rest h
  refine BeginsValue.of_skipSpace ?_
  rw [readList] at h
  split at h
  · next heq =>
    rw [heq]
    cases levels with
    | zero => cases h
    | succ levels =>
      obtain ⟨_, hitems, has⟩ := map_eq_ok_iff.1 h
      cases has
      exact (within_readItems (hitem levels).pushItem hitems).beginsValue
  · exact absurd h failType_ne_ok

/-! ## Records -/

section Records

variable {type : RecordType σ} {record final : σ} {fields : List (Field σ)} {index : Nat}

theorem takesMembers_readMember
    (htype : ∀ field ∈ type.fields, ∀ record, TakesValues (field.read record))
    (state : List String × σ) (key : String) : TakesMembers (type.readMember state key) := by
  intro cs state' rest h
  rw [RecordType.readMember] at h
  split at h
  -- The value of an unknown name is passed over, and that of a field is read.
  · obtain ⟨cs₁, hcolon, h⟩ := bind_eq_ok_iff.1 h
    obtain ⟨_, hskip, hrest⟩ := bind_eq_ok_iff.1 h
    cases hrest
    exact ⟨cs₁, hcolon, beginsValue_of_skipValue hskip⟩
  · next field hfield =>
    obtain ⟨-, h⟩ := ite_error_eq_ok_iff.1 h
    obtain ⟨cs₁, hcolon, h⟩ := bind_eq_ok_iff.1 h
    obtain ⟨_, hread, hrest⟩ := bind_eq_ok_iff.1 h
    cases hrest
    exact ⟨cs₁, hcolon, htype field (type.mem_of_field? hfield) _ hread⟩

/-- A slot is filled from an item, and the others from those behind it. -/
theorem exists_of_readSlots_cons {field : Field σ}
    (h : type.readSlots index (field :: fields) record cs = .ok (final, rest)) :
    ∃ cs₁ record' cs₂, nextItem (index == 0) cs = .ok (.more cs₁) ∧
      field.read record cs₁ = .ok (record', cs₂) ∧
        type.readSlots (index + 1) fields record' cs₂ = .ok (final, rest) := by
  obtain ⟨next, hnext, h⟩ := bind_eq_ok_iff.1 h
  cases next with
  | done _ => cases h
  | more cs₁ =>
    obtain ⟨⟨record', cs₂⟩, hread, h⟩ := bind_eq_ok_iff.1 h
    exact ⟨cs₁, record', cs₂, hnext, hread, h⟩

/-- Behind a slot, the others are filled, and the array is closed. -/
theorem continues_readSlots
    (hfields : ∀ field ∈ fields, ∀ record, TakesValues (field.read record))
    (h : type.readSlots (index + 1) fields record cs = .ok (final, rest)) :
    Continues .list cs rest := by
  induction fields generalizing index record cs with
  | nil =>
    obtain ⟨-, hclose⟩ := readSlots_nil_eq_ok_iff.1 h
    obtain ⟨gap, hgap, hcs⟩ := exists_isGap_append_skipSpace cs
    rw [hcs, hclose]
    exact continues_closing .list hgap rest
  | cons field fields ih =>
    rw [List.forall_mem_cons] at hfields
    obtain ⟨cs₁, record', cs₂, hnext, hread, h⟩ := exists_of_readSlots_cons h
    exact continues_of_next_more hnext (hfields.1 record hread).beginsPart (ih hfields.2 h)

theorem within_readSlots
    (hfields : ∀ field ∈ fields, ∀ record, TakesValues (field.read record))
    (h : type.readSlots 0 fields record cs = .ok (final, rest)) : Within .list cs rest := by
  cases fields with
  | nil =>
    obtain ⟨-, hclose⟩ := readSlots_nil_eq_ok_iff.1 h
    obtain ⟨gap, hgap, hcs⟩ := exists_isGap_append_skipSpace cs
    rw [hcs, hclose]
    exact within_closing .list hgap rest
  | cons field fields =>
    rw [List.forall_mem_cons] at hfields
    obtain ⟨cs₁, record', cs₂, hnext, hread, h⟩ := exists_of_readSlots_cons h
    exact within_of_next_more hnext (hfields.1 record hread).beginsPart
      (continues_readSlots hfields.2 h)

end Records

section Front

variable {type : Nat → RecordType σ} {record : σ} {levels : Nat}

theorem takesValues_readRecord
    (htype : ∀ levels, ∀ field ∈ (type levels).fields, ∀ record, TakesValues (field.read record))
    (levels : Nat) : TakesValues (readRecord type levels) := by
  intro cs record rest h
  refine BeginsValue.of_skipSpace ?_
  rw [readRecord.eq_def] at h
  -- Brackets are refused if no level is left, and values without parts in any case.
  split at h
  · cases h
  · cases h
  · next heq =>
    rw [heq]
    exact (within_readSlots (htype _) h).beginsValue
  · next heq =>
    obtain ⟨_, hmembers, hrecord⟩ := map_eq_ok_iff.1 h
    cases hrecord
    rw [heq]
    exact (within_readMembers (takesMembers_readMember (htype _)) hmembers).beginsValue
  · exact absurd h failType_ne_ok

/-- What is read of a record is read of the text in front of the rest, and would be read of it
whatever the rest was. -/
theorem exists_front_of_readRecord (hregular : ∀ levels, (type levels).Regular)
    (htype : ∀ levels, ∀ field ∈ (type levels).fields, ∀ record, TakesValues (field.read record))
    (h : readRecord type levels cs = .ok (record, rest)) :
    ∃ front, cs = front ++ rest ∧
      ∀ rest', readRecord type levels (front ++ rest') = .ok (record, rest') := by
  obtain ⟨gap, text, hgap, htext, rfl⟩ := takesValues_readRecord htype levels h
  have hspace := (readsValues_readRecord hregular levels).skipSpace
  rw [← hspace, skipSpace_gap hgap, hspace] at h
  -- The value shows by itself where it ends, so what stands behind it is not looked at.
  refine ⟨gap ++ text, by simp, fun rest' => ?_⟩
  rw [List.append_assoc, ← hspace, skipSpace_gap hgap, hspace]
  exact (closes_readRecord hregular levels htext h).1 rest'

end Front

end PageLayout.Json
