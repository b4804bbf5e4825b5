import PageLayout.Proofs.Json.Keeping

/-!
# Parts of arrays and objects

The readers of arrays and objects go through the parts one after another, whatever blanks stand
between them. A reader that keeps to each part keeps to the whole, and what it reads of the whole is
what it reads of the parts in turn.

- `foldParts`: `foldItems` and `foldMembers` in one.
- `Reaches`: texts are read one after another, each into the state left by the one before.
- `foldParts_bodyText`: an array or an object is read part by part.
-/

namespace PageLayout.Json

variable {α σ : Type} {cs rest rest' gap trail raw : List Char} {bracket : Bracket} {part : Part}
  {parts : List Part}

/-! ## One fold for both brackets -/

/-- Looks for the next part of an array or an object. -/
def Bracket.next : Bracket → Bool → List Char → Except Failure Next
  | .list => nextItem
  | .object => nextMember

/-- Reads the parts of an array or an object up to its closing bracket, each into the state left by
the one before. -/
def foldParts (bracket : Bracket) (step : σ → Reader σ) : List Char → Bool → σ → Reader σ
  | [], _, _, _ => failPast bracket.eof 1 []
  | _ :: bound, first, state, cs => do
    match ← bracket.next first cs with
    | .done rest => return (state, rest)
    | .more rest =>
      let (state, rest) ← step state rest
      foldParts bracket step bound false state rest

/-- Reads a member of an object from behind the first quote of its key. -/
def readKeyed (member : σ → String → Reader σ) (state : σ) : Reader σ := fun cs => do
  let (key, rest) ← readString cs
  member state key rest

theorem foldItems_eq_foldParts (item : σ → Reader σ) (bound : List Char) (first : Bool) (state : σ)
    (cs : List Char) :
    foldItems item bound first state cs = foldParts .list item bound first state cs := by
  induction bound generalizing first state cs with
  | nil => rfl
  | cons c bound ih =>
    simp only [foldItems, foldParts, ih]
    rfl

theorem foldMembers_eq_foldParts (member : σ → String → Reader σ) (bound : List Char)
    (first : Bool) (state : σ) (cs : List Char) :
    foldMembers member bound first state cs =
      foldParts .object (readKeyed member) bound first state cs := by
  induction bound generalizing first state cs with
  | nil => rfl
  | cons c bound ih =>
    simp only [foldMembers, foldParts, ih, readKeyed, bind_assoc]
    rfl

/-! ## Finding the parts -/

/-- The text of a part from where it is read: an item as a whole, and a member from behind the first
quote of its key. -/
def Bracket.entry : Bracket → Part → List Char
  | .list, part => part.value
  | .object, part => (skipSpace part.lead).drop 1 ++ part.value

theorem entry_hasKey {before after value : List Char} (hbefore : IsGap before) :
    Bracket.entry .object ⟨before ++ '"' :: (raw ++ '"' :: (after ++ ':' :: gap)), value, trail⟩ =
      raw ++ '"' :: (after ++ ':' :: (gap ++ value)) := by
  rw [Bracket.entry, skipSpace_gap hbefore, skipSpace_cons (by decide)]
  simp

/-- Behind the opening bracket, the first part is found. -/
theorem next_first (h : bracket.Holds part) (cs : List Char) :
    bracket.next true (part.lead ++ (part.value ++ cs)) =
      .ok (.more (bracket.entry part ++ cs)) := by
  obtain ⟨hlead, hvalue, -⟩ := h
  cases bracket with
  | list => exact nextItem_first hlead (hvalue.startsValue.append cs)
  | object =>
    obtain ⟨raw, -, hkey⟩ := hlead
    cases hkey with
    | mk hbefore _ _ =>
      rw [entry_hasKey hbefore]
      simpa [Bracket.next] using nextMember_first hbefore _

/-- Behind a comma, the next part is found. -/
theorem next_comma (h : bracket.Holds part) (htrail : IsGap trail) (cs : List Char) :
    bracket.next false (trail ++ ',' :: (part.lead ++ (part.value ++ cs))) =
      .ok (.more (bracket.entry part ++ cs)) := by
  obtain ⟨hlead, hvalue, -⟩ := h
  cases bracket with
  | list =>
    exact (nextItem_gap false htrail _).trans
      (nextItem_comma hlead (hvalue.startsValue.append cs))
  | object =>
    obtain ⟨raw, -, hkey⟩ := hlead
    cases hkey with
    | mk hbefore _ _ =>
      rw [entry_hasKey hbefore]
      refine (nextMember_gap false htrail _).trans ?_
      simpa using nextMember_comma hbefore _

theorem next_closing (bracket : Bracket) (first : Bool) (hgap : IsGap gap) (rest : List Char) :
    bracket.next first (gap ++ bracket.closing :: rest) = .ok (.done rest) := by
  cases bracket with
  | list => exact nextItem_close first hgap rest
  | object => exact nextMember_close first hgap rest

/-! ## Reading the parts -/

/-- Texts are read one after another, each into the state left by the one before. -/
inductive Reaches (step : σ → Reader σ) : σ → List (List Char) → σ → Prop
  | nil (state : σ) : Reaches step state [] state
  | cons {state state' final : σ} {text : List Char} {texts : List (List Char)}
      (h : Reads (step state) text state') (htexts : Reaches step state' texts final) :
    Reaches step state (text :: texts) final

theorem reaches_nil_iff {step : σ → Reader σ} {state final : σ} :
    Reaches step state [] final ↔ final = state := by
  constructor
  · rintro ⟨⟩
    rfl
  · rintro rfl
    exact .nil _

theorem reaches_cons_iff {step : σ → Reader σ} {state final : σ} {text : List Char}
    {texts : List (List Char)} :
    Reaches step state (text :: texts) final ↔
      ∃ state', Reads (step state) text state' ∧ Reaches step state' texts final := by
  constructor
  · rintro (_ | ⟨h, htexts⟩)
    exact ⟨_, h, htexts⟩
  · rintro ⟨_, h, htexts⟩
    exact .cons h htexts

/-- Texts may be read in place of others of which the same is read. -/
theorem Reaches.of_forall₂ {step : σ → Reader σ} {state final : σ}
    {texts texts' : List (List Char)} (h : Reaches step state texts final)
    (htexts : List.Forall₂ (fun text text' => ∀ state state', Reads (step state) text state' →
      Reads (step state) text' state') texts texts') : Reaches step state texts' final := by
  induction htexts generalizing state with
  | nil => exact h
  | cons htext _ ih =>
    obtain ⟨state', hread, hreaches⟩ := reaches_cons_iff.1 h
    exact .cons (htext _ _ hread) (ih hreaches)

section Fold

variable {step : σ → Reader σ} {state final : σ}

theorem foldParts_done {first : Bool} {c : Char} {bound : List Char}
    (hnext : bracket.next first cs = .ok (.done rest)) :
    foldParts bracket step (c :: bound) first state cs = .ok (state, rest) := by
  rw [foldParts, hnext]
  rfl

/-- A part is read, and then the parts after it. -/
theorem foldParts_more_eq_ok_iff {first : Bool} {c : Char} {bound text : List Char}
    (hnext : bracket.next first cs = .ok (.more (text ++ rest)))
    (hkeeps : KeepsTo (step state) text) (hrest : EndsNumber rest) :
    foldParts bracket step (c :: bound) first state cs = .ok (final, rest') ↔
      ∃ state', Reads (step state) text state' ∧
        foldParts bracket step bound false state' rest = .ok (final, rest') := by
  rw [foldParts, hnext]
  change (step state (text ++ rest) >>= fun r => foldParts bracket step bound false r.1 r.2) = _ ↔ _
  rw [bind_eq_ok_iff]
  constructor
  · rintro ⟨⟨state', rest''⟩, hread, h⟩
    obtain ⟨hreads, rfl⟩ := hkeeps hrest hread
    exact ⟨state', hreads, h⟩
  · rintro ⟨state', hreads, h⟩
    exact ⟨(state', rest), hreads hrest, h⟩

theorem length_lt_length_tailText (bracket : Bracket) (gap : List Char) (parts : List Part) :
    parts.length < (tailText bracket gap parts).length := by
  induction parts with
  | nil => simp [tailText]
  | cons part parts ih =>
    simp only [tailText, List.length_cons, List.length_append]
    omega

/-- The parts after another one are read in turn. -/
theorem foldParts_tailText (hgap : IsGap gap) (hparts : ∀ part ∈ parts, bracket.Holds part)
    (hkeeps : ∀ part ∈ parts, ∀ state, KeepsTo (step state) (bracket.entry part))
    (htrail : IsGap trail) {bound : List Char} (hbound : parts.length < bound.length) :
    foldParts bracket step bound false state (trail ++ (tailText bracket gap parts ++ rest)) =
        .ok (final, rest') ↔
      Reaches step state (parts.map bracket.entry) final ∧ rest' = rest := by
  induction parts generalizing state trail bound with
  | nil =>
    -- Nothing but blanks stands before the closing bracket.
    obtain ⟨c, bound, rfl⟩ := List.exists_cons_of_length_pos hbound
    have hnext : bracket.next false (trail ++ (tailText bracket gap [] ++ rest)) =
        .ok (.done rest) := by
      simpa [tailText] using next_closing bracket false (htrail.append hgap) rest
    rw [foldParts_done hnext, List.map_nil, reaches_nil_iff]
    simp [eq_comm]
  | cons part parts ih =>
    obtain ⟨c, bound, rfl⟩ := List.exists_cons_of_length_pos (Nat.zero_lt_of_lt hbound)
    rw [List.forall_mem_cons] at hparts hkeeps
    have hnext := next_comma hparts.1 htrail (part.trail ++ (tailText bracket gap parts ++ rest))
    have htext : trail ++ (tailText bracket gap (part :: parts) ++ rest) =
        trail ++ ',' :: (part.lead ++ (part.value ++
          (part.trail ++ (tailText bracket gap parts ++ rest)))) := by
      simp [tailText]
    rw [htext, foldParts_more_eq_ok_iff hnext (hkeeps.1 state)
      (endsNumber_tailText bracket hparts.1.trail hgap parts rest), List.map_cons, reaches_cons_iff,
      ← exists_and_right]
    -- The parts after this one are read from the state that it leaves.
    refine exists_congr fun state' => ?_
    rw [ih hparts.2 hkeeps.2 hparts.1.trail (by simpa using hbound), and_assoc]

/-- The parts of an array or an object are read in turn. -/
theorem foldParts_bodyText (hgap : IsGap gap) (hparts : ∀ part ∈ parts, bracket.Holds part)
    (hkeeps : ∀ part ∈ parts, ∀ state, KeepsTo (step state) (bracket.entry part))
    {bound : List Char} (hbound : parts.length < bound.length) :
    foldParts bracket step bound true state (bodyText bracket gap parts ++ rest) =
        .ok (final, rest') ↔
      Reaches step state (parts.map bracket.entry) final ∧ rest' = rest := by
  obtain ⟨c, bound, rfl⟩ := List.exists_cons_of_length_pos (Nat.zero_lt_of_lt hbound)
  cases parts with
  | nil =>
    have hnext : bracket.next true (bodyText bracket gap [] ++ rest) = .ok (.done rest) := by
      simpa [bodyText] using next_closing bracket true hgap rest
    rw [foldParts_done hnext, List.map_nil, reaches_nil_iff]
    simp [eq_comm]
  | cons part parts =>
    rw [List.forall_mem_cons] at hparts hkeeps
    have hnext := next_first hparts.1 (part.trail ++ (tailText bracket gap parts ++ rest))
    have htext : bodyText bracket gap (part :: parts) ++ rest = part.lead ++ (part.value ++
        (part.trail ++ (tailText bracket gap parts ++ rest))) := by
      simp [bodyText]
    rw [htext, foldParts_more_eq_ok_iff hnext (hkeeps.1 state)
      (endsNumber_tailText bracket hparts.1.trail hgap parts rest), List.map_cons, reaches_cons_iff,
      ← exists_and_right]
    refine exists_congr fun state' => ?_
    rw [foldParts_tailText hgap hparts.2 hkeeps.2 hparts.1.trail (by simpa using hbound), and_assoc]

end Fold

/-- A text is longer than its parts are many, since no part is empty. -/
theorem length_lt_length_bodyText (gap rest : List Char)
    (hparts : ∀ part ∈ parts, bracket.Holds part) :
    parts.length < (bodyText bracket gap parts ++ rest).length := by
  cases parts with
  | nil => simp [bodyText]
  | cons part parts =>
    have hlength := length_lt_length_tailText bracket gap parts
    obtain ⟨c, hc, -⟩ := (hparts part List.mem_cons_self).value.startsValue
    have hvalue : 0 < part.value.length := by
      rw [List.length_pos_iff]
      intro heq
      rw [heq] at hc
      cases hc
    simp only [bodyText, List.length_cons, List.length_append]
    omega

/-- An array is read item by item. -/
theorem readItems_eq_ok_iff {item : σ → Reader σ} {start final : σ} (hgap : IsGap gap)
    (hparts : ∀ part ∈ parts, Bracket.list.Holds part)
    (hkeeps : ∀ part ∈ parts, ∀ state, KeepsTo (item state) part.value) :
    readItems item start (bodyText .list gap parts ++ rest) = .ok (final, rest') ↔
      Reaches item start (parts.map Part.value) final ∧ rest' = rest := by
  rw [readItems, foldItems_eq_foldParts]
  exact foldParts_bodyText hgap hparts hkeeps (length_lt_length_bodyText gap rest hparts)

/-- An object is read member by member. -/
theorem readMembers_eq_ok_iff {member : σ → String → Reader σ} {start final : σ} (hgap : IsGap gap)
    (hparts : ∀ part ∈ parts, Bracket.object.Holds part)
    (hkeeps : ∀ part ∈ parts, ∀ state,
      KeepsTo (readKeyed member state) (Bracket.entry .object part)) :
    readMembers member start (bodyText .object gap parts ++ rest) = .ok (final, rest') ↔
      Reaches (readKeyed member) start (parts.map (Bracket.entry .object)) final ∧
        rest' = rest := by
  rw [readMembers, foldMembers_eq_foldParts]
  exact foldParts_bodyText hgap hparts hkeeps (length_lt_length_bodyText gap rest hparts)

/-- A reader that gives at the front of longer texts what the text alone determines closes it. -/
theorem closes_of_eq_ok_iff {read : Reader α} {text : List Char} {p : α → Prop}
    (h : ∀ ⦃a rest rest'⦄, read (text ++ rest) = .ok (a, rest') ↔ p a ∧ rest' = rest) :
    Closes read text := by
  intro rest a rest' hread
  obtain ⟨ha, rfl⟩ := h.1 hread
  exact ⟨fun rest => h.2 ⟨ha, rfl⟩, rfl⟩

theorem reads_iff_of_eq_ok_iff {read : Reader α} {text : List Char} {p : Prop} {a : α}
    (h : ∀ ⦃rest rest'⦄, EndsNumber rest →
      (read (text ++ rest) = .ok (a, rest') ↔ p ∧ rest' = rest)) : Reads read text a ↔ p :=
  ⟨fun hread => ((h endsNumber_nil).1 (hread endsNumber_nil)).1,
    fun ha _ hrest => (h hrest).2 ⟨ha, rfl⟩⟩

end PageLayout.Json
