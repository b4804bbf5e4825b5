import PageLayout.Proofs.Json.Parts

/-!
# Readers of values

The readers of values, and those of values of one kind, keep to every value, however deep it nests,
and blanks in front of a value make no difference to them.

- `ReadsValues`: a reader of values.
- `readsValues_readValue`: values of any kind, by induction on the value.
- `readsValues_readText`, `readsValues_readFloat` and `readsValues_readList`: values of one kind.
- `reads_readList_of_forall₂`: items may be read in place of others.
-/

namespace PageLayout.Json

variable {α β σ : Type} {rest rest' gap raw : List Char} {bracket : Bracket} {part : Part}
  {parts : List Part}

/-! ## Values of any kind -/

/-- A reader of values: blanks in front of a value make no difference, and each value is kept to. -/
structure ReadsValues (read : Reader α) : Prop where
  skipSpace : ∀ cs, read (skipSpace cs) = read cs
  keepsTo : ∀ ⦃text⦄, IsValue text → KeepsTo read text

theorem KeepsTo.pushItem {item : Reader α} {text : List Char} (h : KeepsTo item text)
    (done : List α) : KeepsTo (pushItem item done) text :=
  h.map fun value => value :: done

theorem KeepsTo.readKeyed {member : σ → String → Reader σ} {state : σ} {text : List Char}
    (h : ∀ key, KeepsTo (member state key) text) (hraw : IsLiteral raw) :
    KeepsTo (readKeyed member state) (raw ++ '"' :: text) := by
  -- A key that spells no string is refused before its value is looked at.
  rcases readString_literal hraw with ⟨key, hkey⟩ | hrefused
  · refine (h key).congr fun rest _ => ?_
    rw [List.append_assoc, List.cons_append, Json.readKeyed, readString_spells hkey]
    rfl
  · refine keepsTo_of_ne_ok fun rest _ r hread => ?_
    rw [List.append_assoc, List.cons_append] at hread
    obtain ⟨r', hr', -⟩ := bind_eq_ok_iff.1 hread
    exact hrefused _ _ hr'

/-- The value behind a colon is what a reader of values finds there. -/
theorem readColon_bind {read : Reader α} (hspace : ∀ cs, read (skipSpace cs) = read cs)
    {after : List Char} (hafter : IsGap after) (hgap : IsGap gap) (f : α → β) (cs : List Char) :
    (do let (a, rest) ← read (← readColon (after ++ ':' :: (gap ++ cs))); return (f a, rest) :
      Except Failure (β × List Char)) = (read cs).map fun r => (f r.1, r.2) := by
  have hread : read (gap ++ cs) = read cs := by
    rw [← hspace, skipSpace_gap hgap, hspace]
  rw [readColon_gap hafter]
  show (read (gap ++ cs) >>= fun r => pure (f r.1, r.2)) = _
  rw [hread]
  cases read cs <;> rfl

theorem readValue_skipSpace (levels : Nat) (cs : List Char) :
    readValue levels (skipSpace cs) = readValue levels cs := by
  cases levels <;> rw [readValue, readValue, skipSpace_skipSpace]

theorem keepsTo_readMemberInto {insert : σ → String → Value → σ} {levels : Nat} {state : σ}
    (h : KeepsTo (readValue levels) part.value) (hlead : Bracket.object.Admits part) :
    KeepsTo (readKeyed (readMemberInto insert levels) state) (Bracket.entry .object part) := by
  obtain ⟨raw, hraw, hkey⟩ := hlead
  cases hkey with
  | mk hbefore hafter hgap =>
    rw [entry_hasKey hbefore]
    refine KeepsTo.readKeyed (fun key => ?_) hraw
    refine (h.map fun value => insert state key value).congr fun rest _ => ?_
    simp only [List.append_assoc, List.cons_append, readMemberInto]
    exact readColon_bind (readValue_skipSpace levels) hafter hgap _ _

theorem keepsTo_readValue {text : List Char} (h : IsValue text) (levels : Nat) :
    KeepsTo (readValue levels) text := by
  induction h generalizing levels with
  | @scalar text h =>
    refine (keepsTo_readScalar h).congr fun rest _ => ?_
    obtain ⟨c, cs, rfl, hspace, hc⟩ := h.exists_cons
    simp only [List.mem_cons, not_or] at hc
    exact readValue_cons hspace hc.1 hc.2.2.1 levels _
  | @within bracket gap parts hgap hlead htrail hvalue ih =>
    have hparts : ∀ part ∈ parts, bracket.Holds part := fun part hpart =>
      ⟨hlead part hpart, hvalue part hpart, htrail part hpart⟩
    -- Where no level is left, a bracket is refused at once; otherwise its parts see one level less.
    cases levels with
    | zero => cases bracket <;> exact keepsTo_of_ne_ok fun _ _ _ => failPast_ne_ok
    | succ levels =>
      cases bracket with
      | list =>
        have hitems : KeepsTo (readItems (pushItem (readValue levels)) [])
            (bodyText .list gap parts) :=
          (closes_of_eq_ok_iff fun _ _ _ => readItems_eq_ok_iff hgap hparts
            fun part hpart done => (ih part hpart levels).pushItem done).keepsTo
        exact (hitems.map fun items => Value.array items.reverse).congr fun _ _ => rfl
      | object =>
        have hmembers : KeepsTo (readMembers (readMemberInto (fun members key value =>
            Value.insertMember key value members) levels) []) (bodyText .object gap parts) :=
          (closes_of_eq_ok_iff fun _ _ _ => readMembers_eq_ok_iff hgap hparts fun part hpart _ =>
            keepsTo_readMemberInto (ih part hpart levels) (hlead part hpart)).keepsTo
        exact (hmembers.map Value.object).congr fun _ _ => rfl

theorem readsValues_readValue (levels : Nat) : ReadsValues (readValue levels) where
  skipSpace := readValue_skipSpace levels
  keepsTo := fun _ h => keepsTo_readValue h levels

/-! ## Values of one kind -/

namespace IsValue

variable {text : List Char}

theorem head?_append (h : IsValue text) (rest : List Char) :
    (text ++ rest).head? = text.head? := by
  obtain ⟨c, hc, -⟩ := h.startsValue
  obtain ⟨cs, rfl⟩ := List.head?_eq_some_iff.1 hc
  rfl

theorem skipSpace_append (h : IsValue text) (rest : List Char) :
    skipSpace (text ++ rest) = text ++ rest :=
  (h.startsValue.append rest).skipSpace_eq

/-- A value that begins with a bracket has parts. -/
theorem exists_parts (h : IsValue text) (bracket : Bracket)
    (hhead : text.head? = some bracket.opening) :
    ∃ gap parts, IsGap gap ∧ (∀ part ∈ parts, bracket.Holds part) ∧
      text = bracket.opening :: bodyText bracket gap parts := by
  cases h with
  | scalar hscalar =>
    obtain ⟨c, cs, rfl, -, hc⟩ := hscalar.exists_cons
    obtain rfl := Option.some.inj hhead
    cases bracket <;> exact absurd hc (by decide)
  | @within bracket' gap parts hgap hlead htrail hvalue =>
    obtain rfl : bracket' = bracket := by
      have hopening := Option.some.inj hhead
      cases bracket <;> cases bracket' <;> first | rfl | exact absurd hopening (by decide)
    exact ⟨gap, parts, hgap, fun part hpart =>
      ⟨hlead part hpart, hvalue part hpart, htrail part hpart⟩, rfl⟩

end IsValue

theorem readsValues_readText : ReadsValues readText where
  skipSpace := fun cs => by rw [readText, readText, skipSpace_skipSpace]
  keepsTo := by
    intro text h
    by_cases hhead : text.head? = some '"'
    · obtain ⟨raw, hraw, rfl⟩ := h.exists_literal hhead
      exact (keepsTo_readString hraw).congr fun _ _ => rfl
    · refine keepsTo_of_ne_ok fun rest _ r => ?_
      rw [← h.head?_append rest] at hhead
      rw [readText, h.skipSpace_append]
      split
      · next heq => exact absurd (congrArg List.head? heq) hhead
      · exact failType_ne_ok

theorem readsValues_readFloat : ReadsValues readFloat where
  skipSpace := fun cs => by rw [readFloat, readFloat, skipSpace_skipSpace]
  keepsTo := by
    intro text h
    obtain ⟨c, hc, -⟩ := h.startsValue
    obtain ⟨cs, rfl⟩ := List.head?_eq_some_iff.1 hc
    by_cases hstart : c = '-' ∨ c.isDigit
    · refine ((keepsTo_readNumber (h.isNumber hstart rfl)).map Number.toFloat).congr
        fun rest _ => ?_
      rw [readFloat, h.skipSpace_append]
      exact if_pos hstart
    · refine keepsTo_of_ne_ok fun rest _ r => ?_
      rw [readFloat, h.skipSpace_append]
      simp only [List.cons_append, if_neg hstart]
      exact failType_ne_ok

/-- A value that is not `null` is not read as absent. -/
theorem IsValue.readOptional_append {read : Reader α} {text : List Char} (h : IsValue text)
    (hnull : text.head? ≠ some 'n') (rest : List Char) :
    readOptional read (text ++ rest) = (read (text ++ rest)).map fun r => (some r.1, r.2) := by
  rw [← h.head?_append rest] at hnull
  rw [readOptional, h.skipSpace_append]
  split
  · next heq => exact absurd (congrArg List.head? heq) hnull
  · rfl

theorem ReadsValues.readOptional {read : Reader α} (hread : ReadsValues read) :
    ReadsValues (readOptional read) where
  skipSpace := fun cs => by rw [Json.readOptional, Json.readOptional, skipSpace_skipSpace]
  keepsTo := by
    intro text h
    by_cases hnull : text.head? = some 'n'
    · obtain rfl := h.eq_null hnull
      exact Reads.keepsTo (a := none) fun _ _ => rfl
    · exact ((hread.keepsTo h).map some).congr fun rest _ => h.readOptional_append hnull rest

section Lists

variable {item : Nat → Reader α} {text : List Char} {levels : Nat}

/-- An array is read as a list, item by item. -/
theorem readList_eq_ok_iff (hitem : ReadsValues (item levels)) (hgap : IsGap gap)
    (hparts : ∀ part ∈ parts, Bracket.list.Holds part) {as : List α} :
    readList item (levels + 1) ('[' :: bodyText .list gap parts ++ rest) = .ok (as, rest') ↔
      Reaches (pushItem (item levels)) [] (parts.map Part.value) as.reverse ∧ rest' = rest := by
  have hitems : ∀ {done}, readItems (pushItem (item levels)) [] (bodyText .list gap parts ++ rest) =
      .ok (done, rest') ↔
        Reaches (pushItem (item levels)) [] (parts.map Part.value) done ∧ rest' = rest :=
    readItems_eq_ok_iff hgap hparts fun part hpart done =>
      (hitem.keepsTo (hparts part hpart).value).pushItem done
  show Except.map _ (readItems (pushItem _) [] (bodyText .list gap parts ++ rest)) = _ ↔ _
  rw [map_eq_ok_iff, ← hitems]
  constructor
  · rintro ⟨⟨done, _⟩, hread, heq⟩
    cases heq
    rwa [List.reverse_reverse]
  · exact fun hread => ⟨_, hread, by simp⟩

theorem readsValues_readList (hitem : ∀ levels, ReadsValues (item levels)) (levels : Nat) :
    ReadsValues (readList item levels) where
  skipSpace := fun cs => by rw [readList, readList, skipSpace_skipSpace]
  keepsTo := by
    intro text h
    by_cases hhead : text.head? = some '['
    · obtain ⟨gap, parts, hgap, hparts, rfl⟩ := h.exists_parts .list hhead
      cases levels with
      | zero => exact keepsTo_of_ne_ok fun _ _ _ => failPast_ne_ok
      | succ levels =>
        exact (closes_of_eq_ok_iff fun _ _ _ =>
          readList_eq_ok_iff (hitem levels) hgap hparts).keepsTo
    · refine keepsTo_of_ne_ok fun rest _ r => ?_
      rw [← h.head?_append rest] at hhead
      rw [readList, h.skipSpace_append]
      split
      · next heq => exact absurd (congrArg List.head? heq) hhead
      · exact failType_ne_ok

theorem IsArray.isValue {items : List (List Char)} (h : IsArray items text) : IsValue text := by
  obtain ⟨gap, parts, hgap, hparts, -, rfl⟩ := h
  exact .within .list hgap (fun part hpart => (hparts part hpart).lead)
    (fun part hpart => (hparts part hpart).trail) fun part hpart => (hparts part hpart).value

theorem reads_pushItem_iff {item : Reader α} {done done' : List α} :
    Reads (pushItem item done) text done' ↔ ∃ a, done' = a :: done ∧ Reads item text a := by
  constructor
  · intro h
    obtain ⟨⟨a, _⟩, -, heq⟩ := map_eq_ok_iff.1 (h endsNumber_nil)
    obtain ⟨rfl, -⟩ := Prod.mk.inj heq
    refine ⟨a, rfl, fun rest hrest => ?_⟩
    -- The item read is the one in front of the others, whatever comes after it.
    obtain ⟨⟨a', rest'⟩, hread, heq⟩ := map_eq_ok_iff.1 (h hrest)
    cases heq
    exact hread
  · rintro ⟨a, rfl, h⟩
    exact h.pushItem done

/-- The items of an array may be read in place of others of which the same is read. -/
theorem reads_readList_of_forall₂ {items items' : List (List Char)} {text' : List Char}
    {as : List α} (hitem : ∀ levels, ReadsValues (item levels)) (h : IsArray items text)
    (h' : IsArray items' text')
    (hitems : List.Forall₂ (fun text text' => ∀ levels a, Reads (item levels) text a →
      Reads (item levels) text' a) items items')
    (hread : Reads (readList item levels) text as) : Reads (readList item levels) text' as := by
  obtain ⟨gap, parts, hgap, hparts, rfl, rfl⟩ := h
  obtain ⟨gap', parts', hgap', hparts', rfl, rfl⟩ := h'
  cases levels with
  | zero => exact absurd (hread endsNumber_nil) failPast_ne_ok
  | succ levels =>
    rw [reads_iff_of_eq_ok_iff fun _ _ _ => readList_eq_ok_iff (hitem levels) hgap hparts] at hread
    rw [reads_iff_of_eq_ok_iff fun _ _ _ => readList_eq_ok_iff (hitem levels) hgap' hparts']
    refine hread.of_forall₂ (hitems.imp fun text text' htext done done' hpush => ?_)
    obtain ⟨a, rfl, ha⟩ := reads_pushItem_iff.1 hpush
    exact (htext levels a ha).pushItem done

end Lists

end PageLayout.Json
