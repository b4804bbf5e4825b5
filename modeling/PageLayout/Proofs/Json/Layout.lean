import PageLayout.Proofs.Json.Grammar
import PageLayout.Proofs.Json.Number
import PageLayout.Proofs.Json.Text

/-!
# Arrays and objects over several lines

In an array or an object that is written over several lines, the readers find every bracket, comma
and colon, and they read the parts one by one. What is made of a part is up to the reader of the
parts.

- `Reads`: a reader reads a text as a value, whatever comes after it.
- `readItems_prettyItems`: the items of an array.
- `readMembers_prettyMembers`: the members of an object, each read into the state that the ones
  before it lead to.
-/

namespace PageLayout.Json

variable {σ α : Type} {level : Nat} {cs rest gap : List Char}

/-- A reader reads a text as a value, whatever comes after it at the beginning of which no number
goes on. -/
def Reads (read : Reader α) (text : List Char) (a : α) : Prop :=
  ∀ ⦃rest⦄, EndsNumber rest → read (text ++ rest) = .ok (a, rest)

/-! ## Blanks -/

theorem skipSpace_cons {c : Char} (hc : isSpace c = false) (cs : List Char) :
    skipSpace (c :: cs) = c :: cs :=
  List.dropWhile_cons_of_neg (by simp [hc])

theorem isGap_nil : IsGap [] :=
  fun _ => nofun

theorem IsGap.append {gap' : List Char} (h : IsGap gap) (h' : IsGap gap') :
    IsGap (gap ++ gap') := by
  intro c hc
  exact (List.mem_append.1 hc).elim (h c) (h' c)

theorem skipSpace_gap (hgap : IsGap gap) (cs : List Char) : skipSpace (gap ++ cs) = skipSpace cs :=
  List.dropWhile_append_of_pos hgap

theorem isGap_newLine (level : Nat) : IsGap (Value.newLine level) := by
  intro c hc
  obtain rfl | hc := List.mem_cons.1 hc
  · rfl
  · rw [List.eq_of_mem_replicate hc]
    rfl

/-- A text that begins as that of a value: with no blank, comma or closing bracket. -/
def StartsValue (cs : List Char) : Prop :=
  ∃ c ∈ cs.head?, isSpace c = false ∧ c ≠ ']' ∧ c ≠ ','

theorem StartsValue.append (h : StartsValue cs) (rest : List Char) : StartsValue (cs ++ rest) := by
  obtain ⟨c, hc, hstart⟩ := h
  exact ⟨c, by simp [List.head?_append, Option.mem_def.1 hc], hstart⟩

theorem StartsValue.skipSpace_eq (h : StartsValue cs) : skipSpace cs = cs := by
  obtain ⟨c, hc, hspace, -⟩ := h
  cases cs with
  | nil => cases hc
  | cons _ cs => cases hc; exact skipSpace_cons hspace cs

namespace Value

theorem pretty_string (level : Nat) (s : String) : (Value.string s).pretty level = stringText s := by
  simp [pretty, atomText]

theorem pretty_number (level : Nat) (number : Number) :
    (Value.number number).pretty level = number.jsonText := by
  simp [pretty, atomText]

/-- Every value is written as a value begins. -/
theorem startsValue_pretty (level : Nat) (value : Value) : StartsValue (value.pretty level) := by
  cases value with
  | number number =>
    obtain ⟨c, cs, hcs⟩ := List.exists_cons_of_ne_nil (jsonText_ne_nil number)
    have hc : Decimal.isNumberChar c :=
      List.all_eq_true.1 (isNumberText_jsonText number) c (hcs ▸ List.mem_cons_self)
    rw [pretty_number, hcs]
    refine ⟨c, rfl, isSpace_of_isNumberChar hc, ?_, ?_⟩ <;> rintro rfl <;> cases hc
  | boolean b => cases b <;> exact ⟨_, rfl, by decide, by decide, by decide⟩
  | _ => exact ⟨_, rfl, by decide, by decide, by decide⟩

end Value

/-! ## Arrays -/

theorem nextItem_gap (first : Bool) (hgap : IsGap gap) (cs : List Char) :
    nextItem first (gap ++ cs) = nextItem first cs := by
  rw [nextItem, nextItem, skipSpace_gap hgap]

theorem nextItem_first (hgap : IsGap gap) (h : StartsValue cs) :
    nextItem true (gap ++ cs) = .ok (.more cs) := by
  rw [nextItem_gap true hgap, nextItem, h.skipSpace_eq]
  obtain ⟨c, hc, -, hclose, hcomma⟩ := h
  split
  · cases hc
  · cases hc; exact absurd rfl hclose
  · cases hc; exact absurd rfl hcomma
  · rfl

theorem nextItem_comma (hgap : IsGap gap) (h : StartsValue cs) :
    nextItem false (',' :: (gap ++ cs)) = .ok (.more cs) := by
  rw [nextItem, skipSpace_cons (by decide)]
  simp only [skipSpace_gap hgap, h.skipSpace_eq]
  obtain ⟨c, hc, -, hclose, -⟩ := h
  rw [if_neg (by decide)]
  split
  · cases hc
  · cases hc; exact absurd rfl hclose
  · rfl

theorem nextItem_close (first : Bool) (hgap : IsGap gap) (rest : List Char) :
    nextItem first (gap ++ ']' :: rest) = .ok (.done rest) := by
  rw [nextItem_gap first hgap]
  rfl

section Items

variable {item : σ → Reader σ} {bound cs' : List Char} {first : Bool} {state state' : σ} {c : Char}

theorem foldItems_done (hnext : nextItem first cs = .ok (.done rest)) :
    foldItems item (c :: bound) first state cs = .ok (state, rest) := by
  rw [foldItems, hnext]
  rfl

theorem foldItems_more (hnext : nextItem first cs = .ok (.more cs'))
    (hitem : item state cs' = .ok (state', rest)) :
    foldItems item (c :: bound) first state cs = foldItems item bound false state' rest := by
  rw [foldItems, hnext]
  simp only [bind, Except.bind, hitem]

end Items

namespace Value

/-- What follows an item of an array: the other items, each after a comma, and the end. -/
def itemsTail (level : Nat) : List Value → List Char
  | [] => newLine level ++ [']']
  | value :: values =>
    ',' :: (newLine (level + 1) ++ (value.pretty (level + 1) ++ itemsTail level values))

theorem prettyItems_cons (level : Nat) (value : Value) (values : List Value) :
    prettyItems level (value :: values) =
      newLine (level + 1) ++ (value.pretty (level + 1) ++ itemsTail level values) := by
  induction values generalizing value with
  | nil => simp [prettyItems, itemsTail]
  | cons next values ih =>
    rw [prettyItems, ih, itemsTail]
    · simp
    · simp

theorem endsNumber_itemsTail (level : Nat) (values : List Value) (rest : List Char) :
    EndsNumber (itemsTail level values ++ rest) := by
  cases values with
  | nil => exact endsNumber_cons (by decide) _
  | cons value values => exact endsNumber_cons (by decide) _

theorem length_lt_length_itemsTail (level : Nat) (values : List Value) :
    values.length < (itemsTail level values).length := by
  induction values with
  | nil => simp [itemsTail, newLine]
  | cons value values ih =>
    simp only [itemsTail, List.length_cons, List.length_append]
    omega

end Value

section Items

variable {item : Reader α} {values : List Value} {as : List α}

theorem Reads.pushItem {text : List Char} {a : α} (h : Reads item text a) (done : List α) :
    Reads (pushItem item done) text (a :: done) := by
  intro rest hrest
  rw [Json.pushItem, h hrest]
  rfl

/-- The items after another one are read in front of it. -/
theorem foldItems_itemsTail
    (h : List.Forall₂ (fun value a => Reads item (Value.pretty (level + 1) value) a) values as)
    {bound : List Char} (hbound : values.length < bound.length) (done : List α) (rest : List Char) :
    foldItems (pushItem item) bound false done (Value.itemsTail level values ++ rest) =
      .ok (as.reverse ++ done, rest) := by
  induction h generalizing bound done with
  | nil =>
    obtain ⟨c, bound, rfl⟩ := List.exists_cons_of_length_pos hbound
    rw [Value.itemsTail, List.append_assoc]
    exact foldItems_done (nextItem_close false (isGap_newLine level) rest)
  | @cons value a values as hread _ ih =>
    obtain ⟨c, bound, rfl⟩ := List.exists_cons_of_length_pos (Nat.zero_lt_of_lt hbound)
    rw [Value.itemsTail, List.cons_append, List.append_assoc, List.append_assoc,
      foldItems_more (nextItem_comma (isGap_newLine _) ((value.startsValue_pretty _).append _))
        (hread.pushItem done (Value.endsNumber_itemsTail level values rest)),
      ih (by simpa using hbound)]
    simp

/-- The items of an array read back, if each of them does. -/
theorem readItems_prettyItems
    (h : List.Forall₂ (fun value a => Reads item (Value.pretty (level + 1) value) a) values as)
    (rest : List Char) :
    readItems (pushItem item) [] (Value.prettyItems level values ++ rest) =
      .ok (as.reverse, rest) := by
  cases h with
  | nil => rfl
  | @cons value a values as hread h =>
    -- The text is longer than its items are many.
    have hbound : values.length < (List.replicate (2 * (level + 1)) ' ' ++
        (value.pretty (level + 1) ++ (Value.itemsTail level values ++ rest))).length := by
      have hlength := Value.length_lt_length_itemsTail level values
      simp only [List.length_append]
      omega
    rw [readItems, Value.prettyItems_cons, List.append_assoc, List.append_assoc]
    refine (foldItems_more
      (nextItem_first (isGap_newLine _) ((value.startsValue_pretty _).append _))
      (hread.pushItem [] (Value.endsNumber_itemsTail level values rest))).trans
      ((foldItems_itemsTail h hbound [a] rest).trans ?_)
    simp

end Items

/-! ## Objects -/

theorem nextMember_gap (first : Bool) (hgap : IsGap gap) (cs : List Char) :
    nextMember first (gap ++ cs) = nextMember first cs := by
  rw [nextMember, nextMember, skipSpace_gap hgap]

theorem nextMember_first (hgap : IsGap gap) (cs : List Char) :
    nextMember true (gap ++ '"' :: cs) = .ok (.more cs) := by
  rw [nextMember_gap true hgap]
  rfl

theorem nextMember_comma (hgap : IsGap gap) (cs : List Char) :
    nextMember false (',' :: (gap ++ '"' :: cs)) = .ok (.more cs) := by
  rw [nextMember, skipSpace_cons (by decide)]
  simp only [skipSpace_gap hgap]
  rfl

theorem nextMember_close (first : Bool) (hgap : IsGap gap) (rest : List Char) :
    nextMember first (gap ++ '\x7d' :: rest) = .ok (.done rest) := by
  rw [nextMember_gap first hgap]
  rfl

section Members

variable {member : σ → String → Reader σ} {bound cs' rest' : List Char} {first : Bool}
  {state state' : σ} {key : String} {c : Char}

theorem foldMembers_done (hnext : nextMember first cs = .ok (.done rest)) :
    foldMembers member (c :: bound) first state cs = .ok (state, rest) := by
  rw [foldMembers, hnext]
  rfl

theorem foldMembers_more (hnext : nextMember first cs = .ok (.more cs'))
    (hkey : readString cs' = .ok (key, rest))
    (hmember : member state key rest = .ok (state', rest')) :
    foldMembers member (c :: bound) first state cs =
      foldMembers member bound false state' rest' := by
  rw [foldMembers, hnext]
  simp only [bind, Except.bind, hkey, hmember]

end Members

namespace Value

/-- The text of a member of an object from after its key. -/
def valueText (level : Nat) (value : Value) : List Char :=
  ':' :: ' ' :: value.pretty level

/-- What follows a member of an object: the other members, each after a comma, and the end. -/
def membersTail (level : Nat) : List (String × Value) → List Char
  | [] => newLine level ++ ['\x7d']
  | (key, value) :: members =>
    ',' :: (newLine (level + 1) ++
      (stringText key ++ (value.valueText (level + 1) ++ membersTail level members)))

theorem prettyMembers_cons (level : Nat) (key : String) (value : Value)
    (members : List (String × Value)) :
    prettyMembers level ((key, value) :: members) =
      newLine (level + 1) ++
        (stringText key ++ (value.valueText (level + 1) ++ membersTail level members)) := by
  induction members generalizing key value with
  | nil => simp [prettyMembers, membersTail, valueText]
  | cons next members ih =>
    rw [prettyMembers, ih, membersTail]
    · simp [valueText]
    · simp

theorem endsNumber_membersTail (level : Nat) (members : List (String × Value)) (rest : List Char) :
    EndsNumber (membersTail level members ++ rest) := by
  cases members with
  | nil => exact endsNumber_cons (by decide) _
  | cons member members => exact endsNumber_cons (by decide) _

theorem length_lt_length_membersTail (level : Nat) (members : List (String × Value)) :
    members.length < (membersTail level members).length := by
  induction members with
  | nil => simp [membersTail, newLine]
  | cons member members ih =>
    simp only [membersTail, List.length_cons, List.length_append]
    omega

end Value

section Members

variable {member : σ → String → Reader σ}

/-- Members of an object lead from a state to another: each is read, from after its key, into the
state that those before it lead to. -/
inductive Leads (member : σ → String → Reader σ) (level : Nat) :
    σ → List (String × Value) → σ → Prop
  | nil (state : σ) : Leads member level state [] state
  | cons {state state' final : σ} {key : String} {value : Value} {members : List (String × Value)}
      (h : Reads (member state key) (value.valueText level) state')
      (hmembers : Leads member level state' members final) :
    Leads member level state ((key, value) :: members) final

/-- The members after another one are read into the state that they lead to. -/
theorem foldMembers_membersTail {state final : σ} {members : List (String × Value)}
    (h : Leads member (level + 1) state members final) {bound : List Char}
    (hbound : members.length < bound.length) (rest : List Char) :
    foldMembers member bound false state (Value.membersTail level members ++ rest) =
      .ok (final, rest) := by
  induction h generalizing bound with
  | nil =>
    obtain ⟨c, bound, rfl⟩ := List.exists_cons_of_length_pos hbound
    rw [Value.membersTail, List.append_assoc]
    exact foldMembers_done (nextMember_close false (isGap_newLine level) rest)
  | @cons _ _ _ key value members hread _ ih =>
    obtain ⟨c, bound, rfl⟩ := List.exists_cons_of_length_pos (Nat.zero_lt_of_lt hbound)
    rw [Value.membersTail, List.cons_append, List.append_assoc, List.append_assoc,
      List.append_assoc]
    obtain ⟨cs, hkey, hstring⟩ := readString_stringText key
      (value.valueText (level + 1) ++ (Value.membersTail level members ++ rest))
    rw [hkey, foldMembers_more (nextMember_comma (isGap_newLine _) cs) hstring
      (hread (Value.endsNumber_membersTail level members rest)), ih (by simpa using hbound)]

/-- The members of an object are read into the state that they lead to. -/
theorem readMembers_prettyMembers {start final : σ} {members : List (String × Value)}
    (h : Leads member (level + 1) start members final) (rest : List Char) :
    readMembers member start (Value.prettyMembers level members ++ rest) = .ok (final, rest) := by
  cases h with
  | nil => rfl
  | @cons _ state' _ key value members hread h =>
    -- The text is longer than its members are many.
    have hbound : members.length < (List.replicate (2 * (level + 1)) ' ' ++ (stringText key ++
        (value.valueText (level + 1) ++ (Value.membersTail level members ++ rest)))).length := by
      have hlength := Value.length_lt_length_membersTail level members
      simp only [List.length_append]
      omega
    obtain ⟨cs, hkey, hstring⟩ := readString_stringText key
      (value.valueText (level + 1) ++ (Value.membersTail level members ++ rest))
    rw [readMembers, Value.prettyMembers_cons, List.append_assoc, List.append_assoc,
      List.append_assoc]
    rw [hkey] at hbound ⊢
    exact (foldMembers_more (nextMember_first (isGap_newLine _) cs) hstring
      (hread (Value.endsNumber_membersTail level members rest))).trans
      (foldMembers_membersTail h hbound rest)

end Members

end PageLayout.Json
