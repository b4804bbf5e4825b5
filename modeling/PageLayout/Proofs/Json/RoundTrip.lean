import PageLayout.Proofs.Json.Layout
import PageLayout.Proofs.Json.Yields

/-!
# Values read back

A value that a reader can give reads back from its text over several lines, if all doubles in it
read back: integers stay integers, doubles stay doubles, and the members of objects keep their
order.

- `Value.Holds`: the doubles in a value.
- `reads_pretty`: a value reads back.
- `reads_readRecord`: an object is read as a record if its members give the fields of the record.
-/

namespace PageLayout.Json

variable {σ : Type}

/-! ## Values without parts -/

/-- A text that begins with no bracket is read as a value without parts. -/
theorem readValue_cons {c : Char} (hspace : isSpace c = false) (hlist : c ≠ '[')
    (hobject : c ≠ '\x7b') (levels : Nat) (cs : List Char) :
    readValue levels (c :: cs) = readScalar (c :: cs) := by
  cases levels <;> rw [readValue, skipSpace_cons hspace] <;> split
  all_goals first
    | rfl
    | cases ‹c :: cs = _›; contradiction

/-- Blanks in front of a value do not matter. -/
theorem readValue_space (levels : Nat) (cs : List Char) :
    readValue levels (' ' :: cs) = readValue levels cs := by
  cases levels <;> rw [readValue, readValue] <;> rfl

/-- A number reads back as a value if it reads back as a number. -/
theorem reads_number {number : Number} (h : readNumber number.jsonText = .ok (number, []))
    (levels : Nat) : Reads (readValue levels) number.jsonText (.number number) := by
  intro rest hrest
  obtain ⟨c, cs, hcs, hstart⟩ := exists_cons_of_readNumber h
  have hchar : Decimal.isNumberChar c :=
    List.all_eq_true.1 (isNumberText_jsonText number) c (hcs ▸ List.mem_cons_self)
  have hread := readNumber_append h hrest
  rw [hcs, List.cons_append] at hread ⊢
  rw [readValue_cons (isSpace_of_isNumberChar hchar) (by rintro rfl; cases hchar)
    (by rintro rfl; cases hchar), readScalar.eq_def]
  split
  · cases ‹_ = []›
  · cases ‹c :: _ = _›; exact absurd hstart (by decide)
  · cases ‹c :: _ = _›; exact absurd hstart (by decide)
  · cases ‹c :: _ = _›; exact absurd hstart (by decide)
  · cases ‹c :: _ = _›; exact absurd hstart (by decide)
  · cases ‹c :: _ = _›
    rw [if_pos hstart, hread]
    rfl

/-! ## Objects -/

/-- Reads the value of a member of an object, from after its key, and gives it to the state. -/
def readMemberInto (insert : σ → String → Value → σ) (levels : Nat) (state : σ) (key : String) :
    Reader σ := fun cs => do
  let (value, rest) ← readValue levels (← readColon cs)
  return (insert state key value, rest)

theorem readColon_cons (cs : List Char) : readColon (':' :: cs) = .ok cs := by
  rw [readColon, skipSpace_cons (by decide)]
  rfl

/-- Members whose values read back lead to the state that is given all of them in turn. -/
theorem leads_readMemberInto {levels level : Nat} {members : List (String × Value)}
    (h : ∀ member ∈ members, Reads (readValue levels) (member.2.pretty level) member.2)
    (insert : σ → String → Value → σ) (state : σ) :
    Leads (readMemberInto insert levels) level state members
      (members.foldl (fun state member => insert state member.1 member.2) state) := by
  induction members generalizing state with
  | nil => exact .nil state
  | cons member members ih =>
    obtain ⟨hmember, hmembers⟩ := List.forall_mem_cons.1 h
    refine .cons (fun rest hrest => ?_) (ih hmembers _)
    have hvalue := hmember hrest
    rw [← readValue_space] at hvalue
    simp only [readMemberInto, Value.valueText, List.cons_append, readColon_cons, bind, Except.bind,
      hvalue]
    rfl

/-- A member with a key above all others comes last. -/
theorem Value.insertMember_of_lt {members : List (String × Value)} {key : String}
    (h : ∀ member ∈ members, member.1 < key) (value : Value) :
    insertMember key value members = members ++ [(key, value)] := by
  induction members with
  | nil => rfl
  | cons member members ih =>
    obtain ⟨hmember, hmembers⟩ := List.forall_mem_cons.1 h
    rw [insertMember, if_neg (not_lt_of_gt hmember), if_neg (ne_of_gt hmember), ih hmembers]
    rfl

/-- Members in ascending order make up an object in that order. -/
theorem Value.foldl_insertMember (done : List (String × Value)) {members : List (String × Value)}
    (h : (done ++ members).Pairwise fun a b => a.1 < b.1) :
    members.foldl (fun done member => insertMember member.1 member.2 done) done =
      done ++ members := by
  induction members generalizing done with
  | nil => simp
  | cons member members ih =>
    have hlast : ∀ a ∈ done, a.1 < member.1 := fun a ha =>
      (List.pairwise_append.1 h).2.2 a ha member List.mem_cons_self
    rw [List.foldl_cons, insertMember_of_lt hlast, ih _ (by simpa using h)]
    simp

/-! ## Values -/

/-- A double stands in a value: it is the value itself or stands in a part of it. -/
inductive Value.Holds (x : Float) : Value → Prop
  | real : Holds x (.number (.real x))
  | item {items : List Value} {item : Value} (hitem : item ∈ items) (h : Holds x item) :
    Holds x (.array items)
  | member {members : List (String × Value)} {member : String × Value} (hmember : member ∈ members)
      (h : Holds x member.2) : Holds x (.object members)

/-- A value that fits reads back if all doubles in it do. -/
theorem reads_pretty {levels : Nat} {value : Value} (h : value.Fits levels)
    (hreals : ∀ x, value.Holds x → ReadsBack x) (level : Nat) :
    Reads (readValue levels) (value.pretty level) value := by
  induction h generalizing level with
  | null levels =>
    intro rest _
    exact readValue_cons (by decide) (by decide) (by decide) levels _
  | boolean levels b =>
    intro rest _
    cases b <;> exact readValue_cons (by decide) (by decide) (by decide) levels _
  | @whole levels n h =>
    have hnumber : readNumber (Number.whole n).jsonText = .ok (.whole n, []) :=
      readNumber_intDigits h
    exact reads_number hnumber levels
  | real levels x => exact reads_number (hreals x .real).readNumber levels
  | string levels s =>
    intro rest _
    obtain ⟨cs, hcs, hstring⟩ := readString_stringText s rest
    rw [Value.pretty_string, hcs, readValue_cons (by decide) (by decide) (by decide), readScalar]
    simp [hstring, Except.map]
  | @array levels items h ih =>
    intro rest _
    have hitems : List.Forall₂ (fun item a => Reads (readValue levels) (item.pretty (level + 1)) a)
        items items :=
      List.forall₂_same.2 fun item hitem =>
        ih item hitem (fun x hx => hreals x (.item hitem hx)) (level + 1)
    rw [Value.pretty, List.cons_append, readValue, skipSpace_cons (by decide)]
    simp only [readItems_prettyItems hitems rest]
    simp [Except.map]
  | @object levels members hkeys h ih =>
    intro rest _
    have hmembers := leads_readMemberInto (fun member hmember =>
      ih member hmember (fun x hx => hreals x (.member hmember hx)) (level + 1))
      (fun members key value => Value.insertMember key value members) []
    rw [Value.foldl_insertMember [] hkeys] at hmembers
    rw [Value.pretty, List.cons_append, readValue, skipSpace_cons (by decide)]
    exact congrArg (Except.map fun r => (Value.object r.1, r.2))
      (readMembers_prettyMembers hmembers rest)

/-! ## Values of one kind -/

theorem reads_readText (s : String) (level : Nat) :
    Reads readText ((Value.string s).pretty level) s := by
  intro rest _
  obtain ⟨cs, hcs, hstring⟩ := readString_stringText s rest
  rw [Value.pretty_string, hcs, readText, skipSpace_cons (by decide)]
  exact hstring

theorem reads_readFloat {x : Float} (h : ReadsBack x) (level : Nat) :
    Reads readFloat ((Value.number (.real x)).pretty level) x := by
  intro rest hrest
  have hstart := ((Value.number (.real x)).startsValue_pretty level).append rest
  rw [readFloat_eq_ok_iff, hstart.skipSpace_eq, Value.pretty_number]
  exact ⟨.real x, readNumber_append h.readNumber hrest, rfl⟩

theorem reads_readList {α : Type} {item : Nat → Reader α} {levels level : Nat}
    {values : List Value} {as : List α}
    (h : List.Forall₂ (fun value a => Reads (item levels) (Value.pretty (level + 1) value) a)
      values as) : Reads (readList item (levels + 1)) ((Value.array values).pretty level) as := by
  intro rest _
  rw [Value.pretty, List.cons_append, readList, skipSpace_cons (by decide)]
  simp only [readItems_prettyItems h rest]
  simp [Except.map]

/-! ## Records -/

/-- Members of an object give the fields of a record, in the order in which these are declared. The
last ones may be missing. -/
inductive Gives (level : Nat) : σ → List (Field σ) → List (String × Value) → σ → Prop
  | nil (record : σ) (fields : List (Field σ)) : Gives level record fields [] record
  | cons {record record' final : σ} {field : Field σ} {fields : List (Field σ)} {value : Value}
      {members : List (String × Value)}
      (h : Reads (field.read record) (' ' :: value.pretty level) record')
      (hmembers : Gives level record' fields members final) :
    Gives level record (field :: fields) ((field.name, value) :: members) final

/-- A field is found by its name, which is that of no other field. -/
theorem find?_field {before : List (Field σ)} {field : Field σ}
    (hnew : field.name ∉ before.map Field.name) (fields : List (Field σ)) :
    ((before ++ field :: fields).find? fun other => other.name == field.name) = some field := by
  have hbefore : (before.find? fun other => other.name == field.name) = none := by
    rw [List.find?_eq_none]
    intro other hother heq
    exact hnew (List.mem_map.2 ⟨other, hother, by simpa using heq⟩)
  rw [List.find?_append, hbefore]
  simp

/-- A member is read as the field of its name, if that is not given before. -/
theorem reads_readMember {level : Nat} {type : RecordType σ} {field : Field σ}
    (hfind : (type.fields.find? fun other => other.name == field.name) = some field)
    {names : List String} (hnew : field.name ∉ names) {record record' : σ} {value : Value}
    (h : Reads (field.read record) (' ' :: value.pretty level) record') :
    Reads (type.readMember (names, record) field.name) (value.valueText level)
      (field.name :: names, record') := by
  intro rest hrest
  have hvalue := h hrest
  have hcontains : names.contains field.name = false := by
    simpa using hnew
  rw [List.cons_append] at hvalue
  rw [RecordType.readMember, hfind]
  simp only [hcontains, Bool.false_eq_true, if_false, Value.valueText, List.cons_append,
    readColon_cons, bind, Except.bind, hvalue]
  rfl

/-- Members that give the fields after some others lead to the record that they give. -/
theorem Gives.leads {level : Nat} {type : RecordType σ} {before fields : List (Field σ)}
    {record final : σ} {members : List (String × Value)}
    (h : Gives level record fields members final)
    (hnodup : (type.fields.map Field.name).Nodup) (hfields : type.fields = before ++ fields)
    {names : List String} (hnames : names ⊆ before.map Field.name) :
    ∃ names', Leads type.readMember level (names, record) members (names', final) := by
  induction h generalizing before names with
  | nil record fields => exact ⟨names, .nil _⟩
  | @cons record record' final field fields value members hread _ ih =>
    have hnew : field.name ∉ before.map Field.name := by
      rw [hfields, List.map_append, List.map_cons] at hnodup
      intro hmem
      exact (List.nodup_append.1 hnodup).2.2 _ hmem _ List.mem_cons_self rfl
    -- The field stands before those that the other members give.
    have hfields' : type.fields = (before ++ [field]) ++ fields := by
      simpa using hfields
    have hnames' : field.name :: names ⊆ (before ++ [field]).map Field.name := by
      rw [List.map_append]
      exact List.cons_subset.2 ⟨by simp, List.subset_append_of_subset_left _ hnames⟩
    obtain ⟨names', hleads⟩ := ih hfields' hnames'
    have hfind := hfields ▸ find?_field hnew fields
    exact ⟨names', .cons (reads_readMember hfind (fun hmem => hnew (hnames hmem)) hread) hleads⟩

/-- An object is read as the record whose fields its members give. -/
theorem reads_readRecord {type : Nat → RecordType σ} {levels level : Nat}
    {members : List (String × Value)} {record : σ}
    (hnodup : ((type levels).fields.map Field.name).Nodup)
    (h : Gives (level + 1) (type levels).blank (type levels).fields members record) :
    Reads (readRecord type (levels + 1)) ((Value.object members).pretty level) record := by
  intro rest _
  obtain ⟨names, hleads⟩ := h.leads hnodup (List.nil_append _).symm (List.nil_subset _)
  rw [Value.pretty, List.cons_append, readRecord.eq_def, skipSpace_cons (by decide)]
  simp only [readMembers_prettyMembers hleads rest]
  rfl

/-! ## Whole texts -/

/-- A whole text is read if a value is read at its front and nothing but blanks is left. -/
theorem readWhole_eq_ok_iff {α : Type} {read : Reader α} {source : String} {a : α} :
    readWhole read source = .ok a ↔
      ∃ rest, read source.toList = .ok (a, rest) ∧ skipSpace rest = [] := by
  simp only [readWhole, mapError_eq_ok_iff, bind_eq_ok_iff]
  constructor
  · rintro ⟨⟨value, rest⟩, hread, h⟩
    split at h
    · next hrest => cases h; exact ⟨rest, hread, hrest⟩
    · cases h
  · rintro ⟨rest, hread, hrest⟩
    refine ⟨(a, rest), hread, ?_⟩
    rw [hrest]
    rfl

end PageLayout.Json
